import LogWatch.Number.Binary64

/-!
# Shortest decimal digits

Of all decimals that read back as a given binary64 value, **the shortest** has the fewest digits,
and among those the nearest to the value. Here it is found on exact numbers: for one digit, then
two, and so on, the two neighbours of the value on that decimal grid are tried against the interval
of numbers that round to it.

How such digits are laid out is a separate decision: `Layout.json` writes `1000.0` and `1e+16`,
`Layout.plain` writes every value positionally.
-/

namespace LogWatch

namespace Shortest

/-- A decimal: `digits * 10 ^ exponent`. -/
structure Decimal where
  /-- The digits, as a number. -/
  digits : Nat
  /-- The power of ten. -/
  exponent : Int
  deriving DecidableEq

/-- Compares `a * 10 ^ u` with `b * 2 ^ p`. -/
def compareScaled (a : Nat) (u : Int) (b : Nat) (p : Int) : Ordering :=
  compare (a * Nat.pow 10 u.toNat * Nat.pow 2 (-p).toNat)
    (b * Nat.pow 2 p.toNat * Nat.pow 10 (-u).toNat)

/-- The numbers that round to `m * 2 ^ q`, in quarters of the last place: from `low` to `high`, the
ends included for an even `m`. Below a power of two the neighbour is only half a place away. -/
structure Interval where
  /-- Four times the value, in last places. -/
  middle : Nat
  /-- The lower end. -/
  low : Nat
  /-- The upper end. -/
  high : Nat
  /-- The power of two of a quarter of the last place. -/
  power : Int
  /-- The ends round to the value too. -/
  closed : Bool

/-- The interval of the value `m * 2 ^ q`. -/
def Interval.of (m : Nat) (q : Int) : Interval where
  middle := 4 * m
  low := if m = Nat.pow 2 52 ∧ -1074 < q then 4 * m - 1 else 4 * m - 2
  high := 4 * m + 2
  power := q - 2
  closed := m % 2 = 0

/-- The decimal `c * 10 ^ u` lies in the interval. -/
def Interval.holds (i : Interval) (c : Nat) (u : Int) : Bool :=
  let lower := compareScaled c u i.low i.power
  let upper := compareScaled c u i.high i.power
  if i.closed then lower != .lt && upper != .gt else lower == .gt && upper == .lt

/-- The greatest `c` with `c * 10 ^ u` at most the value. -/
def Interval.floor (i : Interval) (u : Int) : Nat :=
  (i.middle * Nat.pow 2 i.power.toNat * Nat.pow 10 (-u).toNat)
    / (Nat.pow 10 u.toNat * Nat.pow 2 (-i.power).toNat)

/-- Of two neighbours on the grid of `10 ^ u`, the one nearer to the value; a tie goes to the even
one. -/
def Interval.nearer (i : Interval) (c : Nat) (u : Int) : Nat :=
  match compareScaled (2 * c + 1) u (2 * i.middle) i.power with
  | .gt => c
  | .lt => c + 1
  | .eq => if c % 2 = 0 then c else c + 1

/-- The decimal on the grid of `10 ^ u` that lies in the interval, if there is one. -/
def Interval.onGrid? (i : Interval) (u : Int) : Option Decimal :=
  let c := i.floor u
  match i.holds c u && 0 < c, i.holds (c + 1) u with
  | true, true => some ⟨i.nearer c u, u⟩
  | true, false => some ⟨c, u⟩
  | false, true => some ⟨c + 1, u⟩
  | false, false => none

/-- The first grid, of `fuel` many from `10 ^ u` downwards, that meets the interval. -/
def Interval.search (i : Interval) : Nat → Int → Decimal
  | 0, u => ⟨i.floor u, u⟩
  | fuel + 1, u =>
    match i.onGrid? u with
    | some d => d
    | none => i.search fuel (u - 1)

/-- The decimal without zeros at its end; one digit of a zero is kept. -/
def Decimal.trimZeros : Nat → Decimal → Decimal
  | 0, d => d
  | fuel + 1, d =>
    if d.digits % 10 = 0 ∧ d.digits ≠ 0 then trimZeros fuel ⟨d.digits / 10, d.exponent + 1⟩ else d

/-- The shortest decimal of the positive value `m * 2 ^ q`. -/
def decimalOf (m : Nat) (q : Int) : Decimal :=
  -- an upper bound on the decimal exponent of the leading digit
  let bits : Int := (Nat.log2 m : Int) + 1 + q
  let top : Int := bits * 30103 / 100000 + 1
  ((Interval.of m q).search 20 top).trimZeros 20

/-- The decimal digits of a number, first digit first. -/
def digitsOf (n : Nat) : List Char := Nat.toDigits 10 n

/-- How the digits of a value are laid out. -/
structure Layout where
  /-- Values whose leading digit stands at a power of ten below this are positional. -/
  positionalBelow : Int
  /-- Values whose leading digit stands at a power of ten of at least this are positional. -/
  positionalFrom : Int
  /-- An integral value in positional form ends in a point and a zero. -/
  pointZero : Bool
  /-- A positive exponent carries its sign. -/
  plusSign : Bool

/-- JSON numbers: positional from `0.00001` to below `1e+16`. -/
def Layout.json : Layout := ⟨16, -5, true, true⟩

/-- Every value positional, whole values without a point. -/
def Layout.plain : Layout := ⟨400, -400, false, false⟩

/-- Positional form of a decimal. -/
def Layout.positional (l : Layout) (d : Decimal) : List Char :=
  let ds := digitsOf d.digits
  if 0 ≤ d.exponent then
    ds ++ List.replicate d.exponent.toNat '0' ++ (if l.pointZero then ['.', '0'] else [])
  else
    let places := (-d.exponent).toNat
    if ds.length ≤ places then
      '0' :: '.' :: (List.replicate (places - ds.length) '0' ++ ds)
    else ds.take (ds.length - places) ++ '.' :: ds.drop (ds.length - places)

/-- Form with an exponent of a decimal whose leading digit stands at `10 ^ lead`. -/
def Layout.scientific (l : Layout) (d : Decimal) (lead : Int) : List Char :=
  let mantissa := match digitsOf d.digits with
    | first :: second :: rest => first :: '.' :: second :: rest
    | ds => ds
  let sign := if lead < 0 then ['-'] else if l.plusSign then ['+'] else []
  mantissa ++ 'e' :: (sign ++ digitsOf lead.natAbs)

/-- A decimal in this layout. -/
def Layout.write (l : Layout) (d : Decimal) : List Char :=
  let lead : Int := d.exponent + (digitsOf d.digits).length - 1
  if l.positionalFrom ≤ lead ∧ lead < l.positionalBelow then l.positional d
  else l.scientific d lead

/-- A finite value in this layout, with its sign. -/
def Layout.writeFinite (l : Layout) (x : Float) : List Char :=
  let (m, q) := Binary64.parts x
  let sign := if Binary64.isNegative x then ['-'] else []
  if m = 0 then sign ++ '0' :: (if l.pointZero then ['.', '0'] else [])
  else sign ++ l.write (decimalOf m q)

/-- A value in positional form, as measurements are exposed. -/
def plainText (x : Float) : String :=
  if x.isNaN then "NaN"
  else if x.isInf then (if Binary64.isNegative x then "-inf" else "inf")
  else String.ofList (Layout.plain.writeFinite x)

end Shortest

end LogWatch
