import LogWatch.Number.Binary64
import LogWatch.Text.Octets

/-!
# Plain decimals

A **plain decimal** has digits and at most one point, no sign and no exponent; a digit may be
missing on one side of the point but not on both. `Plain.read?` gives the nearest binary64 value.
`Plain.fixed` goes the other way: a value with a fixed number of places, rounded exactly, a tie
going to the even digit.
-/

namespace LogWatch

namespace Plain

/-- The digits of a plain decimal before and after the point. -/
def split? (text : Bytes) : Option (Bytes × Bytes) :=
  let (whole, rest) := text.span Octet.isDigit
  match rest with
  | [] => if whole.isEmpty then none else some (whole, [])
  | b :: fraction =>
    if b == 46 && fraction.all Octet.isDigit && !(whole.isEmpty && fraction.isEmpty) then
      some (whole, fraction)
    else none

/-- The value of a plain decimal. -/
def read? (text : Bytes) : Option Float :=
  (split? text).map fun (whole, fraction) =>
    Binary64.ofDecimal (Bytes.decimalValue (whole ++ fraction)) (-(fraction.length : Int))

/-- The digits of a number, with zeros in front up to a width. -/
def padded (width n : Nat) : List Char :=
  let ds := Nat.toDigits 10 n
  List.replicate (width - ds.length) '0' ++ ds

/-- A finite value with `places` digits after the point, for a positive number of places. -/
def fixed (places : Nat) (x : Float) : List Char :=
  let (m, q) := Binary64.parts x
  let scaled :=
    if 0 ≤ q then m * Nat.pow 2 q.toNat * Nat.pow 10 places
    else Binary64.roundDiv (m * Nat.pow 10 places) (Nat.pow 2 (-q).toNat)
  let ds := padded (places + 1) scaled
  let sign := if Binary64.isNegative x then ['-'] else []
  sign ++ ds.take (ds.length - places) ++ '.' :: ds.drop (ds.length - places)

end Plain

end LogWatch
