import LogWatch.Number.Binary64
import LogWatch.Toml.Value

/-!
# Numbers, dates and times in TOML

An unquoted value is a word: a truth value, a number, or a date or time. Digits may be grouped by
single underscores between them; an integer has at most 128 bits. Dates and times are checked to
exist, to the second 60.
-/

namespace LogWatch

namespace Toml

/-- The digits without the underscores between them; there is at least one digit, and an underscore
has a digit on both sides. -/
def ungrouped? (isDigit : Char → Bool) : List Char → Option (List Char)
  | [] => none
  | [c] => if isDigit c then some [c] else none
  | c :: '_' :: cs => if isDigit c then (ungrouped? isDigit cs).map (c :: ·) else none
  | c :: cs => if isDigit c then (ungrouped? isDigit cs).map (c :: ·) else none

/-- The value of a digit in any base up to sixteen. -/
def digitValue (c : Char) : Nat :=
  if c.isDigit then c.toNat - 48 else if 'a' ≤ c then c.toNat - 87 else c.toNat - 55

/-- The value of digits in a base. -/
def valueIn (base : Nat) (ds : List Char) : Nat :=
  ds.foldl (fun n c => n * base + digitValue c) 0

/-- The character is a hexadecimal digit. -/
def isHex (c : Char) : Bool := c.isDigit || ('a' ≤ c && c ≤ 'f') || ('A' ≤ c && c ≤ 'F')

/-- The digits of a decimal number, which has no zero in front of other digits. -/
def decimal? (cs : List Char) : Option (List Char) := do
  let ds ← ungrouped? Char.isDigit cs
  match ds with
  | '0' :: _ :: _ => none
  | ds => return ds

/-- The sign of a number, and what follows it. -/
def sign (cs : List Char) : Bool × List Char :=
  match cs with
  | '-' :: cs => (true, cs)
  | '+' :: cs => (false, cs)
  | cs => (false, cs)

/-- An integer. -/
def integer? (cs : List Char) : Option Int :=
  match cs with
  | '0' :: 'x' :: ds => (ungrouped? isHex ds).map fun ds => valueIn 16 ds
  | '0' :: 'o' :: ds => (ungrouped? (fun c => '0' ≤ c && c ≤ '7') ds).map fun ds => valueIn 8 ds
  | '0' :: 'b' :: ds => (ungrouped? (fun c => c == '0' || c == '1') ds).map fun ds => valueIn 2 ds
  | cs =>
    let (negative, ds) := sign cs
    (decimal? ds).map fun ds =>
      if negative then -(valueIn 10 ds : Int) else valueIn 10 ds

/-- The exponent of a number with a fraction or an exponent. -/
def exponent? (cs : List Char) : Option Int :=
  let (negative, ds) := sign cs
  (ungrouped? Char.isDigit ds).map fun ds =>
    if negative then -(valueIn 10 ds : Int) else valueIn 10 ds

/-- A number with a fraction or an exponent, without its sign; it must not be too great. -/
def magnitude? (cs : List Char) : Option Float := do
  let (front, power) := cs.span fun c => c != 'e' && c != 'E'
  let (whole, fraction) := front.span (· != '.')
  if fraction.isEmpty && power.isEmpty then none
  let whole ← decimal? whole
  let places ← if fraction.isEmpty then some [] else ungrouped? Char.isDigit (fraction.drop 1)
  let exponent ← if power.isEmpty then some 0 else exponent? (power.drop 1)
  -- beyond these exponents every value is zero or infinite
  let shift := max (-5000) (min 5000 exponent)
  let x := Binary64.ofDecimal (valueIn 10 (whole ++ places)) (shift - places.length)
  if x.isInf then none else return x

/-- A number that is not an integer. -/
def float? (cs : List Char) : Option Float := do
  let (negative, cs) := sign cs
  let x ←
    if cs == "inf".toList then some (1.0 / 0.0)
    else if cs == "nan".toList then some (0.0 / 0.0)
    else magnitude? cs
  return if negative then -x else x

/-! ### Dates and times -/

/-- A number of exactly so many digits. -/
def digits? (width : Nat) (cs : List Char) : Option (Nat × List Char) :=
  let ds := cs.take width
  if ds.length = width && ds.all Char.isDigit then some (valueIn 10 ds, cs.drop width) else none

/-- The days in a month. -/
def daysIn (year month : Nat) : Nat :=
  if month = 2 then (if year % 4 = 0 && (year % 100 != 0 || year % 400 = 0) then 29 else 28)
  else if month = 4 ∨ month = 6 ∨ month = 9 ∨ month = 11 then 30
  else 31

/-- What is left after a date at the front. -/
def afterDate? (cs : List Char) : Option (List Char) := do
  let (year, '-' :: cs) ← digits? 4 cs | none
  let (month, '-' :: cs) ← digits? 2 cs | none
  let (day, cs) ← digits? 2 cs
  if 1 ≤ month ∧ month ≤ 12 ∧ 1 ≤ day ∧ day ≤ daysIn year month then return cs else none

/-- What is left after a fraction of a second, if there is one. -/
def afterFraction? (cs : List Char) : Option (List Char) :=
  match cs with
  | '.' :: c :: cs => if c.isDigit then some (cs.dropWhile Char.isDigit) else none
  | ['.'] => none
  | cs => some cs

/-- What is left after a time of day at the front; the second may be missing. -/
def afterTime? (cs : List Char) : Option (List Char) := do
  let (hour, ':' :: cs) ← digits? 2 cs | none
  let (minute, cs) ← digits? 2 cs
  if hour ≤ 23 ∧ minute ≤ 59 then
    match cs with
    | ':' :: cs =>
      let (second, cs) ← digits? 2 cs
      if second ≤ 60 then afterFraction? cs else none
    | cs => return cs
  else none

/-- What is left after an offset, if there is one. -/
def afterOffset? (cs : List Char) : Option (List Char) := do
  match cs with
  | [] => return []
  | c :: cs =>
    if c == 'Z' || c == 'z' then return cs
    else if c == '+' || c == '-' then
      let (hour, ':' :: cs) ← digits? 2 cs | none
      let (minute, cs) ← digits? 2 cs
      if hour ≤ 23 ∧ minute ≤ 59 then return cs else none
    else none

/-- The word is a date, a time, or a date with a time and perhaps an offset. -/
def isDate (cs : List Char) : Bool :=
  match afterDate? cs with
  | none => afterTime? cs == some []
  | some [] => true
  | some (c :: cs) =>
    (c == 'T' || c == 't' || c == ' ') && ((afterTime? cs).bind afterOffset?) == some []

/-- The value of an unquoted word. -/
def word? (cs : List Char) : Option Toml :=
  if cs == "true".toList then some (.bool true)
  else if cs == "false".toList then some (.bool false)
  else if isDate cs then some .date
  else
    match integer? cs with
    | some n =>
      if -(Nat.pow 2 127 : Int) ≤ n ∧ n < (Nat.pow 2 128 : Int) then some (.int n) else none
    | none => (float? cs).map .float

end Toml

end LogWatch
