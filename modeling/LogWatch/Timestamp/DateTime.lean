import LogWatch.Text.Blank
import LogWatch.Timestamp.Basic

/-!
# Date-times in fields

A field of a structured line may give its time as a text. Two forms are known: the **zoned** form of
RFC 3339, with fields of fixed width and an offset, and the **plain** form, taken as UTC, which
allows blanks before its numbers, short numbers, and a sign before the year. Both allow a fraction
of a second; its digits beyond the ninth do not count.

A second 60 is the second 59 and a further 1000000000 nanoseconds.
-/

namespace LogWatch

namespace DateTime

/-- A date and time as written, with a fraction. -/
structure Fields where
  /-- The fields. -/
  written : Written
  /-- The fraction, in nanoseconds. -/
  nanos : Nat

/-- The first and last year that a date may have. -/
def yearRange : Int × Int := (-262143, 262142)

/-- The seconds since 1970 of a date and time at an offset in seconds, if there is such a date and
time. -/
def Fields.epoch? (f : Fields) (offset : Int) : Option Float :=
  let w := f.written
  if w.isValid && decide (yearRange.1 ≤ w.year) && decide (w.year ≤ yearRange.2) then
    let leap := w.second / 60
    let seconds := Civil.secondsOf w.year w.month w.day w.hour w.minute (w.second - leap)
    some (Epoch.ofParts (seconds - offset) (f.nanos + leap * 1000000000))
  else none

/-- The value of a run of digits. -/
def valueOf (ds : List Char) : Nat := ds.foldl (fun n c => n * 10 + (c.toNat - 48)) 0

/-- A number of at most `width` digits and at least one. -/
def digits? (width : Nat) (cs : List Char) : Option (Nat × List Char) :=
  let ds := (cs.take width).takeWhile Char.isDigit
  if ds.isEmpty then none else some (valueOf ds, cs.drop ds.length)

/-- A number of exactly `width` digits. -/
def exactly? (width : Nat) (cs : List Char) : Option (Nat × List Char) :=
  let ds := cs.take width
  if ds.length = width && ds.all Char.isDigit then some (valueOf ds, cs.drop width) else none

/-- The character `c`. -/
def char? (c : Char) : List Char → Option (List Char)
  | [] => none
  | d :: cs => if c = d then some cs else none

/-- The nanoseconds of a fraction, zero if there is none. -/
def fraction? (cs : List Char) : Option (Nat × List Char) :=
  match cs with
  | '.' :: cs => do
    let (n, _) ← digits? 9 cs
    let places := ((cs.take 9).takeWhile Char.isDigit).length
    return (n * Nat.pow 10 (9 - places), cs.dropWhile Char.isDigit)
  | cs => some (0, cs)

/-! ### The zoned form -/

/-- The sign of an offset: one stands for east. A minus may be a hyphen or U+2212. -/
def sign? : List Char → Option (Int × List Char)
  | '+' :: cs => some (1, cs)
  | '-' :: cs => some (-1, cs)
  | '\u2212' :: cs => some (-1, cs)
  | _ => none

/-- The offset in seconds. -/
def offset? (cs : List Char) : Option (Int × List Char) :=
  match cs with
  | 'Z' :: cs => some (0, cs)
  | 'z' :: cs => some (0, cs)
  | cs => do
    let (sign, cs) ← sign? cs
    let (hours, cs) ← exactly? 2 cs
    let cs ← char? ':' cs
    let (minutes, cs) ← exactly? 2 cs
    if hours ≤ 23 ∧ minutes ≤ 59 then return (sign * ((hours * 60 + minutes) * 60 : Nat), cs)
    else none

/-- The mark between date and time. -/
def separator? : List Char → Option (List Char)
  | 'T' :: cs => some cs
  | 't' :: cs => some cs
  | ' ' :: cs => some cs
  | _ => none

/-- The zoned form. -/
def zoned? (cs : List Char) : Option Float := do
  let (year, cs) ← exactly? 4 cs
  let (month, cs) ← exactly? 2 (← char? '-' cs)
  let (day, cs) ← exactly? 2 (← char? '-' cs)
  let (hour, cs) ← exactly? 2 (← separator? cs)
  let (minute, cs) ← exactly? 2 (← char? ':' cs)
  let (second, cs) ← exactly? 2 (← char? ':' cs)
  let (nanos, cs) ← fraction? cs
  let (offset, cs) ← offset? cs
  if cs.isEmpty then Fields.epoch? ⟨⟨year, month, day, hour, minute, second⟩, nanos⟩ offset
  else none

/-! ### The plain form -/

/-- A number of at most `width` digits after blanks. -/
def spaced? (width : Nat) (cs : List Char) : Option (Nat × List Char) :=
  digits? width (cs.dropWhile Blank.isBlank)

/-- A year after blanks: at most four digits, or any number of them after a sign. -/
def year? (cs : List Char) : Option (Int × List Char) :=
  match cs.dropWhile Blank.isBlank with
  | '-' :: cs => (digits? cs.length cs).map fun (n, rest) => (-(n : Int), rest)
  | '+' :: cs => (digits? cs.length cs).map fun (n, rest) => ((n : Int), rest)
  | cs => (digits? 4 cs).map fun (n, rest) => ((n : Int), rest)

/-- The plain form, in which `between` passes over what stands between date and time. -/
def plain? (between : List Char → Option (List Char)) (cs : List Char) : Option Float := do
  let (year, cs) ← year? cs
  let (month, cs) ← spaced? 2 (← char? '-' cs)
  let (day, cs) ← spaced? 2 (← char? '-' cs)
  let (hour, cs) ← spaced? 2 (← between cs)
  let (minute, cs) ← spaced? 2 (← char? ':' cs)
  let (second, cs) ← spaced? 2 (← char? ':' cs)
  let (nanos, cs) ← fraction? cs
  if cs.isEmpty then Fields.epoch? ⟨⟨year, month, day, hour, minute, second⟩, nanos⟩ 0 else none

/-- The seconds since 1970 that a text gives. -/
def epoch? (text : String) : Option Float :=
  let cs := text.toList
  match zoned? cs with
  | some x => some x
  | none =>
    match plain? (fun cs => some (cs.dropWhile Blank.isBlank)) cs with
    | some x => some x
    | none => plain? (char? 'T') cs

end DateTime

end LogWatch
