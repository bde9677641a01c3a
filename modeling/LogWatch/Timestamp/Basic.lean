import LogWatch.Text.Octets
import LogWatch.Time.Epoch

/-!
# Timestamps of log lines

A **line timestamp** is an instant together with the very octets that spell it in the line. The
parsers of the known forms are built from a few readers of fixed fields, each of which gives what
it read and the octets after it.
-/

namespace LogWatch

/-- An instant found in a log line. -/
structure LineTimestamp where
  /-- Seconds since 1970, or since boot in a kernel line. -/
  epoch : Float
  /-- The octets of the line that spell the instant. -/
  text : Bytes

namespace Field

/-- A number of exactly `width` digits. -/
def number? (width : Nat) (s : Bytes) : Option (Nat × Bytes) :=
  let ds := s.take width
  if ds.length = width && ds.all Octet.isDigit then some (Bytes.decimalValue ds, s.drop width)
  else none

/-- The octet `b`. -/
def octet? (b : UInt8) : Bytes → Option Bytes
  | [] => none
  | c :: s => if c == b then some s else none

/-- One of two octets. -/
def oneOf? (b c : UInt8) : Bytes → Option (UInt8 × Bytes)
  | [] => none
  | d :: s => if d == b || d == c then some (d, s) else none

/-- The names of the months, in their order. -/
def monthNames : List String :=
  ["Jan", "Feb", "Mar", "Apr", "May", "Jun", "Jul", "Aug", "Sep", "Oct", "Nov", "Dec"]

/-- The name of a month in three letters, as its number. -/
def month? (s : Bytes) : Option (Nat × Bytes) :=
  match monthNames.findIdx? (fun name => Bytes.ofString name == s.take 3) with
  | some i => some (i + 1, s.drop 3)
  | none => none

end Field

/-- A date with a time of day, as written. -/
structure Written where
  /-- The year. -/
  year : Int
  /-- The month, from 1. -/
  month : Nat
  /-- The day of the month, from 1. -/
  day : Nat
  /-- The hour. -/
  hour : Nat
  /-- The minute. -/
  minute : Nat
  /-- The second; 60 is a leap second. -/
  second : Nat

/-- The date exists and the time of day is in range. -/
def Written.isValid (w : Written) : Bool :=
  Civil.isDate w.year w.month w.day && w.hour ≤ 23 && w.minute ≤ 59 && w.second ≤ 60

/-- The seconds since 1970, when the date and the time exist. A leap second is the first second of
the next minute. -/
def Written.seconds? (w : Written) : Option Int :=
  if w.isValid then some (Civil.secondsOf w.year w.month w.day w.hour w.minute w.second) else none

end LogWatch
