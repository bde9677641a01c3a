/-!
# The civil calendar

Dates of the proleptic Gregorian calendar and the count of days from 1970-01-01. A year is counted
from March, so that the leap day is its last day and the month lengths repeat every five months.
-/

namespace LogWatch

namespace Civil

/-- The year has a 29 February. -/
def isLeap (year : Int) : Bool := year % 4 = 0 && (year % 100 != 0 || year % 400 = 0)

/-- The number of days in a month, for a month from 1 to 12. -/
def daysInMonth (year : Int) (month : Nat) : Nat :=
  if month = 2 then (if isLeap year then 29 else 28)
  else if month = 4 ∨ month = 6 ∨ month = 9 ∨ month = 11 then 30
  else 31

/-- There is such a date. -/
def isDate (year : Int) (month day : Nat) : Bool :=
  1 ≤ month && month ≤ 12 && 1 ≤ day && day ≤ daysInMonth year month

/-- The days from 1970-01-01 to a date. -/
def daysOf (year : Int) (month day : Nat) : Int :=
  let y : Int := if month ≤ 2 then year - 1 else year
  let m : Int := (month + 9) % 12
  365 * y + y / 4 - y / 100 + y / 400 + (153 * m + 2) / 5 + day - 719469

/-- The year in which the day so many days after 1970-01-01 lies. -/
def yearOf (days : Int) : Int :=
  -- days since 1 March of the year 0
  let z := days + 719468
  let era := z / 146097
  let dayOfEra := z % 146097
  let yearOfEra :=
    (dayOfEra - dayOfEra / 1460 + dayOfEra / 36524 - dayOfEra / 146096) / 365
  let dayOfYear := dayOfEra - (365 * yearOfEra + yearOfEra / 4 - yearOfEra / 100)
  let year := yearOfEra + era * 400
  -- the days from January to the end of February belong to the next year
  if 306 ≤ dayOfYear then year + 1 else year

/-- The seconds from the start of 1970-01-01 to a time of day on a date. -/
def secondsOf (year : Int) (month day hour minute second : Nat) : Int :=
  daysOf year month day * 86400 + hour * 3600 + minute * 60 + second

end Civil

/-- A reading of the wall clock: seconds from the start of 1970-01-01 UTC, and nanoseconds. -/
structure WallTime where
  /-- Whole seconds. -/
  seconds : Int
  /-- Nanoseconds beyond them, below one second. -/
  nanos : Nat
  deriving DecidableEq

/-- The year in UTC. -/
def WallTime.year (t : WallTime) : Int := Civil.yearOf (t.seconds / 86400)

end LogWatch
