import LogWatch.Time.Civil
import Mathlib.Algebra.BigOperators.Group.List.Basic
import Mathlib.Tactic.IntervalCases

/-!
# Days counted one by one

`LogWatch.Civil.daysOf` numbers the days by one formula, in years that begin in March. What the
number of a day is can be said without it: a month has its days, a year has its months, and the days
before a date are those of the years, the months and the days before it. The formula counts just
these (`LogWatch.Civil.daysOf_eq`), from the first day of 1970 on.

A year has a leap day or has none, and so the years before a year have as many leap days as there
are multiples of 4 among them, but not of 100, unless of 400.
-/

namespace LogWatch

namespace Civil

/-- The days of a year in the months before a month. -/
def daysBeforeMonth (year month : Nat) : Nat :=
  ((List.range' 1 (month - 1)).map (daysInMonth year)).sum

/-- The days of a year. -/
def daysInYear (year : Nat) : Nat := daysBeforeMonth year 13

/-- The days of the years before a year, from the year 0 on. -/
def daysBeforeYear (year : Nat) : Nat := ((List.range year).map daysInYear).sum

/-- The days before a date, from the first day of the year 0 on. -/
def daysBefore (year month day : Nat) : Nat :=
  daysBeforeYear year + daysBeforeMonth year month + (day - 1)

/-- **The days from the first day of 1970 to a date**, those of the years, the months and the days
between them; negative before 1970. -/
def dayNumber (year month day : Nat) : Int := daysBefore year month day - daysBefore 1970 1 1

variable {year month day : Nat}

theorem isLeap_iff (year : Int) :
    isLeap year = true ↔ year % 4 = 0 ∧ (year % 100 ≠ 0 ∨ year % 400 = 0) := by
  simp only [isLeap, Bool.and_eq_true, Bool.or_eq_true, decide_eq_true_iff, bne_iff_ne]

theorem daysInYear_eq (year : Nat) : daysInYear year = if isLeap year then 366 else 365 := by
  cases hleap : isLeap year <;>
    simp [daysInYear, daysBeforeMonth, daysInMonth, hleap, List.range'_succ]

/-- There have been as many leap days as the rule says. -/
theorem daysBeforeYear_eq (year : Nat) :
    daysBeforeYear year = 365 * year + (year + 3) / 4 - (year + 99) / 100 + (year + 399) / 400 := by
  induction year with
  | zero => rfl
  | succ year ih =>
    have hyear : daysBeforeYear (year + 1) = daysBeforeYear year + daysInYear year := by
      rw [daysBeforeYear, List.range_succ, List.map_append, List.sum_append, daysBeforeYear]
      simp
    -- a multiple of 4, of 100 or of 400 is counted when it has passed
    have h4 : (year + 1 + 3) / 4 = (year + 3) / 4 + if year % 4 = 0 then 1 else 0 := by
      split <;> omega
    have h100 : (year + 1 + 99) / 100 = (year + 99) / 100 + if year % 100 = 0 then 1 else 0 := by
      split <;> omega
    have h400 : (year + 1 + 399) / 400 = (year + 399) / 400 + if year % 400 = 0 then 1 else 0 := by
      split <;> omega
    rw [hyear, ih, daysInYear_eq, h4, h100, h400]
    simp only [isLeap_iff]
    split_ifs <;> omega

/-- The days before a month, as they are counted from March. -/
theorem daysBeforeMonth_eq (year : Nat) (hmonth : 1 ≤ month) (hmonth' : month ≤ 12) :
    (daysBeforeMonth year month : Int) =
      (153 * (((month : Int) + 9) % 12) + 2) / 5 + (if month ≤ 2 then -306 else 59) +
        (if 2 < month ∧ isLeap year then 1 else 0) := by
  cases hleap : isLeap year <;> interval_cases month <;>
    simp [daysBeforeMonth, daysInMonth, hleap, List.range'_succ]

/-- **The formula counts the days.** -/
theorem daysOf_eq (hmonth : 1 ≤ month) (hmonth' : month ≤ 12) (hday : 1 ≤ day) :
    daysOf year month day = dayNumber year month day := by
  have hepoch : daysBefore 1970 1 1 = 719528 := by
    rw [daysBefore, daysBeforeYear_eq]
    rfl
  have hmonths := daysBeforeMonth_eq year hmonth hmonth'
  have hyears := daysBeforeYear_eq year
  rw [dayNumber, hepoch, daysBefore, daysOf]
  have hleap := isLeap_iff year
  split
  · next h =>
    rw [if_pos h, if_neg (by omega)] at hmonths
    omega
  · next h =>
    rw [if_neg h] at hmonths
    split at hmonths
    · next h' =>
      rw [hleap] at h'
      omega
    · next h' =>
      rw [hleap] at h'
      omega

end Civil

end LogWatch
