import LogWatch.Proofs.Time.Civil

/-!
# The date of a day

The days are numbered, and each of them has a date (`LogWatch.Civil.daysOf_dateOf`). In a year that
is counted from March the leap day is the last one, so that the month and the day of the month are
told from the number of the day in that year, whatever year it is.

What is to be shown is that such a year has been found right. Four hundred years are four centuries,
each of 25 times four years and with a leap day less than these have, but for the last; so a day of
them is so many centuries, so many times four years, so many years and so many days after the first
(`LogWatch.Civil.exists_cycles`), and the year is counted out of these.

The years of two days follow the days (`LogWatch.Civil.yearOf_mono`), and days that are no more than
a year apart lie in the same year or in two that follow each other
(`LogWatch.Civil.yearOf_le_add_one`).
-/

namespace LogWatch

namespace Civil

/-! ### Years from March -/

/-- The days before 1 March of a year, from 1 March of the year 0 on. -/
def marchStart (year : Int) : Int := 365 * year + year / 4 - year / 100 + year / 400

/-- The year from March in which a day lies. -/
def marchYear (days : Int) : Int :=
  let dayOfEra := (days + 719468) % 146097
  (dayOfEra - dayOfEra / 1460 + dayOfEra / 36524 - dayOfEra / 146096) / 365 +
    (days + 719468) / 146097 * 400

/-- The days from 1 March of that year to a day. -/
def dayOfMarchYear (days : Int) : Int := days + 719468 - marchStart (marchYear days)

section Cycles

variable {n c k j i : Int}

/-- A day of four hundred years is so many centuries, times four years, years and days after the
first. The last century, the last four years and the last year may be a day longer. -/
theorem exists_cycles (h : 0 ≤ n) (h' : n < 146097) :
    ∃ c k j i : Int, n = 36524 * c + 1461 * k + 365 * j + i ∧ (0 ≤ c ∧ c ≤ 3) ∧
      (0 ≤ k ∧ k ≤ 24) ∧ (0 ≤ j ∧ j ≤ 3) ∧ 0 ≤ i ∧
      (i ≤ 364 ∨ i = 365 ∧ j = 3 ∧ (k = 24 → c = 3)) := by
  obtain ⟨c, hc⟩ : ∃ c, c = min (n / 36524) 3 := ⟨_, rfl⟩
  obtain ⟨r, hr⟩ : ∃ r, r = (n - 36524 * c) % 1461 := ⟨_, rfl⟩
  refine ⟨c, (n - 36524 * c) / 1461, min (r / 365) 3, r - 365 * min (r / 365) 3, ?_⟩
  omega

/-- **The year is counted out of the cycles.** -/
theorem yearOfCycles_eq (hn : n = 36524 * c + 1461 * k + 365 * j + i) (hc : 0 ≤ c ∧ c ≤ 3)
    (hk : 0 ≤ k ∧ k ≤ 24) (hj : 0 ≤ j ∧ j ≤ 3) (hi : 0 ≤ i)
    (hlast : i ≤ 364 ∨ i = 365 ∧ j = 3 ∧ (k = 24 → c = 3)) :
    (n - n / 1460 + n / 36524 - n / 146096) / 365 = 100 * c + 4 * k + j := by
  have hcenturies : n / 36524 - n / 146096 = c := by
    have hle : 36524 * c ≤ n := by omega
    have hlt : n < 36524 * c + 36524 ∨ n = 146096 ∧ c = 3 := by omega
    clear hn hk hj hi hlast
    omega
  -- the times four years are counted a day short, and so one more is counted at their end
  have hfours : n / 1460 = 25 * c + k ∨ n / 1460 = 25 * c + k + 1 ∧ 1 ≤ i := by omega
  have hend : i = 365 → n / 1460 = 25 * c + k + 1 := by
    intro hi
    omega
  have hsum : n - n / 1460 + n / 36524 - n / 146096 =
      365 * (100 * c + 4 * k + j) + (i + 25 * c + k - n / 1460) := by
    omega
  rw [hsum]
  omega

end Cycles

/-- Four hundred years are as long as any others. -/
theorem marchStart_add (year era : Int) :
    marchStart (year + era * 400) = marchStart year + 146097 * era := by
  rw [marchStart, marchStart]
  omega

/-- **The year from March is found**: the day is one of its 365 days, or its leap day. -/
theorem dayOfMarchYear_spec (days : Int) : 0 ≤ dayOfMarchYear days ∧
    (dayOfMarchYear days ≤ 364 ∨
      dayOfMarchYear days = 365 ∧ isLeap (marchYear days + 1) = true) := by
  obtain ⟨c, k, j, i, hn, hc, hk, hj, hi, hlast⟩ :=
    exists_cycles (n := (days + 719468) % 146097) (by omega) (by omega)
  have hyear : marchYear days = 100 * c + 4 * k + j + (days + 719468) / 146097 * 400 := by
    rw [marchYear, yearOfCycles_eq hn hc hk hj hi hlast]
  have hday : dayOfMarchYear days = i := by
    rw [dayOfMarchYear, hyear, marchStart_add, marchStart]
    omega
  rw [hday, isLeap_iff, hyear]
  omega

/-- The days from January on belong to the year that follows. -/
theorem yearOf_eq (days : Int) :
    yearOf days = if 306 ≤ dayOfMarchYear days then marchYear days + 1 else marchYear days := by
  obtain ⟨c, k, j, i, hn, hc, hk, hj, hi, hlast⟩ :=
    exists_cycles (n := (days + 719468) % 146097) (by omega) (by omega)
  have hyear := yearOfCycles_eq hn hc hk hj hi hlast
  have hday : dayOfMarchYear days = (days + 719468) % 146097 -
      (365 * (100 * c + 4 * k + j) + (100 * c + 4 * k + j) / 4 - (100 * c + 4 * k + j) / 100) := by
    rw [dayOfMarchYear, marchYear, hyear, marchStart_add, marchStart]
    omega
  rw [hday, yearOf, marchYear, hyear]

/-! ### Years from January -/

/-- The first day of a year. -/
def newYear (year : Int) : Int := daysOf year 1 1

theorem newYear_eq (year : Int) : newYear year = marchStart (year - 1) - 719162 := by
  rw [newYear, daysOf, marchStart]
  simp only [Nat.reduceLeDiff, if_true]
  omega

/-- A year is of 365 or 366 days, from March or from January. -/
theorem marchStart_add_one (year : Int) : marchStart year + 365 ≤ marchStart (year + 1) ∧
    marchStart (year + 1) ≤ marchStart year + 366 := by
  rw [marchStart, marchStart]
  omega

theorem newYear_add_one (year : Int) :
    newYear year + 365 ≤ newYear (year + 1) ∧ newYear (year + 1) ≤ newYear year + 366 := by
  have h := marchStart_add_one (year - 1)
  rw [newYear_eq, newYear_eq, Int.add_sub_cancel]
  rw [Int.sub_add_cancel] at h
  omega

theorem newYear_mono {year year' : Int} (h : year ≤ year') : newYear year ≤ newYear year' := by
  rw [newYear_eq, newYear_eq, marchStart, marchStart]
  omega

/-- **A day lies in its year.** -/
theorem newYear_yearOf (days : Int) :
    newYear (yearOf days) ≤ days ∧ days < newYear (yearOf days + 1) := by
  obtain ⟨hpos, hlast⟩ := dayOfMarchYear_spec days
  have hday : days + 719468 = marchStart (marchYear days) + dayOfMarchYear days := by
    rw [dayOfMarchYear]
    omega
  have hthis := marchStart_add_one (marchYear days - 1)
  have hnext := marchStart_add_one (marchYear days)
  rw [Int.sub_add_cancel] at hthis
  rw [yearOf_eq, newYear_eq, newYear_eq]
  split
  · rw [Int.add_sub_cancel, Int.add_sub_cancel]
    omega
  · rw [Int.add_sub_cancel]
    omega

theorem yearOf_mono {days days' : Int} (h : days ≤ days') : yearOf days ≤ yearOf days' := by
  by_contra hlt
  have hmono : newYear (yearOf days' + 1) ≤ newYear (yearOf days) := newYear_mono (by omega)
  have hfrom := (newYear_yearOf days).1
  have hto := (newYear_yearOf days').2
  omega

/-- **Within a year** no more than one year begins. -/
theorem yearOf_le_add_one {days days' : Int} (h : days' ≤ days + 365) :
    yearOf days' ≤ yearOf days + 1 := by
  by_contra hlt
  have hmono : newYear (yearOf days + 1 + 1) ≤ newYear (yearOf days') := newYear_mono (by omega)
  have hlength := newYear_add_one (yearOf days + 1)
  have hto := (newYear_yearOf days).2
  have hfrom := (newYear_yearOf days').1
  omega

/-- The same date in the next year is 365 or 366 days away. -/
theorem daysOf_add_one (year : Int) (month day : Nat) :
    daysOf year month day + 365 ≤ daysOf (year + 1) month day ∧
      daysOf (year + 1) month day ≤ daysOf year month day + 366 := by
  rw [daysOf, daysOf]
  split <;> omega

/-! ### Dates -/

section Dates

variable {year : Int} {month day : Nat}

theorem isDate_iff : isDate year month day = true ↔
    (1 ≤ month ∧ month ≤ 12) ∧ 1 ≤ day ∧ day ≤ daysInMonth year month := by
  simp only [isDate, Bool.and_eq_true, decide_eq_true_iff, and_assoc]

theorem daysInMonth_le (year : Int) (month : Nat) : daysInMonth year month ≤ 31 := by
  rw [daysInMonth]
  split_ifs <;> decide

/-- Every date but the leap day exists in every year. -/
theorem isDate_of_not_leapDay (h : isDate year month day = true) (hday : ¬(month = 2 ∧ day = 29))
    (year' : Int) : isDate year' month day = true := by
  rw [isDate_iff] at h ⊢
  refine ⟨h.1, h.2.1, ?_⟩
  have hle := h.2.2
  rw [daysInMonth] at hle ⊢
  split_ifs at hle ⊢ <;> omega

theorem isLeap_of_leapDay (h : isDate year 2 29 = true) : isLeap year = true := by
  by_contra hnot
  have hle := (isDate_iff.mp h).2.2
  rw [daysInMonth, if_pos rfl, if_neg hnot] at hle
  omega

/-- A leap day is not followed by another a year later. -/
theorem isDate_leapDay_add_one (h : isDate year 2 29 = true) :
    ¬isDate (year + 1) 2 29 = true := by
  intro h'
  have hthis := ((isLeap_iff year).mp (isLeap_of_leapDay h)).1
  have hnext := ((isLeap_iff (year + 1)).mp (isLeap_of_leapDay h')).1
  omega

end Dates

/-- The months between March and the month in which a day lies. -/
def monthsFromMarch (days : Int) : Int := (5 * dayOfMarchYear days + 2) / 153

/-- The month in which a day lies. -/
def monthOf (days : Int) : Nat :=
  let m := monthsFromMarch days
  (if m < 10 then m + 3 else m - 9).toNat

/-- Which day of the month a day is. -/
def dayOf (days : Int) : Nat :=
  (dayOfMarchYear days - (153 * monthsFromMarch days + 2) / 5 + 1).toNat

/-- **There is such a date.** -/
theorem isDate_dateOf (days : Int) : isDate (yearOf days) (monthOf days) (dayOf days) = true := by
  obtain ⟨hpos, hlast⟩ := dayOfMarchYear_spec days
  rw [yearOf_eq, monthOf, dayOf, monthsFromMarch]
  generalize dayOfMarchYear days = d at hpos hlast ⊢
  obtain ⟨m, hm⟩ : ∃ m, m = (5 * d + 2) / 153 := ⟨_, rfl⟩
  rw [← hm]
  have hm0 : 0 ≤ m := by omega
  have hm11 : m ≤ 11 := by omega
  rw [isDate_iff]
  by_cases hfebruary : m = 11
  · subst hfebruary
    have hjanuary : 306 ≤ d := by omega
    rw [if_pos hjanuary]
    obtain hlast | ⟨rfl, hleap⟩ := hlast
    · cases isLeap (marchYear days + 1) <;> simp [daysInMonth] <;> omega
    · simp [daysInMonth, hleap]
  · -- the other months do not depend on the year
    clear hlast
    interval_cases m <;> simp [daysInMonth] at hfebruary ⊢ <;> omega

/-- **It is the date of the day.** -/
theorem daysOf_dateOf (days : Int) :
    daysOf (yearOf days) (monthOf days) (dayOf days) = days := by
  obtain ⟨hpos, hlast⟩ := dayOfMarchYear_spec days
  have hstart : days + 719468 = marchStart (marchYear days) + dayOfMarchYear days := by
    rw [dayOfMarchYear]
    omega
  have hday : (dayOf days : Int) =
      dayOfMarchYear days - (153 * monthsFromMarch days + 2) / 5 + 1 := by
    rw [dayOf, Int.toNat_of_nonneg]
    rw [monthsFromMarch]
    omega
  have hmonth : (monthOf days : Int) =
      if monthsFromMarch days < 10 then monthsFromMarch days + 3 else monthsFromMarch days - 9 := by
    rw [monthOf, Int.toNat_of_nonneg]
    rw [monthsFromMarch]
    split <;> omega
  have hjanuary : 306 ≤ dayOfMarchYear days ↔ 10 ≤ monthsFromMarch days := by
    rw [monthsFromMarch]
    omega
  have hfrom : ((monthOf days : Int) + 9) % 12 = monthsFromMarch days := by
    have hlt : 0 ≤ monthsFromMarch days ∧ monthsFromMarch days ≤ 11 := by
      rw [monthsFromMarch]
      omega
    split at hmonth <;> omega
  rw [marchStart] at hstart
  rw [daysOf, hfrom, hday, yearOf_eq]
  split at hmonth
  · rw [if_neg (by omega), if_neg (by omega)]
    omega
  · rw [if_pos (by omega), if_pos (by omega), Int.add_sub_cancel]
    omega

end Civil

end LogWatch
