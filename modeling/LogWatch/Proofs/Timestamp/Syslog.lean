import LogWatch.Proofs.Number.Binary64
import LogWatch.Proofs.Time.Dates
import LogWatch.Proofs.Timestamp.Extract

/-!
# The year of a syslog stamp

A syslog stamp says the month, the day and the time, and leaves out the year. What is written at an
instant (`LogWatch.Syslog.stampText`) is read as just that instant again, up to 335 days later
(`LogWatch.Syslog.timestamp?_stampText`). In the year of the reader the stamp is either the instant
itself, or the same date a year later; that is at least 365 days after the instant, so more than 30
days ahead of the reader, and the year before is taken.

There is one exception. A 29 February of the year before has no date in the year of the reader, and
is not read at all, before it could be seen that its year is another.
-/

namespace LogWatch

/-- **An instant as it is written** in UTC. -/
def Written.ofSeconds (t : Int) : Written where
  year := Civil.yearOf (t / 86400)
  month := Civil.monthOf (t / 86400)
  day := Civil.dayOf (t / 86400)
  hour := (t % 86400 / 3600).toNat
  minute := (t % 3600 / 60).toNat
  second := (t % 60).toNat

/-- The same date and time in another year. -/
def Written.inYear (w : Written) (year : Int) : Written := { w with year := year }

namespace Written

variable {t t' : Int}

theorem hour_ofSeconds_le (t : Int) : (ofSeconds t).hour ≤ 23 := by
  have h : (ofSeconds t).hour = (t % 86400 / 3600).toNat := rfl
  omega

theorem minute_ofSeconds_le (t : Int) : (ofSeconds t).minute ≤ 59 := by
  have h : (ofSeconds t).minute = (t % 3600 / 60).toNat := rfl
  omega

theorem second_ofSeconds_le (t : Int) : (ofSeconds t).second ≤ 59 := by
  have h : (ofSeconds t).second = (t % 60).toNat := rfl
  omega

/-- The date is one of the calendar. -/
theorem isDate_ofSeconds (t : Int) :
    Civil.isDate (ofSeconds t).year (ofSeconds t).month (ofSeconds t).day = true :=
  Civil.isDate_dateOf (t / 86400)

theorem day_ofSeconds_le (t : Int) : (ofSeconds t).day ≤ 31 :=
  Nat.le_trans (Civil.isDate_iff.mp (isDate_ofSeconds t)).2.2 (Civil.daysInMonth_le _ _)

/-- In another year the date may not exist, and if it does it is so many days away. -/
theorem seconds?_inYear (t year : Int) : ((ofSeconds t).inYear year).seconds? =
    if Civil.isDate year (ofSeconds t).month (ofSeconds t).day = true then
      some (t + (Civil.daysOf year (ofSeconds t).month (ofSeconds t).day - t / 86400) * 86400)
    else none := by
  have hvalid : ((ofSeconds t).inYear year).isValid =
      Civil.isDate year (ofSeconds t).month (ofSeconds t).day := by
    have hhour : ((ofSeconds t).inYear year).hour ≤ 23 := hour_ofSeconds_le t
    have hminute : ((ofSeconds t).inYear year).minute ≤ 59 := minute_ofSeconds_le t
    have hsecond : ((ofSeconds t).inYear year).second ≤ 60 :=
      Nat.le_succ_of_le (second_ofSeconds_le t)
    rw [isValid, decide_eq_true hhour, decide_eq_true hminute, decide_eq_true hsecond,
      Bool.and_true, Bool.and_true, Bool.and_true]
    rfl
  rw [seconds?, hvalid]
  refine if_congr Iff.rfl (congrArg some ?_) rfl
  change Civil.secondsOf year (ofSeconds t).month (ofSeconds t).day (t % 86400 / 3600).toNat
    (t % 3600 / 60).toNat (t % 60).toNat = _
  rw [Civil.secondsOf, Int.toNat_of_nonneg, Int.toNat_of_nonneg, Int.toNat_of_nonneg]
  all_goals omega

/-- **What is written is the instant.** -/
theorem seconds?_ofSeconds (t : Int) : (ofSeconds t).seconds? = some t := by
  have h := seconds?_inYear t (ofSeconds t).year
  have hdays : Civil.daysOf (ofSeconds t).year (ofSeconds t).month (ofSeconds t).day = t / 86400 :=
    Civil.daysOf_dateOf (t / 86400)
  rw [if_pos (isDate_ofSeconds t), hdays, Int.sub_self, Int.zero_mul, Int.add_zero] at h
  exact h

end Written

namespace Syslog

/-! ### Writing -/

/-- A number below 100 in two octets, with something in front if it has one digit. -/
def padded (fill : UInt8) (n : Nat) : Bytes :=
  [if n < 10 then fill else UInt8.ofNat (48 + n / 10), UInt8.ofNat (48 + n % 10)]

/-- **The stamp of a date and a time**, without the year. -/
def stampText (fill : UInt8) (w : Written) : Bytes :=
  Bytes.ofString (Field.monthNames.getD (w.month - 1) "") ++ 32 :: (padded fill w.day ++ 32 ::
    (padded 48 w.hour ++ 58 :: (padded 48 w.minute ++ 58 :: padded 48 w.second)))

/-- **What may stand before a stamp**: nothing, or a priority in angle brackets. -/
inductive IsLead : Bytes → Prop
  | none : IsLead []
  | priority {width : Nat} (digits : Digits width) : 1 ≤ width → width ≤ 3 →
      digits.value ≤ maxPriority → IsLead (60 :: (digits.octets ++ [62]))

section Reading

variable {α : Type} {x : α} {fill : UInt8} {n : Nat} {w : Written} {lead rest : Bytes}
  {now : WallTime} {t : Int}

/-- The digits of a number below 100, with a zero in front. -/
def twoDigits (n : Nat) (h : n < 100) : Digits 2 where
  octets := padded 48 n
  length_octets := rfl
  isDigit := by
    have hall : ∀ n < 100, (padded 48 n).all Octet.isDigit = true := by decide +kernel
    exact List.all_eq_true.mp (hall n h)

theorem value_twoDigits (h : n < 100) : (twoDigits n h).value = n := by
  have hall : ∀ n < 100, Bytes.decimalValue (padded 48 n) = n := by decide +kernel
  exact hall n h

/-- The last digit of a number below 10. -/
def oneDigit (n : Nat) (h : n < 10) : Digits 1 where
  octets := [UInt8.ofNat (48 + n % 10)]
  length_octets := rfl
  isDigit := by
    have hall : ∀ n < 10, [UInt8.ofNat (48 + n % 10)].all Octet.isDigit = true := by
      decide +kernel
    exact List.all_eq_true.mp (hall n h)

theorem value_oneDigit (h : n < 10) : (oneDigit n h).value = n := by
  have hall : ∀ n < 10, Bytes.decimalValue [UInt8.ofNat (48 + n % 10)] = n := by decide +kernel
  exact hall n h

theorem number?_padded (h : n < 100) : Field.number? 2 (padded 48 n ++ rest) = some (n, rest) := by
  have hread : Field.number? 2 (padded 48 n ++ rest) = some ((twoDigits n h).value, rest) :=
    Field.number?_append (twoDigits n h)
  rw [value_twoDigits] at hread
  exact hread

theorem number?_padded_bind {k : Nat × Bytes → Option α} (h : n < 100)
    (hk : k (n, rest) = some x) : Field.number? 2 (padded 48 n ++ rest) >>= k = some x :=
  Option.bind_eq_some_iff.mpr ⟨_, number?_padded h, hk⟩

theorem day?_of_digits (h : n < 100) : day? (padded 48 n ++ rest) = some (n, rest) := by
  have hread : day? (padded 48 n ++ rest) = some ((twoDigits n h).value, rest) :=
    day?_append (twoDigits n h)
  rw [value_twoDigits] at hread
  exact hread

/-- A day is read with a space or a zero in front. -/
theorem day?_padded (hfill : fill = 32 ∨ fill = 48) (h : n < 100) :
    day? (padded fill n ++ rest) = some (n, rest) := by
  obtain rfl | rfl := hfill
  · by_cases hn : n < 10
    · have hread : day? (32 :: ((oneDigit n hn).octets ++ rest)) =
          some ((oneDigit n hn).value, rest) := Field.number?_append (oneDigit n hn)
      rw [value_oneDigit] at hread
      rw [padded, if_pos hn]
      exact hread
    · have hpadded : padded 32 n = padded 48 n := by rw [padded, padded, if_neg hn, if_neg hn]
      rw [hpadded]
      exact day?_of_digits h
  · exact day?_of_digits h

/-- The name of a month is one of the names. -/
theorem exists_monthName (h : 1 ≤ w.month) (h' : w.month ≤ 12) : ∃ i : Fin 12,
    w.month = i.val + 1 ∧
      Bytes.ofString (Field.monthNames.getD (w.month - 1) "") = Field.monthName i := by
  have hlt : w.month - 1 < Field.monthNames.length := by
    change w.month - 1 < 12
    omega
  refine ⟨⟨w.month - 1, hlt⟩, (Nat.sub_add_cancel h).symm, ?_⟩
  rw [Field.monthName, List.getD_eq_getElem?_getD, List.getElem?_eq_getElem hlt]
  rfl

/-- **A stamp is read** in whatever year. -/
theorem stamp?_stampText (hfill : fill = 32 ∨ fill = 48) (h : 1 ≤ w.month) (h' : w.month ≤ 12)
    (hday : w.day < 100) (hhour : w.hour < 100) (hminute : w.minute < 100)
    (hsecond : w.second < 100) :
    stamp? (stampText fill w ++ rest) = some w.inYear := by
  obtain ⟨i, hi, hname⟩ := exists_monthName h h'
  have htext : stampText fill w ++ rest = Field.monthName i ++ 32 :: (padded fill w.day ++ 32 ::
      (padded 48 w.hour ++ 58 :: (padded 48 w.minute ++ 58 :: (padded 48 w.second ++ rest)))) := by
    rw [stampText, hname]
    simp
  rw [htext, stamp?]
  refine Field.month?_bind <| Field.octet?_bind <| day?_bind_eq.symm.trans <|
    Option.bind_eq_some_iff.mpr ⟨_, day?_padded hfill hday, Field.octet?_bind <|
      number?_padded_bind hhour <| Field.octet?_bind <| number?_padded_bind hminute <|
      Field.octet?_bind <| number?_padded_bind hsecond ?_⟩
  rw [← hi]
  rfl

theorem length_stampText (fill : UInt8) (h : 1 ≤ w.month) (h' : w.month ≤ 12) :
    (stampText fill w).length = stampLength := by
  obtain ⟨i, -, hname⟩ := exists_monthName h h'
  rw [stampText, hname]
  simp [Field.length_monthName, padded, stampLength]

/-- **A priority is passed over.** -/
theorem body?_lead {body : Bytes} {b : UInt8} (hlead : IsLead lead)
    (hb : (65 ≤ b && b ≤ 90) = true) (hbody : body = b :: rest) :
    body? (lead ++ body) = some body := by
  cases hlead with
  | none => exact body?_of_capital hb hbody
  | @priority width digits hpos hle hmax =>
    have hnotmem : (62 : UInt8) ∉ digits.octets := fun hmem => by
      have hdigit := digits.isDigit 62 hmem
      cases hdigit
    have hline : 60 :: (digits.octets ++ [62]) ++ body = 60 :: (digits.octets ++ 62 :: body) := by
      simp
    have htake : (digits.octets ++ 62 :: body).take 4 =
        digits.octets ++ 62 :: body.take (3 - width) := by
      rw [List.take_append, List.take_of_length_le (by rw [digits.length_octets]; omega),
        digits.length_octets, show 4 - width = 3 - width + 1 by omega, List.take_succ_cons]
    have hempty : ¬digits.octets.isEmpty = true := by
      rw [List.isEmpty_iff, ← List.length_eq_zero_iff, digits.length_octets]
      omega
    have hread : frontPriority? (60 :: (digits.octets ++ 62 :: body)) =
        some (⟨digits.value⟩, body) := by
      rw [frontPriority?]
      refine Field.octet?_bind ?_
      rw [htake, Bytes.splitAtFirst?_append hnotmem]
      dsimp only [Option.bind_eq_bind, Option.bind_some]
      rw [if_neg hempty, digits.length_octets, Field.number?_append]
      dsimp only [Option.bind_some]
      rw [if_pos hmax]
      rfl
    rw [hline, body?, hread]
    rfl

/-! ### The year -/

/-- **What is made of the stamp of an instant** depends on the year that is found for it. -/
theorem timestamp?_eq (hfill : fill = 32 ∨ fill = 48) (hlead : IsLead lead) :
    timestamp? now (lead ++ (stampText fill (Written.ofSeconds t) ++ rest)) =
      (inferredSeconds? now (Written.ofSeconds t).inYear).map
        fun seconds => ⟨Epoch.ofParts seconds 0, stampText fill (Written.ofSeconds t)⟩ := by
  have hdate := Civil.isDate_iff.mp (Written.isDate_ofSeconds t)
  have hday := Written.day_ofSeconds_le t
  have hhour := Written.hour_ofSeconds_le t
  have hminute := Written.minute_ofSeconds_le t
  have hsecond := Written.second_ofSeconds_le t
  have hstamp : stamp? (stampText fill (Written.ofSeconds t) ++ rest) =
      some (Written.ofSeconds t).inYear :=
    stamp?_stampText hfill hdate.1.1 hdate.1.2 (by omega) (by omega) (by omega) (by omega)
  have hlength := length_stampText fill hdate.1.1 hdate.1.2
  obtain ⟨i, -, hname⟩ := exists_monthName hdate.1.1 hdate.1.2
  obtain ⟨b, name, hcapital, hb⟩ := Field.exists_monthName_eq i
  obtain ⟨after, htext⟩ :
      ∃ after, stampText fill (Written.ofSeconds t) ++ rest = b :: after := by
    rw [stampText, hname, hcapital]
    exact ⟨_, rfl⟩
  rw [timestamp?, body?_lead hlead hb htext]
  dsimp only [Option.bind_eq_bind, Option.bind_some]
  split
  · next hone =>
    rw [htext] at hone
    rw [(List.cons.inj hone).1] at hb
    cases hb
  · rw [hstamp, Option.bind_some, List.take_left' hlength]
    cases inferredSeconds? now (Written.ofSeconds t).inYear <;> rfl

/-- **The year is found**: of the instants up to 335 days back there is none that is taken for
another, and only a leap day of another year is taken for none. -/
theorem inferredSeconds?_ofSeconds (hpast : t ≤ now.seconds)
    (hrecent : now.seconds - 335 * 86400 < t) :
    inferredSeconds? now (Written.ofSeconds t).inYear =
      if (Written.ofSeconds t).month = 2 ∧ (Written.ofSeconds t).day = 29 ∧
        (Written.ofSeconds t).year ≠ now.year then none else some t := by
  have hyears : now.year = (Written.ofSeconds t).year ∨
      now.year = (Written.ofSeconds t).year + 1 := by
    have hle : Civil.yearOf (t / 86400) ≤ Civil.yearOf (now.seconds / 86400) :=
      Civil.yearOf_mono (by omega)
    have hge : Civil.yearOf (now.seconds / 86400) ≤ Civil.yearOf (t / 86400) + 1 :=
      Civil.yearOf_le_add_one (by omega)
    change Civil.yearOf (now.seconds / 86400) = Civil.yearOf (t / 86400) ∨
      Civil.yearOf (now.seconds / 86400) = Civil.yearOf (t / 86400) + 1
    omega
  have hthis : ((Written.ofSeconds t).inYear (Written.ofSeconds t).year).seconds? = some t :=
    Written.seconds?_ofSeconds t
  obtain hyear | hyear := hyears
  · have hnow : isFuture now t = false := decide_eq_false (by
      rw [futureToleranceDays]
      omega)
    rw [inferredSeconds?, hyear, hthis, if_neg fun h => h.2.2 rfl]
    simp [hnow]
  · have hnext := Written.seconds?_inYear t ((Written.ofSeconds t).year + 1)
    have hother : (Written.ofSeconds t).year ≠ now.year := by omega
    rw [inferredSeconds?, hyear, hnext]
    by_cases hleap : (Written.ofSeconds t).month = 2 ∧ (Written.ofSeconds t).day = 29
    · have hdate := Written.isDate_ofSeconds t
      rw [hleap.1, hleap.2] at hdate ⊢
      rw [if_neg (Civil.isDate_leapDay_add_one hdate), if_pos ⟨rfl, rfl, hyear ▸ hother⟩]
      rfl
    · -- a year later is more than 30 days ahead of `now`
      have hfuture : isFuture now (t + (Civil.daysOf ((Written.ofSeconds t).year + 1)
          (Written.ofSeconds t).month (Written.ofSeconds t).day - t / 86400) * 86400) = true := by
        have hdays : Civil.daysOf (Written.ofSeconds t).year (Written.ofSeconds t).month
            (Written.ofSeconds t).day = t / 86400 := Civil.daysOf_dateOf (t / 86400)
        have haway := (Civil.daysOf_add_one (Written.ofSeconds t).year (Written.ofSeconds t).month
          (Written.ofSeconds t).day).1
        refine decide_eq_true ?_
        rw [futureToleranceDays]
        omega
      rw [if_pos (Civil.isDate_of_not_leapDay (Written.isDate_ofSeconds t) hleap _),
        if_neg fun h => hleap ⟨h.1, h.2.1⟩, Option.bind_eq_bind, Option.bind_some, if_pos hfuture,
        Int.add_sub_cancel, hthis]

/-- **A stamp is read as the instant at which it was written**, up to 335 days later, unless that
is a leap day of the year before. -/
theorem timestamp?_stampText (hfill : fill = 32 ∨ fill = 48) (hlead : IsLead lead)
    (hpast : t ≤ now.seconds) (hrecent : now.seconds - 335 * 86400 < t) :
    (Written.ofSeconds t).seconds? = some t ∧
      (t.natAbs < Nat.pow 2 53 → Binary64.IsInt (Epoch.ofParts t 0) t) ∧
      timestamp? now (lead ++ (stampText fill (Written.ofSeconds t) ++ rest)) =
        if (Written.ofSeconds t).month = 2 ∧ (Written.ofSeconds t).day = 29 ∧
          (Written.ofSeconds t).year ≠ now.year then none
        else some ⟨Epoch.ofParts t 0, stampText fill (Written.ofSeconds t)⟩ := by
  refine ⟨Written.seconds?_ofSeconds t, Epoch.isInt_ofParts, ?_⟩
  rw [timestamp?_eq hfill hlead, inferredSeconds?_ofSeconds hpast hrecent]
  split <;> rfl

/-- `<34>Dec  5 23:59:59`, read on 1 January 2025, is of December 2024. -/
theorem timestamp?_stampText_december :
    let now : WallTime := ⟨1735732800, 0⟩
    let t : Int := 1733443199
    let lead : Bytes := [60, 51, 52, 62]
    let text : Bytes := [68, 101, 99, 32, 32, 53, 32, 50, 51, 58, 53, 57, 58, 53, 57]
    IsLead lead ∧ t ≤ now.seconds ∧ now.seconds - 335 * 86400 < t ∧
      Binary64.IsInt (Epoch.ofParts t 0) t ∧
      timestamp? now (lead ++ (text ++ [32, 97])) = some ⟨Epoch.ofParts t 0, text⟩ := by
  intro now t lead text
  have hlead : IsLead lead :=
    .priority ⟨[51, 52], rfl, List.all_eq_true.mp rfl⟩ (by decide) (by decide) (by decide)
  have hpast : t ≤ now.seconds := by decide
  have hrecent : now.seconds - 335 * 86400 < t := by decide
  have htext : stampText 32 (Written.ofSeconds t) = text := by decide +kernel
  rw [← htext]
  obtain ⟨-, hint, hread⟩ := timestamp?_stampText (.inl rfl) hlead hpast hrecent
  exact ⟨hlead, hpast, hrecent, hint (by decide +kernel), hread.trans (if_neg (by decide +kernel))⟩

/-- **A leap day of the year before is lost**: on 1 January 2025 the 29 February 2024 is 307 days
ago, and `Feb 29 12:00:00` is not read. -/
theorem exists_leap_day_lost :
    ∃ (now : WallTime) (t : Int), now.seconds - 335 * 86400 < t ∧ t ≤ now.seconds ∧
      (Written.ofSeconds t).seconds? = some t ∧
      stampText 32 (Written.ofSeconds t) = Bytes.ofString "Feb 29 12:00:00" ∧
      timestamp? now (stampText 32 (Written.ofSeconds t)) = none :=
  ⟨⟨1735732800, 0⟩, 1709208000, by decide, by decide, by decide +kernel, by decide +kernel,
    by decide +kernel⟩

end Reading

end Syslog

end LogWatch
