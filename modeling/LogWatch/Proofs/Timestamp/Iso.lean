import LogWatch.Proofs.Time.Civil
import LogWatch.Proofs.Timestamp.Fields
import LogWatch.Timestamp.Iso

/-!
# The grammar of ISO timestamps

An ISO timestamp has a date and a time of day, then maybe digits after a point, then maybe a zone.
The grammar says what stands at the front of a line and where it ends (`LogWatch.Iso.Stamp.Begins`);
the reader accepts just that, and the instant is that of the calendar
(`LogWatch.Iso.timestamp?_eq_some_iff`).

Where a timestamp ends depends on what follows. The digits after the point are all that there are,
and a point without a digit is no end of a timestamp. A sign may begin a zone in three ways, of
which the shortest is taken only where what follows can be neither of the others; if it is none of
them, or there is no such hour or minute, the sign is left to the rest of the line.
-/

namespace LogWatch

namespace Iso

/-! ### The grammar -/

/-- A date and a time of day, as they are written. -/
structure DateTime where
  /-- The year. -/
  year : Digits 4
  /-- The month. -/
  month : Digits 2
  /-- The day of the month. -/
  day : Digits 2
  /-- What stands between the date and the time. -/
  separator : UInt8
  /-- It is a `T` or a space. -/
  isSeparator : separator = 84 ∨ separator = 32
  /-- The hour. -/
  hour : Digits 2
  /-- The minute. -/
  minute : Digits 2
  /-- The second. -/
  second : Digits 2

namespace DateTime

/-- The octets. -/
def text (d : DateTime) : Bytes :=
  d.year.octets ++ 45 :: (d.month.octets ++ 45 :: (d.day.octets ++ d.separator ::
    (d.hour.octets ++ 58 :: (d.minute.octets ++ 58 :: d.second.octets))))

/-- What is written there. -/
def written (d : DateTime) : Written :=
  ⟨d.year.value, d.month.value, d.day.value, d.hour.value, d.minute.value, d.second.value⟩

/-- There is such a date in the calendar, and such a time of day. -/
structure IsReal (d : DateTime) : Prop where
  /-- There is such a month. -/
  month : 1 ≤ d.month.value ∧ d.month.value ≤ 12
  /-- The month has such a day in that year. -/
  day : 1 ≤ d.day.value ∧ d.day.value ≤ Civil.daysInMonth d.year.value d.month.value
  /-- The day has such an hour. -/
  hour : d.hour.value ≤ 23
  /-- The hour has such a minute. -/
  minute : d.minute.value ≤ 59
  /-- The minute has such a second, if it is one with a leap second. -/
  second : d.second.value ≤ 60

/-- The seconds since 1970. The second 60 is the first one after the second 59. -/
def seconds (d : DateTime) : Int :=
  Civil.dayNumber d.year.value d.month.value d.day.value * 86400 + d.hour.value * 3600 +
    d.minute.value * 60 + min d.second.value 59 + if d.second.value = 60 then 1 else 0

end DateTime

/-- A point with digits after it, if there are any. -/
def pointed : Bytes → Bytes
  | [] => []
  | digits => 46 :: digits

/-- **The digits after the point** of a time, before the rest of a line: all that there are. Where
there is none, there is no point. -/
structure IsFraction (digits rest : Bytes) : Prop where
  /-- They are digits. -/
  isDigit : ∀ b ∈ digits, Octet.isDigit b = true
  /-- No digit comes after them. -/
  ends : digits ≠ [] → ∀ b ∈ rest.head?, Octet.isDigit b = false
  /-- No point stands without a digit. -/
  point : digits = [] → rest.head? ≠ some 46

/-- The nanoseconds that the first nine digits after the point spell; zeros stand for those that are
missing. -/
def nanoseconds (digits : Bytes) : Nat :=
  Bytes.decimalValue ((digits ++ List.replicate 9 48).take 9)

/-- The sign of a zone offset. -/
inductive Sign
  | east
  | west

namespace Sign

/-- How it is written. -/
def octet : Sign → UInt8
  | east => 43
  | west => 45

/-- So many seconds in that direction. -/
def signed : Sign → Int → Int
  | east, seconds => seconds
  | west, seconds => -seconds

/-- So many hours and minutes in that direction, in seconds. -/
def offset (sign : Sign) (hours minutes : Nat) : Int :=
  sign.signed (hours * 3600 + minutes * 60 : Nat)

end Sign

/-- **A zone at the front** of the octets after a time: its text and its offset in seconds. -/
inductive IsZone : Bytes → Bytes → Int → Prop
  /-- A `Z`. -/
  | utc (rest : Bytes) : IsZone (90 :: rest) [90] 0
  /-- Hours and minutes with a colon between them. -/
  | separated (sign : Sign) (hours minutes : Digits 2) (rest : Bytes) :
      hours.value ≤ 23 → minutes.value ≤ 59 →
      IsZone (sign.octet :: (hours.octets ++ 58 :: (minutes.octets ++ rest)))
        (sign.octet :: (hours.octets ++ 58 :: minutes.octets))
        (sign.offset hours.value minutes.value)
  /-- Hours and minutes. -/
  | compact (sign : Sign) (hours minutes : Digits 2) (rest : Bytes) :
      hours.value ≤ 23 → minutes.value ≤ 59 →
      IsZone (sign.octet :: (hours.octets ++ (minutes.octets ++ rest)))
        (sign.octet :: (hours.octets ++ minutes.octets)) (sign.offset hours.value minutes.value)
  /-- Hours alone, where neither a colon nor two digits follow. -/
  | hours (sign : Sign) (hours : Digits 2) (rest : Bytes) :
      hours.value ≤ 23 → rest.head? ≠ some 58 →
      (∀ (minutes : Digits 2) (after : Bytes), rest ≠ minutes.octets ++ after) →
      IsZone (sign.octet :: (hours.octets ++ rest)) (sign.octet :: hours.octets)
        (sign.offset hours.value 0)

/-- **What stands for the zone** before the rest of a line: a zone if there is one at the front, and
nothing otherwise. -/
inductive ZoneAt (s : Bytes) : Bytes → Int → Prop
  /-- A zone. -/
  | zone (text : Bytes) (offset : Int) : IsZone s text offset → ZoneAt s text offset
  /-- No zone, and the time is in UTC. -/
  | none : (∀ text offset, ¬ IsZone s text offset) → ZoneAt s [] 0

/-- An ISO timestamp, as it is written. -/
structure Stamp where
  /-- The date and the time of day. -/
  dateTime : DateTime
  /-- The digits after the point. -/
  fraction : Bytes
  /-- The zone. -/
  zone : Bytes
  /-- The offset of the zone in seconds. -/
  offset : Int

namespace Stamp

/-- The octets. -/
def text (s : Stamp) : Bytes := s.dateTime.text ++ (pointed s.fraction ++ s.zone)

/-- **The timestamp stands at the front of a line.** -/
structure Begins (s : Stamp) (line : Bytes) : Prop where
  /-- There is such a date. -/
  isReal : s.dateTime.IsReal
  /-- All octets that belong to the timestamp are part of it. -/
  reads : ∃ rest, line = s.dateTime.text ++ (pointed s.fraction ++ rest) ∧
    IsFraction s.fraction rest ∧ ZoneAt rest s.zone s.offset

/-- What is read of the timestamp: the local time in seconds, with the nanoseconds, less the offset
of the zone. -/
def reading (s : Stamp) : LineTimestamp :=
  ⟨Epoch.ofParts s.dateTime.seconds (nanoseconds s.fraction) - Binary64.ofInt s.offset, s.text⟩

end Stamp

/-! ### Dates and times -/

section Parts

variable {s rest digits text : Bytes} {n : Nat} {w : Written} {offset : Int}

/-- A date and a time of day are read where they stand. -/
theorem dateTime?_eq_some_iff :
    dateTime? s = some (w, rest) ↔ ∃ d : DateTime, s = d.text ++ rest ∧ w = d.written := by
  constructor
  · intro h
    rw [dateTime?] at h
    obtain ⟨year, _, h₁, rfl⟩ := Field.exists_of_number?_bind h
    obtain ⟨_, h₂, rfl⟩ := Field.exists_of_octet?_bind h₁
    obtain ⟨month, _, h₃, rfl⟩ := Field.exists_of_number?_bind h₂
    obtain ⟨_, h₄, rfl⟩ := Field.exists_of_octet?_bind h₃
    obtain ⟨day, _, h₅, rfl⟩ := Field.exists_of_number?_bind h₄
    obtain ⟨separator, _, h₆, hseparator, rfl⟩ := Field.exists_of_oneOf?_bind h₅
    obtain ⟨hour, _, h₇, rfl⟩ := Field.exists_of_number?_bind h₆
    obtain ⟨_, h₈, rfl⟩ := Field.exists_of_octet?_bind h₇
    obtain ⟨minute, _, h₉, rfl⟩ := Field.exists_of_number?_bind h₈
    obtain ⟨_, h₁₀, rfl⟩ := Field.exists_of_octet?_bind h₉
    obtain ⟨second, _, h₁₁, rfl⟩ := Field.exists_of_number?_bind h₁₀
    obtain ⟨rfl, rfl⟩ := Prod.mk.inj (Option.some.inj h₁₁)
    exact ⟨⟨year, month, day, separator, hseparator, hour, minute, second⟩,
      by simp [DateTime.text], rfl⟩
  · rintro ⟨d, rfl, rfl⟩
    have htext : d.text ++ rest = d.year.octets ++ 45 :: (d.month.octets ++ 45 :: (d.day.octets ++
        d.separator :: (d.hour.octets ++ 58 :: (d.minute.octets ++ 58 :: (d.second.octets ++
        rest))))) := by
      simp [DateTime.text]
    rw [htext]
    exact Field.number?_bind <| Field.octet?_bind <| Field.number?_bind <| Field.octet?_bind <|
      Field.number?_bind <| Field.oneOf?_bind d.isSeparator <| Field.number?_bind <|
      Field.octet?_bind <| Field.number?_bind <| Field.octet?_bind <| Field.number?_bind rfl

theorem isValid_iff {d : DateTime} : d.written.isValid = true ↔ d.IsReal := by
  simp only [Written.isValid, DateTime.written, Civil.isDate, Bool.and_eq_true]
  constructor
  · rintro ⟨⟨⟨⟨⟨⟨h₁, h₂⟩, h₃⟩, h₄⟩, h₅⟩, h₆⟩, h₇⟩
    exact ⟨⟨of_decide_eq_true h₁, of_decide_eq_true h₂⟩,
      ⟨of_decide_eq_true h₃, of_decide_eq_true h₄⟩, of_decide_eq_true h₅, of_decide_eq_true h₆,
      of_decide_eq_true h₇⟩
  · rintro ⟨⟨h₁, h₂⟩, ⟨h₃, h₄⟩, h₅, h₆, h₇⟩
    exact ⟨⟨⟨⟨⟨⟨decide_eq_true h₁, decide_eq_true h₂⟩, decide_eq_true h₃⟩, decide_eq_true h₄⟩,
      decide_eq_true h₅⟩, decide_eq_true h₆⟩, decide_eq_true h₇⟩

theorem secondsOf_written {d : DateTime} (h : d.IsReal) :
    Civil.secondsOf d.written.year d.written.month d.written.day d.written.hour d.written.minute
      d.written.second = d.seconds := by
  have hdays : Civil.daysOf d.year.value d.month.value d.day.value = _ :=
    Civil.daysOf_eq h.month.1 h.month.2 h.day.1
  have hsecond := h.second
  simp only [DateTime.written, Civil.secondsOf, DateTime.seconds, hdays]
  split <;> omega

/-- The seconds of a date that exists are those of the calendar. -/
theorem seconds?_eq_some_iff {d : DateTime} {seconds : Int} :
    d.written.seconds? = some seconds ↔ d.IsReal ∧ seconds = d.seconds := by
  rw [Written.seconds?]
  split
  · next h =>
    rw [isValid_iff] at h
    rw [secondsOf_written h, Option.some_inj]
    exact ⟨fun heq => ⟨h, heq.symm⟩, fun heq => heq.2.symm⟩
  · next h =>
    rw [isValid_iff] at h
    exact ⟨nofun, fun hd => absurd hd.1 h⟩

/-! ### Fractions -/

/-- Zeros behind the digits are what multiplies the number. -/
theorem nanosOf_eq : nanosOf digits = nanoseconds digits := by
  have hzeros : (List.replicate 9 (48 : UInt8)).take (9 - digits.length) =
      List.replicate (9 - (digits.take 9).length) 48 := by
    rw [List.take_replicate, List.length_take]
    congr 1
    omega
  rw [nanoseconds, List.take_append, hzeros, Bytes.decimalValue_append_zeros]
  rfl

theorem pointed_of_ne_nil (h : digits ≠ []) : pointed digits = 46 :: digits := by
  cases digits with
  | nil => exact absurd rfl h
  | cons d digits => rfl

theorem fraction?_point : fraction? (46 :: s) =
    if (s.takeWhile Octet.isDigit).isEmpty then none
    else some (nanosOf (s.takeWhile Octet.isDigit), s.dropWhile Octet.isDigit) := rfl

theorem fraction?_of_head?_ne (h : s.head? ≠ some 46) : fraction? s = some (0, s) := by
  rw [fraction?.eq_def]
  split
  · exact absurd rfl h
  · rfl

theorem exists_of_fraction? (h : fraction? s = some (n, rest)) :
    ∃ digits, s = pointed digits ++ rest ∧ IsFraction digits rest ∧ n = nanoseconds digits := by
  by_cases hpoint : s.head? = some 46
  · obtain ⟨s, rfl⟩ := List.head?_eq_some_iff.mp hpoint
    rw [fraction?_point] at h
    split at h
    · cases h
    · next hdigits =>
      obtain ⟨rfl, rfl⟩ := Prod.mk.inj (Option.some.inj h)
      rw [List.isEmpty_iff] at hdigits
      refine ⟨s.takeWhile Octet.isDigit, ?_, ⟨fun b hb => List.mem_takeWhile_imp hb,
        fun _ b hb => ?_, fun hnil => absurd hnil hdigits⟩, nanosOf_eq⟩
      · rw [pointed_of_ne_nil hdigits, List.cons_append, List.takeWhile_append_dropWhile]
      · have hend := List.head?_dropWhile_not Octet.isDigit s
        rw [Option.mem_def.mp hb] at hend
        exact hend
  · rw [fraction?_of_head?_ne hpoint] at h
    obtain ⟨rfl, rfl⟩ := Prod.mk.inj (Option.some.inj h)
    exact ⟨[], rfl, ⟨nofun, fun hne => absurd rfl hne, fun _ => hpoint⟩, rfl⟩

theorem fraction?_of_isFraction (h : IsFraction digits rest) :
    fraction? (pointed digits ++ rest) = some (nanoseconds digits, rest) := by
  by_cases hdigits : digits = []
  · subst hdigits
    exact fraction?_of_head?_ne (h.point rfl)
  · have hspan := Octet.span_isDigit h.isDigit (h.ends hdigits)
    rw [List.span_eq_takeWhile_dropWhile] at hspan
    obtain ⟨htake, hdrop⟩ := Prod.mk.inj hspan
    rw [pointed_of_ne_nil hdigits, List.cons_append, fraction?_point, htake, hdrop, nanosOf_eq,
      if_neg (by rwa [List.isEmpty_iff])]

/-- A fraction is read with all its digits. -/
theorem fraction?_eq_some_iff :
    fraction? s = some (n, rest) ↔
      ∃ digits, s = pointed digits ++ rest ∧ IsFraction digits rest ∧ n = nanoseconds digits := by
  refine ⟨exists_of_fraction?, ?_⟩
  rintro ⟨digits, rfl, h, rfl⟩
  exact fraction?_of_isFraction h

/-! ### Zones -/

/-- The front has no two digits. -/
theorem number?_eq_none_iff {width : Nat} : Field.number? width s = none ↔
    ∀ (ds : Digits width) (after : Bytes), s ≠ ds.octets ++ after := by
  constructor
  · rintro h ds after rfl
    rw [Field.number?_append] at h
    cases h
  · intro h
    rw [Option.eq_none_iff_forall_ne_some]
    rintro ⟨n, after⟩ hread
    obtain ⟨ds, hs, -⟩ := Field.number?_eq_some hread
    exact h ds after hs

theorem zoneMinutes?_colon : zoneMinutes? (58 :: s) = Field.number? 2 s := rfl

theorem zoneMinutes?_of_head?_ne (h : s.head? ≠ some 58) :
    zoneMinutes? s = some ((Field.number? 2 s).getD (0, s)) := by
  rw [zoneMinutes?.eq_def]
  split
  · exact absurd rfl h
  · cases Field.number? 2 s <;> rfl

/-- A digit is no colon. -/
theorem head?_octets_ne (ds : Digits 2) : (ds.octets ++ rest).head? ≠ some 58 := by
  obtain ⟨b, bs, hds, hdigit⟩ := ds.exists_octets_eq
  rw [hds, List.cons_append, List.head?_cons]
  rintro ⟨⟩
  cases hdigit

/-- An offset that is read is one of a zone with its sign in front. -/
theorem exists_of_zoneOffset? (h : zoneOffset? s = some (offset, rest)) :
    ∃ text, s = text ++ rest ∧
      ∀ sign : Sign, IsZone (sign.octet :: s) (sign.octet :: text) (sign.signed offset) := by
  simp only [zoneOffset?, Option.bind_eq_bind, Option.bind_eq_some_iff, Prod.exists] at h
  obtain ⟨_, s, hhours, _, s', hminutes, h⟩ := h
  obtain ⟨hours, rfl, rfl⟩ := Field.number?_eq_some hhours
  split at h
  · next hrange =>
    obtain ⟨rfl, rfl⟩ := Prod.mk.inj (Option.some.inj h)
    by_cases hcolon : s.head? = some 58
    · obtain ⟨s, rfl⟩ := List.head?_eq_some_iff.mp hcolon
      rw [zoneMinutes?_colon] at hminutes
      obtain ⟨minutes, rfl, rfl⟩ := Field.number?_eq_some hminutes
      exact ⟨hours.octets ++ 58 :: minutes.octets, by simp,
        fun sign => .separated sign hours minutes s' hrange.1 hrange.2⟩
    · rw [zoneMinutes?_of_head?_ne hcolon] at hminutes
      cases hread : Field.number? 2 s with
      | some x =>
        rw [hread] at hminutes
        obtain rfl := Option.some.inj hminutes
        obtain ⟨minutes, rfl, rfl⟩ := Field.number?_eq_some hread
        exact ⟨hours.octets ++ minutes.octets, by simp,
          fun sign => .compact sign hours minutes s' hrange.1 hrange.2⟩
      | none =>
        rw [hread] at hminutes
        obtain ⟨rfl, rfl⟩ := Prod.mk.inj (Option.some.inj hminutes)
        exact ⟨hours.octets, rfl,
          fun sign => .hours sign hours s hrange.1 hcolon (number?_eq_none_iff.mp hread)⟩
  · cases h

/-- After a sign an offset is read if there is one. -/
theorem zone_sign (sign : Sign) : zone (sign.octet :: s) =
    ((zoneOffset? s).map fun x => (sign.signed x.1, x.2)).getD (0, sign.octet :: s) := by
  cases sign with
  | east => exact congrArg (Option.getD · _) Option.map_id'.symm
  | west => rfl

theorem zone_of_head?_ne (hutc : s.head? ≠ some 90)
    (hsign : ∀ sign : Sign, s.head? ≠ some sign.octet) : zone s = (0, s) := by
  rw [zone.eq_def]
  split
  · exact absurd rfl hutc
  · exact absurd rfl (hsign .east)
  · exact absurd rfl (hsign .west)
  · rfl

/-- What is no zone is left. -/
theorem exists_isZone_or (s : Bytes) :
    (∃ text, s = text ++ (zone s).2 ∧ IsZone s text (zone s).1) ∨ zone s = (0, s) := by
  by_cases hutc : s.head? = some 90
  · obtain ⟨s, rfl⟩ := List.head?_eq_some_iff.mp hutc
    exact .inl ⟨[90], rfl, .utc s⟩
  by_cases hsign : ∃ sign : Sign, s.head? = some sign.octet
  · obtain ⟨sign, hsign⟩ := hsign
    obtain ⟨s, rfl⟩ := List.head?_eq_some_iff.mp hsign
    rw [zone_sign]
    cases hread : zoneOffset? s with
    | none => exact .inr rfl
    | some x =>
      obtain ⟨text, hs, hzone⟩ := exists_of_zoneOffset? hread
      exact .inl ⟨sign.octet :: text, congrArg _ hs, hzone sign⟩
  · exact .inr (zone_of_head?_ne hutc fun sign h => hsign ⟨sign, h⟩)

/-- A zone is read. -/
theorem zone_of_isZone (h : IsZone s text offset) :
    ∃ rest, s = text ++ rest ∧ zone s = (offset, rest) := by
  cases h with
  | utc rest => exact ⟨rest, rfl, rfl⟩
  | separated sign hours minutes rest hhours hminutes =>
    refine ⟨rest, by simp, ?_⟩
    rw [zone_sign]
    simp [zoneOffset?, zoneMinutes?_colon, hhours, hminutes, Sign.offset]
  | compact sign hours minutes rest hhours hminutes =>
    refine ⟨rest, by simp, ?_⟩
    rw [zone_sign]
    simp [zoneOffset?, zoneMinutes?_of_head?_ne (head?_octets_ne minutes), hhours, hminutes,
      Sign.offset]
  | hours sign hours rest hhours hcolon hnone =>
    refine ⟨rest, by simp, ?_⟩
    rw [zone_sign]
    simp [zoneOffset?, zoneMinutes?_of_head?_ne hcolon, number?_eq_none_iff.mpr hnone, hhours,
      Sign.offset]

/-- What is read as the zone stands at the front. -/
theorem exists_zoneAt (s : Bytes) :
    ∃ text, s = text ++ (zone s).2 ∧ ZoneAt s text (zone s).1 := by
  obtain ⟨text, hs, hzone⟩ | hnone := exists_isZone_or s
  · exact ⟨text, hs, .zone _ _ hzone⟩
  · by_cases hzone : ∃ text offset, IsZone s text offset
    · obtain ⟨text, offset, hzone⟩ := hzone
      obtain ⟨rest, hs, hread⟩ := zone_of_isZone hzone
      rw [hread]
      exact ⟨text, hs, .zone _ _ hzone⟩
    · rw [hnone]
      exact ⟨[], rfl, .none fun text offset h => hzone ⟨text, offset, h⟩⟩

/-- What stands at the front for the zone is read. -/
theorem zone_of_zoneAt (h : ZoneAt s text offset) :
    ∃ rest, s = text ++ rest ∧ zone s = (offset, rest) := by
  cases h with
  | zone text offset hzone => exact zone_of_isZone hzone
  | none hnone =>
    obtain ⟨text, -, hzone⟩ | hread := exists_isZone_or s
    · exact (hnone text _ hzone).elim
    · exact ⟨s, rfl, hread⟩

end Parts

/-! ### Timestamps -/

section Timestamps

variable {line : Bytes} {t : LineTimestamp}

/-- The octets in front of the rest of a line. -/
theorem take_length_sub (text rest : Bytes) :
    (text ++ rest).take ((text ++ rest).length - rest.length) = text := by
  rw [List.length_append, Nat.add_sub_cancel, List.take_left]

/-- What is read is a timestamp at the front of the line. -/
theorem exists_begins_of_timestamp? (h : timestamp? line = some t) :
    ∃ s : Stamp, s.Begins line ∧ t = s.reading := by
  simp only [timestamp?, Option.bind_eq_bind, Option.bind_eq_some_iff, Prod.exists] at h
  obtain ⟨_, _, hdate, nanos, rest, hfraction, seconds, hseconds, h⟩ := h
  obtain ⟨d, rfl, rfl⟩ := dateTime?_eq_some_iff.mp hdate
  obtain ⟨digits, rfl, hdigits, rfl⟩ := fraction?_eq_some_iff.mp hfraction
  obtain ⟨hreal, hsum⟩ := seconds?_eq_some_iff.mp hseconds
  obtain ⟨text, hrest, hzone⟩ := exists_zoneAt rest
  let s : Stamp := ⟨d, digits, text, (zone rest).1⟩
  have hline : d.text ++ (pointed digits ++ rest) = s.text ++ (zone rest).2 := by
    rw [Stamp.text, List.append_assoc, List.append_assoc, ← hrest]
  refine ⟨s, ⟨hreal, rest, rfl, hdigits, hzone⟩, ?_⟩
  rw [hline, take_length_sub, hsum] at h
  exact (Option.some.inj h).symm

/-- A timestamp at the front of a line is read. -/
theorem timestamp?_of_begins {s : Stamp} (h : s.Begins line) :
    timestamp? line = some s.reading := by
  obtain ⟨hreal, _, rfl, hdigits, hzone⟩ := h
  obtain ⟨rest', rfl, hread⟩ := zone_of_zoneAt hzone
  have hline : s.dateTime.text ++ (pointed s.fraction ++ (s.zone ++ rest')) = s.text ++ rest' := by
    simp [Stamp.text]
  rw [timestamp?, dateTime?_eq_some_iff.mpr ⟨s.dateTime, rfl, rfl⟩]
  simp only [Option.bind_eq_bind, Option.bind_some, fraction?_of_isFraction hdigits, hread,
    seconds?_eq_some_iff.mpr ⟨hreal, rfl⟩, hline, take_length_sub]
  rfl

/-- **The grammar of ISO timestamps**: a line has a timestamp just if one stands at its front, with
the text that belongs to it and with the seconds, the nanoseconds and the offset that it says. -/
theorem timestamp?_eq_some_iff : timestamp? line = some t ↔
    ∃ s : Stamp, s.Begins line ∧ t.text = s.text ∧
      t.epoch =
        Epoch.ofParts s.dateTime.seconds (nanoseconds s.fraction) - Binary64.ofInt s.offset := by
  constructor
  · intro h
    obtain ⟨s, hs, rfl⟩ := exists_begins_of_timestamp? h
    exact ⟨s, hs, rfl, rfl⟩
  · rintro ⟨s, hs, htext, hepoch⟩
    rw [timestamp?_of_begins hs]
    obtain ⟨epoch, text⟩ := t
    rw [Stamp.reading, ← htext, ← hepoch]

end Timestamps

end Iso

end LogWatch
