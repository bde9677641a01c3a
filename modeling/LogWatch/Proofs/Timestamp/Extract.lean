import LogWatch.Proofs.Timestamp.Iso
import LogWatch.Timestamp.Extract

/-!
# A timestamp by itself

The text of a timestamp is a part of its line, and it stands for the same instant when the line
around it is gone (`LogWatch.LineTimestamp.extract?_alone`). In the forms of a fixed length what
follows is not looked at. An ISO timestamp ends where what follows says so, but the end of a text is
an end as well; and the text of the forms with brackets is put in brackets again.

It remains to see that no other form is found in the text before its own: which forms are tried
depends on the first octet, and the two that share one are told apart by the octet after the year,
or after the day.
-/

namespace LogWatch

/-! ### ISO timestamps -/

namespace Iso

variable {s rest digits text : Bytes} {offset : Int} {line : Bytes} {t : LineTimestamp}

/-- Without what follows it, a zone remains the same. -/
theorem IsZone.alone (h : IsZone s text offset) : IsZone text text offset := by
  cases h with
  | utc rest => exact .utc []
  | separated sign hours minutes rest hhours hminutes =>
    simpa using IsZone.separated sign hours minutes [] hhours hminutes
  | compact sign hours minutes rest hhours hminutes =>
    simpa using IsZone.compact sign hours minutes [] hhours hminutes
  | hours sign hours rest hhours hcolon hnone =>
    have hempty (minutes : Digits 2) (after : Bytes) : [] ≠ minutes.octets ++ after := by
      obtain ⟨b, bs, hds, -⟩ := minutes.exists_octets_eq
      rw [hds]
      exact (List.cons_ne_nil _ _).symm
    simpa using IsZone.hours sign hours [] hhours (by simp) hempty

theorem ZoneAt.alone (h : ZoneAt s text offset) : ZoneAt text text offset := by
  cases h with
  | zone text offset hzone => exact .zone text offset hzone.alone
  | none hnone => exact .none nofun

/-- Nor does it matter for the digits after the point what follows the zone. -/
theorem IsFraction.of_append (h : IsFraction digits (text ++ rest)) : IsFraction digits text where
  isDigit := h.isDigit
  ends hne b hb := h.ends hne b (by rw [List.head?_append, hb]; rfl)
  point hnil hpoint := h.point hnil (by rw [List.head?_append, hpoint]; rfl)

/-- **An ISO timestamp stands by itself.** -/
theorem timestamp?_alone (h : timestamp? line = some t) :
    ∃ rest, line = t.text ++ rest ∧ timestamp? t.text = some t := by
  obtain ⟨s, ⟨hreal, rest, rfl, hdigits, hzone⟩, rfl⟩ := exists_begins_of_timestamp? h
  obtain ⟨rest, rfl, -⟩ := zone_of_zoneAt hzone
  refine ⟨rest, by simp [Stamp.reading, Stamp.text], timestamp?_of_begins ?_⟩
  exact ⟨hreal, s.zone, rfl, hdigits.of_append, hzone.alone⟩

end Iso

/-! ### Timestamps of nginx logs -/

namespace Nginx

variable {line : Bytes} {t : LineTimestamp}

/-- **A timestamp of the error log is read again** before whatever follows. -/
theorem exists_of_errorTimestamp? (h : errorTimestamp? line = some t) :
    (∃ rest, line = t.text ++ rest) ∧
      (∃ (year : Digits 4) (after : Bytes), t.text = year.octets ++ 47 :: after) ∧
      ∀ rest, errorTimestamp? (t.text ++ rest) = some t := by
  rw [errorTimestamp?] at h
  obtain ⟨year, _, h₁, rfl⟩ := Field.exists_of_number?_bind h
  obtain ⟨_, h₂, rfl⟩ := Field.exists_of_octet?_bind h₁
  obtain ⟨month, _, h₃, rfl⟩ := Field.exists_of_number?_bind h₂
  obtain ⟨_, h₄, rfl⟩ := Field.exists_of_octet?_bind h₃
  obtain ⟨day, _, h₅, rfl⟩ := Field.exists_of_number?_bind h₄
  obtain ⟨_, h₆, rfl⟩ := Field.exists_of_octet?_bind h₅
  obtain ⟨hour, _, h₇, rfl⟩ := Field.exists_of_number?_bind h₆
  obtain ⟨_, h₈, rfl⟩ := Field.exists_of_octet?_bind h₇
  obtain ⟨minute, _, h₉, rfl⟩ := Field.exists_of_number?_bind h₈
  obtain ⟨_, h₁₀, rfl⟩ := Field.exists_of_octet?_bind h₉
  obtain ⟨second, rest, h₁₁, rfl⟩ := Field.exists_of_number?_bind h₁₀
  obtain ⟨seconds, hseconds, h⟩ := Option.bind_eq_some_iff.mp h₁₁
  obtain ⟨text, htext⟩ : ∃ text : Bytes, text = year.octets ++ 47 :: (month.octets ++ 47 ::
    (day.octets ++ 32 :: (hour.octets ++ 58 :: (minute.octets ++ 58 :: second.octets)))) := ⟨_, rfl⟩
  have hline (rest : Bytes) : year.octets ++ 47 :: (month.octets ++ 47 :: (day.octets ++ 32 ::
      (hour.octets ++ 58 :: (minute.octets ++ 58 :: (second.octets ++ rest))))) = text ++ rest := by
    simp [htext]
  have hlength : text.length = 19 := by simp [htext, Digits.length_octets]
  rw [hline, List.take_left' hlength] at h
  obtain rfl := Option.some.inj h
  refine ⟨⟨rest, hline rest⟩, ⟨year, _, htext⟩, fun rest => ?_⟩
  rw [errorTimestamp?, List.take_left' hlength, ← hline]
  exact Field.number?_bind <| Field.octet?_bind <| Field.number?_bind <| Field.octet?_bind <|
    Field.number?_bind <| Field.octet?_bind <| Field.number?_bind <| Field.octet?_bind <|
    Field.number?_bind <| Field.octet?_bind <| Field.number?_bind <|
    Option.bind_eq_some_iff.mpr ⟨seconds, hseconds, rfl⟩

/-- **A timestamp of the access log is read again** before its closing bracket and whatever
follows. -/
theorem exists_of_bracketed? (h : bracketed? line = some t) :
    (∃ rest, line = t.text ++ 93 :: rest) ∧
      (∃ (day : Digits 2) (after : Bytes), t.text = day.octets ++ 47 :: after) ∧
      t.text.length = accessLength ∧ ∀ rest, bracketed? (t.text ++ 93 :: rest) = some t := by
  rw [bracketed?] at h
  obtain ⟨day, _, h₁, rfl⟩ := Field.exists_of_number?_bind h
  obtain ⟨_, h₂, rfl⟩ := Field.exists_of_octet?_bind h₁
  obtain ⟨month, _, h₃, rfl⟩ := Field.exists_of_month?_bind h₂
  obtain ⟨_, h₄, rfl⟩ := Field.exists_of_octet?_bind h₃
  obtain ⟨year, _, h₅, rfl⟩ := Field.exists_of_number?_bind h₄
  obtain ⟨_, h₆, rfl⟩ := Field.exists_of_octet?_bind h₅
  obtain ⟨hour, _, h₇, rfl⟩ := Field.exists_of_number?_bind h₆
  obtain ⟨_, h₈, rfl⟩ := Field.exists_of_octet?_bind h₇
  obtain ⟨minute, _, h₉, rfl⟩ := Field.exists_of_number?_bind h₈
  obtain ⟨_, h₁₀, rfl⟩ := Field.exists_of_octet?_bind h₉
  obtain ⟨second, _, h₁₁, rfl⟩ := Field.exists_of_number?_bind h₁₀
  obtain ⟨_, h₁₂, rfl⟩ := Field.exists_of_octet?_bind h₁₁
  obtain ⟨sign, _, h₁₃, hsign, rfl⟩ := Field.exists_of_oneOf?_bind h₁₂
  obtain ⟨hours, _, h₁₄, rfl⟩ := Field.exists_of_number?_bind h₁₃
  obtain ⟨minutes, _, h₁₅, rfl⟩ := Field.exists_of_number?_bind h₁₄
  obtain ⟨rest, h₁₆, rfl⟩ := Field.exists_of_octet?_bind h₁₅
  obtain ⟨seconds, hseconds, h⟩ := Option.bind_eq_some_iff.mp h₁₆
  obtain ⟨text, htext⟩ : ∃ text : Bytes, text = day.octets ++ 47 :: (Field.monthName month ++ 47 ::
    (year.octets ++ 58 :: (hour.octets ++ 58 :: (minute.octets ++ 58 :: (second.octets ++ 32 ::
    sign :: (hours.octets ++ minutes.octets)))))) := ⟨_, rfl⟩
  have hline (rest : Bytes) : day.octets ++ 47 :: (Field.monthName month ++ 47 :: (year.octets ++
      58 :: (hour.octets ++ 58 :: (minute.octets ++ 58 :: (second.octets ++ 32 :: sign ::
      (hours.octets ++ (minutes.octets ++ 93 :: rest))))))) = text ++ 93 :: rest := by
    simp [htext]
  have hlength : text.length = accessLength := by
    simp [htext, Digits.length_octets, Field.length_monthName, accessLength]
  rw [hline, List.take_left' hlength] at h
  obtain rfl := Option.some.inj h
  refine ⟨⟨rest, hline rest⟩, ⟨day, _, htext⟩, hlength, fun rest => ?_⟩
  rw [bracketed?, List.take_left' hlength, ← hline]
  exact Field.number?_bind <| Field.octet?_bind <| Field.month?_bind <| Field.octet?_bind <|
    Field.number?_bind <| Field.octet?_bind <| Field.number?_bind <| Field.octet?_bind <|
    Field.number?_bind <| Field.octet?_bind <| Field.number?_bind <| Field.octet?_bind <|
    Field.oneOf?_bind hsign <| Field.number?_bind <| Field.number?_bind <| Field.octet?_bind <|
    Option.bind_eq_some_iff.mpr ⟨seconds, hseconds, rfl⟩

/-- The first place that has the form is one of those in the line. -/
theorem exists_of_accessTimestamp? (h : accessTimestamp? line = some t) :
    ∃ before inner, line = before ++ 91 :: inner ∧ bracketed? inner = some t := by
  induction line with
  | nil => cases h
  | cons b s ih =>
    rw [accessTimestamp?] at h
    split at h
    · next u hread =>
      obtain rfl := Option.some.inj h
      split at hread
      · next hb => exact ⟨[], s, by rw [eq_of_beq hb]; rfl, hread⟩
      · cases hread
    · obtain ⟨before, inner, rfl, hinner⟩ := ih h
      exact ⟨b :: before, inner, rfl, hinner⟩

end Nginx

/-! ### Kernel timestamps -/

namespace Plain

variable {text whole fraction rest : Bytes} {b : UInt8}

/-- A plain decimal has an octet, and all are digits or points. -/
theorem of_split? (h : split? text = some (whole, fraction)) :
    text ≠ [] ∧ ∀ b ∈ text, Octet.isDigit b = true ∨ b = 46 := by
  have hall : ∀ b ∈ text.takeWhile Octet.isDigit, Octet.isDigit b = true ∨ b = 46 := fun b hb =>
    .inl (List.mem_takeWhile_imp hb)
  rw [split?, List.span_eq_takeWhile_dropWhile] at h
  rw [← List.takeWhile_append_dropWhile (p := Octet.isDigit) (l := text)]
  generalize text.takeWhile Octet.isDigit = whole' at h hall ⊢
  generalize text.dropWhile Octet.isDigit = rest at h ⊢
  cases rest with
  | nil =>
    cases whole' with
    | nil => cases h
    | cons c whole' => exact ⟨by simp, by simpa using hall⟩
  | cons b fraction' =>
    simp only at h
    split at h
    · next hb =>
      simp only [Bool.and_eq_true, beq_iff_eq, List.all_eq_true] at hb
      refine ⟨by simp, fun c hc => ?_⟩
      rw [List.mem_append, List.mem_cons] at hc
      obtain hc | rfl | hc := hc
      · exact hall c hc
      · exact .inr hb.1.1
      · exact .inl (hb.1.2 c hc)
    · cases h

end Plain

namespace Kernel

variable {line rest : Bytes} {t : LineTimestamp}

/-- What is read stands before a bracket, in which there are only spaces before it. -/
theorem exists_of_timestamp? (h : timestamp? line = some t) :
    (∃ spaces after, line = 91 :: (spaces ++ (t.text ++ 93 :: after)) ∧ ∀ b ∈ spaces, b = 32) ∧
      t.text.length < bracketLimit - 1 ∧ Plain.read? t.text = some t.epoch := by
  obtain ⟨⟨u, rest⟩, hfront, rfl⟩ := Option.map_eq_some_iff.mp h
  rw [front?] at hfront
  obtain ⟨inner, h₁, rfl⟩ := Field.exists_of_octet?_bind hfront
  obtain ⟨⟨bracketed, after⟩, hsplit, h₂⟩ := Option.bind_eq_some_iff.mp h₁
  obtain ⟨epoch, hread, h₃⟩ := Option.bind_eq_some_iff.mp h₂
  obtain ⟨rfl, -⟩ := Prod.mk.inj (Option.some.inj h₃)
  obtain ⟨hinner, -⟩ := Bytes.splitAtFirst?_eq_some hsplit
  have hwhole : inner = bracketed ++ 93 :: (after ++ inner.drop (bracketLimit - 1)) := by
    rw [← List.cons_append, ← List.append_assoc, ← hinner, List.take_append_drop]
  have hbracketed := List.takeWhile_append_dropWhile (p := (· == 32)) (l := bracketed)
  have hspaces : ∀ b ∈ bracketed.takeWhile (· == 32), b = 32 := fun b hb => by
    simpa using List.mem_takeWhile_imp hb
  refine ⟨⟨bracketed.takeWhile (· == 32), after ++ inner.drop (bracketLimit - 1), ?_, hspaces⟩, ?_,
    hread⟩
  · rwa [← List.append_assoc, hbracketed, List.cons_inj_right]
  · have hlength := congrArg List.length hinner
    have hshort := (List.dropWhile_suffix (· == 32) (l := bracketed)).length_le
    rw [List.length_take, List.length_append, List.length_cons] at hlength
    change (bracketed.dropWhile (· == 32)).length < _
    omega

/-- A plain decimal in brackets is read. -/
theorem timestamp?_brackets {text : Bytes} {epoch : Float} (hread : Plain.read? text = some epoch)
    (hlength : text.length < bracketLimit - 1) :
    timestamp? (91 :: (text ++ [93])) = some ⟨epoch, text⟩ := by
  obtain ⟨⟨whole, fraction⟩, hsplit, -⟩ := Option.map_eq_some_iff.mp hread
  obtain ⟨-, hoctets⟩ := Plain.of_split? hsplit
  have hclosing : 93 ∉ text := fun hmem => by simpa [Octet.isDigit] using hoctets 93 hmem
  have hspaces : text.dropWhile (· == 32) = text := by
    rw [List.dropWhile_eq_self_iff]
    rintro hpos hspace
    simpa [Octet.isDigit, eq_of_beq hspace] using hoctets _ (List.getElem_mem hpos)
  have htake : (text ++ [93]).take (bracketLimit - 1) = text ++ [93] := by
    rw [List.take_of_length_le]
    rw [List.length_append, List.length_singleton]
    exact hlength
  simp [timestamp?, front?, htake, Bytes.splitAtFirst?_append hclosing, hspaces, hread]

/-- **A kernel timestamp stands by itself** in its brackets. -/
theorem timestamp?_alone (h : timestamp? line = some t) :
    timestamp? (91 :: (t.text ++ [93])) = some t := by
  obtain ⟨-, hlength, hread⟩ := exists_of_timestamp? h
  exact timestamp?_brackets hread hlength

/-- What begins with digits and a slash is none. -/
theorem timestamp?_eq_none (day : Digits 2) :
    timestamp? (91 :: (day.octets ++ 47 :: rest)) = none := by
  rw [Option.eq_none_iff_forall_ne_some]
  intro t ht
  obtain ⟨⟨spaces, after, hline, hspaces⟩, -, hread⟩ := exists_of_timestamp? ht
  obtain ⟨⟨whole, fraction⟩, hsplit, -⟩ := Option.map_eq_some_iff.mp hread
  obtain ⟨-, hoctets⟩ := Plain.of_split? hsplit
  replace hline := (List.cons.inj hline).2
  -- there are no spaces in front of a digit
  have hnone : spaces = [] := by
    cases spaces with
    | nil => rfl
    | cons b spaces =>
      obtain ⟨d, ds, hds, hdigit⟩ := day.exists_octets_eq
      rw [hds] at hline
      rw [(List.cons.inj hline).1, hspaces b List.mem_cons_self] at hdigit
      cases hdigit
  -- the slash is no part of a decimal, and no digit is a bracket
  rw [hnone, List.nil_append] at hline
  obtain ⟨as, htext, has⟩ | ⟨bs, hday, hbs⟩ := List.append_eq_append_iff.mp hline
  · cases as with
    | nil => cases (List.cons.inj has).1
    | cons a as =>
      have hslash := hoctets 47 (by rw [htext, ← (List.cons.inj has).1]; simp)
      simp [Octet.isDigit] at hslash
  · cases bs with
    | nil => cases (List.cons.inj hbs).1
    | cons b bs =>
      have hbracket := day.isDigit 93 (by rw [hday, ← (List.cons.inj hbs).1]; simp)
      cases hbracket

end Kernel

/-! ### Syslog timestamps -/

namespace Syslog

variable {α : Type} {x : α} {now : WallTime} {s line body rest : Bytes} {t : LineTimestamp}
  {stamp : Int → Written}

/-- The day of the month, with a space in place of its first digit if that is missing. -/
def day? (s : Bytes) : Option (Nat × Bytes) :=
  match s with
  | 32 :: rest => Field.number? 1 rest
  | _ => Field.number? 2 s

theorem day?_bind_eq {k : Nat × Bytes → Option α} : day? s >>= k =
    match s with
    | 32 :: rest => Field.number? 1 rest >>= k
    | _ => Field.number? 2 s >>= k := by
  rw [day?.eq_def]
  split <;> rfl

/-- A day of two digits. -/
theorem day?_append (ds : Digits 2) : day? (ds.octets ++ rest) = some (ds.value, rest) := by
  rw [day?.eq_def]
  split
  · next heq =>
    obtain ⟨b, bs, hds, hdigit⟩ := ds.exists_octets_eq
    rw [hds] at heq
    rw [(List.cons.inj heq).1] at hdigit
    cases hdigit
  · exact Field.number?_append ds

/-- The day takes two octets. -/
theorem exists_of_day?_bind {k : Nat × Bytes → Option α} (h : day? s >>= k = some x) :
    ∃ (day : Nat) (text rest : Bytes), k (day, rest) = some x ∧ text.length = 2 ∧
      (∀ rest, day? (text ++ rest) = some (day, rest)) ∧ s = text ++ rest := by
  obtain ⟨⟨day, rest⟩, hread, hk⟩ := Option.bind_eq_some_iff.mp h
  rw [day?.eq_def] at hread
  split at hread
  · next s =>
    obtain ⟨ds, rfl, rfl⟩ := Field.number?_eq_some hread
    exact ⟨_, 32 :: ds.octets, rest, hk, by simp [ds.length_octets],
      fun rest => Field.number?_append ds, rfl⟩
  · obtain ⟨ds, rfl, rfl⟩ := Field.number?_eq_some hread
    exact ⟨_, ds.octets, rest, hk, ds.length_octets, fun rest => day?_append ds, rfl⟩

/-- **The short form is read again** before whatever follows. -/
theorem exists_of_stamp? (h : stamp? body = some stamp) :
    ∃ text, (∃ rest, body = text ++ rest) ∧ text.length = stampLength ∧
      (∃ (month : Fin 12) (after : Bytes), text = Field.monthName month ++ after) ∧
      ∀ rest, stamp? (text ++ rest) = some stamp := by
  rw [stamp?] at h
  obtain ⟨month, _, h₁, rfl⟩ := Field.exists_of_month?_bind h
  obtain ⟨_, h₂, rfl⟩ := Field.exists_of_octet?_bind h₁
  obtain ⟨day, dayText, _, h₃, hday, hread, rfl⟩ := exists_of_day?_bind (day?_bind_eq.trans h₂)
  obtain ⟨_, h₄, rfl⟩ := Field.exists_of_octet?_bind h₃
  obtain ⟨hour, _, h₅, rfl⟩ := Field.exists_of_number?_bind h₄
  obtain ⟨_, h₆, rfl⟩ := Field.exists_of_octet?_bind h₅
  obtain ⟨minute, _, h₇, rfl⟩ := Field.exists_of_number?_bind h₆
  obtain ⟨_, h₈, rfl⟩ := Field.exists_of_octet?_bind h₇
  obtain ⟨second, rest, h₉, rfl⟩ := Field.exists_of_number?_bind h₈
  obtain rfl := Option.some.inj h₉
  have hline (rest : Bytes) :
      Field.monthName month ++ 32 :: (dayText ++ 32 :: (hour.octets ++ 58 ::
        (minute.octets ++ 58 :: (second.octets ++ rest)))) =
      Field.monthName month ++ 32 :: (dayText ++ 32 :: (hour.octets ++ 58 ::
        (minute.octets ++ 58 :: second.octets))) ++ rest := by
    simp
  refine ⟨_, ⟨rest, hline rest⟩, ?_, ⟨month, _, rfl⟩, fun rest => ?_⟩
  · simp [Digits.length_octets, Field.length_monthName, hday, stampLength]
  · rw [stamp?, ← hline]
    exact Field.month?_bind <| Field.octet?_bind <| day?_bind_eq.symm.trans <|
      Option.bind_eq_some_iff.mpr ⟨_, hread _, Field.octet?_bind <| Field.number?_bind <|
        Field.octet?_bind <| Field.number?_bind <| Field.octet?_bind <| Field.number?_bind rfl⟩

/-- What follows the priority stands at the end of the line. -/
theorem exists_of_body? (h : body? line = some body) : ∃ before, line = before ++ body := by
  rw [body?.eq_def] at h
  split at h
  · next s =>
    obtain ⟨⟨priority, rest⟩, hfront, rfl⟩ := Option.map_eq_some_iff.mp h
    rw [frontPriority?] at hfront
    obtain ⟨inner, h₁, hinner⟩ := Field.exists_of_octet?_bind hfront
    obtain ⟨⟨digits, after⟩, -, h₂⟩ := Option.bind_eq_some_iff.mp h₁
    dsimp only at h₂
    split at h₂
    · cases h₂
    · obtain ⟨ds, after, h₃, rfl⟩ := Field.exists_of_number?_bind h₂
      dsimp only at h₃
      split at h₃
      · obtain ⟨-, rfl⟩ := Prod.mk.inj (Option.some.inj h₃)
        refine ⟨60 :: (ds.octets ++ after.take 1), ?_⟩
        rw [hinner, List.cons_append, List.append_assoc, List.take_append_drop]
      · cases h₃
  · obtain rfl := Option.some.inj h
    exact ⟨[], rfl⟩

/-- A line that begins with a capital letter has no priority. -/
theorem body?_of_capital {b : UInt8} (hb : (65 ≤ b && b ≤ 90) = true) (hs : s = b :: rest) :
    body? s = some s := by
  rw [body?.eq_def]
  split
  · rw [← (List.cons.inj hs).1] at hb
    cases hb
  · rfl

/-- **A syslog timestamp stands by itself**, as an ISO timestamp or as a syslog timestamp that
begins with a capital letter. -/
theorem timestamp?_alone (h : timestamp? now line = some t) :
    (∃ before rest, line = before ++ (t.text ++ rest)) ∧
      (Iso.timestamp? t.text = some t ∨
        (∃ b after, t.text = b :: after ∧ (65 ≤ b && b ≤ 90) = true) ∧
          timestamp? now t.text = some t) := by
  obtain ⟨body, hbody, hread⟩ := Option.bind_eq_some_iff.mp h
  obtain ⟨before, rfl⟩ := exists_of_body? hbody
  split at hread
  · next rest =>
    obtain ⟨after, hrest, halone⟩ := Iso.timestamp?_alone hread
    refine ⟨⟨before ++ [49, 32], after, ?_⟩, .inl halone⟩
    simp [hrest]
  · obtain ⟨stamp, hstamp, h₁⟩ := Option.bind_eq_some_iff.mp hread
    obtain ⟨seconds, hseconds, h₂⟩ := Option.bind_eq_some_iff.mp h₁
    obtain ⟨text, ⟨rest, rfl⟩, hlength, ⟨month, after, hmonth⟩, hagain⟩ := exists_of_stamp? hstamp
    rw [List.take_left' hlength] at h₂
    obtain rfl := Option.some.inj h₂
    obtain ⟨b, name, hname, hb⟩ := Field.exists_monthName_eq month
    have hcapital : text = b :: (name ++ after) := by
      rw [hmonth, hname]
      rfl
    refine ⟨⟨before, rest, rfl⟩, .inr ⟨⟨b, name ++ after, hcapital, hb⟩, ?_⟩⟩
    rw [timestamp?, body?_of_capital hb hcapital]
    dsimp only [Option.bind_eq_bind, Option.bind_some]
    split
    · rw [← (List.cons.inj hcapital).1] at hb
      cases hb
    · have halone := hagain []
      rw [List.append_nil] at halone
      rw [halone, Option.bind_some, hseconds, Option.bind_some, List.take_of_length_le hlength.le]
      rfl

end Syslog

/-! ### Any line -/

namespace LineTimestamp

/-- A form of timestamps. -/
inductive Form
  | kernel
  | iso
  | nginxError
  | syslog
  | nginxAccess

/-- A text in the brackets of its form, if that has brackets. -/
def Form.enclose (form : Form) (text : Bytes) : Bytes :=
  match form with
  | .kernel | .nginxAccess => 91 :: (text ++ [93])
  | .iso | .nginxError | .syslog => text

/-- **The form in which a timestamp is found** in a line. -/
inductive FoundIn (now : WallTime) (line : Bytes) (t : LineTimestamp) : Form → Prop
  | kernel : Kernel.timestamp? line = some t → FoundIn now line t .kernel
  | iso : Iso.timestamp? line = some t → FoundIn now line t .iso
  | nginxError : Nginx.errorTimestamp? line = some t → FoundIn now line t .nginxError
  /-- Only where the line begins with a priority or a name. -/
  | syslog (b : UInt8) (rest : Bytes) : line = b :: rest → (b == 60 || (65 ≤ b && b ≤ 90)) = true →
      Syslog.timestamp? now line = some t → FoundIn now line t .syslog
  /-- Only if nothing is found at the front. -/
  | nginxAccess : atFront? now line = none → Nginx.accessTimestamp? line = some t →
      FoundIn now line t .nginxAccess

variable {now : WallTime} {line s : Bytes} {b : UInt8} {t : LineTimestamp} {form : Form}

theorem atFront?_of_isDigit (hb : Octet.isDigit b = true) : atFront? now (b :: s) =
    match Iso.timestamp? (b :: s) with
    | some t => some t
    | none => Nginx.errorTimestamp? (b :: s) := by
  have hbracket : ¬ (b == 91) = true := by
    intro h
    rw [eq_of_beq h] at hb
    cases hb
  rw [atFront?, if_neg hbracket]
  exact if_pos hb

theorem atFront?_of_syslog (hb : (b == 60 || (65 ≤ b && b ≤ 90)) = true) :
    atFront? now (b :: s) = Syslog.timestamp? now (b :: s) := by
  have hbracket : ¬ (b == 91) = true := by
    intro h
    rw [eq_of_beq h] at hb
    cases hb
  have hdigit : ¬ Octet.isDigit b = true := by
    intro h
    simp only [Octet.isDigit, Bool.and_eq_true, Bool.or_eq_true, beq_iff_eq, decide_eq_true_iff,
      UInt8.le_iff_toNat_le, ← UInt8.toNat_inj] at h hb
    simp at h hb
    omega
  rw [atFront?, if_neg hbracket, if_neg hdigit, if_pos hb]

theorem extract?_of_atFront? (h : atFront? now line = some t) : extract? now line = some t := by
  rw [extract?, h]

/-- What is found has a form. -/
theorem exists_foundIn (h : extract? now line = some t) : ∃ form, FoundIn now line t form := by
  rw [extract?] at h
  split at h
  · next u hfront =>
    obtain rfl := Option.some.inj h
    cases line with
    | nil => cases hfront
    | cons b s =>
      have hread := hfront
      rw [atFront?] at hread
      split at hread
      · exact ⟨.kernel, .kernel hread⟩
      split at hread
      · split at hread
        · next v hiso =>
          exact ⟨.iso, .iso (hiso.trans hread)⟩
        · exact ⟨.nginxError, .nginxError hread⟩
      split at hread
      · next hb => exact ⟨.syslog, .syslog b s rfl hb hread⟩
      · cases hread
  · next hfront => exact ⟨.nginxAccess, .nginxAccess hfront h⟩

theorem extract?_of_iso (h : Iso.timestamp? line = some t) : extract? now line = some t := by
  obtain ⟨stamp, ⟨-, rest, hline, -, -⟩, -⟩ := Iso.exists_begins_of_timestamp? h
  obtain ⟨b, bs, hyear, hb⟩ := stamp.dateTime.year.exists_octets_eq
  rw [Iso.DateTime.text, hyear] at hline
  refine extract?_of_atFront? ?_
  rw [hline, List.cons_append, List.cons_append, atFront?_of_isDigit hb, ← List.cons_append,
    ← List.cons_append, ← hline, h]

/-- What has a slash after the year is no ISO timestamp. -/
theorem isoTimestamp?_eq_none (year : Digits 4) :
    Iso.timestamp? (year.octets ++ 47 :: s) = none := by
  rw [Option.eq_none_iff_forall_ne_some]
  intro t ht
  obtain ⟨stamp, ⟨-, rest, hline, -, -⟩, -⟩ := Iso.exists_begins_of_timestamp? ht
  rw [Iso.DateTime.text, List.append_assoc, List.cons_append] at hline
  have hlength := year.length_octets.trans stamp.dateTime.year.length_octets.symm
  cases (List.cons.inj (List.append_inj hline hlength).2).1

theorem extract?_of_errorTimestamp? (h : Nginx.errorTimestamp? line = some t) :
    extract? now line = some t := by
  obtain ⟨⟨rest, hline⟩, ⟨year, after, htext⟩, -⟩ := Nginx.exists_of_errorTimestamp? h
  obtain ⟨b, bs, hyear, hb⟩ := year.exists_octets_eq
  have hnone := isoTimestamp?_eq_none (s := after ++ rest) year
  rw [htext, List.append_assoc, List.cons_append] at hline
  rw [← hline] at hnone
  refine extract?_of_atFront? ?_
  rw [hyear, List.cons_append] at hline
  rw [hline, atFront?_of_isDigit hb, ← hline, hnone]
  exact h

/-- The text is a part of the line. -/
theorem FoundIn.exists_eq_append (h : FoundIn now line t form) :
    ∃ before after, line = before ++ t.text ++ after := by
  cases h with
  | kernel hread =>
    obtain ⟨⟨spaces, after, rfl, -⟩, -⟩ := Kernel.exists_of_timestamp? hread
    exact ⟨91 :: spaces, 93 :: after, by simp⟩
  | iso hread =>
    obtain ⟨rest, rfl, -⟩ := Iso.timestamp?_alone hread
    exact ⟨[], rest, rfl⟩
  | nginxError hread =>
    obtain ⟨⟨rest, rfl⟩, -⟩ := Nginx.exists_of_errorTimestamp? hread
    exact ⟨[], rest, rfl⟩
  | syslog b s hb hline hread =>
    obtain ⟨⟨before, rest, rfl⟩, -⟩ := Syslog.timestamp?_alone hread
    exact ⟨before, rest, by simp⟩
  | nginxAccess hfront hread =>
    obtain ⟨before, inner, rfl, hinner⟩ := Nginx.exists_of_accessTimestamp? hread
    obtain ⟨⟨rest, rfl⟩, -⟩ := Nginx.exists_of_bracketed? hinner
    exact ⟨before ++ [91], 93 :: rest, by simp⟩

/-- A timestamp of the access log in its brackets is none of the kernel. -/
theorem extract?_of_bracketed? {inner : Bytes} (h : Nginx.bracketed? inner = some t) :
    extract? now (91 :: (t.text ++ [93])) = some t := by
  obtain ⟨-, ⟨day, after, htext⟩, -, halone⟩ := Nginx.exists_of_bracketed? h
  have hfront : atFront? now (91 :: (t.text ++ [93])) = none := by
    rw [htext, List.append_assoc]
    exact Kernel.timestamp?_eq_none day
  rw [extract?, hfront]
  dsimp only
  rw [Nginx.accessTimestamp?, if_pos (by rfl), halone []]

/-- The text is all that is needed. -/
theorem FoundIn.extract?_enclose (h : FoundIn now line t form) :
    extract? now (form.enclose t.text) = some t := by
  cases h with
  | kernel hread => exact extract?_of_atFront? (Kernel.timestamp?_alone hread)
  | iso hread =>
    obtain ⟨rest, -, halone⟩ := Iso.timestamp?_alone hread
    exact extract?_of_iso halone
  | nginxError hread =>
    obtain ⟨-, -, halone⟩ := Nginx.exists_of_errorTimestamp? hread
    have halone := halone []
    rw [List.append_nil] at halone
    exact extract?_of_errorTimestamp? halone
  | syslog b s hb hline hread =>
    obtain ⟨-, hiso | ⟨⟨b, after, htext, hb⟩, halone⟩⟩ := Syslog.timestamp?_alone hread
    · exact extract?_of_iso hiso
    · rw [htext] at halone
      refine extract?_of_atFront? ?_
      rw [Form.enclose, htext, atFront?_of_syslog (by rw [hb, Bool.or_true]), halone]
  | nginxAccess hfront hread =>
    obtain ⟨before, inner, rfl, hinner⟩ := Nginx.exists_of_accessTimestamp? hread
    exact extract?_of_bracketed? hinner

/-- **A timestamp is found again** in its text, whatever was around it in the line. -/
theorem extract?_alone (h : extract? now line = some t) :
    (∃ before after, line = before ++ t.text ++ after) ∧
      (∃ form, FoundIn now line t form) ∧
      ∀ form, FoundIn now line t form → extract? now (form.enclose t.text) = some t := by
  obtain ⟨form, hfound⟩ := exists_foundIn h
  exact ⟨hfound.exists_eq_append, ⟨form, hfound⟩, fun form hfound => hfound.extract?_enclose⟩

/-- In `<3>1 2023-10-27T10:00:00+02 a` the timestamp ends before the last space, and the hours of
its zone are read without minutes, with and without the line around them. -/
theorem extract?_alone_after_priority :
    let line := [60, 51, 62, 49, 32, 50, 48, 50, 51, 45, 49, 48, 45, 50, 55, 84, 49, 48, 58, 48, 48,
      58, 48, 48, 43, 48, 50, 32, 97]
    ∃ t, extract? ⟨0, 0⟩ line = some t ∧ t.text = (line.drop 5).take 22 ∧
      extract? ⟨0, 0⟩ t.text = some t := by
  intro line
  obtain ⟨t, hread, htext⟩ :
      ∃ t, Syslog.timestamp? ⟨0, 0⟩ line = some t ∧ t.text = (line.drop 5).take 22 := ⟨_, rfl, rfl⟩
  have h : extract? ⟨0, 0⟩ line = some t := extract?_of_atFront? hread
  obtain ⟨-, -, halone⟩ := extract?_alone h
  exact ⟨t, h, htext, halone .syslog (.syslog 60 _ rfl rfl hread)⟩

end LineTimestamp

end LogWatch
