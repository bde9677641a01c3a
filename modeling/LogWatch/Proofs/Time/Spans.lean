import LogWatch.Proofs.Json.Numbers
import LogWatch.Proofs.Number.Plain
import LogWatch.Time.Span

/-!
# The grammar of spans

A span is written as one or more **segments**, each a number with its unit, and nothing stands
between them or around them but the blanks that are cut off at both ends. The reader takes the
segments one by one, a run of digits and points and then a run of letters, and leaves it to the
reader of numbers what a number is and to the list of units what a unit is. So it takes an induction
over the segments to see that what it accepts is the grammar (`LogWatch.Span.segments_isOk_iff`).

A text of the grammar may still be too long a span to be held. That is the one fault that the
grammar does not tell, and no other text has it.
-/

namespace LogWatch

namespace Span

/-! ### The grammar -/

/-- **A number**: digits and points, with a digit at least and a point at most. -/
structure IsNumber (cs : List Char) : Prop where
  /-- There are digits and points only. -/
  isNumeric : ∀ c ∈ cs, isNumeric c = true
  /-- One of them is a digit. -/
  digit : ∃ c ∈ cs, c.isDigit = true
  /-- There is no second point. -/
  point : cs.count '.' ≤ 1

/-- The names of the units. -/
def unitNames : List (List Char) := [['n', 's'], ['u', 's'], ['m', 's'], ['s'], ['m'], ['h']]

/-- **A segment** before the rest of a text: a number and a unit, whose letters are all that there
are. -/
structure IsSegment (number unit rest : List Char) : Prop where
  /-- There is a number. -/
  number : IsNumber number
  /-- There is such a unit. -/
  unit : unit ∈ unitNames
  /-- No letter follows. -/
  ends : ∀ c ∈ rest.head?, c.isAlpha = false

/-- **The text of a span**: one segment or more, with nothing between them. -/
inductive IsText : List Char → Prop
  /-- The last segment. -/
  | last (number unit : List Char) : IsSegment number unit [] → IsText (number ++ unit)
  /-- A segment before others. -/
  | more (number unit rest : List Char) : IsSegment number unit rest → IsText rest →
      IsText (number ++ (unit ++ rest))

variable {cs number unit rest : List Char} {c : Char} {x : Float × Timescale} {e : Unreadable}
  {text : String}

/-! ### Numbers -/

theorem toNat_lt_of_isNumeric (h : isNumeric c = true) : c.toNat < 128 := by
  obtain h | rfl : c.isDigit = true ∨ c = '.' := by simpa [isNumeric] using h
  · exact (Json.Number.isDigit_ofNat h).2.2
  · decide

/-- An ASCII character and its octet are digits together. -/
theorem isDigit_toUInt8 (h : c.toNat < 128) : Octet.isDigit c.toNat.toUInt8 = c.isDigit := by
  have hall : ∀ n < 128, Octet.isDigit n.toUInt8 = (Char.ofNat n).isDigit := by decide
  rw [hall c.toNat h, Char.ofNat_toNat]

theorem toUInt8_eq_point_iff (h : c.toNat < 128) : c.toNat.toUInt8 = 46 ↔ c = '.' := by
  have hall : ∀ n < 128, n.toUInt8 = 46 ↔ Char.ofNat n = '.' := by decide
  rw [hall c.toNat h, Char.ofNat_toNat]

theorem count_octetsOf (h : ∀ c ∈ cs, isNumeric c = true) :
    (octetsOf cs).count 46 = cs.count '.' := by
  rw [octetsOf, List.count, List.countP_map, List.count]
  refine List.countP_congr fun c hc => ?_
  have hlt := toNat_lt_of_isNumeric (h c hc)
  simpa using toUInt8_eq_point_iff hlt

/-- **Digits and points are a number** just if their octets are a plain decimal. -/
theorem isDecimal_octetsOf_iff (h : ∀ c ∈ cs, isNumeric c = true) :
    Plain.IsDecimal (octetsOf cs) ↔ IsNumber cs := by
  have hlt (c : Char) (hc : c ∈ cs) := toNat_lt_of_isNumeric (h c hc)
  constructor
  · rintro ⟨-, ⟨b, hb, hdigit⟩, hpoint⟩
    obtain ⟨c, hc, rfl⟩ := List.mem_map.mp hb
    exact ⟨h, ⟨c, hc, isDigit_toUInt8 (hlt c hc) ▸ hdigit⟩, count_octetsOf h ▸ hpoint⟩
  · rintro ⟨-, ⟨c, hc, hdigit⟩, hpoint⟩
    refine ⟨fun b hb => ?_, ⟨_, List.mem_map_of_mem hc, (isDigit_toUInt8 (hlt c hc)).trans hdigit⟩,
      (count_octetsOf h).symm ▸ hpoint⟩
    obtain ⟨c, hc, rfl⟩ := List.mem_map.mp hb
    obtain hnumeric | rfl : c.isDigit = true ∨ c = '.' := by simpa [isNumeric] using h c hc
    · exact .inl ((isDigit_toUInt8 (hlt c hc)).trans hnumeric)
    · exact .inr rfl

theorem IsNumber.ne_nil (h : IsNumber cs) : cs ≠ [] := by
  obtain ⟨c, hc, -⟩ := h.digit
  exact List.ne_nil_of_mem hc

/-! ### Units -/

theorem ofName?_isSome_iff : (Timescale.ofName? unit).isSome = true ↔ unit ∈ unitNames := by
  rw [Timescale.ofName?, unitNames]
  simp only [List.mem_cons, List.not_mem_nil, or_false]
  grind

/-- A unit has letters only, and it has one at least. -/
theorem isAlpha_of_mem_unitNames (h : unit ∈ unitNames) :
    unit ≠ [] ∧ ∀ c ∈ unit, c.isAlpha = true := by
  have hall : unitNames.all (fun unit => !unit.isEmpty && unit.all Char.isAlpha) = true := by decide
  simpa using List.all_eq_true.mp hall unit h

theorem toNat_lt_of_isAlpha (h : c.isAlpha = true) : c.toNat < 128 := by
  obtain h | h : c.isUpper = true ∨ c.isLower = true := Bool.or_eq_true_iff.mp h
  · have hle : c.val ≤ 'Z'.val := (of_decide_eq_true h).2
    exact Nat.lt_of_le_of_lt (UInt32.le_iff_toNat_le.mp hle) (by decide)
  · have hle : c.val ≤ 'z'.val := of_decide_eq_true (Bool.and_eq_true_iff.mp h).2
    exact Nat.lt_of_le_of_lt (UInt32.le_iff_toNat_le.mp hle) (by decide)

/-- No letter can stand in a number. -/
theorem isNumeric_of_isAlpha (h : c.isAlpha = true) : isNumeric c = false := by
  have hall : ∀ n < 128, (Char.ofNat n).isAlpha = true → isNumeric (Char.ofNat n) = false := by
    decide
  have hc := hall c.toNat (toNat_lt_of_isAlpha h)
  rw [Char.ofNat_toNat] at hc
  exact hc h

/-! ### Segments -/

/-- Characters with a property are taken up to the first one that does not have it. -/
theorem takeWhile_append_of_head? {p : Char → Bool} (h : ∀ c ∈ cs, p c = true)
    (hrest : ∀ c ∈ rest.head?, p c = false) :
    (cs ++ rest).takeWhile p = cs ∧ (cs ++ rest).dropWhile p = rest := by
  rw [List.takeWhile_append_of_pos h, List.dropWhile_append_of_pos h]
  cases rest with
  | nil => exact ⟨List.append_nil cs, rfl⟩
  | cons c rest =>
    have hc : ¬p c = true := by simp [hrest c rfl]
    rw [List.takeWhile_cons_of_neg hc, List.dropWhile_cons_of_neg hc, List.append_nil]
    exact ⟨rfl, rfl⟩

/-- A segment at the front is taken apart. -/
theorem IsSegment.takeWhile_eq (h : IsSegment number unit rest) :
    ((number ++ (unit ++ rest)).takeWhile isNumeric = number ∧
      (number ++ (unit ++ rest)).dropWhile isNumeric = unit ++ rest) ∧
      (unit ++ rest).takeWhile Char.isAlpha = unit ∧
        (unit ++ rest).dropWhile Char.isAlpha = rest := by
  obtain ⟨hne, halpha⟩ := isAlpha_of_mem_unitNames h.unit
  refine ⟨takeWhile_append_of_head? h.number.isNumeric fun c hc => ?_,
    takeWhile_append_of_head? halpha h.ends⟩
  obtain ⟨d, ds, rfl⟩ := List.exists_cons_of_ne_nil hne
  obtain rfl : d = c := Option.some.inj hc
  exact isNumeric_of_isAlpha (halpha d List.mem_cons_self)

/-- **A segment is read** just if one stands at the front. -/
theorem segment_isOk_iff : (∃ x, segment cs = .ok (x, rest)) ↔
    ∃ number unit, cs = number ++ (unit ++ rest) ∧ IsSegment number unit rest := by
  constructor
  · rintro ⟨x, h⟩
    have hnumeric : ∀ c ∈ cs.takeWhile isNumeric, isNumeric c = true := fun c hc =>
      List.mem_takeWhile_imp hc
    simp only [segment] at h
    split at h
    · cases h
    split at h
    · cases h
    · next value hread =>
      split at h
      · cases h
      split at h
      · cases h
      · next unit hunit =>
        obtain ⟨-, rfl⟩ := Prod.mk.inj (Except.ok.inj h)
        have hdecimal := Plain.read?_isSome_iff.mp (Option.isSome_of_mem hread)
        refine ⟨cs.takeWhile isNumeric, (cs.dropWhile isNumeric).takeWhile Char.isAlpha, ?_,
          (isDecimal_octetsOf_iff hnumeric).mp hdecimal,
          ofName?_isSome_iff.mp (Option.isSome_of_mem hunit), fun c hc => ?_⟩
        · rw [List.takeWhile_append_dropWhile, List.takeWhile_append_dropWhile]
        · have hend := List.head?_dropWhile_not Char.isAlpha (cs.dropWhile isNumeric)
          rw [Option.mem_def.mp hc] at hend
          exact hend
  · rintro ⟨number, unit, rfl, h⟩
    obtain ⟨⟨hnumber, hafter⟩, hunit, hrest⟩ := h.takeWhile_eq
    have hdecimal := (isDecimal_octetsOf_iff h.number.isNumeric).mpr h.number
    obtain ⟨value, hvalue⟩ := Option.isSome_iff_exists.mp (Plain.read?_isSome_iff.mpr hdecimal)
    obtain ⟨scale, hscale⟩ := Option.isSome_iff_exists.mp (ofName?_isSome_iff.mpr h.unit)
    have hne := (isAlpha_of_mem_unitNames h.unit).1
    refine ⟨(value, scale), ?_⟩
    simp only [segment, hnumber, hafter, hunit, hrest, hvalue, hscale]
    rw [if_neg (by simpa using h.number.ne_nil), if_neg (by simpa using hne)]

theorem rest_of_segment (h : segment cs = .ok (x, rest)) :
    (cs.dropWhile isNumeric).dropWhile Char.isAlpha = rest := by
  simp only [segment] at h
  split at h
  · cases h
  split at h
  · cases h
  split at h
  · cases h
  split at h
  · cases h
  · exact (Prod.mk.inj (Except.ok.inj h)).2

/-- A segment and what follows it are a text if what follows is one, or nothing. -/
theorem isText_iff : IsText cs ↔ ∃ rest, (∃ x, segment cs = .ok (x, rest)) ∧
    (rest = [] ∨ IsText rest) := by
  simp only [segment_isOk_iff]
  constructor
  · rintro (⟨number, unit, h⟩ | ⟨number, unit, rest, h, hrest⟩)
    · exact ⟨[], ⟨number, unit, by rw [List.append_nil], h⟩, .inl rfl⟩
    · exact ⟨rest, ⟨number, unit, rfl, h⟩, .inr hrest⟩
  · rintro ⟨rest, ⟨number, unit, rfl, h⟩, rfl | hrest⟩
    · rw [List.append_nil]
      exact .last number unit h
    · exact .more number unit rest h hrest

theorem not_isText_nil : ¬IsText [] := by
  rw [isText_iff]
  rintro ⟨rest, ⟨x, h⟩, -⟩
  cases h

theorem segments_of_error (h : segment cs = .error e) : segments cs = .error e := by
  rw [segments]
  split <;> simp_all

theorem segments_of_last (h : segment cs = .ok (x, [])) : segments cs = .ok [x] := by
  rw [segments]
  split <;> simp_all

theorem segments_of_more (h : segment cs = .ok (x, c :: rest)) :
    segments cs = (segments (c :: rest)).map (x :: ·) := by
  rw [segments]
  split
  · simp_all
  · simp_all
  · next y d rest' h' =>
    rw [h] at h'
    obtain ⟨rfl, rfl, rfl⟩ : x = y ∧ c = d ∧ rest = rest' := by simpa using h'
    dsimp only
    cases segments (c :: rest) <;> rfl

/-- **The segments of a text are read** just if it is one of the grammar. -/
theorem segments_isOk_iff : (∃ xs, segments cs = .ok xs) ↔ IsText cs := by
  induction cs using segments.induct with
  | case1 cs e h =>
    rw [segments_of_error h, isText_iff, h]
    exact iff_of_false nofun fun ⟨_, ⟨_, hread⟩, _⟩ => nomatch hread
  | case2 cs x h =>
    rw [segments_of_last h, isText_iff]
    exact iff_of_true ⟨_, rfl⟩ ⟨[], ⟨x, h⟩, .inl rfl⟩
  | case3 cs x c rest h _ e herror ih =>
    rw [segments_of_more h, herror, isText_iff]
    refine iff_of_false nofun ?_
    rintro ⟨rest', ⟨y, hread⟩, hrest⟩
    rw [h] at hread
    obtain ⟨-, rfl⟩ := Prod.mk.inj (Except.ok.inj hread)
    obtain hnil | htext := hrest
    · exact List.cons_ne_nil c rest hnil
    · obtain ⟨xs, hok⟩ := ih.mpr htext
      rw [herror] at hok
      cases hok
  | case4 cs x c rest h _ xs hok ih =>
    rw [segments_of_more h, hok, isText_iff]
    exact iff_of_true ⟨_, rfl⟩ ⟨c :: rest, ⟨x, h⟩, .inr (ih.mp ⟨xs, hok⟩)⟩

/-! ### Faults -/

theorem ne_outOfRange_of_segment (h : segment cs = .error e) : e ≠ .outOfRange := by
  rintro rfl
  simp only [segment] at h
  repeat' split at h
  all_goals cases h

/-- No segment is too long. -/
theorem ne_outOfRange_of_segments (h : segments cs = .error e) : e ≠ .outOfRange := by
  induction cs using segments.induct with
  | case1 cs e' hsegment =>
    rw [segments_of_error hsegment] at h
    obtain rfl := Except.error.inj h
    exact ne_outOfRange_of_segment hsegment
  | case2 cs x hsegment =>
    rw [segments_of_last hsegment] at h
    cases h
  | case3 cs x c rest hsegment _ e' herror ih =>
    rw [segments_of_more hsegment, herror] at h
    obtain rfl := Except.error.inj h
    exact ih herror
  | case4 cs x c rest hsegment _ xs hok ih =>
    rw [segments_of_more hsegment, hok] at h
    cases h

/-- What is read of a text of the grammar is a span, unless it is too long. -/
theorem read_of_isText (h : IsText (Blank.trimChars text.toList)) :
    (∃ s, read text = .ok s) ∨ read text = .error .outOfRange := by
  obtain ⟨xs, hok⟩ := segments_isOk_iff.mpr h
  rw [read]
  split
  · next hnil =>
    rw [hnil] at h
    exact absurd h not_isText_nil
  · rw [hok]
    dsimp only
    cases ofFloatSeconds? (totalSeconds xs) with
    | none => exact .inr rfl
    | some s => exact .inl ⟨s, rfl⟩

/-- Of any other text nothing is read, and the fault lies in its form. -/
theorem read_of_not_isText (h : ¬IsText (Blank.trimChars text.toList)) :
    ∃ e, read text = .error e ∧ e ≠ .outOfRange := by
  rw [read]
  split
  · exact ⟨.empty, rfl, nofun⟩
  · rw [← segments_isOk_iff] at h
    cases hsegments : segments (Blank.trimChars text.toList) with
    | error e => exact ⟨e, rfl, ne_outOfRange_of_segments hsegments⟩
    | ok xs => exact absurd ⟨xs, hsegments⟩ h

/-- How a text that cannot be read is reported. -/
def faultOf (text : String) (e : Unreadable) : ConfigFault :=
  .invalidValue "duration" s!"'{text}': {e.message}"

/-- The reports tell a text that is too long from every other. -/
theorem faultOf_ne (h : e ≠ .outOfRange) : faultOf text e ≠ faultOf text .outOfRange := by
  intro heq
  obtain ⟨-, htext⟩ := ConfigFault.invalidValue.inj heq
  have hmessage : e.message = Unreadable.outOfRange.message := (String.append_right_inj _).mp htext
  cases e
  case outOfRange => exact h rfl
  all_goals exact absurd hmessage (by decide)

theorem parse_eq (text : String) : parse text = (read text).mapError (faultOf text) := by
  rw [parse]
  cases read text <;> rfl

/-- **A text has another fault than its length** just if it is none of the grammar. -/
theorem exists_fault_iff :
    (∃ fault, parse text = .error fault ∧ fault ≠ faultOf text .outOfRange) ↔
      ¬IsText (Blank.trimChars text.toList) := by
  rw [parse_eq]
  constructor
  · rintro ⟨fault, h, hne⟩ htext
    obtain ⟨s, hs⟩ | hs := read_of_isText htext
    · rw [hs] at h
      cases h
    · rw [hs] at h
      exact hne (Except.error.inj h).symm
  · intro htext
    obtain ⟨e, he, hne⟩ := read_of_not_isText htext
    exact ⟨faultOf text e, by rw [he]; rfl, faultOf_ne hne⟩

/-- **A text is read, or is too long**, just if it is one of the grammar. -/
theorem read_or_outOfRange_iff :
    (∃ span, parse text = .ok span) ∨ parse text = .error (faultOf text .outOfRange) ↔
      IsText (Blank.trimChars text.toList) := by
  constructor
  · intro h
    by_contra htext
    obtain ⟨fault, hfault, hne⟩ := exists_fault_iff.mpr htext
    rw [hfault] at h
    obtain ⟨span, hspan⟩ | h := h
    · cases hspan
    · exact hne (Except.error.inj h)
  · intro htext
    rw [parse_eq]
    obtain ⟨s, hs⟩ | hs := read_of_isText htext
    · exact .inl ⟨s, by rw [hs]; rfl⟩
    · exact .inr (by rw [hs]; rfl)

end Span

end LogWatch
