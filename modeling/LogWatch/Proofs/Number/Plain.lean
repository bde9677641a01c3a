import LogWatch.Number.Plain
import LogWatch.Proofs.Text.Octets

/-!
# Which texts are plain decimals

A plain decimal is read in two parts, the digits up to the first octet that is none, and if that is
a point the digits after it. Of the text as a whole this says that it has digits and points only, a
digit at least and a point at most (`LogWatch.Plain.read?_isSome_iff`).
-/

namespace LogWatch

namespace Plain

variable {text whole fraction : Bytes}

/-- **A plain decimal**, as a condition on its octets. -/
structure IsDecimal (text : Bytes) : Prop where
  /-- They are digits and points. -/
  isDigit_or : ∀ b ∈ text, Octet.isDigit b = true ∨ b = 46
  /-- One of them is a digit. -/
  digit : ∃ b ∈ text, Octet.isDigit b = true
  /-- There is no second point. -/
  point : text.count 46 ≤ 1

/-- Digits are no points. -/
theorem count_point_eq_zero (h : ∀ b ∈ text, Octet.isDigit b = true) : text.count 46 = 0 :=
  List.count_eq_zero.mpr fun hmem => absurd (h 46 hmem) (by decide)

/-- Octets among which there is no point are digits. -/
theorem isDigit_of_count_eq_zero (h : ∀ b ∈ text, Octet.isDigit b = true ∨ b = 46)
    (hpoint : text.count 46 = 0) : ∀ b ∈ text, Octet.isDigit b = true := fun b hb =>
  (h b hb).resolve_right fun heq => List.count_eq_zero.mp hpoint (heq ▸ hb)

/-- Digits make a plain decimal if there are any. -/
theorem isDecimal_of_digits (h : ∀ b ∈ text, Octet.isDigit b = true) (hne : text ≠ []) :
    IsDecimal text where
  isDigit_or b hb := .inl (h b hb)
  digit := (List.exists_mem_of_ne_nil text hne).imp fun b hb => ⟨hb, h b hb⟩
  point := by rw [count_point_eq_zero h]; exact Nat.zero_le 1

/-- So do digits around a point. -/
theorem isDecimal_of_point (hwhole : ∀ b ∈ whole, Octet.isDigit b = true)
    (hfraction : ∀ b ∈ fraction, Octet.isDigit b = true) (hne : ¬(whole = [] ∧ fraction = [])) :
    IsDecimal (whole ++ 46 :: fraction) where
  isDigit_or b hb := by
    rw [List.mem_append, List.mem_cons] at hb
    obtain hb | rfl | hb := hb
    · exact .inl (hwhole b hb)
    · exact .inr rfl
    · exact .inl (hfraction b hb)
  digit := by
    obtain h | h := not_and_or.mp hne
    · obtain ⟨b, hb⟩ := List.exists_mem_of_ne_nil whole h
      exact ⟨b, List.mem_append_left _ hb, hwhole b hb⟩
    · obtain ⟨b, hb⟩ := List.exists_mem_of_ne_nil fraction h
      exact ⟨b, List.mem_append_right _ (List.mem_cons_of_mem _ hb), hfraction b hb⟩
  point := by
    rw [List.count_append, List.count_cons_self, count_point_eq_zero hwhole,
      count_point_eq_zero hfraction]

/-- Of digits and an octet after them, that one is the point of a plain decimal. -/
theorem isDecimal_append_cons_iff {b : UInt8} (hwhole : ∀ b ∈ whole, Octet.isDigit b = true)
    (hb : Octet.isDigit b = false) : IsDecimal (whole ++ b :: fraction) ↔
      b = 46 ∧ (∀ b ∈ fraction, Octet.isDigit b = true) ∧ ¬(whole = [] ∧ fraction = []) := by
  constructor
  · rintro ⟨hoctets, ⟨d, hd, hdigit⟩, hpoint⟩
    obtain rfl : b = 46 := (hoctets b (by simp)).resolve_left (by simp [hb])
    rw [List.count_append, List.count_cons_self] at hpoint
    refine ⟨rfl, isDigit_of_count_eq_zero (fun c hc => hoctets c ?_) (by omega), ?_⟩
    · exact List.mem_append_right _ (List.mem_cons_of_mem _ hc)
    · rintro ⟨rfl, rfl⟩
      rw [List.eq_of_mem_singleton hd, hb] at hdigit
      cases hdigit
  · rintro ⟨rfl, hfraction, hne⟩
    exact isDecimal_of_point hwhole hfraction hne

theorem split?_isSome_iff : (split? text).isSome = true ↔ IsDecimal text := by
  have hall : ∀ b ∈ text.takeWhile Octet.isDigit, Octet.isDigit b = true := fun b hb =>
    List.mem_takeWhile_imp hb
  have hend := List.head?_dropWhile_not Octet.isDigit text
  rw [split?, List.span_eq_takeWhile_dropWhile]
  conv_rhs => rw [← List.takeWhile_append_dropWhile (p := Octet.isDigit) (l := text)]
  generalize text.takeWhile Octet.isDigit = whole at hall ⊢
  cases hrest : text.dropWhile Octet.isDigit with
  | nil =>
    rw [List.append_nil]
    cases whole with
    | nil => exact iff_of_false Bool.false_ne_true fun h => by simpa using h.digit
    | cons b whole => exact iff_of_true rfl (isDecimal_of_digits hall (List.cons_ne_nil b whole))
  | cons b fraction =>
    rw [hrest] at hend
    rw [isDecimal_append_cons_iff hall hend]
    dsimp only
    split
    · next h =>
      refine iff_of_true rfl ?_
      simpa [and_assoc, imp_iff_not_or] using h
    · next h =>
      refine iff_of_false Bool.false_ne_true fun hdecimal => h ?_
      simpa [and_assoc, imp_iff_not_or] using hdecimal

/-- **A text is read as a number** just if it is a plain decimal. -/
theorem read?_isSome_iff : (read? text).isSome = true ↔ IsDecimal text := by
  rw [read?, Option.isSome_map, split?_isSome_iff]

end Plain

end LogWatch
