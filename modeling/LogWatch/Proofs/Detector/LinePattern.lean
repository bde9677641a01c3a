import LogWatch.Detector.LinePattern
import LogWatch.Proofs.Text.Lossy
import Mathlib.Data.List.Infix

/-!
# Words as patterns

A text in which no character has a meaning of its own is looked for as it stands. Read as a pattern,
it would ask for its characters one after the other (`LogWatch.Regex.ofWord`), and that comes to the
same: a character is found where its encoding stands, be the octets around it valid or not, and so a
**word** is found where its octets are a part of the line (`LogWatch.Regex.isMatch_ofWord`). Nothing
in a line can be mistaken for the encoding of another character.

What the pattern of a word costs is its weight, one state for each octet. A word that is longer than
the greatest weight allows is no pattern, though it can be looked for
(`LogWatch.LinePattern.agrees_of_isPlain`).
-/

namespace LogWatch

namespace Bytes

/-! ### Parts of a line -/

variable {word : Bytes}

theorem after?_append_bind (lead lead' s : Bytes) :
    after? (lead ++ lead') s = (after? lead s).bind (after? lead') := by
  induction lead generalizing s with
  | nil => rfl
  | cons a lead ih =>
    cases s with
    | nil => rfl
    | cons b s =>
      simp only [List.cons_append, after?]
      split
      · exact ih s
      · rfl

theorem isSome_after?_iff {s : Bytes} : (after? word s).isSome = true ↔ word <+: s := by
  rw [Option.isSome_iff_exists]
  constructor
  · rintro ⟨rest, h⟩
    exact ⟨rest, (after?_eq_some_iff.mp h).symm⟩
  · rintro ⟨rest, h⟩
    exact ⟨rest, after?_eq_some_iff.mpr h.symm⟩

/-- A word is contained in a line just if it is a part of it. -/
theorem contains_iff {line : Bytes} : contains word line = true ↔ word <:+: line := by
  induction line with
  | nil => rw [contains, List.isEmpty_iff, List.infix_nil]
  | cons b line ih =>
    rw [contains, Bool.or_eq_true, ih, startsWith, isSome_after?_iff, List.infix_cons_iff]

end Bytes

namespace Regex

/-- **The pattern of a word** asks for its characters one after the other. -/
def ofWord (cs : List Char) : Regex :=
  sequence (cs.map fun c => .scalar (CodeSet.single c.toNat))

variable {c d : Char} {cs : List Char}

theorem ofWord_cons_cons :
    ofWord (c :: d :: cs) = .seq (.scalar (CodeSet.single c.toNat)) (ofWord (d :: cs)) := rfl

/-! ### Reading -/

/-- A character without a meaning of its own is one more piece. -/
theorem step?_of_not_mem {p : Progress} {rest : List Char}
    (h : c ∉ LinePattern.metaCharacters) :
    step? p c rest = some (p.add (p.mode.ofChar c), rest) := by
  have hmeta : LinePattern.metaCharacters =
      ['\\', '.', '+', '*', '?', '(', ')', '|', '[', ']', '\x7b', '\x7d', '^', '$'] := by
    decide +kernel
  rw [hmeta] at h
  rw [step?.eq_def]
  -- each of the cases before the last is one of the characters with a meaning
  split <;> first | rfl | exact absurd h (by decide)

/-- So the characters are read as pieces, in the order in which they stand. -/
theorem readOn_eq (h : ∀ c ∈ cs, c ∉ LinePattern.metaCharacters) {fuel : Nat}
    (hfuel : cs.length < fuel) (pieces : List Regex) :
    readOn fuel ⟨⟨{}, [], pieces⟩, [], []⟩ cs =
      some (sequence (pieces.reverse ++ cs.map fun c => .scalar (CodeSet.single c.toNat))) := by
  induction cs generalizing fuel pieces with
  | nil =>
    obtain ⟨fuel, rfl⟩ := Nat.exists_eq_add_one_of_ne_zero (Nat.ne_of_gt hfuel)
    rw [List.map_nil, List.append_nil]
    rfl
  | cons c cs ih =>
    obtain ⟨fuel, rfl⟩ := Nat.exists_eq_add_one_of_ne_zero (Nat.ne_zero_of_lt hfuel)
    have hc := h c List.mem_cons_self
    have hrest := ih (fun d hd => h d (List.mem_cons_of_mem c hd)) (Nat.lt_of_succ_lt_succ hfuel)
      (.scalar (CodeSet.single c.toNat) :: pieces)
    rw [List.reverse_cons, List.append_assoc] at hrest
    have hstep : readOn (fuel + 1) ⟨⟨{}, [], pieces⟩, [], []⟩ (c :: cs) =
        step? ⟨⟨{}, [], pieces⟩, [], []⟩ c cs >>= fun x => readOn fuel x.1 x.2 := rfl
    rw [hstep, step?_of_not_mem hc]
    exact hrest

/-! ### Weight -/

theorem utf8Size_toNat (c : Char) : utf8Size c.toNat = (String.utf8EncodeChar c).length := by
  have hv : c.val.toNat = c.toNat := rfl
  rw [utf8Size]
  simp only [String.utf8EncodeChar, hv]
  split_ifs <;> first | rfl | omega

theorem weight_scalar (c : Char) : (Regex.scalar (CodeSet.single c.toNat)).weight =
    stateWeight * (String.utf8EncodeChar c).length := by
  rw [← utf8Size_toNat]
  exact if_pos rfl

/-- **A word weighs what its octets do.** -/
theorem weight_ofWord (h : cs ≠ []) :
    (ofWord cs).weight = stateWeight * (cs.flatMap String.utf8EncodeChar).length := by
  induction cs with
  | nil => exact absurd rfl h
  | cons c cs ih =>
    rw [List.flatMap_cons, List.length_append, Nat.mul_add, ← weight_scalar]
    cases cs with
    | nil => rfl
    | cons d cs =>
      rw [← ih (List.cons_ne_nil d cs)]
      rfl

/-- The characters of a word are within one part. -/
theorem depth_ofWord_le (cs : List Char) : (ofWord cs).depth ≤ 1 := by
  induction cs with
  | nil => exact Nat.zero_le 1
  | cons c cs ih =>
    cases cs with
    | nil => exact Nat.zero_le 1
    | cons d cs =>
      cases cs with
      | nil => exact Nat.le_refl 1
      | cons e cs =>
        rw [ofWord_cons_cons, ofWord_cons_cons, depth]
        exact Nat.max_le.mpr ⟨Nat.le_refl 1, ih⟩

/-- **A word is read as its pattern**, unless that weighs too much. -/
theorem read?_of_isPlain {text : String} (hne : text ≠ "")
    (hplain : LinePattern.isPlain text = true) : read? text =
      if stateWeight * (Bytes.ofString text).length ≤ maxWeight then some (ofWord text.toList)
      else none := by
  have hmeta : ∀ c ∈ text.toList, c ∉ LinePattern.metaCharacters := fun c hc => by
    simpa using List.all_eq_true.mp hplain c hc
  have hchars : text.toList ≠ [] := fun hnil => hne (by rwa [String.toList_eq_nil_iff] at hnil)
  have hdepth : (ofWord text.toList).depth ≤ maxDepth :=
    Nat.le_trans (depth_ofWord_le _) (by decide)
  have hread := readOn_eq hmeta (Nat.lt_succ_self _) []
  rw [List.reverse_nil, List.nil_append, ← ofWord] at hread
  rw [read?, readIn?, Draft.new, hread, Option.bind_eq_bind, Option.bind_some, isBearable,
    weight_ofWord hchars, ← Bytes.ofString_eq, decide_eq_true hdepth, Bool.true_and]
  simp only [decide_eq_true_iff]
  rfl

/-! ### Matching -/

theorem contains_single (n m : Nat) : (CodeSet.single n).contains m = true ↔ m = n := by
  simp only [CodeSet.contains, CodeSet.single, CodeSet.containsIn]
  split_ifs <;> simp <;> omega

theorem after_advance (n : Nat) (p : Position) : (p.advance n).after = p.after.drop n := by
  induction n generalizing p with
  | zero => rfl
  | succ n ih =>
    obtain ⟨before, after, offset⟩ := p
    cases after with
    | nil => rfl
    | cons b rest => exact ih ⟨b :: before, rest, offset + 1⟩

/-- **A character is found where its encoding stands**, and the match ends after it. -/
theorem map_after_stepScalar? (c : Char) (p : Position) :
    (stepScalar? (CodeSet.single c.toNat) p).map Position.after =
      Bytes.after? (String.utf8EncodeChar c) p.after := by
  by_cases h : ∃ rest, p.after = String.utf8EncodeChar c ++ rest
  · obtain ⟨rest, hafter⟩ := h
    obtain ⟨b, s, heq, hfront⟩ := Utf8.front_encode c rest
    have hstep : stepScalar? (CodeSet.single c.toNat) p = some (p.advance c.utf8Size) := by
      rw [stepScalar?, hafter, heq]
      dsimp only
      rw [hfront]
      exact if_pos ((contains_single _ _).mpr rfl)
    rw [hstep, Option.map_some, after_advance, hafter, Bytes.after?_append,
      ← String.length_utf8EncodeChar, List.drop_left]
  · have hnone : Bytes.after? (String.utf8EncodeChar c) p.after = none := by
      rw [Option.eq_none_iff_forall_ne_some]
      intro rest hrest
      exact h ⟨rest, Bytes.after?_eq_some_iff.mp hrest⟩
    rw [hnone, Option.map_eq_none_iff, stepScalar?.eq_def]
    split
    · rfl
    · next b rest hafter =>
      split
      · next c' rest' hfront =>
        refine if_neg fun hc => h ⟨rest', ?_⟩
        have hc' : c' = c := Char.toNat_inj.mp ((contains_single _ _).mp hc)
        rw [hafter, Utf8.eq_append_of_scalar hfront, hc']
      · rfl

theorem ends_ofWord_cons (size : Nat) (ps : List Position) : (ofWord (c :: cs)).ends size ps =
    (ofWord cs).ends size (ps.filterMap (stepScalar? (CodeSet.single c.toNat))) := by
  cases cs with
  | nil => rfl
  | cons d cs => rfl

/-- **Where a word is found** its octets stand, and the match ends after them. -/
theorem map_after_ends_ofWord (size : Nat) (cs : List Char) (ps : List Position) :
    ((ofWord cs).ends size ps).map Position.after =
      (ps.map Position.after).filterMap (Bytes.after? (cs.flatMap String.utf8EncodeChar)) := by
  induction cs generalizing ps with
  | nil => exact (List.filterMap_some (l := ps.map Position.after)).symm
  | cons c cs ih =>
    rw [ends_ofWord_cons, ih, List.map_filterMap, List.filterMap_filterMap, List.filterMap_map]
    refine List.filterMap_congr fun p _ => ?_
    rw [Function.comp_apply, List.flatMap_cons, Bytes.after?_append_bind, map_after_stepScalar?]

theorem map_after_upToEnd (acc : List Position) (before : Bytes) (offset : Nat) (s : Bytes) :
    (Position.upToEnd acc before offset s).map Position.after =
      s.tails.reverse ++ acc.map Position.after := by
  induction s generalizing acc before offset with
  | nil => rfl
  | cons b s ih =>
    rw [Position.upToEnd, ih, List.tails_cons, List.reverse_cons, List.append_assoc]
    rfl

/-- A match may start before each of the ends of a line. -/
theorem map_after_all (line : Bytes) : (Position.all line).map Position.after = line.tails := by
  rw [Position.all, List.map_reverse, map_after_upToEnd, List.map_nil, List.append_nil,
    List.reverse_reverse]

/-- **A word is found in a line** just if its octets are a part of the line. -/
theorem isMatch_ofWord (cs : List Char) (line : Bytes) :
    (ofWord cs).isMatch line = true ↔ cs.flatMap String.utf8EncodeChar <:+: line := by
  have hends := map_after_ends_ofWord line.length cs (Position.all line)
  rw [map_after_all] at hends
  rw [isMatch, Bool.not_eq_true', List.isEmpty_eq_false_iff, ne_eq,
    ← List.map_eq_nil_iff (f := Position.after), hends, List.infix_iff_prefix_suffix]
  constructor
  · intro hne
    obtain ⟨rest, hmem⟩ := List.exists_mem_of_ne_nil _ hne
    obtain ⟨s, hs, hrest⟩ := List.mem_filterMap.mp hmem
    exact ⟨s, Bytes.isSome_after?_iff.mp (by rw [hrest]; rfl), (List.mem_tails s line).mp hs⟩
  · rintro ⟨s, hword, hs⟩
    obtain ⟨rest, hrest⟩ := Option.isSome_iff_exists.mp (Bytes.isSome_after?_iff.mpr hword)
    exact List.ne_nil_of_mem (List.mem_filterMap.mpr ⟨s, (List.mem_tails s line).mpr hs, hrest⟩)

end Regex

namespace LinePattern

variable {text : String}

/-- The pattern that looks for a text as it stands. -/
def ofText (text : String) : LinePattern := ⟨text, .containing (Bytes.ofString text)⟩

/-- What is looked for is found just where it is a part of the line. -/
theorem isMatch_ofText_iff (text : String) (line : Bytes) :
    (ofText text).isMatch line = true ↔ Bytes.ofString text <:+: line := Bytes.contains_iff

/-- A text in which no character has a meaning of its own is looked for as it stands. -/
theorem new_of_isPlain (hne : text ≠ "") (hplain : isPlain text = true) (format : String) :
    new format text = .ok (ofText text) := by
  have hempty : ¬text.isEmpty = true := fun h => hne (String.isEmpty_iff.mp h)
  rw [new, if_neg hempty, matcherOf?, if_pos hplain]
  rfl

/-- The pattern that is read finds what the other one does. -/
theorem isMatch_of_read? (hne : text ≠ "") (hplain : isPlain text = true) {r : Regex}
    (hread : Regex.read? text = some r) (line : Bytes) :
    (LinePattern.mk text (.matching r)).isMatch line = (ofText text).isMatch line := by
  rw [Regex.read?_of_isPlain hne hplain] at hread
  split at hread
  · obtain rfl := Option.some.inj hread
    rw [Bool.eq_iff_iff, isMatch_ofText_iff, Bytes.ofString_eq]
    exact Regex.isMatch_ofWord text.toList line
  · cases hread

/-- **Both ways agree.** A text in which no character has a meaning of its own is looked for as it
stands, for a detector and for an exclusion, and is found where it is a part of the line. Read as a
pattern instead, it is found in the same lines; and it is read unless it weighs too much. -/
theorem agrees_of_isPlain (hne : text ≠ "") (hplain : isPlain text = true) :
    (∀ format, new format text = .ok (ofText text)) ∧
      exclusion text = .ok (some (ofText text)) ∧ (ofText text).isLiteral = true ∧
      (∀ line, (ofText text).isMatch line = true ↔ Bytes.ofString text <:+: line) ∧
      ((∃ r, Regex.read? text = some r) ↔
        Regex.stateWeight * (Bytes.ofString text).length ≤ Regex.maxWeight) ∧
      ∀ r, Regex.read? text = some r → ∀ line,
        (LinePattern.mk text (.matching r)).isMatch line = (ofText text).isMatch line := by
  refine ⟨new_of_isPlain hne hplain, ?_, rfl, isMatch_ofText_iff text, ?_,
    fun r hread => isMatch_of_read? hne hplain hread⟩
  · have hempty : ¬text.isEmpty = true := fun h => hne (String.isEmpty_iff.mp h)
    rw [exclusion, if_neg hempty, new_of_isPlain hne hplain]
    rfl
  · rw [Regex.read?_of_isPlain hne hplain]
    split
    · next hle => exact iff_of_true ⟨_, rfl⟩ hle
    · next hlt => exact iff_of_false (fun ⟨r, h⟩ => by cases h) hlt

/-- A word with a hyphen, a number sign and a letter of two octets is found between octets that are
no text. -/
theorem agrees_of_isPlain_between_octets :
    let text := "#é-"
    text ≠ "" ∧ isPlain text = true ∧
      ∃ r, Regex.read? text = some r ∧ r.isMatch [0xFF, 35, 0xC3, 0xA9, 45, 0xC3] = true := by
  intro text
  have hplain : isPlain text = true := by decide +kernel
  have hne : text ≠ "" := by decide
  obtain ⟨-, -, -, hpart, hread, hsame⟩ := agrees_of_isPlain hne hplain
  obtain ⟨r, hr⟩ := hread.mpr (by decide +kernel)
  have hfound := (hpart [0xFF, 35, 0xC3, 0xA9, 45, 0xC3]).mpr
    ⟨[0xFF], [0xC3], by decide +kernel⟩
  exact ⟨hne, hplain, r, hr, (hsame r hr _).trans hfound⟩

/-- A word of the letter `a`. -/
def manyLetters (n : Nat) : String := String.ofList (List.replicate n 'a')

theorem length_ofString_manyLetters (n : Nat) : (Bytes.ofString (manyLetters n)).length = n := by
  rw [manyLetters, Bytes.ofString_eq, String.toList_ofList]
  induction n with
  | zero => rfl
  | succ n ih =>
    rw [List.replicate_succ, List.flatMap_cons, List.length_append, ih, Nat.add_comm]
    rfl

theorem isPlain_manyLetters (n : Nat) : isPlain (manyLetters n) = true := by
  rw [isPlain, manyLetters, String.toList_ofList, List.all_eq_true]
  intro c hc
  rw [(List.mem_replicate.mp hc).2]
  decide +kernel

theorem manyLetters_ne_empty {n : Nat} (h : n ≠ 0) : manyLetters n ≠ "" := by
  intro heq
  have hlength := length_ofString_manyLetters n
  rw [heq, Bytes.ofString_eq, String.toList_empty] at hlength
  exact h hlength.symm

/-- **A long word is no pattern**, though it has no character with a meaning of its own and can be
looked for. -/
theorem not_read_of_manyLetters :
    manyLetters 400000 ≠ "" ∧ isPlain (manyLetters 400000) = true ∧
      Regex.read? (manyLetters 400000) = none ∧
      (ofText (manyLetters 400000)).isMatch (Bytes.ofString (manyLetters 400000)) = true := by
  have hne := manyLetters_ne_empty (n := 400000) (by decide)
  have hplain := isPlain_manyLetters 400000
  refine ⟨hne, hplain, ?_, (isMatch_ofText_iff _ _).mpr (List.infix_refl _)⟩
  rw [Regex.read?_of_isPlain hne hplain, length_ofString_manyLetters]
  exact if_neg (by decide)

end LinePattern

end LogWatch
