import LogWatch.Proofs.Positional.Execution
import LogWatch.Proofs.Time.Spans

/-!
# Spans by position

A span in a configuration is scanned octet by octet, though it is a text: numbers and units are cut
out of it at positions that have been counted in octets. A cut within a character would be the end
of the reader. It never comes to that (`LogWatch.Positional.parse_grammar`), for digits, points and
letters are ASCII, and an ASCII octet is never a part of another character
(`LogWatch.Positional.takeWhile_octets`). So each run of octets is a run of characters, and ends
between two of them.
-/

namespace LogWatch

namespace Positional

open Exec (cut runEnd)

/-! ### Reading -/

/-- The octet may stand in a number. -/
def isNumeric (b : UInt8) : Bool := Octet.isDigit b || b == 46

/-- The unit of that name. -/
def unitOf (name : String) : Except Span.Unreadable Span.Timescale :=
  match Span.Timescale.ofName? name.toList with
  | some unit => .ok unit
  | none => .error (if name = "" then .missingUnit else .unknownUnit)

section Definitions

variable (m : Machine)

/-- Reads the segment from a position on, and adds it to the seconds before it. -/
def spanRound (s : String) : Exec.Round (Nat × Float) (Except Span.Unreadable Float) :=
  fun (start, total) => do
    if start < (Bytes.ofString s).length then
      let middle ← runEnd m isNumeric (Bytes.ofString s) start
      if middle = start then pure (.inr (.error .expectedNumber))
      else
        let number ← cut s start middle
        match Plain.read? (Bytes.ofString number) with
        | none => pure (.inr (.error .invalidNumber))
        | some value =>
          let stop ← runEnd m Octet.isLetter (Bytes.ofString s) middle
          let name ← cut s middle stop
          match unitOf name with
          | .error e => pure (.inr (.error e))
          | .ok unit => pure (.inl (stop, total + value * unit.seconds))
    else pure (.inr (.ok total))

/-- Reads a span. -/
def readSpan (text : String) : Exec (Except Span.Unreadable Span) := do
  let s := Blank.trim text
  if s = "" then pure (.error .empty)
  else
    match ← (spanRound m s).loop (0, 0.0) with
    | .error e => pure (.error e)
    | .ok total =>
      match Span.ofFloatSeconds? total with
      | none => pure (.error .outOfRange)
      | some span => pure (.ok span)

/-- Reads a span given in a configuration. -/
def parseSpan (text : String) : Exec (Except ConfigFault Span) := do
  let span ← readSpan m text
  pure (span.mapError (Span.faultOf text))

end Definitions

variable {m : Machine} {s t u text : String} {cs rest : List Char} {total : Float}
  {e : Span.Unreadable} {x : Float × Span.Timescale}

/-! ### Octets of a run of characters -/

theorem length_ofString (s : String) : (Bytes.ofString s).length = s.utf8ByteSize := by
  rw [Bytes.ofString, String.toUTF8_eq_toByteArray, Bytes.toList_eq, Array.length_toList]
  exact String.size_toByteArray

/-- A run of ASCII characters is a run of octets. -/
theorem takeWhile_octets {p : Char → Bool} {q : UInt8 → Bool} (hp : ∀ c, p c = true → c.toNat < 128)
    (hq : ∀ b, q b = true → b.toNat < 128)
    (hpq : ∀ c : Char, c.toNat < 128 → q (UInt8.ofNat c.toNat) = p c) (cs : List Char) :
    (Json.octets cs).takeWhile q = Json.octets (cs.takeWhile p) := by
  induction cs with
  | nil => rfl
  | cons c cs ih =>
    rw [Json.octets_cons]
    by_cases hc : c.toNat < 128
    · rw [Json.utf8EncodeChar_of_lt hc, List.singleton_append, List.takeWhile_cons, hpq c hc,
        List.takeWhile_cons, ih]
      cases p c
      · rfl
      · simp only [if_true, Json.octets_cons, Json.utf8EncodeChar_of_lt hc, List.singleton_append]
    · -- no octet of such a character is ASCII
      have hnot : ¬p c = true := fun h => hc (hp c h)
      rw [List.takeWhile_cons_of_neg hnot]
      cases hencode : String.utf8EncodeChar c with
      | nil => exact absurd hencode String.utf8EncodeChar_ne_nil
      | cons b bs =>
        have hb : ¬q b = true := fun h => hc <| by
          have hlt := hq b h
          rw [Json.toNat_of_mem_utf8EncodeChar hlt (hencode ▸ List.mem_cons_self)]
          exact hlt
        rw [List.cons_append, List.takeWhile_cons_of_neg hb]
        rfl

theorem ofString_ofList (cs : List Char) : Bytes.ofString (String.ofList cs) = Json.octets cs := by
  rw [Bytes.ofString_eq, String.toList_ofList]
  rfl

/-- The characters with a property at the front of a text. -/
def run (p : Char → Bool) (s : String) : String := String.ofList (s.toList.takeWhile p)

/-- What follows them. -/
def afterRun (p : Char → Bool) (s : String) : String := String.ofList (s.toList.dropWhile p)

theorem run_append (p : Char → Bool) (s : String) : run p s ++ afterRun p s = s := by
  rw [run, afterRun, ← String.ofList_append, List.takeWhile_append_dropWhile, String.ofList_toList]

theorem append_run_append (p : Char → Bool) (t u : String) :
    t ++ run p u ++ afterRun p u = t ++ u := by
  rw [String.append_assoc, run_append]

/-- **A run of characters ends** where the run of their octets does. -/
theorem runEnd_run {p : Char → Bool} {q : UInt8 → Bool} (hp : ∀ c, p c = true → c.toNat < 128)
    (hq : ∀ b, q b = true → b.toNat < 128)
    (hpq : ∀ c : Char, c.toNat < 128 → q (UInt8.ofNat c.toNat) = p c)
    (hlt : (t ++ u).utf8ByteSize < m.half) :
    runEnd m q (Bytes.ofString (t ++ u)) t.utf8ByteSize = pure (t ++ run p u).utf8ByteSize := by
  have hrun : ((Bytes.ofString u).takeWhile q).length = (run p u).utf8ByteSize := by
    rw [← length_ofString, run, ofString_ofList, ← takeWhile_octets hp hq hpq, Bytes.ofString_eq]
    rfl
  rw [Exec.runEnd_eq (by rwa [length_ofString]), Bytes.ofString_append, ← length_ofString t,
    List.drop_left, hrun, length_ofString, String.utf8ByteSize_append]

/-- The run can be cut out. -/
theorem cut_run (p : Char → Bool) (t u : String) :
    cut (t ++ u) t.utf8ByteSize (t ++ run p u).utf8ByteSize = pure (run p u) := by
  have hcut := Exec.cut_eq t (run p u) (afterRun p u)
  rwa [run_append, ← String.utf8ByteSize_append] at hcut

theorem runEnd_numeric (hlt : (t ++ u).utf8ByteSize < m.half) :
    runEnd m isNumeric (Bytes.ofString (t ++ u)) t.utf8ByteSize =
      pure (t ++ run Span.isNumeric u).utf8ByteSize := by
  refine runEnd_run (fun _ => Span.toNat_lt_of_isNumeric) (fun b hb => ?_) (fun c hc => ?_) hlt
  · simp only [isNumeric, Octet.isDigit, Bool.or_eq_true, Bool.and_eq_true, decide_eq_true_eq,
      beq_iff_eq, UInt8.le_iff_toNat_le, ← UInt8.toNat_inj, UInt8.reduceToNat] at hb
    omega
  · have hall : ∀ n < 128, isNumeric (UInt8.ofNat n) = Span.isNumeric (Char.ofNat n) := by decide
    rw [hall c.toNat hc, Char.ofNat_toNat]

theorem runEnd_letters (hlt : (t ++ u).utf8ByteSize < m.half) :
    runEnd m Octet.isLetter (Bytes.ofString (t ++ u)) t.utf8ByteSize =
      pure (t ++ run Char.isAlpha u).utf8ByteSize := by
  refine runEnd_run (fun _ => Span.toNat_lt_of_isAlpha) (fun b hb => ?_) (fun c hc => ?_) hlt
  · simp only [Octet.isLetter, Bool.or_eq_true, Bool.and_eq_true, decide_eq_true_eq,
      UInt8.le_iff_toNat_le, UInt8.reduceToNat] at hb
    omega
  · have hall : ∀ n < 128, Octet.isLetter (UInt8.ofNat n) = (Char.ofNat n).isAlpha := by decide
    rw [hall c.toNat hc, Char.ofNat_toNat]

/-- The octets of digits and points. -/
theorem ofString_number (h : ∀ c ∈ cs, Span.isNumeric c = true) :
    Bytes.ofString (String.ofList cs) = Span.octetsOf cs := by
  rw [ofString_ofList]
  induction cs with
  | nil => rfl
  | cons c cs ih =>
    rw [Json.octets_cons, Json.utf8EncodeChar_of_lt
      (Span.toNat_lt_of_isNumeric (h c List.mem_cons_self)),
      ih fun d hd => h d (List.mem_cons_of_mem _ hd)]
    rfl

/-! ### Segments -/

/-- The seconds of the segments that are left, added to those before them. -/
def summed (total : Float) : List Char → Except Span.Unreadable Float
  | [] => .ok total
  | cs => (Span.segments cs).map fun xs => xs.foldl (fun total x => total + x.1 * x.2.seconds) total

theorem summed_of_error (hne : cs ≠ []) (h : Span.segment cs = .error e) :
    summed total cs = .error e := by
  cases cs with
  | nil => exact absurd rfl hne
  | cons c cs =>
    rw [summed, Span.segments_of_error h]
    · rfl
    · nofun

theorem summed_of_ok (h : Span.segment cs = .ok (x, rest)) :
    summed total cs = summed (total + x.1 * x.2.seconds) rest := by
  cases cs with
  | nil => cases h
  | cons c cs =>
    rw [summed]
    · cases rest with
      | nil =>
        rw [Span.segments_of_last h]
        rfl
      | cons d rest =>
        rw [Span.segments_of_more h, summed]
        · cases Span.segments (d :: rest) <;> rfl
        · nofun
    · nofun

/-- The number at the front of a text and the letters after it. -/
def segmentText (u : String) : String :=
  run Span.isNumeric u ++ run Char.isAlpha (afterRun Span.isNumeric u)

theorem segmentText_append (h : Span.segment u.toList = .ok (x, rest)) :
    segmentText u ++ String.ofList rest = u := by
  have hrest : afterRun Char.isAlpha (afterRun Span.isNumeric u) = String.ofList rest := by
    rw [afterRun, afterRun, String.toList_ofList, Span.rest_of_segment h]
  rw [segmentText, ← hrest, append_run_append, run_append]

/-- A segment has an octet. -/
theorem utf8ByteSize_segmentText_pos (h : Span.segment u.toList = .ok (x, rest)) :
    0 < (segmentText u).utf8ByteSize := by
  refine Nat.pos_of_ne_zero fun hzero => ?_
  have hu := segmentText_append h
  rw [String.utf8ByteSize_eq_zero_iff.mp hzero, String.empty_append] at hu
  have hshort := Span.length_of_segment h
  rw [← hu, String.toList_ofList] at hshort
  exact Nat.lt_irrefl _ hshort

/-- **One round** ends with the fault of the segment, or behind it. -/
theorem spanRound_eq (hlt : (t ++ u).utf8ByteSize < m.half) (hne : u ≠ "") :
    spanRound m (t ++ u) (t.utf8ByteSize, total) =
      pure (match Span.segment u.toList with
        | .error e => .inr (.error e)
        | .ok (x, _) => .inl ((t ++ segmentText u).utf8ByteSize, total + x.1 * x.2.seconds)) := by
  obtain ⟨number, hnumber⟩ : ∃ number, number = u.toList.takeWhile Span.isNumeric := ⟨_, rfl⟩
  obtain ⟨name, hname⟩ :
      ∃ name, name = (u.toList.dropWhile Span.isNumeric).takeWhile Char.isAlpha := ⟨_, rfl⟩
  have hrun : run Span.isNumeric u = String.ofList number := congrArg String.ofList hnumber.symm
  have hletters : run Char.isAlpha (afterRun Span.isNumeric u) = String.ofList name := by
    rw [run, afterRun, String.toList_ofList, ← hname]
  have hoctets : Bytes.ofString (String.ofList number) = Span.octetsOf number :=
    ofString_number fun c hc => List.mem_takeWhile_imp (hnumber ▸ hc)
  have hpos : t.utf8ByteSize < (t ++ u).utf8ByteSize := by
    have hzero := mt String.utf8ByteSize_eq_zero_iff.mp hne
    rw [String.utf8ByteSize_append]
    omega
  have hafter := append_run_append Span.isNumeric t u
  have hstop := runEnd_letters (m := m) (t := t ++ run Span.isNumeric u)
    (u := afterRun Span.isNumeric u) (by rwa [hafter])
  have hcut := cut_run Char.isAlpha (t ++ run Span.isNumeric u) (afterRun Span.isNumeric u)
  rw [hafter, String.append_assoc, ← segmentText] at hstop hcut
  rw [spanRound, if_pos (by rwa [length_ofString]), runEnd_numeric hlt, pure_bind]
  simp only [Span.segment, ← hnumber, ← hname]
  by_cases hempty : number = []
  · rw [if_pos, if_pos (by rw [hempty]; rfl)]
    rw [hrun, hempty, String.ofList_nil, String.append_empty]
  · rw [if_neg, if_neg (by simpa using hempty), cut_run, pure_bind, hrun, hoctets]
    · cases Plain.read? (Span.octetsOf number) with
      | none => rfl
      | some value =>
        dsimp only
        rw [← hrun, hstop, pure_bind, hcut, pure_bind, hletters, unitOf, String.toList_ofList]
        by_cases hname : name = []
        · subst hname
          rfl
        · rw [if_neg (mt String.ofList_eq_empty_iff.mp hname), if_neg (by simpa using hname)]
          cases Span.Timescale.ofName? name <;> rfl
    · rw [hrun, String.utf8ByteSize_append]
      have hzero := mt String.utf8ByteSize_eq_zero_iff.mp (mt String.ofList_eq_empty_iff.mp hempty)
      omega

/-- **The rounds end** with the seconds of all segments, or with the first fault. -/
theorem loop_spanRound_eq (total : Float) (hlt : (t ++ u).utf8ByteSize < m.half) :
    (spanRound m (t ++ u)).loop (t.utf8ByteSize, total) = pure (summed total u.toList) := by
  obtain ⟨s, hs⟩ : ∃ s, s = t ++ u := ⟨_, rfl⟩
  rw [← hs] at hlt ⊢
  refine Exec.Round.loop_eq_of_measure (fun state seconds => ∃ t u, s = t ++ u ∧
    state.1 = t.utf8ByteSize ∧ seconds = summed state.2 u.toList)
    (fun state => s.utf8ByteSize - state.1) ?_ ⟨t, u, hs, rfl, rfl⟩
  rintro ⟨_, total⟩ _ ⟨t, u, rfl, rfl, rfl⟩
  by_cases hne : u = ""
  · subst hne
    refine .inl ?_
    rw [spanRound, if_neg (by rw [length_ofString, String.append_empty]; omega)]
    rfl
  · rw [spanRound_eq hlt hne]
    cases hsegment : Span.segment u.toList with
    | error e =>
      rw [summed_of_error (mt String.toList_eq_nil_iff.mp hne) hsegment]
      exact .inl rfl
    | ok segment =>
      obtain ⟨x, rest⟩ := segment
      have hu := segmentText_append hsegment
      have hpos := utf8ByteSize_segmentText_pos hsegment
      have hsize := congrArg String.utf8ByteSize hu
      rw [String.utf8ByteSize_append] at hsize
      refine .inr ⟨_, rfl, ⟨t ++ segmentText u, String.ofList rest, ?_, rfl, ?_⟩, ?_⟩
      · rw [String.append_assoc, hu]
      · rw [summed_of_ok hsegment, String.toList_ofList]
      · dsimp only
        rw [String.utf8ByteSize_append, String.utf8ByteSize_append]
        omega

theorem utf8ByteSize_trim_le (text : String) :
    (Blank.trim text).utf8ByteSize ≤ text.utf8ByteSize := by
  have hinfix : Blank.trimChars text.toList <:+: text.toList := by
    refine List.IsInfix.trans (List.IsPrefix.isInfix ?_)
      (List.dropWhile_suffix Blank.isBlank).isInfix
    rw [Blank.trimChars, ← List.reverse_suffix, List.reverse_reverse]
    exact List.dropWhile_suffix Blank.isBlank
  obtain ⟨front, back, h⟩ := hinfix
  have htext := congrArg String.utf8ByteSize (congrArg String.ofList h)
  rw [String.ofList_toList, String.ofList_append, String.ofList_append, String.utf8ByteSize_append,
    String.utf8ByteSize_append] at htext
  rw [Blank.trim]
  omega

theorem readSpan_eq (hlt : text.utf8ByteSize < m.half) :
    readSpan m text = pure (Span.read text) := by
  have htrim := Nat.lt_of_le_of_lt (utf8ByteSize_trim_le text) hlt
  have hloop : (spanRound m (Blank.trim text)).loop (0, 0.0) =
      pure (summed 0.0 (Blank.trim text).toList) := by
    rw [← String.empty_append (s := Blank.trim text)] at htrim
    have h := loop_spanRound_eq 0.0 htrim
    rwa [String.empty_append, String.utf8ByteSize_empty] at h
  rw [readSpan, hloop, pure_bind, Span.read, Blank.trim, String.toList_ofList]
  cases Blank.trimChars text.toList with
  | nil => rfl
  | cons c cs =>
    have hne := List.cons_ne_nil c cs
    rw [if_neg (mt String.ofList_eq_empty_iff.mp hne), summed]
    · dsimp only
      cases Span.segments (c :: cs) with
      | error e => rfl
      | ok xs =>
        dsimp only [Except.map]
        rw [← Span.totalSeconds]
        cases Span.ofFloatSeconds? (Span.totalSeconds xs) <;> rfl
    · exact hne

/-- **A span is read by position** as it is read character by character. -/
theorem parseSpan_eq (hlt : text.utf8ByteSize < m.half) :
    parseSpan m text = pure (Span.parse text) := by
  rw [parseSpan, readSpan_eq hlt, pure_bind, Span.parse_eq]

/-- **Just the grammar is accepted.** A text is reported for another fault than its length just if,
without the blanks around it, it is no sequence of segments; it is read, or reported as too long,
just if it is one. And in whatever text the machine can hold, the reader by position ends with what
is read: no part is cut out within a character. -/
theorem parse_grammar (text : String) :
    ((∃ fault, Span.parse text = .error fault ∧ fault ≠ Span.faultOf text .outOfRange) ↔
      ¬Span.IsText (Blank.trimChars text.toList)) ∧
    ((∃ span, Span.parse text = .ok span) ∨
        Span.parse text = .error (Span.faultOf text .outOfRange) ↔
      Span.IsText (Blank.trimChars text.toList)) ∧
    ∀ m : Machine, text.utf8ByteSize < m.half → parseSpan m text = pure (Span.parse text) :=
  ⟨Span.exists_fault_iff, Span.read_or_outOfRange_iff, fun _ => parseSpan_eq⟩

/-- ` 1m30s` is a text of the grammar, and a machine of 64 bits reads it. -/
theorem parse_grammar_minute :
    let m : Machine := ⟨2 ^ 63, by decide⟩
    let text := " 1m30s"
    Span.IsText (Blank.trimChars text.toList) ∧ text.utf8ByteSize < m.half ∧
      ((∃ span, Span.parse text = .ok span) ∨
        Span.parse text = .error (Span.faultOf text .outOfRange)) ∧
      parseSpan m text = pure (Span.parse text) := by
  intro m text
  have htext : Span.IsText (Blank.trimChars text.toList) := by
    have hminute : Span.IsSegment ['1'] ['m'] ['3', '0', 's'] :=
      ⟨⟨List.all_eq_true.mp rfl, ⟨'1', by simp, rfl⟩, by decide⟩, by decide,
        fun c hc => by obtain rfl : '3' = c := Option.some.inj hc; rfl⟩
    have hsecond : Span.IsSegment ['3', '0'] ['s'] [] :=
      ⟨⟨List.all_eq_true.mp rfl, ⟨'3', by simp, rfl⟩, by decide⟩, by decide, nofun⟩
    have htrim : Blank.trimChars text.toList = ['1'] ++ (['m'] ++ (['3', '0'] ++ ['s'])) := by
      decide
    rw [htrim]
    exact .more _ _ _ hminute (.last _ _ hsecond)
  have hsize : text.utf8ByteSize < m.half := by decide
  obtain ⟨-, hread, hposition⟩ := parse_grammar text
  exact ⟨htext, hsize, hread.mpr htext, hposition m hsize⟩

end Positional

end LogWatch
