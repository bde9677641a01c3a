import LogWatch.Proofs.Text.Utf8
import LogWatch.Text.Lines
import Mathlib.Data.List.DropRight

/-!
# Writing lines and cutting them again

Lines that are written with a line feed after each are found again when the text is cut, but for
the carriage returns at their ends: of these each reading takes one away (`LogWatch.Lines.asRead`).
What a line is without any of them, its **bare** form, is the same however often it has been written
and read.

Texts of lines are put together piece by piece: what is put behind one changes none of its lines.
-/

namespace LogWatch

namespace Lines

/-- The text of some lines, with a line feed after each. -/
def text (lines : List Bytes) : Bytes := lines.flatMap fun line => line ++ [10]

/-- A line as it is read: without one carriage return at its end. -/
def asRead (line : Bytes) : Bytes := closeOctets line.reverse

/-- A line without the carriage returns at its end. -/
def bare (line : Bytes) : Bytes := line.rdropWhile fun b => b == 13

/-- **One line**: valid UTF-8 without line feeds. -/
structure IsLine (line : Bytes) : Prop where
  /-- It does not end before its end. -/
  noLineFeed : 10 ∉ line
  /-- It is text. -/
  isValid : Utf8.isValid line = true

section Returns

variable {line : Bytes}

theorem eq_asRead_or (line : Bytes) : line = asRead line ++ [13] ∨ asRead line = line := by
  rw [asRead, closeOctets.eq_def]
  split
  · next bs heq => exact .inl (by rw [← List.reverse_cons, ← heq, List.reverse_reverse])
  · exact .inr (List.reverse_reverse line)

/-- Where there is no carriage return, none is lost. -/
theorem asRead_of_not_mem (h : 13 ∉ line) : asRead line = line := by
  rcases eq_asRead_or line with heq | heq
  · exact absurd (heq ▸ List.mem_append_right _ List.mem_cons_self) h
  · exact heq

theorem bare_of_not_mem (h : 13 ∉ line) : bare line = line :=
  List.rdropWhile_eq_self_iff.mpr fun hne hlast =>
    h (eq_of_beq hlast ▸ List.getLast_mem hne)

/-- **Reading does not change what a line is without its carriage returns.** -/
theorem bare_asRead (line : Bytes) : bare (asRead line) = bare line := by
  rcases eq_asRead_or line with heq | heq
  · have hbare : bare (asRead line ++ [13]) = bare (asRead line) :=
      List.rdropWhile_concat_pos _ _ _ rfl
    rw [← hbare, ← heq]
  · rw [heq]

theorem IsLine.asRead (h : IsLine line) : IsLine (asRead line) := by
  rcases eq_asRead_or line with heq | heq
  · rw [heq] at h
    exact ⟨fun hmem => h.noLineFeed (List.mem_append_left _ hmem),
      Utf8.isValid_of_snoc (by decide) h.isValid⟩
  · rwa [heq]

end Returns

section Text

variable {line : Bytes} {lines : List Bytes}

@[simp] theorem text_nil : text [] = [] := rfl

@[simp] theorem text_cons : text (line :: lines) = line ++ 10 :: text lines := by
  simp [text]

@[simp] theorem text_append (lines lines' : List Bytes) :
    text (lines ++ lines') = text lines ++ text lines' :=
  List.flatMap_append

/-- A line ends at the first line feed. -/
theorem splitOctets_append (open_ rest : Bytes) (h : 10 ∉ line) :
    splitOctets open_ (line ++ 10 :: rest) =
      closeOctets (line.reverse ++ open_) :: splitOctets [] rest := by
  induction line generalizing open_ with
  | nil => simp [splitOctets]
  | cons b line ih =>
    rw [List.mem_cons, not_or] at h
    have hb : (b == 10) = false := by simpa using Ne.symm h.1
    rw [List.cons_append, splitOctets, hb, if_neg Bool.false_ne_true, ih _ h.2,
      List.reverse_cons, List.append_assoc]
    rfl

/-- **Lines are found again.** -/
theorem ofBytes_text (h : ∀ line ∈ lines, IsLine line) :
    ofBytes (text lines) = lines.map asRead := by
  induction lines with
  | nil => rfl
  | cons line lines ih =>
    rw [text_cons, ofBytes, splitOctets_append _ _ (h line List.mem_cons_self).noLineFeed,
      List.append_nil, List.map_cons]
    exact congrArg _ (ih fun l hl => h l (List.mem_cons_of_mem _ hl))

/-- **The text of lines is valid.** -/
theorem isValid_text (h : ∀ line ∈ lines, IsLine line) : Utf8.isValid (text lines) = true := by
  induction lines with
  | nil => simp [Utf8.isValid, Utf8.strictOnto]
  | cons line lines ih =>
    have hfeed : Utf8.isValid [10] = true := by
      rw [Utf8.isValid, Utf8.strictOnto_cons (Utf8.front_of_one (by decide)), Utf8.strictOnto]
      rfl
    rw [text_cons, Utf8.isValid_append (h line List.mem_cons_self).isValid,
      ← List.singleton_append, Utf8.isValid_append hfeed]
    exact ih fun l hl => h l (List.mem_cons_of_mem _ hl)

end Text

end Lines

end LogWatch
