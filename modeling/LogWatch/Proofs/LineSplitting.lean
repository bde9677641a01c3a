import LogWatch.LineReader
import Mathlib.Data.List.TakeWhile

/-!
# A stream reads as one text

How the octets of a stream are spread over reads makes no difference to its lines. They are the
**pieces** between its line feeds (`LogWatch.LineReader.pieces`), which are found by looking at the
whole text at once: a line may end in the middle of a read, go on over any number of them, and grow
beyond its limit anywhere, and its carriage return and line feed may come in different reads.

A read that fails costs what has been read of the piece that is open then, and nothing else
(`LogWatch.LineReader.heard`).

The reader is a function of what it has consumed of the open piece: `LogWatch.LineReader.holding`
says which, and each of its operations is shown to go from one such state to another. Reading a
whole stream is then one induction on its reads.
-/

namespace LogWatch

namespace LineReader

/-! ### The pieces of a text -/

/-- The pieces of a text that a line feed ends. -/
def finished (text : Bytes) : List Bytes := (text.splitOn 10).dropLast

/-- What follows the last line feed of a text. -/
def unfinished (text : Bytes) : Bytes := (text.splitOn 10).getLastD []

/-- **The pieces of a text** between its line feeds. Behind the last line feed there is a piece only
if there is something. -/
def pieces (text : Bytes) : List Bytes :=
  finished text ++ if unfinished text = [] then [] else [unfinished text]

/-- A line without one carriage return at its end. -/
def withoutReturn (line : Bytes) : Bytes :=
  if line.getLast? = some 13 then line.dropLast else line

/-- A piece as it is given out: its first `limit` octets, without a carriage return at the end. -/
def shown (limit : Nat) (piece : Bytes) : Bytes := withoutReturn (piece.take limit)

/-- The piece is longer than what is given out of it. -/
def isCut (limit : Nat) (piece : Option Bytes) : Bool :=
  piece.any fun octets => decide (limit < octets.length)

/-- **What is heard of a stream**: its pieces, and its failures. The octets in `text` have come
since the last failure; when a read fails, the piece that is open is lost. -/
def heard (text : Bytes) : List (Option Bytes) → List (Option Bytes)
  | [] => (pieces text).map some
  | some chunk :: reads => heard (text ++ chunk) reads
  | none :: reads => (finished text).map some ++ none :: heard [] reads

section Pieces

variable {line : Bytes}

theorem bne_of_not_mem (h : 10 ∉ line) : ∀ b ∈ line, (b == 10) = false := by
  intro b hb
  rw [beq_eq_false_iff_ne]
  rintro rfl
  exact h hb

theorem splitOn_of_not_mem (h : 10 ∉ line) : line.splitOn 10 = [line] :=
  List.splitOnP_eq_singleton (bne_of_not_mem h)

theorem splitOn_append_cons (h : 10 ∉ line) (rest : Bytes) :
    (line ++ 10 :: rest).splitOn 10 = line :: rest.splitOn 10 :=
  List.splitOnP_append_cons_of_forall_mem (bne_of_not_mem h) 10 rfl rest

theorem finished_of_not_mem (h : 10 ∉ line) : finished line = [] := by
  rw [finished, splitOn_of_not_mem h]
  rfl

theorem unfinished_of_not_mem (h : 10 ∉ line) : unfinished line = line := by
  rw [unfinished, splitOn_of_not_mem h]
  rfl

/-- A line feed ends the first piece. -/
theorem finished_append_cons (h : 10 ∉ line) (rest : Bytes) :
    finished (line ++ 10 :: rest) = line :: finished rest := by
  have hne : rest.splitOn 10 ≠ [] := List.splitOnP_ne_nil _ _
  rw [finished, splitOn_append_cons h, List.dropLast_cons_of_ne_nil hne]
  rfl

theorem unfinished_append_cons (h : 10 ∉ line) (rest : Bytes) :
    unfinished (line ++ 10 :: rest) = unfinished rest := by
  have hne : rest.splitOn 10 ≠ [] := List.splitOnP_ne_nil _ _
  rw [unfinished, splitOn_append_cons h, List.getLastD_cons, unfinished,
    List.getLastD_eq_getLast?, List.getLastD_eq_getLast?, List.getLast?_eq_some_getLast hne]
  rfl

/-- A text is one piece without a line feed, or such a piece ended by one in front of a text. -/
theorem text_induction {motive : Bytes → Prop} (last : ∀ line, 10 ∉ line → motive line)
    (first : ∀ line rest, 10 ∉ line → motive rest → motive (line ++ 10 :: rest)) (text : Bytes) :
    motive text := by
  induction hn : text.length using Nat.strongRecOn generalizing text with
  | ind n ih =>
    by_cases h : 10 ∈ text
    · obtain ⟨line, rest, rfl, hline⟩ := List.eq_append_cons_of_mem h
      refine first line rest hline (ih rest.length ?_ rest rfl)
      rw [← hn, List.length_append, List.length_cons]
      omega
    · exact last text h

/-- **What comes behind a text changes none of its finished pieces.** -/
theorem finished_append (text more : Bytes) :
    finished (text ++ more) = finished text ++ finished (unfinished text ++ more) ∧
      unfinished (text ++ more) = unfinished (unfinished text ++ more) := by
  induction text using text_induction with
  | last line h =>
    rw [finished_of_not_mem h, unfinished_of_not_mem h]
    exact ⟨rfl, rfl⟩
  | first line rest h ih =>
    rw [List.append_assoc, List.cons_append, finished_append_cons h, unfinished_append_cons h,
      finished_append_cons h, unfinished_append_cons h, ih.1]
    exact ⟨rfl, ih.2⟩

theorem not_mem_unfinished (text : Bytes) : 10 ∉ unfinished text := by
  induction text using text_induction with
  | last line h => rwa [unfinished_of_not_mem h]
  | first line rest h ih => rwa [unfinished_append_cons h]

theorem heard_map_some_append (text : Bytes) (chunks : List Bytes) (more : List (Option Bytes)) :
    heard text (chunks.map some ++ more) = heard (text ++ chunks.flatten) more := by
  induction chunks generalizing text with
  | nil => rw [List.map_nil, List.nil_append, List.flatten_nil, List.append_nil]
  | cons chunk chunks ih =>
    rw [List.map_cons, List.cons_append, heard, ih, List.flatten_cons, List.append_assoc]

/-- Where no read fails, the pieces of the whole text are heard. -/
theorem heard_map_some (text : Bytes) (chunks : List Bytes) :
    heard text (chunks.map some) = (pieces (text ++ chunks.flatten)).map some := by
  have hmore := heard_map_some_append text chunks []
  rwa [List.append_nil, heard] at hmore

/-- The finished pieces of what has come are heard whatever follows. -/
theorem heard_append (reads : List (Option Bytes)) (text more : Bytes) :
    heard (text ++ more) reads =
      (finished text).map some ++ heard (unfinished text ++ more) reads := by
  induction reads generalizing more with
  | nil =>
    obtain ⟨hfinished, hunfinished⟩ := finished_append text more
    simp only [heard, pieces, hfinished, hunfinished, List.append_assoc, List.map_append]
  | cons read reads ih =>
    cases read with
    | some chunk =>
      rw [heard, heard, List.append_assoc, List.append_assoc]
      exact ih (more ++ chunk)
    | none => simp only [heard, (finished_append text more).1, List.map_append, List.append_assoc]

end Pieces

/-! ### The state of the reader -/

/-- **The reader that has consumed `open_` of the open piece**, after `cut` pieces that were too
long. -/
def holding (limit cut : Nat) (open_ pending : Bytes) : LineReader where
  limit := limit
  pending := pending
  kept := (open_.take limit).reverse
  keptLength := (open_.take limit).length
  started := !open_.isEmpty
  overflowed := decide (limit < open_.length)
  truncated := cut

section Holding

variable {limit cut : Nat} {open_ pending line : Bytes}

theorem new_eq (limit : Nat) : new limit = holding limit 0 [] [] := by
  simp [new, holding]

/-- Consuming a part of the piece. -/
theorem extend_holding (part rest : Bytes) :
    extend { holding limit cut open_ pending with pending := rest } part =
      { holding limit cut (open_ ++ part) rest with started := true } := by
  have hroom : limit - (open_.take limit).length = limit - open_.length := by
    rw [List.length_take]
    omega
  have hlength : (open_.take limit).length + min part.length (limit - open_.length) =
      ((open_ ++ part).take limit).length := by
    rw [List.length_take, List.length_take, List.length_append]
    omega
  have hover : (decide (limit < open_.length) || decide (limit - open_.length < part.length)) =
      decide (limit < (open_ ++ part).length) := by
    rw [← Bool.decide_or, List.length_append]
    exact decide_eq_decide.mpr (by omega)
  simp only [extend, holding, hroom, hlength, hover, List.take_append, List.reverse_append]

theorem content_reverse (line : Bytes) : content line.reverse = withoutReturn line := by
  rw [withoutReturn, ← List.head?_reverse, content.eq_def]
  split
  · next rest heq =>
    rw [heq, List.head?_cons, if_pos rfl, ← List.reverse_reverse line, heq, List.reverse_cons,
      List.dropLast_concat]
  · next hne =>
    rw [if_neg, List.reverse_reverse]
    intro hhead
    obtain ⟨rest, heq⟩ := List.head?_eq_some_iff.mp hhead
    exact hne rest heq

/-- The end of the piece. -/
theorem close_holding (started : Bool) :
    close { holding limit cut open_ pending with started := started } =
      (shown limit open_,
        holding limit (cut + if isCut limit (some open_) then 1 else 0) [] pending) := by
  rw [close]
  refine Prod.ext (content_reverse _) ?_
  simp [holding, reset, isCut]
  split <;> rfl

/-- The next line is the open piece up to its line feed. -/
theorem next?_holding_of_line (h : 10 ∉ line) (rest : Bytes) :
    (holding limit cut open_ (line ++ 10 :: rest)).next? =
      (some (shown limit (open_ ++ line)),
        holding limit (cut + if isCut limit (some (open_ ++ line)) then 1 else 0) [] rest) := by
  have hline : ∀ b ∈ line, (b != 10) = true := fun b hb => by rw [bne, bne_of_not_mem h b hb]; rfl
  have htake : (line ++ 10 :: rest).takeWhile (· != 10) = line := by
    rw [List.takeWhile_append_of_pos hline, List.takeWhile_cons_of_neg (by decide), List.append_nil]
  have hdrop : (line ++ 10 :: rest).dropWhile (· != 10) = 10 :: rest := by
    rw [List.dropWhile_append_of_pos hline, List.dropWhile_cons_of_neg (by decide)]
  have hpending : (holding limit cut open_ (line ++ 10 :: rest)).pending = line ++ 10 :: rest := rfl
  simp only [next?, hpending, htake, hdrop, extend_holding, close_holding]

/-- Without a line feed, all that has come belongs to the open piece. -/
theorem next?_holding_of_not_mem (h : 10 ∉ pending) :
    (holding limit cut open_ pending).next? = (none, holding limit cut (open_ ++ pending) []) := by
  have hpending : (holding limit cut open_ pending).pending = pending := rfl
  have hall : ∀ b ∈ pending, (b != 10) = true := fun b hb => by
    rw [bne, bne_of_not_mem h b hb]; rfl
  have hdrop : pending.dropWhile (· != 10) = [] := List.dropWhile_eq_nil_iff.mpr hall
  simp only [next?, hpending, hdrop, List.takeWhile_eq_self_iff.mpr hall, extend_holding]
  split
  · next hempty => rw [List.isEmpty_iff.mp hempty, List.append_nil]
  · next hempty =>
    have hne : open_ ++ pending ≠ [] := fun heq =>
      hempty (List.isEmpty_iff.mpr (List.append_eq_nil_iff.mp heq).2)
    have hstarted : (!(open_ ++ pending).isEmpty) = true := by simpa using hne
    rw [holding, hstarted]

end Holding

/-! ### Whole streams -/

/-- What is given out of pieces and failures, when `cut` pieces had been too long before. -/
def outcomes (limit cut : Nat) : List (Option Bytes) → List Outcome
  | [] => []
  | piece :: rest =>
    let cut := cut + if isCut limit piece then 1 else 0
    (piece.map (shown limit), cut) :: outcomes limit cut rest

section Streams

variable {limit cut : Nat} {open_ pending : Bytes}

theorem outcomes_append (pieces rest : List (Option Bytes)) :
    outcomes limit cut (pieces ++ rest) =
      outcomes limit cut pieces ++ outcomes limit (cut + pieces.countP (isCut limit)) rest := by
  induction pieces generalizing cut with
  | nil => rfl
  | cons piece pieces ih =>
    simp only [List.cons_append, outcomes, ih, List.countP_cons]
    congr 3
    omega

theorem map_fst_outcomes (pieces : List (Option Bytes)) :
    (outcomes limit cut pieces).map Prod.fst = pieces.map (Option.map (shown limit)) := by
  induction pieces generalizing cut with
  | nil => rfl
  | cons piece pieces ih => simp only [outcomes, List.map_cons, ih]

/-- The count that comes with an outcome. -/
theorem map_snd_outcomes (pieces : List (Option Bytes)) (i : Nat) (hi : i < pieces.length) :
    ((outcomes limit cut pieces).map Prod.snd)[i]? =
      some (cut + (pieces.take (i + 1)).countP (isCut limit)) := by
  induction pieces generalizing cut i with
  | nil => simp at hi
  | cons piece pieces ih =>
    cases i with
    | zero => simp [outcomes, List.countP_cons]
    | succ i =>
      simp only [outcomes, List.map_cons, List.getElem?_cons_succ]
      rw [ih i (by simpa using hi), List.take_succ_cons, List.countP_cons]
      congr 1
      omega

/-- **The reader takes the finished pieces of what it has**, and goes on with the rest. -/
theorem drain_holding (rest : LineReader → List Outcome) (h : 10 ∉ open_) :
    drain rest (holding limit cut open_ pending) =
      outcomes limit cut ((finished (open_ ++ pending)).map some) ++
        rest (holding limit (cut + ((finished (open_ ++ pending)).map some).countP (isCut limit))
          (unfinished (open_ ++ pending)) []) := by
  induction pending using text_induction generalizing open_ cut with
  | last line hline =>
    have hnone : 10 ∉ open_ ++ line := by simp [h, hline]
    rw [drain, finished_of_not_mem hnone, unfinished_of_not_mem hnone]
    split
    · next heq => simp [next?_holding_of_not_mem hline] at heq
    · next r heq =>
      rw [next?_holding_of_not_mem hline] at heq
      obtain rfl := (Prod.mk.inj heq).2
      rfl
  | first line more hline ih =>
    have hnone : 10 ∉ open_ ++ line := by simp [h, hline]
    rw [drain, ← List.append_assoc, finished_append_cons hnone, unfinished_append_cons hnone]
    split
    · next given r heq =>
      rw [next?_holding_of_line hline] at heq
      obtain ⟨hgiven, rfl⟩ := Prod.mk.inj heq
      obtain rfl := Option.some.inj hgiven
      rw [ih (by simp)]
      simp only [List.nil_append, List.map_cons, outcomes, List.cons_append, List.countP_cons]
      congr 4
      omega
    · next heq => simp [next?_holding_of_line hline] at heq

/-- At the end of a stream an open piece is given out. -/
theorem finish_holding :
    (holding limit cut open_ []).finish =
      if open_ = [] then (none, holding limit cut [] [])
      else (some (shown limit open_),
        holding limit (cut + if isCut limit (some open_) then 1 else 0) [] []) := by
  by_cases h : open_ = []
  · subst h
    rfl
  · have hstarted : (holding limit cut open_ []).started = true := by simpa [holding] using h
    have hclose : (holding limit cut open_ []).close = _ := close_holding _
    rw [finish, if_pos hstarted, hclose, if_neg h]

/-- The end of a stream comes once. -/
theorem finish_finish (r : LineReader) : r.finish.2.finish = (none, r.finish.2) := by
  have hstarted : r.finish.2.started = false := by
    rw [finish]
    split
    · rfl
    · next hstarted => exact Bool.eq_false_iff.mpr hstarted
  rw [finish, if_neg (by rw [hstarted]; exact Bool.false_ne_true)]

/-- **All reads of a stream, from any state of the reader.** -/
theorem readAll_holding (reads : List (Option Bytes)) (h : 10 ∉ open_) :
    readAll (holding limit cut open_ pending) reads =
      outcomes limit cut (heard (open_ ++ pending) reads) := by
  induction reads generalizing cut open_ pending with
  | nil =>
    rw [readAll, drain_holding _ h, finish_holding, heard, pieces, List.map_append, outcomes_append]
    congr 1
    by_cases hopen : unfinished (open_ ++ pending) = []
    · simp only [if_pos hopen]
      rfl
    · simp only [if_neg hopen]
      rfl
  | cons read reads ih =>
    have hheard (more : Bytes) := heard_append reads (open_ ++ pending) more
    cases read with
    | some chunk =>
      have hreceive (n : Nat) (text : Bytes) :
          (holding limit n text []).receive chunk = holding limit n text chunk := rfl
      rw [readAll, drain_holding _ h, heard, hheard, outcomes_append, hreceive,
        ih (not_mem_unfinished _)]
    | none =>
      have hfail (n : Nat) (text : Bytes) :
          (holding limit n text []).fail = holding limit n [] [] := by
        simp [holding, fail, reset]
      rw [readAll, drain_holding _ h, heard, outcomes_append, hfail, ih (by simp)]
      rfl

end Streams

/-! ### Streams made of lines -/

/-- Lines, each with a line feed behind it. -/
def endedLines (lines : List Bytes) : Bytes := lines.flatMap (· ++ [10])

/-- What follows the last line feed of a text, if there is anything. -/
def remainder (text : Bytes) : List Bytes := if unfinished text = [] then [] else [unfinished text]

section Ended

variable {text line : Bytes} {lines chunks : List Bytes}

theorem pieces_eq (text : Bytes) : pieces text = finished text ++ remainder text := rfl

theorem not_mem_of_mem_finished (h : line ∈ finished text) : 10 ∉ line := by
  induction text using text_induction with
  | last text htext =>
    rw [finished_of_not_mem htext] at h
    cases h
  | first front rest hfront ih =>
    rw [finished_append_cons hfront, List.mem_cons] at h
    obtain rfl | h := h
    · exact hfront
    · exact ih h

theorem not_mem_of_mem_remainder (h : line ∈ remainder text) : 10 ∉ line := by
  rw [remainder] at h
  split at h
  · cases h
  · rw [List.mem_singleton.mp h]
    exact not_mem_unfinished text

theorem finished_endedLines_append (h : ∀ line ∈ lines, 10 ∉ line) (rest : Bytes) :
    finished (endedLines lines ++ rest) = lines ++ finished rest ∧
      unfinished (endedLines lines ++ rest) = unfinished rest := by
  induction lines with
  | nil => exact ⟨rfl, rfl⟩
  | cons line lines ih =>
    obtain ⟨hfinished, hunfinished⟩ := ih fun line hline => h line (List.mem_cons_of_mem _ hline)
    have hline := h line List.mem_cons_self
    have hassoc : endedLines (line :: lines) ++ rest =
        line ++ 10 :: (endedLines lines ++ rest) := by
      simp [endedLines]
    rw [hassoc, finished_append_cons hline, unfinished_append_cons hline, hfinished, hunfinished]
    exact ⟨rfl, rfl⟩

/-- **What was put in as lines is heard as those lines**, in whatever chunks it is read, and before
anything else. -/
theorem heard_of_flatten_eq (h : ∀ line ∈ lines, 10 ∉ line)
    (hchunks : chunks.flatten = endedLines lines) (more : List (Option Bytes)) :
    heard [] (chunks.map some ++ more) = lines.map some ++ heard [] more := by
  obtain ⟨hfinished, hunfinished⟩ := finished_endedLines_append h []
  rw [List.append_nil] at hfinished hunfinished
  have happend := heard_append more (endedLines lines) []
  rw [hfinished, hunfinished, List.append_nil] at happend
  rw [heard_map_some_append, List.nil_append, hchunks, happend]
  simp [finished, unfinished, List.splitOn]

theorem readAll_of_flatten_eq (limit : Nat) (h : ∀ line ∈ lines, 10 ∉ line)
    (hchunks : chunks.flatten = endedLines lines) (more : List (Option Bytes)) :
    (readAll (new limit) (chunks.map some ++ more)).map Prod.fst =
      lines.map (fun line => some (shown limit line)) ++
        (heard [] more).map (Option.map (shown limit)) := by
  rw [new_eq, readAll_holding _ List.not_mem_nil, List.append_nil, map_fst_outcomes,
    heard_of_flatten_eq h hchunks, List.map_append, List.map_map]
  rfl

/-- A line up to the limit loses nothing but a carriage return. -/
theorem shown_eq_withoutReturn {limit : Nat} {line : Bytes} (h : line.length ≤ limit) :
    shown limit line = withoutReturn line := by
  rw [shown, List.take_of_length_le h]

end Ended

/-! ### What the reader holds -/

/-- **A reader at work**: one that has got there by its own operations. -/
inductive IsReached (limit : Nat) : LineReader → Prop
  /-- It has read nothing. -/
  | new : IsReached limit (new limit)
  /-- It has read octets. -/
  | received {r : LineReader} (chunk : Bytes) :
    IsReached limit r → IsReached limit (r.receive chunk)
  /-- It has looked for a line. -/
  | looked {r : LineReader} : IsReached limit r → IsReached limit r.next?.2
  /-- It has come to the end of its stream. -/
  | finished {r : LineReader} : IsReached limit r → IsReached limit r.finish.2
  /-- A read has failed. -/
  | failed {r : LineReader} : IsReached limit r → IsReached limit r.fail

/-- **The reader keeps at most as much as it may**, and knows how much. -/
structure IsBounded (limit : Nat) (r : LineReader) : Prop where
  limit_eq : r.limit = limit
  length_eq : r.keptLength = r.kept.length
  length_le : r.kept.length ≤ limit

section Bounds

variable {limit : Nat} {r : LineReader}

theorem isBounded_reset (h : r.limit = limit) : IsBounded limit r.reset :=
  ⟨h, rfl, Nat.zero_le _⟩

theorem isBounded_close (h : r.limit = limit) : IsBounded limit r.close.2 :=
  ⟨h, rfl, Nat.zero_le _⟩

/-- What does not fit is not kept. -/
theorem IsBounded.extend (h : IsBounded limit r) (part pending : Bytes) :
    IsBounded limit (LineReader.extend { r with pending } part) := by
  obtain ⟨hlimit, hlength, hle⟩ := h
  refine ⟨hlimit, ?_, ?_⟩
  · simp only [LineReader.extend, List.length_append, List.length_reverse, List.length_take,
      hlength]
    omega
  · simp only [LineReader.extend, List.length_append, List.length_reverse, List.length_take, hlimit,
      hlength]
    omega

theorem IsBounded.next? (h : IsBounded limit r) : IsBounded limit r.next?.2 := by
  rw [LineReader.next?]
  split
  · exact isBounded_close h.limit_eq
  · split
    · exact h
    · exact h.extend _ _

theorem IsBounded.finish (h : IsBounded limit r) : IsBounded limit r.finish.2 := by
  rw [LineReader.finish]
  split
  · exact isBounded_close h.limit_eq
  · exact h

/-- **Whatever a reader has done, it is within its bound.** -/
theorem IsReached.isBounded (h : IsReached limit r) : IsBounded limit r := by
  induction h with
  | new => exact ⟨rfl, rfl, Nat.zero_le _⟩
  | received chunk _ ih => exact ⟨ih.limit_eq, ih.length_eq, ih.length_le⟩
  | looked _ ih => exact ih.next?
  | finished _ ih => exact ih.finish
  | failed _ ih => exact isBounded_reset ih.limit_eq

end Bounds

/-! ### What the reader gives out -/

/-- The line can be one that a reader gives out: it is no longer than the limit, and has no line
feed. -/
structure IsGiven (limit : Nat) (line : Bytes) : Prop where
  length_le : line.length ≤ limit
  not_mem : 10 ∉ line

section Given

variable {limit : Nat} {r : LineReader} {line : Bytes}

theorem withoutReturn_sublist (line : Bytes) : (withoutReturn line).Sublist line := by
  rw [withoutReturn]
  split
  · exact List.dropLast_sublist line
  · exact List.Sublist.refl line

theorem IsGiven.sublist {line' : Bytes} (h : IsGiven limit line) (hsub : line'.Sublist line) :
    IsGiven limit line' :=
  ⟨Nat.le_trans hsub.length_le h.length_le, fun hmem => h.not_mem (hsub.subset hmem)⟩

/-- What is kept may be given out, with or without its carriage return. -/
theorem isGiven_content {kept : Bytes} (hlength : kept.length ≤ limit) (h : 10 ∉ kept) :
    IsGiven limit (content kept) := by
  rw [← List.reverse_reverse kept, content_reverse]
  have hkept : IsGiven limit kept.reverse := ⟨by simpa using hlength, by simpa using h⟩
  exact hkept.sublist (withoutReturn_sublist _)

/-- No more is taken than what stands before the next line feed. -/
theorem not_mem_kept_extend (h : 10 ∉ r.kept) (pending : Bytes) :
    10 ∉ (LineReader.extend { r with pending } (r.pending.takeWhile (· != 10))).kept := by
  simp only [LineReader.extend, List.mem_append, List.mem_reverse, not_or]
  refine ⟨fun hmem => ?_, h⟩
  have := List.mem_takeWhile_imp (List.mem_of_mem_take hmem)
  simp at this

/-- **A reader at work keeps no line feed.** -/
theorem IsReached.not_mem_kept (h : IsReached limit r) : 10 ∉ r.kept := by
  induction h with
  | new => exact List.not_mem_nil
  | received chunk _ ih => exact ih
  | looked _ ih =>
    rw [LineReader.next?]
    split
    · exact List.not_mem_nil
    · split
      · exact ih
      · exact not_mem_kept_extend ih _
  | finished _ ih =>
    rw [LineReader.finish]
    split
    · exact List.not_mem_nil
    · exact ih
  | failed _ _ => exact List.not_mem_nil

theorem IsReached.isGiven_next? (h : IsReached limit r) (hline : r.next?.1 = some line) :
    IsGiven limit line := by
  rw [LineReader.next?] at hline
  split at hline
  · obtain rfl := Option.some.inj hline
    exact isGiven_content (h.isBounded.extend _ _).length_le (not_mem_kept_extend h.not_mem_kept _)
  · split at hline <;> simp at hline

theorem IsReached.isGiven_finish (h : IsReached limit r) (hline : r.finish.1 = some line) :
    IsGiven limit line := by
  rw [LineReader.finish] at hline
  split at hline
  · obtain rfl := Option.some.inj hline
    exact isGiven_content h.isBounded.length_le h.not_mem_kept
  · simp at hline

end Given

/-! ### The lines of a stream -/

/-- **The lines of a stream are those of its text.** Whatever its octets, however they are spread
over reads, whichever reads fail and whatever the limit:

* what is given out are the pieces that are heard, each cut to the limit and without a carriage
  return at its end, in their order, and then nothing;
* without failures these are the pieces of the whole text;
* a stream that has ended gives out nothing more;
* with each of them comes the number of those up to there that were longer than the limit;
* at no time is more kept than the limit allows, not even while a line grows. -/
theorem readAll_eq (limit : Nat) (reads : List (Option Bytes)) :
    let given := readAll (new limit) reads
    given.map Prod.fst = (heard [] reads).map (Option.map (shown limit)) ∧
    (∀ chunks : List Bytes, heard [] (chunks.map some) = (pieces chunks.flatten).map some) ∧
    (∀ r : LineReader, r.finish.2.finish = (none, r.finish.2)) ∧
    (∀ i < given.length, (given.map Prod.snd)[i]? =
      some (((heard [] reads).take (i + 1)).countP (isCut limit))) ∧
    ∀ r, IsReached limit r →
      r.kept.length ≤ limit ∧ ∀ part, (r.extend part).kept.length ≤ limit := by
  intro given
  have hgiven : given = outcomes limit 0 (heard [] reads) := by
    change readAll (new limit) reads = _
    rw [new_eq, readAll_holding reads List.not_mem_nil, List.append_nil]
  have hlines : given.map Prod.fst = (heard [] reads).map (Option.map (shown limit)) := by
    rw [hgiven, map_fst_outcomes]
  have hlength : given.length = (heard [] reads).length := by
    rw [← List.length_map Prod.fst, hlines, List.length_map]
  refine ⟨hlines, heard_map_some [], finish_finish, fun i hi => ?_, fun r hr => ?_⟩
  · rw [hgiven, map_snd_outcomes _ i (hlength ▸ hi), Nat.zero_add]
  · exact ⟨hr.isBounded.length_le, fun part => (hr.isBounded.extend part r.pending).length_le⟩

/-- A carriage return and its line feed in different reads, a line that is too long, and a read that
fails. -/
example : readAll (new 3) [some [97, 13], some [10, 98, 98], some [98, 98, 10, 99], none,
    some [100, 10], some [101]] =
      [(some [97], 0), (some [98, 98, 98], 1), (none, 1), (some [100], 1), (some [101], 1)] := by
  decide +kernel

end LineReader

end LogWatch
