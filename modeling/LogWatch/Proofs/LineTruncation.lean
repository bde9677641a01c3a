import LogWatch.Proofs.LineSplitting
import Mathlib.Data.List.Infix

/-!
# Which lines count as cut

The **content** of a line is what is left without a carriage return at its end
(`LogWatch.LineReader.withoutReturn`). A line should count as cut when its content is longer than
the limit. But the length is taken while the line is being read, when nobody knows yet whether a
carriage return is the last octet, and so it is the length of the line with its carriage return.

The two lengths lead to different counts in one case only (`LogWatch.LineReader.isCut_iff`): the
content is just as long as the limit, and the carriage return behind it is the first octet that is
not kept (`LogWatch.LineReader.ReturnsAtLimit`). Such a line counts as cut though its content is
given out whole (`LogWatch.LineReader.exists_counted_whole`), or all but: if the content itself ends
in a carriage return, that one is dropped, since it is the last octet kept.
-/

namespace LogWatch

namespace LineReader

/-! ### The content of a line -/

/-- **The line returns at the limit**: a carriage return ends it, and is the first octet that is not
kept. -/
def ReturnsAtLimit (limit : Nat) (piece : Bytes) : Prop :=
  piece.getLast? = some 13 ∧ (withoutReturn piece).length = limit

instance (limit : Nat) (piece : Bytes) : Decidable (ReturnsAtLimit limit piece) :=
  inferInstanceAs (Decidable (_ ∧ _))

section Content

variable {limit : Nat} {piece : Bytes}

/-- A line is its content, or its content and a carriage return. -/
theorem withoutReturn_cases (piece : Bytes) :
    (piece.getLast? = some 13 ∧ piece = withoutReturn piece ++ [13]) ∨
      (piece.getLast? ≠ some 13 ∧ piece = withoutReturn piece) := by
  rw [withoutReturn]
  split
  · next hlast => exact .inl ⟨hlast, (List.dropLast_append_getLast? 13 hlast).symm⟩
  · next hlast => exact .inr ⟨hlast, rfl⟩

/-- **What counts as cut**: a line whose content is longer than the limit, and one that returns at
the limit. -/
theorem isCut_iff : isCut limit (some piece) = true ↔
    limit < (withoutReturn piece).length ∨ ReturnsAtLimit limit piece := by
  have hcut : isCut limit (some piece) = true ↔ limit < piece.length := decide_eq_true_iff
  rw [hcut, ReturnsAtLimit]
  obtain ⟨hlast, heq⟩ | ⟨hlast, heq⟩ := withoutReturn_cases piece
  · have hlength := congrArg List.length heq
    rw [List.length_append, List.length_singleton] at hlength
    simp only [hlast, true_and]
    omega
  · simp only [← heq, hlast, false_and, or_false]

/-- A line that does not count as cut is given out as its content. -/
theorem shown_of_length_le (hlength : (withoutReturn piece).length ≤ limit)
    (hreturns : ¬ReturnsAtLimit limit piece) : shown limit piece = withoutReturn piece := by
  have hcut : ¬limit < piece.length := fun hlt =>
    (isCut_iff.mp (decide_eq_true hlt)).elim (Nat.not_lt.mpr hlength) hreturns
  rw [shown, List.take_of_length_le (Nat.le_of_not_lt hcut)]

/-- Of a line that counts as cut, what is given out is taken from the front of its content. -/
theorem shown_eq_withoutReturn_take (hlength : limit ≤ (withoutReturn piece).length) :
    shown limit piece = withoutReturn ((withoutReturn piece).take limit) := by
  have htake : piece.take limit = (withoutReturn piece).take limit := by
    obtain ⟨-, heq⟩ | ⟨-, heq⟩ := withoutReturn_cases piece
    · exact (congrArg (List.take limit) heq).trans (List.take_append_of_le_length hlength)
    · rw [← heq]
  rw [shown, htake]

end Content

/-! ### The count that comes with a line -/

/-- The number of lines that had been cut before an outcome. -/
def cutBefore (given : List Outcome) : Nat → Nat
  | 0 => 0
  | i + 1 => (given[i]?.map Prod.snd).getD 0

/-- **What is told of a line**: what is given out of it, and the number of lines that have been cut
before it and with it. -/
structure IsTold (limit : Nat) (piece line : Bytes) (before after : Nat) : Prop where
  /-- One more line is cut if the content is longer than the limit, and if the line returns at the
  limit. -/
  count : after = before +
    if limit < (withoutReturn piece).length ∨ ReturnsAtLimit limit piece then 1 else 0
  /-- Content up to the limit is given out whole, unless the line returns at the limit. -/
  whole : (withoutReturn piece).length ≤ limit → ¬ReturnsAtLimit limit piece →
    line = withoutReturn piece
  /-- Of a line that returns at the limit the content is given out, but for a carriage return at the
  end of that. -/
  returns : ReturnsAtLimit limit piece → line = withoutReturn (withoutReturn piece)
  /-- Content beyond the limit is lost. -/
  cut : limit < (withoutReturn piece).length →
    line = withoutReturn ((withoutReturn piece).take limit)

section Counts

variable {limit cut : Nat} {ps : List (Option Bytes)} {i : Nat}

theorem getElem?_outcomes (limit cut : Nat) (ps : List (Option Bytes)) (i : Nat) :
    (outcomes limit cut ps)[i]? = ps[i]?.map fun piece =>
      (piece.map (shown limit), cut + (ps.take (i + 1)).countP (isCut limit)) := by
  have hlines := congrArg (·[i]?) (@map_fst_outcomes limit cut ps)
  simp only [List.getElem?_map] at hlines
  cases hp : ps[i]? with
  | none =>
    rw [hp] at hlines
    exact Option.map_eq_none_iff.mp hlines
  | some piece =>
    have hcount := @map_snd_outcomes limit cut ps i (List.getElem?_eq_some_iff.mp hp).1
    rw [List.getElem?_map] at hcount
    rw [hp] at hlines
    obtain ⟨o, ho, hline⟩ := Option.map_eq_some_iff.mp hlines
    rw [ho] at hcount ⊢
    exact congrArg some (Prod.ext hline (Option.some.inj hcount))

theorem cutBefore_outcomes (hi : i ≤ ps.length) :
    cutBefore (outcomes limit 0 ps) i = (ps.take i).countP (isCut limit) := by
  cases i with
  | zero => rfl
  | succ i =>
    rw [cutBefore, getElem?_outcomes, List.getElem?_eq_getElem hi]
    simp

/-- An outcome brings the count up by one if what was heard is cut. -/
theorem getElem?_outcomes_of_eq_some {piece : Option Bytes} (hp : ps[i]? = some piece) :
    (outcomes limit 0 ps)[i]? = some (piece.map (shown limit),
      cutBefore (outcomes limit 0 ps) i + if isCut limit piece then 1 else 0) := by
  have hi := (List.getElem?_eq_some_iff.mp hp).1
  rw [getElem?_outcomes, hp, cutBefore_outcomes (Nat.le_of_lt hi), List.take_add_one, hp,
    List.countP_append, Nat.zero_add]
  simp [List.countP_cons]

theorem isTold_shown (limit : Nat) (piece : Bytes) (before : Nat) :
    IsTold limit piece (shown limit piece) before
      (before + if isCut limit (some piece) then 1 else 0) where
  count := by simp only [isCut_iff]
  whole := shown_of_length_le
  returns h := by
    rw [shown_eq_withoutReturn_take (Nat.le_of_eq h.2.symm), ← h.2, List.take_length]
  cut h := shown_eq_withoutReturn_take (Nat.le_of_lt h)

end Counts

/-- **A line counts as cut if its content is longer than the limit or it returns at the limit**, and
in no other case. Whatever the stream, however it is spread over reads and whatever the limit, there
is one outcome for each piece and each failure that is heard. It tells of a piece what is given out
of it and whether it counts as cut, and at a failure the count stays as it was. Where no read fails,
the pieces are those of the text. -/
theorem readAll_tells (limit : Nat) (reads : List (Option Bytes)) :
    let given := readAll (new limit) reads
    given.length = (heard [] reads).length ∧
      (∀ (i : Nat) (piece : Bytes), (heard [] reads)[i]? = some (some piece) →
        ∃ line count, given[i]? = some (some line, count) ∧
          IsTold limit piece line (cutBefore given i) count) ∧
      (∀ i : Nat, (heard [] reads)[i]? = some none →
        given[i]? = some (none, cutBefore given i)) ∧
      ∀ chunks : List Bytes, reads = chunks.map some →
        heard [] reads = (pieces chunks.flatten).map some := by
  intro given
  have hgiven : given = outcomes limit 0 (heard [] reads) := by
    change readAll (new limit) reads = _
    rw [new_eq, readAll_holding reads List.not_mem_nil, List.append_nil]
  rw [hgiven]
  refine ⟨?_, fun i piece hp => ?_, fun i hp => getElem?_outcomes_of_eq_some hp, ?_⟩
  · rw [← List.length_map Prod.fst, map_fst_outcomes, List.length_map]
  · exact ⟨_, _, getElem?_outcomes_of_eq_some hp, isTold_shown limit piece _⟩
  · rintro chunks rfl
    exact heard_map_some [] chunks

/-- Of two lines the second returns at the limit, and its carriage return comes in another read than
its content and its line feed. -/
theorem readAll_tells_two :
    ∃ line count, (readAll (new 2) [some [97, 13, 98, 10, 99, 100], some [13], some [10]])[1]? =
        some (some line, count) ∧ IsTold 2 [99, 100, 13] line 1 count ∧
          (line, count) = ([99, 100], 2) := by
  have hheard : (heard [] [some [97, 13, 98, 10, 99, 100], some [13], some [10]])[1]? =
      some (some [99, 100, 13]) := by decide +kernel
  obtain ⟨line, count, hgiven, htold⟩ := (readAll_tells 2 _).2.1 1 [99, 100, 13] hheard
  have hbefore : cutBefore
      (readAll (new 2) [some [97, 13, 98, 10, 99, 100], some [13], some [10]]) 1 = 1 := by
    decide +kernel
  rw [hbefore] at htold
  refine ⟨line, count, hgiven, htold, ?_⟩
  rw [htold.returns (by decide), htold.count]
  decide

/-- **A line is counted though nothing of it is lost**: its content has as many octets as are kept,
is given out whole, and counts as cut. -/
theorem exists_counted_whole :
    ∃ limit : Nat, ∃ piece : Bytes, pieces (piece ++ [10]) = [piece] ∧ 1 ≤ limit ∧
      (withoutReturn piece).length ≤ limit ∧
      readAll (new limit) [some (piece ++ [10])] = [(some (withoutReturn piece), 1)] :=
  ⟨2, [97, 98, 13], by decide +kernel⟩

end LineReader

end LogWatch
