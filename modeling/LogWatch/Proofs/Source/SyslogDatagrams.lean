import LogWatch.Proofs.LineSplitting
import LogWatch.Proofs.Source.SyslogFraming

/-!
# What becomes of a datagram

The monitor knows nothing of datagrams. It reads one stream of octets and cuts it at line feeds. How
many lines a datagram becomes is decided where it is put into the stream, and there it gets a line
feed at its end unless it has one, and nothing else is done to it.

A datagram is therefore one line only if it has no line feed before its end. Each of these makes a
line more (`LogWatch.SyslogFraming.length_flatMap_linesOf`), which stands in the stream like any
other message and has whatever priority it says it has.
-/

namespace LogWatch

namespace SyslogFraming

open LineReader (endedLines heard shown withoutReturn)

/-! ### The lines of a datagram -/

/-- A datagram is received with so many octets at most. -/
def maxDatagram : Nat := 64 * 1024

/-- The octets without a line feed at their end. -/
def withoutLineFeed (message : Bytes) : Bytes :=
  if message.getLast? = some 10 then message.dropLast else message

/-- **The lines of a datagram**: what stands between its line feeds, of which one at its end only
ends the last line. -/
def linesOf (message : Bytes) : List Bytes := (withoutLineFeed message).splitOn 10

section Datagrams

variable {message line : Bytes} {messages chunks : List Bytes}

theorem withLineFeed_eq (message : Bytes) :
    withLineFeed message = withoutLineFeed message ++ [10] := by
  rw [withLineFeed, withoutLineFeed]
  by_cases hlast : message.getLast? = some 10
  · rw [if_pos (beq_iff_eq.2 hlast), if_pos hlast, List.dropLast_append_getLast? 10 hlast]
  · rw [if_neg (by simpa using hlast), if_neg hlast]

theorem endedLines_splitOn (text : Bytes) : endedLines (text.splitOn 10) = text ++ [10] := by
  induction text using LineReader.text_induction with
  | last line h => simp [endedLines, LineReader.splitOn_of_not_mem h]
  | first line rest h ih =>
    have hrest : endedLines (line :: rest.splitOn 10) =
        line ++ [10] ++ endedLines (rest.splitOn 10) := by
      simp [endedLines]
    rw [LineReader.splitOn_append_cons h, hrest, ih]
    simp

theorem length_splitOn (text : Bytes) : (text.splitOn 10).length = text.count 10 + 1 := by
  induction text using LineReader.text_induction with
  | last line h => rw [LineReader.splitOn_of_not_mem h, List.count_eq_zero_of_not_mem h]; rfl
  | first line rest h ih =>
    rw [LineReader.splitOn_append_cons h, List.length_cons, ih, List.count_append,
      List.count_cons_self, List.count_eq_zero_of_not_mem h, Nat.zero_add]

theorem mem_splitOn {text : Bytes} (h : line ∈ text.splitOn 10) :
    10 ∉ line ∧ line.length ≤ text.length := by
  induction text using LineReader.text_induction with
  | last text htext =>
    rw [LineReader.splitOn_of_not_mem htext, List.mem_singleton] at h
    subst h
    exact ⟨htext, Nat.le_refl _⟩
  | first front rest hfront ih =>
    rw [LineReader.splitOn_append_cons hfront, List.mem_cons] at h
    rw [List.length_append, List.length_cons]
    obtain rfl | h := h
    · exact ⟨hfront, by omega⟩
    · exact ⟨(ih h).1, by have := (ih h).2; omega⟩

/-- What a datagram puts into the stream are its lines. -/
theorem ofDatagram_eq (h : message ≠ []) : ofDatagram message = endedLines (linesOf message) := by
  have hempty : message.isEmpty = false := by simpa using h
  rw [ofDatagram, hempty, if_neg Bool.false_ne_true, withLineFeed_eq, linesOf, endedLines_splitOn]

theorem ofDatagrams_eq (h : ∀ message ∈ messages, message ≠ []) :
    ofDatagrams messages = endedLines (messages.flatMap linesOf) := by
  induction messages with
  | nil => rfl
  | cons message messages ih =>
    have hmessage := ofDatagram_eq (h message List.mem_cons_self)
    have hmessages := ih fun message hm => h message (List.mem_cons_of_mem _ hm)
    rw [ofDatagrams] at hmessages ⊢
    rw [List.flatMap_cons, hmessage, hmessages, List.flatMap_cons, endedLines, endedLines,
      endedLines, List.flatMap_append]

theorem linesOf_of_not_mem (h : 10 ∉ withoutLineFeed message) :
    linesOf message = [withoutLineFeed message] :=
  LineReader.splitOn_of_not_mem h

theorem length_withoutLineFeed_le (message : Bytes) :
    (withoutLineFeed message).length ≤ message.length := by
  rw [withoutLineFeed]
  split
  · exact (List.dropLast_sublist message).length_le
  · exact Nat.le_refl _

theorem mem_linesOf (h : line ∈ linesOf message) :
    10 ∉ line ∧ line.length ≤ message.length :=
  ⟨(mem_splitOn h).1, Nat.le_trans (mem_splitOn h).2 (length_withoutLineFeed_le message)⟩

/-- There is a line for each datagram, and one more for each line feed before the end of one. -/
theorem length_flatMap_linesOf (messages : List Bytes) : (messages.flatMap linesOf).length =
    messages.length + (messages.flatMap withoutLineFeed).count 10 := by
  induction messages with
  | nil => rfl
  | cons message messages ih =>
    have hmessage : (linesOf message).length = (withoutLineFeed message).count 10 + 1 :=
      length_splitOn _
    rw [List.flatMap_cons, List.length_append, ih, hmessage, List.length_cons, List.flatMap_cons,
      List.count_append]
    omega

theorem length_flatMap_linesOf_eq_iff : (messages.flatMap linesOf).length = messages.length ↔
    ∀ message ∈ messages, 10 ∉ withoutLineFeed message := by
  have hcount : (messages.flatMap withoutLineFeed).count 10 = 0 ↔
      ∀ message ∈ messages, 10 ∉ withoutLineFeed message := by
    rw [List.count_eq_zero, List.mem_flatMap]
    push Not
    rfl
  rw [← hcount, length_flatMap_linesOf]
  omega

theorem flatMap_linesOf_of_not_mem (h : ∀ message ∈ messages, 10 ∉ withoutLineFeed message) :
    messages.flatMap linesOf = messages.map withoutLineFeed := by
  induction messages with
  | nil => rfl
  | cons message messages ih =>
    rw [List.flatMap_cons, linesOf_of_not_mem (h message List.mem_cons_self),
      ih fun message hm => h message (List.mem_cons_of_mem _ hm), List.map_cons,
      List.singleton_append]

end Datagrams

/-- **A datagram becomes one line, and one more for each line feed before its end.** In whatever
chunks the stream is read, and whatever follows, the monitor reads the lines of the datagrams, in
the order in which these came and before anything else. They are as many as the datagrams, and then
one for each of them, just if no datagram has a line feed before its end. Of a datagram that is no
longer than one can be received, nothing is lost but a carriage return at the end of each line. -/
theorem readAll_datagrams {messages chunks : List Bytes}
    (hmessages : ∀ message ∈ messages, message ≠ [])
    (hchunks : chunks.flatten = ofDatagrams messages) (more : List (Option Bytes)) :
    (LineReader.readAll (.new LineReader.maxLine) (chunks.map some ++ more)).map Prod.fst =
        (messages.flatMap linesOf).map (fun line => some (shown LineReader.maxLine line)) ++
          (heard [] more).map (Option.map (shown LineReader.maxLine)) ∧
      (∀ message ∈ messages, (linesOf message).length = (withoutLineFeed message).count 10 + 1) ∧
      ((messages.flatMap linesOf).length = messages.length ↔
        ∀ message ∈ messages, 10 ∉ withoutLineFeed message) ∧
      ((∀ message ∈ messages, 10 ∉ withoutLineFeed message) →
        messages.flatMap linesOf = messages.map withoutLineFeed) ∧
      ∀ message ∈ messages, message.length ≤ maxDatagram → ∀ line ∈ linesOf message,
        shown LineReader.maxLine line = withoutReturn line := by
  rw [ofDatagrams_eq hmessages] at hchunks
  have hlines (line : Bytes) (hline : line ∈ messages.flatMap linesOf) : 10 ∉ line := by
    obtain ⟨message, -, hline⟩ := List.mem_flatMap.1 hline
    exact (mem_linesOf hline).1
  refine ⟨LineReader.readAll_of_flatten_eq _ hlines hchunks more,
    fun message _ => length_splitOn _, length_flatMap_linesOf_eq_iff, flatMap_linesOf_of_not_mem,
    fun message _ hlength line hline => ?_⟩
  have hmax : maxDatagram ≤ LineReader.maxLine := by decide
  exact LineReader.shown_eq_withoutReturn
    (Nat.le_trans (mem_linesOf hline).2 (Nat.le_trans hlength hmax))

/-- A datagram with a line feed at its end, and one with a line feed before its end. -/
theorem readAll_datagrams_two :
    (LineReader.readAll (.new LineReader.maxLine)
        [some [97, 10, 60], some [49, 62, 10, 98, 10]]).map Prod.fst =
          [some [97], some [60, 49, 62], some [98]] ∧
      ([[97, 10], [60, 49, 62, 10, 98]].flatMap linesOf).length ≠ 2 := by
  have h := @readAll_datagrams [[97, 10], [60, 49, 62, 10, 98]]
    [[97, 10, 60], [49, 62, 10, 98, 10]] (by decide) (by decide) []
  refine ⟨h.1.trans (by decide +kernel), fun hlength => ?_⟩
  exact absurd (h.2.2.1.mp hlength [60, 49, 62, 10, 98] (by simp)) (by decide)

/-- **A datagram can be two lines.** -/
theorem exists_datagram_of_two_lines :
    ∃ message : Bytes, message ≠ [] ∧ message.length ≤ maxDatagram ∧
      (LineReader.readAll (.new LineReader.maxLine) [some (ofDatagrams [message])]).map Prod.fst =
        [some [97], some [98]] :=
  ⟨[97, 10, 98], by decide +kernel⟩

end SyslogFraming

end LogWatch
