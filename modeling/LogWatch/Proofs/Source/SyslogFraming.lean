import Mathlib.Data.List.Infix
import LogWatch.Source.SyslogFraming

/-!
# A connection is cut into pieces without loss

The front piece of a connection ends at the first line feed or has all the octets there is room for;
only where the connection comes to its end may it be shorter. The octets are cut in **one of three
ways** (`LogWatch.SyslogFraming.frontFrame_cases`). In the first two the piece is whole: what comes
after it does not change it (`LogWatch.SyslogFraming.frames_append`). Therefore a connection can be
cut while it is still being received, and the pieces are those of the connection as a whole.
-/

namespace LogWatch

namespace SyslogFraming

/-! ### The front piece -/

section Front

variable {piece : Bytes} {n : Nat}

@[simp] theorem frontFrame_nil (n : Nat) : frontFrame n [] = [] := by
  cases n <;> rfl

theorem frontFrame_append (h : 10 ∉ piece) (n : Nat) (bs : Bytes) :
    frontFrame (piece.length + n) (piece ++ bs) = piece ++ frontFrame n bs := by
  induction piece with
  | nil => simp
  | cons b piece ih =>
    rw [List.mem_cons, not_or] at h
    rw [List.length_cons, Nat.add_right_comm, List.cons_append, frontFrame, ih h.2,
      if_neg (by simpa using Ne.symm h.1), List.cons_append]

/-- A piece without a line feed that leaves no room is the front piece, whatever follows. -/
theorem frontFrame_full (h : 10 ∉ piece) (bs : Bytes) :
    frontFrame piece.length (piece ++ bs) = piece := by
  simpa [frontFrame] using frontFrame_append h 0 bs

/-- A piece up to the first line feed is the front piece, whatever follows. -/
theorem frontFrame_line (h : 10 ∉ piece) (hn : piece.length < n) (bs : Bytes) :
    frontFrame n (piece ++ 10 :: bs) = piece ++ [10] := by
  obtain ⟨k, rfl⟩ := Nat.exists_eq_add_of_lt hn
  rw [Nat.add_assoc, frontFrame_append h]
  simp [frontFrame]

/-- Octets without a line feed that leave room are the front piece if nothing follows. -/
theorem frontFrame_short (h : 10 ∉ piece) (hn : piece.length ≤ n) : frontFrame n piece = piece := by
  obtain ⟨k, rfl⟩ := Nat.exists_eq_add_of_le hn
  simpa using frontFrame_append h k []

/-- **Three ways to cut**: behind the first line feed, behind the last octet there is room for, or,
with neither of them, not at all. -/
theorem frontFrame_cases (n : Nat) (bs : Bytes) :
    (∃ piece rest, 10 ∉ piece ∧ piece.length < n ∧ bs = piece ++ 10 :: rest) ∨
      (∃ piece rest, 10 ∉ piece ∧ piece.length = n ∧ bs = piece ++ rest) ∨
      (10 ∉ bs ∧ bs.length < n) := by
  by_cases hmem : 10 ∈ bs.take n
  · obtain ⟨piece, rest, htake, hpiece⟩ := List.eq_append_cons_of_mem hmem
    have hlength := congrArg List.length htake
    refine .inl ⟨piece, rest ++ bs.drop n, hpiece, ?_, ?_⟩
    · simp only [List.length_take, List.length_append, List.length_cons] at hlength
      omega
    · rw [← List.cons_append, ← List.append_assoc, ← htake, List.take_append_drop]
  · by_cases hlength : n ≤ bs.length
    · exact .inr (.inl ⟨bs.take n, bs.drop n, hmem, List.length_take_of_le hlength,
        (List.take_append_drop n bs).symm⟩)
    · rw [List.take_of_length_le (by omega)] at hmem
      exact .inr (.inr ⟨hmem, by omega⟩)

end Front

/-! ### All pieces -/

section Pieces

variable {room : Nat} {bs : Bytes}

/-- The front piece and what is left are the octets. -/
theorem frontFrame_append_drop (n : Nat) (bs : Bytes) :
    frontFrame n bs ++ bs.drop (frontFrame n bs).length = bs := by
  obtain ⟨piece, rest, hpiece, hlength, rfl⟩ | ⟨piece, rest, hpiece, rfl, rfl⟩ | ⟨hbs, hlength⟩ :=
    frontFrame_cases n bs
  · simp [frontFrame_line hpiece hlength]
  · simp [frontFrame_full hpiece]
  · simp [frontFrame_short hbs (Nat.le_of_lt hlength)]

@[simp] theorem frames_nil (room : Nat) : frames room [] = [] := by
  rw [frames]

theorem frames_of_ne_nil (h : bs ≠ []) :
    frames room bs = frontFrame (room + 1) bs ::
      frames room (bs.drop (frontFrame (room + 1) bs).length) := by
  cases bs with
  | nil => exact absurd rfl h
  | cons b bs => rw [frames]

/-- The pieces, one after the other, are the octets. -/
theorem flatten_frames (room : Nat) (bs : Bytes) : (frames room bs).flatten = bs := by
  induction bs using frames.induct room with
  | case1 => simp
  | case2 b bs frame ih =>
    rw [frames, List.flatten_cons, ih]
    exact frontFrame_append_drop _ _

/-- A piece that needs no more octets: it ends in a line feed, or it leaves no room. -/
def IsWhole (room : Nat) (piece : Bytes) : Prop :=
  piece.getLast? = some 10 ∨ piece.length = room + 1

/-- A front piece that is whole stays the front piece, whatever follows. -/
theorem frontFrame_append_of_isWhole (h : IsWhole room (frontFrame (room + 1) bs)) (rest : Bytes) :
    frontFrame (room + 1) (bs ++ rest) = frontFrame (room + 1) bs := by
  obtain ⟨piece, tail, hpiece, hlength, rfl⟩ | ⟨piece, tail, hpiece, hlength, rfl⟩ |
    ⟨hbs, hlength⟩ := frontFrame_cases (room + 1) bs
  · rw [List.append_assoc, List.cons_append, frontFrame_line hpiece hlength,
      frontFrame_line hpiece hlength]
  · rw [List.append_assoc, ← hlength, frontFrame_full hpiece, frontFrame_full hpiece]
  · rw [frontFrame_short hbs (Nat.le_of_lt hlength)] at h
    obtain h | h := h
    · exact absurd (List.mem_of_getLast? h) hbs
    · omega

/-- A front piece that is not whole is all there is, without a line feed and with room left. -/
theorem frontFrame_of_not_isWhole (h : ¬ IsWhole room (frontFrame (room + 1) bs)) :
    frontFrame (room + 1) bs = bs ∧ 10 ∉ bs ∧ bs.length < room + 1 := by
  obtain ⟨piece, tail, hpiece, hlength, rfl⟩ | ⟨piece, tail, hpiece, hlength, rfl⟩ |
    ⟨hbs, hlength⟩ := frontFrame_cases (room + 1) bs
  · exact absurd (.inl (by simp [frontFrame_line hpiece hlength])) h
  · exact absurd (.inr (by rw [← hlength, frontFrame_full hpiece])) h
  · exact ⟨frontFrame_short hbs (Nat.le_of_lt hlength), hbs, hlength⟩

theorem IsWhole.ne_nil {piece : Bytes} (h : IsWhole room piece) : piece ≠ [] := by
  rintro rfl
  obtain h | h := h <;> simp at h

/-- **A whole piece can be cut off** before the rest of the connection is there. -/
theorem frames_append (h : IsWhole room (frontFrame (room + 1) bs)) (rest : Bytes) :
    frames room (bs ++ rest) = frontFrame (room + 1) bs ::
      frames room (bs.drop (frontFrame (room + 1) bs).length ++ rest) := by
  have hbs : bs ≠ [] := by
    rintro rfl
    exact h.ne_nil (frontFrame_nil _)
  have hlength := congrArg List.length (frontFrame_append_drop (room + 1) bs)
  rw [frames_of_ne_nil (by simp [hbs]), frontFrame_append_of_isWhole h,
    List.drop_append_of_le_length]
  rw [List.length_append] at hlength
  omega

/-- Octets without a line feed that leave room are one piece. -/
theorem frames_short (h : 10 ∉ bs) (hroom : bs.length < room + 1) (hbs : bs ≠ []) :
    frames room bs = [bs] := by
  rw [frames_of_ne_nil hbs, frontFrame_short h (Nat.le_of_lt hroom), List.drop_length, frames_nil]

/-- A piece: only its last octet can be a line feed, and it has room. -/
structure IsPiece (room : Nat) (piece : Bytes) : Prop where
  /-- Before its last octet there is no line feed. -/
  not_mem : 10 ∉ piece.dropLast
  /-- It has at most one octet more than the room. -/
  length_le : piece.length ≤ room + 1

theorem isPiece_frontFrame (room : Nat) (bs : Bytes) :
    IsPiece room (frontFrame (room + 1) bs) := by
  obtain ⟨piece, tail, hpiece, hlength, rfl⟩ | ⟨piece, tail, hpiece, hlength, rfl⟩ |
    ⟨hbs, hlength⟩ := frontFrame_cases (room + 1) bs
  · rw [frontFrame_line hpiece hlength]
    exact ⟨by simpa using hpiece, by simpa using Nat.le_of_lt_succ hlength⟩
  · rw [← hlength, frontFrame_full hpiece]
    exact ⟨fun h => hpiece (List.mem_of_mem_dropLast h), Nat.le_of_eq hlength⟩
  · rw [frontFrame_short hbs (Nat.le_of_lt hlength)]
    exact ⟨fun h => hbs (List.mem_of_mem_dropLast h), Nat.le_of_lt hlength⟩

theorem isPiece_of_mem_frames {piece : Bytes} (h : piece ∈ frames room bs) :
    IsPiece room piece := by
  induction bs using frames.induct room with
  | case1 => simp at h
  | case2 b bs frame ih =>
    rw [frames, List.mem_cons] at h
    obtain rfl | h := h
    · exact isPiece_frontFrame room (b :: bs)
    · exact ih h

end Pieces

/-! ### Pieces as lines -/

/-- A line: its last octet is the only line feed in it. -/
structure IsLine (line : Bytes) : Prop where
  /-- It ends in a line feed. -/
  getLast? : line.getLast? = some 10
  /-- There is no other. -/
  count : line.count 10 = 1

theorem isLine_append {bs : Bytes} (h : 10 ∉ bs) : IsLine (bs ++ [10]) :=
  ⟨by simp, by simp [List.count_eq_zero_of_not_mem h]⟩

/-- **A piece becomes a line**. -/
theorem IsPiece.isLine {room : Nat} {piece : Bytes} (h : IsPiece room piece) :
    IsLine (withLineFeed piece) := by
  rw [withLineFeed]
  split
  · next hlast =>
    rw [← List.dropLast_append_getLast? 10 (beq_iff_eq.1 hlast)]
    exact isLine_append h.not_mem
  · next hlast =>
    refine isLine_append fun hmem => hlast ?_
    cases hpiece : piece.getLast? with
    | none => simp [List.getLast?_eq_none_iff.1 hpiece] at hmem
    | some b =>
      rw [← List.dropLast_append_getLast? b hpiece, List.mem_append] at hmem
      obtain hmem | hmem := hmem
      · exact absurd hmem h.not_mem
      · simp [List.mem_singleton.1 hmem]

theorem length_withLineFeed_pos {bs : Bytes} (h : bs ≠ []) : 0 < (withLineFeed bs).length := by
  rw [withLineFeed]
  split
  · exact List.length_pos_of_ne_nil h
  · simp

theorem length_withLineFeed_le (bs : Bytes) : (withLineFeed bs).length ≤ bs.length + 1 := by
  rw [withLineFeed]
  split <;> simp

end SyslogFraming

end LogWatch
