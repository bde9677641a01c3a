import LogWatch.Proofs.LineSplitting
import LogWatch.Proofs.Source.SyslogConnections

/-!
# What becomes of the lines of a connection

A connection is cut into pieces of 64 KiB at most. Lines up to that length are left alone, and
longer ones are cut at every multiple of it (`LogWatch.SyslogFraming.cut`).

The line feed takes the room of one octet, though. A line that **fills** its last piece
(`LogWatch.SyslogFraming.Fills`) leaves none for it, and the line feed becomes a piece by itself: an
empty line comes out that nobody has sent. This is the only difference between what comes out and
the lines as they were sent (`LogWatch.SyslogFraming.linesOfConnection_eq_iff`).

Nothing of this depends on how the octets arrive or on the other connections
(`LogWatch.SyslogConnections.run_cutsLines`), since a task makes of its connection what it would
have made of the whole of it at once.
-/

namespace LogWatch

namespace SyslogFraming

open LineReader (endedLines finished unfinished remainder pieces)

/-! ### Cutting a line -/

/-- **A line as the pieces of `room + 1` octets it is cut into**, of which the last may be shorter;
a line that is not longer is one piece. -/
def cut (room : Nat) (line : Bytes) : List Bytes :=
  if room + 1 < line.length then line.take (room + 1) :: cut room (line.drop (room + 1)) else [line]
termination_by line.length
decreasing_by
  rw [List.length_drop]
  omega

/-- The pieces are the line cut at every multiple of the length of a piece. -/
structure IsCutInto (room : Nat) (line : Bytes) (ps : List Bytes) : Prop where
  /-- The pieces, one after the other, are the line. -/
  flatten : ps.flatten = line
  /-- All of them but the last one have so many octets. -/
  full : ∀ piece ∈ ps.dropLast, piece.length = room + 1
  /-- The last one has no more, and none only if the line is empty. -/
  last : ∃ piece ∈ ps.getLast?, piece.length ≤ room + 1 ∧ (piece = [] → line = [])

/-- **The line fills its last piece**, and leaves no room for its line feed. -/
def Fills (room : Nat) (line : Bytes) : Prop := line ≠ [] ∧ room + 1 ∣ line.length

instance (room : Nat) (line : Bytes) : Decidable (Fills room line) :=
  inferInstanceAs (Decidable (_ ∧ _))

/-- What comes out for a line that a line feed ends: its pieces, and an empty line if it fills the
last of them. -/
def cutWithFeed (room : Nat) (line : Bytes) : List Bytes :=
  cut room line ++ if Fills room line then [[]] else []

/-- **The lines that come out of a connection.** -/
def linesOfConnection (room : Nat) (octets : Bytes) : List Bytes :=
  (finished octets).flatMap (cutWithFeed room) ++ (remainder octets).flatMap (cut room)

section Cuts

variable {room : Nat} {line : Bytes}

theorem cut_of_le (h : line.length ≤ room + 1) : cut room line = [line] := by
  rw [cut, if_neg (Nat.not_lt.2 h)]

theorem cut_of_lt (h : room + 1 < line.length) :
    cut room line = line.take (room + 1) :: cut room (line.drop (room + 1)) := by
  rw [cut, if_pos h]

theorem drop_ne_nil_of_lt (h : room + 1 < line.length) : line.drop (room + 1) ≠ [] := by
  rw [ne_eq, List.drop_eq_nil_iff]
  omega

theorem cut_ne_nil (room : Nat) (line : Bytes) : cut room line ≠ [] := by
  rw [cut]
  split <;> simp

theorem isCutInto_cut (room : Nat) (line : Bytes) : IsCutInto room line (cut room line) := by
  induction line using cut.induct room with
  | case1 line h ih =>
    have hne := cut_ne_nil room (line.drop (room + 1))
    rw [cut_of_lt h]
    refine ⟨?_, fun piece hpiece => ?_, ?_⟩
    · rw [List.flatten_cons, ih.flatten, List.take_append_drop]
    · rw [List.dropLast_cons_of_ne_nil hne, List.mem_cons] at hpiece
      obtain rfl | hpiece := hpiece
      · exact List.length_take_of_le (Nat.le_of_lt h)
      · exact ih.full piece hpiece
    · obtain ⟨piece, hlast, hlength, hempty⟩ := ih.last
      refine ⟨piece, ?_, hlength, fun hpiece => absurd (hempty hpiece) (drop_ne_nil_of_lt h)⟩
      rw [List.getLast?_cons_of_ne_nil hne]
      exact hlast
  | case2 line h =>
    rw [cut_of_le (Nat.not_lt.1 h)]
    exact ⟨by simp, by simp, line, rfl, Nat.not_lt.1 h, id⟩

/-- A piece of a line has only octets of the line, and no more than there is room for. -/
theorem IsCutInto.of_mem {ps : List Bytes} {piece : Bytes} (h : IsCutInto room line ps)
    (hpiece : piece ∈ ps) : piece ⊆ line ∧ piece.length ≤ room + 1 := by
  refine ⟨fun b hb => h.flatten ▸ List.mem_flatten_of_mem hpiece hb, ?_⟩
  obtain ⟨final, hlast, hlength, -⟩ := h.last
  rw [← List.dropLast_append_getLast? final hlast, List.mem_append, List.mem_singleton] at hpiece
  obtain hpiece | rfl := hpiece
  · exact Nat.le_of_eq (h.full piece hpiece)
  · exact hlength

/-- A longer line fills its last piece if what is left behind its first one does. -/
theorem fills_drop_iff (h : room + 1 < line.length) :
    Fills room (line.drop (room + 1)) ↔ Fills room line := by
  have hline : line ≠ [] := List.ne_nil_of_length_pos (by omega)
  rw [Fills, Fills, List.length_drop, Nat.dvd_sub_self_right]
  simp only [ne_eq, hline, drop_ne_nil_of_lt h, not_false_eq_true, true_and]
  omega

theorem withLineFeed_of_not_mem (h : 10 ∉ line) : withLineFeed line = line ++ [10] := by
  rw [withLineFeed, if_neg]
  intro hlast
  exact h (List.mem_of_getLast? (beq_iff_eq.1 hlast))

/-- The front piece of a line that leaves no room for a line feed is cut from the line alone. -/
theorem frames_of_le (h : 10 ∉ line) (hlength : room + 1 ≤ line.length) (rest : Bytes) :
    frames room (line ++ rest) =
      line.take (room + 1) :: frames room (line.drop (room + 1) ++ rest) := by
  have htake : (line.take (room + 1)).length = room + 1 := List.length_take_of_le hlength
  have hmem : 10 ∉ line.take (room + 1) := fun hmem => h (List.mem_of_mem_take hmem)
  have hfront : frontFrame (room + 1) (line ++ rest) = line.take (room + 1) := by
    have hfull := frontFrame_full hmem (line.drop (room + 1) ++ rest)
    rwa [htake, ← List.append_assoc, List.take_append_drop] at hfull
  have hne : line ++ rest ≠ [] := List.append_ne_nil_of_left_ne_nil
    (List.ne_nil_of_length_pos (by omega)) _
  rw [frames_of_ne_nil hne, hfront, htake, List.drop_append_of_le_length hlength]

/-- A line that leaves room for its line feed is a unit with it. -/
theorem map_withLineFeed_frames_of_lt (h : 10 ∉ line) (hlength : line.length < room + 1)
    (rest : Bytes) : (frames room (line ++ 10 :: rest)).map withLineFeed =
      (line ++ [10]) :: (frames room rest).map withLineFeed := by
  have hne : line ++ 10 :: rest ≠ [] := by simp
  have hdrop : (line ++ 10 :: rest).drop (line ++ [10]).length = rest := by simp
  rw [frames_of_ne_nil hne, frontFrame_line h hlength, hdrop, List.map_cons, withLineFeed]
  simp

/-- **A line that a line feed ends** comes out cut, with an empty line behind it if it fills its
last piece. -/
theorem map_withLineFeed_frames (h : 10 ∉ line) (rest : Bytes) :
    (frames room (line ++ 10 :: rest)).map withLineFeed =
      (cutWithFeed room line).map (· ++ [10]) ++ (frames room rest).map withLineFeed := by
  induction line using cut.induct room with
  | case1 line hlt ih =>
    have htake : 10 ∉ line.take (room + 1) := fun hmem => h (List.mem_of_mem_take hmem)
    have hdrop : 10 ∉ line.drop (room + 1) := fun hmem => h (List.mem_of_mem_drop hmem)
    rw [frames_of_le h (Nat.le_of_lt hlt), List.map_cons, ih hdrop, withLineFeed_of_not_mem htake,
      cutWithFeed, cutWithFeed, cut_of_lt hlt]
    simp only [fills_drop_iff hlt, List.cons_append, List.map_cons]
  | case2 line hle =>
    rw [cutWithFeed, cut_of_le (Nat.not_lt.1 hle)]
    obtain hlt | heq := Nat.lt_or_eq_of_le (Nat.not_lt.1 hle)
    · have hfills : ¬Fills room line := by
        rintro ⟨hne, hdvd⟩
        exact Nat.not_le.2 hlt (Nat.le_of_dvd (List.length_pos_of_ne_nil hne) hdvd)
      rw [map_withLineFeed_frames_of_lt h hlt, if_neg hfills]
      rfl
    · -- the line feed is the next piece
      have hfills : Fills room line :=
        ⟨List.ne_nil_of_length_pos (by omega), heq ▸ Nat.dvd_refl _⟩
      have hempty := map_withLineFeed_frames_of_lt List.not_mem_nil (Nat.succ_pos room) rest
      rw [frames_of_le h (Nat.le_of_eq heq.symm), List.drop_of_length_le (Nat.le_of_eq heq),
        List.take_of_length_le (Nat.le_of_eq heq), List.map_cons, hempty,
        withLineFeed_of_not_mem h, if_pos hfills]
      rfl

/-- What comes behind the last line feed comes out cut. -/
theorem map_withLineFeed_frames_of_not_mem (h : 10 ∉ line) (hne : line ≠ []) :
    (frames room line).map withLineFeed = (cut room line).map (· ++ [10]) := by
  induction line using cut.induct room with
  | case1 line hlt ih =>
    have htake : 10 ∉ line.take (room + 1) := fun hmem => h (List.mem_of_mem_take hmem)
    have hdrop : 10 ∉ line.drop (room + 1) := fun hmem => h (List.mem_of_mem_drop hmem)
    have hframes := frames_of_le h (Nat.le_of_lt hlt) []
    rw [List.append_nil, List.append_nil] at hframes
    rw [hframes, List.map_cons, ih hdrop (drop_ne_nil_of_lt hlt), withLineFeed_of_not_mem htake,
      cut_of_lt hlt, List.map_cons]
  | case2 line hle =>
    rw [frames_of_ne_nil hne, frontFrame_short h (Nat.not_lt.1 hle), List.drop_length, frames_nil,
      List.map_cons, withLineFeed_of_not_mem h, cut_of_le (Nat.not_lt.1 hle)]
    rfl

/-- **The units of a connection are its lines**, cut, with a line feed behind each. -/
theorem map_withLineFeed_frames_eq (room : Nat) (octets : Bytes) :
    (frames room octets).map withLineFeed =
      (linesOfConnection room octets).map (· ++ [10]) := by
  induction octets using LineReader.text_induction with
  | last line h =>
    rw [linesOfConnection, LineReader.finished_of_not_mem h, remainder,
      LineReader.unfinished_of_not_mem h]
    by_cases hne : line = []
    · rw [if_pos hne, hne, frames_nil]
      rfl
    · rw [if_neg hne, map_withLineFeed_frames_of_not_mem h hne, List.flatMap_singleton]
      rfl
  | first line rest h ih =>
    rw [map_withLineFeed_frames h, ih, linesOfConnection, linesOfConnection, remainder,
      remainder, LineReader.finished_append_cons h, LineReader.unfinished_append_cons h,
      List.flatMap_cons, List.append_assoc, ← List.map_append]

theorem of_mem_cut {piece : Bytes} (h : 10 ∉ line) (hpiece : piece ∈ cut room line) :
    10 ∉ piece ∧ piece.length ≤ room + 1 := by
  obtain ⟨hsubset, hlength⟩ := (isCutInto_cut room line).of_mem hpiece
  exact ⟨fun hmem => h (hsubset hmem), hlength⟩

theorem of_mem_linesOfConnection {octets piece : Bytes}
    (h : piece ∈ linesOfConnection room octets) : 10 ∉ piece ∧ piece.length ≤ room + 1 := by
  rw [linesOfConnection, List.mem_append, List.mem_flatMap, List.mem_flatMap] at h
  obtain ⟨line, hline, hpiece⟩ | ⟨line, hline, hpiece⟩ := h
  · rw [cutWithFeed, List.mem_append] at hpiece
    obtain hpiece | hpiece := hpiece
    · exact of_mem_cut (LineReader.not_mem_of_mem_finished hline) hpiece
    · split at hpiece
      · simp [List.mem_singleton.1 hpiece]
      · cases hpiece
  · exact of_mem_cut (LineReader.not_mem_of_mem_remainder hline) hpiece

theorem length_cutWithFeed (room : Nat) (line : Bytes) : (cutWithFeed room line).length =
    (cut room line).length + if decide (Fills room line) = true then 1 else 0 := by
  rw [cutWithFeed, List.length_append]
  by_cases hfills : Fills room line
  · rw [if_pos hfills, if_pos (decide_eq_true hfills), List.length_singleton]
  · rw [if_neg hfills, if_neg (by simpa using hfills), List.length_nil]

theorem length_flatMap_cutWithFeed (room : Nat) (lines : List Bytes) :
    (lines.flatMap (cutWithFeed room)).length =
      (lines.flatMap (cut room)).length + lines.countP fun line => decide (Fills room line) := by
  induction lines with
  | nil => rfl
  | cons line lines ih =>
    rw [List.flatMap_cons, List.length_append, length_cutWithFeed, ih, List.flatMap_cons,
      List.length_append, List.countP_cons]
    omega

/-- There is one empty line more for each line that fills its last piece. -/
theorem length_linesOfConnection (room : Nat) (octets : Bytes) :
    (linesOfConnection room octets).length =
      ((pieces octets).flatMap (cut room)).length +
        (finished octets).countP fun line => decide (Fills room line) := by
  rw [linesOfConnection, LineReader.pieces_eq, List.flatMap_append, List.length_append,
    List.length_append, length_flatMap_cutWithFeed]
  omega

/-- **Only the lines that were sent come out**, each cut if it is too long, just if none that a line
feed ends fills its last piece. -/
theorem linesOfConnection_eq_iff {octets : Bytes} :
    linesOfConnection room octets = (pieces octets).flatMap (cut room) ↔
      ∀ line ∈ finished octets, ¬Fills room line := by
  constructor
  · intro heq
    have hlength := length_linesOfConnection room octets
    rw [heq, Nat.left_eq_add, List.countP_eq_zero] at hlength
    exact fun line hline hfills => hlength line hline (decide_eq_true hfills)
  · intro h
    have hfinished : (finished octets).flatMap (cutWithFeed room) =
        (finished octets).flatMap (cut room) := by
      refine List.flatMap_congr fun line hline => ?_
      rw [cutWithFeed, if_neg (h line hline), List.append_nil]
    rw [linesOfConnection, hfinished, LineReader.pieces_eq, List.flatMap_append]

end Cuts

end SyslogFraming

/-! ### Connections -/

namespace SyslogConnections

open SyslogFraming (maxFrame linesOfConnection cut Fills IsCutInto)
open LineReader (endedLines finished remainder pieces heard shown withoutReturn)

/-- The lines that come out of a connection. -/
def linesOf (octets : Bytes) : List Bytes := linesOfConnection (maxFrame - 1) octets

/-- **What comes out of connections**, of which a state has received these units. -/
structure CutsLines (es : List Event) (s : State) (us : List (Nat × Bytes)) : Prop where
  /-- What has come out of a connection are the first of its lines, in their order, each with a line
  feed behind it. -/
  inOrder : ∀ i, sentBy i us <+: (linesOf (carried i es)).map (· ++ [10])
  /-- When all connections have come to their ends, all their lines have come out. -/
  complete : s.isDone → s.written = (us.map Prod.snd).flatten ∧
    ∀ i, sentBy i us = (linesOf (carried i es)).map (· ++ [10])
  /-- When nobody else has connected, the lines of the connection are the whole stream. -/
  alone : s.isDone → es.count .accepted = 1 → s.written = endedLines (linesOf (carried 0 es))

section Runs

variable {s s' : State} {es more : List Event} {us : List (Nat × Bytes)}

theorem units_eq (octets : Bytes) : units octets = (linesOf octets).map (· ++ [10]) :=
  SyslogFraming.map_withLineFeed_frames_eq _ _

/-- What the tasks do by themselves brings nothing. -/
theorem carried_append_of_isOwn (i : Nat) (es : List Event) (h : ∀ e ∈ more, e.isOwn) :
    carried i (es ++ more) = carried i es := by
  have hmore : more.flatMap (Event.octetsOf i) = [] := by
    refine List.flatMap_eq_nil_iff.2 fun e he => ?_
    have hown := h e he
    cases e with
    | accepted | received => cases hown
    | _ => rfl
  rw [carried, List.flatMap_append, hmore, List.append_nil, ← carried]

/-- **Every run can be brought to its end** by what the tasks and the monitor do by themselves. -/
theorem exists_run_isDone (h : s.Accounts es us) (hp : s.Delivers us) :
    ∃ more s', (∀ e ∈ more, e.isOwn) ∧ run s more = some s' ∧ s'.isDone := by
  induction hn : s.remaining using Nat.strongRecOn generalizing s es us with
  | ind n ih =>
    by_cases hdone : s.isDone
    · exact ⟨[], s, by simp, rfl, hdone⟩
    · obtain ⟨e, hown, hsome⟩ := exists_step h hdone
      obtain ⟨s₁, hs⟩ := Option.isSome_iff_exists.1 hsome
      obtain ⟨us₁, h₁, hp₁⟩ := exists_accounts_of_step h hp hs
      have hlt := hn ▸ remaining_lt_of_step hown hs
      obtain ⟨more, s', hmore, hrun, hdone'⟩ := ih s₁.remaining hlt h₁ hp₁ rfl
      refine ⟨e :: more, s', by simpa [hown] using hmore, ?_, hdone'⟩
      rw [run, hs]
      exact hrun

theorem State.Accounts.cutsLines (h : s.Accounts es us) (hp : s.Delivers us) :
    CutsLines es s us := by
  obtain ⟨begun, hseparates⟩ := h.separates hp
  have hcomplete (hdone : s.isDone) : s.written = (us.map Prod.snd).flatten := by
    rw [hseparates.written, (hseparates.complete hdone).1, List.append_nil]
  refine ⟨fun i => ?_, fun hdone => ⟨hcomplete hdone, fun i => ?_⟩, fun hdone hone => ?_⟩
  · rw [← units_eq]
    exact hseparates.inOrder i
  · rw [← units_eq]
    exact h.sentBy_of_isDone hdone i
  · -- all units are of the one connection
    have hfirst : us.filter (fun u => u.1 == 0) = us := by
      refine List.filter_eq_self.2 fun u hu => ?_
      have hlt := (hseparates.lines u hu).1
      have hadmits := h.admits
      rw [beq_iff_eq]
      omega
    have hsent := h.sentBy_of_isDone hdone 0
    rw [sentBy, hfirst, units_eq] at hsent
    rw [hcomplete hdone, hsent, endedLines, List.flatMap_def]

/-- The monitor reads what comes out of a connection as it is, but for a carriage return at the end
of a line. -/
theorem readAll_linesOf {octets : Bytes} {chunks : List Bytes}
    (hchunks : chunks.flatten = endedLines (linesOf octets)) (more : List (Option Bytes)) :
    (LineReader.readAll (.new LineReader.maxLine) (chunks.map some ++ more)).map Prod.fst =
      (linesOf octets).map (fun line => some (withoutReturn line)) ++
        (heard [] more).map (Option.map (shown LineReader.maxLine)) := by
  have hline (line : Bytes) (h : line ∈ linesOf octets) : 10 ∉ line ∧ line.length ≤ maxFrame :=
    SyslogFraming.of_mem_linesOfConnection h
  have hshown (line : Bytes) (h : line ∈ linesOf octets) :
      some (shown LineReader.maxLine line) = some (withoutReturn line) :=
    congrArg some (LineReader.shown_eq_withoutReturn (Nat.le_trans (hline line h).2 (by decide)))
  rw [LineReader.readAll_of_flatten_eq _ (fun line h => (hline line h).1) hchunks more,
    List.map_congr_left hshown]

end Runs

/-- **The lines of a connection come out as they were sent, the longer ones cut**, and an empty line
more for each that fills its last piece. In whatever chunks the octets come, in whatever order the
tasks take their steps and whoever else has connected:

* what has come out of a connection are the first of its lines, and in the end all of them;
* every run can be brought to its end;
* the monitor reads the stream of a single connection as those lines, in whatever chunks and before
  anything else;
* a line is cut at every multiple of 64 KiB, and not at all if it is not longer than that;
* what comes out are the lines that were sent, each cut, just if none that a line feed ends fills
  its last piece; otherwise there is an empty line more for each of these. -/
theorem run_cutsLines {es : List Event} {s : State} (h : run .starting es = some s) :
    (∃ us, CutsLines es s us) ∧
      (∃ more s', (∀ e ∈ more, e.isOwn) ∧ run s more = some s' ∧ s'.isDone) ∧
      (∀ (octets : Bytes) (chunks : List Bytes) (more : List (Option Bytes)),
        chunks.flatten = endedLines (linesOf octets) →
        (LineReader.readAll (.new LineReader.maxLine) (chunks.map some ++ more)).map Prod.fst =
          (linesOf octets).map (fun line => some (withoutReturn line)) ++
            (heard [] more).map (Option.map (shown LineReader.maxLine))) ∧
      (∀ line : Bytes, IsCutInto (maxFrame - 1) line (cut (maxFrame - 1) line) ∧
        (line.length ≤ maxFrame → cut (maxFrame - 1) line = [line])) ∧
      ∀ octets : Bytes,
        (linesOf octets = (pieces octets).flatMap (cut (maxFrame - 1)) ↔
          ∀ line ∈ finished octets, ¬Fills (maxFrame - 1) line) ∧
        (linesOf octets).length = ((pieces octets).flatMap (cut (maxFrame - 1))).length +
          (finished octets).countP fun line => decide (Fills (maxFrame - 1) line) := by
  obtain ⟨us, haccounts, hdelivers⟩ :=
    exists_accounts_of_run [] accounts_starting delivers_starting h
  rw [List.nil_append] at haccounts
  exact ⟨⟨us, haccounts.cutsLines hdelivers⟩, exists_run_isDone haccounts hdelivers,
    fun octets chunks more hchunks => readAll_linesOf hchunks more,
    fun line => ⟨SyslogFraming.isCutInto_cut _ line, SyslogFraming.cut_of_le⟩,
    fun octets => ⟨SyslogFraming.linesOfConnection_eq_iff,
      SyslogFraming.length_linesOfConnection _ octets⟩⟩

/-- A line, an empty line and one that no line feed ends. -/
theorem run_cutsLines_three :
    let es : List Event := [.accepted, .received 0 [97, 10, 10, 98], .locked 0, .wrote 0 2,
      .locked 0, .wrote 0 1, .ended 0, .locked 0, .wrote 0 2, .ended 0]
    let s : State := ⟨[⟨.done, [], true⟩], 0, [97, 10, 10, 98, 10], 0⟩
    run .starting es = some s ∧ s.isDone ∧ (∃ us, CutsLines es s us) ∧
      [97, 10, 10, 98, 10] = endedLines (linesOf [97, 10, 10, 98]) := by
  intro es s
  have hrun : run .starting es = some s := by decide +kernel
  obtain ⟨us, hcuts⟩ := (run_cutsLines hrun).1
  exact ⟨hrun, by decide, ⟨us, hcuts⟩, hcuts.alone (by decide) (by decide)⟩

/-! ### An empty line too many -/

theorem run_append_of_eq_some {s s' : State} {es more : List Event} (h : run s es = some s') :
    run s (es ++ more) = run s' more := by
  induction es generalizing s with
  | nil =>
    cases h
    rfl
  | cons e es ih =>
    rw [run] at h
    rw [List.cons_append, run]
    split at h
    · next s₁ hs => exact ih h
    · cases h

/-- A connection can bring any octets, all at once, and come to its end. -/
theorem exists_run_of_octets {octets : Bytes} (h : octets ≠ []) :
    ∃ es s, run .starting es = some s ∧ s.isDone ∧ es.count .accepted = 1 ∧
      carried 0 es = octets := by
  have hreceive : ∃ t, Task.new.receive octets = some t := by
    simp [Task.new, Task.receive, h]
  obtain ⟨t, ht⟩ := hreceive
  have hrun : run .starting [.accepted, .received 0 octets] = some ⟨[t], 0, [], 0⟩ := by
    simp [run, step, State.starting, State.live, maxConnections, State.setTask, ht]
  obtain ⟨us, haccounts, hdelivers⟩ :=
    exists_accounts_of_run [] accounts_starting delivers_starting hrun
  obtain ⟨more, s, hown, hmore, hdone⟩ := exists_run_isDone haccounts hdelivers
  refine ⟨[.accepted, .received 0 octets] ++ more, s, ?_, hdone, ?_, ?_⟩
  · rw [run_append_of_eq_some hrun, hmore]
  · have hnone : more.count .accepted = 0 := by
      refine List.count_eq_zero.2 fun hmem => ?_
      cases hown _ hmem
    rw [List.count_append, hnone]
    rfl
  · rw [carried_append_of_isOwn 0 _ hown]
    simp [carried, Event.octetsOf]

/-- A line of 64 KiB fills its only piece. -/
theorem linesOf_of_length_eq {line : Bytes} (h : 10 ∉ line) (hlength : line.length = maxFrame) :
    pieces (line ++ [10]) = [line] ∧ linesOf (line ++ [10]) = [line, []] := by
  have hne : line ≠ [] := List.ne_nil_of_length_pos (by rw [hlength]; decide)
  have hfills : Fills (maxFrame - 1) line := ⟨hne, by rw [hlength]; decide⟩
  have hone : cut (maxFrame - 1) line = [line] := SyslogFraming.cut_of_le (Nat.le_of_eq hlength)
  have hcut : SyslogFraming.cutWithFeed (maxFrame - 1) line = [line, []] := by
    rw [SyslogFraming.cutWithFeed, hone, if_pos hfills]
    rfl
  have hfinished : finished (line ++ [10]) = [line] := LineReader.finished_append_cons h []
  have hremainder : remainder (line ++ [10]) = [] := by
    rw [remainder, LineReader.unfinished_append_cons h []]
    rfl
  refine ⟨by rw [LineReader.pieces_eq, hfinished, hremainder, List.append_nil], ?_⟩
  rw [linesOf, linesOfConnection, hfinished, hremainder, List.flatMap_singleton, hcut]
  rfl

/-- **A line can come out that nobody has sent**: behind a line of 64 KiB there is an empty one. -/
theorem exists_line_invented :
    ∃ line es s, line.length = maxFrame ∧ run .starting es = some s ∧ s.isDone ∧
      es.count .accepted = 1 ∧ carried 0 es = line ++ [10] ∧ pieces (carried 0 es) = [line] ∧
      s.written = line ++ [10] ++ [10] := by
  obtain ⟨line, hlength, hline⟩ : ∃ line : Bytes, line.length = maxFrame ∧ 10 ∉ line :=
    ⟨List.replicate maxFrame 120, List.length_replicate,
      fun hmem => absurd (List.eq_of_mem_replicate hmem) (by decide)⟩
  obtain ⟨hpieces, hlines⟩ := linesOf_of_length_eq hline hlength
  obtain ⟨es, s, hrun, hdone, hcount, hcarried⟩ :=
    @exists_run_of_octets (line ++ [10]) (by simp)
  obtain ⟨us, haccounts, hdelivers⟩ :=
    exists_accounts_of_run [] accounts_starting delivers_starting hrun
  rw [List.nil_append] at haccounts
  refine ⟨line, es, s, hlength, hrun, hdone, hcount, hcarried, ?_, ?_⟩
  · rw [hcarried, hpieces]
  · rw [(haccounts.cutsLines hdelivers).alone hdone hcount, hcarried, hlines]
    simp [endedLines]

end SyslogConnections

end LogWatch
