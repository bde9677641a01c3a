import LogWatch.Batch
import Mathlib.Data.List.Chain
import Mathlib.Data.List.Forall2

/-!
# Batching is greedy segmentation

A batcher sees its lines one at a time and never looks back, yet what it makes of them has a
description that mentions no state. The lines that it is given are cut into **segments**, in their
order and each of them once; a segment is *admissible*, that is, each of its lines but the first
joins the lines before it; and where it is a push that closes a segment, the line of that push, with
which the next segment begins, does *not* join it. Segments like these are as long as they can be,
and there is only one way to cut a list of lines into them (`LogWatch.Batcher.IsGreedy.unique`).

Closing the open batch from outside – at the end of a stream, or because it is stale – may end a
segment early, and does nothing else: `LogWatch.Batcher.segmented_record` holds of every sequence
of pushes with such calls in between.

What a segment is made of is remembered beside the batch: the batch itself has the lines, but only
one of their timestamps. That the metadata of a line are looked up for the first line of a segment
and for no other is seen by having every look leave a note.
-/

namespace LogWatch

namespace Batcher

/-! ### Calls and what they leave behind -/

/-- A line as it is pushed. -/
structure Arrival where
  /-- The line. -/
  line : Bytes
  /-- Its timestamp. -/
  timestamp : Option LineTimestamp
  /-- What there is to be known if it is the first of its batch. -/
  metadata : LineMetadata
  /-- When it comes. -/
  now : Moment

/-- What is done to a batcher. -/
inductive Call
  /-- A line is pushed. -/
  | push (a : Arrival)
  /-- The open batch is closed. -/
  | take
  /-- The open batch is closed if it is stale. -/
  | takeIfStale (now : Moment)

/-- The line that a call pushes. -/
def Call.arrival? : Call → Option Arrival
  | .push a => some a
  | _ => none

/-- The lines that some calls push. -/
def arrivals (calls : List Call) : List Arrival := calls.filterMap Call.arrival?

/-- Looks up the metadata of a line, and notes that they have been asked for. -/
def Arrival.ask (a : Arrival) : StateM (List Arrival) LineMetadata :=
  modifyGet fun asked => (a.metadata, asked ++ [a])

/-- What a call does to a batcher. -/
def perform (b : Batcher) : Call → StateM (List Arrival) (Batcher × Option Batch)
  | .push a => b.pushM a.line a.timestamp a.ask a.now
  | .take => pure b.take
  | .takeIfStale now => pure (b.takeIfStale now)

/-- A batcher with what it has done so far. -/
structure Record where
  /-- The batcher. -/
  batcher : Batcher
  /-- The batches that were closed, each with the call that closed it. -/
  closed : List (Batch × Call)
  /-- The lines whose metadata have been asked for. -/
  asked : List Arrival

/-- The record after one more call. -/
def Record.after (r : Record) (c : Call) : Record :=
  let ((batcher, closed), asked) := (r.batcher.perform c).run r.asked
  ⟨batcher, r.closed ++ closed.toList.map fun batch => (batch, c), asked⟩

/-- The record of a batcher that begins at `start`. -/
def record (start : Moment) (calls : List Call) : Record :=
  calls.foldl Record.after ⟨new start, [], []⟩

/-! ### Segments -/

/-- The lines joined by line feeds. -/
def joined (xs : List Arrival) : Bytes := List.intercalate [10] (xs.map Arrival.line)

/-- The first timestamp among the lines. -/
def anchor? (xs : List Arrival) : Option LineTimestamp := xs.findSome? Arrival.timestamp

/-- **A line joins others** when together they are no more than a thousand lines and, with a line
feed between any two, no more than 256 KiB, and its timestamp, if it has one, is within five seconds
of the first timestamp among the others, if they have any. -/
def Joins (xs : List Arrival) (a : Arrival) : Prop :=
  xs.length + 1 ≤ 1000 ∧ (joined xs).length + 1 + a.line.length ≤ 262144 ∧
    ∀ t ∈ a.timestamp, ∀ anchor ∈ anchor? xs, (t.epoch - anchor.epoch).abs ≤ 5.0

/-- Each of the lines but the first joins the lines before it. -/
def Admissible (xs : List Arrival) : Prop :=
  xs ≠ [] ∧ ∀ before a rest, before ≠ [] → xs = before ++ a :: rest → Joins before a

/-- **A greedy segmentation**: every segment is admissible, and the first line of the next one does
not join it. -/
def IsGreedy (segs : List (List Arrival)) : Prop :=
  (∀ seg ∈ segs, Admissible seg) ∧
    segs.IsChain fun seg next => ∀ a ∈ next.head?, ¬Joins seg a

/-- **A batch is made of those lines.** -/
structure IsMadeOf (batch : Batch) (xs : List Arrival) : Prop where
  /-- There is at least one. -/
  nonempty : xs ≠ []
  /-- It has the lines in their order. -/
  lines : batch.lines = xs.map Arrival.line
  /-- Its body is the lines joined by line feeds. -/
  body : batch.body = joined xs
  /-- It knows their number. -/
  lineCount : batch.lineCount = xs.length
  /-- It knows the length of its body. -/
  byteCount : batch.byteCount = (joined xs).length
  /-- Its anchor is the first timestamp among them. -/
  anchor : batch.anchor = anchor? xs
  /-- Its metadata are those of the first line. -/
  metadata : xs.head?.map Arrival.metadata = some batch.metadata

/-- A closed batch with the lines that it is made of and the call that closed it. -/
structure Segment where
  /-- The lines. -/
  members : List Arrival
  /-- The batch. -/
  batch : Batch
  /-- What closed it. -/
  closedBy : Call

/-- **There was a reason to close a segment**: a line that does not join it, a request, or a request
that allows for the last line having come less than 4.9 seconds before. -/
def Segment.IsJustified (s : Segment) : Prop :=
  match s.closedBy with
  | .push a => ¬Joins s.members a
  | .take => True
  | .takeIfStale now => ∀ last ∈ s.members.getLast?, 4900000000 ≤ now - last.now

/-- A segment that was closed by a push is followed by one that begins with the line of the push. -/
def Segment.Precedes (s : Segment) (next : List Arrival) : Prop :=
  ∀ a, s.closedBy = .push a → next.head? = some a

/-- **What a batcher leaves behind** when it has cut the lines of some calls into segments and is
left with an open batch made of the lines `tail`. -/
structure Segmented (calls : List Call) (r : Record) (segs : List Segment)
    (tail : List Arrival) : Prop where
  /-- Every line is in one place, and they are in their order. -/
  members : segs.flatMap Segment.members ++ tail = arrivals calls
  /-- The batches are those of the segments. -/
  closed : r.closed = segs.map fun s => (s.batch, s.closedBy)
  /-- Metadata were asked for once in a batch, for its first line. -/
  asked : r.asked = segs.filterMap (fun s => s.members.head?) ++ tail.head?.toList
  /-- What was closed is made of its lines. -/
  made : ∀ s ∈ segs, IsMadeOf s.batch s.members
  /-- Every line of a segment but the first joins those before it. -/
  admissible : ∀ s ∈ segs, Admissible s.members
  /-- Nothing was closed without a reason. -/
  justified : ∀ s ∈ segs, s.IsJustified
  /-- Where a push closed a segment, its line begins the next one. -/
  chain : segs.IsChain fun s next => s.Precedes next.members
  /-- Where a push closed the last segment, its line begins the open batch. -/
  precedes : ∀ s ∈ segs.getLast?, s.Precedes tail
  /-- What closed the segments were those calls, in their order. -/
  closers : (segs.map Segment.closedBy).Sublist calls
  /-- An open batch is made of the lines that are left; without one, none are left. -/
  isOpen : match r.batcher.current with
    | none => tail = []
    | some batch => IsMadeOf batch tail ∧ Admissible tail
  /-- The batcher knows when the last of them came. -/
  lastActivity : ∀ a ∈ tail.getLast?, r.batcher.lastActivity = a.now

/-! ### One call -/

section Calls

variable {r : Record} {a : Arrival} {batch : Batch}

theorem after_push_of_none (h : r.batcher.current = none) :
    r.after (.push a) =
      ⟨⟨some (Batch.ofLine a.line a.timestamp a.metadata), a.now⟩, r.closed, r.asked ++ [a]⟩ := by
  simp only [Record.after, perform, pushM, h, Arrival.ask, bind_pure_comp, StateT.run_map,
    StateT.run_modifyGet, map_pure]
  simp [pure]

theorem after_push_of_admits (h : r.batcher.current = some batch)
    (ha : batch.admits a.line.length a.timestamp = true) :
    r.after (.push a) =
      ⟨⟨some (batch.append a.line a.timestamp), a.now⟩, r.closed, r.asked⟩ := by
  simp only [Record.after, perform, pushM, h, ha, if_true, StateT.run_pure]
  simp [pure]

theorem after_push_of_not_admits (h : r.batcher.current = some batch)
    (ha : ¬batch.admits a.line.length a.timestamp = true) :
    r.after (.push a) =
      ⟨⟨some (Batch.ofLine a.line a.timestamp a.metadata), a.now⟩,
        r.closed ++ [(batch, .push a)], r.asked ++ [a]⟩ := by
  simp only [Record.after, perform, pushM, h, if_neg ha, Arrival.ask, bind_pure_comp,
    StateT.run_map, StateT.run_modifyGet, map_pure]
  rfl

/-- Looking up metadata changes nothing about what a push does. -/
theorem after_push (r : Record) (a : Arrival) :
    (r.after (.push a)).batcher =
        (r.batcher.push a.line a.timestamp (fun _ => a.metadata) a.now).1 ∧
      (r.after (.push a)).closed =
        r.closed ++ (r.batcher.push a.line a.timestamp (fun _ => a.metadata) a.now).2.toList.map
          fun batch => (batch, .push a) := by
  cases hb : r.batcher.current with
  | none => simp [after_push_of_none hb, push_of_none hb]
  | some batch =>
    by_cases ha : batch.admits a.line.length a.timestamp = true
    · simp [after_push_of_admits hb ha, push_of_admits hb ha]
    · simp [after_push_of_not_admits hb ha, push_of_not_admits hb ha]

theorem after_take :
    r.after .take =
      ⟨⟨none, r.batcher.lastActivity⟩,
        r.closed ++ r.batcher.current.toList.map fun batch => (batch, .take), r.asked⟩ := rfl

theorem after_takeIfStale_of_isStale {now : Moment} (h : r.batcher.isStale now = true) :
    r.after (.takeIfStale now) =
      ⟨⟨none, r.batcher.lastActivity⟩,
        r.closed ++ r.batcher.current.toList.map fun batch => (batch, .takeIfStale now),
        r.asked⟩ := by
  simp only [Record.after, perform, takeIfStale, h, if_true]
  rfl

theorem after_takeIfStale_of_not_isStale {now : Moment} (h : ¬r.batcher.isStale now = true) :
    r.after (.takeIfStale now) = r := by
  simp only [Record.after, perform, takeIfStale, if_neg h, StateT.run_pure]
  simp [pure]

end Calls

/-! ### What a batch is made of -/

section MadeOf

variable {xs : List Arrival} {a : Arrival} {batch : Batch}

theorem joined_singleton (a : Arrival) : joined [a] = a.line := by
  simp [joined]

/-- Joining one more line puts a line feed and the line behind the others. -/
theorem joined_snoc (h : xs ≠ []) : joined (xs ++ [a]) = joined xs ++ 10 :: a.line := by
  induction xs with
  | nil => exact absurd rfl h
  | cons x xs ih =>
    cases xs with
    | nil => simp [joined]
    | cons y ys =>
      have hy := ih (by simp)
      simp only [joined, List.cons_append, List.map_cons, List.intercalate_cons_cons] at hy ⊢
      rw [hy]
      simp

theorem anchor?_snoc : anchor? (xs ++ [a]) = (anchor? xs).or a.timestamp := by
  rw [anchor?, List.findSome?_append]
  simp [anchor?]

theorem isMadeOf_ofLine (a : Arrival) :
    IsMadeOf (Batch.ofLine a.line a.timestamp a.metadata) [a] where
  nonempty := by simp
  lines := rfl
  body := rfl
  lineCount := rfl
  byteCount := by rw [joined_singleton]; rfl
  anchor := by simp [anchor?, Batch.ofLine]
  metadata := rfl

theorem IsMadeOf.append (h : IsMadeOf batch xs) (a : Arrival) :
    IsMadeOf (batch.append a.line a.timestamp) (xs ++ [a]) := by
  have hlines : (batch.append a.line a.timestamp).lines = (xs ++ [a]).map Arrival.line := by
    rw [List.map_append, ← h.lines]
    simp [Batch.append, Batch.lines]
  refine ⟨by simp, hlines, ?_, ?_, ?_, ?_, ?_⟩
  · rw [Batch.body, hlines, joined]
  · simp [Batch.append, h.lineCount]
  · rw [joined_snoc h.nonempty]
    simp only [Batch.append, h.byteCount, List.length_append, List.length_cons]
    omega
  · rw [anchor?_snoc, ← h.anchor]
    cases hb : batch.anchor <;> simp [Batch.append, hb]
  · rw [List.head?_append_of_ne_nil _ h.nonempty]
    exact h.metadata

/-- What is asked of a line before it goes into a batch. -/
theorem admits_iff {length : Nat} {timestamp : Option LineTimestamp} :
    batch.admits length timestamp = true ↔
      batch.lineCount + 1 ≤ 1000 ∧ batch.byteCount + 1 + length ≤ 262144 ∧
        ∀ t ∈ timestamp, ∀ anchor ∈ batch.anchor, (t.epoch - anchor.epoch).abs ≤ 5.0 := by
  unfold Batch.admits
  rw [Bool.and_eq_true, Bool.and_eq_true, decide_eq_true_eq, decide_eq_true_eq, and_assoc]
  refine and_congr_right fun _ => and_congr_right fun _ => ?_
  cases timestamp with
  | none => simp
  | some t =>
    cases batch.anchor with
    | none => simp
    | some anchor =>
      simp only [Option.mem_some_iff, forall_eq']
      exact decide_eq_true_iff

/-- **The open batch takes a line exactly when it joins the lines of the batch.** -/
theorem IsMadeOf.admits_iff (h : IsMadeOf batch xs) :
    batch.admits a.line.length a.timestamp = true ↔ Joins xs a := by
  rw [Batcher.admits_iff, h.lineCount, h.byteCount, h.anchor, Joins]

end MadeOf

/-! ### Admissible segments -/

section Admissible

variable {xs : List Arrival} {a : Arrival}

theorem admissible_singleton (a : Arrival) : Admissible [a] := by
  refine ⟨by simp, fun before b rest hne heq => ?_⟩
  have hlen := congrArg List.length heq
  have := List.length_pos_iff.mpr hne
  simp only [List.length_append, List.length_cons, List.length_nil] at hlen
  omega

theorem Admissible.snoc (h : Admissible xs) (ha : Joins xs a) : Admissible (xs ++ [a]) := by
  -- `b` is the new line, or it stands among the old ones with `rest'` behind it
  refine ⟨by simp, fun before b rest hne heq => ?_⟩
  rcases List.eq_nil_or_concat rest with rfl | ⟨rest', c, rfl⟩
  · obtain ⟨rfl, hab⟩ := List.append_inj' heq rfl
    obtain rfl : a = b := by simpa using hab
    exact ha
  · rw [List.concat_eq_append, ← List.cons_append, ← List.append_assoc] at heq
    exact h.2 before b rest' hne (List.append_inj' heq rfl).1

/-- The last line of an admissible segment stands alone or joins the others. -/
theorem Admissible.eq_singleton_or (h : Admissible xs) :
    (∃ a, xs = [a]) ∨ ∃ before a, xs = before ++ [a] ∧ before ≠ [] ∧ Joins before a := by
  rcases List.eq_nil_or_concat xs with rfl | ⟨before, a, rfl⟩
  · exact absurd rfl h.1
  · rw [List.concat_eq_append] at h ⊢
    rcases eq_or_ne before [] with rfl | hne
    · exact Or.inl ⟨a, rfl⟩
    · exact Or.inr ⟨before, a, rfl, hne, h.2 before a [] hne rfl⟩

theorem Admissible.length_le (h : Admissible xs) : xs.length ≤ 1000 := by
  rcases h.eq_singleton_or with ⟨a, rfl⟩ | ⟨before, a, rfl, -, ha⟩
  · simp
  · simpa using ha.1

/-- A segment is longer than 256 KiB only if a line is. -/
theorem Admissible.length_joined_le (h : Admissible xs) (hx : ∀ a ∈ xs, a.line.length ≤ 262144) :
    (joined xs).length ≤ 262144 := by
  rcases h.eq_singleton_or with ⟨a, rfl⟩ | ⟨before, a, rfl, hne, ha⟩
  · rw [joined_singleton]
    exact hx a (by simp)
  · have := ha.2.1
    rw [joined_snoc hne, List.length_append, List.length_cons]
    omega

/-- A later timestamp is close to the first one of its segment. -/
theorem Admissible.within_anchor (h : Admissible xs) {before rest : List Arrival}
    (heq : xs = before ++ a :: rest) {t anchor : LineTimestamp} (ht : t ∈ a.timestamp)
    (hanchor : anchor ∈ anchor? before) :
    anchor? xs = some anchor ∧ (t.epoch - anchor.epoch).abs ≤ 5.0 := by
  have hbefore : before ≠ [] := by
    rintro rfl
    simp [anchor?] at hanchor
  refine ⟨?_, (h.2 before a rest hbefore heq).2.2 t ht anchor hanchor⟩
  rw [heq, anchor?, List.findSome?_append, show before.findSome? Arrival.timestamp = some anchor
    from hanchor, Option.some_or]

/-- Of two greedy segmentations of a list the first segment of one is not a proper part of the first
segment of the other. -/
theorem not_greedy_of_shorter {seg : List Arrival} {segs others : List (List Arrival)}
    {rest : List Arrival} (hseg : seg ≠ []) (hgreedy : IsGreedy (seg :: segs))
    (hlonger : Admissible (seg ++ a :: rest))
    (heq : (seg :: segs).flatten = (seg ++ a :: rest) ++ others.flatten) : False := by
  -- the next segment begins with `a`, which the other segmentation shows to join `seg`
  rw [List.flatten_cons, List.append_assoc, List.append_cancel_left_eq] at heq
  cases segs with
  | nil => simp at heq
  | cons next segs =>
    have hnext : next ≠ [] := (hgreedy.1 next (by simp)).1
    have hhead : next.head? = some a := by
      cases next with
      | nil => exact absurd rfl hnext
      | cons b next =>
        have hb : b = a := by simpa using (congrArg List.head? heq)
        rw [hb, List.head?_cons]
    have hchain := (List.isChain_cons_cons.mp hgreedy.2).1
    exact hchain a hhead (hlonger.2 seg a rest hseg rfl)

/-- **There is only one greedy segmentation of a list of lines.** -/
theorem IsGreedy.unique {segs others : List (List Arrival)} (hs : IsGreedy segs)
    (ho : IsGreedy others) (heq : segs.flatten = others.flatten) : segs = others := by
  induction segs generalizing others with
  | nil =>
    cases others with
    | nil => rfl
    | cons other others =>
      have hne := (ho.1 other (by simp)).1
      simp [hne] at heq
  | cons seg segs ih =>
    cases others with
    | nil =>
      have hne := (hs.1 seg (by simp)).1
      simp [hne] at heq
    | cons other others =>
      have hseg := hs.1 seg (by simp)
      have hother := ho.1 other (by simp)
      have hfirst : seg = other := by
        rw [List.flatten_cons, List.flatten_cons] at heq
        -- the first segments are equal, or one of them is a proper part of the other
        rcases List.append_eq_append_iff.mp heq with ⟨rest, hrest, -⟩ | ⟨rest, hrest, -⟩
        · cases rest with
          | nil => simpa using hrest.symm
          | cons b rest =>
            rw [hrest] at heq hother
            exact (not_greedy_of_shorter hseg.1 hs hother heq).elim
        · cases rest with
          | nil => simpa using hrest
          | cons b rest =>
            rw [hrest] at heq hseg
            exact (not_greedy_of_shorter hother.1 ho hseg heq.symm).elim
      rw [hfirst, List.flatten_cons, List.flatten_cons, List.append_cancel_left_eq] at heq
      have hs' : IsGreedy segs := ⟨fun x hx => hs.1 x (by simp [hx]), hs.2.tail⟩
      have ho' : IsGreedy others := ⟨fun x hx => ho.1 x (by simp [hx]), ho.2.tail⟩
      rw [hfirst, ih hs' ho' heq]

end Admissible

/-! ### The segments of a run -/

section Runs

variable {calls : List Call} {r : Record} {segs : List Segment} {tail : List Arrival} {c : Call}
  {batch : Batch}

theorem arrivals_snoc : arrivals (calls ++ [c]) = arrivals calls ++ c.arrival?.toList := by
  simp [arrivals, List.filterMap_eq_flatMap_toList]

theorem segmented_new (start : Moment) : Segmented [] ⟨new start, [], []⟩ [] [] where
  members := rfl
  closed := rfl
  asked := rfl
  made := by simp
  admissible := by simp
  justified := by simp
  chain := List.isChain_nil
  precedes := by simp
  closers := List.Sublist.slnil
  isOpen := rfl
  lastActivity := by simp

/-- A call that pushes nothing may change nothing. -/
theorem Segmented.skip (h : Segmented calls r segs tail) (hc : c.arrival? = none) :
    Segmented (calls ++ [c]) r segs tail where
  members := by
    rw [arrivals_snoc, hc, h.members]
    simp
  closed := h.closed
  asked := h.asked
  made := h.made
  admissible := h.admissible
  justified := h.justified
  chain := h.chain
  precedes := h.precedes
  closers := h.closers.trans (List.sublist_append_left _ _)
  isOpen := h.isOpen
  lastActivity := h.lastActivity

/-- A push may open a batch. -/
theorem Segmented.start (h : Segmented calls r segs tail) (hb : r.batcher.current = none)
    (a : Arrival) : Segmented (calls ++ [.push a]) (r.after (.push a)) segs [a] := by
  have htail : tail = [] := by
    have := h.isOpen
    rwa [hb] at this
  have hmembers := h.members
  have hasked := h.asked
  rw [htail, List.append_nil] at hmembers
  rw [htail] at hasked
  rw [after_push_of_none hb]
  refine
    { h with
      members := by rw [arrivals_snoc, hmembers]; rfl
      asked := by simp [hasked]
      precedes := fun s hs b hclosed => ?_
      closers := h.closers.trans (List.sublist_append_left _ _)
      isOpen := ⟨isMadeOf_ofLine a, admissible_singleton a⟩
      lastActivity := by simp }
  -- the line that closed the last segment began a batch, so some batch is open
  have := h.precedes s hs b hclosed
  simp [htail] at this

/-- A push may put its line into the open batch. -/
theorem Segmented.extend (h : Segmented calls r segs tail) (hb : r.batcher.current = some batch)
    {a : Arrival} (ha : batch.admits a.line.length a.timestamp = true) :
    Segmented (calls ++ [.push a]) (r.after (.push a)) segs (tail ++ [a]) := by
  obtain ⟨hmade, hadm⟩ : IsMadeOf batch tail ∧ Admissible tail := by
    have := h.isOpen
    rwa [hb] at this
  have hhead : (tail ++ [a]).head? = tail.head? :=
    List.head?_append_of_ne_nil _ hmade.nonempty
  rw [after_push_of_admits hb ha]
  refine
    { h with
      members := by rw [arrivals_snoc, ← h.members, List.append_assoc]; rfl
      asked := by rw [hhead]; exact h.asked
      precedes := fun s hs b hclosed => ?_
      closers := h.closers.trans (List.sublist_append_left _ _)
      isOpen := ⟨hmade.append a, hadm.snoc (hmade.admits_iff.mp ha)⟩
      lastActivity := by simp }
  rw [hhead]
  exact h.precedes s hs b hclosed

/-- A call may close the open batch; what is left is the line that it pushes, if it pushes one. -/
theorem Segmented.close (h : Segmented calls r segs tail) (hb : r.batcher.current = some batch)
    (hj : (Segment.mk tail batch c).IsJustified) (batcher : Batcher)
    (hopen : match batcher.current with
      | none => c.arrival?.toList = []
      | some next => IsMadeOf next c.arrival?.toList ∧ Admissible c.arrival?.toList)
    (hlast : ∀ a ∈ c.arrival?.toList.getLast?, batcher.lastActivity = a.now) :
    Segmented (calls ++ [c]) ⟨batcher, r.closed ++ [(batch, c)], r.asked ++ c.arrival?.toList⟩
      (segs ++ [⟨tail, batch, c⟩]) c.arrival?.toList := by
  obtain ⟨hmade, hadm⟩ : IsMadeOf batch tail ∧ Admissible tail := by
    have := h.isOpen
    rwa [hb] at this
  have hall {p : Segment → Prop} (hs : ∀ s ∈ segs, p s) (ht : p ⟨tail, batch, c⟩) :
      ∀ s ∈ segs ++ [⟨tail, batch, c⟩], p s := by
    intro s hmem
    rcases List.mem_append.mp hmem with hmem | hmem
    · exact hs s hmem
    · rwa [List.mem_singleton.mp hmem]
  constructor
  · rw [arrivals_snoc, ← h.members]
    simp
  · rw [h.closed]
    simp
  · rw [h.asked, List.filterMap_append]
    cases c <;> cases tail <;> simp [Call.arrival?]
  · exact hall h.made hmade
  · exact hall h.admissible hadm
  · exact hall h.justified hj
  · refine List.isChain_append.mpr ⟨h.chain, List.isChain_singleton _, fun s hs t ht => ?_⟩
    obtain rfl : _ = t := by simpa using ht
    exact h.precedes s hs
  · intro s hs a hclosed
    obtain rfl : _ = s := by simpa using hs
    simp only at hclosed
    rw [hclosed]
    rfl
  · rw [List.map_append]
    exact h.closers.append (List.Sublist.refl _)
  · exact hopen
  · exact hlast

/-- **What one call does to the segments.** -/
theorem Segmented.after (h : Segmented calls r segs tail) (c : Call) :
    ∃ segs' tail', Segmented (calls ++ [c]) (r.after c) segs' tail' := by
  cases hb : r.batcher.current with
  | none =>
    -- nothing is open: only a push does something
    have hsame : ∀ lastActivity, lastActivity = r.batcher.lastActivity →
        (⟨⟨none, lastActivity⟩, r.closed, r.asked⟩ : Record) = r := by
      rintro lastActivity rfl
      rw [← hb]
    cases c with
    | push a => exact ⟨segs, [a], h.start hb a⟩
    | take =>
      refine ⟨segs, tail, ?_⟩
      have hafter : r.after .take = r := by simp [after_take, hb, hsame]
      rw [hafter]
      exact h.skip rfl
    | takeIfStale now =>
      refine ⟨segs, tail, ?_⟩
      have hafter : r.after (.takeIfStale now) = r := by
        by_cases hstale : r.batcher.isStale now = true
        · simp [after_takeIfStale_of_isStale hstale, hb, hsame]
        · exact after_takeIfStale_of_not_isStale hstale
      rw [hafter]
      exact h.skip rfl
  | some batch =>
    -- a batch is open: the call closes it, or the line of a push goes into it
    have hmade : IsMadeOf batch tail := by
      have := h.isOpen
      rw [hb] at this
      exact this.1
    cases c with
    | push a =>
      by_cases ha : batch.admits a.line.length a.timestamp = true
      · exact ⟨segs, tail ++ [a], h.extend hb ha⟩
      · have hj : (Segment.mk tail batch (.push a)).IsJustified :=
          fun hjoins => ha (hmade.admits_iff.mpr hjoins)
        rw [after_push_of_not_admits hb ha]
        exact ⟨_, _, h.close hb hj ⟨some (Batch.ofLine a.line a.timestamp a.metadata), a.now⟩
          ⟨isMadeOf_ofLine a, admissible_singleton a⟩ (by simp [Call.arrival?])⟩
    | take =>
      have hj : (Segment.mk tail batch .take).IsJustified := trivial
      have hclose := h.close hb hj ⟨none, r.batcher.lastActivity⟩ rfl (by simp [Call.arrival?])
      refine ⟨segs ++ [⟨tail, batch, .take⟩], [], ?_⟩
      rw [after_take, hb]
      simpa [Call.arrival?] using hclose
    | takeIfStale now =>
      by_cases hstale : r.batcher.isStale now = true
      · have hj : (Segment.mk tail batch (.takeIfStale now)).IsJustified := by
          intro last hmem
          rw [← h.lastActivity last hmem]
          exact of_decide_eq_true hstale
        have hclose := h.close hb hj ⟨none, r.batcher.lastActivity⟩ rfl (by simp [Call.arrival?])
        refine ⟨segs ++ [⟨tail, batch, .takeIfStale now⟩], [], ?_⟩
        rw [after_takeIfStale_of_isStale hstale, hb]
        simpa [Call.arrival?] using hclose
      · rw [after_takeIfStale_of_not_isStale hstale]
        exact ⟨segs, tail, h.skip rfl⟩

/-- **What a run of calls does to the segments.** -/
theorem exists_segmented (start : Moment) (calls : List Call) :
    ∃ segs tail, Segmented calls (record start calls) segs tail := by
  induction calls using List.reverseRecOn with
  | nil => exact ⟨[], [], segmented_new start⟩
  | append_singleton calls c ih =>
    obtain ⟨segs, tail, h⟩ := ih
    rw [record, List.foldl_append]
    exact h.after c

/-- What has something behind it in a list that is part of another one is not its last part. -/
theorem mem_of_sublist_snoc {α : Type} {before after calls : List α} {c d last : α}
    (h : (before ++ c :: d :: after).Sublist (calls ++ [last])) : c ∈ calls := by
  have hdrop := h.reverse.tail
  rw [List.tail_reverse, List.tail_reverse, List.reverse_sublist, List.dropLast_concat] at hdrop
  refine hdrop.subset ?_
  rw [List.dropLast_append_of_ne_nil (by simp), List.dropLast_cons_of_ne_nil (by simp)]
  simp

/-- Where nothing but pushes comes before the last call, the segments are a greedy segmentation. -/
theorem Segmented.isGreedy {pushes : List Call} (h : Segmented (pushes ++ [c]) r segs tail)
    (hp : ∀ c ∈ pushes, c.arrival?.isSome = true) : IsGreedy (segs.map Segment.members) := by
  constructor
  · intro seg hseg
    obtain ⟨s, hs, rfl⟩ := List.mem_map.mp hseg
    exact h.admissible s hs
  · rw [List.isChain_map, List.isChain_iff_forall_rel_of_append_cons_cons]
    rintro s next before after rfl a ha
    have hmem : s.closedBy ∈ pushes := by
      have := h.closers
      rw [List.map_append, List.map_cons, List.map_cons] at this
      exact mem_of_sublist_snoc this
    -- a request closes only the last segment, so it was a push that closed `s`
    have hprec : s.Precedes next.members := (List.isChain_append_cons_cons.mp h.chain).2.1
    have hj := h.justified s (by simp)
    cases hc : s.closedBy with
    | push b =>
      rw [Segment.IsJustified, hc] at hj
      obtain rfl : b = a := by simpa [hprec b hc] using ha
      exact hj
    | take => exact absurd (hp _ hmem) (by simp [hc, Call.arrival?])
    | takeIfStale now => exact absurd (hp _ hmem) (by simp [hc, Call.arrival?])

/-- A push closes the open batch exactly when the batch does not admit its line. -/
theorem closes_iff {b : Batcher} {a : Arrival} :
    (b.push a.line a.timestamp (fun _ => a.metadata) a.now).2.isSome = true ↔
      ∃ batch ∈ b.current, ¬batch.admits a.line.length a.timestamp = true := by
  cases hb : b.current with
  | none => simp [push_of_none hb]
  | some batch =>
    by_cases ha : batch.admits a.line.length a.timestamp = true
    · simp [push_of_admits hb ha, ha]
    · simp [push_of_not_admits hb ha, ha]

/-- **Batching is greedy segmentation.** Whatever is done to a batcher before its last batch is
closed, its batches are made of admissible segments of the lines pushed, closed for a reason, and
their metadata were asked for once each. No batch has more than a thousand lines, nor more than
256 KiB if no line has; pushes alone cut their lines in the only greedy way. A push closes the open
batch exactly when its line would make it too long or is too far from its anchor. -/
theorem segmented_record (start : Moment) (calls : List Call) :
    (∃ segs, Segmented (calls ++ [.take]) (record start (calls ++ [.take])) segs [] ∧
      (∀ s ∈ segs, ∀ before a rest, s.members = before ++ a :: rest →
        ∀ t ∈ a.timestamp, ∀ anchor ∈ anchor? before,
          s.batch.anchor = some anchor ∧ (t.epoch - anchor.epoch).abs ≤ 5.0) ∧
      (∀ s ∈ segs, s.batch.lineCount ≤ 1000) ∧
      ((∀ a ∈ arrivals calls, a.line.length ≤ 262144) →
        ∀ s ∈ segs, s.batch.body.length ≤ 262144) ∧
      ((∀ c ∈ calls, c.arrival?.isSome = true) → ∀ others : List (List Arrival),
        IsGreedy others ∧ others.flatten = arrivals calls ↔
          others = segs.map Segment.members)) ∧
    ∀ a : Arrival,
      ((record start calls).batcher.push a.line a.timestamp (fun _ => a.metadata) a.now).2.isSome ↔
        ∃ batch ∈ (record start calls).batcher.current,
          1000 < batch.lineCount + 1 ∨ 262144 < batch.body.length + 1 + a.line.length ∨
            ∃ t ∈ a.timestamp, ∃ anchor ∈ batch.anchor, ¬(t.epoch - anchor.epoch).abs ≤ 5.0 := by
  constructor
  · obtain ⟨segs, tail, h⟩ := exists_segmented start (calls ++ [.take])
    obtain rfl : tail = [] := by
      have := h.isOpen
      rwa [record, List.foldl_append, List.foldl_cons, List.foldl_nil, after_take] at this
    have hmembers : (segs.map Segment.members).flatten = arrivals calls := by
      rw [← List.flatMap_def, ← List.append_nil (segs.flatMap _), h.members, arrivals_snoc]
      exact List.append_nil _
    refine ⟨segs, h, ?_, ?_, ?_, ?_⟩
    · intro s hs before a rest heq t ht anchor hanchor
      rw [(h.made s hs).anchor]
      exact (h.admissible s hs).within_anchor heq ht hanchor
    · intro s hs
      rw [(h.made s hs).lineCount]
      exact (h.admissible s hs).length_le
    · intro hlines s hs
      rw [(h.made s hs).body]
      refine (h.admissible s hs).length_joined_le fun a ha => hlines a ?_
      rw [← hmembers]
      exact List.mem_flatten.mpr ⟨s.members, List.mem_map_of_mem hs, ha⟩
    · intro hp others
      have hgreedy := h.isGreedy hp
      constructor
      · rintro ⟨ho, hflatten⟩
        exact ho.unique hgreedy (hflatten.trans hmembers.symm)
      · rintro rfl
        exact ⟨hgreedy, hmembers⟩
  · intro a
    obtain ⟨segs, tail, h⟩ := exists_segmented start calls
    rw [closes_iff]
    refine exists_congr fun batch => and_congr_right fun hb => ?_
    have hmade : IsMadeOf batch tail := by
      have := h.isOpen
      rw [Option.mem_def.mp hb] at this
      exact this.1
    rw [admits_iff, hmade.byteCount, ← hmade.body]
    simp only [not_and_or, not_forall, exists_prop, not_le]

end Runs

end Batcher

end LogWatch
