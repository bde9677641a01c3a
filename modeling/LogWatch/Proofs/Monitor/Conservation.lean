import LogWatch.Proofs.Monitor.History
import Mathlib.Algebra.GroupWithZero.Nat

/-!
# A monitor loses nothing

Every line of interest ends up in one batch, and every batch in one of four places. Two tasks close
batches, three put something into the outbox and a fourth empties it, in any order; what is
conserved along the way is stated here once for each half of the path.

* **From the lines to the batches.** The reader and the flusher do nothing to the batcher but what a
  sequence of calls does, so whatever the history, the batcher is that of
  `LogWatch.Batcher.record`, and what is known of its segments is known of the batches
  (`LogWatch.Monitor.Gathered`).
* **From the batches to the receiver.** What was handed over was dropped or entered the outbox; what
  entered waits there or has been taken; and of what was taken a report was sent, unless the limit
  stopped it (`LogWatch.Monitor.Delivered`).

When the monitor has stopped, nothing is left on the way (`LogWatch.Monitor.Orderly`), which turns
the two invariants into `LogWatch.Monitor.run_conserves`.
-/

namespace LogWatch

namespace Monitor

/-! ### What is conserved -/

/-- The batches among some deliveries. -/
def batches (ds : List Delivery) : List Batch :=
  ds.filterMap fun
    | .batch b => some b
    | .alert _ => none

/-- The lines of interest of a history, as they were pushed. -/
def arrivals (p : Plan) (h : List Entry) : List Batcher.Arrival :=
  h.filterMap fun en => arrival? p en.before en.event

/-- What was done to the batcher. -/
def calls (p : Plan) (h : List Entry) : List Batcher.Call :=
  h.filterMap fun en => call? p en.before en.event

/-- The report that the courier has begun to send at an event. -/
def Entry.sent? (en : Entry) : Option Report :=
  match en.before.courier, en.after.courier with
  | .idle, .sending r => some r
  | _, _ => none

/-- The reports that the courier has sent, whatever became of them. -/
def reports (h : List Entry) : List Report := h.filterMap Entry.sent?

/-- **The reason for which a batch is handed over** at an event that follows a history. -/
inductive Reason (p : Plan) (h : List Entry) (s : State) (e : Event) (b : Batch) : Prop
  /-- It does not admit the next line. -/
  | split (a : Batcher.Arrival) : arrival? p s e = some a → s.batcher.current = some b →
      b.admits a.line.length a.timestamp = false → Reason p h s e b
  /-- The stream has ended. -/
  | ended : taken? s e = none → e.endsStream = true → Reason p h s e b
  /-- The monitor has been told to stop. -/
  | interrupted : s.isCancelled = true → e = .interrupted → Reason p h s e b
  /-- Its last line came at least 4.9 seconds before. -/
  | stale (last : Batcher.Arrival) : e = .flusherFires → (arrivals p h).getLast? = some last →
      b.lines.getLast? = some last.line → 4900000000 ≤ s.now - last.now → Reason p h s e b

/-- The report is one for that delivery. -/
def IsReportOf (p : Plan) : Delivery → Report → Prop
  | .batch b, r => ∃ origin snapshot, r = Incident.report origin p.name b snapshot
  | .alert a, r => r = a

@[simp] theorem batches_append (ds ds' : List Delivery) :
    batches (ds ++ ds') = batches ds ++ batches ds' := by
  simp [batches]

@[simp] theorem batches_map_batch (bs : List Batch) : batches (bs.map .batch) = bs := by
  simp [batches, List.filterMap_map]

theorem arrivals_snoc (p : Plan) (h : List Entry) (en : Entry) :
    arrivals p (h ++ [en]) = arrivals p h ++ (arrival? p en.before en.event).toList := by
  simp [arrivals, List.filterMap_eq_flatMap_toList]

theorem calls_snoc (p : Plan) (h : List Entry) (en : Entry) :
    calls p (h ++ [en]) = calls p h ++ (call? p en.before en.event).toList := by
  simp [calls, List.filterMap_eq_flatMap_toList]

theorem reports_snoc (h : List Entry) (en : Entry) :
    reports (h ++ [en]) = reports h ++ en.sent?.toList := by
  simp [reports, List.filterMap_eq_flatMap_toList]

/-- Only the lines of interest are pushed. -/
theorem arrivals_calls (p : Plan) (h : List Entry) :
    Batcher.arrivals (calls p h) = arrivals p h := by
  rw [Batcher.arrivals, calls, List.filterMap_filterMap, arrivals]
  refine List.filterMap_congr ?_
  rintro ⟨s, e, -, -⟩ -
  simp only [call?]
  cases htaken : taken? s e with
  | some line => cases arrival? p s e <;> simp [Batcher.Call.arrival?]
  | none =>
    rw [show arrival? p s e = none by rw [arrival?, htaken]]
    cases e <;> rfl

/-! ### From the lines to the batches -/

section Gathering

variable {p : Plan} {s : State}

/-- **A line of interest is pushed**, and counted. -/
theorem takeLineOf_of_accepts (wall : WallTime) {line : Bytes} (rest : LineReader) (before : Nat)
    (h : accepts p s line = true) :
    let x := takeLineOf p s wall line rest before
    let pushed := s.batcher.push (p.messageOf line) (p.timestamp? wall line)
      (fun _ => p.metadata line) s.now
    x.1.batcher = pushed.1 ∧ x.2 = pushed.2.toList.map .batch ∧
      x.1.counters.detected = s.counters.detected + 1 ∧
      x.1.counters.excluded = s.counters.excluded := by
  rw [accepts, Bool.and_eq_true, Bool.not_eq_true'] at h
  obtain ⟨hdetect, hexcludes⟩ := h
  simp [takeLineOf, takeLine, State.countLine, hdetect, hexcludes, gather]

/-- Another line leaves the batcher alone; it may be counted as one that was passed over. -/
theorem takeLineOf_of_not_accepts (wall : WallTime) {line : Bytes} (rest : LineReader)
    (before : Nat) (h : accepts p s line = false) :
    let x := takeLineOf p s wall line rest before
    x.1.batcher = s.batcher ∧ x.2 = [] ∧
      x.1.counters.detected + s.counters.excluded =
        s.counters.detected + x.1.counters.excluded := by
  rw [accepts] at h
  cases hdetect : (p.detector.detect s.trail s.now line).1 with
  | false => simp [takeLineOf, takeLine, State.countLine, hdetect]
  | true =>
    have hexcludes : p.excludes line = true := by simpa [hdetect] using h
    simp [takeLineOf, takeLine, State.countLine, hdetect, hexcludes]
    omega

theorem processed_takeLineOf {wall : WallTime} {line : Bytes} {rest : LineReader} {before : Nat} :
    (takeLineOf p s wall line rest before).1.counters.processed = s.counters.processed + 1 := by
  simp only [takeLineOf, takeLine, gather]
  split <;> try split
  all_goals rfl

theorem call?_of_endsStream {e : Event} (htaken : taken? s e = none)
    (hends : e.endsStream = true) : call? p s e = some .take := by
  rw [call?, htaken]
  cases e <;> first | rfl | exact absurd hends (by simp [Event.endsStream])

theorem arrival?_of_accepts {e : Event} {wall : WallTime} {line : Bytes}
    (htaken : taken? s e = some (wall, line)) (h : accepts p s line = true) :
    arrival? p s e = some (arrival p s wall line) := by
  rw [arrival?, htaken]
  exact if_pos h

theorem arrival?_of_not_accepts {e : Event} {wall : WallTime} {line : Bytes}
    (htaken : taken? s e = some (wall, line)) (h : accepts p s line = false) :
    arrival? p s e = none := by
  rw [arrival?, htaken]
  exact if_neg (by simp [h])

theorem arrival?_of_taken?_eq_none {e : Event} (htaken : taken? s e = none) :
    arrival? p s e = none := by
  rw [arrival?, htaken]

theorem call?_of_taken {e : Event} {line : WallTime × Bytes} (htaken : taken? s e = some line) :
    call? p s e = (arrival? p s e).map .push := by
  rw [call?, htaken]

theorem map_fst_map_pair {c : Batcher.Call} (bs : List Batch) :
    (bs.map fun b => (b, c)).map Prod.fst = bs := by
  simp [Function.comp_def]

theorem endStream_eq : (endStream p s).1.batcher = s.batcher.take.1 ∧
    (endStream p s).2 = s.batcher.take.2.toList.map .batch := by
  simp only [endStream, flush]
  split <;> exact ⟨rfl, rfl⟩

/-- Neither the batcher nor what the reader counts has changed. -/
structure SameReader (s t : State) : Prop where
  batcher : t.batcher = s.batcher
  processed : t.counters.processed = s.counters.processed
  detected : t.counters.detected = s.counters.detected
  excluded : t.counters.excluded = s.counters.excluded

theorem sameReader_lookAfter {patrol : Patrol} {origin : Origin} :
    SameReader s (lookAfter p s patrol origin).1 := by
  simp only [lookAfter]
  split <;> exact ⟨rfl, rfl, rfl, rfl⟩

theorem batches_lookAfter {patrol : Patrol} {origin : Origin} :
    batches (lookAfter p s patrol origin).2 = [] := by
  simp only [lookAfter]
  split <;> rfl

theorem sameReader_begin {outbox : Outbox} {origin : Origin} {snapshot : Option Json.Members}
    {d : Delivery} : SameReader s (begin p { s with outbox } origin snapshot d) := by
  cases d with
  | alert a => exact ⟨rfl, rfl, rfl, rfl⟩
  | batch b =>
    simp only [begin]
    split <;> exact ⟨rfl, rfl, rfl, rfl⟩

theorem sameReader_conclude {r : Report} {ok : Bool} : SameReader s (conclude p s r ok) := by
  cases ok <;> exact ⟨rfl, rfl, rfl, rfl⟩

/-- **The batcher does what the calls say.** -/
theorem batcher_of_turn {e : Event} {x : State × List Delivery} (ht : Turn p s e x)
    (r : Batcher.Record) (hr : r.batcher = s.batcher) :
    ((call? p s e).toList.foldl Batcher.Record.after r).batcher = x.1.batcher ∧
      ((call? p s e).toList.foldl Batcher.Record.after r).closed.map Prod.fst =
        r.closed.map Prod.fst ++ batches x.2 := by
  -- the end of a stream and a cancellation close the open batch in the same way
  have htake : (r.after .take).batcher = s.batcher.take.1 ∧
      (r.after .take).closed.map Prod.fst =
        r.closed.map Prod.fst ++ batches (s.batcher.take.2.toList.map .batch) := by
    rw [Batcher.after_take, hr, batches_map_batch, List.map_append, map_fst_map_pair]
    exact ⟨rfl, rfl⟩
  cases ht with
  | line lines rest wall line hphase htaken =>
    rw [call?_of_taken htaken]
    cases hacc : accepts p s line with
    | true =>
      obtain ⟨hbatcher, hhanded, -, -⟩ := takeLineOf_of_accepts wall rest
        lines.truncated hacc
      obtain ⟨hb, hc⟩ := Batcher.after_push r (arrival p s wall line)
      rw [arrival?_of_accepts htaken hacc]
      rw [hr] at hb hc
      refine ⟨hb.trans hbatcher.symm, ?_⟩
      rw [hhanded, batches_map_batch]
      simp only [Option.map_some, Option.toList_some, List.foldl_cons, List.foldl_nil, hc,
        List.map_append, map_fst_map_pair]
      rfl
    | false =>
      obtain ⟨hbatcher, hhanded, -⟩ := takeLineOf_of_not_accepts wall rest
        lines.truncated hacc
      rw [arrival?_of_not_accepts htaken hacc]
      exact ⟨hr.trans hbatcher.symm, by rw [hhanded]; simp [batches]⟩
  | ended hreading htaken hends =>
    rw [call?_of_endsStream htaken hends, endStream_eq.1, endStream_eq.2]
    exact htake
  | interrupted hreading hcancelled he =>
    subst he
    exact htake
  | fired deadline hflusher he =>
    subst he
    rw [show (call? p s .flusherFires).toList.foldl Batcher.Record.after r =
      r.after (.takeIfStale s.now) from rfl]
    simp only [fire, Batcher.takeIfStale]
    split
    · next hstale =>
      rw [Batcher.after_takeIfStale_of_isStale (by rw [hr, hstale]), hr, batches_map_batch,
        List.map_append, map_fst_map_pair]
      exact ⟨rfl, rfl⟩
    · next hstale =>
      rw [Batcher.after_takeIfStale_of_not_isStale (by rw [hr]; exact hstale)]
      exact ⟨hr, by simp [batches]⟩
  | looked patrol origin hpatrol hover he =>
    subst he
    rw [batches_lookAfter, List.append_nil]
    exact ⟨hr.trans sameReader_lookAfter.batcher.symm, rfl⟩
  | moved phase hmoves htaken hcall =>
    rw [hcall]
    exact ⟨hr, by simp [batches]⟩
  | waited now isCancelled wake flusher patrol hkeeps htaken hcall =>
    rw [hcall]
    exact ⟨hr, by simp [batches]⟩
  | dispatched d outbox origin snapshot hcourier htake he =>
    subst he
    exact ⟨hr.trans sameReader_begin.batcher.symm, (List.append_nil _).symm⟩
  | answered report ok hcourier he =>
    subst he
    exact ⟨hr.trans sameReader_conclude.batcher.symm, (List.append_nil _).symm⟩
  | stored report ok hcourier he =>
    subst he
    exact ⟨hr, (List.append_nil _).symm⟩

/-- Where the reader does nothing, nothing is counted. -/
theorem SameReader.counted {t : State} (h : SameReader s t) :
    t.counters.processed = s.counters.processed ∧
      t.counters.detected + s.counters.excluded =
        s.counters.detected + t.counters.excluded := by
  rw [h.processed, h.detected, h.excluded]
  exact ⟨rfl, rfl⟩

/-- What an event counts on the way from the lines to the batches. -/
theorem counters_of_turn {e : Event} {x : State × List Delivery} (ht : Turn p s e x) :
    x.1.counters.processed = s.counters.processed + (taken? s e).toList.length ∧
      x.1.counters.detected + s.counters.excluded =
        s.counters.detected + x.1.counters.excluded + (arrival? p s e).toList.length := by
  cases ht with
  | line lines rest wall line hphase htaken =>
    rw [htaken, processed_takeLineOf]
    refine ⟨rfl, ?_⟩
    cases hacc : accepts p s line with
    | true =>
      obtain ⟨-, -, hdetected, hexcluded⟩ := takeLineOf_of_accepts wall rest
        lines.truncated hacc
      rw [arrival?_of_accepts htaken hacc, hdetected, hexcluded, Option.length_toList]
      simp only [Option.isSome_some, if_true]
      omega
    | false =>
      obtain ⟨-, -, hcounted⟩ := takeLineOf_of_not_accepts wall rest
        lines.truncated hacc
      rw [arrival?_of_not_accepts htaken hacc]
      exact hcounted
  | ended hreading htaken hends =>
    rw [htaken, arrival?_of_taken?_eq_none htaken]
    simp only [endStream, flush]
    split <;> exact ⟨rfl, rfl⟩
  | interrupted hreading hcancelled he =>
    subst he
    exact ⟨rfl, rfl⟩
  | fired deadline hflusher he =>
    subst he
    exact ⟨rfl, rfl⟩
  | looked patrol origin hpatrol hover he =>
    subst he
    exact sameReader_lookAfter.counted
  | moved phase hmoves htaken hcall =>
    rw [htaken, arrival?_of_taken?_eq_none htaken]
    exact ⟨rfl, rfl⟩
  | waited now isCancelled wake flusher patrol hkeeps htaken hcall =>
    rw [htaken, arrival?_of_taken?_eq_none htaken]
    exact ⟨rfl, rfl⟩
  | dispatched d outbox origin snapshot hcourier htake he =>
    subst he
    exact sameReader_begin.counted
  | answered report ok hcourier he =>
    subst he
    exact sameReader_conclude.counted
  | stored report ok hcourier he =>
    subst he
    exact ⟨rfl, rfl⟩

/-- **The batcher holds what the lines of interest have left there.** -/
structure Gathered (p : Plan) (start : Moment) (h : List Entry) (s : State) : Prop where
  /-- The batcher is that of the calls. -/
  batcher : (Batcher.record start (calls p h)).batcher = s.batcher
  /-- The batches handed over are those that the calls closed. -/
  closed : (Batcher.record start (calls p h)).closed.map Prod.fst = batches (handed h)
  /-- None of them was handed over without a reason. -/
  reasons : ∀ before en after, h = before ++ en :: after →
    ∀ b ∈ batches en.handed, Reason p before en.before en.event b
  /-- Every line was counted. -/
  processed : s.counters.processed = (h.filterMap fun en => taken? en.before en.event).length
  /-- Every line of interest was counted once more than it was passed over. -/
  detected : s.counters.detected = s.counters.excluded + (arrivals p h).length

theorem gathered_starting (p : Plan) (now : Moment) :
    Gathered p now [] (State.starting p now) where
  batcher := rfl
  closed := rfl
  reasons before en after heq := by simp at heq
  processed := rfl
  detected := rfl

variable {start : Moment} {h : List Entry}

/-- **The last line of the open batch** is the last line of interest, and the batcher knows when it
came. -/
theorem Gathered.exists_last (hg : Gathered p start h s) {b : Batch}
    (hb : s.batcher.current = some b) :
    ∃ last, (arrivals p h).getLast? = some last ∧ b.lines.getLast? = some last.line ∧
      s.batcher.lastActivity = last.now := by
  -- the open batch is made of the last lines of interest
  obtain ⟨segs, tail, hseg⟩ := Batcher.exists_segmented start (calls p h)
  have hmade : Batcher.IsMadeOf b tail := by
    have := hseg.isOpen
    rw [hg.batcher, hb] at this
    exact this.1
  obtain ⟨last, hlast⟩ := Option.isSome_iff_exists.mp (List.getLast?_isSome.mpr hmade.nonempty)
  refine ⟨last, ?_, ?_, ?_⟩
  · rw [← arrivals_calls, ← hseg.members, List.getLast?_append_of_ne_nil _ hmade.nonempty, hlast]
  · rw [hmade.lines, List.getLast?_map, hlast]
    rfl
  · rw [← hg.batcher]
    exact hseg.lastActivity last hlast

/-- What is stale was left alone for 4.9 seconds after its last line. -/
theorem Gathered.reason_of_isStale (hg : Gathered p start h s) {b : Batch}
    (hb : s.batcher.current = some b) (hstale : s.batcher.isStale s.now = true) :
    Reason p h s .flusherFires b := by
  obtain ⟨last, harrivals, hlines, hactivity⟩ := hg.exists_last hb
  refine .stale last rfl harrivals hlines ?_
  rw [← hactivity]
  exact of_decide_eq_true hstale

/-- **An event hands over a batch only for a reason.** -/
theorem Gathered.reason_of_turn (hg : Gathered p start h s) {e : Event}
    {x : State × List Delivery} (ht : Turn p s e x) {b : Batch} (hb : b ∈ batches x.2) :
    Reason p h s e b := by
  cases ht with
  | line lines rest wall line hphase htaken =>
    cases hacc : accepts p s line with
    | true =>
      obtain ⟨-, hhanded, -, -⟩ := takeLineOf_of_accepts wall rest
        lines.truncated hacc
      rw [hhanded, batches_map_batch, Option.mem_toList] at hb
      obtain ⟨hopen, hadmits⟩ := Batcher.push_eq_some hb
      exact .split _ (arrival?_of_accepts htaken hacc) hopen hadmits
    | false =>
      obtain ⟨-, hhanded, -⟩ := takeLineOf_of_not_accepts wall rest
        lines.truncated hacc
      rw [hhanded] at hb
      simp [batches] at hb
  | ended hreading htaken hends => exact .ended htaken hends
  | interrupted hreading hcancelled he => exact .interrupted hcancelled he
  | fired deadline hflusher he =>
    subst he
    simp only [fire, Batcher.takeIfStale] at hb
    split at hb
    · next hstale =>
      rw [batches_map_batch, Option.mem_toList] at hb
      exact hg.reason_of_isStale hb hstale
    · simp [batches] at hb
  | looked patrol origin hpatrol hover he =>
    rw [batches_lookAfter] at hb
    simp at hb
  | moved phase hmoves htaken hcall => simp [batches] at hb
  | waited now isCancelled wake flusher patrol hkeeps htaken hcall => simp [batches] at hb
  | dispatched d outbox origin snapshot hcourier htake he => simp [batches] at hb
  | answered report ok hcourier he => simp [batches] at hb
  | stored report ok hcourier he => simp [batches] at hb

/-- **Gathering goes on at every event.** -/
theorem Gathered.snoc (hg : Gathered p start h s) {e : Event} {s' : State} {ds : List Delivery}
    (ht : Turn p s e (s', ds)) :
    Gathered p start (h ++ [⟨s, e, ds, s'.submit ds⟩]) (s'.submit ds) := by
  obtain ⟨hbatcher, hclosed⟩ := batcher_of_turn ht _ hg.batcher
  obtain ⟨hprocessed, hdetected⟩ := counters_of_turn ht
  rw [Batcher.record, ← List.foldl_append, ← calls_snoc p h ⟨s, e, ds, s'.submit ds⟩] at hbatcher
  constructor
  · exact hbatcher
  · rw [calls_snoc, Batcher.record, List.foldl_append, handed_snoc, batches_append, ← hg.closed]
    exact hclosed
  · intro before en after heq b hb
    rcases List.eq_nil_or_concat after with rfl | ⟨after, last, rfl⟩
    -- the event is the new one, or one that has been accounted for
    · obtain ⟨rfl, hen⟩ := List.append_inj' heq rfl
      obtain rfl := List.singleton_inj.mp hen
      exact hg.reason_of_turn ht hb
    · rw [List.concat_eq_append, ← List.cons_append, ← List.append_assoc] at heq
      exact hg.reasons before en after (List.append_inj' heq rfl).1 b hb
  · change s'.counters.processed = _
    rw [List.filterMap_append, List.length_append, ← hg.processed]
    cases htaken : taken? s e <;> simpa [htaken] using hprocessed
  · have hbefore := hg.detected
    change s'.counters.detected = s'.counters.excluded + _
    rw [arrivals_snoc, List.length_append]
    simp only at hdetected ⊢
    omega

end Gathering

/-! ### From the batches to the receiver -/

section Delivering

variable {p : Plan} {s t : State} {h : List Entry}

/-- Neither the courier nor what it counts has changed. -/
structure SameCourier (s t : State) : Prop where
  outbox : t.outbox = s.outbox
  courier : t.courier = s.courier
  sent : t.counters.sent = s.counters.sent
  failed : t.counters.failed = s.counters.failed
  rateLimited : t.counters.rateLimited = s.counters.rateLimited

/-- The reports that are on their way. -/
def Courier.underway : Courier → Nat
  | .sending _ => 1
  | _ => 0

/-- **What was handed over is somewhere on its way**: `entered` is what found room in the outbox,
`taken` what has left it again, and `passed` what the limit let pass. -/
structure Delivered (p : Plan) (h : List Entry) (s : State)
    (entered taken passed : List Delivery) : Prop where
  /-- The outbox is read. -/
  isRead : s.outbox.isRead = true
  /-- What entered it keeps its order. -/
  enters : entered.Sublist (handed h)
  /-- What did not was counted. -/
  dropped : (handed h).length = entered.length + s.outbox.dropped
  /-- What entered and does not wait has been taken. -/
  waiting : entered = taken ++ s.outbox.waiting
  /-- What the limit let pass keeps its order. -/
  passes : passed.Sublist taken
  /-- What it did not was counted. -/
  limited : taken.length = passed.length + s.counters.rateLimited
  /-- A report was sent of all that passed. -/
  sent : List.Forall₂ (IsReportOf p) passed (reports h)
  /-- What became of a report was counted. -/
  answered : (reports h).length = s.counters.sent + s.counters.failed + s.courier.underway

theorem delivered_starting (p : Plan) (now : Moment) :
    Delivered p [] (State.starting p now) [] [] [] where
  isRead := rfl
  enters := List.Sublist.slnil
  dropped := rfl
  waiting := rfl
  passes := List.Sublist.slnil
  limited := rfl
  sent := .nil
  answered := rfl

/-- **What is put into an outbox waits there or was dropped.** -/
theorem exists_submitted (o : Outbox) (ds : List Delivery) (hread : o.isRead = true) :
    ∃ accepted, accepted.Sublist ds ∧
      (ds.foldl Outbox.submit o).isRead = true ∧
      (ds.foldl Outbox.submit o).waiting = o.waiting ++ accepted ∧
      (ds.foldl Outbox.submit o).dropped + accepted.length = o.dropped + ds.length := by
  induction ds generalizing o with
  | nil => exact ⟨[], List.Sublist.slnil, hread, by simp, rfl⟩
  | cons d ds ih =>
    rw [List.foldl_cons]
    -- a full outbox drops what it gets, any other lets it wait
    by_cases hfull : o.isFull = true
    · have hsubmit : o.submit d = { o with dropped := o.dropped + 1 } := by
        simp [Outbox.submit, hread, hfull]
      rw [hsubmit]
      obtain ⟨accepted, hsub, hread', hwaiting, hdropped⟩ :=
        ih { o with dropped := o.dropped + 1 } hread
      refine ⟨accepted, hsub.cons d, hread', hwaiting, ?_⟩
      rw [hdropped, List.length_cons]
      exact Nat.add_right_comm _ _ _
    · have hsubmit : o.submit d = { o with waiting := o.waiting ++ [d] } := by
        simp [Outbox.submit, hread, hfull]
      rw [hsubmit]
      obtain ⟨accepted, hsub, hread', hwaiting, hdropped⟩ :=
        ih { o with waiting := o.waiting ++ [d] } hread
      refine ⟨d :: accepted, hsub.cons_cons d, hread', ?_, ?_⟩
      · rw [hwaiting]
        simp
      · rw [List.length_cons, List.length_cons, ← Nat.add_assoc, hdropped]
        rfl

theorem sameCourier_takeLineOf {wall : WallTime} {line : Bytes} {rest : LineReader}
    {before : Nat} : SameCourier s (takeLineOf p s wall line rest before).1 := by
  simp only [takeLineOf, takeLine, gather]
  split <;> try split
  all_goals exact ⟨rfl, rfl, rfl, rfl, rfl⟩

theorem sameCourier_endStream : SameCourier s (endStream p s).1 := by
  simp only [endStream, flush]
  split <;> exact ⟨rfl, rfl, rfl, rfl, rfl⟩

theorem sameCourier_lookAfter {patrol : Patrol} {origin : Origin} :
    SameCourier s (lookAfter p s patrol origin).1 := by
  simp only [lookAfter]
  split <;> exact ⟨rfl, rfl, rfl, rfl, rfl⟩

variable {entered taken passed : List Delivery} {e : Event}

/-- Where no delivery is taken, no report is sent. -/
theorem reports_snoc_of_not_idle {en : Entry}
    (hen : en.before.courier = .idle → en.after.courier = .idle) :
    reports (h ++ [en]) = reports h := by
  have hsent : en.sent? = none := by
    rw [Entry.sent?]
    split
    · next r hbefore hafter => simp [hen hbefore] at hafter
    · rfl
  rw [reports_snoc, hsent]
  simp

/-- Whatever is handed over enters the outbox or is dropped. -/
theorem Delivered.submit (hd : Delivered p h s entered taken passed)
    {x : State × List Delivery} (hs : SameCourier s x.1) :
    ∃ entered' taken' passed', Delivered p (h ++ [⟨s, e, x.2, x.1.submit x.2⟩])
      (x.1.submit x.2) entered' taken' passed' := by
  obtain ⟨s', ds⟩ := x
  change SameCourier s s' at hs
  obtain ⟨accepted, hsub, hread, hwaiting, hdropped⟩ := exists_submitted s.outbox ds hd.isRead
  rw [← hs.outbox] at hread hwaiting hdropped
  have hreports : reports (h ++ [⟨s, e, ds, s'.submit ds⟩]) = reports h :=
    reports_snoc_of_not_idle hs.courier.trans
  refine ⟨entered ++ accepted, taken, passed, hread, ?_, ?_, ?_, hd.passes, ?_, ?_, ?_⟩
  · rw [handed_snoc]
    exact hd.enters.append hsub
  · change _ = _ + (ds.foldl Outbox.submit s'.outbox).dropped
    rw [handed_snoc, List.length_append, List.length_append, hd.dropped, ← hs.outbox]
    simp only
    omega
  · change _ = _ ++ (ds.foldl Outbox.submit s'.outbox).waiting
    rw [hwaiting, hd.waiting, hs.outbox, List.append_assoc]
  · exact hd.limited.trans (congrArg _ hs.rateLimited.symm)
  · rw [hreports]
    exact hd.sent
  · change _ = s'.counters.sent + s'.counters.failed + s'.courier.underway
    rw [hreports, hs.sent, hs.failed, hs.courier]
    exact hd.answered

theorem handed_snoc_nil {t : State} : handed (h ++ [⟨s, e, [], t⟩]) = handed h := by
  rw [handed_snoc]
  exact List.append_nil _

theorem take_eq_some {o o' : Outbox} {d : Delivery} (h : o.take = (some d, o')) :
    ∃ rest, o.waiting = d :: rest ∧ o' = { o with waiting := rest } := by
  rw [Outbox.take] at h
  split at h
  · simp at h
  · next d' rest hrest =>
    obtain ⟨rfl, rfl⟩ : d' = d ∧ _ = o' := by simpa using h
    exact ⟨rest, hrest, rfl⟩

/-- A report goes out, or the limit stops it. -/
theorem begin_cases {origin : Origin} {snapshot : Option Json.Members} {d : Delivery}
    (ht : begin p s origin snapshot d = t) :
    t.outbox = s.outbox ∧ t.counters.sent = s.counters.sent ∧
      t.counters.failed = s.counters.failed ∧
      ((∃ r, IsReportOf p d r ∧ t.courier = .sending r ∧
          t.counters.rateLimited = s.counters.rateLimited) ∨
        t.courier = s.courier ∧ t.counters.rateLimited = s.counters.rateLimited + 1) := by
  subst ht
  cases d with
  | alert a => exact ⟨rfl, rfl, rfl, .inl ⟨a, rfl, rfl, rfl⟩⟩
  | batch b =>
    simp only [begin]
    split
    · exact ⟨rfl, rfl, rfl, .inl ⟨_, ⟨origin, snapshot, rfl⟩, rfl, rfl⟩⟩
    · exact ⟨rfl, rfl, rfl, .inr ⟨rfl, rfl⟩⟩

/-- What the courier takes passes or is counted. -/
theorem Delivered.dispatch (hd : Delivered p h s entered taken passed) {d : Delivery}
    {outbox : Outbox} (hcourier : s.courier = .idle) (htake : s.outbox.take = (some d, outbox))
    {origin : Origin} {snapshot : Option Json.Members}
    (ht : begin p { s with outbox } origin snapshot d = t) :
    ∃ passed', Delivered p (h ++ [⟨s, e, [], t⟩]) t entered (taken ++ [d]) passed' := by
  obtain ⟨rest, hrest, rfl⟩ := take_eq_some htake
  obtain ⟨houtbox, hsent, hfailed, hcase⟩ := begin_cases ht
  have hwaiting : entered = taken ++ [d] ++ t.outbox.waiting := by
    rw [hd.waiting, hrest, houtbox, List.append_assoc]
    rfl
  have hanswered : (reports h).length = t.counters.sent + t.counters.failed := by
    rw [hd.answered, hcourier, hsent, hfailed]
    rfl
  have hread : t.outbox.isRead = true := by
    rw [houtbox]
    exact hd.isRead
  have henters : entered.Sublist (handed (h ++ [⟨s, e, [], t⟩])) := by
    rw [handed_snoc_nil]
    exact hd.enters
  have hdropped : (handed (h ++ [⟨s, e, [], t⟩])).length = entered.length + t.outbox.dropped := by
    rw [handed_snoc_nil, houtbox]
    exact hd.dropped
  -- a report is sent, or the limit is reached and the courier remains idle
  rcases hcase with ⟨r, hr, hsending, hlimited⟩ | ⟨hidle, hlimited⟩
  · have hreports : reports (h ++ [⟨s, e, [], t⟩]) = reports h ++ [r] := by
      rw [reports_snoc, Entry.sent?, hcourier, hsending]
      rfl
    refine ⟨passed ++ [d], hread, henters, hdropped, hwaiting,
      hd.passes.append (List.Sublist.refl _), ?_, ?_, ?_⟩
    · rw [hlimited, List.length_append, List.length_append, hd.limited]
      exact Nat.add_right_comm _ _ _
    · rw [hreports]
      exact List.rel_append hd.sent (.cons hr .nil)
    · rw [hreports, hsending, List.length_append, hanswered]
      rfl
  · have hidle : t.courier = .idle := hidle.trans hcourier
    have hreports : reports (h ++ [⟨s, e, [], t⟩]) = reports h :=
      reports_snoc_of_not_idle fun _ => hidle
    refine ⟨passed, hread, henters, hdropped, hwaiting,
      hd.passes.trans (List.sublist_append_left _ _), ?_, ?_, ?_⟩
    · rw [hlimited, List.length_append, hd.limited]
      rfl
    · rw [hreports]
      exact hd.sent
    · rw [hreports, hidle, hanswered]
      rfl

/-- What the courier does with a report once it has been sent. -/
theorem Delivered.settle (hd : Delivered p h s entered taken passed)
    (hcourier : s.courier ≠ .idle) (houtbox : t.outbox = s.outbox)
    (hlimited : t.counters.rateLimited = s.counters.rateLimited)
    (hanswered : t.counters.sent + t.counters.failed + t.courier.underway =
      s.counters.sent + s.counters.failed + s.courier.underway) :
    Delivered p (h ++ [⟨s, e, [], t⟩]) t entered taken passed := by
  have hreports : reports (h ++ [⟨s, e, [], t⟩]) = reports h :=
    reports_snoc_of_not_idle fun hidle => absurd hidle hcourier
  refine ⟨?_, ?_, ?_, ?_, hd.passes, ?_, ?_, ?_⟩
  · rw [houtbox]
    exact hd.isRead
  · rw [handed_snoc_nil]
    exact hd.enters
  · rw [handed_snoc_nil, houtbox]
    exact hd.dropped
  · rw [houtbox]
    exact hd.waiting
  · rw [hlimited]
    exact hd.limited
  · rw [hreports]
    exact hd.sent
  · rw [hreports, hanswered]
    exact hd.answered

/-- An answer is counted. -/
theorem Delivered.conclude (hd : Delivered p h s entered taken passed) {r : Report}
    (hcourier : s.courier = .sending r) (ok : Bool) :
    Delivered p (h ++ [⟨s, e, [], conclude p s r ok⟩]) (conclude p s r ok)
      entered taken passed := by
  refine hd.settle (by simp [hcourier]) ?_ ?_ ?_
  · cases ok <;> rfl
  · cases ok <;> rfl
  · rw [hcourier, Monitor.conclude]
    cases ok with
    | true =>
      simp only [if_true, Courier.underway]
      omega
    | false =>
      simp only [Bool.false_eq_true, if_false]
      split <;> rfl

/-- **Deliveries go on at every event.** -/
theorem Delivered.snoc (hd : Delivered p h s entered taken passed)
    {x : State × List Delivery} (ht : Turn p s e x) :
    ∃ entered' taken' passed', Delivered p (h ++ [⟨s, e, x.2, x.1.submit x.2⟩])
      (x.1.submit x.2) entered' taken' passed' := by
  cases ht with
  | line lines rest wall line hphase htaken => exact hd.submit sameCourier_takeLineOf
  | ended hreading htaken hends => exact hd.submit sameCourier_endStream
  | interrupted hreading hcancelled he => exact hd.submit ⟨rfl, rfl, rfl, rfl, rfl⟩
  | fired deadline hflusher he => exact hd.submit ⟨rfl, rfl, rfl, rfl, rfl⟩
  | looked patrol origin hpatrol hover he => exact hd.submit sameCourier_lookAfter
  | moved phase hmoves htaken hcall => exact hd.submit ⟨rfl, rfl, rfl, rfl, rfl⟩
  | waited now isCancelled wake flusher patrol hkeeps htaken hcall =>
    exact hd.submit ⟨rfl, rfl, rfl, rfl, rfl⟩
  | dispatched d outbox origin snapshot hcourier htake he =>
    obtain ⟨passed', hd'⟩ := hd.dispatch (e := e) hcourier htake rfl
    exact ⟨entered, taken ++ [d], passed', hd'⟩
  | answered r ok hcourier he => exact ⟨entered, taken, passed, hd.conclude hcourier ok⟩
  | stored r ok hcourier he =>
    exact ⟨entered, taken, passed, hd.settle (by simp [hcourier]) rfl rfl (by rw [hcourier]; rfl)⟩

end Delivering

/-! ### At the end -/

section Stopping

variable {p : Plan} {s t : State} {h : List Entry}

/-- **A monitor winds up in order**: reading stops, then the tasks that close batches, and then the
courier, who leaves nothing behind. -/
structure Orderly (s : State) : Prop where
  /-- When no line will be read again, no batch is open. -/
  isFlushed : s.isDoneReading = true → s.batcher.current = none
  /-- When the outbox is being emptied, nothing will be put into it. -/
  isJoined : s.phase = .draining ∨ s.phase = .stopped → s.tasksHaveStopped = true
  /-- When the monitor has stopped, everything has been delivered. -/
  isDelivered : s.phase = .stopped → s.isDelivered = true

theorem orderly_starting (p : Plan) (now : Moment) : Orderly (State.starting p now) where
  isFlushed h := by simp [State.isDoneReading, State.starting] at h
  isJoined h := by simp [State.starting] at h
  isDelivered h := by simp [State.starting] at h

/-- Before its last phases a monitor need only have flushed its batch. -/
theorem orderly_of_phase (hflushed : t.isDoneReading = true → t.batcher.current = none)
    (hdraining : t.phase ≠ .draining) (hstopped : t.phase ≠ .stopped) : Orderly t :=
  ⟨hflushed, fun h => absurd h (by simp [hdraining, hstopped]), fun h => absurd h hstopped⟩

/-- Order is kept when neither the reader moves nor the batcher does. -/
theorem Orderly.of_eq (ho : Orderly s) (hphase : t.phase = s.phase)
    (hbatcher : t.batcher = s.batcher)
    (htasks : s.tasksHaveStopped = true → t.tasksHaveStopped = true)
    (hdelivered : s.phase = .stopped → t.isDelivered = true) : Orderly t := by
  refine ⟨fun h => ?_, fun h => ?_, fun h => ?_⟩
  · rw [hbatcher]
    refine ho.isFlushed ?_
    rwa [State.isDoneReading, hphase] at h
  · rw [hphase] at h
    exact htasks (ho.isJoined h)
  · rw [hphase] at h
    exact hdelivered h

/-- While a task is at work, the outbox is not yet being emptied. -/
theorem Orderly.phase_ne (ho : Orderly s) (htasks : s.tasksHaveStopped = false) :
    s.phase ≠ .draining ∧ s.phase ≠ .stopped :=
  ⟨fun h => by simp [ho.isJoined (.inl h)] at htasks,
    fun h => by simp [ho.isJoined (.inr h)] at htasks⟩

/-- **Order is kept at every event.** -/
theorem Orderly.snoc (ho : Orderly s) {e : Event} {x : State × List Delivery}
    (ht : Turn p s e x) : Orderly (x.1.submit x.2) := by
  cases ht with
  | line lines rest wall line hphase htaken =>
    have hreading : ((takeLineOf p s wall line rest lines.truncated).1.submit
        (takeLineOf p s wall line rest lines.truncated).2).phase = .reading rest := rfl
    refine orderly_of_phase (fun h => ?_) (by simp [hreading]) (by simp [hreading])
    rw [State.isDoneReading, hreading] at h
    simp at h
  | ended hreading htaken hends =>
    simp only [endStream, flush]
    split <;>
      exact orderly_of_phase (fun _ => rfl) (by simp [State.submit]) (by simp [State.submit])
  | interrupted hreading hcancelled he =>
    exact orderly_of_phase (fun _ => rfl) (by simp [interrupt, flush, State.submit])
      (by simp [interrupt, flush, State.submit])
  | fired deadline hflusher he =>
    obtain ⟨hdraining, hstopped⟩ := ho.phase_ne (by simp [State.tasksHaveStopped, hflusher])
    refine orderly_of_phase (fun h => ?_) hdraining hstopped
    -- the flusher is at work after the last line was read, but finds nothing
    have hnone := ho.isFlushed h
    simp only [fire, Batcher.takeIfStale, State.submit]
    split <;> simp [Batcher.take, hnone]
  | looked patrol origin hpatrol hover he =>
    obtain ⟨hdraining, hstopped⟩ := ho.phase_ne (by simp [State.tasksHaveStopped, hpatrol, hover])
    simp only [lookAfter]
    split <;> exact orderly_of_phase ho.isFlushed hdraining hstopped
  | moved phase hmoves htaken hcall =>
    cases hmoves with
    | opened lines h =>
      exact orderly_of_phase (fun h => by simp [State.isDoneReading, State.submit] at h)
        (by simp [State.submit]) (by simp [State.submit])
    | received before lines h =>
      exact orderly_of_phase (fun h => by simp [State.isDoneReading, State.submit] at h)
        (by simp [State.submit]) (by simp [State.submit])
    | reopened moment h =>
      exact orderly_of_phase (fun h => by simp [State.isDoneReading, State.submit] at h)
        (by simp [State.submit]) (by simp [State.submit])
    | joined hphase hstopped =>
      have hflushed := ho.isFlushed (by rw [State.isDoneReading, hphase])
      -- the tasks have stopped, so the outbox can be emptied
      exact ⟨fun _ => hflushed, fun _ => hstopped, fun h => by simp [State.submit] at h⟩
    | closed hphase hdelivered =>
      have hflushed := ho.isFlushed (by rw [State.isDoneReading, hphase])
      exact ⟨fun _ => hflushed, fun _ => ho.isJoined (.inl hphase), fun _ => hdelivered⟩
  | waited now isCancelled wake flusher patrol hkeeps htaken hcall =>
    refine ho.of_eq rfl rfl (fun h => ?_) ho.isDelivered
    rw [State.tasksHaveStopped, Bool.and_eq_true, decide_eq_true_eq] at h ⊢
    exact ⟨hkeeps.flusherStays h.1, hkeeps.patrolStays h.2⟩
  | dispatched d outbox origin snapshot hcourier htake he =>
    obtain ⟨rest, hrest, -⟩ := take_eq_some htake
    have hstopped : s.phase ≠ .stopped := fun h => by
      have := ho.isDelivered h
      simp [State.isDelivered, hcourier, hrest] at this
    cases d with
    | alert a => exact ho.of_eq rfl rfl id (fun h => absurd h hstopped)
    | batch b =>
      simp only [begin]
      split <;> exact ho.of_eq rfl rfl id (fun h => absurd h hstopped)
  | answered r ok hcourier he =>
    have hstopped : s.phase ≠ .stopped := fun h => by
      have := ho.isDelivered h
      simp [State.isDelivered, hcourier] at this
    cases ok <;> exact ho.of_eq rfl rfl id (fun h => absurd h hstopped)
  | stored r ok hcourier he =>
    have hstopped : s.phase ≠ .stopped := fun h => by
      have := ho.isDelivered h
      simp [State.isDelivered, hcourier] at this
    exact ho.of_eq rfl rfl id (fun h => absurd h hstopped)

end Stopping

/-! ### A whole run -/

section Runs

variable {p : Plan} {now : Moment} {es : List Event} {s : State}

theorem gathered_of_run (hrun : run p (State.starting p now) es = some s) :
    Gathered p now (history p (State.starting p now) es) s :=
  run_induction (Gathered p now) (fun _ _ _ _ _ hg hact => hg.snoc (turn_of_act hact))
    (gathered_starting p now) hrun

theorem exists_delivered_of_run (hrun : run p (State.starting p now) es = some s) :
    ∃ entered taken passed,
      Delivered p (history p (State.starting p now) es) s entered taken passed :=
  run_induction (fun h s => ∃ entered taken passed, Delivered p h s entered taken passed)
    (fun _ _ _ _ _ ⟨_, _, _, hd⟩ hact => hd.snoc (turn_of_act hact))
    ⟨[], [], [], delivered_starting p now⟩ hrun

theorem orderly_of_run (hrun : run p (State.starting p now) es = some s) : Orderly s :=
  run_induction (h := []) (fun _ s => Orderly s)
    (fun _ _ _ _ _ ho hact => ho.snoc (turn_of_act hact)) (orderly_starting p now) hrun

/-- When no batch is open, all lines of interest have been handed over. -/
theorem Gathered.lines_eq {start : Moment} {h : List Entry} (hg : Gathered p start h s)
    (hopen : s.batcher.current = none) :
    (batches (handed h)).flatMap Batch.lines = (arrivals p h).map Batcher.Arrival.line ∧
      ((batches (handed h)).map Batch.lineCount).sum = (arrivals p h).length := by
  -- without an open batch, all lines are in segments
  obtain ⟨segs, tail, hseg⟩ := Batcher.exists_segmented start (calls p h)
  obtain rfl : tail = [] := by
    have := hseg.isOpen
    rwa [hg.batcher, hopen] at this
  have hmembers := hseg.members
  rw [arrivals_calls, List.append_nil] at hmembers
  have hbatches : batches (handed h) = segs.map Batcher.Segment.batch := by
    rw [← hg.closed, hseg.closed, List.map_map]
    rfl
  rw [hbatches, ← hmembers]
  constructor
  · rw [List.flatMap_map, List.map_flatMap]
    exact List.flatMap_congr fun seg hmem => (hseg.made seg hmem).lines
  · rw [List.map_map, List.length_flatMap]
    exact congrArg List.sum (List.map_congr_left fun seg hmem => (hseg.made seg hmem).lineCount)

/-- **A monitor loses nothing and makes nothing up.** Once it has stopped, however its tasks took
turns, whatever its streams held and however they ended, and whatever became of its reports:

* the batches it handed over are made of the lines of interest, each once and in their order;
* none of them was closed without a reason, and none is open;
* the lines of interest that were not passed over are as many as the batches count;
* what it handed over was sent, failed, was stopped by the limit or found the outbox full, and its
  reports are those of what passed, in the order in which that was handed over. -/
theorem run_conserves (hrun : run p (State.starting p now) es = some s)
    (hstop : s.isStopped = true) :
    let h := history p (State.starting p now) es
    (batches (handed h)).flatMap Batch.lines = (arrivals p h).map Batcher.Arrival.line ∧
    (∀ before en after, h = before ++ en :: after → ∀ b ∈ batches en.handed,
      Reason p before en.before en.event b) ∧
    s.batcher.isOpen = false ∧
    s.counters.processed = (h.filterMap fun en => taken? en.before en.event).length ∧
    s.counters.detected =
      s.counters.excluded + ((batches (handed h)).map Batch.lineCount).sum ∧
    s.counters.sent + s.counters.failed + s.counters.rateLimited + s.outbox.dropped =
      (handed h).length ∧
    ∃ entered passed : List Delivery,
      entered.Sublist (handed h) ∧ (handed h).length = entered.length + s.outbox.dropped ∧
      passed.Sublist entered ∧ entered.length = passed.length + s.counters.rateLimited ∧
      List.Forall₂ (IsReportOf p) passed (reports h) ∧
      (reports h).length = s.counters.sent + s.counters.failed := by
  intro h
  have hphase : s.phase = .stopped := by
    rw [State.isStopped] at hstop
    split at hstop
    · assumption
    · simp at hstop
  have ho := orderly_of_run hrun
  have hopen : s.batcher.current = none := ho.isFlushed (by rw [State.isDoneReading, hphase])
  have hg := gathered_of_run hrun
  obtain ⟨hlines, hcount⟩ := hg.lines_eq hopen
  obtain ⟨entered, taken, passed, hd⟩ := exists_delivered_of_run hrun
  have hdelivered := ho.isDelivered hphase
  rw [State.isDelivered] at hdelivered
  split at hdelivered
  · next hcourier =>
    -- nothing waits and nothing is on its way, so all that entered has been taken
    have hwaiting : entered = taken := by
      rw [hd.waiting, List.isEmpty_iff.mp hdelivered, List.append_nil]
    have hanswered : (reports h).length = s.counters.sent + s.counters.failed := by
      rw [hd.answered, hcourier]
      rfl
    have hpassed := hd.sent.length_eq
    have hdropped := hd.dropped
    have hlimited := hd.limited
    refine ⟨hlines, hg.reasons, ?_, hg.processed, ?_, ?_, entered, passed, hd.enters, hdropped,
      hwaiting ▸ hd.passes, hwaiting ▸ hlimited, hd.sent, hanswered⟩
    · rw [Batcher.isOpen, hopen]
      rfl
    · rw [hcount]
      exact hg.detected
    · rw [hwaiting] at hdropped
      change _ = (handed (history p (State.starting p now) es)).length
      change (reports (history p (State.starting p now) es)).length = _ at hanswered
      omega
  · simp at hdelivered

/-- A monitor that reads two lines, of which one is of interest and gets into a report that fails.
-/
theorem run_conserves_two_lines :
    let p : Plan := ⟨"m", .custom ⟨"a", .containing [97]⟩, none, none, none, true, true, 0⟩
    let es : List Event := [.opened, .received [97, 10, 98], .lineTaken ⟨0, 0⟩, .streamEnded ⟨0, 0⟩,
      .streamEnded ⟨0, 0⟩, .flusherLooks, .flusherStops, .joined, .dispatched ⟨"", 0⟩ none,
      .answered false, .stored true, .closed]
    ∃ s, run p (State.starting p 0) es = some s ∧ s.isStopped = true ∧
      (batches (handed (history p (State.starting p 0) es))).flatMap Batch.lines = [[97]] ∧
      (reports (history p (State.starting p 0) es)).length = 1 := by
  intro p es
  obtain ⟨s, hrun, hstop, hfailed, hsent⟩ : ∃ s, run p (State.starting p 0) es = some s ∧
      s.isStopped = true ∧ s.counters.failed = 1 ∧ s.counters.sent = 0 :=
    ⟨_, rfl, rfl, rfl, rfl⟩
  obtain ⟨hlines, -, -, -, -, -, entered, passed, -, -, -, -, -, hreports⟩ :=
    run_conserves hrun hstop
  refine ⟨s, hrun, hstop, hlines, ?_⟩
  rw [hreports, hfailed, hsent]

end Runs

end Monitor

end LogWatch
