import LogWatch.Proofs.Monitor.Conservation

/-!
# No batch stays open for long

The reader opens batches and the flusher closes those that have been quiet. What the two share is
the batcher and a **note**: the reader leaves it when a line opens a batch or replaces one, but not
when a line goes into the batch that is open, and not when it closes a batch without opening
another. So the moment until which the flusher sleeps may be too early, or one of a batch that is
long gone; what it can never be is too late.

That holds as long as nobody dawdles: time passes only when neither of the two has anything to do,
and not beyond the moment for which the flusher is waiting (`LogWatch.Monitor.IsPaced`). The
invariant is `LogWatch.Monitor.Timed`, and `LogWatch.Monitor.Beat` says what an event can do to the
clock, the batcher, the note and the flusher; everything else about a monitor is beside the point.
-/

namespace LogWatch

namespace Monitor

/-! ### Time that passes in rest -/

/-- The event is one that the reader or the flusher takes up by itself: nothing from outside has to
happen first. -/
def Event.isOwn : Event → Bool
  | .lineTaken _ => true
  | .reopened => true
  | .interrupted => true
  | .flusherLooks => true
  | .flusherWakes => true
  | .flusherFires => true
  | .flusherStops => true
  | .joined => true
  | .closed => true
  | _ => false

/-- **Neither the reader nor the flusher can get on with its work.** -/
def IsQuiet (p : Plan) (s : State) : Prop := ∀ e : Event, e.isOwn = true → act p s e = none

/-- **Time passes only in rest**, and not beyond the moment until which the flusher sleeps. -/
def IsPaced (p : Plan) (h : List Entry) : Prop :=
  ∀ en ∈ h, ∀ span, en.event = .elapsed span → IsQuiet p en.before ∧
    ∀ d, en.before.flusher = .sleeping (some d) → en.before.now + span ≤ d

section Quiet

variable {p : Plan} {s : State}

theorem IsPaced.cons {h : List Entry} {en : Entry} (hh : IsPaced p h)
    (hen : ∀ span, en.event = .elapsed span → IsQuiet p en.before ∧
      ∀ d, en.before.flusher = .sleeping (some d) → en.before.now + span ≤ d) :
    IsPaced p (en :: h) :=
  List.forall_mem_cons.mpr ⟨hen, hh⟩

theorem IsQuiet.not_looking (hq : IsQuiet p s) : s.flusher ≠ .looking := by
  intro hlooking
  have := hq .flusherLooks rfl
  rw [act, if_pos hlooking] at this
  simp at this

/-- Somebody would read the note. -/
theorem IsQuiet.wake_eq_false (hq : IsQuiet p s) (hflusher : s.flusher ≠ .stopped) :
    s.wake = false := by
  cases hwake : s.wake with
  | false => rfl
  | true =>
    cases hf : s.flusher with
    | looking => exact absurd hf hq.not_looking
    | stopped => exact absurd hf hflusher
    | sleeping deadline =>
      have := hq .flusherWakes rfl
      simp [act, whileSleeping, hf, hwake] at this

/-- A reader that has been told to stop would turn to the end of its work. -/
theorem IsQuiet.isDoneReading (hq : IsQuiet p s) (hcancelled : s.isCancelled = true) :
    s.isDoneReading = true := by
  cases hdone : s.isDoneReading with
  | true => rfl
  | false =>
    have := hq .interrupted rfl
    simp [act, hcancelled, hdone] at this

end Quiet

/-! ### What the reader and the flusher share -/

/-- The clock, the batcher, the note and the flusher are as they were, and whoever was to stop still
is. -/
structure Undisturbed (s t : State) : Prop where
  now : t.now = s.now
  batcher : t.batcher = s.batcher
  wake : t.wake = s.wake
  flusher : t.flusher = s.flusher
  mayStop : s.tasksMayStop = true → t.tasksMayStop = true

/-- **What an event does to what the reader and the flusher share.** -/
inductive Beat (s : State) (e : Event) (t : State) : Prop
  /-- Nothing. -/
  | undisturbed : Undisturbed s t → Beat s e t
  /-- A line is pushed; a batch that is opened by it comes with the note. -/
  | pushed (batcher : Batcher) (wake : Bool) : batcher.lastActivity = s.now →
      (s.wake = true ∨ s.batcher.isOpen = false → wake = true) →
      Undisturbed { s with batcher, wake } t → Beat s e t
  /-- The reader closes the open batch. -/
  | flushed : Undisturbed { s with batcher := s.batcher.take.1 } t → Beat s e t
  /-- The flusher closes the open batch if it is stale. -/
  | fired : s.flusher ≠ .stopped → Undisturbed { s with
      batcher := (s.batcher.takeIfStale s.now).1, flusher := .looking } t → Beat s e t
  /-- The flusher has looked when the open batch is due. -/
  | looked : s.flusher = .looking →
      Undisturbed { s with flusher := .sleeping s.batcher.flushDeadline } t → Beat s e t
  /-- The flusher has read the note. -/
  | woken : s.wake = true → s.flusher ≠ .stopped →
      Undisturbed { s with wake := false, flusher := .looking } t → Beat s e t
  /-- The flusher stops. -/
  | ceased : s.tasksMayStop = true → Undisturbed { s with flusher := .stopped } t → Beat s e t
  /-- Time passes. -/
  | elapsed (span : Span) : e = .elapsed span → Undisturbed { s with now := s.now + span } t →
      Beat s e t

section Beats

variable {p : Plan} {s t : State} {x : State × List Delivery}

theorem Undisturbed.refl (s : State) : Undisturbed s s := ⟨rfl, rfl, rfl, rfl, id⟩

/-- Before the end of its work a reader that goes on has not been told to stop. -/
theorem mayStop_of_isDoneReading {cancelled : Bool} (hreading : s.isDoneReading = false)
    (hcancelled : s.isCancelled = true → cancelled = true) (ht : t.isCancelled = cancelled) :
    s.tasksMayStop = true → t.tasksMayStop = true := by
  simp only [State.tasksMayStop, hreading, Bool.or_false, Bool.or_eq_true, ht]
  exact fun h => .inl (hcancelled h)

/-- The phase of a reader that is at work does not matter to the others. -/
theorem undisturbed_phase (phase : Phase) (hreading : s.isDoneReading = false) :
    Undisturbed s { s with phase } :=
  ⟨rfl, rfl, rfl, rfl, mayStop_of_isDoneReading hreading id rfl⟩

theorem isCancelled_takeLineOf {wall : WallTime} {line : Bytes} {rest : LineReader}
    {before : Nat} : (takeLineOf p s wall line rest before).1.isCancelled = s.isCancelled := by
  simp only [takeLineOf, takeLine, gather]
  split <;> try split
  all_goals rfl

/-- The note is left when the line opens a batch or replaces one. -/
theorem shared_takeLineOf_of_accepts (wall : WallTime) {line : Bytes} (rest : LineReader)
    (before : Nat) (h : accepts p s line = true) :
    let t := (takeLineOf p s wall line rest before).1
    let pushed := s.batcher.push (p.messageOf line) (p.timestamp? wall line)
      (fun _ => p.metadata line) s.now
    t.now = s.now ∧ t.wake = (s.wake || !s.batcher.isOpen || pushed.2.isSome) ∧
      t.flusher = s.flusher := by
  rw [accepts, Bool.and_eq_true, Bool.not_eq_true'] at h
  obtain ⟨hdetect, hexcludes⟩ := h
  simp [takeLineOf, takeLine, State.countLine, hdetect, hexcludes, gather]

theorem shared_takeLineOf_of_not_accepts (wall : WallTime) {line : Bytes} (rest : LineReader)
    (before : Nat) (h : accepts p s line = false) :
    let t := (takeLineOf p s wall line rest before).1
    t.now = s.now ∧ t.wake = s.wake ∧ t.flusher = s.flusher := by
  rw [accepts] at h
  cases hdetect : (p.detector.detect s.trail s.now line).1 with
  | false => simp [takeLineOf, takeLine, State.countLine, hdetect]
  | true =>
    have hexcludes : p.excludes line = true := by simpa [hdetect] using h
    simp [takeLineOf, takeLine, State.countLine, hdetect, hexcludes]

theorem lastActivity_push {b : Batcher} {line : Bytes} {timestamp : Option LineTimestamp}
    {metadata : Unit → LineMetadata} {now : Moment} :
    (b.push line timestamp metadata now).1.lastActivity = now := by
  cases hb : b.current with
  | none => rw [Batcher.push_of_none hb]
  | some batch =>
    by_cases ha : batch.admits line.length timestamp = true
    · rw [Batcher.push_of_admits hb ha]
    · rw [Batcher.push_of_not_admits hb ha]

theorem beat_of_takeLineOf {e : Event} {lines rest : LineReader} (wall : WallTime) (line : Bytes)
    (before : Nat) (hphase : s.phase = .reading lines) :
    Beat s e (takeLineOf p s wall line rest before).1 := by
  have hmayStop : s.tasksMayStop = true →
      (takeLineOf p s wall line rest before).1.tasksMayStop = true :=
    mayStop_of_isDoneReading (isDoneReading_of_reading hphase) id isCancelled_takeLineOf
  cases hacc : accepts p s line with
  | true =>
    obtain ⟨hnow, hwake, hflusher⟩ := shared_takeLineOf_of_accepts wall rest before hacc
    exact .pushed _ _ lastActivity_push (by rintro (h | h) <;> simp [h])
      ⟨hnow, (takeLineOf_of_accepts wall rest before hacc).1, hwake, hflusher, hmayStop⟩
  | false =>
    obtain ⟨hnow, hwake, hflusher⟩ := shared_takeLineOf_of_not_accepts wall rest before hacc
    exact .undisturbed
      ⟨hnow, (takeLineOf_of_not_accepts wall rest before hacc).1, hwake, hflusher, hmayStop⟩

theorem beat_of_endStream {e : Event} (hreading : s.isDoneReading = false) :
    Beat s e (endStream p s).1 := by
  simp only [endStream, flush]
  split <;>
    exact .flushed ⟨rfl, rfl, rfl, rfl, mayStop_of_isDoneReading hreading id rfl⟩

theorem undisturbed_lookAfter {patrol : Patrol} {origin : Origin} :
    Undisturbed s (lookAfter p s patrol origin).1 := by
  simp only [lookAfter]
  split <;> exact ⟨rfl, rfl, rfl, rfl, id⟩

theorem undisturbed_begin {outbox : Outbox} {origin : Origin} {snapshot : Option Json.Members}
    {d : Delivery} : Undisturbed s (begin p { s with outbox } origin snapshot d) := by
  cases d with
  | alert a => exact ⟨rfl, rfl, rfl, rfl, id⟩
  | batch b =>
    simp only [begin]
    split <;> exact ⟨rfl, rfl, rfl, rfl, id⟩

theorem undisturbed_conclude {r : Report} {ok : Bool} : Undisturbed s (conclude p s r ok) := by
  cases ok <;> exact ⟨rfl, rfl, rfl, rfl, id⟩

/-- **Every event does one of these things to what is shared.** -/
theorem beat_of_act {e : Event} (h : act p s e = some x) : Beat s e x.1 := by
  cases e with
  | opened =>
    obtain ⟨hphase, rfl⟩ := whileOpening_eq_some h
    exact .undisturbed (undisturbed_phase _ (isDoneReading_of_opening hphase))
  | openFailed =>
    obtain ⟨hphase, rfl⟩ := whileOpening_eq_some h
    exact beat_of_endStream (isDoneReading_of_opening hphase)
  | received chunk =>
    obtain ⟨lines, hphase, rfl⟩ := whileReading_eq_some h
    exact .undisturbed (undisturbed_phase _ (isDoneReading_of_reading hphase))
  | streamEnded wall =>
    obtain ⟨lines, hphase, rfl⟩ := whileReading_eq_some h
    rw [finishStream]
    split
    · exact beat_of_takeLineOf wall _ _ hphase
    · exact beat_of_endStream (isDoneReading_of_reading hphase)
  | readFailed =>
    obtain ⟨lines, hphase, rfl⟩ := whileReading_eq_some h
    exact beat_of_endStream (isDoneReading_of_reading hphase)
  | lineTaken wall =>
    obtain ⟨lines, line, rest, hphase, -, rfl⟩ := takeNextLine_eq_some h
    exact beat_of_takeLineOf wall line _ hphase
  | reopened =>
    obtain ⟨moment, hphase, rfl⟩ := reopen_eq_some h
    exact .undisturbed (undisturbed_phase _ (by rw [State.isDoneReading, hphase]))
  | interrupted =>
    rw [act] at h
    split at h
    · obtain rfl := Option.some.inj h
      exact .flushed ⟨rfl, rfl, rfl, rfl, fun _ => by simp [interrupt, State.tasksMayStop,
        State.isDoneReading]⟩
    · simp at h
  | flusherLooks =>
    rw [act] at h
    split at h
    · next hlooking =>
      obtain rfl := Option.some.inj h
      exact .looked hlooking (.refl _)
    · simp at h
  | flusherWakes =>
    obtain ⟨deadline, hflusher, h⟩ := whileSleeping_eq_some h
    split at h
    · next hwake =>
      obtain rfl := Option.some.inj h
      exact .woken hwake (by simp [hflusher]) (.refl _)
    · simp at h
  | flusherFires =>
    obtain ⟨deadline, hflusher, h⟩ := whileSleeping_eq_some h
    split at h
    · obtain rfl := Option.some.inj h
      exact .fired (by simp [hflusher]) (.refl _)
    · simp at h
  | flusherStops =>
    obtain ⟨deadline, hflusher, h⟩ := whileSleeping_eq_some h
    split at h
    · next hstop =>
      obtain rfl := Option.some.inj h
      exact .ceased hstop (.refl _)
    · simp at h
  | patrolLooks origin =>
    rw [act] at h
    split at h
    · split at h
      · obtain rfl := Option.some.inj h
        exact .undisturbed undisturbed_lookAfter
      · simp at h
    · simp at h
  | patrolStops =>
    rw [act] at h
    split at h
    · split at h
      · obtain rfl := Option.some.inj h
        exact .undisturbed ⟨rfl, rfl, rfl, rfl, id⟩
      · simp at h
    · simp at h
  | joined =>
    rw [act] at h
    split at h
    · split at h
      · obtain rfl := Option.some.inj h
        exact .undisturbed ⟨rfl, rfl, rfl, rfl, fun _ => Bool.or_true _⟩
      · simp at h
    · simp at h
  | dispatched origin snapshot =>
    rw [act] at h
    split at h
    · obtain rfl := Option.some.inj h
      exact .undisturbed undisturbed_begin
    · simp at h
  | answered ok =>
    rw [act] at h
    split at h
    · obtain rfl := Option.some.inj h
      exact .undisturbed undisturbed_conclude
    · simp at h
  | stored ok =>
    rw [act] at h
    split at h
    · obtain rfl := Option.some.inj h
      exact .undisturbed ⟨rfl, rfl, rfl, rfl, id⟩
    · simp at h
  | closed =>
    rw [act] at h
    split at h
    · split at h
      · obtain rfl := Option.some.inj h
        exact .undisturbed ⟨rfl, rfl, rfl, rfl, fun _ => Bool.or_true _⟩
      · simp at h
    · simp at h
  | cancelled =>
    obtain rfl := Option.some.inj h
    exact .undisturbed ⟨rfl, rfl, rfl, rfl, fun _ => Bool.true_or _⟩
  | elapsed span =>
    obtain rfl := Option.some.inj h
    exact .elapsed span rfl (.refl _)

end Beats

/-! ### The flusher is in time -/

/-- **The flusher is in time**: it waits for no moment that is too late for the open batch. -/
structure Timed (s : State) : Prop where
  /-- The last line came in the past. -/
  past : s.batcher.lastActivity ≤ s.now
  /-- A batch is open for at most five seconds after its last line. -/
  inTime : s.batcher.isOpen = true → s.now ≤ s.batcher.lastActivity + 5000000000
  /-- The note is read at the moment at which it is left. -/
  noted : s.wake = true → s.flusher ≠ .stopped → s.now = s.batcher.lastActivity
  /-- Where the flusher looks, the batch is not yet stale. -/
  looking : s.flusher = .looking → s.batcher.isOpen = true →
    s.now < s.batcher.lastActivity + 4900000000
  /-- The moment for which the flusher waits has not passed. -/
  armed : ∀ d, s.flusher = .sleeping (some d) → s.now ≤ d
  /-- Without a note the flusher waits for a moment that is early enough. -/
  early : ∀ deadline, s.flusher = .sleeping deadline → s.wake = false →
    s.batcher.isOpen = true → ∃ d, deadline = some d ∧ d ≤ s.batcher.lastActivity + 5000000000
  /-- The flusher stops only when it is to stop. -/
  stopped : s.flusher = .stopped → s.tasksMayStop = true

section InTime

variable {p : Plan} {s t : State}

theorem flushDeadline_of_isOpen {b : Batcher} (hopen : b.isOpen = true) :
    b.flushDeadline = some (b.lastActivity + 5000000000) := by
  obtain ⟨batch, hbatch⟩ := Option.isSome_iff_exists.mp hopen
  rw [Batcher.flushDeadline, hbatch]
  rfl

theorem isOpen_of_flushDeadline {b : Batcher} {d : Moment} (h : b.flushDeadline = some d) :
    b.isOpen = true := by
  obtain ⟨batch, hbatch, -⟩ := Option.map_eq_some_iff.mp h
  exact Option.isSome_iff_exists.mpr ⟨batch, hbatch⟩

theorem isStale_iff {b : Batcher} {now : Moment} :
    b.isStale now = true ↔ 4900000000 ≤ now - b.lastActivity := decide_eq_true_iff

theorem Timed.of_undisturbed (ht : Timed s) (hu : Undisturbed s t) : Timed t := by
  obtain ⟨hnow, hbatcher, hwake, hflusher, hmayStop⟩ := hu
  constructor
  · rw [hbatcher, hnow]
    exact ht.past
  · rw [hbatcher, hnow]
    exact ht.inTime
  · rw [hbatcher, hnow, hwake, hflusher]
    exact ht.noted
  · rw [hbatcher, hnow, hflusher]
    exact ht.looking
  · rw [hnow, hflusher]
    exact ht.armed
  · rw [hbatcher, hwake, hflusher]
    exact ht.early
  · rw [hflusher]
    exact fun h => hmayStop (ht.stopped h)

theorem fresh_of_eq {now last : Moment} (h : now = last) : now < last + 4900000000 := by
  rw [h]
  exact Nat.lt_add_of_pos_right (by decide)

/-- **A line is never too late for the flusher**: it moves the end of the batch away, or comes with
the note. -/
theorem Timed.push (ht : Timed s) {batcher : Batcher} {wake : Bool}
    (hactivity : batcher.lastActivity = s.now)
    (hwake : s.wake = true ∨ s.batcher.isOpen = false → wake = true) :
    Timed { s with batcher, wake } where
  past := Nat.le_of_eq hactivity
  inTime _ := Nat.le_add_right_of_le (Nat.le_of_eq hactivity.symm)
  noted _ _ := hactivity.symm
  looking _ _ := fresh_of_eq hactivity.symm
  armed := ht.armed
  early deadline hflusher hno _ := by
    -- without the note the batch had been open, and its end moves away
    change wake = false at hno
    simp only [hno, Bool.false_eq_true, imp_false, not_or, Bool.not_eq_true,
      Bool.not_eq_false] at hwake
    obtain ⟨d, rfl, hd⟩ := ht.early deadline hflusher hwake.1 hwake.2
    refine ⟨d, rfl, hd.trans (Nat.add_le_add_right ?_ _)⟩
    exact ht.past.trans (Nat.le_of_eq hactivity.symm)
  stopped := ht.stopped

/-- Of a batch that is closed nothing is asked. -/
theorem Timed.close (ht : Timed s) : Timed { s with batcher := s.batcher.take.1 } where
  past := ht.past
  inTime hopen := by simp [Batcher.take, Batcher.isOpen] at hopen
  noted := ht.noted
  looking _ hopen := by simp [Batcher.take, Batcher.isOpen] at hopen
  armed := ht.armed
  early _ _ _ hopen := by simp [Batcher.take, Batcher.isOpen] at hopen
  stopped := ht.stopped

theorem Timed.cease (ht : Timed s) (hstop : s.tasksMayStop = true) :
    Timed { s with flusher := .stopped } where
  past := ht.past
  inTime := ht.inTime
  noted _ h := absurd rfl h
  looking h := by simp at h
  armed _ h := by simp at h
  early _ h := by simp at h
  stopped _ := hstop

/-- A flusher that finds the batch fresh will look again. -/
theorem Timed.lookAgain (ht : Timed s) {wake : Bool} (hwake : wake = true → s.wake = true)
    (hflusher : s.flusher ≠ .stopped)
    (hfresh : s.batcher.isOpen = true → s.now < s.batcher.lastActivity + 4900000000) :
    Timed { s with wake, flusher := .looking } where
  past := ht.past
  inTime := ht.inTime
  noted h _ := ht.noted (hwake h) hflusher
  looking _ := hfresh
  armed _ h := by simp at h
  early _ h := by simp at h
  stopped h := by simp at h

/-- **Where the flusher looks, it finds a moment that is to come.** -/
theorem Timed.lt_of_flushDeadline (ht : Timed s) (hlooking : s.flusher = .looking) {d : Moment}
    (hd : s.batcher.flushDeadline = some d) : s.now < d := by
  have hopen := isOpen_of_flushDeadline hd
  rw [flushDeadline_of_isOpen hopen] at hd
  rw [← Option.some.inj hd]
  exact (ht.looking hlooking hopen).trans (Nat.add_lt_add_left (by decide) _)

theorem Timed.look (ht : Timed s) (hlooking : s.flusher = .looking) :
    Timed { s with flusher := .sleeping s.batcher.flushDeadline } where
  past := ht.past
  inTime := ht.inTime
  noted h _ := ht.noted h (by simp [hlooking])
  looking h := by simp at h
  armed d h := Nat.le_of_lt (ht.lt_of_flushDeadline hlooking (by simpa using h))
  early deadline h _ hopen := by
    rw [Flusher.sleeping.injEq, flushDeadline_of_isOpen hopen] at h
    exact ⟨_, h.symm, Nat.le_refl _⟩
  stopped h := by simp at h

/-- **In rest an open batch has a flusher that waits for it**, and not for too long. -/
theorem Timed.exists_deadline (ht : Timed s) (ho : Orderly s) (hq : IsQuiet p s)
    (hopen : s.batcher.isOpen = true) :
    ∃ d, s.flusher = .sleeping (some d) ∧ s.now ≤ d ∧
      d ≤ s.batcher.lastActivity + 5000000000 := by
  -- a flusher that has stopped leaves the batch to a reader that has been told to stop as well
  have hstopped : s.flusher ≠ .stopped := by
    intro hstopped
    have hdone : s.isDoneReading = true := by
      have := ht.stopped hstopped
      rw [State.tasksMayStop, Bool.or_eq_true] at this
      exact this.elim hq.isDoneReading id
    simp [Batcher.isOpen, ho.isFlushed hdone] at hopen
  cases hflusher : s.flusher with
  | looking => exact absurd hflusher hq.not_looking
  | stopped => exact absurd hflusher hstopped
  | sleeping deadline =>
    obtain ⟨d, rfl, hd⟩ := ht.early deadline hflusher (hq.wake_eq_false hstopped) hopen
    exact ⟨d, rfl, ht.armed d hflusher, hd⟩

/-- **Time that passes in rest does no harm.** -/
theorem Timed.elapse (ht : Timed s) (ho : Orderly s) {span : Span} (hq : IsQuiet p s)
    (hpaced : ∀ d, s.flusher = .sleeping (some d) → s.now + span ≤ d) :
    Timed { s with now := s.now + span } where
  past := Nat.le_add_right_of_le ht.past
  inTime hopen := by
    obtain ⟨d, hflusher, -, hd⟩ := ht.exists_deadline ho hq hopen
    exact (hpaced d hflusher).trans hd
  noted hwake hflusher := absurd hwake (by simp [hq.wake_eq_false hflusher])
  looking h := absurd h hq.not_looking
  armed := hpaced
  early := ht.early
  stopped := ht.stopped

/-- **The flusher remains in time at every event.** -/
theorem Timed.snoc (ht : Timed s) (ho : Orderly s) {e : Event} (hb : Beat s e t)
    (hpaced : ∀ span, e = .elapsed span → IsQuiet p s ∧
      ∀ d, s.flusher = .sleeping (some d) → s.now + span ≤ d) : Timed t := by
  cases hb with
  | undisturbed hu => exact ht.of_undisturbed hu
  | pushed batcher wake hactivity hwake hu => exact (ht.push hactivity hwake).of_undisturbed hu
  | flushed hu => exact ht.close.of_undisturbed hu
  | fired hflusher hu =>
    refine Timed.of_undisturbed ?_ hu
    rw [Batcher.takeIfStale]
    split
    · exact ht.close.lookAgain id hflusher (fun hopen => absurd hopen Bool.false_ne_true)
    · next hfresh =>
      rw [isStale_iff, Nat.not_le, Nat.sub_lt_iff_lt_add' ht.past] at hfresh
      exact ht.lookAgain id hflusher (fun _ => hfresh)
  | looked hlooking hu => exact (ht.look hlooking).of_undisturbed hu
  | woken hwake hflusher hu =>
    have hfresh := fresh_of_eq (ht.noted hwake hflusher)
    exact (ht.lookAgain (fun _ => hwake) hflusher (fun _ => hfresh)).of_undisturbed hu
  | ceased hstop hu => exact (ht.cease hstop).of_undisturbed hu
  | elapsed span he hu =>
    obtain ⟨hq, hd⟩ := hpaced span he
    exact (ht.elapse ho hq hd).of_undisturbed hu

end InTime

/-! ### What the flusher does -/

section Firing

variable {p : Plan} {s : State} {x : State × List Delivery}

end Firing

/-! ### A whole run -/

section Runs

variable {p : Plan} {now : Moment} {es : List Event} {s : State}

end Runs

end Monitor

end LogWatch
