import LogWatch.Monitor.Action
import LogWatch.Proofs.Batching

/-!
# The history of a run

What a monitor has done cannot be read off the state it has reached: batches go into the outbox and
leave it again. The **history** of a run keeps them, as a list with an entry for each event – the
state before it, what it handed over for delivery, and the state after it
(`LogWatch.Monitor.history`). Nothing in it is made up beside the run: an entry holds what
`LogWatch.Monitor.act` says.

An invariant of runs is a statement about a history and the state it leads to. It need only be shown
to survive one more event (`LogWatch.Monitor.run_induction`), and of events there are many, but few
do anything that matters: `LogWatch.Monitor.turn_of_act` sorts them by what they do.
-/

namespace LogWatch

namespace Monitor

/-! ### Histories -/

/-- One event of a run. -/
structure Entry where
  /-- The state before the event. -/
  before : State
  /-- The event. -/
  event : Event
  /-- What it handed over for delivery. -/
  handed : List Delivery
  /-- The state after the event. -/
  after : State

/-- The events of a run, each with what it did. -/
def history (p : Plan) : State → List Event → List Entry
  | _, [] => []
  | s, e :: es =>
    match act p s e with
    | some (s', ds) => ⟨s, e, ds, s'.submit ds⟩ :: history p (s'.submit ds) es
    | none => []

/-- All that was handed over for delivery. -/
def handed (h : List Entry) : List Delivery := h.flatMap Entry.handed

theorem handed_snoc (h : List Entry) (en : Entry) :
    handed (h ++ [en]) = handed h ++ en.handed := by
  simp [handed]

theorem step_eq_some {p : Plan} {s t : State} {e : Event} (h : step p s e = some t) :
    ∃ s' ds, act p s e = some (s', ds) ∧ s'.submit ds = t := by
  obtain ⟨⟨s', ds⟩, hact, ht⟩ := Option.map_eq_some_iff.mp h
  exact ⟨s', ds, hact, ht⟩

/-- **Induction along a run**: what holds before it and survives every event holds after it. -/
theorem run_induction {p : Plan} (motive : List Entry → State → Prop)
    (hstep : ∀ h s e s' ds, motive h s → act p s e = some (s', ds) →
      motive (h ++ [⟨s, e, ds, s'.submit ds⟩]) (s'.submit ds))
    {es : List Event} {h : List Entry} {s t : State} (hs : motive h s)
    (hrun : run p s es = some t) : motive (h ++ history p s es) t := by
  induction es generalizing h s with
  | nil =>
    obtain rfl : s = t := Option.some.inj hrun
    simpa [history] using hs
  | cons e es ih =>
    rw [run] at hrun
    cases hact : step p s e with
    | none => simp [hact] at hrun
    | some u =>
      rw [hact] at hrun
      obtain ⟨s', ds, hs', rfl⟩ := step_eq_some hact
      have := ih (hstep h s e s' ds hs hs') hrun
      rw [history, hs']
      simpa using this

/-- The line that the reader takes in at an event, with the time of the wall clock. -/
def taken? (s : State) : Event → Option (WallTime × Bytes)
  | .lineTaken wall =>
    match s.phase with
    | .reading lines => lines.next?.1.map fun line => (wall, line)
    | _ => none
  | .streamEnded wall =>
    match s.phase with
    | .reading lines => lines.next?.2.finish.1.map fun line => (wall, line)
    | _ => none
  | _ => none

/-- The event ends a stream, or finds that none can be opened. -/
def Event.endsStream : Event → Bool
  | .openFailed => true
  | .streamEnded _ => true
  | .readFailed => true
  | _ => false

/-- The line is one of those that go into a batch. -/
def accepts (p : Plan) (s : State) (line : Bytes) : Bool :=
  (p.detector.detect s.trail s.now line).1 && !p.excludes line

/-- A line as it is pushed. -/
def arrival (p : Plan) (s : State) (wall : WallTime) (line : Bytes) : Batcher.Arrival where
  line := p.messageOf line
  timestamp := p.timestamp? wall line
  metadata := p.metadata line
  now := s.now

/-- The line of interest that the reader takes in at an event. -/
def arrival? (p : Plan) (s : State) (e : Event) : Option Batcher.Arrival :=
  match taken? s e with
  | some (wall, line) => if accepts p s line then some (arrival p s wall line) else none
  | none => none

/-- How an event that takes in no line closes the open batch, if it does. -/
def closing? (s : State) : Event → Option Batcher.Call
  | .openFailed => some .take
  | .streamEnded _ => some .take
  | .readFailed => some .take
  | .interrupted => some .take
  | .flusherFires => some (.takeIfStale s.now)
  | _ => none

/-- What an event does to the batcher. -/
def call? (p : Plan) (s : State) (e : Event) : Option Batcher.Call :=
  match taken? s e with
  | some _ => (arrival? p s e).map .push
  | none => closing? s e

/-- The reader may go from one of these phases to the other without touching a line. -/
inductive Moves (s : State) : Phase → Prop
  /-- A stream is opened. -/
  | opened (lines : LineReader) : s.phase = .opening → Moves s (.reading lines)
  /-- More of the stream is read. -/
  | received (before lines : LineReader) : s.phase = .reading before → Moves s (.reading lines)
  /-- The source is opened again. -/
  | reopened (moment : Moment) : s.phase = .pausing moment → Moves s .opening
  /-- The other tasks have stopped. -/
  | joined : s.phase = .joining → s.tasksHaveStopped = true → Moves s .draining
  /-- All has been delivered. -/
  | closed : s.phase = .draining → s.isDelivered = true → Moves s .stopped

/-- The time between two looks of a patrol, if there is one. -/
def pace? (patrol : Option Patrol) : Option Span := patrol.map fun patrol => patrol.ticker.period

/-- A task that has stopped remains so, and the patrol keeps its pace. -/
structure Keeps (s : State) (flusher : Flusher) (patrol : Option Patrol) : Prop where
  /-- The flusher has not begun again. -/
  flusherStays : s.flusher = .stopped → flusher = .stopped
  /-- Nor has the patrol. -/
  patrolStays : s.patrol.all (fun patrol => patrol.isOver) = true →
    patrol.all (fun patrol => patrol.isOver) = true
  /-- The patrol looks as often as before. -/
  pace : pace? patrol = pace? s.patrol

/-- **What an event does**: events that do the same are one case. -/
inductive Turn (p : Plan) (s : State) (e : Event) : State × List Delivery → Prop
  /-- The reader takes in a line. -/
  | line (lines rest : LineReader) (wall : WallTime) (line : Bytes) :
      s.phase = .reading lines → taken? s e = some (wall, line) →
      Turn p s e (takeLineOf p s wall line rest lines.truncated)
  /-- A stream ends. -/
  | ended : s.isDoneReading = false → taken? s e = none → e.endsStream = true →
      Turn p s e (endStream p s)
  /-- The reader turns to the end of its work. -/
  | interrupted : s.isDoneReading = false → s.isCancelled = true → e = .interrupted →
      Turn p s e (interrupt s)
  /-- The flusher looks for a stale batch. -/
  | fired (deadline : Option Moment) : s.flusher = .sleeping deadline → e = .flusherFires →
      Turn p s e (fire s)
  /-- The patrol looks after the source. -/
  | looked (patrol : Patrol) (origin : Origin) :
      s.patrol = some patrol → patrol.isOver = false → e = .patrolLooks origin →
      Turn p s e (lookAfter p s patrol origin)
  /-- The reader moves on. -/
  | moved (phase : Phase) : Moves s phase → taken? s e = none → call? p s e = none →
      Turn p s e ({ s with phase }, [])
  /-- Another task moves on, the monitor is told to stop, or time passes. -/
  | waited (now : Moment) (isCancelled wake : Bool) (flusher : Flusher) (patrol : Option Patrol) :
      Keeps s flusher patrol → taken? s e = none → call? p s e = none →
      Turn p s e ({ s with now, isCancelled, wake, flusher, patrol }, [])
  /-- The courier takes a delivery. -/
  | dispatched (d : Delivery) (outbox : Outbox) (origin : Origin)
      (snapshot : Option Json.Members) :
      s.courier = .idle → s.outbox.take = (some d, outbox) → e = .dispatched origin snapshot →
      Turn p s e (begin p { s with outbox } origin snapshot d, [])
  /-- The courier learns what has become of a report. -/
  | answered (r : Report) (ok : Bool) : s.courier = .sending r → e = .answered ok →
      Turn p s e (conclude p s r ok, [])
  /-- The courier is done with a report that had failed. -/
  | stored (r : Report) (ok : Bool) : s.courier = .storing r → e = .stored ok →
      Turn p s e ({ s with courier := .idle }, [])

/-! ### The case of each event -/

section Turns

variable {p : Plan} {s : State} {x : State × List Delivery}

theorem whileOpening_eq_some {outcome : State × List Delivery}
    (h : whileOpening s outcome = some x) : s.phase = .opening ∧ outcome = x := by
  rw [whileOpening] at h
  split at h
  · next hphase =>
    split at h
    · simp at h
    · exact ⟨hphase, Option.some.inj h⟩
  · simp at h

theorem whileReading_eq_some {outcome : LineReader → State × List Delivery}
    (h : whileReading s outcome = some x) :
    ∃ lines, s.phase = .reading lines ∧ outcome lines = x := by
  rw [whileReading] at h
  split at h
  · next lines hphase =>
    split at h
    · exact ⟨lines, hphase, Option.some.inj h⟩
    · simp at h
  · simp at h

theorem whileSleeping_eq_some {outcome : Option Moment → Option (State × List Delivery)}
    (h : whileSleeping s outcome = some x) :
    ∃ deadline, s.flusher = .sleeping deadline ∧ outcome deadline = some x := by
  rw [whileSleeping] at h
  split at h
  · next deadline hflusher => exact ⟨deadline, hflusher, h⟩
  · simp at h

theorem isDoneReading_of_opening (h : s.phase = .opening) : s.isDoneReading = false := by
  rw [State.isDoneReading, h]

theorem isDoneReading_of_reading {lines : LineReader} (h : s.phase = .reading lines) :
    s.isDoneReading = false := by
  rw [State.isDoneReading, h]

/-- At the end of its octets a stream has one more line or is over. -/
theorem turn_of_finishStream {lines : LineReader} (wall : WallTime)
    (hphase : s.phase = .reading lines) :
    Turn p s (.streamEnded wall) (finishStream p s wall lines) := by
  have htaken : taken? s (.streamEnded wall) =
      lines.next?.2.finish.1.map fun line => (wall, line) := by
    rw [taken?, hphase]
  rw [finishStream]
  split
  · next line rest hfinish =>
    exact .line lines rest wall line hphase (by rw [htaken, hfinish]; rfl)
  · next rest hfinish =>
    exact .ended (isDoneReading_of_reading hphase) (by rw [htaken, hfinish]; rfl) rfl

theorem takeNextLine_eq_some {wall : WallTime} (h : takeNextLine p s wall = some x) :
    ∃ lines line rest, s.phase = .reading lines ∧ lines.next? = (some line, rest) ∧
      takeLineOf p s wall line rest lines.truncated = x := by
  rw [takeNextLine] at h
  split at h
  · next lines hphase =>
    split at h
    · simp at h
    · split at h
      · next line rest hnext => exact ⟨lines, line, rest, hphase, hnext, Option.some.inj h⟩
      · simp at h
  · simp at h

theorem turn_of_takeNextLine {wall : WallTime} (h : takeNextLine p s wall = some x) :
    Turn p s (.lineTaken wall) x := by
  obtain ⟨lines, line, rest, hphase, hnext, rfl⟩ := takeNextLine_eq_some h
  exact .line lines rest wall line hphase (by rw [taken?, hphase]; simp [hnext])

theorem reopen_eq_some (h : reopen s = some x) :
    ∃ moment, s.phase = .pausing moment ∧ ({ s with phase := .opening }, []) = x := by
  rw [reopen] at h
  split at h
  · next moment hphase =>
    split at h
    · exact ⟨moment, hphase, Option.some.inj h⟩
    · simp at h
  · simp at h

theorem turn_of_reopen (h : reopen s = some x) : Turn p s .reopened x := by
  obtain ⟨moment, hphase, rfl⟩ := reopen_eq_some h
  exact .moved .opening (.reopened moment hphase) rfl rfl

/-- A flusher that moves on has stopped only if it had. -/
theorem keeps_flusher {flusher : Flusher} (h : s.flusher ≠ .stopped) :
    Keeps s flusher s.patrol :=
  ⟨fun hstopped => absurd hstopped h, id, rfl⟩

theorem turn_of_flusherLooks (h : act p s .flusherLooks = some x) : Turn p s .flusherLooks x := by
  rw [act] at h
  split at h
  · next hflusher =>
    obtain rfl := Option.some.inj h
    exact .waited _ _ _ _ _ (keeps_flusher (by rw [hflusher]; simp)) rfl rfl
  · simp at h

theorem turn_of_flusherWakes (h : act p s .flusherWakes = some x) : Turn p s .flusherWakes x := by
  obtain ⟨deadline, hflusher, h⟩ := whileSleeping_eq_some h
  split at h
  · obtain rfl := Option.some.inj h
    exact .waited _ _ _ _ _ (keeps_flusher (by rw [hflusher]; simp)) rfl rfl
  · simp at h

theorem turn_of_flusherFires (h : act p s .flusherFires = some x) : Turn p s .flusherFires x := by
  obtain ⟨deadline, hflusher, h⟩ := whileSleeping_eq_some h
  split at h
  · obtain rfl := Option.some.inj h
    exact .fired deadline hflusher rfl
  · simp at h

theorem turn_of_flusherStops (h : act p s .flusherStops = some x) : Turn p s .flusherStops x := by
  obtain ⟨deadline, hflusher, h⟩ := whileSleeping_eq_some h
  split at h
  · obtain rfl := Option.some.inj h
    exact .waited _ _ _ _ _ (keeps_flusher (by rw [hflusher]; simp)) rfl rfl
  · simp at h

theorem turn_of_patrolLooks {origin : Origin} (h : act p s (.patrolLooks origin) = some x) :
    Turn p s (.patrolLooks origin) x := by
  rw [act] at h
  split at h
  · next patrol hpatrol =>
    split at h
    · next hlooks =>
      obtain rfl := Option.some.inj h
      exact .looked patrol origin hpatrol (by simp at hlooks; exact hlooks.1) rfl
    · simp at h
  · simp at h

theorem turn_of_patrolStops (h : act p s .patrolStops = some x) : Turn p s .patrolStops x := by
  rw [act] at h
  split at h
  · next patrol hpatrol =>
    split at h
    · obtain rfl := Option.some.inj h
      exact .waited _ _ _ _ _ ⟨id, fun _ => rfl, by rw [hpatrol]; rfl⟩ rfl rfl
    · simp at h
  · simp at h

theorem turn_of_joined (h : act p s .joined = some x) : Turn p s .joined x := by
  rw [act] at h
  split at h
  · next hphase =>
    split at h
    · next hstopped =>
      obtain rfl := Option.some.inj h
      exact .moved .draining (.joined hphase hstopped) rfl rfl
    · simp at h
  · simp at h

theorem turn_of_closed (h : act p s .closed = some x) : Turn p s .closed x := by
  rw [act] at h
  split at h
  · next hphase =>
    split at h
    · next hdelivered =>
      obtain rfl := Option.some.inj h
      exact .moved .stopped (.closed hphase hdelivered) rfl rfl
    · simp at h
  · simp at h

theorem turn_of_dispatched {origin : Origin} {snapshot : Option Json.Members}
    (h : act p s (.dispatched origin snapshot) = some x) :
    Turn p s (.dispatched origin snapshot) x := by
  rw [act] at h
  split at h
  · next d outbox hcourier htake =>
    obtain rfl := Option.some.inj h
    exact .dispatched d outbox origin snapshot hcourier htake rfl
  · simp at h

theorem turn_of_answered {ok : Bool} (h : act p s (.answered ok) = some x) :
    Turn p s (.answered ok) x := by
  rw [act] at h
  split at h
  · next r hcourier =>
    obtain rfl := Option.some.inj h
    exact .answered r ok hcourier rfl
  · simp at h

theorem turn_of_stored {ok : Bool} (h : act p s (.stored ok) = some x) :
    Turn p s (.stored ok) x := by
  rw [act] at h
  split at h
  · next r hcourier =>
    obtain rfl := Option.some.inj h
    exact .stored r ok hcourier rfl
  · simp at h

theorem turn_of_interrupted (h : act p s .interrupted = some x) : Turn p s .interrupted x := by
  rw [act] at h
  split at h
  · next hinterrupted =>
    rw [Bool.and_eq_true, Bool.not_eq_true'] at hinterrupted
    obtain rfl := Option.some.inj h
    exact .interrupted hinterrupted.2 hinterrupted.1 rfl
  · simp at h

/-- **Every event does one of these things.** -/
theorem turn_of_act {e : Event} (h : act p s e = some x) : Turn p s e x := by
  cases e with
  | opened =>
    obtain ⟨hphase, rfl⟩ := whileOpening_eq_some h
    exact .moved _ (.opened _ hphase) rfl rfl
  | openFailed =>
    obtain ⟨hphase, rfl⟩ := whileOpening_eq_some h
    exact .ended (isDoneReading_of_opening hphase) rfl rfl
  | received chunk =>
    obtain ⟨lines, hphase, rfl⟩ := whileReading_eq_some h
    exact .moved _ (.received lines _ hphase) rfl rfl
  | streamEnded wall =>
    obtain ⟨lines, hphase, rfl⟩ := whileReading_eq_some h
    exact turn_of_finishStream wall hphase
  | readFailed =>
    obtain ⟨lines, hphase, rfl⟩ := whileReading_eq_some h
    exact .ended (isDoneReading_of_reading hphase) rfl rfl
  | lineTaken wall => exact turn_of_takeNextLine h
  | reopened => exact turn_of_reopen h
  | interrupted => exact turn_of_interrupted h
  | flusherLooks => exact turn_of_flusherLooks h
  | flusherWakes => exact turn_of_flusherWakes h
  | flusherFires => exact turn_of_flusherFires h
  | flusherStops => exact turn_of_flusherStops h
  | patrolLooks origin => exact turn_of_patrolLooks h
  | patrolStops => exact turn_of_patrolStops h
  | joined => exact turn_of_joined h
  | dispatched origin snapshot => exact turn_of_dispatched h
  | answered ok => exact turn_of_answered h
  | stored ok => exact turn_of_stored h
  | closed => exact turn_of_closed h
  | cancelled =>
    obtain rfl := Option.some.inj h
    exact .waited _ _ _ _ _ ⟨id, id, rfl⟩ rfl rfl
  | elapsed span =>
    obtain rfl := Option.some.inj h
    exact .waited _ _ _ _ _ ⟨id, id, rfl⟩ rfl rfl

end Turns

end Monitor

end LogWatch
