import LogWatch.LineReader
import LogWatch.Monitor.Plan
import LogWatch.Outbox
import LogWatch.RateLimiter
import LogWatch.Time.Ticker
import LogWatch.Watchdog

/-!
# A monitor at work

Four tasks work for a monitor. The **reader** opens the source, judges its lines and gathers them in
batches. The **flusher** closes a batch that has been quiet for long enough. The **patrol** tells
when the source falls silent and when it resumes. The **courier** takes what the others put into the
outbox and delivers it.

The state of a monitor holds where each task stands, and what they share: the clock, the batcher,
the outbox, and the note to the flusher that a batch has been opened.
-/

namespace LogWatch

namespace Monitor

/-- What has been counted. -/
structure Counters where
  /-- Lines read. -/
  processed : Nat := 0
  /-- Lines of interest. -/
  detected : Nat := 0
  /-- Lines of interest that were passed over. -/
  excluded : Nat := 0
  /-- Lines that were cut. -/
  truncated : Nat := 0
  /-- Alerts that the source fell silent. -/
  inactivity : Nat := 0
  /-- Streams that ended and were not the last. -/
  restarts : Nat := 0
  /-- Reports delivered. -/
  sent : Nat := 0
  /-- Reports whose delivery failed. -/
  failed : Nat := 0
  /-- Batches beyond the limit of their window. -/
  rateLimited : Nat := 0
  /-- When the last line was read, by the wall clock. -/
  lastActivity : Option Float := none

/-- Where the reader stands. -/
inductive Phase
  /-- The source is being opened. -/
  | opening
  /-- A stream is being read. -/
  | reading (lines : LineReader)
  /-- A stream has ended; the source is opened again at that moment. -/
  | pausing (reopening : Moment)
  /-- No stream will be read again; the flusher and the patrol are to stop. -/
  | joining
  /-- Nothing will be put into the outbox again; the courier empties it. -/
  | draining
  /-- The source is closed. -/
  | stopped

/-- Where the flusher stands. -/
inductive Flusher
  /-- It is about to look when the open batch is due. -/
  | looking
  /-- It sleeps until that moment, or until it is woken. -/
  | sleeping (deadline : Option Moment)
  /-- It has stopped. -/
  | stopped
  deriving DecidableEq

/-- The patrol of a source. -/
structure Patrol where
  /-- Knows when the last line was read. -/
  watchdog : Watchdog
  /-- When it is looked after. -/
  ticker : Ticker
  /-- The patrol has stopped. -/
  isOver : Bool

/-- Where the courier stands. -/
inductive Courier
  /-- It waits for something in the outbox. -/
  | idle
  /-- The report is on its way to the receiver. -/
  | sending (r : Report)
  /-- The report did not arrive and is being kept for another attempt. -/
  | storing (r : Report)

/-- The state of a monitor. -/
structure State where
  /-- The clock. -/
  now : Moment
  /-- The monitor has been told to stop. -/
  isCancelled : Bool
  /-- Where the reader stands. -/
  phase : Phase
  /-- What the detector remembers. -/
  trail : Option KernelTrail
  /-- Holds the open batch. -/
  batcher : Batcher
  /-- The flusher has been told to look again. -/
  wake : Bool
  /-- Where the flusher stands. -/
  flusher : Flusher
  /-- The patrol, if silence matters. -/
  patrol : Option Patrol
  /-- What waits for delivery. -/
  outbox : Outbox
  /-- Limits the reports of batches. -/
  limiter : Option RateLimiter
  /-- Where the courier stands. -/
  courier : Courier
  /-- What has been counted. -/
  counters : Counters

/-- A patrol that begins at `now`. -/
def Patrol.starting (now : Moment) (threshold : Span) : Patrol :=
  let watchdog := Watchdog.new threshold now
  ⟨watchdog, Ticker.startingAt now watchdog.period, false⟩

/-- The state of a monitor that begins its work at `now`. -/
def State.starting (p : Plan) (now : Moment) : State where
  now := now
  isCancelled := false
  phase := .opening
  trail := none
  batcher := Batcher.new now
  wake := false
  flusher := .looking
  patrol := p.inactivity.map (Patrol.starting now)
  outbox := Outbox.new Outbox.standardCapacity
  limiter := p.rateLimit.map fun (limit, window) => RateLimiter.new limit window
  courier := .idle
  counters := {}

namespace State

/-- No stream will be read again. -/
def isDoneReading (s : State) : Bool :=
  match s.phase with
  | .joining => true
  | .draining => true
  | .stopped => true
  | _ => false

/-- The flusher and the patrol are to stop. -/
def tasksMayStop (s : State) : Bool := s.isCancelled || s.isDoneReading

/-- The flusher and the patrol have stopped. -/
def tasksHaveStopped (s : State) : Bool :=
  decide (s.flusher = .stopped) && s.patrol.all fun patrol => patrol.isOver

/-- Nothing waits for delivery or is being delivered. -/
def isDelivered (s : State) : Bool :=
  match s.courier with
  | .idle => s.outbox.waiting.isEmpty
  | _ => false

/-- The monitor has stopped. -/
def isStopped (s : State) : Bool :=
  match s.phase with
  | .stopped => true
  | _ => false

/-- What has been counted, by name. -/
def tally (s : State) : List (String × Nat) := [
  ("processed", s.counters.processed), ("detected", s.counters.detected),
  ("excluded", s.counters.excluded), ("truncated", s.counters.truncated),
  ("inactivity", s.counters.inactivity), ("restarts", s.counters.restarts),
  ("sent", s.counters.sent), ("failed", s.counters.failed),
  ("rate_limited", s.counters.rateLimited), ("dropped", s.outbox.dropped)]

/-- The alarm about a silent source is raised; nothing if silence does not matter. -/
def isAlerted? (s : State) : Option Bool := s.patrol.map fun patrol => patrol.watchdog.alerted

end State

end Monitor

end LogWatch
