import LogWatch.Monitor.State

/-!
# What a monitor does

A monitor moves by **events**: a task gets on with its work, or the world around does something. An
event takes place only where its task can take it, and any task that can move may move next; how
fast time passes in between is left open.

**`Monitor.act`** gives the state after an event with what the event hands over for delivery;
**`Monitor.step`** puts that into the outbox.

## What is one event

An event is not interrupted. Where a batch is closed, taking it out of the batcher and putting it
into the outbox are one event, and so are a check of the watchdog and the alert that it leads to.
This holds for tasks on one thread, since none of them waits in between. It is not the lock of the
batcher that holds the two steps together: the lock is released before the batch is put into the
outbox, so where tasks run on several threads another one may come in between.
-/

namespace LogWatch

namespace Monitor

/-- Something that happens to a monitor. -/
inductive Event
  /-- The source has been opened. -/
  | opened
  /-- The source could not be opened. -/
  | openFailed
  /-- Octets have been read. -/
  | received (chunk : Bytes)
  /-- The stream has no more octets; a line that is still open is taken in at that time of the wall
  clock. -/
  | streamEnded (wall : WallTime)
  /-- The stream could not be read. -/
  | readFailed
  /-- The reader takes in the next line, at that time of the wall clock. -/
  | lineTaken (wall : WallTime)
  /-- The reader opens the source again. -/
  | reopened
  /-- The reader finds that the monitor has been told to stop. -/
  | interrupted
  /-- The flusher looks when the open batch is due. -/
  | flusherLooks
  /-- The flusher is woken by the note. -/
  | flusherWakes
  /-- The flusher finds that the moment has come. -/
  | flusherFires
  /-- The flusher stops. -/
  | flusherStops
  /-- The patrol looks after the source; an alert would have that origin. -/
  | patrolLooks (origin : Origin)
  /-- The patrol stops. -/
  | patrolStops
  /-- The reader has seen the flusher and the patrol stop. -/
  | joined
  /-- The courier takes the next delivery; a report made of it would have that origin and hold
  that state of the host. -/
  | dispatched (origin : Origin) (snapshot : Option Json.Members)
  /-- The receiver has taken the report, or has not. -/
  | answered (ok : Bool)
  /-- The report has been kept for another attempt, or could not be. -/
  | stored (ok : Bool)
  /-- The source is closed, after everything has been delivered. -/
  | closed
  /-- The monitor is told to stop. -/
  | cancelled
  /-- Time passes. -/
  | elapsed (span : Span)

/-! ### The reader -/

/-- The state after a line has been read, without a look at what it says. -/
def State.countLine (s : State) (wall : WallTime) : State :=
  { s with
    patrol := s.patrol.map fun patrol => { patrol with watchdog := patrol.watchdog.touch s.now }
    counters :=
      { s.counters with
        processed := s.counters.processed + 1
        lastActivity := some (Epoch.ofWallTime wall) } }

/-- Puts a line of interest into the open batch, and wakes the flusher if that opens a batch. -/
def gather (p : Plan) (s : State) (wall : WallTime) (line : Bytes) : State × List Delivery :=
  let (batcher, closed) :=
    s.batcher.push (p.messageOf line) (p.timestamp? wall line) (fun _ => p.metadata line) s.now
  ({ s with batcher, wake := s.wake || !s.batcher.isOpen || closed.isSome },
    closed.toList.map .batch)

/-- Takes in a line. -/
def takeLine (p : Plan) (s : State) (wall : WallTime) (line : Bytes) : State × List Delivery :=
  let s := s.countLine wall
  let (ofInterest, trail) := p.detector.detect s.trail s.now line
  let s := { s with trail }
  if !ofInterest then (s, [])
  else
    let s := { s with counters := { s.counters with detected := s.counters.detected + 1 } }
    if p.excludes line then
      ({ s with counters := { s.counters with excluded := s.counters.excluded + 1 } }, [])
    else gather p s wall line

/-- Takes in a line that leaves the stream as it is in `lines`; `before` lines had been cut. -/
def takeLineOf (p : Plan) (s : State) (wall : WallTime) (line : Bytes) (lines : LineReader)
    (before : Nat) : State × List Delivery :=
  let (s, ds) := takeLine p s wall line
  let truncated := s.counters.truncated + (lines.truncated - before)
  ({ s with phase := .reading lines, counters := { s.counters with truncated } }, ds)

/-- Closes the open batch, whatever it holds. -/
def flush (s : State) : State × List Delivery :=
  let (batcher, closed) := s.batcher.take
  ({ s with batcher }, closed.toList.map .batch)

/-- The stream has ended: the open batch is flushed, and the source is opened again after a while,
unless the monitor stops at the end of its stream. -/
def endStream (p : Plan) (s : State) : State × List Delivery :=
  let (s, ds) := flush s
  if p.stopsAtEnd then ({ s with phase := .joining }, ds)
  else
    ({ s with
      phase := .pausing (s.now + p.reopenDelay)
      counters := { s.counters with restarts := s.counters.restarts + 1 } }, ds)

/-- What the reader does at the end of the octets: an open line is taken in before the stream ends.
-/
def finishStream (p : Plan) (s : State) (wall : WallTime) (lines : LineReader) :
    State × List Delivery :=
  match lines.next?.2.finish with
  | (some line, rest) => takeLineOf p s wall line rest lines.truncated
  | (none, _) => endStream p s

/-- The reader turns to the end of its work. -/
def interrupt (s : State) : State × List Delivery :=
  let (s, ds) := flush s
  ({ s with phase := .joining }, ds)

/-! ### The other tasks -/

/-- The flusher closes the open batch if it is stale. -/
def fire (s : State) : State × List Delivery :=
  let (batcher, closed) := s.batcher.takeIfStale s.now
  ({ s with batcher, flusher := .looking }, closed.toList.map .batch)

/-- The patrol checks the watchdog and tells of a change. -/
def lookAfter (p : Plan) (s : State) (patrol : Patrol) (origin : Origin) : State × List Delivery :=
  let (event, watchdog) := patrol.watchdog.check s.now
  let s := { s with patrol := some { patrol with watchdog, ticker := patrol.ticker.attend s.now } }
  match event with
  | none => (s, [])
  | some (.silent _) =>
    ({ s with counters := { s.counters with inactivity := s.counters.inactivity + 1 } },
      [.alert (Incident.silenceAlert origin p.name watchdog.threshold)])
  | some .resumed => (s, [.alert (Incident.recoveryAlert origin p.name)])

/-- Whether the limit lets the report of a batch pass at `now`. -/
def passLimit (limiter : Option RateLimiter) (now : Moment) : Bool × Option RateLimiter :=
  match limiter with
  | none => (true, none)
  | some l =>
    let (passes, l) := l.allow now
    (passes, some l)

/-- The courier begins a delivery that is no longer in the outbox. -/
def begin (p : Plan) (s : State) (origin : Origin) (snapshot : Option Json.Members) :
    Delivery → State
  | .alert r => { s with courier := .sending r }
  | .batch b =>
    let (passes, limiter) := passLimit s.limiter s.now
    if passes then
      { s with limiter, courier := .sending (Incident.report origin p.name b snapshot) }
    else
      { s with
        limiter
        counters := { s.counters with rateLimited := s.counters.rateLimited + 1 } }

/-- The courier learns what has become of a report. -/
def conclude (p : Plan) (s : State) (r : Report) (ok : Bool) : State :=
  if ok then
    { s with courier := .idle, counters := { s.counters with sent := s.counters.sent + 1 } }
  else
    { s with
      courier := if p.keepsFailed then .storing r else .idle
      counters := { s.counters with failed := s.counters.failed + 1 } }

/-! ### Events -/

/-- The reader may read on: it has not been told to stop, and no line waits to be taken in. -/
def mayRead (s : State) (lines : LineReader) : Bool := !s.isCancelled && !lines.hasLine

/-- What happens while the source is being opened. -/
def whileOpening (s : State) (outcome : State × List Delivery) : Option (State × List Delivery) :=
  match s.phase with
  | .opening => if s.isCancelled then none else some outcome
  | _ => none

/-- What happens while a stream is being read and no line waits. -/
def whileReading (s : State) (outcome : LineReader → State × List Delivery) :
    Option (State × List Delivery) :=
  match s.phase with
  | .reading lines => if mayRead s lines then some (outcome lines) else none
  | _ => none

/-- The next line of the stream is taken in, if one waits. -/
def takeNextLine (p : Plan) (s : State) (wall : WallTime) : Option (State × List Delivery) :=
  match s.phase with
  | .reading lines =>
    if s.isCancelled || !lines.hasLine then none
    else
      match lines.next? with
      | (some line, rest) => some (takeLineOf p s wall line rest lines.truncated)
      | (none, _) => none
  | _ => none

/-- The source is opened again, if the pause is over. -/
def reopen (s : State) : Option (State × List Delivery) :=
  match s.phase with
  | .pausing moment => if moment ≤ s.now then some ({ s with phase := .opening }, []) else none
  | _ => none

/-- What the flusher does as it sleeps. -/
def whileSleeping (s : State) (outcome : Option Moment → Option (State × List Delivery)) :
    Option (State × List Delivery) :=
  match s.flusher with
  | .sleeping deadline => outcome deadline
  | _ => none

/-- The state after an event, with what is handed over for delivery; nothing if the event cannot
take place. -/
def act (p : Plan) (s : State) : Event → Option (State × List Delivery)
  | .opened =>
    whileOpening s ({ s with phase := .reading (LineReader.new LineReader.maxLine) }, [])
  | .openFailed => whileOpening s (endStream p s)
  | .received chunk =>
    whileReading s fun lines =>
      ({ s with phase := .reading (lines.next?.2.receive chunk) }, [])
  | .streamEnded wall => whileReading s (finishStream p s wall)
  | .readFailed => whileReading s fun _ => endStream p s
  | .lineTaken wall => takeNextLine p s wall
  | .reopened => reopen s
  | .interrupted => if s.isCancelled && !s.isDoneReading then some (interrupt s) else none
  | .flusherLooks =>
    if s.flusher = .looking then
      some ({ s with flusher := .sleeping s.batcher.flushDeadline }, [])
    else none
  | .flusherWakes =>
    whileSleeping s fun _ =>
      if s.wake then some ({ s with wake := false, flusher := .looking }, []) else none
  | .flusherFires =>
    whileSleeping s fun deadline =>
      if deadline.any fun d => decide (d ≤ s.now) then some (fire s) else none
  | .flusherStops =>
    whileSleeping s fun _ =>
      if s.tasksMayStop then some ({ s with flusher := .stopped }, []) else none
  | .patrolLooks origin =>
    match s.patrol with
    | some patrol =>
      if !patrol.isOver && patrol.ticker.isDue s.now then some (lookAfter p s patrol origin)
      else none
    | none => none
  | .patrolStops =>
    match s.patrol with
    | some patrol =>
      if !patrol.isOver && s.tasksMayStop then
        some ({ s with patrol := some { patrol with isOver := true } }, [])
      else none
    | none => none
  | .joined =>
    match s.phase with
    | .joining => if s.tasksHaveStopped then some ({ s with phase := .draining }, []) else none
    | _ => none
  | .dispatched origin snapshot =>
    match s.courier, s.outbox.take with
    | .idle, (some d, outbox) => some (begin p { s with outbox } origin snapshot d, [])
    | _, _ => none
  | .answered ok =>
    match s.courier with
    | .sending r => some (conclude p s r ok, [])
    | _ => none
  | .stored _ =>
    match s.courier with
    | .storing _ => some ({ s with courier := .idle }, [])
    | _ => none
  | .closed =>
    match s.phase with
    | .draining => if s.isDelivered then some ({ s with phase := .stopped }, []) else none
    | _ => none
  | .cancelled => some ({ s with isCancelled := true }, [])
  | .elapsed span => some ({ s with now := s.now + span }, [])

/-- The state with deliveries put into the outbox. -/
def State.submit (s : State) (ds : List Delivery) : State :=
  { s with outbox := ds.foldl Outbox.submit s.outbox }

/-- The state after an event, if the event can take place. -/
def step (p : Plan) (s : State) (e : Event) : Option State :=
  (act p s e).map fun (s, ds) => s.submit ds

/-- The state after a sequence of events, if each of them can take place. -/
def run (p : Plan) : State → List Event → Option State
  | s, [] => some s
  | s, e :: es =>
    match step p s e with
    | some s => run p s es
    | none => none

end Monitor

end LogWatch
