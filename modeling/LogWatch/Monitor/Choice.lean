import LogWatch.Monitor.Action

/-!
# Which event comes next

Of the events that can take place **`Monitor.choose`** picks one: the reader takes in the lines it
has, then the other tasks get on with their work, and the reader reads on. A reader whose octets are
at hand reads on before the others get a turn.

The choice depends on what the monitor would find if it turned to the world around it: its
**outlook**.
-/

namespace LogWatch

namespace Monitor

/-- What the reader would find in its stream. -/
inductive Reading
  /-- Nothing yet. -/
  | nothing
  /-- Octets. -/
  | octets (chunk : Bytes)
  /-- The end. -/
  | ended
  /-- A failure. -/
  | failed

/-- What a monitor would find if it turned to the world around it. -/
structure Outlook where
  /-- The source can be opened. -/
  canOpen : Bool
  /-- What the stream holds. -/
  reading : Reading
  /-- Reading takes no time, so that nobody else gets a turn. -/
  isAtHand : Bool
  /-- The receiver's answer, if it has come. -/
  answer : Option Bool
  /-- Whether a report has been kept, if that is known. -/
  storing : Option Bool
  /-- The wall clock. -/
  wall : WallTime
  /-- The origin of a report made now. -/
  origin : Origin
  /-- The state of the host. -/
  snapshot : Option Json.Members

/-- The reader is about to open the source. -/
def State.isOpening (s : State) : Bool :=
  match s.phase with
  | .opening => true
  | _ => false

/-- The reader has no line and needs to read on. -/
def State.isHungry (s : State) : Bool :=
  match s.phase with
  | .reading lines => !lines.hasLine
  | _ => false

/-- The reader takes in a line that it has. -/
def lineChoice? (s : State) (o : Outlook) : Option Event :=
  match s.phase with
  | .reading lines => if lines.hasLine && !s.isCancelled then some (.lineTaken o.wall) else none
  | _ => none

/-- What the reader finds in its stream, as an event. -/
def readingEvent? (o : Outlook) : Option Event :=
  match o.reading with
  | .nothing => none
  | .octets chunk => some (.received chunk)
  | .ended => some (.streamEnded o.wall)
  | .failed => some .readFailed

/-- The reader opens the source, reads on, or comes to its end. -/
def readerChoice? (s : State) (o : Outlook) : Option Event :=
  match s.phase with
  | .opening =>
    if s.isCancelled then some .interrupted
    else if o.canOpen then some .opened
    else some .openFailed
  | .reading lines =>
    if s.isCancelled then some .interrupted else if lines.hasLine then none else readingEvent? o
  | .pausing moment =>
    if s.isCancelled then some .interrupted
    else if moment ≤ s.now then some .reopened
    else none
  | .joining => if s.tasksHaveStopped then some .joined else none
  | .draining => if s.isDelivered then some .closed else none
  | .stopped => none

/-- What the flusher can do. -/
def flusherChoice? (s : State) : Option Event :=
  match s.flusher with
  | .looking => some .flusherLooks
  | .sleeping deadline =>
    if s.wake then some .flusherWakes
    else if deadline.any fun d => decide (d ≤ s.now) then some .flusherFires
    else if s.tasksMayStop then some .flusherStops
    else none
  | .stopped => none

/-- What the patrol can do. -/
def patrolChoice? (s : State) (o : Outlook) : Option Event :=
  match s.patrol with
  | none => none
  | some patrol =>
    if patrol.isOver then none
    else if patrol.ticker.isDue s.now then some (.patrolLooks o.origin)
    else if s.tasksMayStop then some .patrolStops
    else none

/-- What the courier can do. -/
def courierChoice? (s : State) (o : Outlook) : Option Event :=
  match s.courier with
  | .idle => if s.outbox.waiting.isEmpty then none else some (.dispatched o.origin o.snapshot)
  | .sending _ => o.answer.map .answered
  | .storing _ => o.storing.map .stored

/-- The event that comes next without time passing, if there is one. -/
def choose (s : State) (o : Outlook) : Option Event :=
  let others := flusherChoice? s <|> patrolChoice? s o <|> courierChoice? s o
  lineChoice? s o <|>
    if o.isAtHand then readerChoice? s o <|> others else others <|> readerChoice? s o

/-- The moments at which a task of the monitor would get on with its work. -/
def State.moments (s : State) : List Moment :=
  let reader := match s.phase with
    | .pausing moment => [moment]
    | _ => []
  let flusher := match s.flusher with
    | .sleeping deadline => deadline.toList
    | _ => []
  let patrol := match s.patrol with
    | some patrol => if patrol.isOver then [] else [patrol.ticker.next]
    | none => []
  reader ++ flusher ++ patrol

end Monitor

end LogWatch
