import LogWatch.Daemon.State
import LogWatch.Delivery.Stamp
import LogWatch.Host.Feed
import LogWatch.Monitor.Choice

/-!
# A host for the daemon

A **host** is the world around the daemon, with files, programs and a receiver of reports of its
own, and with a clock that it sets forward itself: whatever can happen at a moment happens then, and
the next moment is the next at which something is due. So a run of the daemon on a host is
determined by what the host has to begin with.

Clocks are read in whole milliseconds: what is due in between happens at the next of them.
-/

namespace LogWatch

/-- What the receiver does with a report. -/
inductive Reply
  /-- It takes the report. -/
  | taken
  /-- It takes the report after a while. -/
  | takenAfter (span : Span)
  /-- It refuses the report. -/
  | refused
  deriving DecidableEq

/-- The moment of the answer to a report sent at `now`, and the answer. -/
def Reply.answerAt (now : Moment) : Reply → Moment × Bool
  | .taken => (now, true)
  | .takenAfter span => (now + span, true)
  | .refused => (now, false)

/-- What a host keeps for one monitor. -/
structure Place where
  /-- Opens its streams. -/
  feed : Feed
  /-- The stream that is being read. -/
  stream : Option ByteStream := none
  /-- When the receiver answers, and how. -/
  answer : Option (Moment × Bool) := none
  /-- So many times a stream has been asked for. -/
  opened : Nat := 0
  /-- So many times the source has been closed. -/
  closed : Nat := 0

/-- The daemon and the world around it. -/
structure Host where
  /-- The daemon. -/
  daemon : Daemon.State
  /-- What belongs to its monitors, in their order. -/
  places : List Place
  /-- The wall clock. -/
  wall : WallTime
  /-- Random bits for the next report. -/
  entropy : Nat := 0
  /-- The files. -/
  files : FileTree := FileTree.empty
  /-- The standard input. -/
  input : Bytes := []
  /-- What the receiver does with the next reports; the last holds for all that follow. -/
  replies : List Reply := []
  /-- When the receiver answers to the pass over the spool, and how. -/
  passAnswer : Option (Moment × Bool) := none
  /-- What every report is stamped with. -/
  stamp : Option Stamp := none
  /-- Without a spool: whether a report whose delivery failed can be kept. -/
  canKeep : Bool := true
  /-- The state of the host for the reports. -/
  snapshot : Option Json.Members := none
  /-- The reports that the receiver has taken, the last one first. -/
  delivered : List Report := []
  /-- The reports kept without a spool, the last one first. -/
  kept : List Report := []

namespace Host

/-- The clock. -/
def now (h : Host) : Moment := h.daemon.now

/-- What the receiver does with the next report, and what it will do with those that follow. -/
def nextReply : List Reply → Reply × List Reply
  | [] => (.taken, [])
  | [r] => (r, [r])
  | r :: rest => (r, rest)

/-- A report as the receiver gets it. -/
def stamped (h : Host) (r : Report) : Report :=
  match h.stamp with
  | some s => s.apply r
  | none => r

/-- So many octets are read at a time. -/
def readSize : Nat := 64 * 1024

/-- What a stream holds for its reader. -/
def reading : Option ByteStream → Monitor.Reading
  | none => .nothing
  | some s =>
    if !s.pending.isEmpty then .octets (s.pending.take readSize)
    else
      match s.ending with
      | .more => .nothing
      | .nothing => .ended
      | .failure => .failed

/-- The answer that has come at `now`. -/
def arrived (now : Moment) (answer : Option (Moment × Bool)) : Option Bool :=
  answer.bind fun (moment, ok) => if moment ≤ now then some ok else none

/-- What a monitor at that place would find, as far as it matters to the monitor in that state. -/
def outlook (h : Host) (p : Place) (s : Monitor.State) : Monitor.Outlook where
  canOpen := s.isOpening && (p.feed.openStream h.files h.input h.now).1.isSome
  reading := if s.isHungry then reading p.stream else .nothing
  isAtHand := p.feed.isAtHand
  answer := arrived h.now p.answer
  storing := some h.canKeep
  wall := h.wall
  origin := Origin.make h.entropy h.wall
  snapshot := h.snapshot

/-! ### What an event changes in the world -/

/-- A stream is opened, or it turns out that none can be. -/
def openAt (h : Host) (p : Place) : Host × Place :=
  let (stream, feed) := p.feed.openStream h.files h.input h.now
  let h := match p.feed with
    | .stdin => { h with input := [] }
    | _ => h
  (h, { p with stream, feed, opened := p.opened + 1 })

/-- Octets have been read. -/
def consume (p : Place) : Place :=
  { p with stream := p.stream.map fun s => { s with pending := s.pending.drop readSize } }

/-- A report is on its way: the receiver will answer. -/
def askAt (h : Host) (p : Place) : Host × Place :=
  let (reply, replies) := nextReply h.replies
  ({ h with replies, entropy := h.entropy + 1 }, { p with answer := some (reply.answerAt h.now) })

/-- The receiver has answered to a report. -/
def recordAnswer (h : Host) (r : Report) (ok : Bool) : Host :=
  if ok then { h with delivered := h.stamped r :: h.delivered } else h

/-- The monitor is reading. -/
def isReading (s : Monitor.State) : Bool :=
  match s.phase with
  | .reading _ => true
  | _ => false

/-- The report that a monitor has on its way. -/
def sending? (s : Monitor.State) : Option Report :=
  match s.courier with
  | .sending r => some r
  | _ => none

/-- What an event of a monitor, in the state before and in the state after it, changes in the world
around it. -/
def follow (h : Host) (p : Place) (before after : Monitor.State) (e : Monitor.Event) :
    Host × Place :=
  match e with
  | .opened => h.openAt p
  | .openFailed => h.openAt p
  | .received _ => (h, consume p)
  | .patrolLooks _ => ({ h with entropy := h.entropy + 1 }, p)
  | .dispatched .. => if (sending? after).isSome then h.askAt p else (h, p)
  | .answered ok =>
    match sending? before with
    | some r => (h.recordAnswer r ok, { p with answer := none })
    | none => (h, p)
  | .stored ok =>
    match before.courier with
    | .storing r => (if ok then { h with kept := r :: h.kept } else h, p)
    | _ => (h, p)
  | .closed => (h, { p with feed := p.feed.close, closed := p.closed + 1 })
  | _ => (h, p)

/-- A place without the stream that its monitor has stopped reading. -/
def dropStream (p : Place) (s : Monitor.State) : Place :=
  if isReading s then p else { p with stream := none }

/-- The event of the daemon for an event of a monitor: reports are kept in the spool, if there is
one. -/
def daemonEvent (h : Host) (place : Nat) (e : Monitor.Event) : Daemon.Event :=
  match e with
  | .stored _ => if h.daemon.spool.isSome then .kept place else .monitor place e
  | _ => .monitor place e

/-- The host after the next event of one monitor, if there is one at this moment. -/
def monitorTurn (h : Host) (place : Nat) : Option Host := do
  let post ← h.daemon.posts[place]?
  let p ← h.places[place]?
  let e ← Monitor.choose post.state (h.outlook p post.state)
  let daemon ← Daemon.step h.daemon (h.daemonEvent place e)
  let after ← daemon.posts[place]?
  let (h, p) := h.follow p post.state after.state e
  return { h with daemon, places := h.places.set place (dropStream p after.state) }

/-- The host after a look of one feed at its file, if the moment for that has come. -/
def feedTurn (h : Host) (place : Nat) : Option Host := do
  let p ← h.places[place]?
  let (octets, feed) ← p.feed.poll? h.files h.now
  let stream := p.stream.map fun s => { s with pending := s.pending ++ octets }
  return { h with places := h.places.set place { p with feed, stream } }

/-! ### The spool -/

/-- The pass over the spool has sent a report: the receiver will answer. -/
def askForPass (h : Host) : Host :=
  if (h.daemon.spool.bind Spool.sending?).isSome then
    let (reply, replies) := nextReply h.replies
    { h with replies, passAnswer := some (reply.answerAt h.now) }
  else h

/-- The pass over the spool gets on with its work, if it does not wait for the receiver. -/
def passTurn (h : Host) : Option Host :=
  match h.daemon.spool.bind Spool.sending? with
  | some r => do
    let ok ← arrived h.now h.passAnswer
    let daemon ← Daemon.step h.daemon (.passAnswered ok)
    return { h.recordAnswer r ok with daemon, passAnswer := none }
  | none => do
    let daemon ← Daemon.step h.daemon .passAdvances
    return { h with daemon }.askForPass

/-- The resender begins a pass or stops, if it can. -/
def resenderTurn (h : Host) : Option Host :=
  let moved := Daemon.step h.daemon .resenderTicks <|> Daemon.step h.daemon .resenderStops
  moved.map fun daemon => { h with daemon }

/-! ### Time -/

/-- The host after the next event at this moment, if there is one. -/
def turn? (h : Host) : Option Host :=
  let places := List.range h.places.length
  places.findSome? h.monitorTurn <|> h.passTurn <|> h.resenderTurn <|> places.findSome? h.feedTurn

/-- The first whole millisecond from a moment on. -/
def atMillis (m : Moment) : Moment := (m + 999999) / 1000000 * 1000000

/-- The moments at which something is due. -/
def moments (h : Host) : List Moment :=
  let monitors := h.daemon.posts.flatMap fun post => post.state.moments
  let answers := h.places.filterMap fun p => p.answer.map (·.1)
  let pass := (h.passAnswer.map (·.1)).toList
  let resender := match h.daemon.resender with
    | some resender => if resender.isOver then [] else [resender.ticker.next]
    | none => []
  let feeds := h.places.flatMap fun p => p.feed.moments
  monitors ++ answers ++ pass ++ resender ++ feeds

/-- The next moment after this one at which something is due. -/
def nextMoment? (h : Host) : Option Moment :=
  ((h.moments.map atMillis).filter fun m => decide (h.now < m)).min?

/-- The host at a later moment. -/
def setClock (h : Host) (m : Moment) : Host :=
  match Daemon.step h.daemon (.elapsed (m - h.now)) with
  | some daemon => { h with daemon }
  | none => h

/-- Lets everything happen until `goal` has been reached or holds no longer than `limit`, in at most
so many events. -/
def runUntil (goal : Host → Bool) (limit : Moment) : Nat → Host → Host
  | 0, h => h
  | fuel + 1, h =>
    if goal h then h
    else
      match h.turn? with
      | some h => runUntil goal limit fuel h
      | none =>
        match h.nextMoment? with
        | some m =>
          if m ≤ limit then runUntil goal limit fuel (h.setClock m)
          else h.setClock (max h.now limit)
        | none => h.setClock (max h.now limit)

/-- A run ends after so many events at the latest. -/
def maxEvents : Nat := 1000000000

/-- The host when everything that can happen until then has happened. -/
def advanceTo (h : Host) (m : Moment) : Host := runUntil (fun _ => false) m maxEvents h

/-- The host when nothing more can happen at this moment. -/
def settle (h : Host) : Host := h.advanceTo h.now

/-- The host after a while. -/
def sleep (h : Host) (span : Span) : Host := h.advanceTo (h.now + span)

/-- The daemon is told to shut down. -/
def shutDown (h : Host) : Host :=
  match Daemon.step h.daemon .shutDown with
  | some daemon => { h with daemon }
  | none => h

/-- The host when the daemon has done all its work, or at `limit`. -/
def finish (h : Host) (limit : Moment) : Host :=
  runUntil (fun h => h.daemon.isDone) limit maxEvents h

end Host

end LogWatch
