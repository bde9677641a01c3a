import LogWatch.Delivery.Spool
import LogWatch.Monitor.Action

/-!
# The daemon at work

The **daemon** runs all monitors. They share the receiver of the reports and the spool, into which
each of them puts the reports whose delivery failed. Once in a while, as long as the daemon runs,
the **resender** makes a pass over the spool.

When the daemon shuts down, the monitors are told to stop. The resender stops after the last of
them, and never in the middle of a pass.
-/

namespace LogWatch

/-- Makes passes over the spool. -/
structure Resender where
  /-- When the next pass is due. -/
  ticker : Ticker
  /-- The resender has stopped. -/
  isOver : Bool

/-- A resender that begins at `now`; one that should make passes without a pause does nothing. -/
def Resender.starting (now : Moment) (every : Span) : Resender :=
  ⟨⟨every, now + every⟩, every == 0⟩

namespace Daemon

/-- A monitor with the rules it works by. -/
structure Post where
  /-- The rules. -/
  plan : Monitor.Plan
  /-- The state. -/
  state : Monitor.State

/-- The state of the daemon. -/
structure State where
  /-- The clock. -/
  now : Moment
  /-- The monitors. -/
  posts : List Post
  /-- The spool, if there is one. -/
  spool : Option Spool
  /-- The resender, if there is a spool. -/
  resender : Option Resender

/-- The state of a daemon that begins at `now` to make passes over the spool so often. -/
def State.starting (plans : List Monitor.Plan) (spool : Option Spool) (every : Span)
    (now : Moment) : State where
  now := now
  posts := plans.map fun p => ⟨p, Monitor.State.starting p now⟩
  spool := spool
  resender := spool.map fun _ => Resender.starting now every

/-- Something that happens to the daemon. -/
inductive Event
  /-- Something happens to a monitor. -/
  | monitor (place : Nat) (e : Monitor.Event)
  /-- The report of a monitor is put into the spool. -/
  | kept (place : Nat)
  /-- The resender finds that the moment for a pass has come. -/
  | resenderTicks
  /-- The pass gets on with its work. -/
  | passAdvances
  /-- The receiver has taken the report of the pass, or has not. -/
  | passAnswered (ok : Bool)
  /-- The resender stops. -/
  | resenderStops
  /-- The daemon shuts down. -/
  | shutDown
  /-- Time passes. -/
  | elapsed (span : Span)

namespace State

/-- The monitors have stopped. -/
def monitorsHaveStopped (s : State) : Bool := s.posts.all fun post => post.state.isStopped

/-- A pass over the spool is under way. -/
def isPassing (s : State) : Bool := s.spool.any fun spool => spool.pass.isSome

/-- All work is done. -/
def isDone (s : State) : Bool :=
  s.monitorsHaveStopped && !s.isPassing && s.resender.all fun resender => resender.isOver

/-- The state after an event of one monitor, if the event can take place. -/
def move (s : State) (place : Nat) (e : Monitor.Event) : Option State := do
  let post ← s.posts[place]?
  let state ← Monitor.step post.plan post.state e
  return { s with posts := s.posts.set place { post with state } }

/-- The state after an event of every monitor. -/
def moveAll (s : State) (e : Monitor.Event) : State :=
  { s with
    posts := s.posts.map fun post =>
      match Monitor.step post.plan post.state e with
      | some state => { post with state }
      | none => post }

/-- The report that a monitor wants to be kept. -/
def storing? (s : State) (place : Nat) : Option Report := do
  let post ← s.posts[place]?
  match post.state.courier with
  | .storing r => some r
  | _ => none

/-- The state with a report more in the spool. -/
def keep (s : State) (r : Report) : State :=
  { s with spool := s.spool.map fun spool => spool.enqueue r }

/-- The resender attends to its tick: a pass begins unless nothing waits or the file cannot be read.
-/
def attend (s : State) (spool : Spool) (resender : Resender) : State :=
  let s := { s with resender := some { resender with ticker := resender.ticker.attend s.now } }
  if spool.depth = 0 then s
  else
    match spool.begin with
    | .ok spool => { s with spool := some spool }
    | .error _ => s

end State

/-- The event of a monitor is one that no other event of the daemon stands for. -/
def isOwn (s : State) : Monitor.Event → Bool
  | .cancelled => false
  | .elapsed _ => false
  | .stored _ => s.spool.isNone
  | _ => true

/-- The state after an event, if the event can take place. -/
def step (s : State) : Event → Option State
  | .monitor place e => if isOwn s e then s.move place e else none
  | .kept place =>
    match s.storing? place, s.spool with
    | some r, some _ => (s.keep r).move place (.stored true)
    | _, _ => none
  | .resenderTicks =>
    match s.spool, s.resender with
    | some spool, some resender =>
      if !resender.isOver && resender.ticker.isDue s.now && spool.pass.isNone then
        some (s.attend spool resender)
      else none
    | _, _ => none
  | .passAdvances =>
    match s.spool with
    | some spool =>
      if spool.pass.any fun pass => pass.sending.isNone then
        some { s with spool := some spool.advance }
      else none
    | none => none
  | .passAnswered ok =>
    match s.spool with
    | some spool =>
      if spool.sending?.isSome then some { s with spool := some (spool.answer ok) } else none
    | none => none
  | .resenderStops =>
    match s.resender with
    | some resender =>
      if !resender.isOver && s.monitorsHaveStopped && !s.isPassing then
        some { s with resender := some { resender with isOver := true } }
      else none
    | none => none
  | .shutDown => some (s.moveAll .cancelled)
  | .elapsed span => some { s.moveAll (.elapsed span) with now := s.now + span }

/-- The state after a sequence of events, if each of them can take place. -/
def run : State → List Event → Option State
  | s, [] => some s
  | s, e :: es =>
    match step s e with
    | some s => run s es
    | none => none

end Daemon

end LogWatch
