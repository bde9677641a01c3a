import LogWatch.Source.SyslogFraming

/-!
# Connections that share a pipe

A listener accepts connections, up to a number of them at a time, and has a **task** for each. A
task reads one piece of its connection after the other, makes a **unit** of it by putting a line
feed at its end where there is none, and writes the unit into the pipe that the monitor reads. All
tasks write into the same pipe; a task has it to itself from the first octet of a unit to the last.

A task stops only where it waits: for its connection, for the pipe to be free, and for room in the
pipe. What it does in between is one step. Any task that can take its next step may take it next,
and the pipe may take as many octets at a time as it likes, as long as they fit. Connections come to
their ends and the monitor keeps the pipe open: what a task gives up when its connection breaks or
the listener is closed is not followed here.
-/

namespace LogWatch

namespace SyslogConnections

open SyslogFraming (withLineFeed maxFrame frontFrame)

/-- So many octets fit into the pipe. -/
def pipeCapacity : Nat := 256 * 1024

/-- So many connections are served at a time; others are turned away. -/
def maxConnections : Nat := 256

/-- Where the task of a connection stands. -/
inductive Stage
  /-- It waits for more of the connection, with these octets of a piece. -/
  | gathering (piece : Bytes)
  /-- It has a unit and waits for the pipe to be free. -/
  | waiting (unit : Bytes)
  /-- It has the pipe to itself; so many octets of the unit have been written. -/
  | writing (unit : Bytes) (count : Nat)
  /-- It has come to the end of the connection. -/
  | done
  deriving DecidableEq

/-- The task of a connection. -/
structure Task where
  /-- Where it stands. -/
  stage : Stage
  /-- What has been received and belongs to later pieces. -/
  buffer : Bytes
  /-- The end of the connection has been seen. -/
  hasEnded : Bool
  deriving DecidableEq

/-- The listener and all connections it has accepted. -/
structure State where
  /-- The tasks of the connections that are or have been served, in the order of their acceptance.
  -/
  tasks : List Task
  /-- So many connections have been turned away. -/
  rejected : Nat
  /-- What has been written into the pipe, from the beginning. -/
  written : Bytes
  /-- So many octets of it have been read by the monitor. -/
  read : Nat
  deriving DecidableEq

/-- Something that happens. -/
inductive Event
  /-- Somebody connects. -/
  | accepted
  /-- Octets come on a connection. -/
  | received (i : Nat) (chunk : Bytes)
  /-- A task sees the end of its connection. -/
  | ended (i : Nat)
  /-- A task gets the pipe to itself. -/
  | locked (i : Nat)
  /-- The pipe takes so many octets of a unit. -/
  | wrote (i count : Nat)
  /-- The monitor reads so many octets. -/
  | drained (count : Nat)
  deriving DecidableEq

/-! ### One task -/

namespace Task

/-- The task of a connection that has just been accepted. -/
def new : Task := ⟨.gathering [], [], false⟩

/-- The connection is being served. -/
def isLive (t : Task) : Bool := !decide (t.stage = .done)

/-- The task has the pipe to itself. -/
def isWriting (t : Task) : Bool :=
  match t.stage with
  | .writing _ _ => true
  | _ => false

/-- The piece needs no more octets. -/
def isWhole (piece : Bytes) : Bool := piece.getLast? == some 10 || piece.length == maxFrame

/-- The task goes on with a piece, as far as what has been received goes. -/
def gather (t : Task) (piece : Bytes) : Task :=
  let more := frontFrame (maxFrame - piece.length) t.buffer
  let piece := piece ++ more
  let buffer := t.buffer.drop more.length
  if isWhole piece then { t with stage := .waiting (withLineFeed piece), buffer }
  else { t with stage := .gathering piece, buffer }

/-- The task receives octets, if it waits for any and the connection has not ended. -/
def receive (t : Task) (chunk : Bytes) : Option Task :=
  match t.stage with
  | .gathering piece =>
    if t.hasEnded || chunk.isEmpty then none
    else some ({ t with buffer := t.buffer ++ chunk }.gather piece)
  | _ => none

/-- The task sees the end of the connection: what it has is a piece, and without any it is done. -/
def finish (t : Task) : Option Task :=
  match t.stage with
  | .gathering piece =>
    if piece.isEmpty then some { t with stage := .done, hasEnded := true }
    else some { t with stage := .waiting (withLineFeed piece), hasEnded := true }
  | _ => none

/-- The task gets the pipe to itself. -/
def lock (t : Task) : Option Task :=
  match t.stage with
  | .waiting unit => some { t with stage := .writing unit 0 }
  | _ => none

/-- The pipe takes some octets of the unit; these, and the task then. With the last octet the pipe
is free again, and the task goes on with the next piece. -/
def write (t : Task) (count : Nat) : Option (Bytes × Task) :=
  match t.stage with
  | .writing unit before =>
    if 0 < count && before + count ≤ unit.length then
      some ((unit.drop before).take count,
        if before + count = unit.length then t.gather []
        else { t with stage := .writing unit (before + count) })
    else none
  | _ => none

end Task

/-! ### All of them -/

namespace State

/-- Nobody has connected. -/
def starting : State := ⟨[], 0, [], 0⟩

/-- So many connections are being served. -/
def live (s : State) : Nat := s.tasks.countP Task.isLive

/-- No task has the pipe to itself. -/
def isFree (s : State) : Bool := s.tasks.all fun t => !t.isWriting

/-- So many octets fit into the pipe now. -/
def room (s : State) : Nat := pipeCapacity - (s.written.length - s.read)

/-- The state with another task in place of one. -/
def setTask (s : State) (i : Nat) (t : Task) : State := { s with tasks := s.tasks.set i t }

/-- All connections have come to their ends. -/
def isDone (s : State) : Bool := s.tasks.all fun t => !t.isLive

end State

/-- The state after an event, if the event can take place. -/
def step (s : State) : Event → Option State
  | .accepted =>
    if s.live < maxConnections then some { s with tasks := s.tasks ++ [Task.new] }
    else some { s with rejected := s.rejected + 1 }
  | .received i chunk => (s.tasks[i]?.bind fun t => t.receive chunk).map (s.setTask i)
  | .ended i => (s.tasks[i]?.bind Task.finish).map (s.setTask i)
  | .locked i => if s.isFree then (s.tasks[i]?.bind Task.lock).map (s.setTask i) else none
  | .wrote i count =>
    if count ≤ s.room then
      (s.tasks[i]?.bind fun t => t.write count).map fun (octets, t) =>
        { s.setTask i t with written := s.written ++ octets }
    else none
  | .drained count =>
    if 0 < count && s.read + count ≤ s.written.length then some { s with read := s.read + count }
    else none

/-- The state after a sequence of events, if each of them can take place. -/
def run : State → List Event → Option State
  | s, [] => some s
  | s, e :: es =>
    match step s e with
    | some s => run s es
    | none => none

end SyslogConnections

end LogWatch
