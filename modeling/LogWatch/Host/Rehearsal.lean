import LogWatch.Host.Basic

/-!
# One monitor on a host of its own

A **rehearsal** lets one monitor work on a host without a spool. Its streams are prepared; octets
can be added to the one that is being read, and its end can be brought about.
-/

namespace LogWatch

namespace Host

/-- A host for one monitor that begins its work at once. -/
def rehearsal (p : Monitor.Plan) (streams : List (Option ByteStream)) (wall : WallTime) : Host where
  daemon := Daemon.State.starting [p] none 0 0
  places := [{ feed := .prepared streams }]
  wall := wall

/-- Changes the stream that a monitor is reading. -/
def changeStream (h : Host) (place : Nat) (f : ByteStream → ByteStream) : Host :=
  match h.places[place]? with
  | some p => { h with places := h.places.set place { p with stream := p.stream.map f } }
  | none => h

/-- Adds octets to the stream that is being read. -/
def write (h : Host) (octets : Bytes) : Host :=
  h.changeStream 0 fun s => { s with pending := s.pending ++ octets }

/-- The stream that is being read ends. -/
def endStream (h : Host) (ending : StreamEnd) : Host :=
  h.changeStream 0 fun s => { s with ending }

/-- The state of the monitor. -/
def monitor? (h : Host) : Option Monitor.State := h.daemon.posts.head?.map fun post => post.state

/-- A run of this length is as good as one without an end. -/
def longRun : Span := Span.ofSeconds (400 * 24 * 3600)

/-- The host when the monitor has been told to stop and has stopped. -/
def conclude (h : Host) : Host := h.shutDown.finish (h.now + longRun)

end Host

end LogWatch
