import LogWatch.Host.Programs
import LogWatch.Source.Basic
import LogWatch.Source.Follower
import LogWatch.Time.Ticker

/-!
# What a host gives a monitor to read

Behind the source of a monitor is a **feed**: it opens streams. A **stream** holds the octets that
have not been read, and knows what comes after them. The feed of a file that is followed looks at
the file at regular moments and adds to its stream; a feed may also have all its streams prepared in
advance.

A host has no network: what should listen at an address cannot be opened.
-/

namespace LogWatch

/-- What comes after the octets of a stream. -/
inductive StreamEnd
  /-- Other octets, perhaps. -/
  | more
  /-- Nothing. -/
  | nothing
  /-- A failure to read. -/
  | failure
  deriving DecidableEq

/-- A stream that is being read. -/
structure ByteStream where
  /-- The octets that have not been read. -/
  pending : Bytes
  /-- What comes after them. -/
  ending : StreamEnd

/-- Opens streams. -/
inductive Feed
  /-- The streams are prepared; one that is missing cannot be opened, nor can any after the last. -/
  | prepared (streams : List (Option ByteStream))
  /-- A file that is read once. -/
  | file (path : FilePath)
  /-- A file that is followed. -/
  | followed (source : FileSource) (ticker : Ticker)
  /-- A program. -/
  | program (name : String) (args : List String)
  /-- The standard input. -/
  | stdin
  /-- Nothing that the host has. -/
  | unreachable

namespace Feed

/-- The time between two looks at a file. -/
def pollPeriod : Span := Span.ofMillis FileSource.pollMillis

/-- The feed of a source. -/
def ofSource (s : Source) : Feed :=
  match s.kind with
  | .file path false => .file (FilePath.ofString path)
  | .file path true => .followed (FileSource.new (FilePath.ofString path)) ⟨pollPeriod, 0⟩
  | .program name args => .program name args
  | .syslog .. => .unreachable
  | .stdin => .stdin

/-- Reading takes no time. -/
def isAtHand : Feed → Bool
  | .prepared _ => true
  | _ => false

/-- A stream of which nothing can be said in advance. -/
def open_ : ByteStream := ⟨[], .more⟩

/-- Opens a stream at `now`, if that is possible; `input` is the standard input. -/
def openStream (files : FileTree) (input : Bytes) (now : Moment) (f : Feed) :
    Option ByteStream × Feed :=
  match f with
  | .prepared [] => (none, f)
  | .prepared (s :: rest) => (s, .prepared rest)
  | .file path => ((files.read? path).map fun octets => ⟨octets, .nothing⟩, f)
  | .followed source _ => (some open_, .followed source.stream (Ticker.startingAt now pollPeriod))
  | .program name args => ((Program.output? name args).map fun octets => ⟨octets, .nothing⟩, f)
  | .stdin => (some ⟨input, .nothing⟩, f)
  | .unreachable => (none, f)

/-- The feed looks at its file at `now`, if the moment for that has come: the octets it finds. -/
def poll? (files : FileTree) (now : Moment) : Feed → Option (Bytes × Feed)
  | .followed source ticker =>
    if source.isClosed || source.follower.isNone || !ticker.isDue now then none
    else
      let (source, octets) := source.poll files
      some (octets, .followed source (ticker.attend now))
  | _ => none

/-- The moment at which the feed looks at its file. -/
def moments : Feed → List Moment
  | .followed source ticker =>
    if source.isClosed || source.follower.isNone then [] else [ticker.next]
  | _ => []

/-- The feed after its source has been closed. -/
def close : Feed → Feed
  | .followed source ticker => .followed source.close ticker
  | f => f

end Feed

end LogWatch
