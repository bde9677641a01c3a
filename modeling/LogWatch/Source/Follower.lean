import LogWatch.Host.FileTree

/-!
# Following a file

A **follower** looks at a file again and again and reads what has been added to it. When the name
stands for another file, or for none, it reads the old file to its end and then turns to the new one
from its start; when the file has become shorter than what has been read, it begins the file anew.

The first look decides where reading starts: at the end of a file that is there already, so that
what was written before is not read, and at the start of one that appears later.
-/

namespace LogWatch

/-- An open file and how far it has been read. -/
structure Tailed where
  /-- The file. -/
  node : Nat
  /-- So many of its octets have been read. -/
  offset : Nat
  deriving DecidableEq

/-- A follower of one name. -/
structure Follower where
  /-- The name. -/
  path : FilePath
  /-- A file that is found is read from its end. -/
  fromEnd : Bool
  /-- The open file. -/
  tailed : Option Tailed
  deriving DecidableEq

namespace Follower

/-- A follower that has not looked yet. -/
def new (path : FilePath) (fromEnd : Bool) : Follower := ⟨path, fromEnd, none⟩

/-- The follower with a file open, if there is one to open. -/
def openFile (t : FileTree) (f : Follower) : Follower :=
  match f.tailed, t.entry? f.path with
  | some _, _ => f
  | none, none => { f with fromEnd := false }
  | none, some (.directory _) => { f with fromEnd := false }
  | none, some (.file node _) =>
    let offset := if f.fromEnd then (t.contentOf node).length else 0
    { f with fromEnd := false, tailed := some ⟨node, offset⟩ }

/-- Where to read on, after everything up to the end of the file has been read. -/
def turn (t : FileTree) (path : FilePath) (tailed : Tailed) : Option Tailed :=
  match t.entry? path with
  | some (.file node _) =>
    if node ≠ tailed.node then none
    else if (t.contentOf node).length < tailed.offset then some { tailed with offset := 0 }
    else some tailed
  | _ => none

/-- One look: the follower after it, and the octets that have been read. -/
def poll (t : FileTree) (f : Follower) : Follower × Bytes :=
  let f := f.openFile t
  match f.tailed with
  | none => (f, [])
  | some tailed =>
    let read := (t.contentOf tailed.node).drop tailed.offset
    let tailed := { tailed with offset := tailed.offset + read.length }
    ({ f with tailed := turn t f.path tailed }, read)

end Follower

/-- A source that reads a file: it gives out one stream after another, of which the first that
follows the file leaves out what is there already. -/
structure FileSource where
  /-- The name of the file. -/
  path : FilePath
  /-- A stream has been given out. -/
  isStarted : Bool
  /-- The source is closed: its streams end. -/
  isClosed : Bool
  /-- The follower behind the last stream. -/
  follower : Option Follower

namespace FileSource

/-- A source that has given out nothing. -/
def new (path : FilePath) : FileSource := ⟨path, false, false, none⟩

/-- Gives out a stream, which takes the place of the one before. -/
def stream (s : FileSource) : FileSource :=
  { s with isStarted := true, follower := some (Follower.new s.path (!s.isStarted)) }

/-- Looks at the file, unless the source is closed: the octets for the last stream. -/
def poll (t : FileTree) (s : FileSource) : FileSource × Bytes :=
  match s.follower with
  | none => (s, [])
  | some f =>
    if s.isClosed then (s, [])
    else
      let (f, read) := f.poll t
      ({ s with follower := some f }, read)

/-- Looks at the file so many times: all octets that have been read. -/
def polls (t : FileTree) (s : FileSource) : Nat → FileSource × Bytes
  | 0 => (s, [])
  | n + 1 =>
    let (s, first) := s.poll t
    let (s, more) := polls t s n
    (s, first ++ more)

/-- Closes the source. -/
def close (s : FileSource) : FileSource := { s with isClosed := true }

/-- The last stream has come to its end. -/
def isEnded (s : FileSource) : Bool := s.isClosed && s.follower.isSome

/-- The time between two looks at a file. -/
def pollMillis : Nat := 250

end FileSource

end LogWatch
