import LogWatch.Text.Octets

/-!
# The files of a host

A **file tree** has names and, apart from them, the files that they stand for: a file keeps its
content when it is renamed or loses its name, so that who has opened it can read on. A name stands
for a file or a directory, which has permissions.

Paths are cut at slashes; empty parts and single points say nothing.
-/

namespace LogWatch

/-- A path, part by part. -/
abbrev FilePath := List String

/-- The path that a text spells. -/
def FilePath.ofString (text : String) : FilePath :=
  (text.splitOn "/").filter fun part => !part.isEmpty && part != "."

/-- What a name stands for. -/
inductive FileEntry
  /-- A file, with its permissions. -/
  | file (node : Nat) (mode : Nat)
  /-- A directory, with its permissions. -/
  | directory (mode : Nat)
  deriving DecidableEq

/-- Why something cannot be done with a file. -/
inductive FileFault
  | missing
  | exists
  | isDirectory
  | notDirectory
  deriving DecidableEq

/-- The files of a host. -/
structure FileTree where
  /-- The names, each once. -/
  names : List (FilePath × FileEntry)
  /-- The files with what they hold. -/
  contents : List (Nat × Bytes)
  /-- The next file gets this number. -/
  fresh : Nat

namespace FileTree

/-- Permissions that a file gets unless it is made with others. -/
def fileMode : Nat := 0o644

/-- Permissions that a directory gets unless it is made with others. -/
def directoryMode : Nat := 0o755

/-- Nothing but the root. -/
def empty : FileTree := ⟨[], [], 0⟩

/-- What a path stands for; the root is a directory. -/
def entry? (t : FileTree) (path : FilePath) : Option FileEntry :=
  if path.isEmpty then some (.directory directoryMode) else t.names.lookup path

/-- The path stands for a directory. -/
def isDirectory (t : FileTree) (path : FilePath) : Bool :=
  match t.entry? path with
  | some (.directory _) => true
  | _ => false

/-- What a file holds. -/
def contentOf (t : FileTree) (node : Nat) : Bytes := (t.contents.lookup node).getD []

/-- The tree with other octets in a file. -/
def setContent (t : FileTree) (node : Nat) (octets : Bytes) : FileTree :=
  { t with contents := (node, octets) :: t.contents.filter fun (n, _) => n != node }

/-- The tree in which a path stands for something else. -/
def setEntry (t : FileTree) (path : FilePath) (e : FileEntry) : FileTree :=
  { t with names := t.names.filter (fun (p, _) => p != path) ++ [(path, e)] }

/-- The tree without a name. -/
def dropEntry (t : FileTree) (path : FilePath) : FileTree :=
  { t with names := t.names.filter fun (p, _) => p != path }

/-- The directory in which a path lies. -/
def parent (path : FilePath) : FilePath := path.dropLast

/-- Whether a name may be made: the directory in which it lies must be there. -/
def checkParent (t : FileTree) (path : FilePath) : Except FileFault Unit :=
  match t.entry? (parent path) with
  | some (.directory _) => .ok ()
  | some (.file ..) => .error .notDirectory
  | none => .error .missing

/-- What a path holds. -/
def read (t : FileTree) (path : FilePath) : Except FileFault Bytes :=
  match t.entry? path with
  | some (.file node _) => .ok (t.contentOf node)
  | some (.directory _) => .error .isDirectory
  | none => .error .missing

/-- What a path holds, if it is a file. -/
def read? (t : FileTree) (path : FilePath) : Option Bytes := (t.read path).toOption

/-- Makes a new file. -/
def create (t : FileTree) (path : FilePath) (mode : Nat) (octets : Bytes) :
    Except FileFault FileTree := do
  if (t.entry? path).isSome then throw .exists
  t.checkParent path
  return { t.setContent t.fresh octets with fresh := t.fresh + 1 }.setEntry path
    (.file t.fresh mode)

/-- Replaces what a file holds, or makes the file. -/
def write (t : FileTree) (path : FilePath) (octets : Bytes) : Except FileFault FileTree :=
  match t.entry? path with
  | some (.file node _) => .ok (t.setContent node octets)
  | some (.directory _) => .error .isDirectory
  | none => t.create path fileMode octets

/-- Adds to the end of a file, or makes the file. -/
def append (t : FileTree) (path : FilePath) (octets : Bytes) : Except FileFault FileTree :=
  match t.entry? path with
  | some (.file node _) => .ok (t.setContent node (t.contentOf node ++ octets))
  | some (.directory _) => .error .isDirectory
  | none => t.create path fileMode octets

/-- Removes the name of a file. -/
def remove (t : FileTree) (path : FilePath) : Except FileFault FileTree :=
  match t.entry? path with
  | some (.file ..) => .ok (t.dropEntry path)
  | some (.directory _) => .error .isDirectory
  | none => .error .missing

/-- Gives a file another name, which it takes from whatever file had it. -/
def rename (t : FileTree) (source target : FilePath) : Except FileFault FileTree :=
  match t.entry? source, t.entry? target with
  | none, _ => .error .missing
  | some (.directory _), _ => .error .isDirectory
  | some (.file ..), some (.directory _) => .error .isDirectory
  | some (.file node mode), _ => do
    t.checkParent target
    return (t.dropEntry source).setEntry target (.file node mode)

/-- Puts a new file in the place of whatever file has the name. -/
def replace (t : FileTree) (path : FilePath) (octets : Bytes) : Except FileFault FileTree :=
  if t.isDirectory path then .error .isDirectory
  else (t.dropEntry path).create path fileMode octets

/-- Makes a directory under the first `n` parts of a path, unless it is there. -/
def makeDirectory (t : FileTree) (path : FilePath) (mode n : Nat) : Except FileFault FileTree :=
  match t.entry? (path.take n) with
  | some (.directory _) => .ok t
  | some (.file ..) => .error .notDirectory
  | none => .ok (t.setEntry (path.take n) (.directory mode))

/-- Makes a directory and all that it lies in, unless they are there. -/
def makeDirectories (t : FileTree) (path : FilePath) (mode : Nat) : Except FileFault FileTree :=
  (List.range (path.length + 1)).foldlM (fun t n => t.makeDirectory path mode n) t

/-- The tree in which a path holds what was found there: a file that has only grown is the same
file, and otherwise there is another one in its place. -/
def observe (t : FileTree) (path : FilePath) (octets : Option Bytes) : Except FileFault FileTree :=
  match octets, t.read? path with
  | none, none => .ok t
  | none, some _ => t.remove path
  | some new, some old => if old.isPrefixOf new then t.write path new else t.replace path new
  | some new, none => do
    (← t.makeDirectories (parent path) directoryMode).replace path new

/-- The permissions of a path. -/
def mode? (t : FileTree) (path : FilePath) : Option Nat :=
  (t.entry? path).map fun
    | .file _ mode => mode
    | .directory mode => mode

/-- The names in a directory. -/
def namesIn (t : FileTree) (directory : FilePath) : List String :=
  t.names.filterMap fun (path, _) => if parent path == directory then path.getLast? else none

end FileTree

end LogWatch
