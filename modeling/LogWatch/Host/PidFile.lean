import LogWatch.Fault
import LogWatch.Host.FileTree
import LogWatch.Text.Blank
import LogWatch.Text.Utf8

/-!
# The file with the process identifier

While the daemon runs, a file may hold its process identifier. The file must not be there before:
another daemon may be running. Only the owner may read it, or enter the directories that are made
for it.
-/

namespace LogWatch

namespace PidFile

/-- Why the file could not be written. -/
inductive Refusal
  /-- The file is there already. -/
  | taken (path : String) (holder : String)
  /-- Something else stands in the way. -/
  | system
  deriving DecidableEq

/-- The wording of a refusal. -/
def Refusal.message : Refusal → String
  | .taken path holder =>
    s!"PID file {path} already exists with PID: {holder}. Is another instance running?"
  | .system => Fault.systemReason

/-- Permissions of the file. -/
def fileMode : Nat := 0o600

/-- Permissions of the directories that are made for it. -/
def directoryMode : Nat := 0o700

/-- What the file that is there says. -/
def holder (t : FileTree) (path : FilePath) : String :=
  match (t.read? path).bind Utf8.decode? with
  | some text => Blank.trim text
  | none => "unknown"

/-- Writes the file for a process. -/
def write (t : FileTree) (path : String) (pid : Nat) : Except Refusal FileTree :=
  let parts := FilePath.ofString path
  match t.makeDirectories (FileTree.parent parts) directoryMode with
  | .error _ => .error .system
  | .ok t =>
    match t.create parts fileMode (Bytes.ofString s!"{pid}\n") with
    | .ok t => .ok t
    | .error .exists => .error (.taken path (holder t parts))
    | .error _ => .error .system

/-- Removes the file, if that is possible. -/
def remove (t : FileTree) (path : String) : FileTree :=
  match t.remove (FilePath.ofString path) with
  | .ok t => t
  | .error _ => t

end PidFile

end LogWatch
