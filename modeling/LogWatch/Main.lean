import LogWatch.Host.Launch
import Std.Time.DateTime.Timestamp

/-!
# The program

The daemon runs on a host of its own (`LogWatch.Host`). Here that host is kept in step with the
machine: what stands in the files that the daemon reads is put into the host's files, the host's
clock is set forward, the reports that it has delivered are written, and what the daemon has changed
in its files is written to the disk. Nothing is decided here.

The standard input is read to its end before the daemon starts.
-/

namespace LogWatch

namespace Machine

/-- What is done, or nothing if the machine refuses it. -/
def attempt? {α : Type} (action : IO α) : IO (Option α) := do
  try
    return some (← action)
  catch _ =>
    return none

/-- What a file holds, if it can be read. -/
def read? (path : String) : IO (Option Bytes) :=
  attempt? do return (← IO.FS.readBinFile path).toList

/-- The wall clock. -/
def wallTime : IO WallTime := do
  let nanos := (← Std.Time.Timestamp.now).toNanosecondsSinceUnixEpoch.val
  return ⟨nanos / 1000000000, (nanos % 1000000000).toNat⟩

/-- Random bits for reports. -/
def entropy : IO Nat := IO.rand 0 (Nat.pow 2 122 - 1)

/-- The variables of the environment that the program looks at. -/
def environment : IO Environment := do
  (LogFilter.environmentName :: Config.environmentNames).filterMapM fun name => do
    return (← IO.getEnv name).map fun value => (name, Bytes.ofString value)

/-- The identifier of the process. -/
def processId : IO Nat := do
  match ← attempt? (IO.FS.readFile "/proc/self/stat") with
  | some stat => return ((stat.splitOn " ").headD "").toNat?.getD 0
  | none => return 0

/-- All that comes from the standard input. -/
partial def readToEnd (input : IO.FS.Stream) (octets : ByteArray) : IO ByteArray := do
  let chunk ← input.read 65536
  if chunk.isEmpty then return octets else readToEnd input (octets ++ chunk)

/-- When a file was changed, and its size. -/
abbrev Mark := Option (IO.FS.SystemTime × UInt64)

/-- The mark of a file. -/
def markOf (path : String) : IO Mark :=
  attempt? do
    let data ← (← IO.FS.realPath path).metadata
    return (data.modified, data.byteSize)

/-- The files of the host, brought up to date where the marks say that something has changed. -/
def look (files : FileTree) (names : List (String × Mark)) :
    IO (FileTree × List (String × Mark)) := do
  let mut files := files
  let mut seen := []
  for (name, old) in names do
    let mark ← markOf name
    if mark != old then
      files := (files.observe (FilePath.ofString name) (← read? name)).toOption.getD files
    seen := (name, mark) :: seen
  return (files, seen.reverse)

/-- Writes to the disk what stands otherwise in the files of the host than before. -/
def copyBack (names : List String) (before after : FileTree) : IO Unit := do
  for name in names do
    let path := FilePath.ofString name
    let content := after.read? path
    if content != before.read? path then
      match content with
      | none => discard (attempt? (IO.FS.removeFile name))
      | some octets =>
        let directory := "/".intercalate ((name.splitOn "/").dropLast)
        unless directory.isEmpty do discard (attempt? (IO.FS.createDirAll directory))
        IO.FS.writeBinFile name octets.toByteArray
        if after.mode? path == some PidFile.fileMode then
          IO.setAccessRights name { user := { read := true, write := true } }

/-- Writes reports to the standard output. -/
def print (reports : List Report) : IO Unit := do
  let output ← IO.getStdout
  for r in reports do output.putStr r.jsonLine
  output.flush

/-- The files that the daemon writes, as they are at this moment. -/
def current (r : Ready) : FileTree := (r.host.giveBackSpool r.config).files

/-- Lets the daemon run until its work is done. -/
partial def watch (started : Nat) (names : List (String × Mark)) (r : Ready) : IO Ready := do
  let before := current r
  let (files, names) ← look r.host.files names
  let h := { r.host with files, wall := ← wallTime, entropy := ← entropy }
  let h := h.finish ((← IO.monoNanosNow) - started)
  if Launch.writesReports r.config then print h.delivered.reverse
  let r := { r with host := { h with delivered := [] } }
  copyBack (Launch.ownFileNames r.config) before (current r)
  if r.host.daemon.isDone then return r
  IO.sleep 100
  watch started names r

/-- Writes what the program says at its end. -/
def conclude (e : Ending) : IO UInt32 := do
  IO.print e.text
  print e.reports
  if let some error := e.error then IO.eprintln s!"Error: {error}"
  if let some complaint := e.complaint then IO.eprintln s!"error: {complaint}"
  return e.status.toUInt32

/-- The files of the host before the program starts. -/
def filesFor (args : List String) (env : Environment) : IO (FileTree × Option Config) := do
  match CommandLine.read args with
  | .error _ => return (FileTree.empty, none)
  | .ok line =>
    let (files, _) ← look FileTree.empty [(line.config, none)]
    match Launch.configOf line env files with
    | .error _ => return (files, none)
    | .ok c =>
      let (files, _) ← look files ((Launch.fileNames c).map fun name => (name, none))
      return (files, some c)

/-- The program. -/
def run (args : List String) : IO UInt32 := do
  let env ← environment
  let (files, config) ← filesFor args env
  let input ←
    if config.any Launch.readsInput then readToEnd (← IO.getStdin) ByteArray.empty
    else pure ByteArray.empty
  match Launch.prepare args env files (← wallTime) input.toList (← processId) with
  | .error e => conclude e
  | .ok r =>
    let own := Launch.ownFileNames r.config
    copyBack own files r.host.files
    let started ← IO.monoNanosNow
    let names ← (Launch.readFileNames r.config).mapM fun name => do
      return (name, ← markOf name)
    let r ← watch started names r
    let before := current r
    let e := Launch.conclude r
    copyBack own before e.files
    conclude e

end Machine

end LogWatch

def main (args : List String) : IO UInt32 := LogWatch.Machine.run args
