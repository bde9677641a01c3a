import LogWatch.CommandLine
import LogWatch.Config.Redaction
import LogWatch.Config.Writer
import LogWatch.Daemon.Setup
import LogWatch.Delivery.Webhook
import LogWatch.Host.PidFile
import LogWatch.Host.Rehearsal
import LogWatch.LogFilter

/-!
# Starting the program on a host

The program reads its arguments and its configuration, puts the daemon together, and runs it until
all monitors have stopped or the daemon is shut down. While it runs, the spool is the daemon's; the
file tree gets its file back at the end.
-/

namespace LogWatch

namespace Host

/-- Where the spool of a configuration is. -/
def spoolPath (c : Config) : FilePath := FilePath.ofString c.general.dataDir ++ [Spool.fileName]

/-- The spool of a configuration, and the files with the directory made for it. -/
def openSpool (files : FileTree) (c : Config) : Except StartFault (Option Spool × FileTree) :=
  if !c.delivery.spool then .ok (none, files)
  else
    let fault := StartFault.delivery Spool.unreadable
    match files.makeDirectories (FilePath.ofString c.general.dataDir) FileTree.directoryMode with
    | .error _ => .error fault
    | .ok files =>
      match files.read (spoolPath c) with
      | .ok octets => ((Spool.openOn (some octets)).map fun s => (some s, files)).mapError .delivery
      | .error .missing => ((Spool.openOn none).map fun s => (some s, files)).mapError .delivery
      | .error _ => .error fault

/-- A host for the daemon of a configuration, whose receiver takes all reports. -/
def ofConfig (files : FileTree) (wall : WallTime) (c : Config) : Except StartFault Host := do
  Daemon.check c
  let (spool, files) ← openSpool files c
  let assignments ← Daemon.assignAll c
  return {
    daemon :=
      Daemon.State.starting (assignments.map fun a => a.plan) spool (Daemon.resendPeriod c) 0
    places := assignments.map fun a => { feed := Feed.ofSource a.source }
    wall := wall
    files := files }

/-- What the receiver of a configuration does with reports: a host has no network. -/
def repliesOf : Receiver → List Reply
  | .stdout => [.taken]
  | .webhook .. => [.refused]

/-- A host for the daemon of a configuration with the receiver that it names. -/
def ofWholeConfig (files : FileTree) (wall : WallTime) (c : Config) : Except StartFault Host := do
  Daemon.check c
  Daemon.checkMetrics c
  let receiver ← Daemon.receiver c
  let h ← ofConfig files wall c
  return { h with replies := repliesOf receiver, stamp := some (Stamp.ofConfig c.delivery) }

/-- The names of the monitors. -/
def names (h : Host) : List String := h.daemon.posts.map fun post => post.plan.name

/-- The host when the file of the spool has been given back to the file tree. -/
def giveBackSpool (h : Host) (c : Config) : Host :=
  match h.daemon.spool.bind fun spool => spool.file with
  | none => h
  | some octets =>
    match h.files.write (spoolPath c) octets with
    | .ok files => { h with files }
    | .error _ => h

/-- The host when the daemon has run until its work is done, or until it has been shut down after a
while. -/
def runDaemon (h : Host) (shutDownAfter : Option Span) : Host :=
  match shutDownAfter with
  | none => h.finish (h.now + longRun)
  | some span =>
    let limit := h.now + span
    let h := h.finish limit
    if h.daemon.isDone then h else h.conclude

/-- Writes the file with the process identifier, if the configuration names one. -/
def writePid (h : Host) (c : Config) (pid : Nat) : Except StartFault Host :=
  if c.general.pidFile.isEmpty then .ok h
  else
    match PidFile.write h.files c.general.pidFile pid with
    | .ok files => .ok { h with files }
    | .error (.taken path holder) => .error (.other (PidFile.Refusal.taken path holder).message)
    | .error .system => .error (.io Fault.systemReason)

/-- Removes the file with the process identifier. -/
def removePid (h : Host) (c : Config) : Host :=
  if c.general.pidFile.isEmpty then h
  else { h with files := PidFile.remove h.files c.general.pidFile }

/-- What is left to do when the daemon has run. -/
def tidy (h : Host) (c : Config) : Host := (h.removePid c).giveBackSpool c

/-- Runs the daemon of a configuration. -/
def run (h : Host) (c : Config) (pid : Nat) (shutDownAfter : Option Span) :
    Except StartFault Unit × Host :=
  match h.writePid c pid with
  | .error f => (.error f, h.giveBackSpool c)
  | .ok h => (.ok (), (h.runDaemon shutDownAfter).tidy c)

end Host

/-! ### The program -/

/-- How the program ends. -/
structure Ending where
  /-- The status that it leaves. -/
  status : Nat
  /-- What it has written to its standard output, apart from reports. -/
  text : String := ""
  /-- The reports written to its standard output. -/
  reports : List Report := []
  /-- What went wrong. -/
  error : Option String := none
  /-- What is said about arguments that are not understood. -/
  complaint : Option String := none
  /-- The files at the end. -/
  files : FileTree

/-- A daemon that is ready to run on its host. -/
structure Ready where
  /-- The configuration. -/
  config : Config
  /-- The host. -/
  host : Host

namespace Launch

/-- The name of the program. -/
def programName : String := "logwarden-daemon"

/-- The program ends because of a fault. -/
def failure (files : FileTree) (message : String) : Ending :=
  { status := 1, error := some message, files }

/-- What the program does on arguments that it does not go on with. -/
def refusal (files : FileTree) : CommandLine.Refusal → Ending
  | .displayVersion => { status := 0, text := s!"{programName} {programVersion}\n", files }
  | .displayHelp => { status := 0, text := CommandLine.help, files }
  | r => { status := 2, complaint := some r.message, files }

/-- The configuration that the program works by. -/
def configOf (line : CommandLine) (env : Environment) (files : FileTree) :
    Except String Config := do
  let content := files.read? (FilePath.ofString line.config)
  let loaded := (Config.load line.config content env).mapError fun f =>
    s!"failed to load {line.config}: {f.message}"
  let c := line.apply (← loaded)
  (Daemon.check c).mapError StartFault.message
  return c

/-- The program has put its own log in order. -/
def checkLog (c : Config) (env : Environment) : Except String Unit := do
  let _ ← LogFilter.choose c.general.logLevel env
  LogFilter.checkFormat c.general.logFormat

/-- The host on which the daemon of a configuration can run. -/
def hostOf (c : Config) (env : Environment) (files : FileTree) (wall : WallTime) (input : Bytes) :
    Except String Host := do
  checkLog c env
  let h ← (Host.ofWholeConfig files wall c).mapError StartFault.message
  return { h with input }

/-- The files that the monitors of a configuration read. -/
def readFileNames (c : Config) : List String :=
  (c.monitors.filter fun m => m.sourceType = "file").map fun m => m.path

/-- The files that the daemon of a configuration has for itself. -/
def ownFileNames (c : Config) : List String :=
  let pid := if c.general.pidFile.isEmpty then [] else [c.general.pidFile]
  s!"{c.general.dataDir}/{Spool.fileName}" :: pid

/-- All files that matter to a configuration. -/
def fileNames (c : Config) : List String := ownFileNames c ++ readFileNames c

/-- Some monitor reads the standard input. -/
def readsInput (c : Config) : Bool := c.monitors.any fun m => m.sourceType = "stdin"

/-- The reports of a configuration go to the standard output. -/
def writesReports (c : Config) : Bool := c.delivery.sink = "stdout"

/-- What the program does on its arguments: it ends at once, or it has a daemon ready to run. -/
def prepare (args : List String) (env : Environment) (files : FileTree) (wall : WallTime)
    (input : Bytes) (pid : Nat) : Except Ending Ready :=
  match CommandLine.read args with
  | .error r => .error (refusal files r)
  | .ok line =>
    match configOf line env files with
    | .error message => .error (failure files message)
    | .ok c =>
      if line.validate then .error { status := 0, text := c.redacted.toml, files }
      else
        match hostOf c env files wall input with
        | .error message => .error (failure files message)
        | .ok h =>
          match h.writePid c pid with
          | .error f => .error (failure (h.giveBackSpool c).files f.message)
          | .ok h => .ok ⟨c, h⟩

/-- The end of the program when its daemon has run. -/
def conclude (r : Ready) : Ending :=
  let h := r.host.tidy r.config
  let reports := if writesReports r.config then h.delivered.reverse else []
  { status := 0, reports, files := h.files }

/-- The program on a host with those files and that standard input. -/
def program (args : List String) (env : Environment) (files : FileTree) (wall : WallTime)
    (input : Bytes) (pid : Nat) : Ending :=
  match prepare args env files wall input pid with
  | .error e => e
  | .ok r => conclude { r with host := r.host.runDaemon none }

end Launch

end LogWatch
