import LogWatch.Json.Value
import LogWatch.Time.Span

/-!
# The configuration

What the program is told: general settings, the exposition of metrics, the delivery of reports, the
state of the host, and the monitors. Every setting has a default.

For writing, each section is also a list of named **settings** in a fixed order.
-/

namespace LogWatch

namespace Config

/-- General settings. -/
structure General where
  /-- The level of the program's own log. -/
  logLevel : String := "info"
  /-- The format of the program's own log. -/
  logFormat : String := "json"
  /-- The directory of the spool. -/
  dataDir : String := "/var/lib/logwarden"
  /-- The file for the process identifier; none if empty. -/
  pidFile : String := ""
  /-- All monitors stop at the end of their streams. -/
  oneshot : Bool := false
  deriving DecidableEq

/-- The exposition of metrics. -/
structure Metrics where
  /-- Metrics are exposed. -/
  enabled : Bool := false
  /-- The address to listen on. -/
  listenAddr : String := "127.0.0.1"
  /-- The port to listen on. -/
  port : Nat := 9464
  /-- The path of the exposition. -/
  endpoint : String := "/metrics"
  deriving DecidableEq

/-- The delivery of reports. -/
structure Delivery where
  /-- Where reports go. -/
  sink : String := "stdout"
  /-- The address of the receiver. -/
  url : String := ""
  /-- The receiver has so many seconds to answer. -/
  timeoutSecs : Nat := 10
  /-- The tag for the environment. -/
  environment : String := "production"
  /-- The tag for the release; none if empty. -/
  release : String := ""
  /-- Reports whose delivery failed are kept. -/
  spool : Bool := true
  /-- So many seconds pass between two attempts. -/
  retryIntervalSecs : Nat := 60
  deriving DecidableEq

/-- The state of the host. -/
structure SystemState where
  /-- The state is added to reports. -/
  enabled : Bool := true
  /-- It is collected again after so many seconds. -/
  refreshSecs : Nat := 60
  /-- So many processes are listed. -/
  topProcesses : Nat := 5
  deriving DecidableEq

/-- A monitor. -/
structure Monitor where
  /-- Its name, which is the source of its reports. -/
  name : String := ""
  /-- The type of its source. -/
  sourceType : String := "file"
  /-- The file, command or address of its source. -/
  path : String := ""
  /-- The arguments of the command. -/
  args : List String := []
  /-- How lines are judged. -/
  format : String := ""
  /-- The pattern for lines of interest. -/
  pattern : String := ""
  /-- The pattern for lines that are not of interest after all. -/
  excludePattern : String := ""
  /-- At most so many reports pass in a window; any number if zero. -/
  rateLimitBurst : Nat := 0
  /-- The length of a window. -/
  rateLimitWindow : String := ""
  /-- An alert is sent after so long without lines. -/
  maxInactivity : String := ""
  /-- The monitor stops at the end of its stream. -/
  stopOnEof : Bool := false
  deriving DecidableEq

/-- The types of sources. -/
def sourceTypes : List String := ["file", "command", "dmesg", "journalctl", "syslog", "stdin"]

/-- The window for the limit on reports: none without a limit, one second unless it is given. -/
def Monitor.window (m : Monitor) : Except ConfigFault (Option Span) :=
  if m.rateLimitBurst = 0 then .ok none
  else if Blank.isEmpty m.rateLimitWindow then .ok (some (Span.ofSeconds 1))
  else (Span.parse m.rateLimitWindow).map some

/-- The time without lines after which an alert is sent; none unless it is given. -/
def Monitor.inactivity (m : Monitor) : Except ConfigFault (Option Span) :=
  if Blank.isEmpty m.maxInactivity then .ok none
  else
    match Span.parse m.maxInactivity with
    | .error e => .error e
    | .ok s =>
      if s = 0 then .error (.invalidValue "max_inactivity" "must be greater than 0")
      else .ok (some s)

end Config

/-- The whole configuration. -/
structure Config where
  /-- General settings. -/
  general : Config.General := {}
  /-- The exposition of metrics. -/
  metrics : Config.Metrics := {}
  /-- The delivery of reports. -/
  delivery : Config.Delivery := {}
  /-- The state of the host. -/
  systemState : Config.SystemState := {}
  /-- The monitors. -/
  monitors : List Config.Monitor := []
  deriving DecidableEq

namespace Config

/-! ### Settings by name -/

/-- The value of a setting. -/
inductive Setting
  | text (s : String)
  | flag (b : Bool)
  | number (n : Nat)
  | texts (ss : List String)

/-- Settings by their names, in the order in which they are written. -/
abbrev Settings := List (String × Setting)

/-- The general settings by name. -/
def General.settings (g : General) : Settings := [
  ("log_level", .text g.logLevel),
  ("log_format", .text g.logFormat),
  ("data_dir", .text g.dataDir),
  ("pid_file", .text g.pidFile),
  ("oneshot", .flag g.oneshot)]

/-- The settings of the exposition by name. -/
def Metrics.settings (m : Metrics) : Settings := [
  ("enabled", .flag m.enabled),
  ("listen_addr", .text m.listenAddr),
  ("port", .number m.port),
  ("endpoint", .text m.endpoint)]

/-- The settings of delivery by name. -/
def Delivery.settings (d : Delivery) : Settings := [
  ("sink", .text d.sink),
  ("url", .text d.url),
  ("timeout_secs", .number d.timeoutSecs),
  ("environment", .text d.environment),
  ("release", .text d.release),
  ("spool", .flag d.spool),
  ("retry_interval_secs", .number d.retryIntervalSecs)]

/-- The settings of the host's state by name. -/
def SystemState.settings (s : SystemState) : Settings := [
  ("enabled", .flag s.enabled),
  ("refresh_secs", .number s.refreshSecs),
  ("top_processes", .number s.topProcesses)]

/-- The settings of a monitor by name. -/
def Monitor.settings (m : Monitor) : Settings := [
  ("name", .text m.name),
  ("type", .text m.sourceType),
  ("path", .text m.path),
  ("args", .texts m.args),
  ("format", .text m.format),
  ("pattern", .text m.pattern),
  ("exclude_pattern", .text m.excludePattern),
  ("rate_limit_burst", .number m.rateLimitBurst),
  ("rate_limit_window", .text m.rateLimitWindow),
  ("max_inactivity", .text m.maxInactivity),
  ("stop_on_eof", .flag m.stopOnEof)]

/-- The sections other than the monitors by name. -/
def sections (c : Config) : List (String × Settings) := [
  ("general", c.general.settings),
  ("metrics", c.metrics.settings),
  ("delivery", c.delivery.settings),
  ("system_state", c.systemState.settings)]

end Config

end LogWatch
