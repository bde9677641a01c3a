import LogWatch.Config.Reader
import LogWatch.Config.Environment

/-!
# Valid configurations

A configuration is checked section by section and then monitor by monitor; the first fault found is
the one reported. A fault in a monitor names its place in the list.
-/

namespace LogWatch

namespace Config

/-- A check that refuses a value of a field. -/
def refuseIf (refused : Bool) (field reason : String) : Except ConfigFault Unit :=
  if refused then .error (.invalidValue field reason) else .ok ()

/-- A check that a value of a field is one of a list. -/
def requireOneOf (allowed : List String) (value field : String) : Except ConfigFault Unit :=
  refuseIf (!allowed.contains value) field ("must be one of: " ++ ", ".intercalate allowed)

/-- The levels of the program's own log. -/
def logLevels : List String := ["trace", "debug", "info", "warn", "error"]

/-- The formats of the program's own log. -/
def logFormats : List String := ["json", "pretty"]

/-- Where reports may go. -/
def sinks : List String := ["stdout", "webhook"]

/-- Checks the general settings. -/
def General.check (g : General) : Except ConfigFault Unit := do
  requireOneOf logLevels g.logLevel "general.log_level"
  requireOneOf logFormats g.logFormat "general.log_format"

/-- Checks the settings of the exposition, which count only if metrics are exposed. -/
def Metrics.check (m : Metrics) : Except ConfigFault Unit := do
  refuseIf (m.enabled && m.port == 0) "metrics.port" "must not be 0 when metrics are enabled"
  refuseIf (m.enabled && m.endpoint != "/metrics") "metrics.endpoint"
    "only '/metrics' is supported"

/-- The text begins like an address on the web. -/
def isWebAddress (url : String) : Bool := url.startsWith "http://" || url.startsWith "https://"

/-- Checks the settings of delivery. -/
def Delivery.check (d : Delivery) : Except ConfigFault Unit := do
  requireOneOf sinks d.sink "delivery.sink"
  refuseIf (d.sink == "webhook" && !isWebAddress d.url) "delivery.url"
    "webhook sink requires an http(s) url"
  refuseIf (d.timeoutSecs == 0) "delivery.timeout_secs" "must be greater than 0"

/-- The types of sources that need a path. -/
def typesWithPath : List String := ["file", "command", "syslog"]

/-- A fault of a setting, as a fault of the field that holds it. -/
def inField {α : Type} (field : String) : Except ConfigFault α → Except ConfigFault Unit
  | .ok _ => .ok ()
  | .error e => .error (.invalidValue field e.message)

/-- Checks a monitor at a place in the list, after those whose names are given. -/
def Monitor.check (place : Nat) (seen : List String) (m : Monitor) : Except ConfigFault Unit := do
  let field (name : String) : String := s!"monitors[{place}].{name}"
  refuseIf (Blank.isEmpty m.name) (field "name") "must not be empty"
  refuseIf (seen.contains m.name) (field "name") s!"duplicate monitor name '{m.name}'"
  requireOneOf sourceTypes m.sourceType (field "type")
  refuseIf (typesWithPath.contains m.sourceType && Blank.isEmpty m.path) (field "path")
    s!"required for '{m.sourceType}' monitors"
  inField (field "rate_limit_window") m.window
  inField (field "max_inactivity") m.inactivity

/-- Checks the monitors from a place on. -/
def checkMonitors (place : Nat) (seen : List String) : List Monitor → Except ConfigFault Unit
  | [] => .ok ()
  | m :: ms => do
    m.check place seen
    checkMonitors (place + 1) (m.name :: seen) ms

/-- Checks a configuration. -/
def validate (c : Config) : Except ConfigFault Unit := do
  c.general.check
  c.metrics.check
  c.delivery.check
  checkMonitors 0 [] c.monitors

/-! ### Loading -/

/-- The configuration in a file, whose octets are given unless it is missing. -/
def ofFile (path : String) (content : Option Bytes) : Except Fault Config :=
  match content with
  | none => .error (.config (.notFound path))
  | some bytes =>
    match Utf8.decode? bytes with
    | none => .error (.io Fault.systemReason)
    | some text => (parse text).mapError .config

/-- The configuration in a file with the settings of the environment, checked. -/
def load (path : String) (content : Option Bytes) (env : Environment) : Except Fault Config := do
  let c := (← ofFile path content).withEnvironment env
  (c.validate).mapError .config
  return c

end Config

end LogWatch
