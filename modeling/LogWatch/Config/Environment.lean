import LogWatch.Config.Basic
import LogWatch.Text.Utf8

/-!
# Settings from the environment

An environment variable replaces a setting of its name. A variable that is not text, and one that
should be a number or a truth value and is not, leaves the setting as it is. The monitors cannot be
set in this way.
-/

namespace LogWatch

/-- The variables of the environment. -/
abbrev Environment := List (String × Bytes)

namespace Environment

/-- The value of a variable that is text. -/
def text? (env : Environment) (name : String) : Option String :=
  (env.lookup name).bind Utf8.decode?

/-- The truth value that a text spells. -/
def flagOf? (s : String) : Option Bool :=
  if s = "true" then some true else if s = "false" then some false else none

/-- The number of at most so many bits that a text of digits spells; a plus may stand in front. -/
def numberOf? (bits : Nat) (s : String) : Option Nat :=
  let digits := match s.toList with
    | '+' :: ds => ds
    | ds => ds
  if digits.isEmpty || !digits.all Char.isDigit then none
  else
    let n := digits.foldl (fun n c => n * 10 + (c.toNat - 48)) 0
    if n < Nat.pow 2 bits then some n else none

/-- The text of a variable, or the old value. -/
def text (env : Environment) (name old : String) : String := (env.text? name).getD old

/-- The truth value of a variable, or the old value. -/
def flag (env : Environment) (name : String) (old : Bool) : Bool :=
  ((env.text? name).bind flagOf?).getD old

/-- The number of a variable, or the old value. -/
def number (env : Environment) (bits : Nat) (name : String) (old : Nat) : Nat :=
  ((env.text? name).bind (numberOf? bits)).getD old

end Environment

namespace Config

/-- The variables that are settings. -/
def environmentNames : List String :=
  ["GENERAL_LOG_LEVEL", "GENERAL_LOG_FORMAT", "GENERAL_DATA_DIR", "GENERAL_PID_FILE",
    "GENERAL_ONESHOT", "METRICS_ENABLED", "METRICS_LISTEN_ADDR", "METRICS_PORT", "DELIVERY_SINK",
    "DELIVERY_URL", "DELIVERY_TIMEOUT_SECS", "DELIVERY_ENVIRONMENT", "DELIVERY_RELEASE",
    "DELIVERY_SPOOL", "SYSTEM_STATE_ENABLED"].map fun name => "LOGWARDEN_" ++ name

/-- The configuration with the settings of the environment. -/
def withEnvironment (c : Config) (env : Environment) : Config where
  general :=
    { c.general with
      logLevel := env.text "LOGWARDEN_GENERAL_LOG_LEVEL" c.general.logLevel
      logFormat := env.text "LOGWARDEN_GENERAL_LOG_FORMAT" c.general.logFormat
      dataDir := env.text "LOGWARDEN_GENERAL_DATA_DIR" c.general.dataDir
      pidFile := env.text "LOGWARDEN_GENERAL_PID_FILE" c.general.pidFile
      oneshot := env.flag "LOGWARDEN_GENERAL_ONESHOT" c.general.oneshot }
  metrics :=
    { c.metrics with
      enabled := env.flag "LOGWARDEN_METRICS_ENABLED" c.metrics.enabled
      listenAddr := env.text "LOGWARDEN_METRICS_LISTEN_ADDR" c.metrics.listenAddr
      port := env.number 16 "LOGWARDEN_METRICS_PORT" c.metrics.port }
  delivery :=
    { c.delivery with
      sink := env.text "LOGWARDEN_DELIVERY_SINK" c.delivery.sink
      url := env.text "LOGWARDEN_DELIVERY_URL" c.delivery.url
      timeoutSecs := env.number 64 "LOGWARDEN_DELIVERY_TIMEOUT_SECS" c.delivery.timeoutSecs
      environment := env.text "LOGWARDEN_DELIVERY_ENVIRONMENT" c.delivery.environment
      release := env.text "LOGWARDEN_DELIVERY_RELEASE" c.delivery.release
      spool := env.flag "LOGWARDEN_DELIVERY_SPOOL" c.delivery.spool }
  systemState :=
    { c.systemState with
      enabled := env.flag "LOGWARDEN_SYSTEM_STATE_ENABLED" c.systemState.enabled }
  monitors := c.monitors

end Config

end LogWatch
