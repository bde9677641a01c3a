import LogWatch.Text.Blank

/-!
# Severity

How grave an incident is. A syslog severity from 0 to 7 maps onto five levels, and a **level word**
of a structured log is understood in several spellings, in any case and with blanks around it.
-/

namespace LogWatch

/-- The severity of a report, gravest first. -/
inductive Severity
  | fatal
  | error
  | warning
  | info
  | debug
  deriving DecidableEq

/-- Where nothing tells otherwise, an incident is an error. -/
instance : Inhabited Severity := ⟨.error⟩

namespace Severity

/-- The name in reports. -/
def name : Severity → String
  | .fatal => "fatal"
  | .error => "error"
  | .warning => "warning"
  | .info => "info"
  | .debug => "debug"

/-- All severities, gravest first. -/
def all : List Severity := [.fatal, .error, .warning, .info, .debug]

/-- The severity of that name. -/
def ofName? (name : String) : Option Severity := all.find? fun s => s.name = name

/-- The severity for a syslog severity. -/
def ofSyslog (n : Nat) : Severity :=
  if n ≤ 2 then .fatal
  else if n = 3 then .error
  else if n = 4 then .warning
  else if n ≤ 6 then .info
  else .debug

/-- The severity that a level word stands for. -/
def ofLevelWord? (word : String) : Option Severity :=
  let word := (Blank.trim word).toLower
  if word ∈ ["fatal", "critical", "alert", "emergency", "panic"] then some .fatal
  else if word ∈ ["error", "err"] then some .error
  else if word ∈ ["warning", "warn"] then some .warning
  else if word = "info" then some .info
  else if word ∈ ["debug", "trace"] then some .debug
  else none

theorem ofName?_name (s : Severity) : ofName? s.name = some s := by
  cases s <;> rfl

end Severity

end LogWatch
