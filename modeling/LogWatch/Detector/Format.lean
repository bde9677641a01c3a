import LogWatch.Fault
import LogWatch.Text.Blank

/-!
# Detector formats

A monitor says how its lines are judged by naming a **format**. Two formats judge by a pattern that
the monitor gives; the others know their kind of log.
-/

namespace LogWatch

/-- How lines are judged. -/
inductive DetectorFormat
  /-- By a pattern. -/
  | custom
  /-- As kernel messages. -/
  | kernel
  /-- As lines of the nginx access log. -/
  | nginx
  /-- As lines of the nginx error log. -/
  | nginxError
  /-- By one field of a JSON object. -/
  | json
  /-- As syslog messages. -/
  | syslog
  deriving DecidableEq

namespace DetectorFormat

/-- All formats. -/
def all : List DetectorFormat := [.custom, .kernel, .nginx, .nginxError, .json, .syslog]

/-- The name of a format in a configuration. -/
def name : DetectorFormat → String
  | .custom => "custom"
  | .kernel => "dmesg"
  | .nginx => "nginx"
  | .nginxError => "nginx-error"
  | .json => "json"
  | .syslog => "syslog"

/-- The format judges by a pattern of the monitor. -/
def requiresPattern : DetectorFormat → Bool
  | .custom => true
  | .json => true
  | _ => false

/-- The format of a name, blanks around it aside; no name at all stands for a pattern. -/
def ofName (text : String) : Except SetupFault DetectorFormat :=
  let trimmed := Blank.trim text
  if trimmed.isEmpty then .ok .custom
  else
    match all.find? fun f => f.name == trimmed with
    | some f => .ok f
    | none => .error (.unknownFormat trimmed)

/-- The format that a monitor uses: the one it names, else the one that goes with a source of
messages of one kind, unless there is a pattern. -/
def infer (sourceType format pattern : String) : Except SetupFault DetectorFormat :=
  if !(Blank.trim format).isEmpty then ofName format
  else if pattern.isEmpty && sourceType == "dmesg" then .ok .kernel
  else if pattern.isEmpty && sourceType == "syslog" then .ok .syslog
  else .ok .custom

end DetectorFormat

end LogWatch
