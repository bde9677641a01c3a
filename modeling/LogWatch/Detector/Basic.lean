import LogWatch.Detector.FieldPattern
import LogWatch.Detector.Format
import LogWatch.Detector.KernelTrail
import LogWatch.Detector.LinePattern
import LogWatch.Timestamp.Nginx
import LogWatch.Timestamp.Syslog

/-!
# Detectors

A **detector** judges the lines of one monitor. Some detectors can do more: find a context in a
line, find the message in it, or find the timestamp of their own form. What a detector cannot do is
absent rather than empty.

Only the detector of kernel messages remembers anything from one line to the next.
-/

namespace LogWatch

/-- Judges lines. -/
inductive Detector
  /-- By a pattern. -/
  | custom (pattern : LinePattern)
  /-- As kernel messages, by keywords and the trail of the last message of interest. -/
  | kernel (keywords : Regex)
  /-- As lines of nginx logs. -/
  | nginx (keywords : LinePattern)
  /-- By one member of a JSON object. -/
  | json (pattern : FieldPattern)
  /-- As syslog messages. -/
  | syslog (keywords : LinePattern)

namespace Detector

/-- The keywords of kernel messages. -/
def kernelKeywords : String := "(?i)(error|fail|panic|oops|exception)"

/-- The keywords of nginx logs. -/
def nginxKeywords : String := "(?i)(error|critical|crit|alert|emerg)"

/-- The keywords of syslog messages. -/
def syslogKeywords : String := "(?i)\\b(emerg|alert|crit|critical|error|err|fail|panic)\\b"

/-- Messages of this severity, or a graver one, need no keyword. -/
def alertingSeverity : Nat := 3

/-- The name of the kind of detector. -/
def kind : Detector → String
  | .custom _ => "custom"
  | .kernel _ => "dmesg"
  | .nginx _ => "nginx"
  | .json _ => "json"
  | .syslog _ => "syslog"

/-- The detector of a format. -/
def build (format : DetectorFormat) (pattern : String) : Except SetupFault Detector :=
  if format.requiresPattern && (Blank.trim pattern).isEmpty then
    .error (.invalidPattern format.name pattern "pattern is required")
  else
    match format with
    | .custom => (LinePattern.new "custom" pattern).map .custom
    | .kernel =>
      match Regex.read? kernelKeywords with
      | some r => .ok (.kernel r)
      | none => .error (.builtinPattern Fault.unreadablePattern)
    | .nginx => (LinePattern.new "custom" nginxKeywords).map .nginx
    | .nginxError => (LinePattern.new "custom" nginxKeywords).map .nginx
    | .json => (FieldPattern.new pattern).map .json
    | .syslog => (LinePattern.new "custom" syslogKeywords).map .syslog

/-- Judges a line, given what is remembered of earlier ones, and says what is remembered now. -/
def detect (d : Detector) (trail : Option KernelTrail) (now : Moment) (line : Bytes) :
    Bool × Option KernelTrail :=
  match d with
  | .custom p => (p.isMatch line, trail)
  | .kernel keywords =>
    if keywords.isMatch line then (true, KernelTrail.ofLine? now line <|> trail)
    else (trail.any fun t => t.covers now line, trail)
  | .nginx p => (p.isMatch line, trail)
  | .json p => (p.isMatch line, trail)
  | .syslog p =>
    ((Syslog.priority? line).any (fun priority => decide (priority.severity ≤ alertingSeverity))
      || p.isMatch line, trail)

/-- How the detector finds a context in a line. -/
def contextReader? : Detector → Option (Bytes → Option Json.Members)
  | .json _ => some FieldPattern.document?
  | .syslog _ => some fun line => (Syslog.priority? line).map fun priority =>
      [("syslog_facility", .ofNat priority.facility), ("syslog_severity", .ofNat priority.severity)]
  | _ => none

/-- How the detector finds the message in a line. -/
def messageReader? : Detector → Option (Bytes → Bytes)
  | .kernel _ => some KernelTrail.message
  | _ => none

/-- How the detector finds the timestamp of its own form, as seen from a time. -/
def timestampReader? : Detector → Option (WallTime → Bytes → Option LineTimestamp)
  | .nginx _ => some fun _ line => Nginx.errorTimestamp? line <|> Nginx.accessTimestamp? line
  | .json _ => some fun _ line => FieldPattern.timestamp? line
  | .syslog _ => some Syslog.timestamp?
  | _ => none

end Detector

end LogWatch
