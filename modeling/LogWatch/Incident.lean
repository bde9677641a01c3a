import LogWatch.Batch
import LogWatch.Report.Basic

/-!
# From batches to reports

The report of a batch has the body as its message, its source and the spelling of its anchor as
tags, and what was taken from its first line as tags, context and extra fields. Its severity is the
syslog severity of the first line; failing that, the first of the level fields of its context that
holds a known word; failing that, an error.
-/

namespace LogWatch

namespace Incident

/-- The context that holds the fields of the first line. -/
def logDataContext : String := "Log Data"

/-- The context that holds the state of the host. -/
def serverStateContext : String := "Server State"

/-- The kind of alert about a source without lines. -/
def inactivityAlert : String := "inactivity"

/-- The fields that may name a severity, the first counting most. -/
def levelFields : List String := ["level", "severity", "log_level", "type"]

/-- The severity that the fields of a line name. -/
def severityOfContext? (context : Json.Members) : Option Severity :=
  (levelFields.filterMap fun field =>
    (SortedMap.get? context field).bind Json.asString?).findSome? Severity.ofLevelWord?

/-- The severity of a batch. -/
def severityOf (b : Batch) : Severity :=
  match b.metadata.priority with
  | some p => Severity.ofSyslog p.severity
  | none => (b.metadata.context.bind severityOfContext?).getD .error

/-- A report with tags for the anchor. -/
def tagAnchor (r : Report) : Option LineTimestamp → Report
  | some t => r.withTag "log_timestamp" (Utf8.decodeLossy t.text)
  | none => r

/-- A report with tags for the syslog priority. -/
def tagPriority (r : Report) : Option Syslog.Priority → Report
  | some p =>
    (r.withTag "syslog_facility" (toString p.facility)).withTag "syslog_severity"
      (toString p.severity)
  | none => r

/-- A report with the fields of the first line, unless there are none. -/
def addContext (r : Report) : Option Json.Members → Report
  | some (p :: context) => r.withContext logDataContext (p :: context)
  | _ => r

/-- A report with the state of the host. -/
def addState (r : Report) : Option Json.Members → Report
  | some state => r.withContext serverStateContext state
  | none => r

/-- The report of a batch. -/
def report (origin : Origin) (source : String) (b : Batch) (state : Option Json.Members) :
    Report :=
  let r := (Report.new origin b.message (severityOf b)).withTag "source" source
  let r := r.withExtra "line_count" (.ofNat b.lineCount)
  let r := r.withExtra "byte_count" (.ofNat b.byteCount)
  let r := r.withExtra "raw_line" (.str b.metadata.rawLine)
  addState (addContext (tagPriority (tagAnchor r b.anchor) b.metadata.priority)
    b.metadata.context) state

/-- The alert that a source has fallen silent. -/
def silenceAlert (origin : Origin) (source : String) (threshold : Span) : Report :=
  ((Report.new origin s!"No logs received from {source} for {threshold.render}" .warning).withTag
    "source" source).withTag "alert_type" inactivityAlert

/-- The alert that a source has resumed. -/
def recoveryAlert (origin : Origin) (source : String) : Report :=
  ((Report.new origin s!"Logs resumed for {source}" .info).withTag "source" source).withTag
    "alert_type" inactivityAlert

end Incident

end LogWatch
