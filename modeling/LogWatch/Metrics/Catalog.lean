/-!
# The catalog of metrics

The names under which the program is observed, with what each of them measures, the labels that
tell series of one name apart, and the outcomes that a report may have.
-/

namespace LogWatch

namespace Metrics

/-- What a metric does over time. -/
inductive Kind
  /-- It only grows. -/
  | counter
  /-- It goes up and down. -/
  | gauge
  deriving DecidableEq

/-- The name of a kind. -/
def Kind.name : Kind → String
  | .counter => "counter"
  | .gauge => "gauge"

/-- The label for the monitor. -/
def sourceLabel : String := "source"

/-- The label for the outcome of a report. -/
def statusLabel : String := "status"

/-- What becomes of a report. -/
inductive Outcome
  /-- It was delivered. -/
  | sent
  /-- Its delivery failed. -/
  | failed
  /-- Too many reports passed in the same window. -/
  | rateLimited
  /-- The queue before delivery was full. -/
  | dropped
  deriving DecidableEq

/-- All outcomes. -/
def Outcome.all : List Outcome := [.sent, .failed, .rateLimited, .dropped]

/-- The name of an outcome. -/
def Outcome.name : Outcome → String
  | .sent => "sent"
  | .failed => "failed"
  | .rateLimited => "rate_limited"
  | .dropped => "dropped"

/-- Lines read. -/
def linesProcessed : String := "logwarden_lines_processed_total"

/-- Lines of interest. -/
def issuesDetected : String := "logwarden_issues_detected_total"

/-- Lines of interest that were excluded. -/
def linesExcluded : String := "logwarden_lines_excluded_total"

/-- Lines that were cut. -/
def linesTruncated : String := "logwarden_lines_truncated_total"

/-- Reports by outcome. -/
def reports : String := "logwarden_reports_total"

/-- Alerts that a source fell silent. -/
def inactivityAlerts : String := "logwarden_inactivity_alerts_total"

/-- Streams opened again. -/
def sourceRestarts : String := "logwarden_source_restarts_total"

/-- When the last line was read. -/
def lastActivity : String := "logwarden_last_activity_timestamp_seconds"

/-- Reports that wait for another attempt. -/
def spoolDepth : String := "logwarden_spool_depth"

/-- How long the program has been running. -/
def uptime : String := "logwarden_daemon_uptime_seconds"

/-- Which build of the program is running. -/
def buildInfo : String := "logwarden_daemon_build_info"

/-- All metrics with their kinds and descriptions. -/
def catalog : List (String × Kind × String) := [
  (linesProcessed, .counter, "Total number of log lines read from each source"),
  (issuesDetected, .counter, "Total number of log lines matched by the source's detector"),
  (linesExcluded, .counter,
    "Total number of matched lines discarded by the exclusion pattern"),
  (linesTruncated, .counter, "Total number of log lines cut at the maximum line length"),
  (reports, .counter, "Reports by outcome (sent, failed, rate_limited, dropped)"),
  (inactivityAlerts, .counter, "Number of times a source crossed its inactivity threshold"),
  (sourceRestarts, .counter, "Number of times a source stream was reopened after EOF or error"),
  (lastActivity, .gauge, "Unix time of the last line read from each source"),
  (spoolDepth, .gauge, "Reports waiting in the retry spool"),
  (uptime, .gauge, "Daemon uptime in seconds"),
  (buildInfo, .gauge, "Build information (always 1)")]

/-- The names of the metrics of one kind, in the order of the catalog. -/
def namesOf (kind : Kind) : List String :=
  (catalog.filter fun (_, k, _) => decide (k = kind)).map (·.1)

/-- What a metric measures. -/
def description? (name : String) : Option String := (catalog.lookup name).map (·.2)

end Metrics

end LogWatch
