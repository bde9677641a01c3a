import LogWatch.Config.Basic
import LogWatch.Report.Basic

/-!
# Receivers and stamps

A report is **stamped** with the environment and the release of the configuration before it goes to
the receiver, whether it goes there at once or after some time in the spool.
-/

namespace LogWatch

/-- The tags that every report gets before it is delivered. -/
structure Stamp where
  /-- The environment; no tag if empty. -/
  environment : String
  /-- The release; no tag if empty. -/
  release : String
  deriving DecidableEq

namespace Stamp

/-- The stamp of a configuration. -/
def ofConfig (c : Config.Delivery) : Stamp := ⟨c.environment, c.release⟩

/-- A report with one tag more, unless it would be empty. -/
def tag (r : Report) (key value : String) : Report :=
  if value.isEmpty then r else r.withTag key value

/-- A report with its stamp. -/
def apply (s : Stamp) (r : Report) : Report :=
  tag (tag r "environment" s.environment) "release" s.release

end Stamp

/-- Who receives the reports. -/
inductive Receiver
  /-- The standard output, a line for each report. -/
  | stdout
  /-- A server on the web that must answer in time. -/
  | webhook (url : String) (timeout : Span)
  deriving DecidableEq

/-- The receiver of a configuration. -/
def Receiver.ofConfig (c : Config.Delivery) : Except DeliveryFault Receiver :=
  if c.sink = "stdout" then .ok .stdout
  else if c.sink = "webhook" then
    if Blank.isEmpty c.url then .error (.transport "webhook url is empty")
    else .ok (.webhook c.url (Span.ofSeconds c.timeoutSecs))
  else .error (.transport s!"unknown sink '{c.sink}', expected 'stdout' or 'webhook'")

/-- Lines for a reader that may go away. -/
structure LineOutput where
  /-- The lines written, the last one first. -/
  reversed : List String := []
  /-- Somebody reads. -/
  isRead : Bool := true

/-- Writes a report as a line. -/
def LineOutput.deliver (o : LineOutput) (r : Report) : Except DeliveryFault LineOutput :=
  if o.isRead then .ok { o with reversed := r.jsonLine :: o.reversed }
  else .error (.io Fault.systemReason)

end LogWatch
