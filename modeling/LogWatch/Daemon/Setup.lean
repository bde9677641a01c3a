import LogWatch.Config.Validation
import LogWatch.Daemon.State
import LogWatch.Delivery.Stamp
import LogWatch.Net.SocketAddress
import LogWatch.Source.Basic

/-!
# Putting the daemon together

From a configuration that is valid come the receiver of the reports and, for every monitor, its
source and its plan. The first fault found ends the attempt.
-/

namespace LogWatch

/-- Why the daemon could not be started. -/
inductive StartFault
  /-- The configuration is not valid. -/
  | config (f : ConfigFault)
  /-- A monitor could not be put together. -/
  | setup (f : SetupFault)
  /-- A source could not be made. -/
  | source (f : SourceFault)
  /-- The receiver could not be made, or the spool could not be opened. -/
  | delivery (f : DeliveryFault)
  /-- The operating system refused something. -/
  | io (reason : String)
  /-- Something else, in words. -/
  | other (text : String)
  deriving DecidableEq

/-- The wording of a fault. -/
def StartFault.message : StartFault → String
  | .config f => (Fault.config f).message
  | .setup f => f.message
  | .source f => f.message
  | .delivery f => f.message
  | .io reason => reason
  | .other text => text

namespace Daemon

/-- What is made of a configured monitor. -/
structure Assignment where
  /-- Its rules. -/
  plan : Monitor.Plan
  /-- Its source. -/
  source : Source

/-- The source and the plan of a monitor. -/
def assign (c : Config) (m : Config.Monitor) : Except StartFault Assignment := do
  let finite := Source.stopsAtEnd c.general m
  let source ← (Source.ofConfig m finite).mapError .source
  let draft ← (Monitor.Draft.ofConfig m).mapError .setup
  let draft := { draft with
    source := some source.name
    hasReceiver := true
    keepsFailed := c.delivery.spool
    stopsAtEnd := finite }
  return ⟨← draft.complete.mapError .setup, source⟩

/-- The sources and the plans of all monitors. -/
def assignAll (c : Config) : Except StartFault (List Assignment) := c.monitors.mapM (assign c)

/-- Checks a configuration before anything is made of it. -/
def check (c : Config) : Except StartFault Unit := c.validate.mapError .config

/-- Checks where metrics are exposed, if they are. -/
def checkMetrics (c : Config) : Except StartFault Unit :=
  if c.metrics.enabled then (c.metrics.socket.map fun _ => ()).mapError .other else .ok ()

/-- The receiver of the reports. -/
def receiver (c : Config) : Except StartFault Receiver :=
  (Receiver.ofConfig c.delivery).mapError .delivery

/-- The time between two passes over the spool. -/
def resendPeriod (c : Config) : Span := Span.ofSeconds c.delivery.retryIntervalSecs

end Daemon

end LogWatch
