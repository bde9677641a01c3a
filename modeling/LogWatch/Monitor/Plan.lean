import LogWatch.Batch
import LogWatch.Config.Basic
import LogWatch.Detector.Basic
import LogWatch.Timestamp.Extract

/-!
# What a monitor is to do

A **plan** says by which rules a monitor works. It is drawn up from a **draft**, in which the
source, the detector and the receiver of reports may still be missing.
-/

namespace LogWatch

namespace Monitor

/-- The rules of a monitor. -/
structure Plan where
  /-- The name of the source, which is also the name of the monitor. -/
  name : String
  /-- Judges the lines. -/
  detector : Detector
  /-- Lines of interest that match are passed over. -/
  exclusion : Option LinePattern
  /-- At most so many reports of batches pass in a window. -/
  rateLimit : Option (Nat × Span)
  /-- An alert is sent after so long without lines. -/
  inactivity : Option Span
  /-- Reports whose delivery failed are kept for another attempt. -/
  keepsFailed : Bool
  /-- The monitor stops at the end of its stream. -/
  stopsAtEnd : Bool
  /-- The source is opened again so long after its stream has ended. -/
  reopenDelay : Span

/-- The time after which a source is opened again. -/
def standardReopenDelay : Span := Span.ofSeconds 1

/-- A plan that is being drawn up. -/
structure Draft where
  /-- The name of the source, once there is a source. -/
  source : Option String := none
  /-- Judges the lines. -/
  detector : Option Detector := none
  /-- Lines of interest that match are passed over. -/
  exclusion : Option LinePattern := none
  /-- At most so many reports of batches pass in a window. -/
  rateLimit : Option (Nat × Span) := none
  /-- An alert is sent after so long without lines. -/
  inactivity : Option Span := none
  /-- There is a receiver of reports. -/
  hasReceiver : Bool := false
  /-- Reports whose delivery failed are kept for another attempt. -/
  keepsFailed : Bool := false
  /-- The monitor stops at the end of its stream. -/
  stopsAtEnd : Bool := false
  /-- The source is opened again so long after its stream has ended. -/
  reopenDelay : Span := standardReopenDelay

namespace Draft

/-- A setting of a monitor, with its fault as one of putting the monitor together. -/
def setting {α : Type} (r : Except ConfigFault α) : Except SetupFault α :=
  r.mapError SetupFault.ofConfig

/-- The draft for a configured monitor. -/
def ofConfig (c : Config.Monitor) : Except SetupFault Draft := do
  let format ← DetectorFormat.infer c.sourceType c.format c.pattern
  let detector ← Detector.build format c.pattern
  let exclusion ← LinePattern.exclusion c.excludePattern
  let window ← setting c.window
  let inactivity ← setting c.inactivity
  return {
    detector := some detector
    exclusion := exclusion
    rateLimit := window.map fun w => (c.rateLimitBurst, w)
    inactivity := inactivity
    stopsAtEnd := c.stopOnEof }

/-- What must be in a draft. -/
def require {α : Type} (name : String) : Option α → Except SetupFault α
  | some x => .ok x
  | none => .error (.config name "required")

/-- The plan of a draft that misses nothing. -/
def complete (d : Draft) : Except SetupFault Plan := do
  let name ← require "source" d.source
  let detector ← require "detector" d.detector
  if !d.hasReceiver then throw (.config "sink" "required")
  return {
    name, detector
    exclusion := d.exclusion
    rateLimit := d.rateLimit
    inactivity := d.inactivity
    keepsFailed := d.keepsFailed
    stopsAtEnd := d.stopsAtEnd
    reopenDelay := d.reopenDelay }

end Draft

namespace Plan

/-- The line is excluded. -/
def excludes (p : Plan) (line : Bytes) : Bool := p.exclusion.any fun e => e.isMatch line

/-- The timestamp of a line: by the detector, if it has its own form, or by any form. -/
def timestamp? (p : Plan) (now : WallTime) (line : Bytes) : Option LineTimestamp :=
  (p.detector.timestampReader?.bind fun read => read now line) <|> LineTimestamp.extract? now line

/-- The line as it goes into a batch. -/
def messageOf (p : Plan) (line : Bytes) : Bytes :=
  match p.detector.messageReader? with
  | some f => f line
  | none => line

/-- What is taken from the first line of a batch. -/
def metadata (p : Plan) (line : Bytes) : LineMetadata where
  priority := Syslog.priority? line
  context := p.detector.contextReader?.bind fun read => read line
  rawLine := Utf8.decodeLossy line

end Plan

end Monitor

end LogWatch
