/-!
# Faults

What can go wrong, by cause. Each kind of fault has one function that gives its wording, and the
kinds meet in **`Fault`**, whose wording says first where the fault lies.

A pattern, a configuration text or a stored report that does not read is reported without the
reader's own words: `Fault.unreadablePattern` and its like stand for them. The same holds for the
operating system, except where a source is opened.
-/

namespace LogWatch

/-- A fault in the configuration. -/
inductive ConfigFault
  /-- There is no configuration file. -/
  | notFound (path : String)
  /-- The text is not a configuration. -/
  | unreadable (reason : String)
  /-- A field has a value that it may not have. -/
  | invalidValue (field reason : String)
  deriving DecidableEq

/-- A fault of a log source. -/
inductive SourceFault
  /-- The source could not be opened. -/
  | openFailed (name reason : String)
  /-- The source could not be closed. -/
  | closeFailed (name reason : String)
  /-- Reading failed. -/
  | io (reason : String)
  deriving DecidableEq

/-- A fault in the choice of a detector. -/
inductive DetectorFault
  /-- The pattern cannot be used. -/
  | invalidPattern (format reason : String)
  /-- There is no such format. -/
  | unknownFormat (format : String)
  deriving DecidableEq

/-- A fault in the delivery of a report. -/
inductive DeliveryFault
  /-- The receiver was not reached. -/
  | transport (reason : String)
  /-- The receiver refused the report. -/
  | rejected (status : UInt16)
  /-- The report could not be written as JSON. -/
  | serialization (reason : String)
  /-- The report could not be kept for another attempt. -/
  | queue (reason : String)
  /-- Reading or writing failed. -/
  | io (reason : String)
  deriving DecidableEq

/-- A fault found while a monitor is put together. -/
inductive SetupFault
  /-- The pattern cannot be used. -/
  | invalidPattern (format pattern reason : String)
  /-- There is no such format. -/
  | unknownFormat (format : String)
  /-- A field has a value that it may not have. -/
  | config (field reason : String)
  /-- A pattern that comes with the program does not read. -/
  | builtinPattern (reason : String)
  deriving DecidableEq

/-- Any fault. -/
inductive Fault
  | config (f : ConfigFault)
  | source (f : SourceFault)
  | detector (f : DetectorFault)
  | delivery (f : DeliveryFault)
  | io (reason : String)
  deriving DecidableEq

/-- Stands for the words of the pattern reader. -/
def Fault.unreadablePattern : String := "<regex>"

/-- Stands for the words of the configuration reader. -/
def Fault.unreadableConfig : String := "<toml>"

/-- Stands for the words of the operating system. -/
def Fault.systemReason : String := "<io>"

/-- What the operating system says of a missing file. -/
def Fault.noSuchFile : String := "No such file or directory (os error 2)"

/-- The wording of a fault in the configuration. -/
def ConfigFault.message : ConfigFault → String
  | .notFound path => s!"config file not found: {path}"
  | .unreadable reason => s!"failed to parse config: {reason}"
  | .invalidValue field reason => s!"invalid config value for '{field}': {reason}"

/-- The wording of a fault of a source. -/
def SourceFault.message : SourceFault → String
  | .openFailed name reason => s!"failed to open source '{name}': {reason}"
  | .closeFailed name reason => s!"failed to close source '{name}': {reason}"
  | .io reason => s!"io error: {reason}"

/-- The wording of a fault in the choice of a detector. -/
def DetectorFault.message : DetectorFault → String
  | .invalidPattern format reason => s!"invalid pattern for '{format}': {reason}"
  | .unknownFormat format => s!"unknown detector format: {format}"

/-- The wording of a fault in delivery. -/
def DeliveryFault.message : DeliveryFault → String
  | .transport reason => s!"transport error: {reason}"
  | .rejected status => s!"report rejected with status {status}"
  | .serialization reason => s!"serialization error: {reason}"
  | .queue reason => s!"retry queue error: {reason}"
  | .io reason => s!"io error: {reason}"

/-- The wording of a fault in putting a monitor together. -/
def SetupFault.message : SetupFault → String
  | .invalidPattern format pattern reason =>
    s!"invalid pattern for {format} detector: '{pattern}': {reason}"
  | .unknownFormat format => s!"unknown detector format: {format}"
  | .config field reason => s!"config error: {field}: {reason}"
  | .builtinPattern reason => s!"regex error: {reason}"

/-- The wording of any fault. -/
def Fault.message : Fault → String
  | .config f => s!"config error: {f.message}"
  | .source f => s!"source error: {f.message}"
  | .detector f => s!"detector error: {f.message}"
  | .delivery f => s!"delivery error: {f.message}"
  | .io reason => s!"io error: {reason}"

/-- A fault in a monitor's configuration, met while the monitor is put together. -/
def SetupFault.ofConfig : ConfigFault → SetupFault
  | .invalidValue field reason => .config field reason
  | f => .config "monitor" f.message

/-- A fault in putting a monitor together, by where it lies. -/
def SetupFault.toFault : SetupFault → Fault
  | .invalidPattern format _ reason => .detector (.invalidPattern format reason)
  | .unknownFormat format => .detector (.unknownFormat format)
  | .config field reason => .config (.invalidValue field reason)
  | .builtinPattern reason => .detector (.invalidPattern "regex" reason)

end LogWatch
