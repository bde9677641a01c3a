import LogWatch.Json.Writer
import LogWatch.Report.Identity
import LogWatch.Severity
import LogWatch.Text.Lines

/-!
# Reports

A **report** is what is sent out: one incident, or one alert about a source that fell silent or
resumed. Tags, contexts and extra fields are maps in the order of their keys.

The JSON text of a report has its fields in the order of the structure, and all its maps in the
order of their keys.
-/

namespace LogWatch

/-- A unit of delivery. -/
structure Report where
  /-- The identifier. -/
  eventId : String
  /-- The lines of the incident, or the text of the alert. -/
  message : String
  /-- How grave it is. -/
  severity : Severity
  /-- The time of its making, in seconds since 1970. -/
  timestamp : Float
  /-- Tags to search by. -/
  tags : SortedMap String
  /-- Named groups of fields. -/
  contexts : SortedMap Json.Members
  /-- Further fields. -/
  extra : SortedMap Json

namespace Report

/-- A report without tags, contexts and extra fields. -/
def new (origin : Origin) (message : String) (severity : Severity) : Report where
  eventId := origin.eventId
  message := message
  severity := severity
  timestamp := origin.madeAt
  tags := []
  contexts := []
  extra := []

/-- Sets a tag. -/
def withTag (r : Report) (key value : String) : Report :=
  { r with tags := SortedMap.insert key value r.tags }

/-- Sets a context. -/
def withContext (r : Report) (name : String) (context : Json.Members) : Report :=
  { r with contexts := SortedMap.insert name context r.contexts }

/-- Sets an extra field. -/
def withExtra (r : Report) (key : String) (value : Json) : Report :=
  { r with extra := SortedMap.insert key value r.extra }

/-- The value of a tag. -/
def tag? (r : Report) (key : String) : Option String := SortedMap.get? r.tags key

/-- The severity and the first line of the message. -/
def headline (r : Report) : String := s!"[{r.severity.name}] {Lines.firstOf r.message}"

/-- The tags as a JSON object. -/
def tagsJson (r : Report) : Json := .obj (r.tags.map fun (k, v) => (k, .str v))

/-- The contexts as a JSON object. -/
def contextsJson (r : Report) : Json := .obj (r.contexts.map fun (k, ms) => (k, .obj ms))

/-- The fields in the order in which they are written. -/
def fields (r : Report) : List (String × Json) :=
  [("event_id", .str r.eventId),
   ("message", .str r.message),
   ("severity", .str r.severity.name),
   ("timestamp", .num (.float r.timestamp)),
   ("tags", r.tagsJson),
   ("contexts", r.contextsJson),
   ("extra", .obj r.extra)]

/-- The report as one line of JSON, without a line feed. -/
def jsonText (r : Report) : String := (Json.obj r.fields).render

/-- The line that is written for a report. -/
def jsonLine (r : Report) : String := r.jsonText ++ "\n"

end Report

end LogWatch
