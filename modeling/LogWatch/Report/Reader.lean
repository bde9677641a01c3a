import LogWatch.Json.Reader
import LogWatch.Report.Basic

/-!
# Reading reports

A stored report is an object with at least an identifier, a message, a severity and a timestamp; a
list of the seven fields in their order is understood too, and so is one that stops after the
required four. A field may be given once; fields that a report does not have are skipped over,
whatever they hold.
-/

namespace LogWatch

namespace Report

open Json (Node)

/-- The fields of a report as far as they have been read. -/
structure Draft where
  eventId : Option String
  message : Option String
  severity : Option Severity
  timestamp : Option Float
  tags : Option (SortedMap String)
  contexts : Option (SortedMap Json.Members)
  extra : Option (SortedMap Json)

/-- Nothing has been read. -/
def Draft.empty : Draft := ⟨none, none, none, none, none, none, none⟩

/-- The report, when no required field is missing. -/
def Draft.report? (d : Draft) : Option Report := do
  pure
    { eventId := ← d.eventId
      message := ← d.message
      severity := ← d.severity
      timestamp := ← d.timestamp
      tags := d.tags.getD []
      contexts := d.contexts.getD []
      extra := d.extra.getD [] }

/-- The text of a string node. -/
def textOf? : Node → Option String
  | .str s => s
  | _ => none

/-- The severity that a node names: a string, or an object with that one member and no value. -/
def severityOf? : Node → Option Severity
  | .str s => s.bind Severity.ofName?
  | .obj [(key, .null)] => key.bind Severity.ofName?
  | _ => none

/-- The number of a node. -/
def numberOf? : Node → Option Float
  | .num n => n.map fun
    | .int n => Binary64.ofInt n
    | .float x => x
  | _ => none

/-- The members of a node, each read by `read`; of members with one name the last counts. -/
def mapOf? {α : Type} (read : Node → Option α) : Node → Option (SortedMap α)
  | .obj ms => do
    let pairs ← ms.mapM fun (key, n) => do pure (← key, ← read n)
    pure (SortedMap.ofList pairs)
  | _ => none

/-- The members of an object node within which `depth` more levels may be nested. -/
def membersOf? (depth : Nat) (n : Node) : Option Json.Members :=
  match n with
  | .obj _ => match n.value? depth with
    | some (.obj ms) => some ms
    | _ => none
  | _ => none

/-- The tags that a node holds. -/
def tagsOf? : Node → Option (SortedMap String) := mapOf? textOf?

/-- The contexts that a node holds. They lie two levels deep in the report. -/
def contextsOf? : Node → Option (SortedMap Json.Members) := mapOf? (membersOf? (Node.maxDepth - 2))

/-- The extra fields that a node holds. They lie two levels deep in the report. -/
def extraOf? : Node → Option (SortedMap Json) := mapOf? (Node.value? (Node.maxDepth - 2))

/-- Reads one more field by its name. -/
def Draft.field? (d : Draft) (name : String) (n : Node) : Option Draft :=
  if name = "event_id" then
    if d.eventId.isSome then none else (textOf? n).map fun x => { d with eventId := some x }
  else if name = "message" then
    if d.message.isSome then none else (textOf? n).map fun x => { d with message := some x }
  else if name = "severity" then
    if d.severity.isSome then none else (severityOf? n).map fun x => { d with severity := some x }
  else if name = "timestamp" then
    if d.timestamp.isSome then none else (numberOf? n).map fun x => { d with timestamp := some x }
  else if name = "tags" then
    if d.tags.isSome then none else (tagsOf? n).map fun x => { d with tags := some x }
  else if name = "contexts" then
    if d.contexts.isSome then none else (contextsOf? n).map fun x => { d with contexts := some x }
  else if name = "extra" then
    if d.extra.isSome then none else (extraOf? n).map fun x => { d with extra := some x }
  else some d

/-- The names of the fields, in the order in which a list gives them. -/
def fieldNames : List String :=
  ["event_id", "message", "severity", "timestamp", "tags", "contexts", "extra"]

/-- Reads one more member of an object. -/
def Draft.member? (d : Draft) (member : Option String × Node) : Option Draft :=
  member.1.bind fun name => d.field? name member.2

/-- The report that a node holds. -/
def ofNode? : Node → Option Report
  | .obj ms => (ms.foldlM Draft.member? Draft.empty).bind Draft.report?
  | .arr items =>
    if fieldNames.length < items.length then none
    else (((fieldNames.map some).zip items).foldlM Draft.member? Draft.empty).bind Draft.report?
  | _ => none

/-- Reads the JSON text of a report. -/
def read? (text : Bytes) : Option Report := (Node.ofBytes? text).bind ofNode?

end Report

end LogWatch
