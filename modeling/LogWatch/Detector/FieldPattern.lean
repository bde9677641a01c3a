import LogWatch.Fault
import LogWatch.Json.Reader
import LogWatch.Json.Writer
import LogWatch.Number.Plain
import LogWatch.Regex.Reader
import LogWatch.Timestamp.DateTime

/-!
# Patterns for a field

A **field pattern** `field:pattern` judges a line that is a JSON object by one of its members. A
string is judged by its characters, any other value by its JSON text. The same object serves as the
context of a report and, if one of a few members holds a time, gives the line its timestamp.
-/

namespace LogWatch

/-- A pattern for one member of an object. -/
structure FieldPattern where
  /-- The name of the member. -/
  field : String
  /-- The pattern for its value. -/
  pattern : Regex

namespace FieldPattern

/-- The text before the first colon and that after it, without blanks around them. -/
def split? (text : String) : Option (String × String) :=
  (Regex.splitAt? [':'] text.toList).map fun (field, rest) =>
    (Blank.trim (String.ofList field), Blank.trim (String.ofList rest))

/-- The field pattern that a text spells. -/
def new (text : String) : Except SetupFault FieldPattern :=
  let invalid (reason : String) := Except.error (SetupFault.invalidPattern "json" text reason)
  match split? text with
  | none => invalid "expected 'field:regex'"
  | some (field, expression) =>
    if field.isEmpty then invalid "field name is empty"
    else if expression.isEmpty then invalid "regex is empty"
    else
      match Regex.readForText? expression with
      | none => invalid Fault.unreadablePattern
      | some r => .ok ⟨field, r⟩

/-- The members of a line that is a JSON object. -/
def document? (line : Bytes) : Option Json.Members :=
  match Json.read? line with
  | some (.obj ms) => some ms
  | _ => none

/-- A value as it is judged. -/
def comparable : Json → String
  | .str s => s
  | v => v.render

/-- There is an object, and the pattern matches its member. -/
def judges (p : FieldPattern) (document : Option Json.Members) : Bool :=
  match document with
  | none => false
  | some ms => (SortedMap.get? ms p.field).any fun v => p.pattern.isMatchText (comparable v)

/-- The line is an object whose member the pattern matches. -/
def isMatch (p : FieldPattern) (line : Bytes) : Bool := p.judges (document? line)

/-! ### Timestamps -/

/-- The members that may hold a time, those asked first in front. -/
def timestampFields : List String := ["time", "timestamp", "ts", "date", "@timestamp"]

/-- Greater numbers than this count milliseconds. -/
def millisThreshold : Float := 1e11

/-- The timestamp that a value gives. -/
def timestampOf? : Json → Option LineTimestamp
  | .str s => (DateTime.epoch? s).map fun epoch => ⟨epoch, Bytes.ofString s⟩
  | .num n => do
    let raw ← (Json.num n).asFloat?
    let epoch := if raw > millisThreshold then raw / 1000.0 else raw
    return ⟨epoch, Bytes.ofString (String.ofList (Plain.fixed 3 epoch))⟩
  | _ => none

/-- The timestamp of an object, if there is one: that of the first member that gives one. -/
def timestampIn? (document : Option Json.Members) : Option LineTimestamp := do
  let ms ← document
  timestampFields.findSome? fun name => (SortedMap.get? ms name).bind timestampOf?

/-- The timestamp of a line that is an object. -/
def timestamp? (line : Bytes) : Option LineTimestamp := timestampIn? (document? line)

end FieldPattern

end LogWatch
