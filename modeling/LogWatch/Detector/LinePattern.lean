import LogWatch.Fault
import LogWatch.Regex.Reader

/-!
# Line patterns

A **line pattern** tells whether a line is of interest. A pattern in which no character has a
meaning of its own is looked for as it stands; the others are read as patterns in the full sense.
Both ways agree where both apply.
-/

namespace LogWatch

/-- What is looked for in a line. -/
inductive LineMatcher
  /-- The octets occur in the line. -/
  | containing (word : Bytes)
  /-- The pattern matches somewhere in the line. -/
  | matching (r : Regex)

/-- What is looked for is found in the line. -/
def LineMatcher.matches : LineMatcher → Bytes → Bool
  | .containing word, line => Bytes.contains word line
  | .matching r, line => r.isMatch line

/-- A pattern for lines. -/
structure LinePattern where
  /-- The pattern as given. -/
  text : String
  /-- What is looked for. -/
  matcher : LineMatcher

namespace LinePattern

/-- The characters with a meaning of their own. -/
def metaCharacters : List Char := "\\.+*?()|[]\x7b\x7d^$".toList

/-- The text has no character with a meaning of its own. -/
def isPlain (text : String) : Bool := text.toList.all (!metaCharacters.contains ·)

/-- What a text stands for, if it can be read. -/
def matcherOf? (text : String) : Option LineMatcher :=
  if isPlain text then some (.containing (Bytes.ofString text))
  else (Regex.read? text).map .matching

/-- The pattern of a text, which must not be empty, for a detector of the format named. -/
def new (format text : String) : Except SetupFault LinePattern :=
  if text.isEmpty then .error (.invalidPattern format text "pattern must not be empty")
  else
    match matcherOf? text with
    | some m => .ok ⟨text, m⟩
    | none => .error (.invalidPattern format text Fault.unreadablePattern)

/-- The octets are looked for as they stand. -/
def isLiteral (p : LinePattern) : Bool :=
  match p.matcher with
  | .containing _ => true
  | .matching _ => false

/-- The pattern is found in the line. -/
def isMatch (p : LinePattern) (line : Bytes) : Bool := p.matcher.matches line

/-- The pattern that excludes lines; no text excludes none. -/
def exclusion (text : String) : Except SetupFault (Option LinePattern) :=
  if text.isEmpty then .ok none else (new "exclude" text).map some

end LinePattern

end LogWatch
