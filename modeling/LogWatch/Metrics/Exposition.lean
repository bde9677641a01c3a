import LogWatch.Metrics.Catalog
import LogWatch.Metrics.Tally
import LogWatch.Number.Shortest

/-!
# The exposition of metrics

The values of metrics in the text format of Prometheus: for each metric a line that says what it
measures, if that is known, a line with its kind, and a line for each of its series.

A series is known by its name and its labels in any order; its line has them in the order in which
they were first given. Of labels with one name the last value counts. Characters that a name may not
have are replaced by underscores.
-/

namespace LogWatch

namespace Metrics

/-- A series and its value. -/
structure Series (α : Type) where
  /-- The name of the metric. -/
  name : String
  /-- The labels, in the order in which they were first given. -/
  labels : Labels
  /-- The value. -/
  value : α

/-- The series has that name and those labels. -/
def Series.has {α : Type} (s : Series α) (name : String) (labels : Labels) : Bool :=
  s.name == name && s.labels.mergeSort labelBefore == labels.mergeSort labelBefore

/-- Gives a series a new value, which `next` makes from the old one. -/
def update {α : Type} (start : α) (next : α → α) (name : String) (labels : Labels) :
    List (Series α) → List (Series α)
  | [] => [⟨name, labels, next start⟩]
  | s :: ss =>
    if s.has name labels then { s with value := next s.value } :: ss
    else s :: update start next name labels ss

/-- All series that have been recorded. -/
structure Exposition where
  /-- The counters. -/
  counters : List (Series Nat)
  /-- The gauges. -/
  gauges : List (Series Float)

namespace Exposition

/-- Nothing has been recorded. -/
def empty : Exposition := ⟨[], []⟩

/-- Adds to a counter. -/
def increment (e : Exposition) (name : String) (labels : Labels) (n : Nat) : Exposition :=
  { e with counters := update 0 (fun m => (m + n) % Nat.pow 2 64) name labels e.counters }

/-- Sets a gauge. -/
def setGauge (e : Exposition) (name : String) (labels : Labels) (x : Float) : Exposition :=
  { e with gauges := update x (fun _ => x) name labels e.gauges }

/-! ### Text -/

/-- The text with underscores for the characters that it may not have, the first one apart. -/
def sanitized (first rest : Char → Bool) (s : String) : String :=
  match s.toList with
  | [] => ""
  | c :: cs =>
    String.ofList ((if first c then c else '_') :: cs.map fun c => if rest c then c else '_')

/-- The name of a metric as it may be written. -/
def metricName (s : String) : String :=
  sanitized (fun c => c.isAlpha || c == '_' || c == ':')
    (fun c => c.isAlphanum || c == '_' || c == ':') s

/-- The name of a label as it may be written. -/
def labelName (s : String) : String :=
  sanitized (fun c => c.isAlpha || c == '_') (fun c => c.isAlphanum || c == '_') s

/-- The value of a label as it is written. Quotes, line feeds and backslashes are escaped; a
backslash that already escapes one of them stays as it is. -/
def labelValueChars (escaping : Bool) : List Char → List Char
  | [] => if escaping then ['\\', '\\'] else []
  | '\n' :: cs => '\\' :: 'n' :: labelValueChars escaping cs
  | '"' :: cs => '\\' :: '"' :: labelValueChars false cs
  | '\\' :: cs =>
    if escaping then '\\' :: '\\' :: labelValueChars false cs else labelValueChars true cs
  | c :: cs =>
    if escaping then '\\' :: '\\' :: c :: labelValueChars false cs
    else c :: labelValueChars false cs

/-- A label with its value as it is written. -/
def writtenLabel (label : String × String) : String :=
  labelName label.1 ++ "=\"" ++ String.ofList (labelValueChars false label.2.toList) ++ "\""

/-- Sets the value of a label at the place where it is first given. -/
def setLabel (ls : Labels) (label : String × String) : Labels :=
  if ls.any fun l => l.1 == label.1 then
    ls.map fun l => if l.1 == label.1 then label else l
  else ls ++ [label]

/-- The name and labels of a series as they are written. -/
def writtenSeries (name : String) (labels : Labels) : String :=
  match labels.foldl setLabel [] with
  | [] => metricName name
  | ls => metricName name ++ "\x7b" ++ ",".intercalate (ls.map writtenLabel) ++ "\x7d"

/-- The lines for the metrics of one kind. -/
def linesOf {α : Type} (described : Bool) (kind : Kind) (written : α → String)
    (series : List (Series α)) : List String :=
  (series.map fun s => metricName s.name).eraseDups.flatMap fun name =>
    let help :=
      if described then (description? name).toList.map (fun d => s!"# HELP {name} {d}") else []
    let members := series.filter fun s => metricName s.name == name
    help ++ s!"# TYPE {name} {kind.name}"
      :: members.map fun s => s!"{writtenSeries s.name s.labels} {written s.value}"

/-- The lines of the text, with descriptions if they have been given. -/
def lines (described : Bool) (e : Exposition) : List String :=
  linesOf described .counter toString e.counters
    ++ linesOf described .gauge Shortest.plainText e.gauges

end Exposition

end Metrics

end LogWatch
