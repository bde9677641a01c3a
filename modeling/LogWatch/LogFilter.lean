import LogWatch.Config.Environment

/-!
# The filter of the program's own log

Which entries of its own log the program writes is told by a **filter**: directives between commas,
each a level, the name of a part of the program, or such a name with a level after an equals sign. A
filter in the environment goes before the level of the configuration, if it can be read.

A filter is written with longer names first; without any directive it lets errors pass.
-/

namespace LogWatch

/-- A directive: the level for a part of the program, or for all of it. -/
structure LogFilter.Directive where
  /-- The name of the part. -/
  target : Option String
  /-- The name of the level. -/
  level : String
  deriving DecidableEq

/-- Which entries are written. -/
abbrev LogFilter := List LogFilter.Directive

namespace LogFilter

/-- The levels, the most silent first. -/
def levels : List String := ["off", "error", "warn", "info", "debug", "trace"]

/-- The level that a text names, in any case or by its number; no text stands for errors. -/
def level? (s : String) : Option String :=
  match Environment.numberOf? 64 s with
  | some n => levels[n]?
  | none =>
    if s.isEmpty then some "error"
    else levels.find? fun l => l == s.toLower

/-- Why a filter cannot be read. -/
inductive Unreadable
  | directive
  | level

/-- The wording of the reason. -/
def Unreadable.message : Unreadable → String
  | .directive => "invalid filter directive"
  | .level =>
    "error parsing level filter: expected one of \"off\", \"error\", \"warn\", \"info\", "
      ++ "\"debug\", \"trace\", or a number 0-5"

/-- The character may begin a directive. -/
def mayBegin (c : Char) : Bool := c.isAlphanum || 0x80 ≤ c.toNat || c == '-' || c == ':' || c == '_'

/-- The directive that a text spells. -/
def directive (s : String) : Except Unreadable Directive :=
  match Blank.trimChars s.toList with
  | [] => .error .directive
  | c :: cs =>
    if !mayBegin c || (c :: cs).contains '[' then .error .directive
    else
      match (c :: cs).span (· != '=') with
      | (name, []) =>
        let name := String.ofList name
        match level? name with
        | some l => .ok ⟨none, l⟩
        | none => .ok ⟨some name, "trace"⟩
      | (name, [_]) => .ok ⟨some (String.ofList name), "trace"⟩
      | (name, _ :: rest) =>
        match level? (String.ofList rest) with
        | some l => .ok ⟨some (String.ofList name), l⟩
        | none => .error .level

/-- The parts of a text between commas. -/
def parts (s : String) : List String :=
  ((s.splitOn ",").filter fun p => !p.isEmpty)

/-- A directive is written before another one. -/
def before (a b : Directive) : Bool :=
  let size (d : Directive) : Nat := (d.target.map fun t => t.utf8ByteSize + 1).getD 0
  size b < size a || (size a == size b && decide (b.target.getD "" ≤ a.target.getD ""))

/-- The filter with one more directive, which replaces one for the same part. -/
def add (f : LogFilter) (d : Directive) : LogFilter := d :: f.filter fun e => e.target != d.target

/-- The filter that a text spells. -/
def read (s : String) : Except Unreadable LogFilter := do
  let ds ← (parts s).mapM directive
  let f := ds.foldl add []
  return if f.isEmpty then [⟨none, "error"⟩] else f.mergeSort before

/-- A directive as written. -/
def Directive.render (d : Directive) : String :=
  match d.target with
  | some t => t ++ "=" ++ d.level
  | none => d.level

/-- A filter as written. -/
def render (f : LogFilter) : String := ",".intercalate (f.map Directive.render)

/-- The variable that may hold a filter. -/
def environmentName : String := "RUST_LOG"

/-- The filter for a level of the configuration. -/
def choose (level : String) (env : Environment) : Except String LogFilter :=
  match (env.text? environmentName).map read with
  | some (.ok f) => .ok f
  | _ =>
    match read level with
    | .ok f => .ok f
    | .error e => .error s!"invalid log level '{level}': {e.message}"

/-- The format of the program's own log is known. -/
def checkFormat (format : String) : Except String Unit :=
  if format == "json" || format == "pretty" then .ok ()
  else .error s!"unknown log format '{format}', expected 'json' or 'pretty'"

end LogFilter

end LogWatch
