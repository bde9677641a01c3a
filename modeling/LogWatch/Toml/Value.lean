/-!
# TOML values

The value of a TOML text is a table. A table remembers its **form**, that is, how it came to be,
because that decides what may still be added to it: a table that a header has opened may not be
opened again, one that stands in braces is closed for good, and one that dotted keys have made takes
further dotted keys only.

Dates and times are recognised but not interpreted.
-/

namespace LogWatch

/-- How a table came to be. -/
inductive Toml.Form
  /-- By its own header. -/
  | explicit
  /-- As part of the path in a header. -/
  | implicit
  /-- As part of a dotted key. -/
  | dotted
  /-- In braces. -/
  | inline
  deriving DecidableEq

/-- A TOML value. -/
inductive Toml
  | str (s : String)
  | int (n : Int)
  | float (x : Float)
  | bool (b : Bool)
  /-- A date, a time, or both. -/
  | date
  | arr (items : List Toml)
  /-- An array of tables made by headers; last first, and never empty. -/
  | tables (reversed : List Toml)
  | table (form : Toml.Form) (entries : List (String × Toml))

namespace Toml

instance : Inhabited Toml := ⟨.date⟩

/-- The entries of a table. -/
abbrev Entries := List (String × Toml)

/-- The entries with the value of a key replaced, or added. -/
def Entries.set (es : Entries) (key : String) (v : Toml) : Entries :=
  if es.any fun e => e.1 == key then es.map fun e => if e.1 == key then (key, v) else e
  else es ++ [(key, v)]

/-- Changes the table at the end of a path. Tables that are missing are made, in the form that goes
with the path; a path of dotted keys goes through no table that a header has opened. -/
def descend (dotted : Bool) (change : Form → Entries → Option Entries) :
    List String → Form → Entries → Option Entries
  | [], form, es => change form es
  | key :: path, _, es =>
    match es.lookup key with
    | none => do
      let form := if dotted then Form.dotted else Form.implicit
      return es.set key (.table form (← descend dotted change path form []))
    | some (.table form inner) =>
      if form = .inline || (dotted && form = .explicit) then none
      else do return es.set key (.table form (← descend dotted change path form inner))
    | some (.tables (.table form inner :: before)) => do
      return es.set key (.tables (.table form (← descend dotted change path form inner) :: before))
    | some _ => none

/-- Adds a value under a dotted key, given as its path and its last part. -/
def Entries.add (es : Entries) (path : List String) (key : String) (v : Toml) : Option Entries :=
  let insert (form : Form) (inner : Entries) : Option Entries :=
    if decide (form = .dotted) == path.isEmpty || (inner.lookup key).isSome then none
    else some (inner ++ [(key, v)])
  descend true insert path .explicit es

/-- Opens a table by a header, given as its path and its last part, and fills it. -/
def Entries.openTable (es : Entries) (path : List String) (key : String)
    (fill : Entries → Option Entries) : Option Entries :=
  let insert (_ : Form) (inner : Entries) : Option Entries := do
    match inner.lookup key with
    | none => return inner ++ [(key, .table .explicit (← fill []))]
    | some (.table .implicit old) => return inner.set key (.table .explicit (← fill old))
    | some _ => none
  descend false insert path .explicit es

/-- Adds a table to an array of tables by a header, and fills it. -/
def Entries.appendTable (es : Entries) (path : List String) (key : String)
    (fill : Entries → Option Entries) : Option Entries :=
  let insert (_ : Form) (inner : Entries) : Option Entries := do
    match inner.lookup key with
    | none => return inner ++ [(key, .tables [.table .explicit (← fill [])])]
    | some (.tables before) =>
      return inner.set key (.tables (.table .explicit (← fill []) :: before))
    | some _ => none
  descend false insert path .explicit es

end Toml

end LogWatch
