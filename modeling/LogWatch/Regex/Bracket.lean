import LogWatch.Regex.Escape

/-!
# Sets in brackets

A set in brackets is a union of characters, ranges, named sets and further sets in brackets, which
may be combined with `&&`, `--` and `~~`, from left to right. Other cases are added before a set is
combined or negated.

The sets still open are kept in a list, innermost first.
-/

namespace LogWatch

namespace Regex

/-- The ways to combine two sets. -/
inductive SetOperation
  | intersection
  | difference
  | symmetricDifference

/-- The combination of two sets. -/
def SetOperation.apply : SetOperation → CodeSet → CodeSet → CodeSet
  | .intersection => CodeSet.inter
  | .difference => CodeSet.difference
  | .symmetricDifference => CodeSet.symmetricDifference

/-- A set in brackets that has not been closed. -/
structure OpenSet where
  /-- What is outside it is meant. -/
  negated : Bool
  /-- What stands before the last operation, with that operation. -/
  pending : Option (CodeSet × SetOperation)
  /-- The ranges of the union since then. -/
  ranges : List (Nat × Nat)

namespace OpenSet

/-- The set with further ranges. -/
def add (o : OpenSet) (rs : List (Nat × Nat)) : OpenSet := { o with ranges := rs ++ o.ranges }

/-- The value of the set so far. -/
def value (m : Mode) (o : OpenSet) : CodeSet :=
  let s := CodeSet.ofRanges o.ranges
  match o.pending with
  | none => s
  | some (before, op) => op.apply (m.folded before) (m.folded s)

/-- The set after an operation has been read. -/
def combine (m : Mode) (op : SetOperation) (o : OpenSet) : OpenSet :=
  { o with pending := some (o.value m, op), ranges := [] }

/-- The set when it is closed. -/
def close? (m : Mode) (o : OpenSet) : Option CodeSet :=
  m.complementIf o.negated (m.folded (o.value m))

end OpenSet

/-- Hyphens taken as themselves at the start of a set, and what is left. -/
def leadingHyphens (m : Mode) (n : Nat) : Nat → List Char → Nat × List Char
  | 0, cs => (n, cs)
  | fuel + 1, '-' :: cs => leadingHyphens m (n + 1) fuel (m.pass cs)
  | _, cs => (n, cs)

/-- The set that begins after an opening bracket: it may be negated, and may begin with hyphens or
with a closing bracket, which are then taken as themselves. -/
def openSet (m : Mode) (cs : List Char) : OpenSet × List Char :=
  let (negated, cs) :=
    match m.pass cs with
    | '^' :: cs => (true, m.pass cs)
    | cs => (false, cs)
  match leadingHyphens m 0 cs.length cs with
  | (0, ']' :: cs) => (⟨negated, none, [(0x5D, 0x5D)]⟩, m.pass cs)
  | (0, cs) => (⟨negated, none, []⟩, cs)
  | (_ + 1, cs) => (⟨negated, none, [(0x2D, 0x2D)]⟩, cs)

/-- The set with a bracketed name (`[:alpha:]`) at the front, after its opening bracket. -/
def bracketedName? (m : Mode) (cs : List Char) : Option (CodeSet × List Char) := do
  let ':' :: cs := cs | none
  let (negated, cs) := match cs with
    | '^' :: cs => (true, cs)
    | cs => (false, cs)
  let (name, ':' :: ']' :: rest) := cs.span (· != ':') | none
  let s ← asciiSet? (String.ofList name)
  return (← m.complementIf negated (m.folded s), rest)

/-- One item of a set: an escape, or a character as itself. -/
def setItem? (m : Mode) : List Char → Option (Item × List Char)
  | [] => none
  | '\\' :: cs => escape? m cs
  | c :: cs => some (.literal c false, cs)

/-- The ranges of one item alone. -/
def Item.ranges? (m : Mode) : Item → Option (List (Nat × Nat))
  | .named s => some s.ranges
  | item => (item.member? m).map fun n => [(n, n)]

/-- A range of two items, or one item. -/
def setRange? (m : Mode) (cs : List Char) : Option (List (Nat × Nat) × List Char) := do
  let (first, cs) ← setItem? m cs
  let cs := m.pass cs
  let alone := do return (← first.ranges? m, cs)
  match cs with
  | '-' :: after =>
    match m.pass after with
    | [] => none
    | ']' :: _ => alone
    | '-' :: _ => alone
    | after =>
      let (last, rest) ← setItem? m after
      let lo ← first.member? m
      let hi ← last.member? m
      if hi < lo then none else return ([(lo, hi)], rest)
  | _ => alone

/-- Reads sets up to the bracket that closes the outermost one. -/
def readSets (m : Mode) : Nat → OpenSet → List OpenSet → List Char → Option (CodeSet × List Char)
  | 0, _, _, _ => none
  | fuel + 1, o, outer, cs =>
    match m.pass cs with
    | [] => none
    | '[' :: cs =>
      match bracketedName? m cs with
      | some (s, rest) => readSets m fuel (o.add s.ranges) outer rest
      | none =>
        if outer.length + 1 < maxDepth then
          let (inner, rest) := openSet m cs
          readSets m fuel inner (o :: outer) rest
        else none
    | ']' :: cs => do
      let s ← o.close? m
      match outer with
      | [] => return (s, cs)
      | p :: outer => readSets m fuel (p.add s.ranges) outer cs
    | '&' :: '&' :: cs => readSets m fuel (o.combine m .intersection) outer cs
    | '-' :: '-' :: cs => readSets m fuel (o.combine m .difference) outer cs
    | '~' :: '~' :: cs => readSets m fuel (o.combine m .symmetricDifference) outer cs
    | cs => do
      let (rs, rest) ← setRange? m cs
      readSets m fuel (o.add rs) outer rest

/-- The set whose opening bracket has been read. -/
def bracketed? (m : Mode) (cs : List Char) : Option (CodeSet × List Char) :=
  let (o, rest) := openSet m cs
  readSets m (cs.length + 1) o [] rest

end Regex

end LogWatch
