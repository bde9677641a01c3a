import LogWatch.Regex.Bracket

/-!
# Reading patterns

A pattern is read from left to right. The parts in parentheses that are still open are kept in a
list, innermost first; each is a **draft**: its mode, the alternatives it has finished, and the
pieces of the alternative being read. A repetition mark replaces the last piece, so there must be
one.

There is no looking ahead or behind, and a group is not referred to later.
-/

namespace LogWatch

namespace Regex

/-- A part that is being read. -/
structure Draft where
  /-- How it is read from here on. -/
  mode : Mode
  /-- The alternatives that are finished, last first. -/
  finished : List Regex
  /-- The pieces of the alternative that is not, last first. -/
  pieces : List Regex

namespace Draft

/-- A part that begins. -/
def new (m : Mode) : Draft := ⟨m, [], []⟩

/-- The part with one more piece. -/
def add (d : Draft) (r : Regex) : Draft := { d with pieces := r :: d.pieces }

/-- The part at the beginning of its next alternative. -/
def alternate (d : Draft) : Draft :=
  { d with finished := sequence d.pieces.reverse :: d.finished, pieces := [] }

/-- The pattern of the part. -/
def close (d : Draft) : Regex := choice (sequence d.pieces.reverse :: d.finished).reverse

/-- The part with its last piece repeated. A setting of the mode is no piece to repeat. -/
def repeatLast? (d : Draft) (least : Nat) (most : Option Nat) : Option Draft :=
  match d.pieces with
  | [] => none
  | .empty :: _ => none
  | r :: rs => some { d with pieces := .repetition r least most :: rs }

end Draft

/-- How far the reading has come. -/
structure Progress where
  /-- The innermost part. -/
  current : Draft
  /-- The parts around it, innermost first. -/
  outer : List Draft
  /-- The names of groups so far. -/
  names : List (List Char)

namespace Progress

/-- The mode of the innermost part. -/
def mode (p : Progress) : Mode := p.current.mode

/-- One more piece in the innermost part. -/
def add (p : Progress) (r : Regex) : Progress := { p with current := p.current.add r }

/-- A new innermost part. -/
def descend (p : Progress) (m : Mode) : Progress :=
  { p with current := Draft.new m, outer := p.current :: p.outer }

/-- The part around the innermost one, of which that is now a piece. -/
def ascend? (p : Progress) : Option Progress :=
  match p.outer with
  | [] => none
  | d :: outer => some { p with current := d.add (.group p.current.close), outer := outer }

end Progress

/-! ### Groups -/

/-- The character may stand in the name of a group. -/
def isNameChar (isFirst : Bool) (c : Char) : Bool :=
  c == '_' || Unicode.alphabetic.contains c.toNat
    || (!isFirst && (c == '.' || c == '[' || c == ']'
      || (Unicode.ofCategories ["Nd", "Nl", "No"]).contains c.toNat))

/-- The name of a group, up to the mark that ends it. -/
def groupName? (cs : List Char) : Option (List Char × List Char) :=
  match cs.span (· != '>') with
  | (c :: name, _ :: rest) =>
    if isNameChar true c && name.all (isNameChar false) then some (c :: name, rest) else none
  | _ => none

/-- The mode after letters that set it, and the mark that ends them. -/
def modeLetters? (m : Mode) (value : Bool) (seen : List Char) :
    List Char → Option (Mode × Char × List Char)
  | [] => none
  | c :: cs =>
    if c == ':' || c == ')' then
      if seen.head? == some '-' then none else some (m, c, cs)
    else if c ∈ seen then none
    else if c == '-' then modeLetters? m false (c :: seen) cs
    else do
      let m ← m.set? c value
      modeLetters? m value (c :: seen) cs

/-- What begins with an opening parenthesis: a group, or a setting of the mode. -/
def openGroup? (p : Progress) (cs : List Char) : Option (Progress × List Char) :=
  let named (cs : List Char) : Option (Progress × List Char) := do
    let (name, rest) ← groupName? cs
    if name ∈ p.names then none
    else return ({ p.descend p.mode with names := name :: p.names }, rest)
  match p.mode.pass cs with
  | '?' :: '=' :: _ => none
  | '?' :: '!' :: _ => none
  | '?' :: '<' :: '=' :: _ => none
  | '?' :: '<' :: '!' :: _ => none
  | '?' :: 'P' :: '<' :: cs => named cs
  | '?' :: '<' :: cs => named cs
  | '?' :: ')' :: _ => none
  | '?' :: cs => do
    let (m, mark, rest) ← modeLetters? p.mode true [] cs
    if mark == ')' then return ({ p with current := { p.current.add .empty with mode := m } }, rest)
    else return (p.descend m, rest)
  | cs => some (p.descend p.mode, cs)

/-! ### Repetitions -/

/-- What is left after a mark that makes a repetition short. -/
def passShort : List Char → List Char
  | '?' :: cs => cs
  | cs => cs

/-- A count of repetitions. -/
def count? (m : Mode) (cs : List Char) : Option Nat :=
  let digits := Blank.trimChars (m.counting cs)
  if digits.isEmpty || !digits.all Char.isDigit then none
  else
    let n := digits.foldl (fun n c => n * 10 + (c.toNat - 48)) 0
    if n < Nat.pow 2 32 then some n else none

/-- The least and greatest count in braces. -/
def counts? (m : Mode) (inside : List Char) : Option (Nat × Option Nat) := do
  match splitAt? [','] inside with
  | none =>
    let n ← count? m inside
    return (n, some n)
  | some (lo, hi) =>
    let least ← count? m lo
    if (m.pass hi).isEmpty then return (least, none)
    else
      let most ← count? m hi
      if most < least then none else return (least, some most)

/-! ### Patterns -/

/-- One step: what stands at the front of the text is added. -/
def step? (p : Progress) (c : Char) (cs : List Char) : Option (Progress × List Char) :=
  let repeated (least : Nat) (most : Option Nat) (cs : List Char) := do
    let d ← p.current.repeatLast? least most
    return ({ p with current := d }, cs)
  match c with
  | '(' => openGroup? p cs
  | ')' => (p.ascend?).map (·, cs)
  | '|' => some ({ p with current := p.current.alternate }, cs)
  | '[' => do
    let (s, rest) ← bracketed? p.mode cs
    return (p.add (p.mode.ofSet s), rest)
  | '?' => repeated 0 (some 1) (passShort cs)
  | '*' => repeated 0 none (passShort cs)
  | '+' => repeated 1 none (passShort cs)
  | '{' => do
    let (inside, rest) ← closingBrace? cs
    let (least, most) ← counts? p.mode inside
    repeated least most (passShort (p.mode.pass rest))
  | '\\' => do
    let (item, rest) ← escape? p.mode cs
    return (p.add (← item.pattern? p.mode), rest)
  | '.' => do return (p.add (← p.mode.dot), cs)
  | '^' => some (p.add (.look p.mode.start), cs)
  | '$' => some (p.add (.look p.mode.stop), cs)
  | c => some (p.add (p.mode.ofChar c), cs)

/-- Reads to the end of the text. -/
def readOn : Nat → Progress → List Char → Option Regex
  | 0, _, _ => none
  | fuel + 1, p, cs =>
    match p.mode.pass cs with
    | [] => if p.outer.isEmpty then some p.current.close else none
    | c :: cs => do
      let (p, rest) ← step? p c cs
      readOn fuel p rest

/-- The pattern that a text spells, read in a mode. -/
def readIn? (m : Mode) (text : String) : Option Regex := do
  let r ← readOn (text.toList.length + 1) ⟨Draft.new m, [], []⟩ text.toList
  if r.isBearable then return r else none

/-- The pattern for octets that a text spells. -/
def read? (text : String) : Option Regex := readIn? {} text

/-- The pattern for texts that a text spells. -/
def readForText? (text : String) : Option Regex := readIn? { text := true } text

end Regex

end LogWatch
