import LogWatch.Regex.Mode

/-!
# Escapes

What may follow a backslash: a character that is taken as itself, a letter or number for a
character, a named set, or a question about the position. References to groups are refused, as is
every letter without a meaning.
-/

namespace LogWatch

namespace Regex

/-- What a single item of a pattern stands for. -/
inductive Item
  /-- A character; `isOctet` tells that two digits gave its number. -/
  | literal (c : Char) (isOctet : Bool)
  /-- A named set. -/
  | named (s : CodeSet)
  /-- A question about the position. -/
  | look (a : Assertion)

/-- The single character that an item stands for where sets are read: an octet, or a character. -/
def Item.member? (m : Mode) : Item → Option Nat
  | .literal c isOctet =>
    if m.unicode || c.toNat < 0x80 then some c.toNat
    else if isOctet && !m.text then some c.toNat
    else none
  | _ => none

/-- The pattern that an item stands for on its own. -/
def Item.pattern? (m : Mode) : Item → Option Regex
  | .literal c isOctet =>
    if m.unicode || !isOctet || c.toNat < 0x80 then some (m.ofChar c)
    else if m.text then none
    else some (.octet (CodeSet.single c.toNat))
  | .named s => some (m.ofSet s)
  | .look a => some (.look a)

/-- The character with a number. -/
def charOf? (n : Nat) : Option Char :=
  if n < 0xD800 || (0xDFFF < n && n ≤ 0x10FFFF) then some (Char.ofNat n) else none

/-- The value of a hexadecimal digit. -/
def hexDigit? (c : Char) : Option Nat :=
  if c.toNat < 0x80 then Octet.hexValue? c.toNat.toUInt8 else none

/-- The number that so many hexadecimal digits spell, after those with the value `n`. -/
def hexDigits? (m : Mode) (n : Nat) : Nat → List Char → Option (Nat × List Char)
  | 0, cs => some (n, cs)
  | _ + 1, [] => none
  | k + 1, c :: cs => do
    let d ← hexDigit? c
    hexDigits? m (n * 16 + d) k (m.pass cs)

/-- The number that all of the characters spell as hexadecimal digits. -/
def hexNumber? (cs : List Char) : Option Nat :=
  if cs.isEmpty then none
  else cs.foldlM (fun n c => (hexDigit? c).map (n * 16 + ·)) 0

/-- The parts around the first closing brace. -/
def closingBrace? (cs : List Char) : Option (List Char × List Char) :=
  match cs.span (· != '}') with
  | (_, []) => none
  | (inside, _ :: rest) => some (inside, rest)

/-- A character by its number, in braces or with so many digits. -/
def numberedChar? (m : Mode) (digits : Nat) (cs : List Char) : Option (Item × List Char) := do
  match m.pass cs with
  | '{' :: cs =>
    let (inside, rest) ← closingBrace? cs
    let c ← charOf? (← hexNumber? (m.counting inside))
    return (.literal c false, m.pass rest)
  | cs =>
    let (n, rest) ← hexDigits? m 0 digits cs
    return (.literal (← charOf? n) (digits == 2), rest)

/-- The two parts around the first place where `mark` stands. -/
def splitAt? (mark : List Char) : List Char → Option (List Char × List Char)
  | [] => none
  | c :: cs =>
    if mark.isPrefixOf (c :: cs) then some ([], (c :: cs).drop mark.length)
    else (splitAt? mark cs).map fun (a, b) => (c :: a, b)

/-- The set that the text between the braces of a property names, and whether it is negated. -/
def bracedProperty? (inside : List Char) : Option (CodeSet × Bool) :=
  let valued (parts : List Char × List Char) :=
    propertyValue? (String.ofList parts.1) (String.ofList parts.2)
  match splitAt? ['!', '='] inside with
  | some parts => (valued parts).map (·, true)
  | none =>
    match splitAt? [':'] inside with
    | some parts => (valued parts).map (·, false)
    | none =>
      match splitAt? ['='] inside with
      | some parts => (valued parts).map (·, false)
      | none => (property? (String.ofList inside)).map (·, false)

/-- What a property by one letter, or in braces, names, and whether it is negated. -/
def propertyAt? (m : Mode) : List Char → Option ((CodeSet × Bool) × List Char)
  | [] => none
  | '\\' :: _ => none
  | '{' :: cs => do
    let (inside, rest) ← closingBrace? cs
    let named ← bracedProperty? (m.counting inside)
    return (named, rest)
  | c :: cs => (property? (String.singleton c)).map fun s => ((s, false), m.pass cs)

/-- A property, or what is outside it. -/
def propertySet? (m : Mode) (negated : Bool) (cs : List Char) : Option (Item × List Char) := do
  let ((s, opposite), rest) ← propertyAt? m (m.pass cs)
  if !m.unicode then none
  else return (.named (← m.complementIf (negated != opposite) (m.folded s)), rest)

/-- A set named by a letter, which is a capital for what is outside it. -/
def letterItem? (m : Mode) (c : Char) : Option Item := do
  let s ← letterSet? m.unicode c.toLower
  return .named (← m.complementIf c.isUpper s)

/-- The character may stand in the name of an edge of words. -/
def isEdgeChar (c : Char) : Bool := c.isAlpha || c == '-'

/-- An edge of words by its name. -/
def edgeNamed? (name : List Char) : Option Edge :=
  match String.ofList name with
  | "start" => some .start
  | "end" => some .stop
  | "start-half" => some .startHalf
  | "end-half" => some .stopHalf
  | _ => none

/-- The question that a `b` asks; a name in braces may follow, while braces around anything else are
a count of repetitions. -/
def boundary? (m : Mode) (cs : List Char) : Option (Item × List Char) :=
  let plain := (Item.look (.word .boundary m.unicode), cs)
  match cs with
  | '{' :: inner =>
    match m.pass inner with
    | [] => none
    | c :: _ =>
      if !isEdgeChar c then some plain
      else do
        let (inside, rest) ← closingBrace? inner
        return (.look (.word (← edgeNamed? (m.counting inside)) m.unicode), rest)
  | _ => some plain

/-- The characters that have a meaning of their own somewhere in a pattern. -/
def metaCharacters : List Char := "\\.+*?()|[]\x7b\x7d^$#&-~".toList

/-- The character may follow a backslash to be taken as itself. -/
def isEscapable (c : Char) : Bool :=
  c ∈ metaCharacters || (c.toNat < 0x80 && !c.isAlphanum && c != '<' && c != '>')

/-- The item after a backslash. -/
def escape? (m : Mode) : List Char → Option (Item × List Char)
  | [] => none
  | c :: cs =>
    match c with
    | 'x' => numberedChar? m 2 cs
    | 'u' => numberedChar? m 4 cs
    | 'U' => numberedChar? m 8 cs
    | 'p' => propertySet? m false cs
    | 'P' => propertySet? m true cs
    | 'a' => some (.literal '\x07' false, cs)
    | 'f' => some (.literal '\x0C' false, cs)
    | 't' => some (.literal '\t' false, cs)
    | 'n' => some (.literal '\n' false, cs)
    | 'r' => some (.literal '\r' false, cs)
    | 'v' => some (.literal '\x0B' false, cs)
    | 'A' => some (.look .textStart, cs)
    | 'z' => some (.look .textEnd, cs)
    | 'b' => boundary? m cs
    | 'B' => some (.look (.word .inside m.unicode), cs)
    | '<' => some (.look (.word .start m.unicode), cs)
    | '>' => some (.look (.word .stop m.unicode), cs)
    | c =>
      if isEscapable c then some (.literal c false, cs)
      else (letterItem? m c).map (·, cs)

end Regex

end LogWatch
