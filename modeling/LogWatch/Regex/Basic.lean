import LogWatch.Text.Utf8
import LogWatch.Unicode.Property

/-!
# Patterns and where they match

A pattern is matched against octets. It may ask for one octet, or for one character in UTF-8; a
character is never found in octets that are not valid UTF-8. A **position** in a line holds the
octets before it and after it.

`Regex.ends` gives, for a set of positions at which a match may start, the positions at which it may
end. A repetition goes from the positions found last to those one repetition further, and stops when
there are no new ones, so that every position is visited once.

A pattern has a **weight**, the octets that its states take, and a **depth**, in parts within parts.
Both are bounded for the patterns that are accepted.
-/

namespace LogWatch

namespace Regex

/-! ### Positions -/

/-- A position in a line. -/
structure Position where
  /-- The octets before it, nearest first. -/
  before : Bytes
  /-- The octets after it. -/
  after : Bytes
  /-- The number of octets before it. -/
  offset : Nat

/-- The position so many octets further. -/
def Position.advance : Nat → Position → Position
  | 0, p => p
  | n + 1, p =>
    match p.after with
    | [] => p
    | b :: rest => advance n ⟨b :: p.before, rest, p.offset + 1⟩

/-- The positions from one on to the end of the line, in reverse after those given. -/
def Position.upToEnd (acc : List Position) (before : Bytes) (offset : Nat) :
    Bytes → List Position
  | [] => ⟨before, [], offset⟩ :: acc
  | b :: rest => upToEnd (⟨before, b :: rest, offset⟩ :: acc) (b :: before) (offset + 1) rest

/-- All positions of a line, in order. -/
def Position.all (line : Bytes) : List Position := (upToEnd [] [] 0 line).reverse

/-- The position does not lie within a character of valid text. -/
def Position.isBoundary (p : Position) : Bool :=
  match p.after with
  | [] => true
  | b :: _ => !Utf8.isTail b

/-! ### What is asked at a position -/

/-- What is asked about the words on both sides of a position. -/
inductive Edge
  /-- A word starts or ends. -/
  | boundary
  /-- No word starts or ends. -/
  | inside
  /-- A word starts. -/
  | start
  /-- A word ends. -/
  | stop
  /-- No word character stands before. -/
  | startHalf
  /-- No word character stands after. -/
  | stopHalf
  deriving DecidableEq

/-- What may be asked about a position without using up octets. -/
inductive Assertion
  | textStart
  | textEnd
  | lineStart
  | lineEnd
  /-- The start of a line that may end in CR, LF or both. -/
  | anyLineStart
  /-- The end of a line that may end in CR, LF or both. -/
  | anyLineEnd
  /-- An edge of a word, by the characters of any script or by those of ASCII. -/
  | word (edge : Edge) (unicode : Bool)
  deriving DecidableEq

/-- The octet is an ASCII letter, digit or underscore. -/
def isAsciiWord (b : UInt8) : Bool := Octet.isDigit b || Octet.isLetter b || b == 95

/-- The character at the front of the octets, when they are valid there. -/
def charAfter? : Bytes → Option Char
  | [] => none
  | b :: s =>
    match Utf8.front b s with
    | .scalar c _ => some c
    | .broken _ => none

/-- The character that starts at the last octet before the position that can start one; it is looked
for within four octets. -/
def charBefore? (before : Bytes) : Option Char :=
  let tails := (before.take 3).takeWhile Utf8.isTail
  match before.drop tails.length with
  | [] => charAfter? tails.reverse
  | b :: _ => charAfter? (b :: tails.reverse)

/-- The character belongs to words. -/
def isWordChar (c : Char) : Bool := Unicode.wordCharacter.contains c.toNat

/-- Whether a word character stands before and after, as ASCII has it. -/
def asciiSides (p : Position) : Bool × Bool :=
  (p.before.head?.any isAsciiWord, p.after.head?.any isAsciiWord)

/-- Whether a word character of any script stands before and after. -/
def unicodeSides (p : Position) : Bool × Bool :=
  ((charBefore? p.before).any isWordChar, (charAfter? p.after).any isWordChar)

/-- What stands before is the start of the line or valid UTF-8. -/
def readableBefore (p : Position) : Bool := p.before.isEmpty || (charBefore? p.before).isSome

/-- What stands after is the end of the line or valid UTF-8. -/
def readableAfter (p : Position) : Bool := p.after.isEmpty || (charAfter? p.after).isSome

/-- The edge is found between the two sides. -/
def Edge.between : Edge → Bool × Bool → Bool
  | .boundary, (before, after) => before != after
  | .inside, (before, after) => before == after
  | .start, (before, after) => !before && after
  | .stop, (before, after) => before && !after
  | .startHalf, (before, _) => !before
  | .stopHalf, (_, after) => !after

/-- The edge may be asked for at the position: what tells that a word is absent must be readable. -/
def Edge.readable (p : Position) : Edge → Bool
  | .inside => readableBefore p && readableAfter p
  | .startHalf => readableBefore p
  | .stopHalf => readableAfter p
  | _ => true

/-- The assertion holds at the position. -/
def Assertion.holds (p : Position) : Assertion → Bool
  | .textStart => p.before.isEmpty
  | .textEnd => p.after.isEmpty
  | .lineStart => p.before.isEmpty || p.before.head? == some 10
  | .lineEnd => p.after.isEmpty || p.after.head? == some 10
  | .anyLineStart =>
    p.before.isEmpty || p.before.head? == some 10
      || (p.before.head? == some 13 && p.after.head? != some 10)
  | .anyLineEnd =>
    p.after.isEmpty || p.after.head? == some 13
      || (p.after.head? == some 10 && p.before.head? != some 13)
  | .word edge false => edge.between (asciiSides p)
  | .word edge true => edge.readable p && edge.between (unicodeSides p)

end Regex

/-! ### Patterns -/

/-- A pattern. -/
inductive Regex
  /-- Matches without using up octets. -/
  | empty
  /-- One octet of a set. -/
  | octet (s : CodeSet)
  /-- One character of a set, in UTF-8. -/
  | scalar (s : CodeSet)
  /-- Asks about a position. -/
  | look (a : Regex.Assertion)
  /-- One after the other. -/
  | seq (r t : Regex)
  /-- One or the other. -/
  | alt (r t : Regex)
  /-- At least `least` repetitions, and at most `most` if that is given. -/
  | repetition (r : Regex) (least : Nat) (most : Option Nat)
  /-- A part in parentheses. -/
  | group (r : Regex)

namespace Regex

/-- The position after one octet of the set. -/
def stepOctet? (s : CodeSet) (p : Position) : Option Position :=
  match p.after with
  | [] => none
  | b :: rest => if s.contains b.toNat then some ⟨b :: p.before, rest, p.offset + 1⟩ else none

/-- The position after one character of the set. -/
def stepScalar? (s : CodeSet) (p : Position) : Option Position :=
  match p.after with
  | [] => none
  | b :: rest =>
    match Utf8.front b rest with
    | .scalar c _ =>
      if s.contains c.toNat then some (p.advance c.utf8Size) else none
    | .broken _ => none

/-- The positions of two lists in increasing order, in increasing order. -/
def merge : List Position → List Position → List Position → List Position
  | acc, [], qs => acc.reverse ++ qs
  | acc, p :: ps, [] => acc.reverse ++ p :: ps
  | acc, p :: ps, q :: qs =>
    if p.offset < q.offset then merge (p :: acc) ps (q :: qs)
    else if q.offset < p.offset then merge (q :: acc) (p :: ps) qs
    else merge (p :: acc) ps qs
  termination_by _ ps qs => ps.length + qs.length

/-- The positions whose offsets have not been seen, with those seen after them. -/
def fresh (seen : Array Bool) : List Position → List Position × Array Bool
  | [] => ([], seen)
  | p :: ps =>
    if seen.getD p.offset true then fresh seen ps
    else
      let (ps, seen) := fresh (seen.setIfInBounds p.offset true) ps
      (p :: ps, seen)

/-- Repeats `next` from the positions found last until there are no new ones; the positions found
come in no particular order. -/
def repeated (next : List Position → List Position) :
    Nat → Array Bool → List Position → List Position → List Position
  | 0, _, _, found => found
  | fuel + 1, seen, last, found =>
    match fresh seen (next last) with
    | ([], _) => found
    | (ps, seen) => repeated next fuel seen ps (ps ++ found)

/-- Positions in increasing order. -/
def inOrder (ps : List Position) : List Position :=
  ps.mergeSort fun p q => decide (p.offset ≤ q.offset)

/-- So many repetitions of `next`, as long as positions are left. -/
def iterated (next : List Position → List Position) : Nat → List Position → List Position
  | 0, ps => ps
  | _ + 1, [] => []
  | n + 1, p :: ps => iterated next n (next (p :: ps))

/-- The number of further repetitions that can find new positions in a line of `size` octets. -/
def furtherRepetitions (size least : Nat) : Option Nat → Nat
  | none => size + 1
  | some most => min (size + 1) (most - least)

/-- The positions where a match that starts at one of the positions may end, in a line of `size`
octets. -/
def ends (size : Nat) : Regex → List Position → List Position
  | .empty, ps => ps
  | .octet s, ps => ps.filterMap (stepOctet? s)
  | .scalar s, ps => ps.filterMap (stepScalar? s)
  | .look a, ps => ps.filter a.holds
  | .seq r t, ps => ends size t (ends size r ps)
  | .alt r t, ps => merge [] (ends size r ps) (ends size t ps)
  | .group r, ps => ends size r ps
  | .repetition r least most, ps =>
    let starts := iterated (ends size r) least ps
    let (starts, seen) := fresh (Array.replicate (size + 1) false) starts
    inOrder (repeated (ends size r) (furtherRepetitions size least most) seen starts starts)

/-- The pattern matches somewhere in the line. -/
def isMatch (r : Regex) (line : Bytes) : Bool :=
  !(r.ends line.length (Position.all line)).isEmpty

/-- The pattern matches somewhere in the text. -/
def isMatchText (r : Regex) (text : String) : Bool :=
  let line := Bytes.ofString text
  !(r.ends line.length ((Position.all line).filter Position.isBoundary)).isEmpty

/-- One pattern after the other. -/
def sequence : List Regex → Regex
  | [] => .empty
  | [r] => r
  | r :: rs => .seq r (sequence rs)

/-- One of several patterns. -/
def choice : List Regex → Regex
  | [] => .empty
  | [r] => r
  | r :: rs => .alt r (choice rs)

/-! ### Weight and depth -/

/-- The pattern matches the empty text only, wherever it matches. -/
def isWidthless : Regex → Bool
  | .empty => true
  | .look _ => true
  | .octet _ => false
  | .scalar _ => false
  | .seq r t => r.isWidthless && t.isWidthless
  | .alt r t => r.isWidthless && t.isWidthless
  | .group r => r.isWidthless
  | .repetition r _ most => r.isWidthless || most == some 0

/-- The weight of one state. -/
def stateWeight : Nat := 32

/-- The octets of a code point in UTF-8. -/
def utf8Size (n : Nat) : Nat :=
  if n < 0x80 then 1 else if n < 0x800 then 2 else if n < 0x10000 then 3 else 4

/-- The weight of a set of code points: one state for each octet of a single character, and for a
larger set a state for each range that is not ASCII. -/
def setWeight (s : CodeSet) : Nat :=
  match s.ranges with
  | [(lo, hi)] =>
    if lo = hi then stateWeight * utf8Size lo else 2 * stateWeight + 8 + rangeWeight (lo, hi)
  | rs => 2 * stateWeight + rs.foldl (fun w r => w + 8 + rangeWeight r) 0
where
  /-- The states for a range. -/
  rangeWeight (r : Nat × Nat) : Nat := if r.2 < 0x80 then 0 else 2 * stateWeight

/-- The octets that the states of a pattern take. -/
def weight : Regex → Nat
  | .empty => stateWeight
  | .octet s => setWeight s
  | .scalar s => setWeight s
  | .look _ => stateWeight
  | .seq r t => r.weight + t.weight
  | .alt r t => r.weight + t.weight + 2 * stateWeight + 8
  | .group r => r.weight + 2 * stateWeight
  | .repetition r least most =>
    let (least, most) := if r.isWidthless then (min 1 least, some 1) else (least, most)
    match most with
    | none => max 1 least * r.weight + 2 * stateWeight
    | some most => max most least * r.weight + (most - least) * (stateWeight + 8) + stateWeight

/-- The greatest weight of a pattern. Six states with 16 octets more are those that look for the start
of a match and mark its ends. -/
def maxWeight : Nat := 10 * 1024 * 1024 - (6 * stateWeight + 16)

/-- How many parts are within one another. -/
def depth : Regex → Nat
  | .seq r t => max (r.depth + 1) (if let .seq _ _ := t then t.depth else t.depth + 1)
  | .alt r t => max (r.depth + 1) (if let .alt _ _ := t then t.depth else t.depth + 1)
  | .group r => r.depth + 1
  | .repetition r _ _ => r.depth + 1
  | _ => 0

/-- The greatest depth of a pattern. -/
def maxDepth : Nat := 250

/-- The pattern is neither too heavy nor too deep. -/
def isBearable (r : Regex) : Bool := decide (r.depth ≤ maxDepth) && decide (r.weight ≤ maxWeight)

end Regex

end LogWatch
