import LogWatch.Regex.Basic
import LogWatch.Regex.NamedSet
import LogWatch.Text.Blank

/-!
# Modes of reading

The letters in `(?i)` and its like set the **mode** in which the rest of a part is read. What a
character, a point or a set stands for depends on the mode: whether case counts, which lines there
are, and whether the pattern speaks of characters or of octets.

A pattern for **text** may not match octets that are not valid UTF-8, so a part that could is
refused there.
-/

namespace LogWatch

namespace Regex

/-- How a part of a pattern is read. -/
structure Mode where
  /-- Upper and lower case are the same. -/
  ignoreCase : Bool := false
  /-- The ends of lines are asked for, not those of the text. -/
  multiLine : Bool := false
  /-- A point stands for a line feed too. -/
  dotAll : Bool := false
  /-- Characters are those of Unicode. -/
  unicode : Bool := true
  /-- A line may end in CR, LF or both. -/
  anyLineEnd : Bool := false
  /-- Blanks and comments do not count. -/
  ignoreBlanks : Bool := false
  /-- The pattern is for text. -/
  text : Bool := false

namespace Mode

/-- The octets of ASCII. -/
def isAscii (s : CodeSet) : Bool := s.ranges.all fun r => decide (r.2 < 0x80)

/-- The set, unless it has octets outside ASCII in a pattern for text. -/
def admitted? (m : Mode) (s : CodeSet) : Option CodeSet :=
  if !m.unicode && m.text && !isAscii s then none else some s

/-- One character of a set, or one octet of it. -/
def ofSet (m : Mode) (s : CodeSet) : Regex := if m.unicode then .scalar s else .octet s

/-- What is outside a set. -/
def complement (m : Mode) (s : CodeSet) : CodeSet :=
  s.complement (if m.unicode then CodeSet.maxCode else 0xFF)

/-- The ASCII letters of either case for those in the set. -/
def asciiFold (s : CodeSet) : CodeSet :=
  let upper := s.inter (CodeSet.range 0x41 0x5A)
  let lower := s.inter (CodeSet.range 0x61 0x7A)
  (s.union ⟨upper.ranges.map fun r => (r.1 + 32, r.2 + 32)⟩).union
    ⟨lower.ranges.map fun r => (r.1 - 32, r.2 - 32)⟩

/-- The set with the other cases of its members, when case does not count. -/
def folded (m : Mode) (s : CodeSet) : CodeSet :=
  if !m.ignoreCase then s else if m.unicode then Unicode.foldClosure s else asciiFold s

/-- What is outside the set if that is asked for, else the set. -/
def complementIf (m : Mode) (negated : Bool) (s : CodeSet) : Option CodeSet :=
  m.admitted? (if negated then m.complement s else s)

/-- One character, as itself. -/
def ofChar (m : Mode) (c : Char) : Regex :=
  if !m.ignoreCase then .scalar (CodeSet.single c.toNat)
  else if m.unicode then .scalar (Unicode.foldClosure (CodeSet.single c.toNat))
  else .scalar (asciiFold (CodeSet.single c.toNat))

/-- What a point stands for. -/
def dot (m : Mode) : Option Regex :=
  if m.text && !m.unicode then none
  else
    let excluded :=
      if m.dotAll then CodeSet.empty
      else if m.anyLineEnd then CodeSet.ofList [10, 13]
      else CodeSet.single 10
    some (if m.unicode then .scalar (m.complement excluded) else .octet (m.complement excluded))

/-- What `^` asks. -/
def start (m : Mode) : Assertion :=
  if !m.multiLine then .textStart else if m.anyLineEnd then .anyLineStart else .lineStart

/-- What `$` asks. -/
def stop (m : Mode) : Assertion :=
  if !m.multiLine then .textEnd else if m.anyLineEnd then .anyLineEnd else .lineEnd

/-- What is left when blanks and comments in front are passed over; a comment goes from `#` to the
end of its line. -/
def passBlanks (inComment : Bool) : List Char → List Char
  | [] => []
  | c :: cs =>
    if inComment then passBlanks (c != '\n') cs
    else if Blank.isBlank c then passBlanks false cs
    else if c == '#' then passBlanks true cs
    else c :: cs

/-- What is left when that which does not count is passed over. -/
def pass (m : Mode) (cs : List Char) : List Char :=
  if m.ignoreBlanks then passBlanks false cs else cs

/-- The characters that count. -/
def counting (m : Mode) (cs : List Char) : List Char :=
  if m.ignoreBlanks then cs.filter (!Blank.isBlank ·) else cs

/-- The mode with the setting of one letter, if there is such a letter. Whether a repetition is
greedy makes no difference to where a pattern matches. -/
def set? (m : Mode) (letter : Char) (value : Bool) : Option Mode :=
  match letter with
  | 'i' => some { m with ignoreCase := value }
  | 'm' => some { m with multiLine := value }
  | 's' => some { m with dotAll := value }
  | 'U' => some m
  | 'u' => some { m with unicode := value }
  | 'R' => some { m with anyLineEnd := value }
  | 'x' => some { m with ignoreBlanks := value }
  | _ => none

end Mode

end Regex

end LogWatch
