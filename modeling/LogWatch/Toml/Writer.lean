/-!
# Writing TOML

Values are written for people to read. A string takes the first of these forms that can hold it
without an escape: double quotes, single quotes, tripled double quotes, tripled single quotes. If
none can, it is written with escapes, in tripled double quotes if it has a line feed. An array that
is not empty has a line for each item.
-/

namespace LogWatch

namespace Toml

/-- The greatest number of times that a character stands in a row. -/
def longestRun (c : Char) (run best : Nat) : List Char → Nat
  | [] => max run best
  | d :: cs => if d = c then longestRun c (run + 1) best cs else longestRun c 0 (max run best) cs

/-- The character can only be written as an escape. -/
def needsEscape (c : Char) : Bool :=
  (c.toNat < 0x20 && c != '\t' && c != '\n') || c.toNat == 0x7F

/-- An escape of a character by its number. -/
def numberedEscape (c : Char) : List Char :=
  let digit (n : Nat) : Char := (Nat.digitChar n).toUpper
  ['\\', 'u', '0', '0', digit (c.toNat / 16), digit (c.toNat % 16)]

/-- The characters of a string between double quotes. At most `allowed` double quotes stand in a row
without an escape. -/
def escapedChars (tripled : Bool) (allowed run : Nat) : List Char → List Char
  | [] => []
  | c :: cs =>
    let escape (e : List Char) := e ++ escapedChars tripled allowed 0 cs
    if c = '"' then
      if allowed < run + 1 then escape ['\\', '"']
      else c :: escapedChars tripled allowed (run + 1) cs
    else if c = '\x08' then escape ['\\', 'b']
    else if c = '\t' then escape ['\\', 't']
    else if c = '\n' ∧ !tripled then escape ['\\', 'n']
    else if c = '\x0C' then escape ['\\', 'f']
    else if c = '\r' then escape ['\\', 'r']
    else if c = '\\' then escape ['\\', '\\']
    else if needsEscape c then escape (numberedEscape c)
    else c :: escapedChars tripled allowed 0 cs

/-- A string as written. -/
def quotedChars (s : String) : List Char :=
  let cs := s.toList
  let controls := cs.any needsEscape
  let backslash := cs.contains '\\'
  let feed := cs.contains '\n'
  let doubles := longestRun '"' 0 0 cs
  let singles := longestRun '\'' 0 0 cs
  let lead := if feed then ['\n'] else []
  let three (c : Char) := [c, c, c]
  if !controls && !backslash && doubles = 0 && !feed then '"' :: escapedChars false 0 0 cs ++ ['"']
  else if !controls && singles = 0 && !feed then '\'' :: cs ++ ['\'']
  else if !controls && !backslash && doubles ≤ 2 then
    three '"' ++ lead ++ escapedChars true 2 0 cs ++ three '"'
  else if !controls && singles ≤ 2 then three '\'' ++ lead ++ cs ++ three '\''
  else if feed then three '"' ++ lead ++ escapedChars true 2 0 cs ++ three '"'
  else '"' :: escapedChars false 0 0 cs ++ ['"']

/-- A string as written. -/
def quoted (s : String) : String := String.ofList (quotedChars s)

/-- An array of strings as written. -/
def textArray : List String → String
  | [] => "[]"
  | ss => "[\n" ++ String.join (ss.map fun s => "    " ++ quoted s ++ ",\n") ++ "]"

end Toml

end LogWatch
