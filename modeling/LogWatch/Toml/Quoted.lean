import LogWatch.Toml.Scalar

/-!
# Strings in TOML

A string stands in quotes, which may be single or double and may be tripled. Between double quotes a
backslash escapes; between tripled quotes there may be line feeds, of which one right at the start
does not count. Up to two quotes may stand before a tripled closing quote and belong to the string.

A carriage return counts only together with the line feed after it; other control characters than
tabs stand in no string.
-/

namespace LogWatch

namespace Toml

/-- The character may stand in a string or comment as it is. -/
def isPrintable (c : Char) : Bool := c == '\t' || (c.toNat ≥ 0x20 && c.toNat != 0x7F)

/-- The character with a number, if there is one. -/
def charOf? (n : Nat) : Option Char :=
  if n < 0xD800 || (0xDFFF < n && n ≤ 0x10FFFF) then some (Char.ofNat n) else none

/-- A character by so many hexadecimal digits. -/
def hexChar? (width : Nat) (cs : List Char) : Option (Char × List Char) :=
  let ds := cs.take width
  if ds.length = width && ds.all isHex then (charOf? (valueIn 16 ds)).map (·, cs.drop width)
  else none

/-- The character after a backslash. -/
def escapedChar? : List Char → Option (Char × List Char)
  | [] => none
  | c :: cs =>
    match c with
    | 'b' => some ('\x08', cs)
    | 't' => some ('\t', cs)
    | 'n' => some ('\n', cs)
    | 'f' => some ('\x0C', cs)
    | 'r' => some ('\r', cs)
    | 'e' => some ('\x1B', cs)
    | '"' => some ('"', cs)
    | '\\' => some ('\\', cs)
    | 'x' => hexChar? 2 cs
    | 'u' => hexChar? 4 cs
    | 'U' => hexChar? 8 cs
    | _ => none

/-- What is left after a line feed in front, which a carriage return may precede. -/
def afterLineFeed? : List Char → Option (List Char)
  | '\n' :: cs => some cs
  | '\r' :: '\n' :: cs => some cs
  | _ => none

/-- A space or a tab. -/
def isSpace (c : Char) : Bool := c == ' ' || c == '\t'

/-- What is left after blanks and line feeds. -/
def passLines : List Char → List Char
  | ' ' :: cs => passLines cs
  | '\t' :: cs => passLines cs
  | '\n' :: cs => passLines cs
  | '\r' :: '\n' :: cs => passLines cs
  | cs => cs

/-- The rest of a string in single or double quotes, after its characters so far in reverse. -/
def quotedOn (quote : Char) : Nat → List Char → List Char → Option (String × List Char)
  | 0, _, _ => none
  | _ + 1, _, [] => none
  | fuel + 1, acc, c :: cs =>
    if c == quote then some (String.ofList acc.reverse, cs)
    else if c == '\\' && quote == '"' then do
      let (d, rest) ← escapedChar? cs
      quotedOn quote fuel (d :: acc) rest
    else if isPrintable c then quotedOn quote fuel (c :: acc) cs
    else none

/-- A backslash at the end of a line: what is left after it and the blanks that follow, over any
number of lines. -/
def afterFoldedLine? (cs : List Char) : Option (List Char) :=
  (afterLineFeed? (cs.dropWhile isSpace)).map passLines

/-- The end of a string in tripled quotes: three to five of them, of which all but the last three
belong to the string. -/
def closingQuotes? (quote : Char) (cs : List Char) : Option (Nat × List Char) :=
  let n := ((cs.take 5).takeWhile (· == quote)).length
  if 3 ≤ n then some (n - 3, cs.drop n) else none

/-- The rest of a string in tripled quotes, after its characters so far in reverse. -/
def tripledOn (quote : Char) : Nat → List Char → List Char → Option (String × List Char)
  | 0, _, _ => none
  | _ + 1, _, [] => none
  | fuel + 1, acc, c :: cs =>
    match closingQuotes? quote (c :: cs) with
    | some (n, rest) => some (String.ofList (List.replicate n quote ++ acc).reverse, rest)
    | none =>
      if c == '\\' && quote == '"' then
        match afterFoldedLine? cs with
        | some rest => tripledOn quote fuel acc rest
        | none => do
          let (d, rest) ← escapedChar? cs
          tripledOn quote fuel (d :: acc) rest
      else
        match afterLineFeed? (c :: cs) with
        | some rest => tripledOn quote fuel ('\n' :: acc) rest
        | none => if isPrintable c then tripledOn quote fuel (c :: acc) cs else none

/-- A string in tripled quotes, after them. -/
def tripled? (quote : Char) (cs : List Char) : Option (String × List Char) :=
  tripledOn quote (cs.length + 1) [] ((afterLineFeed? cs).getD cs)

/-- A string in single or double quotes, after the first of them. -/
def quoted? (quote : Char) (cs : List Char) : Option (String × List Char) :=
  quotedOn quote (cs.length + 1) [] cs

/-- A string, if one begins here. -/
def string? (cs : List Char) : Option (String × List Char) :=
  match cs with
  | '"' :: '"' :: '"' :: cs => tripled? '"' cs
  | '\'' :: '\'' :: '\'' :: cs => tripled? '\'' cs
  | '"' :: cs => quoted? '"' cs
  | '\'' :: cs => quoted? '\'' cs
  | _ => none

end Toml

end LogWatch
