import LogWatch.Toml.Quoted

/-!
# Reading TOML

A text is a list of lines: headers, keys with values, and lines with nothing but a comment. A
header begins a **section**, to which the keys after it belong; the keys before the first header
belong to the whole text. The sections are put into one table in order.

Within brackets and braces, line feeds and comments may stand between any two items, and a comma
may stand after the last one.
-/

namespace LogWatch

namespace Toml

/-- Values may be nested this deep. -/
def maxDepth : Nat := 80

/-- What is left after spaces and tabs. -/
def passSpaces (cs : List Char) : List Char := cs.dropWhile isSpace

/-- What is left after a comment, if one begins here. -/
def afterComment? (cs : List Char) : Option (List Char) :=
  match cs with
  | '#' :: cs =>
    let rest := cs.dropWhile isPrintable
    if rest.isEmpty || (afterLineFeed? rest).isSome then some rest else none
  | cs => some cs

/-- What is left after the end of a line, before which there may be blanks and a comment. -/
def afterLine? (cs : List Char) : Option (List Char) := do
  let rest ← afterComment? (passSpaces cs)
  if rest.isEmpty then return [] else afterLineFeed? rest

/-- What is left after blanks, line feeds and comments. -/
def passComments : Nat → List Char → Option (List Char)
  | 0, _ => none
  | fuel + 1, cs =>
    match passLines cs with
    | '#' :: rest => do passComments fuel (← afterComment? ('#' :: rest))
    | rest => some rest

/-- The character may stand in a key without quotes. -/
def isBare (c : Char) : Bool := c.isAlphanum || c == '_' || c == '-'

/-- One part of a key. -/
def keyPart? (cs : List Char) : Option (String × List Char) :=
  match cs with
  | '"' :: cs => quoted? '"' cs
  | '\'' :: cs => quoted? '\'' cs
  | cs =>
    let name := cs.takeWhile isBare
    if name.isEmpty then none else some (String.ofList name, cs.dropWhile isBare)

/-- A key: the parts before the last one, the last one, and what is left after blanks. -/
def key? : Nat → List String → List Char → Option ((List String × String) × List Char)
  | 0, _, _ => none
  | fuel + 1, path, cs => do
    let (part, rest) ← keyPart? (passSpaces cs)
    match passSpaces rest with
    | '.' :: rest => key? fuel (part :: path) rest
    | rest => return ((path.reverse, part), rest)

/-- The character may stand in a value without quotes. -/
def isWordChar (c : Char) : Bool :=
  c.isAlphanum || c == '_' || c == '-' || c == '+' || c == '.' || c == ':'

/-- A value without quotes. A date may be followed by a space and a time. -/
def wordValue? (cs : List Char) : Option (Toml × List Char) :=
  let word := cs.takeWhile isWordChar
  let rest := cs.dropWhile isWordChar
  match rest with
  | ' ' :: d :: more =>
    if afterDate? word == some [] && d.isDigit then
      let time := (d :: more).takeWhile isWordChar
      (word? (word ++ ' ' :: time)).map (·, (d :: more).dropWhile isWordChar)
    else (word? word).map (·, rest)
  | _ => (word? word).map (·, rest)

mutual

/-- A value, within which values may be nested `depth` deep. -/
def value? (depth : Nat) : Nat → List Char → Option (Toml × List Char)
  | 0, _ => none
  | fuel + 1, cs =>
    match cs with
    | '[' :: cs => if depth = 0 then none else items? (depth - 1) fuel [] cs
    | '\x7b' :: cs => if depth = 0 then none else entries? (depth - 1) fuel [] cs
    | '"' :: _ => (string? cs).map fun (s, rest) => (.str s, rest)
    | '\'' :: _ => (string? cs).map fun (s, rest) => (.str s, rest)
    | cs => wordValue? cs

/-- The rest of an array, after its items so far in reverse. -/
def items? (depth : Nat) : Nat → List Toml → List Char → Option (Toml × List Char)
  | 0, _, _ => none
  | fuel + 1, acc, cs => do
    match ← passComments (cs.length + 1) cs with
    | ']' :: rest => return (.arr acc.reverse, rest)
    | cs =>
      let (v, rest) ← value? depth fuel cs
      match ← passComments (rest.length + 1) rest with
      | ',' :: rest => items? depth fuel (v :: acc) rest
      | ']' :: rest => return (.arr (v :: acc).reverse, rest)
      | _ => none

/-- The rest of a table in braces, after its entries so far. -/
def entries? (depth : Nat) : Nat → Entries → List Char → Option (Toml × List Char)
  | 0, _, _ => none
  | fuel + 1, acc, cs => do
    match ← passComments (cs.length + 1) cs with
    | '\x7d' :: rest => return (.table .inline acc, rest)
    | cs =>
      let ((path, key), '=' :: rest) ← key? (cs.length + 1) [] cs | none
      let (v, rest) ← value? depth fuel (passSpaces rest)
      let acc ← acc.add path key v
      match ← passComments (rest.length + 1) rest with
      | ',' :: rest => entries? depth fuel acc rest
      | '\x7d' :: rest => return (.table .inline acc, rest)
      | _ => none

end

/-! ### Lines and sections -/

/-- What a line says. -/
inductive Line
  /-- A table begins. -/
  | header (path : List String) (key : String)
  /-- A further table of an array begins. -/
  | arrayHeader (path : List String) (key : String)
  /-- A key has a value. -/
  | entry (path : List String) (key : String) (v : Toml)

/-- The line that begins here, and what is left after it. -/
def line? (cs : List Char) : Option (Line × List Char) := do
  match cs with
  | '[' :: '[' :: cs =>
    let ((path, key), ']' :: ']' :: rest) ← key? (cs.length + 1) [] cs | none
    return (.arrayHeader path key, ← afterLine? rest)
  | '[' :: cs =>
    let ((path, key), ']' :: rest) ← key? (cs.length + 1) [] cs | none
    return (.header path key, ← afterLine? rest)
  | cs =>
    let ((path, key), '=' :: rest) ← key? (cs.length + 1) [] cs | none
    let rest := passSpaces rest
    let (v, rest) ← value? maxDepth (rest.length + 1) rest
    return (.entry path key v, ← afterLine? rest)

/-- The lines of a text that say something. -/
def lines? : Nat → List Line → List Char → Option (List Line)
  | 0, _, _ => none
  | fuel + 1, acc, cs => do
    match ← passComments (cs.length + 1) cs with
    | [] => return acc.reverse
    | cs =>
      let (line, rest) ← line? cs
      lines? fuel (line :: acc) rest

/-- The entries before the next header, and the lines from it on. -/
def splitSection : List Line → List (List String × String × Toml) × List Line
  | .entry path key v :: ls =>
    let (es, rest) := splitSection ls
    ((path, key, v) :: es, rest)
  | ls => ([], ls)

/-- Adds the entries of a section. -/
def fill (entries : List (List String × String × Toml)) (es : Entries) : Option Entries :=
  entries.foldlM (fun es (path, key, v) => es.add path key v) es

/-- Puts sections into a table. -/
def assemble : Nat → Entries → List Line → Option Entries
  | 0, _, _ => none
  | _ + 1, es, [] => some es
  | fuel + 1, es, l :: ls => do
    let (entries, rest) := splitSection ls
    match l with
    | .header path key => assemble fuel (← es.openTable path key (fill entries)) rest
    | .arrayHeader path key => assemble fuel (← es.appendTable path key (fill entries)) rest
    | .entry .. => none

/-- The table that a text spells; a byte order mark may stand in front. -/
def read? (text : String) : Option Entries := do
  let cs := match text.toList with
    | '\uFEFF' :: cs => cs
    | cs => cs
  let ls ← lines? (cs.length + 1) [] cs
  let (entries, rest) := splitSection ls
  assemble (rest.length + 1) (← fill entries []) rest

end Toml

end LogWatch
