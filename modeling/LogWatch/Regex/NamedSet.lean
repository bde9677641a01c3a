import LogWatch.Unicode.Folding
import LogWatch.Unicode.Property
import LogWatch.Unicode.Script

/-!
# Named sets of characters

The sets that a pattern may name: those with one letter after a backslash (`\d`, `\s`, `\w`), the
bracketed names of ASCII (`[:alpha:]`), and the properties of Unicode (`\p`). A property may be
named alone, or as the value of a property that has values (`sc=Greek`).

The names of properties are compared **loosely**: case, spaces, hyphens and underscores do not
count, nor does a leading `is`.
-/

namespace LogWatch

namespace Regex

/-! ### Sets of ASCII -/

/-- The sets of ASCII with their bracketed names. -/
def asciiSets : List (String × List (Nat × Nat)) := [
  ("alnum", [(0x30, 0x39), (0x41, 0x5A), (0x61, 0x7A)]),
  ("alpha", [(0x41, 0x5A), (0x61, 0x7A)]),
  ("ascii", [(0x00, 0x7F)]),
  ("blank", [(0x09, 0x09), (0x20, 0x20)]),
  ("cntrl", [(0x00, 0x1F), (0x7F, 0x7F)]),
  ("digit", [(0x30, 0x39)]),
  ("graph", [(0x21, 0x7E)]),
  ("lower", [(0x61, 0x7A)]),
  ("print", [(0x20, 0x7E)]),
  ("punct", [(0x21, 0x2F), (0x3A, 0x40), (0x5B, 0x60), (0x7B, 0x7E)]),
  ("space", [(0x09, 0x0D), (0x20, 0x20)]),
  ("upper", [(0x41, 0x5A)]),
  ("word", [(0x30, 0x39), (0x41, 0x5A), (0x5F, 0x5F), (0x61, 0x7A)]),
  ("xdigit", [(0x30, 0x39), (0x41, 0x46), (0x61, 0x66)])]

/-- The set of ASCII with a bracketed name. -/
def asciiSet? (name : String) : Option CodeSet := (asciiSets.lookup name).map CodeSet.ofRanges

/-- A set named by the lower case of one letter, among all characters or those of ASCII. -/
def letterSet? (unicode : Bool) (letter : Char) : Option CodeSet :=
  match letter with
  | 'd' => if unicode then some Unicode.decimalDigit else asciiSet? "digit"
  | 's' => if unicode then some Unicode.whiteSpace else asciiSet? "space"
  | 'w' => if unicode then some Unicode.wordCharacter else asciiSet? "word"
  | _ => none

/-! ### Properties -/

/-- A name as it is compared, after a leading `is` has been taken off. -/
def looseChars (cs : List Char) : List Char :=
  (cs.filter fun c => c.toNat < 0x80 && c != ' ' && c != '_' && c != '-').map Char.toLower

/-- A name as it is compared. -/
def looseName (name : String) : String :=
  match name.toList with
  | a :: b :: cs =>
    if a.toLower == 'i' && b.toLower == 's' then
      let rest := looseChars cs
      if rest == ['c'] then "isc" else String.ofList rest
    else String.ofList (looseChars (a :: b :: cs))
  | cs => String.ofList (looseChars cs)

/-- One of the names is the one looked for. -/
def isNamed (loose : String) (names : List String) : Bool := names.any (looseName · == loose)

/-- The property that is either present or absent. -/
def plainProperty? (loose : String) : Option CodeSet :=
  match Unicode.derivedProperties.find? fun entry => isNamed loose entry.1 with
  | some (_, s) => some s
  | none =>
    (Unicode.listedProperties.find? fun entry => isNamed loose entry.1).map fun entry =>
      CodeSet.ofNotation entry.2

/-- The general category, or group of them. -/
def category? (loose : String) : Option CodeSet :=
  if loose == "any" then some (CodeSet.range 0 CodeSet.maxCode)
  else if loose == "assigned" then some Unicode.assigned
  else if loose == "ascii" then some (CodeSet.range 0 0x7F)
  else if isNamed loose ["Cn", "Unassigned"] then
    some (Unicode.assigned.complement CodeSet.maxCode)
  else if isNamed loose ["C", "Other"] then
    some ((Unicode.assigned.complement CodeSet.maxCode).union
      (Unicode.ofCategories ["Cc", "Cf", "Co", "Cs"]))
  else
    match Unicode.categoryGroups.find? fun (short, long, _) => isNamed loose [short, long] with
    | some (_, _, members) => some (Unicode.ofCategories members)
    | none =>
      (Unicode.categoryTable.find? fun (short, long, _) => isNamed loose [short, long]).map
        fun (_, _, ranges) => CodeSet.ofNotation ranges

/-- Further names of categories. -/
def categoryAlias (loose : String) : String :=
  match loose with
  | "cntrl" => "cc"
  | "digit" => "nd"
  | "punct" => "p"
  | "combiningmark" => "m"
  | _ => loose

/-- The script. -/
def script? (loose : String) : Option CodeSet :=
  (Unicode.scriptTable.find? fun entry => isNamed loose entry.1).map fun entry =>
    CodeSet.ofNotation entry.2

/-- The set that a single name stands for: a property, a category or a script, in this order. Three
short names of categories are also names of properties that have no such set. -/
def property? (name : String) : Option CodeSet :=
  let loose := looseName name
  let plain := if loose ∈ ["cf", "sc", "lc"] then none else plainProperty? loose
  plain <|> category? (categoryAlias loose) <|> script? loose

/-- The set of the characters for which a property has a value. -/
def propertyValue? (name value : String) : Option CodeSet :=
  if isNamed (looseName name) ["gc", "General_Category"] then
    category? (categoryAlias (looseName value))
  else if isNamed (looseName name) ["sc", "Script"] then script? (looseName value)
  else none

end Regex

end LogWatch
