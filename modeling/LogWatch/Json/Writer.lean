import LogWatch.Json.Value

/-!
# Writing JSON

The compact form: no blanks, members in the order of their names, characters outside ASCII as they
are. Within a string only the quote, the backslash and the control characters below U+0020 are
escaped. A number without a fraction that is not an integer value ends in `.0`, and a number that
JSON cannot hold is written `null`.
-/

namespace LogWatch

namespace Json

/-- A hexadecimal digit in lower case. -/
def hexDigit (n : Nat) : Char := (Nat.digitChar n)

/-- A character as it stands within a written string. -/
def escaped (c : Char) : List Char :=
  if c = '"' then ['\\', '"']
  else if c = '\\' then ['\\', '\\']
  else if c = '\n' then ['\\', 'n']
  else if c = '\r' then ['\\', 'r']
  else if c = '\t' then ['\\', 't']
  else if c = '\x08' then ['\\', 'b']
  else if c = '\x0c' then ['\\', 'f']
  else if c.toNat < 0x20 then
    ['\\', 'u', '0', '0', hexDigit (c.toNat / 16), hexDigit (c.toNat % 16)]
  else [c]

/-- A string value as written. -/
def quoted (s : String) : List Char := '"' :: (s.toList.flatMap escaped ++ ['"'])

/-- A number as written. -/
def Number.chars : Number → List Char
  | .int n => if n < 0 then '-' :: Nat.toDigits 10 n.natAbs else Nat.toDigits 10 n.natAbs
  | .float x =>
    if x.isNaN || x.isInf then "null".toList
    else Shortest.Layout.json.writeFinite x

mutual

/-- A value as written. -/
def chars : Json → List Char
  | .null => "null".toList
  | .bool true => "true".toList
  | .bool false => "false".toList
  | .num n => n.chars
  | .str s => quoted s
  | .arr [] => ['[', ']']
  | .arr (v :: vs) => '[' :: (v.chars ++ itemsChars vs)
  | .obj [] => ['\x7b', '\x7d']
  | .obj ((k, v) :: ms) => '\x7b' :: (quoted k ++ ':' :: (v.chars ++ membersChars ms))

/-- The items after the first, and the closing bracket. -/
def itemsChars : List Json → List Char
  | [] => [']']
  | v :: vs => ',' :: (v.chars ++ itemsChars vs)

/-- The members after the first, and the closing brace. -/
def membersChars : List (String × Json) → List Char
  | [] => ['\x7d']
  | (k, v) :: ms => ',' :: (quoted k ++ ':' :: (v.chars ++ membersChars ms))

end

/-- The compact text of a value. -/
def render (v : Json) : String := String.ofList v.chars

end Json

end LogWatch
