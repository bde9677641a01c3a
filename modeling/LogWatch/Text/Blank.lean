/-!
# Blank characters

**Blank** is the Unicode property `White_Space`: the ASCII blanks with vertical tab and form feed,
next line, no-break space, and the spaces and separators of the general punctuation and ideographic
blocks. Zero-width characters are not blank.
-/

namespace LogWatch

namespace Blank

/-- The character has the property `White_Space`. -/
def isBlank (c : Char) : Bool :=
  let n := c.toNat
  (9 ≤ n && n ≤ 13) || n == 0x20 || n == 0x85 || n == 0xA0 || n == 0x1680
    || (0x2000 ≤ n && n ≤ 0x200A) || n == 0x2028 || n == 0x2029 || n == 0x202F || n == 0x205F
    || n == 0x3000

/-- The characters without the blanks at both ends. -/
def trimChars (cs : List Char) : List Char :=
  ((cs.dropWhile isBlank).reverse.dropWhile isBlank).reverse

/-- The text without the blanks at both ends. -/
def trim (s : String) : String := String.ofList (trimChars s.toList)

/-- The text has nothing but blanks. -/
def isEmpty (s : String) : Bool := s.toList.all isBlank

end Blank

end LogWatch
