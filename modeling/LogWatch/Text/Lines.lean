import LogWatch.Text.Octets

/-!
# Lines of a text

A text is cut after each line feed; a line loses its line feed and one carriage return before it.
Nothing follows a line feed that ends the text, and a text without a final line feed ends in a line
whose carriage return, if it has one, stays.
-/

namespace LogWatch

namespace Lines

/-- A line that ended in a line feed, given in reverse, without its carriage return. -/
def closeLine : List Char → List Char
  | '\r' :: cs => cs.reverse
  | cs => cs.reverse

/-- The lines of a text whose current line so far is `open_`, in reverse. -/
def split (open_ : List Char) : List Char → List (List Char)
  | [] => if open_.isEmpty then [] else [open_.reverse]
  | '\n' :: cs => closeLine open_ :: split [] cs
  | c :: cs => split (c :: open_) cs

/-- The lines of a text. -/
def ofString (s : String) : List String := (split [] s.toList).map String.ofList

/-- A line of octets that ended in a line feed, given in reverse, without its carriage return. -/
def closeOctets : Bytes → Bytes
  | 13 :: bs => bs.reverse
  | bs => bs.reverse

/-- The lines of some octets whose current line so far is `open_`, in reverse. -/
def splitOctets (open_ : Bytes) : Bytes → List Bytes
  | [] => if open_.isEmpty then [] else [open_.reverse]
  | b :: bs =>
    if b == 10 then closeOctets open_ :: splitOctets [] bs else splitOctets (b :: open_) bs

/-- The lines of some octets. -/
def ofBytes (s : Bytes) : List Bytes := splitOctets [] s

/-- The lines of some octets with their line feeds, where the current line so far is `open_`, in
reverse. -/
def cutOctets (open_ : Bytes) : Bytes → List Bytes
  | [] => if open_.isEmpty then [] else [open_.reverse]
  | b :: bs =>
    if b == 10 then (b :: open_).reverse :: cutOctets [] bs else cutOctets (b :: open_) bs

/-- The lines of some octets, each as it stands, with its line feed. -/
def wholeOfBytes (s : Bytes) : List Bytes := cutOctets [] s

/-- The first line of a text, empty if there is none. -/
def firstOf (s : String) : String := (ofString s).headD ""

end Lines

end LogWatch
