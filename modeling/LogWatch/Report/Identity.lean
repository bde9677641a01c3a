import LogWatch.Time.Epoch

/-!
# Identifiers of reports

A report is known by 32 hexadecimal digits in the layout of a random (version 4) UUID without its
hyphens. The randomness comes from outside: `Identity.ofEntropy` lays out the bits it is given, and
distinct bits give distinct identifiers.
-/

namespace LogWatch

/-- What is fresh about a new report: its identifier and the reading of the wall clock. -/
structure Origin where
  /-- The identifier. -/
  eventId : String
  /-- The time of its making, in seconds since 1970. -/
  madeAt : Float

namespace Identity

/-- The hexadecimal digits of a number, least digit last, in a given width. -/
def hexDigits : Nat → Nat → List Char
  | 0, _ => []
  | width + 1, n => hexDigits width (n / 16) ++ [Nat.digitChar (n % 16)]

/-- The identifier made of 122 bits: 48, then the version, 12, then the variant with 2, then 60. -/
def ofEntropy (bits : Nat) : String :=
  let high := bits / Nat.pow 2 74 % Nat.pow 2 48
  let middle := bits / Nat.pow 2 62 % Nat.pow 2 12
  let low := bits % Nat.pow 2 62
  String.ofList
    (hexDigits 12 high ++ '4' :: hexDigits 3 middle ++ hexDigits 16 (Nat.pow 2 63 + low))

/-- The digit is the version of a random identifier. -/
def isVersion (c : Char) : Bool := c == '4'

/-- The digit starts with the variant bits. -/
def isVariant (c : Char) : Bool := c == '8' || c == '9' || c == 'a' || c == 'b'

/-- The text has the layout of a random identifier, in lower case. -/
def isRandomLayout (s : String) : Bool :=
  let cs := s.toList
  cs.length == 32 && cs.all (fun c => c.isDigit || ('a' ≤ c && c ≤ 'f'))
    && cs[12]?.any isVersion && cs[16]?.any isVariant

end Identity

/-- The origin of a report made at `now` with these random bits. -/
def Origin.make (bits : Nat) (now : WallTime) : Origin :=
  ⟨Identity.ofEntropy bits, Epoch.ofWallTime now⟩

end LogWatch
