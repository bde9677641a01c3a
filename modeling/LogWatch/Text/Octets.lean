/-!
# Octets

Log input is not text: a line is a list of **octets**, and only parts of it need be readable. This
module holds the type and the few questions asked of it everywhere: which octets are digits or
letters, whether one octet string begins with or contains another, and how runs of digits are read
as numbers.
-/

namespace LogWatch

/-- An octet string, in order of arrival. -/
abbrev Bytes := List UInt8

namespace Octet

/-- The octet is an ASCII decimal digit. -/
def isDigit (b : UInt8) : Bool := 48 ≤ b && b ≤ 57

/-- The octet is an ASCII letter. -/
def isLetter (b : UInt8) : Bool := (65 ≤ b && b ≤ 90) || (97 ≤ b && b ≤ 122)

/-- The value of a decimal digit. -/
def digitValue (b : UInt8) : Nat := b.toNat - 48

/-- The value of a hexadecimal digit, in either case. -/
def hexValue? (b : UInt8) : Option Nat :=
  if isDigit b then some (b.toNat - 48)
  else if 97 ≤ b && b ≤ 102 then some (b.toNat - 87)
  else if 65 ≤ b && b ≤ 70 then some (b.toNat - 55)
  else none

end Octet

namespace Bytes

/-- The octets of a text in UTF-8. -/
def ofString (s : String) : Bytes := s.toUTF8.toList

/-- What follows `lead` in the octet string, when it begins with `lead`. -/
def after? : Bytes → Bytes → Option Bytes
  | [], s => some s
  | _ :: _, [] => none
  | a :: lead, b :: s => if a == b then after? lead s else none

/-- The octet string begins with `lead`. -/
def startsWith (s lead : Bytes) : Bool := (after? lead s).isSome

/-- The word occurs as a contiguous part of the octet string. -/
def contains (word : Bytes) : Bytes → Bool
  | [] => word.isEmpty
  | b :: s => startsWith (b :: s) word || contains word s

/-- The number that a run of decimal digits spells. -/
def decimalValue (digits : Bytes) : Nat :=
  digits.foldl (fun n b => n * 10 + Octet.digitValue b) 0

/-- The two parts around the first octet equal to `b`, which belongs to neither. -/
def splitAtFirst? (b : UInt8) (s : Bytes) : Option (Bytes × Bytes) :=
  match s.span (· != b) with
  | (_, []) => none
  | (before, _ :: rest) => some (before, rest)

theorem after?_append (lead s : Bytes) : after? lead (lead ++ s) = some s := by
  induction lead with
  | nil => rfl
  | cons a lead ih => simp [after?, ih]

/-- Beginning with a lead is being that lead followed by something. -/
theorem after?_eq_some_iff {lead s rest : Bytes} :
    after? lead s = some rest ↔ s = lead ++ rest := by
  refine ⟨fun h => ?_, fun h => h ▸ after?_append lead rest⟩
  induction lead generalizing s with
  | nil => simpa [after?] using h
  | cons a lead ih =>
    cases s with
    | nil => simp [after?] at h
    | cons b s =>
      simp only [after?] at h
      split at h
      · next hab =>
        have hab : a = b := by simpa using hab
        rw [hab, List.cons_append, ih h]
      · simp at h

end Bytes

end LogWatch
