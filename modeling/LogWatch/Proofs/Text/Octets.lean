import LogWatch.Text.Octets
import Mathlib.Algebra.GroupWithZero.Nat
import Mathlib.Data.List.TakeDrop
import Mathlib.Data.List.TakeWhile

/-!
# Runs of digits and parts of octet strings

Digits are read in two ways: as many as there are, up to the first octet that is none, or so many
of them and no more. Digits of the second kind come with their number (`LogWatch.Digits`).
-/

namespace LogWatch

/-- So many decimal digits. -/
structure Digits (width : Nat) where
  /-- The digits. -/
  octets : Bytes
  /-- There are so many. -/
  length_octets : octets.length = width
  /-- They are digits. -/
  isDigit : ∀ b ∈ octets, Octet.isDigit b = true

/-- The number that the digits spell. -/
def Digits.value {width : Nat} (d : Digits width) : Nat := Bytes.decimalValue d.octets

/-- There is a first digit. -/
theorem Digits.exists_octets_eq {width : Nat} (d : Digits (width + 1)) :
    ∃ b ds, d.octets = b :: ds ∧ Octet.isDigit b = true := by
  obtain ⟨ds, hlength, hdigit⟩ := d
  cases ds with
  | nil => cases hlength
  | cons b ds => exact ⟨b, ds, rfl, hdigit b List.mem_cons_self⟩

variable {ds rest : Bytes}

/-- Digits are taken up to the first octet that is none. -/
theorem Octet.span_isDigit (h : ∀ b ∈ ds, Octet.isDigit b = true)
    (hrest : ∀ b ∈ rest.head?, Octet.isDigit b = false) :
    (ds ++ rest).span Octet.isDigit = (ds, rest) := by
  have hnone : rest.takeWhile Octet.isDigit = [] ∧ rest.dropWhile Octet.isDigit = rest := by
    cases rest with
    | nil => exact ⟨rfl, rfl⟩
    | cons b rest => simp [hrest b rfl]
  rw [List.span_eq_takeWhile_dropWhile, List.takeWhile_append_of_pos h,
    List.dropWhile_append_of_pos h, hnone.1, hnone.2, List.append_nil]

namespace Bytes

/-- Zeros behind a number multiply it. -/
theorem decimalValue_append_zeros (ds : Bytes) (n : Nat) :
    decimalValue (ds ++ List.replicate n 48) = decimalValue ds * 10 ^ n := by
  induction n with
  | zero => simp
  | succ n ih =>
    rw [List.replicate_succ', ← List.append_assoc, decimalValue, List.foldl_append,
      ← decimalValue, ih, Nat.pow_succ, ← Nat.mul_assoc]
    rfl

/-- The part before an octet ends where the octet first stands. -/
theorem splitAtFirst?_append {b : UInt8} {before : Bytes} (h : b ∉ before) (rest : Bytes) :
    splitAtFirst? b (before ++ b :: rest) = some (before, rest) := by
  have hbefore : ∀ c ∈ before, (c != b) = true := fun c hc =>
    bne_iff_ne.mpr fun heq => h (heq ▸ hc)
  rw [splitAtFirst?, List.span_eq_takeWhile_dropWhile, List.takeWhile_append_of_pos hbefore,
    List.dropWhile_append_of_pos hbefore]
  simp

theorem splitAtFirst?_eq_some {b : UInt8} {s before : Bytes}
    (h : splitAtFirst? b s = some (before, rest)) :
    s = before ++ b :: rest ∧ before = s.takeWhile (· != b) := by
  rw [splitAtFirst?, List.span_eq_takeWhile_dropWhile] at h
  have hend := List.head?_dropWhile_not (· != b) s
  cases hdrop : s.dropWhile (· != b) with
  | nil => rw [hdrop] at h; cases h
  | cons c rest =>
    rw [hdrop] at h hend
    obtain ⟨rfl, rfl⟩ := Prod.mk.inj (Option.some.inj h)
    obtain rfl : c = b := by simpa using hend
    exact ⟨by rw [← hdrop, List.takeWhile_append_dropWhile], rfl⟩

end Bytes

end LogWatch
