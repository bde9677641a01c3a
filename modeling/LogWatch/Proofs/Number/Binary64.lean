import LogWatch.Time.Epoch
import Mathlib

/-!
# Whole numbers as binary64 values

Below `2 ^ 53` every integer is a binary64 value: its binary digits are the significand, moved to
the left until there are 53 of them (`LogWatch.Binary64.nearestBits_one`). So a whole number of
seconds is kept as it is (`LogWatch.Epoch.isInt_ofParts`).

The bits of a value are put together from its sign, its exponent and its fraction. A change of the
sign leaves the other two, and adding zero leaves all three.
-/

namespace LogWatch

namespace Binary64

open Float.Model

/-- **The value is an integer.** Its significand is the magnitude of the integer, times a power of
two that the exponent takes back. -/
structure IsInt (x : Float) (n : Int) : Prop where
  /-- The sign is that of the integer. -/
  isNegative : isNegative x = true ↔ n < 0
  /-- The magnitude is that of the integer. -/
  exists_parts : ∃ k : Nat, parts x = (n.natAbs * Nat.pow 2 k, -(k : Int))

/-! ### Significands and rounding -/

theorem fst_parts_lt (x : Float) : (parts x).1 < Nat.pow 2 53 := by
  have hfraction : x.toBits.toNat % Nat.pow 2 52 < Nat.pow 2 52 := Nat.mod_lt _ (by decide)
  have hpow : Nat.pow 2 53 = Nat.pow 2 52 + Nat.pow 2 52 := by decide
  rw [parts]
  split <;> dsimp only <;> omega

theorem roundDiv_le (num den : Nat) : roundDiv num den ≤ num / den + 1 := by
  rw [roundDiv]
  split
  · omega
  · split
    · omega
    · split <;> omega

theorem roundDiv_one (n : Nat) : roundDiv n 1 = n := by
  simp [roundDiv, Nat.mod_one]

/-! ### Values and their fields -/

/-- The value with a sign, an exponent and a fraction, which is not infinite. -/
def ofFields (sign : UnpackedFloat.Sign) (exponent : BitVec 11) (fraction : BitVec 52)
    (h : exponent ≠ -1#11) : Float :=
  .ofModel ⟨⟨UnpackedFloat.packComponents Format.binary64 sign exponent fraction⟩, ⟨fun h' =>
    absurd (UnpackedFloat.unpackExponent_packComponents.symm.trans h') h⟩⟩

section Fields

variable {sign : UnpackedFloat.Sign} {exponent : BitVec 11} {fraction : BitVec 52}
  {h : exponent ≠ -1#11}

theorem pack_unpack (x : Float.Model) : Float.Model.pack x.unpack = x := by
  obtain ⟨⟨bits⟩, hvalid⟩ := x
  have hbits : UnpackedFloat.pack Format.binary64 (UnpackedFloat.unpack Format.binary64 bits) =
      bits := UnpackedFloat.pack_unpack_of_valid hvalid
  simp only [Float.Model.pack, Float.Model.unpack, hbits]

/-- Unless its exponent is the least, a value is not zero; its magnitude does not depend on the
sign. -/
theorem exists_unpack_ofFields (hzero : exponent ≠ 0#11) :
    ∃ m e hm, ∀ sign, (ofFields sign exponent fraction h).toModel.unpack = .finite sign m e hm := by
  refine ⟨(1#1 ++ fraction).toNat, (exponent.toNat : Int) - 1075, ?_, fun sign => ?_⟩
  · rw [BitVec.toNat_append]
    exact Nat.lt_of_lt_of_le (by decide) Nat.left_le_or
  · have hsign : UnpackedFloat.Sign.ofBitVec sign.toBitVec = sign := by cases sign <;> rfl
    rw [ofFields, Float.Model.unpack, UnpackedFloat.unpack]
    simp only [UnpackedFloat.unpackExponent_packComponents,
      UnpackedFloat.unpackMantissa_packComponents, UnpackedFloat.unpackSign_packComponents, hsign]
    rw [if_neg h, if_neg hzero]
    rfl

theorem ofModel_pack {u : UnpackedFloat} {x : Float} (hu : x.toModel.unpack = u) :
    Float.ofModel (Float.Model.pack u) = x := by
  rw [← hu, pack_unpack]

theorem neg_ofFields (hzero : exponent ≠ 0#11) :
    -ofFields sign exponent fraction h = ofFields (-sign) exponent fraction h := by
  obtain ⟨m, e, hm, hunpack⟩ := exists_unpack_ofFields hzero
  have hneg : -ofFields sign exponent fraction h =
      .ofModel (Float.Model.pack (ofFields sign exponent fraction h).toModel.unpack.neg) := rfl
  rw [hneg, hunpack]
  exact ofModel_pack (hunpack (-sign))

/-- Adding zero changes nothing. -/
theorem ofFields_add_zero (hzero : exponent ≠ 0#11) :
    ofFields sign exponent fraction h + ofNat 0 / 1e9 = ofFields sign exponent fraction h := by
  obtain ⟨m, e, hm, hunpack⟩ := exists_unpack_ofFields hzero
  have hadd : ofFields sign exponent fraction h + ofNat 0 / 1e9 =
      .ofModel (Float.Model.pack (UnpackedFloat.add Format.binary64
        (ofFields sign exponent fraction h).toModel.unpack (ofNat 0 / 1e9).toModel.unpack)) := rfl
  have hnil : (ofNat 0 / 1e9).toModel.unpack = .zero .positive := by rfl
  rw [hadd, hunpack, hnil]
  exact ofModel_pack (hunpack sign)

theorem toNat_append {m n : Nat} (x : BitVec m) (y : BitVec n) :
    (x ++ y).toNat = x.toNat * Nat.pow 2 n + y.toNat := by
  rw [BitVec.toNat_append, ← Nat.shiftLeft_add_eq_or_of_lt y.isLt, Nat.shiftLeft_eq]
  rfl

theorem toNat_toBits_ofFields : (ofFields sign exponent fraction h).toBits.toNat =
    (sign.toBitVec.toNat * Nat.pow 2 11 + exponent.toNat) * Nat.pow 2 52 + fraction.toNat := by
  have hbits : (ofFields sign exponent fraction h).toBits.toNat =
      (sign.toBitVec ++ exponent ++ fraction).toNat := rfl
  rw [hbits, toNat_append, toNat_append]

theorem ofBits_eq {bits : UInt64}
    (hbits : bits.toNat = exponent.toNat * Nat.pow 2 52 + fraction.toNat) :
    Float.ofBits bits = ofFields .positive exponent fraction h := by
  refine ofModel_pack ?_
  have hfields : (ofFields .positive exponent fraction h).toBits = bits := by
    rw [← UInt64.toNat_inj, toNat_toBits_ofFields, hbits]
    simp [UnpackedFloat.Sign.toBitVec]
  rw [← hfields]
  rfl

/-- The value of the fields. -/
theorem parts_ofFields (hzero : exponent ≠ 0#11) : parts (ofFields sign exponent fraction h) =
    (Nat.pow 2 52 + fraction.toNat, (exponent.toNat : Int) - 1075) := by
  have hexponent : exponent.toNat ≠ 0 := fun hnat => hzero (BitVec.eq_of_toNat_eq hnat)
  have hlt := fraction.isLt
  have hlt' := exponent.isLt
  have hfraction : (ofFields sign exponent fraction h).toBits.toNat % Nat.pow 2 52 =
      fraction.toNat := by
    rw [toNat_toBits_ofFields, Nat.pow_eq, Nat.pow_eq]
    omega
  have hfield : (ofFields sign exponent fraction h).toBits.toNat / Nat.pow 2 52 % Nat.pow 2 11 =
      exponent.toNat := by
    rw [toNat_toBits_ofFields, Nat.pow_eq, Nat.pow_eq]
    omega
  rw [parts, hfraction, hfield, if_neg hexponent]

theorem isNegative_ofFields :
    isNegative (ofFields sign exponent fraction h) = true ↔ sign = .negative := by
  have hlt := fraction.isLt
  have hlt' := exponent.isLt
  rw [isNegative, decide_eq_true_iff, toNat_toBits_ofFields, Nat.pow_eq, Nat.pow_eq, Nat.pow_eq]
  cases sign with
  | negative =>
    have hsign : UnpackedFloat.Sign.negative.toBitVec.toNat = 1 := rfl
    exact iff_of_true (by omega) rfl
  | positive =>
    have hsign : UnpackedFloat.Sign.positive.toBitVec.toNat = 0 := rfl
    exact iff_of_false (by omega) nofun

end Fields

/-! ### Whole numbers -/

section Whole

variable {n : Nat} {t : Int}

theorem log2_le (hpos : 0 < n) (hlt : n < Nat.pow 2 53) : Nat.log2 n ≤ 52 :=
  Nat.le_of_lt_succ ((Nat.log2_lt hpos.ne').mpr hlt)

/-- The binary digits of a natural number, moved to the left until there are 53 of them. -/
def significand (n : Nat) : Nat := n * Nat.pow 2 (52 - Nat.log2 n)

theorem significand_bounds (hpos : 0 < n) (hlt : n < Nat.pow 2 53) :
    Nat.pow 2 52 ≤ significand n ∧ significand n < Nat.pow 2 53 := by
  have hle := log2_le hpos hlt
  rw [significand]
  constructor
  · calc Nat.pow 2 52 = 2 ^ Nat.log2 n * 2 ^ (52 - Nat.log2 n) := by
          rw [← Nat.pow_add, Nat.add_sub_cancel' hle, Nat.pow_eq]
      _ ≤ n * 2 ^ (52 - Nat.log2 n) := Nat.mul_le_mul_right _ (Nat.log2_self_le hpos.ne')
  · calc n * 2 ^ (52 - Nat.log2 n) < 2 ^ (Nat.log2 n + 1) * 2 ^ (52 - Nat.log2 n) :=
          Nat.mul_lt_mul_of_pos_right Nat.lt_log2_self (Nat.two_pow_pos _)
      _ = Nat.pow 2 53 := by
          rw [← Nat.pow_add, Nat.add_right_comm, Nat.add_sub_cancel' hle, Nat.pow_eq]

/-- **The bits of a natural number** are those of its significand and of an exponent that takes the
move back. -/
theorem nearestBits_one (hpos : 0 < n) (hlt : n < Nat.pow 2 53) :
    nearestBits n 1 = (Nat.log2 n + 1022) * Nat.pow 2 52 + significand n := by
  have hle := log2_le hpos hlt
  have hbounds := significand_bounds hpos hlt
  have hlog : Nat.log2 1 = 0 := by decide
  have hbelow : ¬n < 1 * Nat.pow 2 (Nat.log2 n) := by
    rw [Nat.one_mul, Nat.not_lt]
    exact Nat.log2_self_le hpos.ne'
  have hplace : max ((Nat.log2 n : Int) - 52) (-1074) = (Nat.log2 n : Int) - 52 := by omega
  have hround : (if (0 : Int) ≤ Nat.log2 n - 52 then
      roundDiv n (1 * Nat.pow 2 ((Nat.log2 n : Int) - 52).toNat)
      else roundDiv (n * Nat.pow 2 (-((Nat.log2 n : Int) - 52)).toNat) 1) = significand n := by
    split
    · have hlog : Nat.log2 n = 52 := by omega
      rw [significand, hlog]
      exact (roundDiv_one n).trans (Nat.mul_one n).symm
    · have hmove : (-((Nat.log2 n : Int) - 52)).toNat = 52 - Nat.log2 n := by omega
      rw [roundDiv_one, hmove, significand]
  rw [nearestBits, if_neg hpos.ne']
  simp only [hlog, Nat.cast_zero, sub_zero, Int.natCast_nonneg, if_true, Int.toNat_natCast,
    decide_eq_true_iff, if_neg hbelow, hplace, hround, if_neg hbounds.1.not_gt]
  have hexponent : ((Nat.log2 n : Int) - 52 + 1074).toNat = Nat.log2 n + 1022 := by omega
  rw [hexponent, Nat.min_eq_left]
  rw [Nat.pow_eq, Nat.pow_eq] at *
  omega

/-- A natural number that is not zero, by its fields. -/
theorem exists_ofNat_eq (hpos : 0 < n) (hlt : n < Nat.pow 2 53) :
    ∃ (exponent : BitVec 11) (fraction : BitVec 52) (h : exponent ≠ -1#11),
      ofNat n = ofFields .positive exponent fraction h ∧ exponent ≠ 0#11 ∧
        exponent.toNat = Nat.log2 n + 1023 ∧ Nat.pow 2 52 + fraction.toNat = significand n := by
  have hle := log2_le hpos hlt
  have hbounds := significand_bounds hpos hlt
  rw [Nat.pow_eq, Nat.pow_eq] at hbounds
  have hexponent : (BitVec.ofNat 11 (Nat.log2 n + 1023)).toNat = Nat.log2 n + 1023 := by
    rw [BitVec.toNat_ofNat, Nat.mod_eq_of_lt]
    omega
  have hfraction : 2 ^ 52 + (BitVec.ofNat 52 (significand n - 2 ^ 52)).toNat = significand n := by
    rw [BitVec.toNat_ofNat, Nat.mod_eq_of_lt]
    all_goals omega
  have hinfinite : BitVec.ofNat 11 (Nat.log2 n + 1023) ≠ -1#11 := fun h => by
    have hall : (-1#11).toNat = 2047 := by decide
    rw [h] at hexponent
    omega
  have hzero : BitVec.ofNat 11 (Nat.log2 n + 1023) ≠ 0#11 := fun h => by
    have hnone : (0#11).toNat = 0 := by decide
    rw [h] at hexponent
    omega
  refine ⟨_, _, hinfinite, ofBits_eq ?_, hzero, hexponent, hfraction⟩
  rw [nearestBits_one hpos hlt, UInt64.toNat_ofNat', hexponent]
  rw [Nat.pow_eq]
  omega

/-- An integer that is not zero, by its fields. -/
theorem exists_ofInt_eq (hzero : t ≠ 0) (ht : t.natAbs < Nat.pow 2 53) :
    ∃ (sign : UnpackedFloat.Sign) (exponent : BitVec 11) (fraction : BitVec 52)
      (h : exponent ≠ -1#11), ofInt t = ofFields sign exponent fraction h ∧
        exponent ≠ 0#11 ∧ IsInt (ofFields sign exponent fraction h) t := by
  have hpos : 0 < t.natAbs := Int.natAbs_pos.mpr hzero
  obtain ⟨exponent, fraction, h, hn, hnormal, hexponent, hfraction⟩ := exists_ofNat_eq hpos ht
  have hle := log2_le hpos ht
  have hparts (sign : UnpackedFloat.Sign) : ∃ k : Nat,
      parts (ofFields sign exponent fraction h) = (t.natAbs * Nat.pow 2 k, -(k : Int)) := by
    refine ⟨52 - Nat.log2 t.natAbs, ?_⟩
    rw [parts_ofFields hnormal, hfraction, hexponent, significand]
    refine congrArg _ ?_
    omega
  by_cases hneg : t < 0
  · refine ⟨.negative, exponent, fraction, h, ?_, hnormal, ?_, hparts .negative⟩
    · rw [ofInt, if_pos hneg, hn, neg_ofFields hnormal]
      rfl
    · exact isNegative_ofFields.trans (iff_of_true rfl hneg)
  · refine ⟨.positive, exponent, fraction, h, ?_, hnormal, ?_, hparts .positive⟩
    · rw [ofInt, if_neg hneg, hn]
    · exact isNegative_ofFields.trans (iff_of_false nofun hneg)

end Whole

end Binary64

namespace Epoch

/-- **A whole number of seconds is kept as it is.** -/
theorem isInt_ofParts {t : Int} (ht : t.natAbs < Nat.pow 2 53) :
    Binary64.IsInt (ofParts t 0) t := by
  by_cases hzero : t = 0
  · rw [hzero]
    exact ⟨by decide +kernel, 1074, by decide +kernel⟩
  · obtain ⟨sign, exponent, fraction, h, hint, hnormal, hint'⟩ :=
      Binary64.exists_ofInt_eq hzero ht
    rw [ofParts, hint, Binary64.ofFields_add_zero hnormal]
    exact hint'

end Epoch

end LogWatch
