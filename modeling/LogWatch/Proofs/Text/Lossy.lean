import LogWatch.Proofs.Text.Utf8

/-!
# What replacing costs

Reading octets as text, whatever they are, keeps the encodings among them and puts U+FFFD in place
of each broken start. A broken start may be one octet long, and U+FFFD takes three: written as
octets again, the text is up to three times as long as what was read
(`LogWatch.Utf8.length_ofString_decodeLossy_le`), and it is what was read where nothing was broken
(`LogWatch.Utf8.ofString_decodeLossy`).

Octets below 128 are never part of a broken start, so the lines of the text are those of the octets
(`LogWatch.Utf8.count_ofString_decodeLossy`).
-/

namespace LogWatch

namespace Utf8

/-! ### Encoding what was recognised -/

section Encoding

variable {b t u v : UInt8} {s rest : Bytes} {c : Char}

theorem toNat_ofNat {n : Nat} (h : n < 0xD800 ∨ 0xDFFF < n ∧ n < 0x110000) :
    (Char.ofNat n).toNat = n := by
  rw [Char.ofNat, dif_pos h]
  rfl

theorem ofNat_eq {b : UInt8} {n : Nat} (h : n = b.toNat) : UInt8.ofNat n = b := by
  rw [h, UInt8.ofNat_toNat]

theorem utf8EncodeChar_of_one (hb : b.toNat < 128) :
    String.utf8EncodeChar (Char.ofNat b.toNat) = [b] := by
  have hc : (Char.ofNat b.toNat).val.toNat = b.toNat := toNat_ofNat (by omega)
  simp only [String.utf8EncodeChar, hc]
  rw [if_pos (by omega), UInt8.ofNat_toNat]

theorem utf8EncodeChar_of_two (hb : 194 ≤ b.toNat ∧ b.toNat < 224) (ht : isTail t = true) :
    String.utf8EncodeChar (Char.ofNat ((b.toNat - 0xC0) * 64 + (t.toNat - 0x80))) = [b, t] := by
  have ht := isTail_iff.mp ht
  obtain ⟨n, hn⟩ : ∃ n, n = (b.toNat - 0xC0) * 64 + (t.toNat - 0x80) := ⟨_, rfl⟩
  have hc : (Char.ofNat n).val.toNat = n := toNat_ofNat (by omega)
  simp only [← hn, String.utf8EncodeChar, hc]
  rw [if_neg (by omega), if_pos (by omega), ofNat_eq (b := b) (by omega),
    ofNat_eq (b := t) (by omega)]

theorem utf8EncodeChar_of_three (hb : 224 ≤ b.toNat ∧ b.toNat < 240)
    (ht : ((secondRange b).1 ≤ t && t ≤ (secondRange b).2) = true) (hu : isTail u = true) :
    String.utf8EncodeChar (Char.ofNat
      (((b.toNat - 0xE0) * 64 + (t.toNat - 0x80)) * 64 + (u.toNat - 0x80))) = [b, t, u] := by
  obtain ⟨ht, hE0, hED, -, -⟩ := mem_secondRange_iff.mp ht
  have hu := isTail_iff.mp hu
  obtain ⟨n, hn⟩ : ∃ n, n = ((b.toNat - 0xE0) * 64 + (t.toNat - 0x80)) * 64 + (u.toNat - 0x80) :=
    ⟨_, rfl⟩
  have hc : (Char.ofNat n).val.toNat = n := toNat_ofNat (by omega)
  simp only [← hn, String.utf8EncodeChar, hc]
  rw [if_neg (by omega), if_neg (by omega), if_pos (by omega), ofNat_eq (b := b) (by omega),
    ofNat_eq (b := t) (by omega), ofNat_eq (b := u) (by omega)]

theorem utf8EncodeChar_of_four (hb : 240 ≤ b.toNat ∧ b.toNat < 245)
    (ht : ((secondRange b).1 ≤ t && t ≤ (secondRange b).2) = true) (hu : isTail u = true)
    (hv : isTail v = true) :
    String.utf8EncodeChar (Char.ofNat
      ((((b.toNat - 0xF0) * 64 + (t.toNat - 0x80)) * 64 + (u.toNat - 0x80)) * 64
        + (v.toNat - 0x80))) = [b, t, u, v] := by
  obtain ⟨ht, -, -, hF0, hF4⟩ := mem_secondRange_iff.mp ht
  have hu := isTail_iff.mp hu
  have hv := isTail_iff.mp hv
  obtain ⟨n, hn⟩ : ∃ n, n = (((b.toNat - 0xF0) * 64 + (t.toNat - 0x80)) * 64 +
      (u.toNat - 0x80)) * 64 + (v.toNat - 0x80) := ⟨_, rfl⟩
  have hc : (Char.ofNat n).val.toNat = n := toNat_ofNat (by omega)
  simp only [← hn, String.utf8EncodeChar, hc]
  rw [if_neg (by omega), if_neg (by omega), if_neg (by omega), ofNat_eq (b := b) (by omega),
    ofNat_eq (b := t) (by omega), ofNat_eq (b := u) (by omega), ofNat_eq (b := v) (by omega)]

theorem toNat_lt_of_lt {b n : UInt8} (h : b < n) : b.toNat < n.toNat := UInt8.lt_iff_toNat_lt.mp h

theorem le_toNat_of_not_lt {b n : UInt8} (h : ¬b < n) : n.toNat ≤ b.toNat :=
  UInt8.le_iff_toNat_le.mp (UInt8.not_lt.mp h)

/-- There is an octet at least, and none is below 128. -/
def IsBreak (start : Bytes) : Prop := start ≠ [] ∧ ∀ x ∈ start, 128 ≤ x.toNat

theorem isBreak_cons {ts : Bytes} (hb : ¬b < 0x80) (hts : ∀ x ∈ ts, 128 ≤ x.toNat) :
    IsBreak (b :: ts) :=
  ⟨by simp, List.forall_mem_cons.mpr ⟨le_toNat_of_not_lt hb, hts⟩⟩

/-- **The front of a string and what is left are the string**: a character in its encoding, or
octets from 128 on. -/
theorem front_spec (b : UInt8) (s : Bytes) :
    match front b s with
    | .scalar c rest => b :: s = String.utf8EncodeChar c ++ rest
    | .broken rest => ∃ start, b :: s = start ++ rest ∧ IsBreak start := by
  have hrange {t lo hi : UInt8} (hsecond : secondRange b = (lo, hi))
      (ht : (decide (lo ≤ t) && decide (t ≤ hi)) = true) :
      ((secondRange b).1 ≤ t && t ≤ (secondRange b).2) = true := by rwa [hsecond]
  have hfrom {t lo hi : UInt8} (hsecond : secondRange b = (lo, hi))
      (ht : (decide (lo ≤ t) && decide (t ≤ hi)) = true) : 128 ≤ t.toNat :=
    (mem_secondRange_iff.mp (hrange hsecond ht)).1.1
  have htail {t : UInt8} (ht : isTail t = true) : 128 ≤ t.toNat := (isTail_iff.mp ht).1
  fun_cases front b s with
  -- a character of one octet, two, three or four
  | case1 s hb => exact congrArg (· ++ s) (utf8EncodeChar_of_one (toNat_lt_of_lt hb)).symm
  | case3 hb hC2 hE0 t s ht =>
    exact congrArg (· ++ s)
      (utf8EncodeChar_of_two ⟨le_toNat_of_not_lt hC2, toNat_lt_of_lt hE0⟩ ht).symm
  | case6 hb hC2 hE0 hF0 t lo hi hsecond ht u s hu =>
    exact congrArg (· ++ s) (utf8EncodeChar_of_three
      ⟨le_toNat_of_not_lt hE0, toNat_lt_of_lt hF0⟩ (hrange hsecond ht) hu).symm
  | case11 hb hC2 hE0 hF0 hF5 t lo hi hsecond ht u hu v s hv =>
    exact congrArg (· ++ s) (utf8EncodeChar_of_four
      ⟨le_toNat_of_not_lt hF0, toNat_lt_of_lt hF5⟩ (hrange hsecond ht) hu hv).symm
  -- a lead alone, or none
  | case2 s hb | case18 s hb => exact ⟨[b], rfl, isBreak_cons hb (by simp)⟩
  | case4 hb | case5 hb | case9 hb | case10 hb | case16 hb | case17 hb =>
    exact ⟨[b], rfl, isBreak_cons hb (by simp)⟩
  -- a lead and what may follow it, but not all of that
  | case7 hb _ _ _ t lo hi hsecond ht | case8 hb _ _ _ t lo hi hsecond ht
  | case14 hb _ _ _ _ t lo hi hsecond ht | case15 hb _ _ _ _ t lo hi hsecond ht =>
    exact ⟨[b, t], rfl, isBreak_cons hb (by simp [hfrom hsecond ht])⟩
  | case12 hb _ _ _ _ t lo hi hsecond ht u hu | case13 hb _ _ _ _ t lo hi hsecond ht u hu =>
    exact ⟨[b, t, u], rfl, isBreak_cons hb (by simp [hfrom hsecond ht, htail hu])⟩

theorem eq_append_of_scalar (h : front b s = .scalar c rest) :
    b :: s = String.utf8EncodeChar c ++ rest := by
  have := front_spec b s
  rwa [h] at this

theorem eq_append_of_broken (h : front b s = .broken rest) :
    ∃ start, b :: s = start ++ rest ∧ IsBreak start := by
  have := front_spec b s
  rwa [h] at this

end Encoding

/-! ### Whole strings -/

section Replacing

variable {b : UInt8} {s rest : Bytes} {c : Char} {acc cs : List Char}

/-- The octets of some characters, of which the last comes first. -/
def written (cs : List Char) : Bytes := cs.reverse.flatMap String.utf8EncodeChar

theorem written_cons : written (c :: cs) = written cs ++ String.utf8EncodeChar c := by
  simp [written]

theorem ofString_reverse (cs : List Char) :
    Bytes.ofString (String.ofList cs.reverse) = written cs := by
  rw [Bytes.ofString_eq, String.toList_ofList, written]

theorem lossyOnto_of_broken (h : front b s = .broken rest) :
    lossyOnto acc (b :: s) = lossyOnto ('\uFFFD' :: acc) rest := by
  rw [lossyOnto]
  split
  · next h' => simp [h] at h'
  · next rest' h' =>
    rw [h] at h'
    obtain rfl := Front.broken.inj h'
    rfl

theorem utf8EncodeChar_replacement : String.utf8EncodeChar '\uFFFD' = [0xEF, 0xBF, 0xBD] := rfl

/-- An octet below 128 is not among those that are broken. -/
theorem IsBreak.count_eq_zero {start : Bytes} (h : IsBreak start) {a : UInt8} (ha : a < 0x80) :
    start.count a = 0 :=
  List.count_eq_zero.mpr fun hmem =>
    Nat.not_lt.mpr (h.2 a hmem) (UInt8.lt_iff_toNat_lt.mp ha)

theorem count_replacement {a : UInt8} (ha : a < 0x80) :
    (String.utf8EncodeChar '\uFFFD').count a = 0 := by
  rw [utf8EncodeChar_replacement]
  exact (isBreak_cons (by decide) (by simp)).count_eq_zero ha

/-- **What is put in place of an octet string** is at most three times as long, and has the same
octets below 128. -/
theorem exists_written_lossyOnto (acc : List Char) (s : Bytes) :
    ∃ text, written (lossyOnto acc s) = written acc ++ text ∧ text.length ≤ 3 * s.length ∧
      ∀ a < 0x80, text.count a = s.count a := by
  induction acc, s using lossyOnto.induct with
  | case1 acc => exact ⟨[], by rw [lossyOnto, List.append_nil], by simp, by simp⟩
  | case2 acc b s _ c rest hfront ih =>
    obtain ⟨text, hwritten, hlength, hcount⟩ := ih
    rw [lossyOnto_cons hfront, hwritten, written_cons, eq_append_of_scalar hfront]
    refine ⟨String.utf8EncodeChar c ++ text, List.append_assoc _ _ _, ?_, fun a ha => ?_⟩
    · rw [List.length_append, List.length_append]
      lia
    · rw [List.count_append, List.count_append, hcount a ha]
  | case3 acc b s _ rest hfront ih =>
    obtain ⟨text, hwritten, hlength, hcount⟩ := ih
    obtain ⟨start, heq, hstart⟩ := eq_append_of_broken hfront
    rw [lossyOnto_of_broken hfront, hwritten, written_cons, heq]
    refine ⟨String.utf8EncodeChar '\uFFFD' ++ text, List.append_assoc _ _ _, ?_, fun a ha => ?_⟩
    · have hpos := List.length_pos_iff.mpr hstart.1
      rw [List.length_append, List.length_append, utf8EncodeChar_replacement, List.length_cons,
        List.length_cons, List.length_cons, List.length_nil]
      lia
    · rw [List.count_append, List.count_append, hcount a ha, hstart.count_eq_zero ha,
        count_replacement ha]

/-- **A text takes at most three times as many octets as it was read from.** -/
theorem length_ofString_decodeLossy_le (s : Bytes) :
    (Bytes.ofString (decodeLossy s)).length ≤ 3 * s.length := by
  obtain ⟨text, hwritten, hlength, -⟩ := exists_written_lossyOnto [] s
  rw [decodeLossy, ofString_reverse, hwritten]
  exact hlength

/-- **Octets below 128 are kept**, line feeds for one. -/
theorem count_ofString_decodeLossy (s : Bytes) {a : UInt8} (ha : a < 0x80) :
    (Bytes.ofString (decodeLossy s)).count a = s.count a := by
  obtain ⟨text, hwritten, -, hcount⟩ := exists_written_lossyOnto [] s
  rw [decodeLossy, ofString_reverse, hwritten]
  exact hcount a ha

theorem written_strictOnto (h : strictOnto acc s = some cs) : written cs = written acc ++ s := by
  induction acc, s using strictOnto.induct with
  | case1 acc =>
    rw [strictOnto] at h
    obtain rfl := Option.some.inj h
    exact (List.append_nil _).symm
  | case2 acc b s _ c rest hfront ih =>
    rw [strictOnto_cons hfront] at h
    rw [ih h, written_cons, eq_append_of_scalar hfront, List.append_assoc]
  | case3 acc b s _ rest hfront => simp [strictOnto_of_broken hfront] at h

/-- **Where nothing is broken, nothing is changed.** -/
theorem ofString_decodeLossy (h : isValid s = true) : Bytes.ofString (decodeLossy s) = s := by
  obtain ⟨cs, hcs⟩ := Option.isSome_iff_exists.mp h
  rw [decodeLossy, lossyOnto_eq hcs, ofString_reverse, written_strictOnto hcs]
  rfl

/-- **An octet that no encoding holds costs three**, each time that it comes. -/
theorem length_written_lossyOnto_replicate (acc : List Char) (n : Nat) :
    (written (lossyOnto acc (List.replicate n 0xFF))).length = (written acc).length + 3 * n := by
  induction n generalizing acc with
  | zero => rw [List.replicate_zero, lossyOnto, Nat.mul_zero, Nat.add_zero]
  | succ n ih =>
    have hfront : front 0xFF (List.replicate n 0xFF) = .broken (List.replicate n 0xFF) := by
      rw [front.eq_def]
      rfl
    rw [List.replicate_succ, lossyOnto_of_broken hfront, ih, written_cons, List.length_append,
      utf8EncodeChar_replacement]
    simp only [List.length_cons, List.length_nil]
    omega

end Replacing

end Utf8

end LogWatch
