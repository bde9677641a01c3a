import LogWatch.Text.Utf8

/-!
# Reading back what was written

A text that is written as octets is read back as the same text: the encoding of a scalar value is
recognised at the front of whatever follows it (`LogWatch.Utf8.front_encode`). What has been read
does not depend on what comes behind it, so octets can be checked one piece after the other
(`LogWatch.Utf8.isValid_append`).
-/

namespace LogWatch

namespace Bytes

/-! ### The octets of a text -/

theorem toList_eq (bs : ByteArray) : bs.toList = bs.data.toList := by
  suffices h : ∀ i r, ByteArray.toList.loop bs i r = r.reverse ++ bs.data.toList.drop i by
    rw [ByteArray.toList, h]
    rfl
  intro i r
  fun_induction ByteArray.toList.loop bs i r with
  | case1 i r hi ih =>
    have hi' : i < bs.data.size := hi
    have hget : bs.get! i = bs.data[i] := getElem!_pos bs.data i hi'
    rw [ih, List.reverse_cons, List.append_assoc, hget, ← Array.getElem_toList hi',
      List.drop_eq_getElem_cons (h := hi')]
    rfl
  | case2 i r hi =>
    have hi' : bs.data.size ≤ i := Nat.le_of_not_lt hi
    rw [List.drop_of_length_le (by simpa using hi'), List.append_nil]

/-- The octets of a text are those of its characters, one after the other. -/
theorem ofString_eq (s : String) : ofString s = s.toList.flatMap String.utf8EncodeChar := by
  have h : (String.ofList s.toList).toByteArray = s.toList.utf8Encode := String.toByteArray_ofList
  rw [String.ofList_toList] at h
  rw [ofString, toList_eq, String.toUTF8_eq_toByteArray, h, List.utf8Encode,
    List.toList_data_toByteArray]

theorem ofString_append (s t : String) : ofString (s ++ t) = ofString s ++ ofString t := by
  simp [ofString_eq]

/-- An octet below 128 stands for the character of that number and for no other. -/
theorem exists_mem_of_mem_ofString {s : String} {b : UInt8} (hb : b.toNat < 128)
    (h : b ∈ ofString s) : ∃ c ∈ s.toList, c.toNat = b.toNat := by
  rw [ofString_eq, List.mem_flatMap] at h
  obtain ⟨c, hc, h⟩ := h
  refine ⟨c, hc, ?_⟩
  have hv : c.val.toNat = c.toNat := rfl
  simp only [String.utf8EncodeChar, hv] at h
  split at h
  · obtain rfl := List.mem_singleton.mp h
    rw [UInt8.toNat_ofNat']
    omega
  · split at h
    · simp only [List.mem_cons, List.not_mem_nil, or_false] at h
      rcases h with rfl | rfl <;> simp only [UInt8.toNat_ofNat'] at hb <;> omega
    · split at h
      · simp only [List.mem_cons, List.not_mem_nil, or_false] at h
        rcases h with rfl | rfl | rfl <;> simp only [UInt8.toNat_ofNat'] at hb <;> omega
      · simp only [List.mem_cons, List.not_mem_nil, or_false] at h
        rcases h with rfl | rfl | rfl | rfl <;> simp only [UInt8.toNat_ofNat'] at hb <;> omega

end Bytes

namespace Utf8

/-! ### The front -/

theorem isTail_iff {b : UInt8} : isTail b = true ↔ 128 ≤ b.toNat ∧ b.toNat ≤ 191 := by
  simp [isTail, UInt8.le_iff_toNat_le]

/-- What it means that the lead allows the second octet. -/
theorem mem_secondRange_iff {b t : UInt8} :
    ((secondRange b).1 ≤ t && t ≤ (secondRange b).2) = true ↔
      (128 ≤ t.toNat ∧ t.toNat ≤ 191) ∧ (b.toNat = 0xE0 → 160 ≤ t.toNat) ∧
        (b.toNat = 0xED → t.toNat ≤ 159) ∧ (b.toNat = 0xF0 → 144 ≤ t.toNat) ∧
        (b.toNat = 0xF4 → t.toNat ≤ 143) := by
  have heq (n : UInt8) : (b == n) = true ↔ b.toNat = n.toNat := by
    rw [beq_iff_eq, UInt8.toNat_inj]
  simp only [secondRange, heq, Bool.and_eq_true, decide_eq_true_eq, UInt8.le_iff_toNat_le]
  -- the lead is one of the four special ones, or it is none of them
  repeat' split
  all_goals
    simp only [UInt8.reduceToNat] at *
    omega

theorem not_lt_of_le {b n : UInt8} (h : n.toNat ≤ b.toNat) : ¬b < n :=
  UInt8.not_lt.mpr (UInt8.le_iff_toNat_le.mpr h)

theorem front_of_one {b : UInt8} {s : Bytes} (hb : b.toNat < 128) :
    front b s = .scalar (Char.ofNat b.toNat) s := by
  have h : b < 0x80 := UInt8.lt_iff_toNat_lt.mpr hb
  simp only [front, if_pos h]

theorem front_of_two {b t : UInt8} {s : Bytes} (hb : 194 ≤ b.toNat ∧ b.toNat < 224)
    (ht : isTail t = true) :
    front b (t :: s) = .scalar (Char.ofNat ((b.toNat - 0xC0) * 64 + (t.toNat - 0x80))) s := by
  have h1 : ¬b < 0x80 := not_lt_of_le (Nat.le_trans (by decide) hb.1)
  have h2 : ¬b < 0xC2 := not_lt_of_le (Nat.le_trans (by decide) hb.1)
  have h3 : b < 0xE0 := UInt8.lt_iff_toNat_lt.mpr hb.2
  simp only [front, if_neg h1, if_neg h2, if_pos h3, ht, if_true]

theorem front_of_three {b t u : UInt8} {s : Bytes} (hb : 224 ≤ b.toNat ∧ b.toNat < 240)
    (ht : ((secondRange b).1 ≤ t && t ≤ (secondRange b).2) = true) (hu : isTail u = true) :
    front b (t :: u :: s) = .scalar (Char.ofNat
      (((b.toNat - 0xE0) * 64 + (t.toNat - 0x80)) * 64 + (u.toNat - 0x80))) s := by
  have h1 : ¬b < 0x80 := not_lt_of_le (Nat.le_trans (by decide) hb.1)
  have h2 : ¬b < 0xC2 := not_lt_of_le (Nat.le_trans (by decide) hb.1)
  have h3 : ¬b < 0xE0 := not_lt_of_le (Nat.le_trans (by decide) hb.1)
  have h4 : b < 0xF0 := UInt8.lt_iff_toNat_lt.mpr hb.2
  simp only [front, if_neg h1, if_neg h2, if_neg h3, if_pos h4, ht, hu, if_true]

theorem front_of_four {b t u v : UInt8} {s : Bytes} (hb : 240 ≤ b.toNat ∧ b.toNat < 245)
    (ht : ((secondRange b).1 ≤ t && t ≤ (secondRange b).2) = true) (hu : isTail u = true)
    (hv : isTail v = true) :
    front b (t :: u :: v :: s) = .scalar (Char.ofNat
      ((((b.toNat - 0xF0) * 64 + (t.toNat - 0x80)) * 64 + (u.toNat - 0x80)) * 64
        + (v.toNat - 0x80))) s := by
  have h1 : ¬b < 0x80 := not_lt_of_le (Nat.le_trans (by decide) hb.1)
  have h2 : ¬b < 0xC2 := not_lt_of_le (Nat.le_trans (by decide) hb.1)
  have h3 : ¬b < 0xE0 := not_lt_of_le (Nat.le_trans (by decide) hb.1)
  have h4 : ¬b < 0xF0 := not_lt_of_le (Nat.le_trans (by decide) hb.1)
  have h5 : b < 0xF5 := UInt8.lt_iff_toNat_lt.mpr hb.2
  simp only [front, if_neg h1, if_neg h2, if_neg h3, if_neg h4, if_pos h5, ht, hu, hv, if_true]

/-- **The encoding of a character is recognised**, whatever follows it. -/
theorem front_encode (c : Char) (rest : Bytes) :
    ∃ b s, String.utf8EncodeChar c ++ rest = b :: s ∧ front b s = .scalar c rest := by
  have hv : c.val.toNat = c.toNat := rfl
  have hscalar : c.toNat < 0xD800 ∨ 0xDFFF < c.toNat ∧ c.toNat < 0x110000 := c.valid
  have hof {n : Nat} (hn : n < 256) : (UInt8.ofNat n).toNat = n := by
    rw [UInt8.toNat_ofNat', Nat.mod_eq_of_lt hn]
  have htail (n : Nat) : (UInt8.ofNat (n % 0x40 + 0x80)).toNat = n % 64 + 128 := hof (by omega)
  simp only [String.utf8EncodeChar, hv]
  split
  · have hb : (UInt8.ofNat c.toNat).toNat = c.toNat := hof (by omega)
    refine ⟨_, _, rfl, ?_⟩
    rw [front_of_one (by omega), hb, Char.ofNat_toNat]
    rfl
  · split
    · have hb : (UInt8.ofNat (c.toNat / 64 % 0x20 + 0xC0)).toNat = c.toNat / 64 + 192 := by
        rw [hof (by omega)]
        omega
      refine ⟨_, _ :: rest, rfl, ?_⟩
      rw [front_of_two (by omega) (isTail_iff.mpr (by rw [htail]; omega)), hb, htail,
        show (c.toNat / 64 + 192 - 0xC0) * 64 + (c.toNat % 64 + 128 - 0x80) = c.toNat by omega,
        Char.ofNat_toNat]
    · split
      · have hb : (UInt8.ofNat (c.toNat / 4096 % 0x10 + 0xE0)).toNat = c.toNat / 4096 + 224 := by
          rw [hof (by omega)]
          omega
        refine ⟨_, _ :: _ :: rest, rfl, ?_⟩
        rw [front_of_three (by omega)
          (mem_secondRange_iff.mpr ⟨by rw [htail]; omega, by rw [hb, htail]; omega,
            by rw [hb, htail]; omega, by rw [hb]; omega, by rw [hb]; omega⟩)
          (isTail_iff.mpr (by rw [htail]; omega)), hb, htail, htail,
          show ((c.toNat / 4096 + 224 - 0xE0) * 64 + (c.toNat / 64 % 64 + 128 - 0x80)) * 64 +
            (c.toNat % 64 + 128 - 0x80) = c.toNat by omega, Char.ofNat_toNat]
      · have hb : (UInt8.ofNat (c.toNat / 262144 % 0x08 + 0xF0)).toNat =
            c.toNat / 262144 + 240 := by
          rw [hof (by omega)]
          omega
        refine ⟨_, _ :: _ :: _ :: rest, rfl, ?_⟩
        rw [front_of_four (by omega)
          (mem_secondRange_iff.mpr ⟨by rw [htail]; omega, by rw [hb]; omega, by rw [hb]; omega,
            by rw [hb, htail]; omega, by rw [hb, htail]; omega⟩)
          (isTail_iff.mpr (by rw [htail]; omega)) (isTail_iff.mpr (by rw [htail]; omega)), hb,
          htail, htail, htail,
          show (((c.toNat / 262144 + 240 - 0xF0) * 64 + (c.toNat / 4096 % 64 + 128 - 0x80)) * 64 +
            (c.toNat / 64 % 64 + 128 - 0x80)) * 64 + (c.toNat % 64 + 128 - 0x80) = c.toNat by
            omega, Char.ofNat_toNat]

/-- What has been recognised does not depend on what follows. -/
theorem front_append {b : UInt8} {s rest t : Bytes} {c : Char} (h : front b s = .scalar c rest) :
    front b (s ++ t) = .scalar c (rest ++ t) := by
  unfold front at h ⊢
  rcases s with _ | ⟨t1, _ | ⟨t2, _ | ⟨t3, s⟩⟩⟩ <;>
    simp only [List.nil_append, List.cons_append] at h ⊢ <;> grind

/-- The second octet of a longer encoding is no ASCII octet. -/
theorem le_secondRange (lead : UInt8) : 0x80 ≤ (secondRange lead).1 := by
  simp only [secondRange]
  repeat' split
  all_goals decide

/-- An ASCII octet at the end does not help to recognise anything before it. -/
theorem front_of_snoc {a b : UInt8} {s rest : Bytes} {c : Char} (ha : a < 0x80)
    (h : front b (s ++ [a]) = .scalar c rest) :
    ∃ rest', rest = rest' ++ [a] ∧ front b s = .scalar c rest' := by
  -- no octet but the first of an encoding is below 128
  have htail : isTail a = false := Bool.eq_false_iff.mpr fun htail =>
    absurd (UInt8.lt_iff_toNat_lt.mp ha) (Nat.not_lt.mpr (isTail_iff.mp htail).1)
  have hrange (lead : UInt8) : decide ((secondRange lead).1 ≤ a) = false :=
    decide_eq_false fun hle =>
      absurd (UInt8.le_trans (le_secondRange lead) hle) (UInt8.not_le.mpr ha)
  unfold front at h ⊢
  rcases s with _ | ⟨t1, _ | ⟨t2, _ | ⟨t3, s⟩⟩⟩ <;>
    simp only [List.nil_append, List.cons_append, hrange, htail] at h ⊢ <;> grind

/-! ### Whole strings -/

section Whole

variable {b : UInt8} {s t rest : Bytes} {c : Char} {acc cs : List Char}

theorem strictOnto_cons (h : front b s = .scalar c rest) :
    strictOnto acc (b :: s) = strictOnto (c :: acc) rest := by
  rw [strictOnto]
  split
  · next c' rest' h' =>
    rw [h] at h'
    obtain ⟨rfl, rfl⟩ : c = c' ∧ rest = rest' := by simpa using h'
    rfl
  · next h' => simp [h] at h'

theorem strictOnto_of_broken (h : front b s = .broken rest) : strictOnto acc (b :: s) = none := by
  rw [strictOnto]
  split
  · next h' => simp [h] at h'
  · rfl

theorem lossyOnto_cons (h : front b s = .scalar c rest) :
    lossyOnto acc (b :: s) = lossyOnto (c :: acc) rest := by
  rw [lossyOnto]
  split
  · next c' rest' h' =>
    rw [h] at h'
    obtain ⟨rfl, rfl⟩ : c = c' ∧ rest = rest' := by simpa using h'
    rfl
  · next h' => simp [h] at h'

/-- A string is read one piece after the other. -/
theorem strictOnto_append (h : strictOnto acc s = some cs) :
    strictOnto acc (s ++ t) = strictOnto cs t := by
  induction acc, s using strictOnto.induct with
  | case1 acc =>
    rw [strictOnto] at h
    obtain rfl := Option.some.inj h
    rfl
  | case2 acc b s _ c rest hfront ih =>
    rw [strictOnto_cons hfront] at h
    rw [List.cons_append, strictOnto_cons (front_append hfront)]
    exact ih h
  | case3 acc b s _ rest hfront => simp [strictOnto_of_broken hfront] at h

/-- What has been read before does not matter for what can be read. -/
theorem isSome_strictOnto (acc' : List Char) :
    (strictOnto acc s).isSome = (strictOnto acc' s).isSome := by
  induction acc, s using strictOnto.induct generalizing acc' with
  | case1 acc => rw [strictOnto, strictOnto, Option.isSome_some, Option.isSome_some]
  | case2 acc b s _ c rest hfront ih =>
    rw [strictOnto_cons hfront, strictOnto_cons hfront]
    exact ih _
  | case3 acc b s _ rest hfront =>
    rw [strictOnto_of_broken hfront, strictOnto_of_broken hfront]

/-- Where no start is broken, both readers agree. -/
theorem lossyOnto_eq (h : strictOnto acc s = some cs) : lossyOnto acc s = cs := by
  induction acc, s using strictOnto.induct with
  | case1 acc =>
    rw [strictOnto] at h
    rw [lossyOnto]
    exact Option.some.inj h
  | case2 acc b s _ c rest hfront ih =>
    rw [strictOnto_cons hfront] at h
    rw [lossyOnto_cons hfront]
    exact ih h
  | case3 acc b s _ rest hfront => simp [strictOnto_of_broken hfront] at h

/-- **What follows valid octets is judged by itself.** -/
theorem isValid_append (h : isValid s = true) : isValid (s ++ t) = isValid t := by
  obtain ⟨cs, hs⟩ := Option.isSome_iff_exists.mp h
  rw [isValid, strictOnto_append hs]
  exact isSome_strictOnto []

/-- **Valid octets without an ASCII octet at their end are valid.** -/
theorem isValid_of_snoc {a : UInt8} (ha : a < 0x80) (h : isValid (s ++ [a]) = true) :
    isValid s = true := by
  rw [isValid] at h ⊢
  generalize ([] : List Char) = acc at h ⊢
  induction acc, s using strictOnto.induct with
  | case1 acc => rw [strictOnto, Option.isSome_some]
  | case2 acc b s _ c rest hfront ih =>
    rw [List.cons_append, strictOnto_cons (front_append hfront)] at h
    rw [strictOnto_cons hfront]
    exact ih h
  | case3 acc b s _ rest hfront =>
    cases hsnoc : front b (s ++ [a]) with
    | scalar c rest' =>
      obtain ⟨rest'', -, hscalar⟩ := front_of_snoc ha hsnoc
      simp [hfront] at hscalar
    | broken rest' => simp [strictOnto_of_broken hsnoc] at h

/-- Valid octets begin with no octet that continues a character. -/
theorem not_isTail_of_isValid (h : isValid (b :: s) = true) : isTail b = false := by
  refine Bool.eq_false_iff.mpr fun htail => ?_
  have hb := isTail_iff.mp htail
  have h1 : ¬b < 0x80 := not_lt_of_le hb.1
  have h2 : b < 0xC2 := UInt8.lt_iff_toNat_lt.mpr (Nat.lt_of_le_of_lt hb.2 (by decide))
  have hfront : front b s = .broken s := by
    simp only [front, if_neg h1, if_pos h2]
  simp [isValid, strictOnto_of_broken hfront] at h

/-- **A text that was written is read back.** -/
theorem decode?_ofString (text : String) : decode? (Bytes.ofString text) = some text := by
  have h (cs : List Char) (acc : List Char) :
      strictOnto acc (cs.flatMap String.utf8EncodeChar) = some (cs.reverse ++ acc) := by
    induction cs generalizing acc with
    | nil => rw [List.flatMap_nil, strictOnto, List.reverse_nil, List.nil_append]
    | cons c cs ih =>
      obtain ⟨b, s, heq, hfront⟩ := front_encode c (cs.flatMap String.utf8EncodeChar)
      rw [List.flatMap_cons, heq, strictOnto_cons hfront, ih, List.reverse_cons,
        List.append_assoc, List.singleton_append]
  rw [decode?, Bytes.ofString_eq, h, Option.map_some, List.append_nil, List.reverse_reverse,
    String.ofList_toList]

theorem isValid_ofString (text : String) : isValid (Bytes.ofString text) = true := by
  have h := decode?_ofString text
  rw [decode?, Option.map_eq_some_iff] at h
  obtain ⟨cs, hcs, -⟩ := h
  rw [isValid, hcs]
  rfl

theorem decodeLossy_ofString (text : String) : decodeLossy (Bytes.ofString text) = text := by
  have h := decode?_ofString text
  rw [decode?, Option.map_eq_some_iff] at h
  obtain ⟨cs, hcs, htext⟩ := h
  rw [decodeLossy, lossyOnto_eq hcs, htext]

end Whole

end Utf8

end LogWatch
