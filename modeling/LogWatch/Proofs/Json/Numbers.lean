import LogWatch.Json.Token
import LogWatch.Proofs.Json.Writer
import LogWatch.Proofs.Text.Octets
import LogWatch.Proofs.Text.Utf8
import Mathlib.Data.List.TakeDrop
import Mathlib.Data.List.TakeWhile

/-!
# Written numbers, read again

A number is **spelled** by its text: whatever number is written, its text is one that is read as a
number (`LogWatch.Json.Number.isSpelled`). For a binary64 value this takes a look at how its digits
are found and laid out: the first of them is no zero, for among the twenty places that are tried
there is one at which the value has a digit (`LogWatch.Json.Number.floor_pos`).

The number that is read need not be the one that was written. An integer comes back as it was
(`LogWatch.Json.Number.reread?_int`), but the digits of a binary64 value are the shortest that are
nearest to it, and they are read by multiplying and dividing, with a rounding at each step.
-/

namespace LogWatch

namespace Json

/-! ### Octets of characters -/

/-- The octets of some characters. -/
def octets (cs : List Char) : Bytes := cs.flatMap String.utf8EncodeChar

@[simp] theorem octets_nil : octets [] = [] := rfl

@[simp] theorem octets_cons (c : Char) (cs : List Char) :
    octets (c :: cs) = String.utf8EncodeChar c ++ octets cs := rfl

@[simp] theorem octets_append (cs ds : List Char) : octets (cs ++ ds) = octets cs ++ octets ds :=
  List.flatMap_append

theorem ofString_render (v : Json) : Bytes.ofString v.render = octets v.chars := by
  rw [render, Bytes.ofString_eq, String.toList_ofList]
  rfl

/-- An ASCII character is one octet. -/
theorem utf8EncodeChar_of_lt {c : Char} (h : c.toNat < 128) :
    String.utf8EncodeChar c = [UInt8.ofNat c.toNat] := by
  rw [String.utf8EncodeChar]
  exact if_pos (Nat.le_of_lt_succ h)

/-- An octet below 128 is an ASCII character. -/
theorem toNat_of_mem_utf8EncodeChar {c : Char} {b : UInt8} (hb : b.toNat < 128)
    (h : b ∈ String.utf8EncodeChar c) : c.toNat = b.toNat := by
  have hmem : b ∈ Bytes.ofString (String.ofList [c]) := by
    rw [Bytes.ofString_eq, String.toList_ofList]
    simpa using h
  obtain ⟨d, hd, hnat⟩ := Bytes.exists_mem_of_mem_ofString hb hmem
  rw [String.toList_ofList, List.mem_singleton] at hd
  rwa [hd] at hnat

/-! ### Numbers -/

namespace Number

/-- The number that the text of a number is read as. -/
def reread? (n : Number) : Option Number :=
  (Spelling.ofBytes? (octets n.chars)).bind Spelling.value?

/-- The text of the number spells a number. -/
def IsSpelled (n : Number) : Prop := (Spelling.ofBytes? (octets n.chars)).isSome = true

theorem isDigit_ofNat {c : Char} (h : c.isDigit = true) :
    Octet.isDigit (UInt8.ofNat c.toNat) = true ∧
      Octet.digitValue (UInt8.ofNat c.toNat) = c.toNat - 48 ∧ c.toNat < 128 := by
  simp only [Char.isDigit, Bool.and_eq_true, decide_eq_true_eq, UInt32.le_iff_toNat_le] at h
  have h48 : 48 ≤ c.toNat := h.1
  have h57 : c.toNat ≤ 57 := h.2
  have hmod : c.toNat % 256 = c.toNat := Nat.mod_eq_of_lt (by omega)
  simp only [Octet.isDigit, Octet.digitValue, UInt8.le_iff_toNat_le, UInt8.toNat_ofNat',
    Bool.and_eq_true, decide_eq_true_eq, hmod]
  exact ⟨⟨h48, h57⟩, trivial, by omega⟩

/-- The octets of some digits. -/
theorem octets_of_isDigit {cs : List Char} (h : ∀ c ∈ cs, c.isDigit = true) :
    octets cs = cs.map fun c => UInt8.ofNat c.toNat := by
  induction cs with
  | nil => rfl
  | cons c cs ih =>
    have hc := isDigit_ofNat (h c List.mem_cons_self)
    rw [octets_cons, utf8EncodeChar_of_lt hc.2.2, List.map_cons,
      ih fun d hd => h d (List.mem_cons_of_mem _ hd)]
    rfl

theorem forall_mem_octets_of_isDigit {cs : List Char} (h : ∀ c ∈ cs, c.isDigit = true) :
    ∀ b ∈ octets cs, Octet.isDigit b = true := by
  rw [octets_of_isDigit h]
  intro b hb
  obtain ⟨c, hc, rfl⟩ := List.mem_map.mp hb
  exact (isDigit_ofNat (h c hc)).1

theorem isDigit_of_mem_toDigits {n : Nat} : ∀ c ∈ Nat.toDigits 10 n, c.isDigit = true :=
  fun _ hc => Nat.isDigit_of_mem_toDigits (by decide) (by decide) hc

/-- The digits of a number have its value. -/
theorem decimalValue_toDigits (n : Nat) : Bytes.decimalValue (octets (Nat.toDigits 10 n)) = n := by
  rw [octets_of_isDigit isDigit_of_mem_toDigits, Bytes.decimalValue, List.foldl_map]
  have hfold (cs : List Char) (hcs : ∀ c ∈ cs, c.isDigit = true) (m : Nat) :
      cs.foldl (fun n c => n * 10 + Octet.digitValue (UInt8.ofNat c.toNat)) m =
        Nat.ofDigitChars 10 cs m := by
    induction cs generalizing m with
    | nil => rfl
    | cons c cs ih =>
      rw [List.foldl_cons, ih (fun d hd => hcs d (List.mem_cons_of_mem _ hd)),
        (isDigit_ofNat (hcs c List.mem_cons_self)).2.1, Nat.ofDigitChars_cons, Nat.mul_comm]
      rfl
  rw [hfold _ isDigit_of_mem_toDigits]
  exact Nat.ofDigitChars_ten_toDigits

/-- Only zero begins with a zero. -/
theorem toDigits_ne_zero_cons (n : Nat) {c : Char} {cs : List Char} :
    Nat.toDigits 10 n ≠ '0' :: c :: cs := by
  induction n using Nat.strongRecOn generalizing c cs with
  | ind n ih =>
    intro h
    rcases Nat.lt_or_ge n 10 with hn | hn
    · rw [Nat.toDigits_of_lt_base hn] at h
      simp at h
    · rw [Nat.toDigits_of_base_le (by decide) hn] at h
      -- the digits before the last begin with that zero too, but are not those of zero
      cases hq : Nat.toDigits 10 (n / 10) with
      | nil => exact absurd hq Nat.toDigits_ne_nil
      | cons d ds =>
        rw [hq, List.cons_append, List.cons.injEq] at h
        obtain ⟨rfl, h⟩ := h
        cases ds with
        | cons e es => exact ih (n / 10) (by omega) hq
        | nil =>
          have hvalue := decimalValue_toDigits (n / 10)
          rw [hq] at hvalue
          have hzero : Bytes.decimalValue (octets ['0']) = 0 := by decide
          omega

theorem le_foldl_digits (ds : Bytes) (n : Nat) :
    n ≤ ds.foldl (fun n b => n * 10 + Octet.digitValue b) n := by
  induction ds generalizing n with
  | nil => exact Nat.le_refl n
  | cons d ds ih =>
    refine Nat.le_trans ?_ (ih (n * 10 + Octet.digitValue d))
    omega

/-- Digits that fit are all taken. -/
theorem appendDigits_of_lt {ds : Bytes} {n : Nat}
    (h : ds.foldl (fun n b => n * 10 + Octet.digitValue b) n < Nat.pow 2 64) :
    appendDigits n ds = (ds.foldl (fun n b => n * 10 + Octet.digitValue b) n, []) := by
  induction ds generalizing n with
  | nil => rfl
  | cons d ds ih =>
    rw [List.foldl_cons] at h
    have hnext := Nat.lt_of_le_of_lt (le_foldl_digits ds _) h
    rw [appendDigits]
    refine (if_pos hnext).trans ?_
    rw [ih h, List.foldl_cons]

/-! ### How a number is read -/

/-- **A whole part**: digits, the first of which is no zero unless it stands alone. -/
structure IsWhole (cs : List Char) : Prop where
  /-- All are digits. -/
  digits : ∀ c ∈ cs, c.isDigit = true
  /-- There is a digit. -/
  ne_nil : cs ≠ []
  /-- No zero stands in front of another digit. -/
  zero : ∀ c ds, cs ≠ '0' :: c :: ds

theorem isWhole_toDigits (n : Nat) : IsWhole (Nat.toDigits 10 n) :=
  ⟨isDigit_of_mem_toDigits, Nat.toDigits_ne_nil, fun _ _ => toDigits_ne_zero_cons n⟩

theorem isWhole_cons {c : Char} {cs : List Char} (hc : c ≠ '0')
    (h : ∀ d ∈ c :: cs, d.isDigit = true) : IsWhole (c :: cs) :=
  ⟨h, by simp, fun _ _ heq => hc (List.cons.inj heq).1⟩

/-- What is read behind the whole part. -/
def Spelling.behind? (negative : Bool) (whole : Bytes) : Bytes → Option Spelling
  | [] => some ⟨negative, whole, none, none⟩
  | 46 :: rest =>
    let (fraction, rest) := rest.span Octet.isDigit
    if fraction.isEmpty then none
    else
      match rest with
      | [] => some ⟨negative, whole, some fraction, none⟩
      | e :: rest =>
        if e == 101 || e == 69 then
          (exponentOf? rest).map fun n => ⟨negative, whole, some fraction, some n⟩
        else none
  | e :: rest =>
    if e == 101 || e == 69 then
      (exponentOf? rest).map fun n => ⟨negative, whole, none, some n⟩
    else none

theorem ofBytes?_whole {cs : List Char} (h : IsWhole cs) {rest : Bytes}
    (hrest : ∀ b ∈ rest.head?, Octet.isDigit b = false) :
    Spelling.ofBytes? (octets cs ++ rest) = Spelling.behind? false (octets cs) rest ∧
      Spelling.ofBytes? (45 :: (octets cs ++ rest)) = Spelling.behind? true (octets cs) rest := by
  have hspan := Octet.span_isDigit (forall_mem_octets_of_isDigit h.digits) hrest
  obtain ⟨c, cs, rfl⟩ := List.exists_cons_of_ne_nil h.ne_nil
  have hc := h.digits c List.mem_cons_self
  obtain ⟨hdigit, hvalue, hlt⟩ := isDigit_ofNat hc
  have hoctets : octets (c :: cs) = UInt8.ofNat c.toNat :: octets cs := by
    rw [octets_cons, utf8EncodeChar_of_lt hlt, List.singleton_append]
  -- a zero in front would stand alone
  have hwell : ∀ b bs, octets (c :: cs) ≠ 48 :: b :: bs := by
    intro b bs heq
    rw [hoctets, List.cons.injEq] at heq
    have hzero : c = '0' := by
      have hnat := congrArg UInt8.toNat heq.1
      rw [UInt8.toNat_ofNat', Nat.mod_eq_of_lt (by omega)] at hnat
      exact Char.toNat_inj.mp hnat
    cases cs with
    | nil => simp at heq
    | cons d ds => exact h.zero d ds (by rw [hzero])
  have hsign : UInt8.ofNat c.toNat ≠ 45 := by
    intro heq
    rw [heq] at hdigit
    exact absurd hdigit (by decide)
  rw [hoctets] at hspan hwell ⊢
  constructor
  · rw [Spelling.ofBytes?]
    · rw [hspan]
      refine if_neg fun hbad => ?_
      split at hbad
      · next heq => simp at heq
      · next heq => exact hwell _ _ heq
      · simp at hbad
    · rw [List.cons_append]
      exact fun rest heq => hsign (List.cons.inj heq).1
  · rw [Spelling.ofBytes?, hspan]
    refine if_neg fun hbad => ?_
    split at hbad
    · next heq => simp at heq
    · next heq => exact hwell _ _ heq
    · simp at hbad

/-- The digits of a natural number spell it, with or without a sign. -/
theorem ofBytes?_toDigits (n : Nat) :
    Spelling.ofBytes? (octets (Nat.toDigits 10 n)) =
        some ⟨false, octets (Nat.toDigits 10 n), none, none⟩ ∧
      Spelling.ofBytes? (45 :: octets (Nat.toDigits 10 n)) =
        some ⟨true, octets (Nat.toDigits 10 n), none, none⟩ := by
  have hnone : ∀ b ∈ ([] : Bytes).head?, Octet.isDigit b = false := by simp
  have h := ofBytes?_whole (isWhole_toDigits n) hnone
  rwa [List.append_nil] at h

/-- The digits of a number below `2 ^ 64` are taken as that number. -/
theorem appendDigits_toDigits {n : Nat} (h : n < Nat.pow 2 64) :
    appendDigits 0 (octets (Nat.toDigits 10 n)) = (n, []) := by
  have hvalue := decimalValue_toDigits n
  rw [Bytes.decimalValue] at hvalue
  rw [appendDigits_of_lt (by rwa [hvalue]), hvalue]

/-- **An integer comes back as it was**, if it is one that can be read. -/
theorem reread?_int {n : Int} (hlow : -(Nat.pow 2 63 : Int) ≤ n)
    (hhigh : n < (Nat.pow 2 64 : Int)) : reread? (.int n) = some (.int n) := by
  have h63 : Nat.pow 2 63 = 9223372036854775808 := rfl
  have h64 : Nat.pow 2 64 = 18446744073709551616 := rfl
  obtain ⟨hplain, hsigned⟩ := ofBytes?_toDigits n.natAbs
  have hdigits : appendDigits 0 (octets (Nat.toDigits 10 n.natAbs)) = (n.natAbs, []) :=
    appendDigits_toDigits (by omega)
  rw [reread?, chars]
  split
  · next hneg =>
    have hminus : String.utf8EncodeChar '-' = [45] := by decide
    rw [octets_cons, hminus, List.singleton_append, hsigned]
    have hrange : 0 < n.natAbs ∧ n.natAbs ≤ Nat.pow 2 63 := ⟨by omega, by omega⟩
    rw [Option.bind_some, Spelling.value?, hdigits]
    refine (if_pos hrange).trans ?_
    exact congrArg (fun k => some (Number.int k)) (by omega)
  · next hneg =>
    rw [hplain, Option.bind_some, Spelling.value?, hdigits]
    exact congrArg (fun k => some (Number.int k)) (by omega)

/-! ### Whatever is written is spelled -/

/-- One digit or more. -/
structure IsDigits (cs : List Char) : Prop where
  /-- All are digits. -/
  digits : ∀ c ∈ cs, c.isDigit = true
  /-- There is a digit. -/
  ne_nil : cs ≠ []

theorem isDigits_toDigits (n : Nat) : IsDigits (Nat.toDigits 10 n) :=
  ⟨isDigit_of_mem_toDigits, Nat.toDigits_ne_nil⟩

/-- **What may stand behind the whole part**: a fraction, an exponent, or both. -/
inductive IsTail : List Char → Prop
  /-- A fraction. -/
  | fraction {ds : List Char} (h : IsDigits ds) : IsTail ('.' :: ds)
  /-- An exponent. -/
  | exponent {sign : Char} {es : List Char} (hsign : sign = '+' ∨ sign = '-') (h : IsDigits es) :
    IsTail ('e' :: sign :: es)
  /-- A fraction and an exponent. -/
  | both {ds : List Char} {sign : Char} {es : List Char} (hds : IsDigits ds)
    (hsign : sign = '+' ∨ sign = '-') (h : IsDigits es) : IsTail ('.' :: (ds ++ 'e' :: sign :: es))

section Tails

variable {cs ds es : List Char} {sign : Char}

theorem octets_ne_nil (h : cs ≠ []) : octets cs ≠ [] := by
  obtain ⟨c, cs, rfl⟩ := List.exists_cons_of_ne_nil h
  rw [octets_cons]
  exact fun hnil => absurd (List.append_eq_nil_iff.mp hnil).1 String.utf8EncodeChar_ne_nil

theorem isSome_exponentOf? (hsign : sign = '+' ∨ sign = '-') (h : IsDigits es) :
    (exponentOf? (octets (sign :: es))).isSome = true := by
  have hall : (octets es).all Octet.isDigit = true :=
    List.all_eq_true.mpr (forall_mem_octets_of_isDigit h.digits)
  have hne : (octets es).isEmpty = false := by
    simpa using octets_ne_nil h.ne_nil
  have hplus : String.utf8EncodeChar '+' = [43] := by decide
  have hminus : String.utf8EncodeChar '-' = [45] := by decide
  rcases hsign with rfl | rfl
  · rw [octets_cons, hplus, List.singleton_append, exponentOf?]
    simp [hall, hne]
  · rw [octets_cons, hminus, List.singleton_append, exponentOf?]
    simp [hall, hne]

theorem octets_point (cs : List Char) : octets ('.' :: cs) = 46 :: octets cs := by
  rw [octets_cons, show String.utf8EncodeChar '.' = [46] by decide, List.singleton_append]

theorem octets_exponent (cs : List Char) : octets ('e' :: cs) = 101 :: octets cs := by
  rw [octets_cons, show String.utf8EncodeChar 'e' = [101] by decide, List.singleton_append]

theorem isDigit_head?_tail (h : IsTail cs) : ∀ b ∈ (octets cs).head?, Octet.isDigit b = false := by
  cases h with
  | fraction h =>
    rw [octets_point]
    simp +decide
  | exponent hsign h =>
    rw [octets_exponent]
    simp +decide
  | both hds hsign h =>
    rw [octets_point]
    simp +decide

theorem isSome_behind? (h : IsTail cs) (negative : Bool) (whole : Bytes) :
    (Spelling.behind? negative whole (octets cs)).isSome = true := by
  cases h with
  | fraction h =>
    have hnone : ∀ b ∈ ([] : Bytes).head?, Octet.isDigit b = false := by simp
    have hspan := Octet.span_isDigit (forall_mem_octets_of_isDigit h.digits) hnone
    rw [List.append_nil] at hspan
    rw [octets_point, Spelling.behind?, hspan]
    simp [octets_ne_nil h.ne_nil]
  | exponent hsign h =>
    rw [octets_exponent, Spelling.behind?]
    · simpa using isSome_exponentOf? hsign h
    · simp
  | @both ds sign es hds hsign h =>
    have hrest : ∀ b ∈ (octets ('e' :: sign :: es)).head?, Octet.isDigit b = false := by
      rw [octets_exponent]
      simp +decide
    have hspan := Octet.span_isDigit (forall_mem_octets_of_isDigit hds.digits) hrest
    rw [octets_point, octets_append, Spelling.behind?, hspan, octets_exponent]
    simpa [octets_ne_nil hds.ne_nil] using isSome_exponentOf? hsign h

/-- **A whole part and a tail spell a number**, with or without a sign. -/
theorem isSome_ofBytes? (hwhole : IsWhole cs) (htail : IsTail ds) (negative : Bool) :
    (Spelling.ofBytes? (octets ((if negative then ['-'] else []) ++ (cs ++ ds)))).isSome =
      true := by
  obtain ⟨hplain, hsigned⟩ := ofBytes?_whole hwhole (isDigit_head?_tail htail)
  have hminus : String.utf8EncodeChar '-' = [45] := by decide
  cases negative with
  | true =>
    rw [if_pos rfl, List.singleton_append, octets_cons, hminus, List.singleton_append,
      octets_append, hsigned]
    exact isSome_behind? htail true _
  | false =>
    rw [if_neg Bool.false_ne_true, List.nil_append, octets_append, hplain]
    exact isSome_behind? htail false _

end Tails

/-! ### The shortest decimal has a digit -/

section Shortest

open Shortest

/-- A thousand is less than the tenth power of two. -/
theorem ten_pow_le (n : Nat) : Nat.pow 10 n ≤ Nat.pow 2 (10 * ((n + 2) / 3)) := by
  calc 10 ^ n ≤ 10 ^ (3 * ((n + 2) / 3)) := Nat.pow_le_pow_right (by decide) (by omega)
    _ = (10 ^ 3) ^ ((n + 2) / 3) := Nat.pow_mul _ _ _
    _ ≤ (2 ^ 10) ^ ((n + 2) / 3) := Nat.pow_le_pow_left (by decide) _
    _ = 2 ^ (10 * ((n + 2) / 3)) := (Nat.pow_mul _ _ _).symm

/-- Ten thousand is more than the thirteenth power of two. -/
theorem le_ten_pow (n : Nat) : Nat.pow 2 (13 * (n / 4)) ≤ Nat.pow 10 n := by
  calc 2 ^ (13 * (n / 4)) = (2 ^ 13) ^ (n / 4) := Nat.pow_mul _ _ _
    _ ≤ (10 ^ 4) ^ (n / 4) := Nat.pow_le_pow_left (by decide) _
    _ = 10 ^ (4 * (n / 4)) := (Nat.pow_mul _ _ _).symm
    _ ≤ 10 ^ n := Nat.pow_le_pow_right (by decide) (by omega)

/-- The upper bound on the decimal exponent of the leading digit of `m * 2 ^ q`. -/
def topOf (m : Nat) (q : Int) : Int := ((Nat.log2 m : Int) + 1 + q) * 30103 / 100000 + 1

/-- Twenty digits further the value has a digit. -/
theorem floor_pos {m : Nat} {q : Int} (hm : m ≠ 0) (hm' : m < Nat.pow 2 53) (hlow : -1074 ≤ q)
    (hhigh : q ≤ 1024) : 0 < (Interval.of m q).floor (topOf m q - 20) := by
  have hlog : 2 ^ Nat.log2 m ≤ m := Nat.log2_self_le hm
  have hbits : Nat.log2 m < 53 := (Nat.log2_lt hm).mpr hm'
  obtain ⟨u, hu⟩ : ∃ u, u = topOf m q - 20 := ⟨_, rfl⟩
  rw [topOf] at hu
  rw [topOf, ← hu, Interval.floor]
  have hden : 0 < Nat.pow 10 u.toNat * Nat.pow 2 (-(q - 2)).toNat :=
    Nat.mul_pos (Nat.pow_pos (by decide)) (Nat.pow_pos (by decide))
  refine Nat.div_pos ?_ hden
  -- both sides are compared with powers of two
  have hpowers : 10 * ((u.toNat + 2) / 3) + (-(q - 2)).toNat ≤
      Nat.log2 m + 2 + (q - 2).toNat + 13 * ((-u).toNat / 4) := by omega
  calc 10 ^ u.toNat * 2 ^ (-(q - 2)).toNat
      ≤ 2 ^ (10 * ((u.toNat + 2) / 3)) * 2 ^ (-(q - 2)).toNat :=
        Nat.mul_le_mul_right _ (ten_pow_le _)
    _ = 2 ^ (10 * ((u.toNat + 2) / 3) + (-(q - 2)).toNat) := (Nat.pow_add _ _ _).symm
    _ ≤ 2 ^ (Nat.log2 m + 2 + (q - 2).toNat + 13 * ((-u).toNat / 4)) :=
        Nat.pow_le_pow_right (by decide) hpowers
    _ = 4 * 2 ^ Nat.log2 m * 2 ^ (q - 2).toNat * 2 ^ (13 * ((-u).toNat / 4)) := by
        rw [Nat.pow_add, Nat.pow_add, Nat.pow_add, Nat.mul_comm (2 ^ Nat.log2 m)]
    _ ≤ 4 * m * 2 ^ (q - 2).toNat * 10 ^ (-u).toNat :=
        Nat.mul_le_mul (Nat.mul_le_mul_right _ (Nat.mul_le_mul_left _ hlog)) (le_ten_pow _)

/-- The digits of a decimal that the interval meets are not zero. -/
theorem digits_of_onGrid? {i : Interval} {u : Int} {d : Decimal} (h : i.onGrid? u = some d) :
    0 < d.digits := by
  have hnearer : i.floor u ≤ i.nearer (i.floor u) u := by
    rw [Interval.nearer]
    split
    · exact Nat.le_refl _
    · exact Nat.le_succ _
    · split
      · exact Nat.le_refl _
      · exact Nat.le_succ _
  rw [Interval.onGrid?] at h
  split at h
  · next hc _ =>
    obtain rfl := Option.some.inj h
    have hpos : 0 < i.floor u := by simp_all
    exact Nat.lt_of_lt_of_le hpos hnearer
  · next hc _ =>
    obtain rfl := Option.some.inj h
    have hpos : 0 < i.floor u := by simp_all
    exact hpos
  · obtain rfl := Option.some.inj h
    exact Nat.succ_pos _
  · simp at h

theorem digits_search {i : Interval} {fuel : Nat} {u : Int} (h : 0 < i.floor (u - fuel)) :
    0 < (i.search fuel u).digits := by
  induction fuel generalizing u with
  | zero => simpa [Interval.search] using h
  | succ fuel ih =>
    rw [Interval.search]
    split
    · next d hd => exact digits_of_onGrid? hd
    · refine ih ?_
      rwa [show u - 1 - fuel = u - (fuel + 1 : Nat) by omega]

theorem digits_trimZeros {d : Decimal} (h : 0 < d.digits) (fuel : Nat) :
    0 < (d.trimZeros fuel).digits := by
  induction fuel generalizing d with
  | zero => exact h
  | succ fuel ih =>
    rw [Decimal.trimZeros]
    split
    · next hzero => exact ih (by change 0 < d.digits / 10; omega)
    · exact h

/-- **The shortest decimal of a value that is not zero has a digit that is not zero.** -/
theorem digits_decimalOf {x : Float} {m : Nat} {q : Int} (hparts : Binary64.parts x = (m, q))
    (hm : m ≠ 0) : 0 < (decimalOf m q).digits := by
  have hrange : m < Nat.pow 2 53 ∧ -1074 ≤ q ∧ q ≤ 1024 := by
    rw [Binary64.parts] at hparts
    simp only [Nat.pow_eq] at hparts ⊢
    split at hparts
    · obtain ⟨rfl, rfl⟩ := Prod.mk.inj hparts
      exact ⟨by omega, by omega, by omega⟩
    · obtain ⟨rfl, rfl⟩ := Prod.mk.inj hparts
      exact ⟨by omega, by omega, by omega⟩
  rw [decimalOf]
  exact digits_trimZeros (digits_search (floor_pos hm hrange.1 hrange.2.1 hrange.2.2)) 20

/-- Only zero begins with a zero. -/
theorem exists_cons_toDigits {n : Nat} (h : 0 < n) :
    ∃ c cs, Nat.toDigits 10 n = c :: cs ∧ c ≠ '0' := by
  obtain ⟨c, cs, hcs⟩ := List.exists_cons_of_ne_nil (Nat.toDigits_ne_nil (b := 10) (n := n))
  refine ⟨c, cs, hcs, ?_⟩
  rintro rfl
  cases cs with
  | cons d ds => exact toDigits_ne_zero_cons n hcs
  | nil =>
    have hvalue := decimalValue_toDigits n
    rw [hcs] at hvalue
    have hzero : Bytes.decimalValue (octets ['0']) = 0 := by decide
    omega

theorem isDigits_zeros_append {cs : List Char} (h : IsDigits cs) (n : Nat) :
    IsDigits (List.replicate n '0' ++ cs) := by
  refine ⟨fun c hc => ?_, by simp [h.ne_nil]⟩
  rcases List.mem_append.mp hc with hc | hc
  · rw [List.eq_of_mem_replicate hc]
    decide
  · exact h.digits c hc

/-- A decimal in positional form is a whole part and a fraction. -/
theorem exists_positional {d : Decimal} (h : 0 < d.digits) :
    ∃ cs ds, Layout.json.positional d = cs ++ ds ∧ IsWhole cs ∧ IsTail ds := by
  obtain ⟨c, cs, hcs, hc⟩ := exists_cons_toDigits h
  have hdigits : ∀ d ∈ c :: cs, d.isDigit = true := hcs ▸ isDigit_of_mem_toDigits
  have hzero : IsDigits ['0'] := isDigits_toDigits 0
  simp only [Layout.positional, digitsOf, hcs]
  split
  · refine ⟨c :: cs ++ List.replicate d.exponent.toNat '0', ['.', '0'], rfl, ?_, .fraction hzero⟩
    refine isWhole_cons hc fun e he => ?_
    rcases List.mem_append.mp (show e ∈ (c :: cs) ++ List.replicate _ '0' from he) with he | he
    · exact hdigits e he
    · rw [List.eq_of_mem_replicate he]
      decide
  · next hexponent =>
    split
    · exact ⟨['0'], _, rfl, isWhole_toDigits 0,
        .fraction (isDigits_zeros_append ⟨hdigits, by simp⟩ _)⟩
    · next hplaces =>
      -- the point stands behind the first digit and before the last
      obtain ⟨k, hk⟩ : ∃ k, (c :: cs).length - (-d.exponent).toNat = k + 1 :=
        ⟨(c :: cs).length - (-d.exponent).toNat - 1, by omega⟩
      rw [hk]
      refine ⟨(c :: cs).take (k + 1), '.' :: (c :: cs).drop (k + 1), rfl, ?_, .fraction ⟨?_, ?_⟩⟩
      · rw [List.take_succ_cons]
        refine isWhole_cons hc fun e he => hdigits e (List.mem_of_mem_take (i := k + 1) ?_)
        rwa [List.take_succ_cons]
      · exact fun e he => hdigits e (List.mem_of_mem_drop he)
      · rw [Ne, List.drop_eq_nil_iff]
        omega

/-- A decimal in the form with an exponent is a digit, maybe a fraction, and the exponent. -/
theorem exists_scientific {d : Decimal} (h : 0 < d.digits) (lead : Int) :
    ∃ cs ds, Layout.json.scientific d lead = cs ++ ds ∧ IsWhole cs ∧ IsTail ds := by
  obtain ⟨c, cs, hcs, hc⟩ := exists_cons_toDigits h
  have hdigits : ∀ d ∈ c :: cs, d.isDigit = true := hcs ▸ isDigit_of_mem_toDigits
  have hwhole : IsWhole [c] :=
    isWhole_cons hc fun e he => hdigits e (List.mem_singleton.mp he ▸ List.mem_cons_self)
  obtain ⟨sign, hsign, heq⟩ : ∃ sign, (sign = '+' ∨ sign = '-') ∧
      (if lead < 0 then ['-'] else if Layout.json.plusSign then ['+'] else []) = [sign] := by
    split
    · exact ⟨'-', .inr rfl, rfl⟩
    · exact ⟨'+', .inl rfl, rfl⟩
  have hexponent := isDigits_toDigits lead.natAbs
  simp only [Layout.scientific, digitsOf, hcs, heq]
  cases cs with
  | nil => exact ⟨[c], _, rfl, hwhole, .exponent hsign hexponent⟩
  | cons c' cs =>
    exact ⟨[c], _, rfl, hwhole, .both
      ⟨fun e he => hdigits e (List.mem_cons_of_mem _ he), by simp⟩ hsign hexponent⟩

/-- A decimal is a whole part and a tail. -/
theorem exists_write {d : Decimal} (h : 0 < d.digits) :
    ∃ cs ds, Layout.json.write d = cs ++ ds ∧ IsWhole cs ∧ IsTail ds := by
  rw [Layout.write]
  split
  · exact exists_positional h
  · exact exists_scientific h _

end Shortest

/-- **Whatever number is written spells a number**, if JSON can hold it. -/
theorem isSpelled {n : Number} (h : n.isLost = false) : n.IsSpelled := by
  cases n with
  | int n =>
    obtain ⟨hplain, hsigned⟩ := ofBytes?_toDigits n.natAbs
    rw [IsSpelled, chars]
    split
    · rw [octets_cons, show String.utf8EncodeChar '-' = [45] by decide, List.singleton_append,
        hsigned]
      rfl
    · rw [hplain]
      rfl
  | float x =>
    rw [IsSpelled, chars_float h, Shortest.Layout.writeFinite]
    obtain ⟨⟨m, q⟩, hparts⟩ : ∃ p, Binary64.parts x = p := ⟨_, rfl⟩
    simp only [hparts]
    split
    · exact isSome_ofBytes? (isWhole_toDigits 0) (.fraction (isDigits_toDigits 0)) _
    · next hm =>
      obtain ⟨cs, ds, heq, hwhole, htail⟩ := exists_write (digits_decimalOf hparts hm)
      rw [heq]
      exact isSome_ofBytes? hwhole htail _

/-- What spells a number begins with a digit or a minus sign. -/
theorem isSome_ofBytes?_cons {b : UInt8} {bs : Bytes}
    (h : (Spelling.ofBytes? (b :: bs)).isSome = true) : b = 45 ∨ Octet.isDigit b = true := by
  by_cases hb : b = 45
  · exact .inl hb
  · refine .inr ?_
    cases hdigit : Octet.isDigit b with
    | true => rfl
    | false =>
      have hspan : (b :: bs).span Octet.isDigit = ([], b :: bs) := by
        rw [List.span_eq_takeWhile_dropWhile]
        simp [hdigit]
      rw [Spelling.ofBytes?] at h
      · rw [hspan] at h
        simp at h
      · exact fun rest heq => hb (List.cons.inj heq).1

theorem ofBytes?_nil : Spelling.ofBytes? [] = none := by
  rw [Spelling.ofBytes?]
  · rfl
  · simp

/-- Numeral characters are octets that may stand in a number. -/
theorem isNumeric_of_mem_octets {cs : List Char} (h : ∀ c ∈ cs, IsNumeral c) :
    ∀ b ∈ octets cs, Token.isNumeric b = true := by
  intro b hb
  obtain ⟨c, hc, hb⟩ := List.mem_flatMap.mp hb
  rcases h c hc with hdigit | hother
  · obtain ⟨hoctet, -, hlt⟩ := isDigit_ofNat hdigit
    rw [utf8EncodeChar_of_lt hlt, List.mem_singleton] at hb
    rw [hb, Token.isNumeric, hoctet]
    rfl
  · have hall : ['+', '-', '.', 'e'].all (fun c =>
        (String.utf8EncodeChar c).all Token.isNumeric) = true := rfl
    exact List.all_eq_true.mp (List.all_eq_true.mp hall c hother) b hb

end Number

end Json

end LogWatch
