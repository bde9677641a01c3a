import LogWatch.Json.Writer

/-!
# Written JSON is one line

Control characters do not occur in JSON as it is written: within a string they are escaped
(`LogWatch.Json.forall_mem_quoted`), and outside of strings nothing needs them. So whatever a value
holds, its text has neither line feeds nor carriage returns.
-/

namespace LogWatch

/-- **A printed character** is none of the control characters below U+0020. -/
def IsPrinted (c : Char) : Prop := 32 ≤ c.toNat

instance (c : Char) : Decidable (IsPrinted c) := inferInstanceAs (Decidable (32 ≤ c.toNat))

/-- A few characters are looked at one by one. -/
theorem isPrinted_of_all {cs : List Char} (h : cs.all (fun c => decide (IsPrinted c)) = true) :
    ∀ c ∈ cs, IsPrinted c :=
  fun c hc => of_decide_eq_true (List.all_eq_true.mp h c hc)

namespace Json

/-! ### Numbers -/

/-- **A numeral character** is one of those of which numbers are made. -/
def IsNumeral (c : Char) : Prop := c.isDigit = true ∨ c ∈ ['+', '-', '.', 'e']

instance (c : Char) : Decidable (IsNumeral c) :=
  inferInstanceAs (Decidable (c.isDigit = true ∨ c ∈ ['+', '-', '.', 'e']))

/-- A few characters are looked at one by one. -/
theorem isNumeral_of_all {cs : List Char} (h : cs.all (fun c => decide (IsNumeral c)) = true) :
    ∀ c ∈ cs, IsNumeral c :=
  fun c hc => of_decide_eq_true (List.all_eq_true.mp h c hc)

theorem isPrinted_of_isDigit {c : Char} (h : c.isDigit = true) : IsPrinted c := by
  simp only [Char.isDigit, Bool.and_eq_true, decide_eq_true_eq] at h
  exact Nat.le_trans (by decide) (UInt32.le_iff_toNat_le.mp h.1)

theorem IsNumeral.isPrinted {c : Char} (h : IsNumeral c) : IsPrinted c := by
  rcases h with h | h
  · exact isPrinted_of_isDigit h
  · have hall : ∀ c ∈ ['+', '-', '.', 'e'], IsPrinted c := isPrinted_of_all rfl
    exact hall c h

theorem forall_mem_digitsOf (n : Nat) : ∀ c ∈ Shortest.digitsOf n, IsNumeral c :=
  fun _ hc => .inl (Nat.isDigit_of_mem_toDigits (by decide) (by decide) hc)

theorem forall_mem_zeros (n : Nat) : ∀ c ∈ List.replicate n '0', IsNumeral c := by
  intro c hc
  rw [List.eq_of_mem_replicate hc]
  decide

/-- A digit run with a point in it. -/
theorem forall_mem_pointed {cs : List Char} (h : ∀ c ∈ cs, IsNumeral c) (n : Nat) :
    ∀ c ∈ cs.take n ++ '.' :: cs.drop n, IsNumeral c := by
  rw [List.forall_mem_append, List.forall_mem_cons]
  exact ⟨fun c hc => h c (List.mem_of_mem_take hc), by decide,
    fun c hc => h c (List.mem_of_mem_drop hc)⟩

theorem forall_mem_positional (l : Shortest.Layout) (d : Shortest.Decimal) :
    ∀ c ∈ l.positional d, IsNumeral c := by
  have hdigits := forall_mem_digitsOf d.digits
  simp only [Shortest.Layout.positional]
  split
  · rw [List.forall_mem_append, List.forall_mem_append]
    refine ⟨⟨hdigits, forall_mem_zeros _⟩, ?_⟩
    split <;> exact isNumeral_of_all rfl
  · split
    · rw [List.forall_mem_cons, List.forall_mem_cons, List.forall_mem_append]
      exact ⟨by decide, by decide, forall_mem_zeros _, hdigits⟩
    · exact forall_mem_pointed hdigits _

theorem forall_mem_scientific (l : Shortest.Layout) (d : Shortest.Decimal) (lead : Int) :
    ∀ c ∈ l.scientific d lead, IsNumeral c := by
  have hdigits := forall_mem_digitsOf d.digits
  simp only [Shortest.Layout.scientific]
  rw [List.forall_mem_append, List.forall_mem_cons, List.forall_mem_append]
  refine ⟨?_, by decide, ?_, forall_mem_digitsOf _⟩
  · split
    · next first second rest heq =>
      rw [heq] at hdigits
      exact forall_mem_pointed hdigits 1
    · exact hdigits
  · split
    · exact isNumeral_of_all rfl
    · split <;> exact isNumeral_of_all rfl

theorem forall_mem_writeFinite (l : Shortest.Layout) (x : Float) :
    ∀ c ∈ l.writeFinite x, IsNumeral c := by
  have hsign : ∀ c ∈ (if Binary64.isNegative x then ['-'] else []), IsNumeral c := by
    split <;> exact isNumeral_of_all rfl
  simp only [Shortest.Layout.writeFinite]
  split
  · rw [List.forall_mem_append, List.forall_mem_cons]
    refine ⟨hsign, by decide, ?_⟩
    split <;> exact isNumeral_of_all rfl
  · rw [List.forall_mem_append, Shortest.Layout.write]
    refine ⟨hsign, ?_⟩
    split
    · exact forall_mem_positional _ _
    · exact forall_mem_scientific _ _ _

/-- JSON cannot hold the number. -/
def Number.isLost : Number → Bool
  | .int _ => false
  | .float x => x.isNaN || x.isInf

theorem chars_float {x : Float} (h : (Number.float x).isLost = false) :
    (Number.float x).chars = Shortest.Layout.json.writeFinite x :=
  if_neg (Bool.eq_false_iff.mp h)

/-- **A number is written with numeral characters**, if JSON can hold it. -/
theorem forall_mem_numeral {n : Number} (h : n.isLost = false) : ∀ c ∈ n.chars, IsNumeral c := by
  cases n with
  | int n =>
    rw [Number.chars]
    split
    · rw [List.forall_mem_cons]
      exact ⟨by decide, forall_mem_digitsOf _⟩
    · exact forall_mem_digitsOf _
  | float x =>
    rw [chars_float h]
    exact forall_mem_writeFinite _ _

theorem chars_of_isLost {n : Number} (h : n.isLost = true) : n.chars = "null".toList := by
  cases n with
  | int n => simp [Number.isLost] at h
  | float x => exact if_pos h

theorem forall_mem_number (n : Number) : ∀ c ∈ n.chars, IsPrinted c := by
  cases h : n.isLost with
  | false => exact fun c hc => (forall_mem_numeral h c hc).isPrinted
  | true =>
    rw [chars_of_isLost h]
    exact isPrinted_of_all rfl

/-! ### Strings and what holds them -/

theorem isPrinted_digitChar (n : Nat) : IsPrinted (Nat.digitChar n) := by
  have hdigits : ∀ d : Fin 16, IsPrinted (Nat.digitChar d) := by decide
  by_cases hn : n < 16
  · exact hdigits ⟨n, hn⟩
  · have hstar : Nat.digitChar n = '*' := by
      unfold Nat.digitChar
      iterate 16 rw [if_neg (by omega)]
    rw [hstar]
    decide

theorem forall_mem_escaped (c : Char) : ∀ d ∈ escaped c, IsPrinted d := by
  rw [escaped]
  iterate 7
    split
    · exact isPrinted_of_all rfl
  split
  · have hhigh := isPrinted_digitChar (c.toNat / 16)
    have hlow := isPrinted_digitChar (c.toNat % 16)
    simp only [List.forall_mem_cons, hexDigit]
    exact ⟨by decide, by decide, by decide, by decide, hhigh, hlow, by simp⟩
  · next hc => simpa [IsPrinted] using hc

/-- **A string is written without control characters.** -/
theorem forall_mem_quoted (s : String) : ∀ c ∈ quoted s, IsPrinted c := by
  rw [quoted, List.forall_mem_cons, List.forall_mem_append]
  refine ⟨by decide, fun c hc => ?_, isPrinted_of_all rfl⟩
  obtain ⟨d, -, hd⟩ := List.mem_flatMap.mp hc
  exact forall_mem_escaped d c hd

mutual

/-- **A value is written without control characters.** -/
theorem forall_mem_chars : ∀ v : Json, ∀ c ∈ v.chars, IsPrinted c
  | .null => isPrinted_of_all rfl
  | .bool true => isPrinted_of_all rfl
  | .bool false => isPrinted_of_all rfl
  | .num n => by
    rw [chars]
    exact forall_mem_number n
  | .str s => by
    rw [chars]
    exact forall_mem_quoted s
  | .arr [] => by
    rw [chars]
    exact isPrinted_of_all rfl
  | .arr (v :: vs) => by
    rw [chars, List.forall_mem_cons, List.forall_mem_append]
    exact ⟨by decide, forall_mem_chars v, forall_mem_itemsChars vs⟩
  | .obj [] => by
    rw [chars]
    exact isPrinted_of_all rfl
  | .obj ((k, v) :: ms) => by
    rw [chars, List.forall_mem_cons, List.forall_mem_append, List.forall_mem_cons,
      List.forall_mem_append]
    exact ⟨by decide, forall_mem_quoted k, by decide, forall_mem_chars v,
      forall_mem_membersChars ms⟩

theorem forall_mem_itemsChars : ∀ vs : List Json, ∀ c ∈ itemsChars vs, IsPrinted c
  | [] => by
    rw [itemsChars]
    exact isPrinted_of_all rfl
  | v :: vs => by
    rw [itemsChars, List.forall_mem_cons, List.forall_mem_append]
    exact ⟨by decide, forall_mem_chars v, forall_mem_itemsChars vs⟩

theorem forall_mem_membersChars : ∀ ms : List (String × Json), ∀ c ∈ membersChars ms, IsPrinted c
  | [] => by
    rw [membersChars]
    exact isPrinted_of_all rfl
  | (k, v) :: ms => by
    rw [membersChars, List.forall_mem_cons, List.forall_mem_append, List.forall_mem_cons,
      List.forall_mem_append]
    exact ⟨by decide, forall_mem_quoted k, by decide, forall_mem_chars v,
      forall_mem_membersChars ms⟩

end

end Json

end LogWatch
