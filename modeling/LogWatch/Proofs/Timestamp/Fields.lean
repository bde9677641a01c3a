import LogWatch.Proofs.Text.Octets
import LogWatch.Timestamp.Basic

/-!
# What the readers of fields read

A reader of a field takes octets from the front of a line, and what it makes of them does not depend
on those that follow. So each of them is known by two facts: what stood at the front when something
has been read, and that it is read again before whatever else. A form of timestamps is read field by
field, and taken apart in the same way (`LogWatch.Field.exists_of_number?_bind` and its like).
-/

namespace LogWatch

namespace Field

variable {α : Type} {x : α} {width n : Nat} {b c d : UInt8} {s rest : Bytes}

/-! ### Numbers -/

theorem number?_eq_some (h : number? width s = some (n, rest)) :
    ∃ ds : Digits width, s = ds.octets ++ rest ∧ n = ds.value := by
  simp only [number?, Bool.and_eq_true, decide_eq_true_iff, List.all_eq_true] at h
  split at h
  · next hds =>
    obtain ⟨rfl, rfl⟩ := Prod.mk.inj (Option.some.inj h)
    exact ⟨⟨s.take width, hds.1, hds.2⟩, (List.take_append_drop width s).symm, rfl⟩
  · cases h

theorem exists_of_number?_bind {k : Nat × Bytes → Option α}
    (h : number? width s >>= k = some x) :
    ∃ (ds : Digits width) (rest : Bytes), k (ds.value, rest) = some x ∧ s = ds.octets ++ rest := by
  obtain ⟨⟨n, rest⟩, hread, h⟩ := Option.bind_eq_some_iff.mp h
  obtain ⟨ds, rfl, rfl⟩ := number?_eq_some hread
  exact ⟨ds, rest, h, rfl⟩

@[simp] theorem number?_append (ds : Digits width) :
    number? width (ds.octets ++ rest) = some (ds.value, rest) := by
  obtain ⟨ds, rfl, hds⟩ := ds
  have hall : ds.all Octet.isDigit = true := List.all_eq_true.mpr hds
  simp [number?, hall, Digits.value]

theorem number?_bind {k : Nat × Bytes → Option α} {ds : Digits width}
    (h : k (ds.value, rest) = some x) : number? width (ds.octets ++ rest) >>= k = some x := by
  rw [number?_append]
  exact h

/-! ### Single octets -/

theorem octet?_eq_some (h : octet? b s = some rest) : s = b :: rest := by
  cases s with
  | nil => cases h
  | cons c s =>
    rw [octet?] at h
    split at h
    · next hb => rw [eq_of_beq hb, Option.some.inj h]
    · cases h

theorem exists_of_octet?_bind {k : Bytes → Option α} (h : octet? b s >>= k = some x) :
    ∃ rest, k rest = some x ∧ s = b :: rest := by
  obtain ⟨rest, hread, h⟩ := Option.bind_eq_some_iff.mp h
  exact ⟨rest, h, octet?_eq_some hread⟩

@[simp] theorem octet?_cons : octet? b (b :: rest) = some rest := by
  rw [octet?, if_pos (beq_self_eq_true b)]

theorem octet?_bind {k : Bytes → Option α} (h : k rest = some x) :
    octet? b (b :: rest) >>= k = some x := by
  rw [octet?_cons]
  exact h

theorem oneOf?_eq_some (h : oneOf? b c s = some (d, rest)) : s = d :: rest ∧ (d = b ∨ d = c) := by
  cases s with
  | nil => cases h
  | cons e s =>
    rw [oneOf?] at h
    split at h
    · next hd =>
      obtain ⟨rfl, rfl⟩ := Prod.mk.inj (Option.some.inj h)
      simpa using hd
    · cases h

theorem exists_of_oneOf?_bind {k : UInt8 × Bytes → Option α} (h : oneOf? b c s >>= k = some x) :
    ∃ d rest, k (d, rest) = some x ∧ (d = b ∨ d = c) ∧ s = d :: rest := by
  obtain ⟨⟨d, rest⟩, hread, hk⟩ := Option.bind_eq_some_iff.mp h
  obtain ⟨hs, hd⟩ := oneOf?_eq_some hread
  exact ⟨d, rest, hk, hd, hs⟩

theorem oneOf?_cons (h : d = b ∨ d = c) : oneOf? b c (d :: rest) = some (d, rest) := by
  rw [oneOf?, if_pos]
  simpa using h

theorem oneOf?_bind {k : UInt8 × Bytes → Option α} (hd : d = b ∨ d = c)
    (h : k (d, rest) = some x) : oneOf? b c (d :: rest) >>= k = some x := by
  rw [oneOf?_cons hd]
  exact h

/-! ### Months -/

/-- The octets of the name of a month. -/
def monthName (i : Fin 12) : Bytes := Bytes.ofString (monthNames.get i)

theorem length_monthName : ∀ i, (monthName i).length = 3 := by decide +kernel

/-- The names begin with capital letters. -/
theorem exists_monthName_eq (i : Fin 12) :
    ∃ b name, monthName i = b :: name ∧ (65 ≤ b && b ≤ 90) = true := by
  have hhead : ∀ i, (monthName i).head?.any (fun b => 65 ≤ b && b ≤ 90) = true := by
    decide +kernel
  specialize hhead i
  cases hname : monthName i with
  | nil => rw [hname] at hhead; cases hhead
  | cons b name => exact ⟨b, name, rfl, by rwa [hname] at hhead⟩

/-- Each name is found at its place. -/
theorem findIdx?_monthName :
    ∀ i, monthNames.findIdx? (fun name => Bytes.ofString name == monthName i) = some i.val := by
  decide +kernel

theorem month?_eq_some (h : month? s = some (n, rest)) :
    ∃ i, s = monthName i ++ rest ∧ n = i.val + 1 := by
  rw [month?] at h
  split at h
  · next i hi =>
    obtain ⟨rfl, rfl⟩ := Prod.mk.inj (Option.some.inj h)
    obtain ⟨hlt, hname, -⟩ := List.findIdx?_eq_some_iff_getElem.mp hi
    have hname : monthName ⟨i, hlt⟩ = s.take 3 := eq_of_beq hname
    exact ⟨⟨i, hlt⟩, by rw [hname, List.take_append_drop], rfl⟩
  · cases h

theorem exists_of_month?_bind {k : Nat × Bytes → Option α} (h : month? s >>= k = some x) :
    ∃ i rest, k (i.val + 1, rest) = some x ∧ s = monthName i ++ rest := by
  obtain ⟨⟨n, rest⟩, hread, h⟩ := Option.bind_eq_some_iff.mp h
  obtain ⟨i, rfl, rfl⟩ := month?_eq_some hread
  exact ⟨i, rest, h, rfl⟩

@[simp] theorem month?_append (i : Fin 12) :
    month? (monthName i ++ rest) = some (i.val + 1, rest) := by
  rw [month?, ← length_monthName i, List.take_left, List.drop_left, findIdx?_monthName]

theorem month?_bind {k : Nat × Bytes → Option α} {i : Fin 12}
    (h : k (i.val + 1, rest) = some x) : month? (monthName i ++ rest) >>= k = some x := by
  rw [month?_append]
  exact h

end Field

end LogWatch
