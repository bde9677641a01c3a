import LogWatch.Number.Shortest

/-!
# JSON values

A JSON value as the program holds it: integers apart from binary64 values, and the **members** of
an object kept in the order of their names, each name once. A member that is set again takes the
new value.
-/

namespace LogWatch

/-- A JSON number: integers keep their exact value. -/
inductive Json.Number
  /-- An integer from `-2^63` to `2^64 - 1`. -/
  | int (n : Int)
  /-- Any other number. -/
  | float (x : Float)

/-- A JSON value. -/
inductive Json
  | null
  | bool (b : Bool)
  | num (n : Json.Number)
  | str (s : String)
  | arr (items : List Json)
  /-- The members, in the order of their names. -/
  | obj (members : List (String × Json))

instance : Inhabited Json := ⟨.null⟩

namespace Json

/-- The members of an object, in the order of their names. -/
abbrev Members := List (String × Json)

end Json

/-- A finite map held as a list of pairs in the strict order of the keys. -/
abbrev SortedMap (α : Type) := List (String × α)

namespace SortedMap

variable {α : Type}

/-- Sets the value of a key. -/
def insert (k : String) (v : α) : SortedMap α → SortedMap α
  | [] => [(k, v)]
  | (j, w) :: m => if k < j then (k, v) :: (j, w) :: m
    else if k = j then (k, v) :: m
    else (j, w) :: insert k v m

/-- The value of a key. -/
def get? (m : SortedMap α) (k : String) : Option α := m.lookup k

/-- The map of a list of pairs, a later pair winning over an earlier one of the same key. -/
def ofList (ps : List (String × α)) : SortedMap α :=
  ps.foldl (fun m p => insert p.1 p.2 m) []

theorem get?_insert_self (m : SortedMap α) (k : String) (v : α) :
    get? (insert k v m) k = some v := by
  induction m with
  | nil => simp [insert, get?]
  | cons p m ih =>
    obtain ⟨j, w⟩ := p
    simp only [insert]
    split
    · simp [get?]
    · next hlt =>
      split
      · simp [get?]
      · next hne =>
        have : (k == j) = false := by simpa using hne
        rw [get?, List.lookup_cons, this]
        exact ih

theorem get?_insert_of_ne (m : SortedMap α) {k j : String} (v : α) (h : j ≠ k) :
    get? (insert k v m) j = get? m j := by
  have hkey : (j == k) = false := by simpa using h
  induction m with
  | nil => simp [insert, get?, List.lookup_cons, hkey]
  | cons p m ih =>
    obtain ⟨i, w⟩ := p
    simp only [insert]
    split
    · rw [get?, List.lookup_cons, hkey]
      rfl
    · split
      · next hki =>
        rw [get?, get?, List.lookup_cons, List.lookup_cons, ← hki, hkey]
      · rw [get?, get?, List.lookup_cons, List.lookup_cons]
        split
        · rfl
        · exact ih

end SortedMap

namespace Json

/-- The object of a list of members, the last of one name winning. -/
def ofMembers (ms : List (String × Json)) : Json := .obj (SortedMap.ofList ms)

/-- A natural number as a value. -/
def ofNat (n : Nat) : Json := .num (.int n)

/-- The member of that name, when the value is an object that has it. -/
def get? : Json → String → Option Json
  | .obj ms, k => SortedMap.get? ms k
  | _, _ => none

/-- The text of a string value. -/
def asString? : Json → Option String
  | .str s => some s
  | _ => none

/-- The value as a binary64 number. -/
def asFloat? : Json → Option Float
  | .num (.int n) => some (Binary64.ofInt n)
  | .num (.float x) => some x
  | _ => none

end Json

end LogWatch
