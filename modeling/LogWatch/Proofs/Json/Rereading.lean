import LogWatch.Proofs.Json.Tokens
import LogWatch.Proofs.Json.Values

/-!
# Written JSON, read again

What comes back when a value is written and read again can be said exactly
(`LogWatch.Json.value?_node`). The text is always one of JSON, so there always is a node. Its value
is the value that was written, except that every number is the one that its text is read as, and
there is a value if the arrays and objects are not nested too deeply and all numbers are in range.

So **the text is the same** as long as every single number keeps its own text
(`LogWatch.Json.chars_reread`). Integers do; whether a binary64 value does is a question about its
digits.
-/

namespace LogWatch

namespace Json

/-! ### The node of a written value -/

/-- What is read of a number. -/
def Number.node (n : Number) : Node := if n.isLost then .null else .num n.reread?

mutual

/-- What is read of a value. -/
def node : Json → Node
  | .null => .null
  | .bool b => .bool b
  | .num n => n.node
  | .str s => .str (some s)
  | .arr items => .arr (itemsNodes items)
  | .obj members => .obj (membersNodes members)

/-- What is read of some values. -/
def itemsNodes : List Json → List Node
  | [] => []
  | v :: vs => v.node :: itemsNodes vs

/-- What is read of some members. -/
def membersNodes : List (String × Json) → List (Option String × Node)
  | [] => []
  | (k, v) :: ms => (some k, v.node) :: membersNodes ms

end

theorem membersNodes_eq (ms : List (String × Json)) :
    membersNodes ms = ms.map fun p => (some p.1, p.2.node) := by
  induction ms with
  | nil => rfl
  | cons p ms ih => rw [membersNodes, ih, List.map_cons]

namespace Node

section Steps

variable {frames : List Frame} {e : Expects} {t : Token}

/-- A value may come next, also behind a bracket. -/
theorem step_value (he : e = .value ∨ e = .valueOrEnd) (ht : t ≠ .closeBracket) :
    Partial.step ⟨frames, e⟩ t = Partial.value frames t := by
  rcases he with rfl | rfl
  · cases t <;> rfl
  · cases t <;> first | rfl | exact absurd rfl ht

mutual

/-- **The tokens of a value make up its node**, whatever has been opened before. -/
theorem foldlM_tokens : ∀ (v : Json) (frames : List Frame) (e : Expects),
    e = .value ∨ e = .valueOrEnd →
      v.tokens.foldlM Partial.step ⟨frames, e⟩ = some (Partial.close frames v.node)
  | .null, frames, e, he => by
    rw [tokens, List.foldlM_cons, step_value he (by simp)]
    rfl
  | .bool b, frames, e, he => by
    rw [tokens, List.foldlM_cons, step_value he (by simp)]
    rfl
  | .num n, frames, e, he => by
    rw [tokens, node, Number.token, Number.node, List.foldlM_cons]
    split
    · rw [step_value he (by simp)]
      rfl
    · rw [step_value he (by simp)]
      rfl
  | .str s, frames, e, he => by
    rw [tokens, List.foldlM_cons, step_value he (by simp)]
    rfl
  | .arr [], frames, e, he => by
    rw [tokens, List.foldlM_cons, step_value he (by simp)]
    rfl
  | .arr (v :: vs), frames, e, he => by
    rw [tokens, List.foldlM_cons, step_value he (by simp), node, itemsNodes]
    refine (List.foldlM_append ..).trans ?_
    rw [foldlM_tokens v _ _ (.inr rfl)]
    exact foldlM_itemsTokens vs [] v.node frames
  | .obj [], frames, e, he => by
    rw [tokens, List.foldlM_cons, step_value he (by simp)]
    rfl
  | .obj ((k, v) :: ms), frames, e, he => by
    rw [tokens, List.foldlM_cons, step_value he (by simp), node, membersNodes]
    refine (List.foldlM_append ..).trans ?_
    rw [foldlM_tokens v _ _ (.inl rfl)]
    exact foldlM_membersTokens ms [] (some k) v.node frames

theorem foldlM_itemsTokens : ∀ (vs : List Json) (items : List Node) (n : Node)
    (frames : List Frame),
    (itemsTokens vs).foldlM Partial.step ⟨.arr items :: frames, .commaOrEnd n⟩ =
      some (Partial.close frames (.arr ((n :: items).reverse ++ itemsNodes vs)))
  | [], items, n, frames => by
    rw [itemsNodes, List.append_nil]
    rfl
  | v :: vs, items, n, frames => by
    rw [itemsTokens, List.foldlM_cons]
    refine (List.foldlM_append ..).trans ?_
    rw [foldlM_tokens v _ _ (.inl rfl)]
    refine (foldlM_itemsTokens vs (n :: items) v.node frames).trans ?_
    rw [itemsNodes, List.reverse_cons (a := v.node), List.append_assoc, List.singleton_append]

theorem foldlM_membersTokens : ∀ (ms : List (String × Json))
    (members : List (Option String × Node)) (key : Option String) (n : Node)
    (frames : List Frame),
    (membersTokens ms).foldlM Partial.step ⟨.obj members key :: frames, .commaOrEnd n⟩ =
      some (Partial.close frames (.obj (((key, n) :: members).reverse ++ membersNodes ms)))
  | [], members, key, n, frames => by
    rw [membersNodes, List.append_nil]
    rfl
  | (k, v) :: ms, members, key, n, frames => by
    rw [membersTokens, List.foldlM_cons]
    refine (List.foldlM_append ..).trans ?_
    rw [foldlM_tokens v _ _ (.inl rfl)]
    refine (foldlM_membersTokens ms ((key, n) :: members) (some k) v.node frames).trans ?_
    rw [membersNodes, List.reverse_cons (a := (some k, v.node)), List.append_assoc,
      List.singleton_append]

end

end Steps

end Node

/-- **What is written of a value is JSON**, and this is its node. -/
theorem ofBytes?_chars (v : Json) : Node.ofBytes? (octets v.chars) = some v.node := by
  rw [Node.ofBytes?, ofBytes?_octets, Option.bind_some, Node.ofTokens?,
    Node.foldlM_tokens v [] .value (.inl rfl)]
  rfl

/-! ### Its value -/

/-- The text of a number is read as a number in range, or JSON cannot hold it. -/
def Number.IsReadable (n : Number) : Prop := n.isLost = true ∨ n.reread?.isSome = true

instance (n : Number) : Decidable n.IsReadable :=
  inferInstanceAs (Decidable (n.isLost = true ∨ n.reread?.isSome = true))

/-- What a number comes back as. -/
def Number.reread (n : Number) : Json :=
  if n.isLost then .null else (n.reread?.map .num).getD .null

theorem value?_number (n : Number) (depth : Nat) :
    n.node.value? depth = if n.IsReadable then some n.reread else none := by
  rw [Number.node, Number.reread]
  cases hlost : n.isLost with
  | true => simp [Number.IsReadable, hlost, Node.value?]
  | false => cases hread : n.reread? <;> simp [Number.IsReadable, hlost, hread, Node.value?]

mutual

/-- The numbers in a value. -/
def numbers : Json → List Number
  | .num n => [n]
  | .arr items => itemsNumbers items
  | .obj members => membersNumbers members
  | _ => []

/-- The numbers in some values. -/
def itemsNumbers : List Json → List Number
  | [] => []
  | v :: vs => v.numbers ++ itemsNumbers vs

/-- The numbers in some members. -/
def membersNumbers : List (String × Json) → List Number
  | [] => []
  | (_, v) :: ms => v.numbers ++ membersNumbers ms

end

mutual

/-- The numbers in a sound value are in range. -/
theorem isInRange_of_mem_numbers : ∀ v : Json, v.IsSound → ∀ n ∈ v.numbers, n.IsInRange
  | .null, _ => by simp [numbers]
  | .bool _, _ => by simp [numbers]
  | .num n, h => by
    rw [numbers, List.forall_mem_singleton]
    exact h
  | .str _, _ => by simp [numbers]
  | .arr items, h => by
    rw [numbers]
    exact isInRange_of_mem_itemsNumbers items h
  | .obj members, h => by
    rw [numbers]
    exact isInRange_of_mem_membersNumbers members h.2

theorem isInRange_of_mem_itemsNumbers : ∀ vs : List Json, AreSoundItems vs →
    ∀ n ∈ itemsNumbers vs, n.IsInRange
  | [], _ => by simp [itemsNumbers]
  | v :: vs, h => by
    rw [itemsNumbers, List.forall_mem_append]
    exact ⟨isInRange_of_mem_numbers v h.1, isInRange_of_mem_itemsNumbers vs h.2⟩

theorem isInRange_of_mem_membersNumbers : ∀ ms : List (String × Json), AreSoundMembers ms →
    ∀ n ∈ membersNumbers ms, n.IsInRange
  | [], _ => by simp [membersNumbers]
  | (_, v) :: ms, h => by
    rw [membersNumbers, List.forall_mem_append]
    exact ⟨isInRange_of_mem_numbers v h.1, isInRange_of_mem_membersNumbers ms h.2⟩

end

mutual

/-- So many arrays and objects are nested in the value, itself included. -/
def height : Json → Nat
  | .arr items => itemsHeight items + 1
  | .obj members => membersHeight members + 1
  | _ => 0

/-- So many arrays and objects are nested in one of the values. -/
def itemsHeight : List Json → Nat
  | [] => 0
  | v :: vs => max v.height (itemsHeight vs)

/-- So many arrays and objects are nested in one of the members. -/
def membersHeight : List (String × Json) → Nat
  | [] => 0
  | (_, v) :: ms => max v.height (membersHeight ms)

end

mutual

/-- **What a value comes back as**: each number is what its text is read as. -/
def reread : Json → Json
  | .num n => n.reread
  | .arr items => .arr (itemsReread items)
  | .obj members => .obj (membersReread members)
  | v => v

/-- What some values come back as. -/
def itemsReread : List Json → List Json
  | [] => []
  | v :: vs => v.reread :: itemsReread vs

/-- What some members come back as. -/
def membersReread : List (String × Json) → List (String × Json)
  | [] => []
  | (k, v) :: ms => (k, v.reread) :: membersReread ms

end

theorem mem_membersNumbers {n : Number} {ms : List (String × Json)} :
    n ∈ membersNumbers ms ↔ ∃ p ∈ ms, n ∈ p.2.numbers := by
  induction ms with
  | nil => simp [membersNumbers]
  | cons p ms ih => simp [membersNumbers, ih]

theorem membersReread_eq (ms : List (String × Json)) :
    membersReread ms = ms.map fun p => (p.1, p.2.reread) := by
  induction ms with
  | nil => rfl
  | cons p ms ih => rw [membersReread, ih, List.map_cons]

theorem isSorted_membersReread {ms : List (String × Json)} (h : SortedMap.IsSorted ms) :
    SortedMap.IsSorted (membersReread ms) := by
  simpa [membersReread_eq, SortedMap.IsSorted, Function.comp_def] using h

/-- **A readable value** has no more than `depth` arrays and objects nested in it, and its numbers
are readable. -/
def IsReadable (depth : Nat) (v : Json) : Prop :=
  v.height ≤ depth ∧ ∀ n ∈ v.numbers, n.IsReadable

instance (depth : Nat) (v : Json) : Decidable (v.IsReadable depth) :=
  inferInstanceAs (Decidable (v.height ≤ depth ∧ ∀ n ∈ v.numbers, n.IsReadable))

/-- Two things are there if each of them is. -/
theorem bind_ite {α β γ : Type} {p q : Prop} [Decidable p] [Decidable q] (a : α) (b : β)
    (f : α → β → γ) :
    ((if p then some a else none).bind fun x => (if q then some b else none).map (f x)) =
      if p ∧ q then some (f a b) else none := by
  by_cases hp : p <;> by_cases hq : q <;> simp [hp, hq]

mutual

/-- **What comes back**: the value with its numbers read again, if it is readable. -/
theorem value?_node : ∀ (v : Json) (depth : Nat), v.IsSound →
    v.node.value? depth = if v.IsReadable depth then some v.reread else none
  | .null, depth, _ => by simp [node, Node.value?, IsReadable, height, numbers, reread]
  | .bool b, depth, _ => by simp [node, Node.value?, IsReadable, height, numbers, reread]
  | .num n, depth, _ => by
    rw [node, value?_number, reread]
    simp [IsReadable, height, numbers]
  | .str s, depth, _ => by simp [node, Node.value?, IsReadable, height, numbers, reread]
  | .arr items, depth, h => by
    rw [node, Node.value?]
    cases depth with
    | zero => simp [IsReadable, height]
    | succ depth =>
      rw [if_neg (Nat.succ_ne_zero depth), Nat.add_sub_cancel, values?_itemsNodes items depth h]
      simp [IsReadable, height, numbers, reread, apply_ite]
  | .obj members, depth, h => by
    rw [node, Node.value?]
    cases depth with
    | zero => simp [IsReadable, height]
    | succ depth =>
      rw [if_neg (Nat.succ_ne_zero depth), Nat.add_sub_cancel,
        members?_membersNodes members depth h.2]
      simp [IsReadable, height, numbers, reread, apply_ite, ofMembers,
        (isSorted_membersReread h.1).ofList_eq]

theorem values?_itemsNodes : ∀ (vs : List Json) (depth : Nat), AreSoundItems vs →
    Node.values? depth (itemsNodes vs) =
      if itemsHeight vs ≤ depth ∧ ∀ n ∈ itemsNumbers vs, n.IsReadable then some (itemsReread vs)
      else none
  | [], depth, _ => by simp [itemsNodes, Node.values?, itemsHeight, itemsNumbers, itemsReread]
  | v :: vs, depth, h => by
    rw [itemsNodes, Node.values?, value?_node v depth h.1, values?_itemsNodes vs depth h.2,
      bind_ite]
    simp only [IsReadable, itemsHeight, itemsNumbers, itemsReread, Nat.max_le,
      List.forall_mem_append, and_and_and_comm]

theorem members?_membersNodes : ∀ (ms : List (String × Json)) (depth : Nat), AreSoundMembers ms →
    Node.members? depth (membersNodes ms) =
      if membersHeight ms ≤ depth ∧ ∀ n ∈ membersNumbers ms, n.IsReadable then
        some (membersReread ms)
      else none
  | [], depth, _ => by
    simp [membersNodes, Node.members?, membersHeight, membersNumbers, membersReread]
  | (k, v) :: ms, depth, h => by
    rw [membersNodes, Node.members?, value?_node v depth h.1, members?_membersNodes ms depth h.2,
      Option.bind_some, bind_ite]
    simp only [IsReadable, membersHeight, membersNumbers, membersReread, Nat.max_le,
      List.forall_mem_append, and_and_and_comm]

end

/-- **What is written and read again.** -/
theorem read?_chars {v : Json} (h : v.IsSound) :
    read? (octets v.chars) = if v.IsReadable Node.maxDepth then some v.reread else none := by
  rw [read?, ofBytes?_chars, Option.bind_some, value?_node v _ h]

/-! ### Its text -/

/-- The number comes back with its text. -/
def Number.IsKept (n : Number) : Prop := n.IsReadable ∧ n.reread.chars = n.chars

/-- **Integers keep their text.** -/
theorem Number.isKept_int {n : Int} (h : (Number.int n).IsInRange) : (Number.int n).IsKept := by
  have hread := reread?_int h.1 h.2
  refine ⟨.inr (by rw [hread]; rfl), ?_⟩
  rw [reread, hread]
  rfl

mutual

/-- **A value keeps its text if its numbers do.** -/
theorem chars_reread : ∀ v : Json, (∀ n ∈ v.numbers, n.IsKept) → v.reread.chars = v.chars
  | .null, _ => rfl
  | .bool _, _ => rfl
  | .num n, h => (h n (by simp [numbers])).2
  | .str _, _ => rfl
  | .arr [], _ => rfl
  | .arr (v :: vs), h => by
    rw [numbers, itemsNumbers, List.forall_mem_append] at h
    rw [reread, itemsReread, chars, chars, chars_reread v h.1, itemsChars_reread vs h.2]
  | .obj [], _ => rfl
  | .obj ((k, v) :: ms), h => by
    rw [numbers, membersNumbers, List.forall_mem_append] at h
    rw [reread, membersReread, chars, chars, chars_reread v h.1, membersChars_reread ms h.2]

theorem itemsChars_reread : ∀ vs : List Json, (∀ n ∈ itemsNumbers vs, n.IsKept) →
    itemsChars (itemsReread vs) = itemsChars vs
  | [], _ => rfl
  | v :: vs, h => by
    rw [itemsNumbers, List.forall_mem_append] at h
    rw [itemsReread, itemsChars, itemsChars, chars_reread v h.1, itemsChars_reread vs h.2]

theorem membersChars_reread : ∀ ms : List (String × Json), (∀ n ∈ membersNumbers ms, n.IsKept) →
    membersChars (membersReread ms) = membersChars ms
  | [], _ => rfl
  | (k, v) :: ms, h => by
    rw [membersNumbers, List.forall_mem_append] at h
    rw [membersReread, membersChars, membersChars, chars_reread v h.1,
      membersChars_reread ms h.2]

end

end Json

end LogWatch
