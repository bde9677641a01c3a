import LogWatch.Text.Octets
import Mathlib.Algebra.Group.Int.Defs
import Mathlib.Algebra.Group.Nat.Defs
import Mathlib.Data.List.TakeDrop
import Mathlib.Data.List.TakeWhile

/-!
# Reading by position

A reader that takes octets from the front of a list cannot reach beyond its end. A reader that works
by position can: it asks for the octet at a position, cuts out what lies between two of them, and
keeps its positions and numbers in machine words. It goes round in loops, and nothing but its own
test ends them.

So such a reader is an **execution** (`LogWatch.Exec`). It ends with a value, or it breaks down
where there is no such octet, or no such number in a word, or it never ends. A **search**
(`LogWatch.Search`) is an execution that may end with nothing.

An execution that ends with a value without breaking down is one that equals that value. So what a
reader by position does is said by equations: under the condition that each position asked for is
there and each number fits, a step is the value that it gives, and a chain of steps is the value of
the chain. A loop ends if each round gives the value or leaves less to be done
(`LogWatch.Exec.Round.loop_eq_of_measure`).
-/

namespace LogWatch

/-- Why an execution breaks down. -/
inductive Breakdown
  /-- No octet has such a position. -/
  | outOfRange
  /-- The number does not fit into its word. -/
  | overflow
  /-- A text would be cut within a character. -/
  | insideCharacter
  deriving DecidableEq

/-- An execution. It is `none` if it never ends, and otherwise ends with a value or breaks down. -/
abbrev Exec (α : Type) := ExceptT Breakdown Option α

/-- An execution that ends with a value or with nothing, if it ends. -/
abbrev Search (α : Type) := OptionT Exec α

/-- How many positions a machine has. -/
structure Machine where
  /-- Half of the positions. A text takes less than this, so that the distance between any two of
  its octets fits into a signed word. -/
  half : Nat
  /-- A position has no fewer than 16 bits. -/
  le_half : 2 ^ 15 ≤ half

namespace Exec

variable {α σ : Type}

/-- The execution breaks down. -/
def breaks (why : Breakdown) : Exec α := ExceptT.mk (some (.error why))

/-! ### Numbers in words -/

/-- An unsigned number in a word of so many bits. -/
def word (bits n : Nat) : Exec Nat := if n < 2 ^ bits then pure n else breaks .overflow

/-- A signed number in a word of so many bits. -/
def signed (bits : Nat) (n : Int) : Exec Int :=
  if -2 ^ (bits - 1) ≤ n ∧ n < 2 ^ (bits - 1) then pure n else breaks .overflow

/-- The difference of two unsigned numbers, of which there is none if the second is greater. -/
def minus (n k : Nat) : Exec Nat := if k ≤ n then pure (n - k) else breaks .overflow

theorem word_eq {bits n : Nat} (h : n < 2 ^ bits) : word bits n = pure n := if_pos h

theorem signed_eq {bits : Nat} {n : Int} (h : -2 ^ (bits - 1) ≤ n) (h' : n < 2 ^ (bits - 1)) :
    signed bits n = pure n := if_pos ⟨h, h'⟩

theorem minus_eq {n k : Nat} (h : k ≤ n) : minus n k = pure (n - k) := if_pos h

/-- A position of the machine. -/
def position (m : Machine) (n : Nat) : Exec Nat :=
  if n < 2 * m.half then pure n else breaks .overflow

theorem position_eq {m : Machine} {n : Nat} (h : n < 2 * m.half) : position m n = pure n := if_pos h

/-! ### Octets and pieces -/

/-- The octet at a position. -/
def octetAt (s : Bytes) (i : Nat) : Exec UInt8 :=
  match s[i]? with
  | some b => pure b
  | none => breaks .outOfRange

/-- The octets from one position up to another, if both lie in the text and in this order. -/
def piece? (s : Bytes) (start stop : Nat) : Option Bytes :=
  if start ≤ stop ∧ stop ≤ s.length then some ((s.take stop).drop start) else none

/-- The octets from one position up to another. -/
def piece (s : Bytes) (start stop : Nat) : Exec Bytes :=
  match piece? s start stop with
  | some t => pure t
  | none => breaks .outOfRange

theorem octetAt_eq {s : Bytes} {i : Nat} (h : i < s.length) : octetAt s i = pure s[i] := by
  rw [octetAt, List.getElem?_eq_getElem h]

theorem piece_eq {s : Bytes} {start stop : Nat} (h : start ≤ stop) (h' : stop ≤ s.length) :
    piece s start stop = pure ((s.take stop).drop start) := by
  rw [piece, piece?, if_pos ⟨h, h'⟩]

/-- What stands in a text from one position up to another, if both lie between two characters, or at
an end, and in this order. -/
def cut (s : String) (start stop : Nat) : Exec String :=
  if h : (⟨start⟩ : String.Pos.Raw).IsValid s ∧ (⟨stop⟩ : String.Pos.Raw).IsValid s ∧
      start ≤ stop then
    pure (s.extract ⟨⟨start⟩, h.1⟩ ⟨⟨stop⟩, h.2.1⟩)
  else breaks .insideCharacter

/-- A part of a text can be cut out. -/
theorem cut_eq (s t u : String) :
    cut (s ++ (t ++ u)) s.utf8ByteSize (s.utf8ByteSize + t.utf8ByteSize) = pure t := by
  have hstart : (⟨s.utf8ByteSize⟩ : String.Pos.Raw).IsValid (s ++ (t ++ u)) :=
    String.Pos.Raw.isValid_iff_exists_append.mpr ⟨s, t ++ u, rfl, rfl⟩
  have hstop : (⟨s.utf8ByteSize + t.utf8ByteSize⟩ : String.Pos.Raw).IsValid (s ++ (t ++ u)) := by
    refine String.Pos.Raw.isValid_iff_exists_append.mpr ⟨s ++ t, u, String.append_assoc.symm, ?_⟩
    rw [String.rawEndPos, String.utf8ByteSize_append]
  have hcut := ByteArray.extract_append_size_add (a := s.toByteArray)
    (b := t.toByteArray ++ u.toByteArray) (i := 0) (j := t.toByteArray.size)
  rw [ByteArray.extract_append_eq_left rfl, Nat.add_zero, String.size_toByteArray,
    String.size_toByteArray, ← String.toByteArray_append, ← String.toByteArray_append] at hcut
  rw [cut, dif_pos ⟨hstart, hstop, Nat.le_add_right _ _⟩]
  exact congrArg pure (String.toByteArray_inj.mp (String.toByteArray_extract.trans hcut))

/-! ### Loops -/

/-- One round of a loop. From a state it goes to the next state, or has a result. -/
abbrev Round (σ α : Type) := σ → Exec (σ ⊕ α)

namespace Round

/-- Goes round until there is a result. If there never is one, the loop does not end. -/
def loop (round : Round σ α) (state : σ) : Exec α := do
  match ← round state with
  | .inl state => round |>.loop state
  | .inr result => pure result
  partial_fixpoint

variable {round : Round σ α} {s s' : σ} {a : α}

theorem loop_of_again (h : round s = pure (.inl s')) : round.loop s = round.loop s' := by
  rw [loop, h, pure_bind]

theorem loop_of_result (h : round s = pure (.inr a)) : round.loop s = pure a := by
  rw [loop, h, pure_bind]

/-- **A loop ends with its value** if a round ends with the value that its state gives, or ends in a
state that gives the same value and leaves less to be done. -/
theorem loop_eq_of_measure (Gives : σ → α → Prop) (left : σ → Nat)
    (hround : ∀ s a, Gives s a → round s = pure (.inr a) ∨
      ∃ s', round s = pure (.inl s') ∧ Gives s' a ∧ left s' < left s)
    (h : Gives s a) : round.loop s = pure a := by
  induction hn : left s using Nat.strong_induction_on generalizing s with
  | _ n ih =>
    obtain hresult | ⟨s', hagain, hs', hless⟩ := hround s a h
    · exact loop_of_result hresult
    · rw [loop_of_again hagain, ih (left s') (hn ▸ hless) hs' rfl]

end Round

/-! ### Runs of octets -/

section Runs

variable {m : Machine} {p : UInt8 → Bool} {s : Bytes}

/-- One octet further, as long as there is one with a property. -/
def runRound (m : Machine) (p : UInt8 → Bool) (s : Bytes) : Round Nat Nat := fun i => do
  if i < s.length then
    if p (← octetAt s i) then
      let next ← position m (i + 1)
      pure (.inl next)
    else pure (.inr i)
  else pure (.inr i)

/-- The position after the octets with a property that stand from a position on. -/
def runEnd (m : Machine) (p : UInt8 → Bool) (s : Bytes) (start : Nat) : Exec Nat :=
  (runRound m p s).loop start

/-- One round of a run. -/
theorem runRound_eq (hs : s.length < m.half) (i : Nat) :
    runRound m p s i =
      pure (if s[i]?.any p then Sum.inl (i + 1) else Sum.inr i) := by
  rw [runRound]
  split
  · next hi =>
    rw [octetAt_eq hi, pure_bind, List.getElem?_eq_getElem hi, Option.any_some]
    split
    · rw [position_eq (by omega), pure_bind]
    · rfl
  · next hi => rw [List.getElem?_eq_none (Nat.le_of_not_lt hi), Option.any_none]; rfl

/-- **A run ends** behind the octets that have the property. -/
theorem runEnd_eq (hs : s.length < m.half) (start : Nat) :
    runEnd m p s start = pure (start + ((s.drop start).takeWhile p).length) := by
  refine Round.loop_eq_of_measure (fun i stop => stop = i + ((s.drop i).takeWhile p).length)
    (fun i => s.length - i) (fun i stop hstop => ?_) rfl
  rw [runRound_eq hs, hstop]
  by_cases hi : i < s.length
  · rw [List.getElem?_eq_getElem hi, Option.any_some, List.drop_eq_getElem_cons hi]
    cases hp : p s[i]
    · rw [List.takeWhile_cons_of_neg (by simp [hp])]
      exact .inl rfl
    · rw [List.takeWhile_cons_of_pos hp]
      refine .inr ⟨i + 1, rfl, ?_, by omega⟩
      rw [List.length_cons]
      omega
  · rw [List.getElem?_eq_none (Nat.le_of_not_lt hi), List.drop_of_length_le (Nat.le_of_not_lt hi)]
    exact .inl rfl

end Runs

end Exec

namespace Search

variable {α β γ : Type} {p : Prop} [Decidable p]

/-- What has been found, or nothing. -/
def of (found : Option α) : Search α := OptionT.mk (pure found)

@[simp] theorem run_of (o : Option α) : (of o).run = pure o := rfl

@[simp] theorem none_bind (f : α → Search β) : of none >>= f = of none := rfl

@[simp] theorem some_bind (a : α) (f : α → Search β) : of (some a) >>= f = f a := rfl

theorem of_orElse (o o' : Option α) : (of o <|> of o') = of (o <|> o') := by cases o <;> rfl

theorem guard_of_pos (h : p) : (guard p : Search Unit) = pure () := if_pos h

theorem guard_of_neg (h : ¬p) : (guard p : Search Unit) = of none := if_neg h

/-- A step that ends with a value goes on with it. -/
theorem lift_bind {x : Exec α} {a : α} {f : α → Search β} (hx : x = pure a) :
    (liftM x : Search α) >>= f = f a := by
  rw [hx]
  rfl

/-- **A chain of searches** ends as the chain of what they find. -/
theorem bind_eq {x : Search α} {o : Option α} {f : α → Search β} {g : α → Option β} (hx : x = of o)
    (hf : ∀ a, o = some a → f a = of (g a)) : x >>= f = of (o.bind g) := by
  cases o with
  | none => rw [hx]; rfl
  | some a => rw [hx]; exact hf a rfl

/-- The same if what is found stands for something else. -/
theorem bind_map_eq {x : Search β} {o : Option α} {k : α → β} {f : β → Search γ}
    {g : α → Option γ} (hx : x = of (o.map k)) (hf : ∀ a, o = some a → f (k a) = of (g a)) :
    x >>= f = of (o.bind g) := by
  cases o with
  | none => rw [hx]; rfl
  | some a => rw [hx]; exact hf a rfl

/-- Under a condition a search ends as it does if the condition holds. -/
theorem guard_bind_eq {f : Unit → Search β} {g : Unit → Option β} (hf : p → f () = of (g ())) :
    guard p >>= f = of ((guard p : Option Unit).bind g) := by
  by_cases h : p
  · rw [guard_of_pos h, pure_bind, guard, if_pos h]
    exact hf h
  · rw [guard_of_neg h, guard, if_neg h]
    rfl

end Search

end LogWatch
