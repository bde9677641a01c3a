/-!
# Sets of code points

A set of numbers as a list of ranges in increasing order, with a gap between any two. The sets of
characters of a pattern and the tables of the Unicode Character Database are such sets; the same
lists serve for sets of octets.
-/

namespace LogWatch

/-- A set of numbers: ranges with both ends included, in increasing order and apart. -/
structure CodeSet where
  /-- The ranges. -/
  ranges : List (Nat × Nat)

namespace CodeSet

/-- The set without members. -/
def empty : CodeSet := ⟨[]⟩

/-- The set of the numbers in a range. -/
def range (lo hi : Nat) : CodeSet := if lo ≤ hi then ⟨[(lo, hi)]⟩ else empty

/-- The set with one member. -/
def single (n : Nat) : CodeSet := ⟨[(n, n)]⟩

/-- Membership in ranges in increasing order. -/
def containsIn (n : Nat) : List (Nat × Nat) → Bool
  | [] => false
  | (lo, hi) :: rs => if n < lo then false else if n ≤ hi then true else containsIn n rs

/-- The number is a member. -/
def contains (s : CodeSet) (n : Nat) : Bool := containsIn n s.ranges

/-- Appends a range that starts no earlier than the last one, given in reverse. -/
def append (rs : List (Nat × Nat)) (r : Nat × Nat) : List (Nat × Nat) :=
  match rs with
  | [] => [r]
  | (lo, hi) :: rest => if r.1 ≤ hi + 1 then (lo, max hi r.2) :: rest else r :: (lo, hi) :: rest

/-- The set of the numbers in any of the ranges. -/
def ofRanges (rs : List (Nat × Nat)) : CodeSet :=
  let sorted := (rs.filter fun r => decide (r.1 ≤ r.2)).mergeSort fun a b => decide (a.1 ≤ b.1)
  ⟨(sorted.foldl append []).reverse⟩

/-- The set of the numbers in a list. -/
def ofList (ns : List Nat) : CodeSet := ofRanges (ns.map fun n => (n, n))

/-- The numbers in one of two sets. -/
def union (s t : CodeSet) : CodeSet := ofRanges (s.ranges ++ t.ranges)

/-- The ranges between `next` and `top` that the ranges leave out. -/
def gaps (top : Nat) : Nat → List (Nat × Nat) → List (Nat × Nat)
  | next, [] => if next ≤ top then [(next, top)] else []
  | next, (lo, hi) :: rs =>
    if next < lo then (next, lo - 1) :: gaps top (hi + 1) rs else gaps top (hi + 1) rs

/-- The numbers up to `top` that are not members. -/
def complement (top : Nat) (s : CodeSet) : CodeSet := ⟨gaps top 0 s.ranges⟩

/-- The greatest code point. -/
def maxCode : Nat := 0x10FFFF

/-- The numbers in both sets, up to the greatest code point. -/
def inter (s t : CodeSet) : CodeSet :=
  complement maxCode ((complement maxCode s).union (complement maxCode t))

/-- The members of the first set that are not in the second. -/
def difference (s t : CodeSet) : CodeSet := s.inter (complement maxCode t)

/-- The numbers in one set but not in both. -/
def symmetricDifference (s t : CodeSet) : CodeSet := (s.union t).difference (s.inter t)

/-! ### The notation of the database -/

/-- A hexadecimal number in capitals. -/
def hexValue (cs : List Char) : Nat :=
  cs.foldl (fun n c => n * 16 + (if c.isDigit then c.toNat - 48 else c.toNat - 55)) 0

/-- A range `41-5A`, or a single code point `AA`. -/
def rangeOfNotation (cs : List Char) : Nat × Nat :=
  match cs.span (· != '-') with
  | (lo, []) => (hexValue lo, hexValue lo)
  | (lo, _ :: hi) => (hexValue lo, hexValue hi)

/-- The words of a line. -/
def words (word : List Char) : List Char → List (List Char)
  | [] => if word.isEmpty then [] else [word.reverse]
  | ' ' :: cs => if word.isEmpty then words [] cs else word.reverse :: words [] cs
  | c :: cs => words (c :: word) cs

/-- The set that lines of ranges in increasing order spell. -/
def ofNotation (lines : List String) : CodeSet :=
  ofRanges ((lines.flatMap fun line => words [] line.toList).map rangeOfNotation)

end CodeSet

end LogWatch
