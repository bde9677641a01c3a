import LogWatch.Proofs.Json.Reader

/-!
# Sound JSON values

Not every term of the type of JSON values is a value that the program can hold: the members of an
object are in the strict order of their names, and an integer is one that fits into 64 bits, with a
sign or without. **Sound** values (`LogWatch.Json.IsSound`) are those that are so throughout.

Whatever is read is sound (`LogWatch.Json.isSound_of_read?`). The order of the members is that in
which they are put into a map. The range of the integers is decided where digits are read, long
before there is a value: numbers pass from tokens to nodes and from nodes to values, and on the way
none is made up (`LogWatch.Json.Node.isInRange_of_ofTokens?`).
-/

namespace LogWatch

/-! ### Maps in the order of their keys -/

namespace SortedMap

variable {α : Type}

/-- The keys are in their strict order. -/
def IsSorted (m : SortedMap α) : Prop := (m.map Prod.fst).Pairwise (· < ·)

section Sorted

variable {m ps : SortedMap α} {k : String} {v : α} {p : String × α}

theorem isSorted_cons :
    IsSorted (p :: m) ↔ (∀ q ∈ m, p.1 < q.1) ∧ IsSorted m := by
  simp [IsSorted]

theorem mem_of_mem_insert (h : p ∈ insert k v m) : p = (k, v) ∨ p ∈ m := by
  induction m with
  | nil => exact .inl (List.mem_singleton.mp h)
  | cons q m ih =>
    rw [insert] at h
    split at h
    · exact List.mem_cons.mp h
    · split at h
      · rcases List.mem_cons.mp h with h | h
        · exact .inl h
        · exact .inr (List.mem_cons_of_mem _ h)
      · rcases List.mem_cons.mp h with h | h
        · exact .inr (h ▸ List.mem_cons_self)
        · exact (ih h).imp id (List.mem_cons_of_mem _)

/-- **Setting a key keeps the order.** -/
theorem IsSorted.insert (h : IsSorted m) (k : String) (v : α) :
    IsSorted (SortedMap.insert k v m) := by
  induction m with
  | nil => simp [SortedMap.insert, IsSorted]
  | cons q m ih =>
    obtain ⟨hq, hm⟩ := isSorted_cons.mp h
    rw [SortedMap.insert]
    split
    · next hlt =>
      refine isSorted_cons.mpr ⟨fun p hp => ?_, h⟩
      rcases List.mem_cons.mp hp with rfl | hp
      · exact hlt
      · exact String.lt_trans hlt (hq p hp)
    · next hnlt =>
      split
      · next heq => exact isSorted_cons.mpr ⟨heq ▸ hq, hm⟩
      · next hne =>
        -- the key stands behind the first one
        have hlt : q.1 < k := by
          refine Std.not_le.mp fun hle => ?_
          exact hne (String.le_antisymm hle (String.not_lt.mp hnlt))
        refine isSorted_cons.mpr ⟨fun p hp => ?_, ih hm⟩
        rcases mem_of_mem_insert hp with rfl | hp
        · exact hlt
        · exact hq p hp

/-- A key that is greater than all others is put at the end. -/
theorem insert_of_forall_lt (h : ∀ p ∈ m, p.1 < k) : insert k v m = m ++ [(k, v)] := by
  induction m with
  | nil => rfl
  | cons q m ih =>
    have hq := h q List.mem_cons_self
    rw [insert, if_neg (String.lt_asymm hq), if_neg fun heq => ?_,
      ih fun p hp => h p (List.mem_cons_of_mem _ hp), List.cons_append]
    exact String.lt_irrefl k (heq ▸ hq)

theorem isSorted_ofList (ps : List (String × α)) : IsSorted (ofList ps) := by
  have hfold (m : SortedMap α) (hm : IsSorted m) :
      IsSorted (ps.foldl (fun m p => insert p.1 p.2 m) m) := by
    induction ps generalizing m with
    | nil => exact hm
    | cons p ps ih => exact ih _ (hm.insert p.1 p.2)
  exact hfold [] List.Pairwise.nil

theorem mem_of_mem_ofList {ps : List (String × α)} (h : p ∈ ofList ps) : p ∈ ps := by
  have hfold : ∀ (ps : List (String × α)) (m : SortedMap α),
      p ∈ ps.foldl (fun m p => insert p.1 p.2 m) m → p ∈ m ∨ p ∈ ps := by
    intro ps
    induction ps with
    | nil => exact fun m hp => .inl hp
    | cons q ps ih =>
      intro m hp
      rcases ih _ hp with hp | hp
      · rcases mem_of_mem_insert hp with rfl | hp
        · exact .inr List.mem_cons_self
        · exact .inl hp
      · exact .inr (List.mem_cons_of_mem _ hp)
  simpa using hfold ps [] h

/-- **Pairs in order are their map.** -/
theorem IsSorted.ofList_eq (h : IsSorted ps) : ofList ps = ps := by
  have hfold : ∀ (ps m : SortedMap α), IsSorted (m ++ ps) →
      ps.foldl (fun m p => SortedMap.insert p.1 p.2 m) m = m ++ ps := by
    intro ps
    induction ps with
    | nil => simp
    | cons p ps ih =>
      intro m hm
      have hlt : ∀ q ∈ m, q.1 < p.1 := by
        rw [IsSorted, List.map_append, List.pairwise_append] at hm
        exact fun q hq => hm.2.2 q.1 (List.mem_map_of_mem hq) p.1 (by simp)
      rw [List.foldl_cons, insert_of_forall_lt hlt]
      refine (ih _ ?_).trans ?_
      · simpa using hm
      · simp
  exact hfold ps [] h

end Sorted

end SortedMap

namespace Json

/-! ### Sound values -/

/-- The number is a binary64 value, or an integer that fits into 64 bits. -/
def Number.IsInRange : Number → Prop
  | .int n => -(Nat.pow 2 63 : Int) ≤ n ∧ n < (Nat.pow 2 64 : Int)
  | .float _ => True

theorem Number.isInRange_natCast {n : Nat} (h : n < Nat.pow 2 64) : (Number.int n).IsInRange :=
  ⟨by omega, Int.ofNat_lt.mpr h⟩

mutual

/-- **A sound value**: its integers are in range, and the members of its objects in order. -/
def IsSound : Json → Prop
  | .num n => n.IsInRange
  | .arr items => AreSoundItems items
  | .obj members => SortedMap.IsSorted members ∧ AreSoundMembers members
  | _ => True

/-- All values in the list are sound. -/
def AreSoundItems : List Json → Prop
  | [] => True
  | v :: vs => v.IsSound ∧ AreSoundItems vs

/-- All values of the members are sound. -/
def AreSoundMembers : List (String × Json) → Prop
  | [] => True
  | (_, v) :: ms => v.IsSound ∧ AreSoundMembers ms

end

theorem areSoundMembers_iff {ms : List (String × Json)} :
    AreSoundMembers ms ↔ ∀ p ∈ ms, p.2.IsSound := by
  induction ms with
  | nil => simp [AreSoundMembers]
  | cons p ms ih => simp [AreSoundMembers, ih]

theorem isSound_obj {ms : List (String × Json)} :
    (Json.obj ms).IsSound ↔ SortedMap.IsSorted ms ∧ ∀ p ∈ ms, p.2.IsSound := by
  rw [IsSound, areSoundMembers_iff]

theorem isSound_ofMembers {ms : List (String × Json)} (h : AreSoundMembers ms) :
    (ofMembers ms).IsSound := by
  rw [areSoundMembers_iff] at h
  exact isSound_obj.mpr ⟨SortedMap.isSorted_ofList ms,
    fun p hp => h p (SortedMap.mem_of_mem_ofList hp)⟩

/-! ### Numbers of tokens -/

namespace Number

theorem appendDigits_lt {ds : Bytes} {n : Nat} (h : n < Nat.pow 2 64) :
    (appendDigits n ds).1 < Nat.pow 2 64 := by
  induction ds generalizing n with
  | nil => exact h
  | cons d ds ih =>
    rw [appendDigits]
    split
    · next hnext => exact ih hnext
    · exact h

/-- **What a spelling stands for is in range.** -/
theorem Spelling.isInRange_value? {s : Spelling} {n : Number} (h : s.value? = some n) :
    n.IsInRange := by
  have hlt : (appendDigits 0 s.whole).1 < Nat.pow 2 64 := appendDigits_lt (by decide)
  obtain ⟨⟨significand, dropped⟩, hdigits⟩ : ∃ p, appendDigits 0 s.whole = p := ⟨_, rfl⟩
  rw [hdigits] at hlt
  simp only [Spelling.value?, hdigits] at h
  split at h
  · split at h
    · obtain rfl := Option.some.inj h
      exact isInRange_natCast hlt
    · split at h
      · next hsmall =>
        obtain rfl := Option.some.inj h
        have hle : significand ≤ Nat.pow 2 63 := hsmall.2
        exact ⟨by omega, by omega⟩
      · obtain rfl := Option.some.inj h
        exact trivial
  · obtain ⟨x, -, rfl⟩ := Option.map_eq_some_iff.mp h
    exact trivial

end Number

namespace Token

/-- The numbers in a token. -/
def numbers : Token → List Number
  | .num (some n) => [n]
  | _ => []

/-- **The numbers read so far are in range**, and there is none in the word that is being read. -/
structure Machine.IsInRange (m : Machine) : Prop where
  /-- Those that have been read are in range. -/
  tokens : ∀ t ∈ m.tokens, ∀ n ∈ t.numbers, n.IsInRange
  /-- A word stands for no number. -/
  word : ∀ left t, m.state = .word left t → t.numbers = []

section Steps

variable {m m' : Machine} {b : UInt8} {t : Token} {ts : List Token}

theorem isInRange_idle (h : ∀ t ∈ ts, ∀ n ∈ t.numbers, n.IsInRange)
    (ht : ∀ n ∈ t.numbers, n.IsInRange) : Machine.IsInRange ⟨.idle, t :: ts⟩ :=
  ⟨List.forall_mem_cons.mpr ⟨ht, h⟩, by simp⟩

theorem isInRange_start (hm : ∀ t ∈ m.tokens, ∀ n ∈ t.numbers, n.IsInRange)
    (h : m.start b = some m') : m'.IsInRange := by
  have hone {t : Token} (ht : t.numbers = []) :
      ∀ m' ∈ some (Machine.mk .idle (t :: m.tokens)), m'.IsInRange := by
    rintro m' ⟨⟩
    exact isInRange_idle hm (by simp [ht])
  have hword {left : Bytes} {t : Token} (ht : t.numbers = []) :
      ∀ m' ∈ some (Machine.mk (.word left t) m.tokens), m'.IsInRange := by
    rintro m' ⟨⟩
    refine ⟨hm, fun left' t' heq => ?_⟩
    obtain ⟨-, rfl⟩ := State.word.inj heq
    exact ht
  have hopen {s : State} (hs : ∀ left t, s ≠ .word left t) :
      ∀ m' ∈ some (Machine.mk s m.tokens), m'.IsInRange := by
    rintro m' ⟨⟩
    exact ⟨hm, fun left t heq => absurd heq (hs left t)⟩
  refine (?_ : ∀ m' ∈ m.start b, m'.IsInRange) m' h
  rw [Machine.start]
  repeat' apply forall_mem_ite
  all_goals first
    | exact hone rfl
    | exact hword rfl
    | exact hopen (by simp)
    | simp

theorem isInRange_closeNumber {text : Bytes} (hm : m.IsInRange)
    (h : m.closeNumber text = some m') : m'.IsInRange := by
  obtain ⟨s, -, rfl⟩ := Option.map_eq_some_iff.mp h
  refine isInRange_idle hm.tokens fun n hn => ?_
  cases hvalue : s.value? with
  | none => simp [hvalue, numbers] at hn
  | some k =>
    rw [hvalue, numbers, List.mem_singleton] at hn
    exact hn ▸ Number.Spelling.isInRange_value? hvalue

/-- The numbers that are read are in range. -/
theorem Machine.IsInRange.step (hm : m.IsInRange) (h : m.step b = some m') : m'.IsInRange := by
  rw [Machine.step] at h
  split at h
  · exact isInRange_start hm.tokens h
  · split at h
    · simp at h
    · obtain rfl := Option.some.inj h
      exact ⟨hm.tokens, by simp⟩
    · obtain rfl := Option.some.inj h
      exact isInRange_idle hm.tokens (by simp [numbers])
  · split at h
    · obtain rfl := Option.some.inj h
      exact ⟨hm.tokens, by simp⟩
    · obtain ⟨m'', hclose, hstart⟩ := Option.bind_eq_some_iff.mp h
      exact isInRange_start (isInRange_closeNumber hm hclose).tokens hstart
  · next t hstate =>
    refine isInRange_start ?_ h
    exact (isInRange_idle hm.tokens (by simp [hm.word _ _ hstate])).tokens
  · next c t hstate =>
    split at h
    · obtain rfl := Option.some.inj h
      exact isInRange_idle hm.tokens (by simp [hm.word _ _ hstate])
    · simp at h
  · next c left t _ hstate =>
    split at h
    · obtain rfl := Option.some.inj h
      refine ⟨hm.tokens, fun left' t' heq => ?_⟩
      obtain ⟨-, rfl⟩ := State.word.inj heq
      exact hm.word _ _ hstate
    · simp at h

/-- **The numbers in the tokens of a text are in range.** -/
theorem isInRange_of_ofBytes? {text : Bytes} (h : ofBytes? text = some ts) :
    ∀ t ∈ ts, ∀ n ∈ t.numbers, n.IsInRange := by
  obtain ⟨m, hm, hfinish⟩ := Option.bind_eq_some_iff.mp h
  have hstart : Machine.IsInRange ⟨.idle, []⟩ := ⟨by simp, by simp⟩
  have hin : m.IsInRange :=
    foldlM_induction (Q := fun _ => True) (fun _ _ _ hm _ hstep => hm.step hstep)
      (fun _ _ => trivial) hstart hm
  rw [Machine.finish] at hfinish
  split at hfinish
  · obtain rfl := Option.some.inj hfinish
    simpa using hin.tokens
  · obtain ⟨m', hclose, rfl⟩ := Option.map_eq_some_iff.mp hfinish
    simpa using (isInRange_closeNumber hin hclose).tokens
  · simp at hfinish
  · simp at hfinish

end Steps

end Token

/-! ### Numbers of nodes -/

namespace Node

mutual

/-- The numbers of the node are in range. -/
def IsInRange : Node → Prop
  | .num (some n) => n.IsInRange
  | .arr items => AreInRangeItems items
  | .obj members => AreInRangeMembers members
  | _ => True

/-- The numbers of the nodes are in range. -/
def AreInRangeItems : List Node → Prop
  | [] => True
  | n :: ns => n.IsInRange ∧ AreInRangeItems ns

/-- The numbers of the members are in range. -/
def AreInRangeMembers : List (Option String × Node) → Prop
  | [] => True
  | (_, n) :: ms => n.IsInRange ∧ AreInRangeMembers ms

end

theorem areInRangeItems_iff {ns : List Node} :
    AreInRangeItems ns ↔ ∀ n ∈ ns, n.IsInRange := by
  induction ns with
  | nil => simp [AreInRangeItems]
  | cons n ns ih => simp [AreInRangeItems, ih]

theorem areInRangeMembers_iff {ms : List (Option String × Node)} :
    AreInRangeMembers ms ↔ ∀ p ∈ ms, p.2.IsInRange := by
  induction ms with
  | nil => simp [AreInRangeMembers]
  | cons p ms ih => simp [AreInRangeMembers, ih]

@[simp] theorem isInRange_arr {ns : List Node} :
    (Node.arr ns).IsInRange ↔ ∀ n ∈ ns, n.IsInRange := by
  rw [IsInRange, areInRangeItems_iff]

@[simp] theorem isInRange_obj {ms : List (Option String × Node)} :
    (Node.obj ms).IsInRange ↔ ∀ p ∈ ms, p.2.IsInRange := by
  rw [IsInRange, areInRangeMembers_iff]

/-- The numbers in what has been read of an open array or object are in range. -/
def Frame.IsInRange : Frame → Prop
  | .arr items => ∀ n ∈ items, n.IsInRange
  | .obj members _ => ∀ p ∈ members, p.2.IsInRange

/-- The numbers in what has been read of an object or a value are in range. -/
def Expects.IsInRange : Expects → Prop
  | .nameOrEnd members => ∀ p ∈ members, p.2.IsInRange
  | .name members => ∀ p ∈ members, p.2.IsInRange
  | .colon members _ => ∀ p ∈ members, p.2.IsInRange
  | .commaOrEnd last => last.IsInRange
  | _ => True

/-- **The numbers in a text read up to some token are in range.** -/
structure Partial.IsInRange (p : Partial) : Prop where
  /-- Those of the open arrays and objects. -/
  frames : ∀ f ∈ p.frames, f.IsInRange
  /-- Those of what has been read last. -/
  expects : p.expects.IsInRange

section Steps

variable {p p' : Partial} {t : Token} {frames : List Frame}

theorem isInRange_value (hframes : ∀ f ∈ frames, f.IsInRange)
    (ht : ∀ n ∈ t.numbers, n.IsInRange) (h : Partial.value frames t = some p') :
    p'.IsInRange := by
  cases t with
  | openBracket =>
    obtain rfl := Option.some.inj h
    exact ⟨List.forall_mem_cons.mpr ⟨by simp [Frame.IsInRange], hframes⟩, trivial⟩
  | openBrace =>
    obtain rfl := Option.some.inj h
    exact ⟨hframes, by simp [Expects.IsInRange]⟩
  | null =>
    obtain rfl := Option.some.inj h
    exact ⟨hframes, trivial⟩
  | bool b =>
    obtain rfl := Option.some.inj h
    exact ⟨hframes, trivial⟩
  | str s =>
    obtain rfl := Option.some.inj h
    exact ⟨hframes, trivial⟩
  | num n =>
    obtain rfl := Option.some.inj h
    cases n with
    | none => exact ⟨hframes, trivial⟩
    | some n => exact ⟨hframes, ht n (List.mem_singleton_self n)⟩
  | _ => simp [Partial.value] at h

/-- A token whose numbers are in range leads on to what is in range. -/
theorem Partial.IsInRange.step (hp : p.IsInRange) (ht : ∀ n ∈ t.numbers, n.IsInRange)
    (h : p.step t = some p') : p'.IsInRange := by
  obtain ⟨frames, expects⟩ := p
  obtain ⟨hframes, hexpects⟩ := hp
  unfold Partial.step at h
  simp only at h hframes hexpects
  split at h
  -- the end of an array just opened
  · split at h
    · next items frames =>
      obtain rfl := Option.some.inj h
      obtain ⟨hitems, hframes⟩ := List.forall_mem_cons.mp hframes
      exact ⟨hframes, isInRange_arr.mpr fun n hn => hitems n (List.mem_reverse.mp hn)⟩
    · simp at h
  -- a value, behind a bracket or elsewhere
  · exact isInRange_value hframes ht h
  · exact isInRange_value hframes ht h
  -- the end of an object just opened
  · obtain rfl := Option.some.inj h
    exact ⟨hframes, isInRange_obj.mpr fun p hp => hexpects p (List.mem_reverse.mp hp)⟩
  -- a name, and the colon behind it
  · obtain rfl := Option.some.inj h
    exact ⟨hframes, hexpects⟩
  · obtain rfl := Option.some.inj h
    exact ⟨hframes, hexpects⟩
  · obtain rfl := Option.some.inj h
    exact ⟨List.forall_mem_cons.mpr ⟨hexpects, hframes⟩, trivial⟩
  -- a comma
  · split at h
    · obtain rfl := Option.some.inj h
      obtain ⟨hitems, hframes⟩ := List.forall_mem_cons.mp hframes
      exact ⟨List.forall_mem_cons.mpr ⟨List.forall_mem_cons.mpr ⟨hexpects, hitems⟩, hframes⟩,
        trivial⟩
    · obtain rfl := Option.some.inj h
      obtain ⟨hmembers, hframes⟩ := List.forall_mem_cons.mp hframes
      exact ⟨hframes, List.forall_mem_cons.mpr ⟨hexpects, hmembers⟩⟩
    · simp at h
  -- the end of an array or object
  · split at h
    · obtain rfl := Option.some.inj h
      obtain ⟨hitems, hframes⟩ := List.forall_mem_cons.mp hframes
      refine ⟨hframes, isInRange_arr.mpr fun n hn => ?_⟩
      rcases List.mem_cons.mp (List.mem_reverse.mp hn) with rfl | hn
      · exact hexpects
      · exact hitems n hn
    · simp at h
  · split at h
    · obtain rfl := Option.some.inj h
      obtain ⟨hmembers, hframes⟩ := List.forall_mem_cons.mp hframes
      refine ⟨hframes, isInRange_obj.mpr fun p hp => ?_⟩
      rcases List.mem_cons.mp (List.mem_reverse.mp hp) with rfl | hp
      · exact hexpects
      · exact hmembers p hp
    · simp at h
  · simp at h

/-- **The numbers in the node of some tokens are in range.** -/
theorem isInRange_of_ofTokens? {ts : List Token} {n : Node}
    (hts : ∀ t ∈ ts, ∀ n ∈ t.numbers, n.IsInRange) (h : ofTokens? ts = some n) :
    n.IsInRange := by
  rw [ofTokens?] at h
  split at h
  · next last hlast =>
    obtain rfl := Option.some.inj h
    have hstart : Partial.IsInRange ⟨[], .value⟩ := ⟨by simp, trivial⟩
    have hin : Partial.IsInRange ⟨[], .commaOrEnd last⟩ :=
      foldlM_induction (fun _ _ _ hp ht hstep => hp.step ht hstep) hts hstart hlast
    exact hin.expects
  · simp at h

end Steps

/-! ### Values of nodes -/

mutual

/-- **The value of a node is sound**, if its numbers are in range. -/
theorem isSound_of_value? : ∀ (n : Node) (depth : Nat) (v : Json), n.IsInRange →
    n.value? depth = some v → v.IsSound
  | .null, _, _, _, h => by
    obtain rfl := Option.some.inj h
    trivial
  | .bool b, _, _, _, h => by
    obtain rfl := Option.some.inj h
    trivial
  | .num n, _, _, hn, h => by
    obtain ⟨k, rfl, rfl⟩ := Option.map_eq_some_iff.mp h
    exact hn
  | .str s, _, _, _, h => by
    obtain ⟨k, rfl, rfl⟩ := Option.map_eq_some_iff.mp h
    trivial
  | .arr items, depth, v, hn, h => by
    rw [value?] at h
    split at h
    · simp at h
    · obtain ⟨vs, hvs, rfl⟩ := Option.map_eq_some_iff.mp h
      exact areSoundItems_of_values? items (depth - 1) vs hn hvs
  | .obj members, depth, v, hn, h => by
    rw [value?] at h
    split at h
    · simp at h
    · obtain ⟨ms, hms, rfl⟩ := Option.map_eq_some_iff.mp h
      exact isSound_ofMembers (areSoundMembers_of_members? members (depth - 1) ms hn hms)

theorem areSoundItems_of_values? : ∀ (ns : List Node) (depth : Nat) (vs : List Json),
    AreInRangeItems ns → values? depth ns = some vs → AreSoundItems vs
  | [], _, _, _, h => by
    obtain rfl := Option.some.inj h
    trivial
  | n :: ns, depth, _, hns, h => by
    obtain ⟨v, hv, hrest⟩ := Option.bind_eq_some_iff.mp h
    obtain ⟨vs, hvs, rfl⟩ := Option.map_eq_some_iff.mp hrest
    exact ⟨isSound_of_value? n depth v hns.1 hv, areSoundItems_of_values? ns depth vs hns.2 hvs⟩

theorem areSoundMembers_of_members? : ∀ (ms : List (Option String × Node)) (depth : Nat)
    (vs : List (String × Json)), AreInRangeMembers ms → members? depth ms = some vs →
      AreSoundMembers vs
  | [], _, _, _, h => by
    obtain rfl := Option.some.inj h
    trivial
  | (key, n) :: ms, depth, _, hms, h => by
    obtain ⟨k, rfl, hkey⟩ := Option.bind_eq_some_iff.mp h
    obtain ⟨v, hv, hrest⟩ := Option.bind_eq_some_iff.mp hkey
    obtain ⟨vs, hvs, rfl⟩ := Option.map_eq_some_iff.mp hrest
    exact ⟨isSound_of_value? n depth v hms.1 hv,
      areSoundMembers_of_members? ms depth vs hms.2 hvs⟩

end

end Node

/-- **Whatever is read is sound.** -/
theorem isSound_of_read? {text : Bytes} {v : Json} (h : read? text = some v) : v.IsSound := by
  obtain ⟨n, hn, hvalue⟩ := Option.bind_eq_some_iff.mp h
  obtain ⟨ts, hts, hnode⟩ := Option.bind_eq_some_iff.mp hn
  exact Node.isSound_of_value? n _ v
    (Node.isInRange_of_ofTokens? (Token.isInRange_of_ofBytes? hts) hnode) hvalue

end Json

end LogWatch
