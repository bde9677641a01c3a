import LogWatch.Proofs.Delivery.Spool

/-!
# A spool that many use

Reports are added to a spool, and passes over it are called for, at any time and by anyone. A call
waits until no pass is under way and begins one; calls are served in their order. Between any two
steps of a pass reports may be added and further calls made.

To say that nothing gets lost and nothing is delivered twice, entries have to be told apart even if
they look the same. They are **numbered** in the order in which they came to be in the file, and
`LogWatch.Spool.Account` keeps the books: which entries have been taken by the receiver or
discarded, which have still to be delivered, and of every attempt which entry it was about. The
books are not made up: without the numbers they are what can be observed
(`LogWatch.Spool.Account.tried_eq`, `LogWatch.Spool.Account.lost_eq`).

Two calls may both send one entry: when the first has failed with it, the second finds it in the
file (`LogWatch.Spool.exists_sent_twice`). They never both deliver it.
-/

namespace LogWatch

namespace Spool

/-! ### Calls and what is observed of them -/

/-- A spool with the calls for passes over it. -/
structure Shared where
  /-- The spool. -/
  spool : Spool
  /-- So many passes have been called for. -/
  called : Nat
  /-- So many of them have begun. The pass under way, if there is one, is the last of them. -/
  begun : Nat

/-- Something that happens to a shared spool. -/
inductive Event
  /-- A report is added. -/
  | enqueued (r : Report)
  /-- A pass is called for. -/
  | called
  /-- The next pass that has been called for begins. -/
  | begun
  /-- The pass gets on with its work. -/
  | advanced
  /-- The receiver has taken the report of the pass, or has not. -/
  | answered (ok : Bool)

namespace Shared

/-- The state after an event, if the event can take place. -/
def step (s : Shared) : Event → Option Shared
  | .enqueued r => some { s with spool := s.spool.enqueue r }
  | .called => some { s with called := s.called + 1 }
  | .begun =>
    if s.spool.pass.isNone && decide (s.begun < s.called) then
      match s.spool.begin with
      | .ok spool => some { s with spool, begun := s.begun + 1 }
      | .error _ => some { s with begun := s.begun + 1 }
    else none
  | .advanced =>
    if s.spool.pass.any fun p => p.sending.isNone then
      some { s with spool := s.spool.advance }
    else none
  | .answered ok =>
    if s.spool.sending?.isSome then some { s with spool := s.spool.answer ok } else none

/-- The state after a sequence of events, if each of them can take place. -/
def run : Shared → List Event → Option Shared
  | s, [] => some s
  | s, e :: es =>
    match step s e with
    | some s => run s es
    | none => none

end Shared

/-- An event of a run, with the state before it. -/
structure Turn where
  /-- The state before the event. -/
  before : Shared
  /-- The event. -/
  event : Event

/-- The events of a run, each with the state before it. -/
def history : Shared → List Event → List Turn
  | _, [] => []
  | s, e :: es =>
    match s.step e with
    | some t => ⟨s, e⟩ :: history t es
    | none => []

/-- A line that a pass has sent, and what came of it. -/
structure Sent where
  /-- The number of the call. -/
  call : Nat
  /-- The line. -/
  line : Bytes
  /-- The receiver has taken the report. -/
  ok : Bool
  deriving DecidableEq

namespace Turn

/-- The report that is added at an event. -/
def enqueued? (t : Turn) : Option Report :=
  match t.event with
  | .enqueued r => some r
  | _ => none

/-- What has been sent when the receiver answers. -/
def sent? (t : Turn) : Option Sent :=
  match t.event with
  | .answered ok =>
    t.before.spool.pass.bind fun p => p.sending.map fun (line, _) => ⟨t.before.begun, line, ok⟩
  | _ => none

/-- The line that a pass discards at an event. -/
def discarded? (t : Turn) : Option Bytes :=
  match t.event with
  | .advanced =>
    t.before.spool.pass.bind fun p => p.remaining.head?.filter fun line =>
      (Report.read? line).isNone
  | _ => none

/-- A pass begins. -/
def begins (t : Turn) : Bool :=
  match t.event with
  | .begun => true
  | _ => false

end Turn

/-- The reports that were added. -/
def enqueued (h : List Turn) : List Report := h.filterMap Turn.enqueued?

/-- What the passes have sent. -/
def sent (h : List Turn) : List Sent := h.filterMap Turn.sent?

/-- What the passes have discarded. -/
def discarded (h : List Turn) : List Bytes := h.filterMap Turn.discarded?

/-- What happened since the last pass began. -/
def sinceBegun (h : List Turn) : List Turn := (h.reverse.takeWhile fun t => !t.begins).reverse

/-! ### The books -/

/-- An entry of the file with its number. -/
abbrev Item := Bytes × Nat

/-- All entries there have ever been: those of the file at first, and the reports added. -/
def written (start : List Bytes) (h : List Turn) : List Item :=
  (start ++ (enqueued h).map reportLine).zipIdx

/-- An attempt to deliver an entry. -/
structure Attempt where
  /-- The number of the call. -/
  call : Nat
  /-- The entry. -/
  item : Item
  /-- The receiver has taken the report. -/
  ok : Bool

/-- What is seen of an attempt. -/
def Attempt.sent (a : Attempt) : Sent := ⟨a.call, a.item.1, a.ok⟩

/-- The entries that the receiver has taken. -/
def accepted (tried : List Attempt) : List Item :=
  tried.filterMap fun a => if a.ok then some a.item else none

/-- **The books of a shared spool**: `live` are the entries that have still to be delivered, `tried`
the attempts, and `lost` the entries that were discarded. -/
structure Account (start : List Bytes) (h : List Turn) (s : Shared) (live : List Item)
    (tried : List Attempt) (lost : List Item) : Prop where
  /-- The spool is in order. -/
  inOrder : s.spool.IsInOrder
  /-- What has still to be delivered is what the spool has to deliver. -/
  live_eq : live.map Prod.fst = s.spool.unsettled
  /-- It keeps its order and its text. -/
  sublist : live.Sublist (written start h)
  /-- **Every entry is in one place**: it has still to be delivered, was taken or was discarded. -/
  perm : (live ++ accepted tried ++ lost).Perm (written start h)
  /-- The attempts are what was sent. -/
  tried_eq : tried.map Attempt.sent = sent h
  /-- What was lost is what was discarded. -/
  lost_eq : lost.map Prod.fst = discarded h
  /-- Only what is no report was discarded. -/
  unread : ∀ item ∈ lost, Report.read? item.1 = none
  /-- Attempts are about entries, and belong to calls that have begun. -/
  known : ∀ a ∈ tried, a.call ≤ s.begun ∧ a.item ∈ written start h
  /-- **Calls are served one after the other and send entries in their order; an entry is sent again
  only if it has failed.** -/
  ordered : tried.Pairwise fun a b =>
    a.call ≤ b.call ∧ (a.call = b.call → a.item.2 < b.item.2) ∧ (a.item = b.item → a.ok = false)
  /-- What a pass has still to look at comes after what it has sent. -/
  ahead : ∀ p, s.spool.pass = some p → ∀ a ∈ tried, a.call = s.begun →
    ∀ item ∈ live.drop p.kept.length, a.item.2 < item.2
  /-- **A pass sends the reports of its snapshot in the order of the file.** -/
  inTurn : ∀ p, s.spool.pass = some p →
    ((tried.filter fun a => a.call = s.begun).map fun a => a.item.1) ++
      ((p.sending.map Prod.fst).toList ++ p.remaining).filter isReport =
        (entries p.snapshot).filter isReport
  /-- What was added since a pass began stands behind its snapshot. -/
  gain : ∀ p, s.spool.pass = some p →
    s.spool.octets = p.snapshot ++ (enqueued (sinceBegun h)).flatMap lineOf

section Snoc

variable (start : List Bytes) (h : List Turn) (t : Turn)

theorem enqueued_snoc : enqueued (h ++ [t]) = enqueued h ++ t.enqueued?.toList := by
  simp [enqueued, List.filterMap_eq_flatMap_toList]

theorem sent_snoc : sent (h ++ [t]) = sent h ++ t.sent?.toList := by
  simp [sent, List.filterMap_eq_flatMap_toList]

theorem discarded_snoc : discarded (h ++ [t]) = discarded h ++ t.discarded?.toList := by
  simp [discarded, List.filterMap_eq_flatMap_toList]

theorem written_snoc_of_none (ht : t.enqueued? = none) :
    written start (h ++ [t]) = written start h := by
  rw [written, enqueued_snoc, ht]
  simp [written]

theorem sinceBegun_snoc (ht : t.begins = false) : sinceBegun (h ++ [t]) = sinceBegun h ++ [t] := by
  simp [sinceBegun, ht]

theorem sinceBegun_snoc_of_begins (ht : t.begins = true) : sinceBegun (h ++ [t]) = [] := by
  simp [sinceBegun, ht]

/-- The entries are in the order of their numbers. -/
theorem pairwise_written : (written start h).Pairwise fun a b => a.2 < b.2 := by
  rw [← List.pairwise_map (f := Prod.snd) (R := (· < ·)), written, List.zipIdx_map_snd]
  exact List.pairwise_lt_range'

theorem nodup_written : (written start h).Nodup :=
  (pairwise_written start h).imp fun hlt heq => absurd (heq ▸ hlt) (Nat.lt_irrefl _)

end Snoc

section Books

variable {start : List Bytes} {h : List Turn} {s s' : Shared} {live : List Item}
  {tried : List Attempt} {lost : List Item} {t : Turn} {p : Pass} {line : Bytes}
  {rest : List Bytes} {looked : List Bytes} {added : Bytes}

theorem accepted_snoc (a : Attempt) :
    accepted (tried ++ [a]) = accepted tried ++ (if a.ok then [a.item] else []) := by
  rw [accepted, List.filterMap_append]
  cases ha : a.ok <;> simp [accepted, ha]

/-- The books before anything has happened. -/
theorem account_new {spool : Spool} (hs : spool.IsInOrder) (hp : spool.pass = none) :
    Account (entries spool.octets) [] ⟨spool, 0, 0⟩ (entries spool.octets).zipIdx [] [] where
  inOrder := hs
  live_eq := by rw [List.zipIdx_map_fst, unsettled_of_none hp]
  sublist := by simp [written, enqueued]
  perm := by simp [written, enqueued, accepted]
  tried_eq := rfl
  lost_eq := rfl
  unread := by simp
  known := by simp
  ordered := List.Pairwise.nil
  ahead p hp' := by simp [hp] at hp'
  inTurn p hp' := by simp [hp] at hp'
  gain p hp' := by simp [hp] at hp'

/-! ### One event -/

/-- Nothing of an event is observed. -/
structure Turn.IsQuiet (t : Turn) : Prop where
  enqueued : t.enqueued? = none
  sent : t.sent? = none
  discarded : t.discarded? = none
  begins : t.begins = false

/-- An event of which nothing is observed leaves the books as they are. -/
theorem Account.quiet (ha : Account start h s live tried lost) (ht : t.IsQuiet)
    (hbegun : s'.begun = s.begun) (hin : s'.spool.IsInOrder)
    (hunsettled : s'.spool.unsettled = s.spool.unsettled)
    (hpass : ∀ p', s'.spool.pass = some p' → ∃ p, s.spool.pass = some p ∧ p'.kept = p.kept ∧
      p'.snapshot = p.snapshot ∧ s'.spool.octets = s.spool.octets ∧
      (p'.sending.map Prod.fst).toList ++ p'.remaining =
        (p.sending.map Prod.fst).toList ++ p.remaining) :
    Account start (h ++ [t]) s' live tried lost := by
  have hwritten := written_snoc_of_none start h t ht.enqueued
  -- no entry is written, sent or discarded, so only the pass has to be looked at
  refine ⟨hin, ha.live_eq.trans hunsettled.symm, ?_, ?_, ?_, ?_, ha.unread, ?_, ha.ordered, ?_, ?_,
    ?_⟩
  · rw [hwritten]
    exact ha.sublist
  · rw [hwritten]
    exact ha.perm
  · rw [sent_snoc, ht.sent, ha.tried_eq]
    simp
  · rw [discarded_snoc, ht.discarded, ha.lost_eq]
    simp
  · rw [hwritten, hbegun]
    exact ha.known
  · intro p' hp'
    obtain ⟨p, hp, hkept, -⟩ := hpass p' hp'
    rw [hkept, hbegun]
    exact ha.ahead p hp
  · intro p' hp'
    obtain ⟨p, hp, -, hsnapshot, -, hlines⟩ := hpass p' hp'
    rw [hsnapshot, hbegun, hlines]
    exact ha.inTurn p hp
  · intro p' hp'
    obtain ⟨p, hp, -, hsnapshot, hoctets, -⟩ := hpass p' hp'
    rw [hsnapshot, hoctets, sinceBegun_snoc h t ht.begins, enqueued_snoc, ht.enqueued]
    simpa using ha.gain p hp

/-- A report that is added gets the next number. -/
theorem Account.enqueued (ha : Account start h s live tried lost) (r : Report) :
    Account start (h ++ [⟨s, .enqueued r⟩]) { s with spool := s.spool.enqueue r }
      (live ++ [(reportLine r, start.length + (enqueued h).length)]) tried lost := by
  have hwritten : written start (h ++ [⟨s, .enqueued r⟩]) =
      written start h ++ [(reportLine r, start.length + (Spool.enqueued h).length)] := by
    rw [written, enqueued_snoc, Turn.enqueued?, Option.toList_some, List.map_append,
      ← List.append_assoc, List.zipIdx_append, written]
    simp
  have hlt : ∀ item ∈ written start h,
      item.2 < start.length + (Spool.enqueued h).length := by
    intro item hitem
    have := List.snd_lt_of_mem_zipIdx hitem
    simpa using this
  refine ⟨ha.inOrder.enqueue r, ?_, ?_, ?_, ?_, ?_, ha.unread, ?_, ha.ordered, ?_, ha.inTurn, ?_⟩
  · rw [List.map_append, ha.live_eq, ha.inOrder.unsettled_enqueue]
    rfl
  · rw [hwritten]
    exact ha.sublist.append (List.Sublist.refl _)
  · rw [hwritten]
    refine List.Perm.trans ?_ (ha.perm.append_right _)
    rw [List.perm_iff_count]
    intro item
    simp only [List.count_append]
    omega
  · rw [sent_snoc, ha.tried_eq]
    exact (List.append_nil _).symm
  · rw [discarded_snoc, ha.lost_eq]
    exact (List.append_nil _).symm
  · rw [hwritten]
    intro a hmem
    exact ⟨(ha.known a hmem).1, List.mem_append_left _ (ha.known a hmem).2⟩
  -- the new entry has a greater number than any that was sent
  · intro p hp a hmem hcall item hitem
    rw [List.drop_append, List.mem_append] at hitem
    rcases hitem with hitem | hitem
    · exact ha.ahead p hp a hmem hcall item hitem
    · obtain rfl := List.mem_singleton.mp (List.mem_of_mem_drop hitem)
      exact hlt _ (ha.known a hmem).2
  · intro p hp
    rw [sinceBegun_snoc h _ rfl, enqueued_snoc, Turn.enqueued?, Option.toList_some,
      List.flatMap_append, ← List.append_assoc, ← ha.gain p hp, octets_enqueue]
    simp

/-- A pass that begins has sent nothing. -/
theorem Account.begun (ha : Account start h s live tried lost) (hp : s.spool.pass = none) :
    Account start (h ++ [⟨s, .begun⟩])
      { s with
        spool := { s.spool with pass := some (Pass.starting s.spool.octets) }
        begun := s.begun + 1 } live tried lost := by
  have hwritten := written_snoc_of_none start h ⟨s, .begun⟩ rfl
  have hbefore : ∀ a ∈ tried, a.call ≠ s.begun + 1 := fun a hmem heq => by
    have := (ha.known a hmem).1
    omega
  refine ⟨ha.inOrder.withPass (Pass.tracks_starting ha.inOrder.proper), ?_, ?_, ?_, ?_, ?_,
    ha.unread, ?_, ha.ordered, ?_, ?_, ?_⟩
  · rw [ha.live_eq, ha.inOrder.unsettled_begin hp]
  · rw [hwritten]
    exact ha.sublist
  · rw [hwritten]
    exact ha.perm
  · rw [sent_snoc, ha.tried_eq]
    exact (List.append_nil _).symm
  · rw [discarded_snoc, ha.lost_eq]
    exact (List.append_nil _).symm
  · rw [hwritten]
    exact fun a hmem => ⟨Nat.le_succ_of_le (ha.known a hmem).1, (ha.known a hmem).2⟩
  · exact fun p _ a hmem hcall => absurd hcall (hbefore a hmem)
  · intro p hp'
    obtain rfl := Option.some.inj hp'
    have hnone : (tried.filter fun a => a.call = s.begun + 1) = [] :=
      List.filter_eq_nil_iff.mpr fun a hmem => by simpa using hbefore a hmem
    simp only [hnone]
    rfl
  · intro p hp'
    obtain rfl := Option.some.inj hp'
    rw [sinceBegun_snoc_of_begins h _ rfl]
    exact (List.append_nil _).symm

/-- The entry that a pass looks at is the first one behind those that it keeps. -/
theorem Account.exists_split (ha : Account start h s live tried lost)
    (hunsettled : s.spool.unsettled = p.kept.reverse ++ line :: rest) :
    ∃ before n after, live = before ++ (line, n) :: after ∧ before.length = p.kept.length ∧
      before.map Prod.fst = p.kept.reverse ∧ after.map Prod.fst = rest ∧
      ∀ item ∈ after, n < item.2 := by
  -- the unsettled lines are cut in three; the entries are cut at the same places
  have hlive := ha.live_eq
  rw [hunsettled] at hlive
  obtain ⟨before, behind, rfl, hbefore, hbehind⟩ := List.map_eq_append_iff.mp hlive
  obtain ⟨⟨line', n⟩, after, rfl, hline, hafter⟩ := List.map_eq_cons_iff.mp hbehind
  obtain rfl : line' = line := hline
  refine ⟨before, n, after, rfl, ?_, hbefore, hafter, fun item hitem => ?_⟩
  · rw [← List.length_map Prod.fst, hbefore, List.length_reverse]
  · have hpair := (pairwise_written start h).sublist ha.sublist
    exact (List.pairwise_cons.mp (List.pairwise_append.mp hpair).2.1).1 item hitem

/-- What is not to be delivered any more has been taken or discarded, and no more than once. -/
theorem Account.not_mem_accepted (ha : Account start h s live tried lost) {item : Item}
    (hitem : item ∈ live) : item ∉ accepted tried := by
  have hnodup := ha.perm.nodup_iff.mpr (nodup_written start h)
  rw [List.append_assoc] at hnodup
  exact fun hmem => (List.nodup_append.mp hnodup).2.2 item hitem item
    (List.mem_append_left _ hmem) rfl

/-- An attempt is entered into the books. -/
theorem Account.ordered_snoc (ha : Account start h s live tried lost)
    (hp : s.spool.pass = some p) {item : Item} (hitem : item ∈ live.drop p.kept.length)
    (ok : Bool) :
    (tried ++ [Attempt.mk s.begun item ok]).Pairwise fun a b =>
      a.call ≤ b.call ∧ (a.call = b.call → a.item.2 < b.item.2) ∧
        (a.item = b.item → a.ok = false) := by
  refine List.pairwise_append.mpr ⟨ha.ordered, List.pairwise_singleton _ _, fun a hmem b hb => ?_⟩
  obtain rfl := List.mem_singleton.mp hb
  -- had `a` been taken, its entry would not be left to deliver
  refine ⟨(ha.known a hmem).1, fun hcall => ha.ahead p hp a hmem hcall item hitem, fun heq => ?_⟩
  refine Bool.eq_false_iff.mpr fun hok => ?_
  refine ha.not_mem_accepted (List.mem_of_mem_drop hitem) ?_
  refine List.mem_filterMap.mpr ⟨a, hmem, ?_⟩
  rw [if_pos hok, heq]

/-- A line that is no report is lost. -/
theorem Account.discards (ha : Account start h s live tried lost) (hp : s.spool.pass = some p)
    (ht : p.Tracks s.spool.octets looked added) (hs : p.sending = none)
    (hrest : p.remaining = line :: rest) (hread : Report.read? line = none) :
    ∃ live' lost', Account start (h ++ [⟨s, .advanced⟩])
      { s with spool := { s.spool with pass := some (p.discarded rest) } } live' tried lost' := by
  obtain ⟨hunsettled, hafter⟩ := ht.unsettled_discarded hp hs hrest
  obtain ⟨before, n, after, rfl, hlength, hbefore, hmap, hlt⟩ := ha.exists_split hunsettled
  have hwritten := written_snoc_of_none start h ⟨s, .advanced⟩ rfl
  refine ⟨before ++ after, lost ++ [(line, n)], ha.inOrder.withPass (ht.discarded hs hrest),
    ?_, ?_, ?_, ?_, ?_, ?_, ?_, ha.ordered, ?_, ?_, ?_⟩
  · rw [hafter, List.map_append, hbefore, hmap]
  · rw [hwritten]
    refine List.Sublist.trans ?_ ha.sublist
    exact (List.Sublist.refl _).append (List.sublist_cons_self _ _)
  · rw [hwritten]
    refine List.Perm.trans ?_ ha.perm
    rw [List.perm_iff_count]
    intro item
    simp only [List.count_append, List.count_cons, List.count_nil]
    omega
  · rw [sent_snoc, ha.tried_eq]
    exact (List.append_nil _).symm
  · have hdiscarded : (Turn.mk s .advanced).discarded? = some line := by
      simp [Turn.discarded?, hp, hrest, Option.filter, hread]
    rw [discarded_snoc, hdiscarded, List.map_append, ha.lost_eq]
    rfl
  · intro item hitem
    rcases List.mem_append.mp hitem with hitem | hitem
    · exact ha.unread item hitem
    · obtain rfl := List.mem_singleton.mp hitem
      exact hread
  · rw [hwritten]
    exact ha.known
  · intro p' hp' a hmem hcall item hitem
    obtain rfl := Option.some.inj hp'
    refine ha.ahead p hp a hmem hcall item ?_
    rw [← hlength, List.drop_left]
    change item ∈ (before ++ after).drop p.kept.length at hitem
    rw [← hlength, List.drop_left] at hitem
    exact List.mem_cons_of_mem _ hitem
  · intro p' hp'
    obtain rfl := Option.some.inj hp'
    have hturn := ha.inTurn p hp
    have hno : isReport line = false := by rw [isReport, hread]; rfl
    rw [hrest, hs] at hturn
    simpa [Pass.discarded, hs, hno] using hturn
  · intro p' hp'
    obtain rfl := Option.some.inj hp'
    rw [sinceBegun_snoc h _ rfl, enqueued_snoc]
    exact (ha.gain p hp).trans (by simp [Turn.enqueued?, Pass.discarded])

/-- An answer is entered into the books. -/
theorem Account.tries (ha : Account start h s live tried lost) (hp : s.spool.pass = some p)
    (hs : p.sending.map Prod.fst = some line) {ok : Bool} {n : Nat} {live' : List Item}
    (hin : (s.spool.answer ok).IsInOrder)
    (hitem : (line, n) ∈ live.drop p.kept.length)
    (hlive : live'.map Prod.fst = (s.spool.answer ok).unsettled) (hsub : live'.Sublist live)
    (hperm : (live' ++ if ok then [(line, n)] else []).Perm live)
    (hdrop : ∀ item ∈ live'.drop (p.conclude ok).kept.length,
      item ∈ live.drop p.kept.length ∧ n < item.2) :
    Account start (h ++ [⟨s, .answered ok⟩]) { s with spool := s.spool.answer ok } live'
      (tried ++ [⟨s.begun, (line, n), ok⟩]) lost := by
  obtain ⟨⟨line', r⟩, hsending, rfl⟩ := Option.map_eq_some_iff.mp hs
  have hwritten := written_snoc_of_none start h ⟨s, .answered ok⟩ rfl
  have hordered := ha.ordered_snoc hp hitem ok
  obtain ⟨hsnapshot, hremaining, hnone⟩ : (p.conclude ok).snapshot = p.snapshot ∧
      (p.conclude ok).remaining = p.remaining ∧ (p.conclude ok).sending = none := by
    rw [Pass.conclude, hsending]
    cases ok <;> exact ⟨rfl, rfl, rfl⟩
  refine ⟨hin, hlive, ?_, ?_, ?_, ?_, ha.unread, ?_, hordered, ?_, ?_, ?_⟩
  · rw [hwritten]
    exact hsub.trans ha.sublist
  · rw [hwritten, accepted_snoc]
    refine List.Perm.trans ?_ ha.perm
    rw [List.perm_iff_count] at hperm ⊢
    intro item
    have := hperm item
    simp only [List.count_append] at this ⊢
    omega
  · have hsent : (Turn.mk s (.answered ok)).sent? = some ⟨s.begun, line', ok⟩ := by
      simp [Turn.sent?, hp, hsending]
    rw [sent_snoc, hsent, List.map_append, ha.tried_eq]
    rfl
  · rw [discarded_snoc, ha.lost_eq]
    exact (List.append_nil _).symm
  · rw [hwritten]
    intro a hmem
    rcases List.mem_append.mp hmem with hmem | hmem
    · exact ha.known a hmem
    · obtain rfl := List.mem_singleton.mp hmem
      exact ⟨Nat.le_refl _, ha.sublist.subset (List.mem_of_mem_drop hitem)⟩
  · intro p' hp' a hmem hcall item hi
    rw [answer_eq hp] at hp'
    obtain rfl := Option.some.inj hp'
    obtain ⟨hi, hlt⟩ := hdrop item hi
    rcases List.mem_append.mp hmem with hmem | hmem
    · exact ha.ahead p hp a hmem hcall item hi
    · obtain rfl := List.mem_singleton.mp hmem
      exact hlt
  · intro p' hp'
    rw [answer_eq hp] at hp'
    obtain rfl := Option.some.inj hp'
    obtain ⟨looked, added, ht⟩ := ha.inOrder.pass p hp
    have hyes : isReport line' = true := by rw [isReport, ht.reads line' r hsending]; rfl
    have hturn := ha.inTurn p hp
    rw [hsending] at hturn
    rw [hsnapshot, hremaining, hnone, ← hturn]
    simp [hyes]
  · intro p' hp'
    rw [answer_eq hp] at hp' ⊢
    obtain rfl := Option.some.inj hp'
    rw [hsnapshot, sinceBegun_snoc h _ rfl, enqueued_snoc]
    exact (ha.gain p hp).trans (by simp [Turn.enqueued?])

/-- **An entry that the receiver takes is delivered, and one that it does not stays.** -/
theorem Account.answered (ha : Account start h s live tried lost) (hp : s.spool.pass = some p)
    {r : Report} (hs : p.sending = some (line, r)) (ok : Bool) :
    ∃ live' tried', Account start (h ++ [⟨s, .answered ok⟩])
      { s with spool := s.spool.answer ok } live' tried' lost := by
  obtain ⟨looked, added, ht⟩ := ha.inOrder.pass p hp
  obtain ⟨hunsettled, htaken⟩ := ht.unsettled_taken hp hs
  obtain ⟨before, n, after, rfl, hlength, hbefore, hmap, hlt⟩ := ha.exists_split hunsettled
  have hbehind : (before ++ (line, n) :: after).drop p.kept.length = (line, n) :: after := by
    rw [← hlength, List.drop_left]
  have hitem : (line, n) ∈ (before ++ (line, n) :: after).drop p.kept.length := by
    rw [hbehind]
    exact List.mem_cons_self
  have hline : p.sending.map Prod.fst = some line := by rw [hs]; rfl
  cases ok with
  | true =>
    have hin := ha.inOrder.withPass (ht.taken hs)
    rw [← answer_eq hp] at hin
    have hkept : (p.conclude true).kept = p.kept := by rw [Pass.conclude, hs]; rfl
    -- the entry is taken: it leaves the entries that are to be delivered
    refine ⟨before ++ after, _, ha.tries hp hline hin hitem ?_ ?_ ?_ fun item hi => ?_⟩
    · rw [htaken, List.map_append, hbefore, hmap]
    · exact (List.Sublist.refl _).append (List.sublist_cons_self _ _)
    · rw [if_pos rfl, List.append_assoc]
      exact (List.perm_append_singleton _ _).append_left _
    · rw [hkept, ← hlength, List.drop_left] at hi
      rw [hbehind]
      exact ⟨List.mem_cons_of_mem _ hi, hlt item hi⟩
  | false =>
    have hin := ha.inOrder.withPass (ht.failed hs)
    rw [← answer_eq hp] at hin
    have hkept : (p.conclude false).kept = line :: p.kept := by rw [Pass.conclude, hs]; rfl
    have hfailed := (ht.unsettled_failed hp hs).2
    -- the entry is kept: it stays where it is, behind those kept before
    refine ⟨before ++ (line, n) :: after, _, ha.tries hp hline hin hitem ?_ (List.Sublist.refl _)
      ?_ fun item hi => ?_⟩
    · rw [hfailed, ← ha.live_eq]
    · rw [if_neg Bool.false_ne_true, List.append_nil]
    · rw [hkept, List.length_cons, ← List.drop_drop, hbehind, List.drop_one, List.tail_cons] at hi
      rw [hbehind]
      exact ⟨List.mem_cons_of_mem _ hi, hlt item hi⟩

/-- If the file had no carriage returns at first, what has still to be delivered has none. -/
theorem Account.not_mem_unsettled (ha : Account start h s live tried lost)
    (hstart : ∀ line ∈ start, 13 ∉ line) : ∀ line ∈ s.spool.unsettled, 13 ∉ line := by
  intro line hline
  rw [← ha.live_eq] at hline
  obtain ⟨item, hitem, rfl⟩ := List.mem_map.mp hline
  have hwritten : item.1 ∈ start ++ (Spool.enqueued h).map reportLine :=
    List.fst_mem_of_mem_zipIdx (ha.sublist.subset hitem)
  rcases List.mem_append.mp hwritten with hmem | hmem
  · exact hstart _ hmem
  · obtain ⟨r, -, hr⟩ := List.mem_map.mp hmem
    rw [← hr]
    exact not_mem_reportLine r (by decide)

/-- What a pass does by itself, it does by the books. -/
theorem Account.advanced (ha : Account start h s live tried lost)
    (hstart : ∀ line ∈ start, 13 ∉ line) (hp : s.spool.pass = some p) (hs : p.sending = none) :
    ∃ live' lost', Account start (h ++ [⟨s, .advanced⟩])
      { s with spool := s.spool.advance } live' tried lost' := by
  obtain ⟨looked, added, ht⟩ := ha.inOrder.pass p hp
  have hquiet (hnone : (Turn.mk s .advanced).discarded? = none) :
      (Turn.mk s .advanced).IsQuiet := ⟨rfl, rfl, hnone, rfl⟩
  rcases advance_cases hp hs with ⟨hrest, hadvance⟩ | ⟨line, rest, r, hrest, hread, hadvance⟩ |
    ⟨line, rest, hrest, hread, hadvance⟩
  · obtain ⟨t, hfinish, hin, hnone, -, hbefore, hafter⟩ := ha.inOrder.finish hp ht hs hrest
    -- without carriage returns, what is kept is read as it was
    have hread : p.kept.reverse.map Lines.asRead = p.kept.reverse := by
      refine (List.map_congr_left fun line hline => ?_).trans (List.map_id _)
      refine Lines.asRead_of_not_mem (ha.not_mem_unsettled hstart line ?_)
      rw [hbefore]
      exact List.mem_append_left _ hline
    rw [hread, ← hbefore] at hafter
    rw [hadvance, hfinish]
    refine ⟨live, lost, ha.quiet (hquiet ?_) rfl hin hafter fun p' hp' => ?_⟩
    · simp [Turn.discarded?, hp, hrest]
    · simp [hnone] at hp'
  · rw [hadvance]
    refine ⟨live, lost, ha.quiet (hquiet ?_) rfl
      (ha.inOrder.withPass (ht.sent hs hrest hread)) (ht.unsettled_sent hp hs hrest hread)
      fun p' hp' => ⟨p, hp, ?_⟩⟩
    · simp [Turn.discarded?, hp, hrest, Option.filter, hread]
    · obtain rfl := Option.some.inj hp'
      refine ⟨rfl, rfl, rfl, ?_⟩
      rw [hs, hrest]
      rfl
  · rw [hadvance]
    obtain ⟨live', lost', ha'⟩ := ha.discards hp ht hs hrest hread
    exact ⟨live', lost', ha'⟩

/-- **The books are kept at every event.** -/
theorem Account.step (ha : Account start h s live tried lost)
    (hstart : ∀ line ∈ start, 13 ∉ line) {e : Event} {t : Shared} (hstep : s.step e = some t) :
    ∃ live' tried' lost', Account start (h ++ [⟨s, e⟩]) t live' tried' lost' := by
  cases e with
  | enqueued r =>
    obtain rfl := Option.some.inj hstep
    exact ⟨_, _, _, ha.enqueued r⟩
  | called =>
    obtain rfl := Option.some.inj hstep
    exact ⟨_, _, _, ha.quiet ⟨rfl, rfl, rfl, rfl⟩ rfl ha.inOrder rfl
      fun p' hp' => ⟨p', hp', rfl, rfl, rfl, rfl⟩⟩
  | begun =>
    rw [Shared.step] at hstep
    split at hstep
    · next hfree =>
      rw [Bool.and_eq_true, Option.isNone_iff_eq_none] at hfree
      rw [ha.inOrder.begin_eq] at hstep
      obtain rfl := Option.some.inj hstep
      exact ⟨_, _, _, ha.begun hfree.1⟩
    · simp at hstep
  | advanced =>
    rw [Shared.step] at hstep
    split at hstep
    · next hfree =>
      obtain rfl := Option.some.inj hstep
      obtain ⟨p, hp, hs⟩ : ∃ p, s.spool.pass = some p ∧ p.sending = none := by
        simpa [Option.any_eq_true] using hfree
      obtain ⟨live', lost', ha'⟩ := ha.advanced hstart hp hs
      exact ⟨live', tried, lost', ha'⟩
    · simp at hstep
  | answered ok =>
    rw [Shared.step] at hstep
    split at hstep
    · next hwaits =>
      obtain rfl := Option.some.inj hstep
      obtain ⟨r, hr⟩ := Option.isSome_iff_exists.mp hwaits
      obtain ⟨p, hp, hsending⟩ := Option.bind_eq_some_iff.mp hr
      obtain ⟨⟨line, r'⟩, hs, rfl⟩ := Option.map_eq_some_iff.mp hsending
      obtain ⟨live', tried', ha'⟩ := ha.answered hp hs ok
      exact ⟨live', tried', lost, ha'⟩
    · simp at hstep

/-- The books are kept along every run. -/
theorem Account.run (ha : Account start h s live tried lost)
    (hstart : ∀ line ∈ start, 13 ∉ line) {es : List Event} {t : Shared}
    (hrun : s.run es = some t) :
    ∃ live' tried' lost', Account start (h ++ history s es) t live' tried' lost' := by
  induction es generalizing h s live tried lost with
  | nil =>
    obtain rfl := Option.some.inj hrun
    exact ⟨live, tried, lost, by simpa [history] using ha⟩
  | cons e es ih =>
    rw [Shared.run] at hrun
    cases hstep : s.step e with
    | none => simp [hstep] at hrun
    | some u =>
      rw [hstep] at hrun
      obtain ⟨live', tried', lost', ha'⟩ := ha.step hstart hstep
      rw [history, hstep]
      simpa using ih ha' hrun

end Books

/-! ### Whole runs -/

/-- A short line that is a report. -/
def shortReport : Bytes := Bytes.ofString "[\"\",\"\",\"info\",0]"

theorem isProper_shortReport : IsProper (shortReport ++ [10]) :=
  ⟨[shortReport], fun line hline => by
    rw [List.mem_singleton.mp hline]
    exact ⟨by decide +kernel, by decide +kernel⟩, by simp⟩

theorem openOn_shortReport :
    openOn (some (shortReport ++ [10])) = .ok ⟨some (shortReport ++ [10]), 1, 1, none⟩ := by
  have hcount : (entries (shortReport ++ [10])).length = 1 := by decide +kernel
  have hcontent : content (some (shortReport ++ [10])) = .ok (shortReport ++ [10]) :=
    if_pos isProper_shortReport.isValid
  rw [openOn, hcontent]
  change Except.ok (Spool.mk _ (entries (shortReport ++ [10])).length
    (entries (shortReport ++ [10])).length none) = _
  rw [hcount]

/-- Two calls may send the same entry: the second is made while the pass of the first is under way,
and finds what the first has failed with. -/
theorem exists_sent_twice :
    let es : List Event := [.called, .begun, .called, .advanced, .answered false, .advanced, .begun,
      .advanced, .answered true, .advanced]
    ∃ spool s, openOn (some (shortReport ++ [10])) = .ok spool ∧
      entries spool.octets = [shortReport] ∧ Shared.run ⟨spool, 0, 0⟩ es = some s ∧
      sent (history ⟨spool, 0, 0⟩ es) = [⟨1, shortReport, false⟩, ⟨2, shortReport, true⟩] := by
  intro es
  obtain ⟨s, hs⟩ : ∃ s, Shared.run ⟨⟨some (shortReport ++ [10]), 1, 1, none⟩, 0, 0⟩ es = some s :=
    Option.isSome_iff_exists.mp (by decide +kernel)
  exact ⟨_, s, openOn_shortReport, by decide +kernel, hs, by decide +kernel⟩

/-- **A shared spool loses nothing and delivers nothing twice.** It can be opened on any proper
file without carriage returns, and however reports are added, passes called for and reports taken or
refused:

* its books are kept, so its depth is published and is that of the file, and every entry has still
  to be delivered, was taken once, or was discarded because it is no report;
* while no pass is under way, what has still to be delivered is what the file holds, and a pass can
  begin;
* a pass that ends has looked at every entry of its snapshot and counted it, and leaves the entries
  that failed again as they were, in their order, in front of what has been added since it began. -/
theorem run_keeps_account (file : Option Bytes) (hfile : IsProper (file.getD []))
    (hreturns : 13 ∉ file.getD []) :
    ∃ spool, openOn file = .ok spool ∧ ∀ es s, Shared.run ⟨spool, 0, 0⟩ es = some s →
      (∃ live tried lost,
        Account (entries (file.getD [])) (history ⟨spool, 0, 0⟩ es) s live tried lost ∧
        (s.spool.pass = none → entries s.spool.octets = live.map Prod.fst)) ∧
      (s.spool.pass = none → ∃ t, s.spool.begin = .ok t) ∧
      ∀ p, s.spool.pass = some p → p.isDone = true →
        p.kept.reverse.Sublist (entries p.snapshot) ∧
        p.summary.sent + p.summary.kept + p.summary.discarded = (entries p.snapshot).length ∧
        ∃ t, s.spool.finish p = (.ok p.summary, t) ∧ t.octets = Lines.text p.kept.reverse ++
          (enqueued (sinceBegun (history ⟨spool, 0, 0⟩ es))).flatMap lineOf := by
  obtain ⟨spool, hopen, hin, hoctets, hpass⟩ := exists_openOn hfile
  refine ⟨spool, hopen, fun es s hrun => ?_⟩
  have hnew := account_new hin hpass
  rw [hoctets] at hnew
  obtain ⟨live, tried, lost, ha⟩ := hnew.run (fun line => hfile.not_mem_of_mem hreturns) hrun
  rw [List.nil_append] at ha
  refine ⟨⟨live, tried, lost, ha, fun hnone => ?_⟩, fun hnone => ?_, fun p hp hdone => ?_⟩
  · rw [ha.live_eq, unsettled_of_none hnone]
  · exact ⟨_, ha.inOrder.begin_eq⟩
  · rw [Pass.isDone, Bool.and_eq_true, List.isEmpty_iff, Option.isNone_iff_eq_none] at hdone
    obtain ⟨looked, added, ht⟩ := ha.inOrder.pass p hp
    have hlooked : entries p.snapshot = looked := by
      rw [ht.entries, hdone.1, hdone.2]
      simp
    obtain ⟨t, hfinish, -, -, hfile', -, -⟩ := ha.inOrder.finish hp ht hdone.2 hdone.1
    have hadded : added =
        (enqueued (sinceBegun (history ⟨spool, 0, 0⟩ es))).flatMap lineOf := by
      have hgain := ha.gain p hp
      rw [ht.file] at hgain
      exact List.append_cancel_left hgain
    refine ⟨hlooked ▸ ht.kept, hlooked ▸ ht.counted, t, hfinish, ?_⟩
    rw [hfile', ← hadded]
    rfl

/-- A spool with one report, which fails once and is then delivered while another call waits. -/
theorem run_keeps_account_short_report :
    let es : List Event := [.called, .begun, .called, .advanced, .answered false, .advanced, .begun,
      .advanced, .answered true, .advanced]
    ∃ spool s, openOn (some (shortReport ++ [10])) = .ok spool ∧
      Shared.run ⟨spool, 0, 0⟩ es = some s ∧ s.spool.octets = [] ∧
      ∃ live tried lost, Account [shortReport] (history ⟨spool, 0, 0⟩ es) s live tried lost := by
  intro es
  have hentries : entries (shortReport ++ [10]) = [shortReport] := by decide +kernel
  obtain ⟨spool, hopen, h⟩ := run_keeps_account (some (shortReport ++ [10])) isProper_shortReport
    (by decide +kernel)
  obtain rfl := Except.ok.inj (openOn_shortReport.symm.trans hopen)
  obtain ⟨s, hs⟩ : ∃ s, Shared.run ⟨⟨some (shortReport ++ [10]), 1, 1, none⟩, 0, 0⟩ es = some s :=
    Option.isSome_iff_exists.mp (by decide +kernel)
  obtain ⟨⟨live, tried, lost, ha, -⟩, -, -⟩ := h es s hs
  have hempty : (Shared.run ⟨⟨some (shortReport ++ [10]), 1, 1, none⟩, 0, 0⟩ es).map
      (fun s => s.spool.octets) = some [] := by decide +kernel
  rw [hs] at hempty
  change Account (entries (shortReport ++ [10])) _ _ _ _ _ at ha
  rw [hentries] at ha
  exact ⟨_, s, hopen, hs, Option.some.inj hempty, live, tried, lost, ha⟩

end Spool

end LogWatch
