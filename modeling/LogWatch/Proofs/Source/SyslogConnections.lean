import Mathlib.Algebra.GroupWithZero.Nat
import LogWatch.Proofs.Source.SyslogFraming
import LogWatch.Source.SyslogConnections

/-!
# Connections that share a pipe do not mix

Whatever the order in which the tasks of the connections take their steps, the pipe receives whole
units, one after the other, and each connection's units are those it would have written alone.

The work is done by one **law of conservation** for a single task
(`LogWatch.SyslogConnections.Task.Accounts`): the units it has written, the unit it has in hand and
what the octets it has not yet made units of would become are together what the connection as
received would become, *whatever is still to come*. The last words carry the step from gathering to
a unit, since a whole piece is not changed by what follows it
(`LogWatch.SyslogFraming.frames_append`). The other tasks are seen by a task only through the pipe,
which at most one of them has to itself (`LogWatch.SyslogConnections.Begun`).
-/

namespace LogWatch

namespace SyslogConnections

open SyslogFraming (withLineFeed maxFrame frontFrame frames IsWhole IsLine)

/-- The units that the octets of a connection become. -/
def units (octets : Bytes) : List Bytes := (frames (maxFrame - 1) octets).map withLineFeed

@[simp] theorem units_nil : units [] = [] := by simp [units]

theorem flatten_units (octets : Bytes) :
    (units octets).flatten = SyslogFraming.ofConnection octets := by
  rw [units, SyslogFraming.ofConnection, List.flatMap_def]

theorem units_append_of_isWhole {bs : Bytes}
    (h : IsWhole (maxFrame - 1) (frontFrame maxFrame bs)) (rest : Bytes) :
    units (bs ++ rest) = withLineFeed (frontFrame maxFrame bs) ::
      units (bs.drop (frontFrame maxFrame bs).length ++ rest) :=
  congrArg (List.map withLineFeed) (SyslogFraming.frames_append h rest)

theorem units_short {bs : Bytes} (h : 10 ∉ bs) (hroom : bs.length < maxFrame) (hbs : bs ≠ []) :
    units bs = [withLineFeed bs] :=
  congrArg (List.map withLineFeed) (SyslogFraming.frames_short h hroom hbs)

theorem mem_units {octets unit : Bytes} (h : unit ∈ units octets) :
    IsLine unit ∧ unit.length ≤ maxFrame + 1 := by
  obtain ⟨piece, hpiece, rfl⟩ := List.mem_map.1 h
  have hpiece := SyslogFraming.isPiece_of_mem_frames hpiece
  exact ⟨hpiece.isLine,
    Nat.le_trans (SyslogFraming.length_withLineFeed_le piece) (Nat.succ_le_succ hpiece.length_le)⟩

/-! ### One task -/

namespace Task

section Steps

variable {t t' : Task} {piece chunk octets : Bytes} {sent : List Bytes}

/-- The octets received that are in no unit yet. -/
def unread (t : Task) : Bytes :=
  match t.stage with
  | .gathering piece => piece ++ t.buffer
  | _ => t.buffer

/-- The unit that has not been written to its end. -/
def inHand (t : Task) : List Bytes :=
  match t.stage with
  | .waiting unit => [unit]
  | .writing unit _ => [unit]
  | _ => []

/-- What is true of a task where it stands. -/
def Stands (t : Task) : Prop :=
  match t.stage with
  | .gathering piece => 10 ∉ piece ∧ piece.length < maxFrame ∧ t.buffer = []
  | .waiting unit => 0 < unit.length
  | .writing unit count => count < unit.length
  | .done => t.hasEnded

/-- **A task accounts for its connection**, with the octets received on it and the units written. -/
structure Accounts (t : Task) (octets : Bytes) (sent : List Bytes) : Prop where
  /-- The units written, the one in hand and what the other octets will become are what the
  connection will become, whatever is still to come. -/
  conserves : ∀ rest, (t.hasEnded → rest = []) →
    sent ++ t.inHand ++ units (t.unread ++ rest) = units (octets ++ rest)
  /-- It stands where it can go on. -/
  stands : t.Stands
  /-- When the end has been seen, every octet is in a unit. -/
  ended : t.hasEnded → t.unread = []

/-- A new task has nothing to account for. -/
theorem accounts_new : new.Accounts [] [] where
  conserves rest _ := rfl
  stands := ⟨by simp, by decide, rfl⟩
  ended h := by simp [new] at h

theorem isWhole_iff : isWhole piece ↔ IsWhole (maxFrame - 1) piece := by
  simp [isWhole, IsWhole, show maxFrame - 1 + 1 = maxFrame from rfl]

/-- A task that goes on has a whole piece then, or it has everything in a piece that is not. -/
theorem gather_cases (hpiece : 10 ∉ piece) (hlength : piece.length < maxFrame) :
    (IsWhole (maxFrame - 1) (frontFrame maxFrame (piece ++ t.buffer)) ∧
      t.gather piece = ⟨.waiting (withLineFeed (frontFrame maxFrame (piece ++ t.buffer))),
        (piece ++ t.buffer).drop (frontFrame maxFrame (piece ++ t.buffer)).length, t.hasEnded⟩) ∨
      (10 ∉ piece ++ t.buffer ∧ (piece ++ t.buffer).length < maxFrame ∧
        t.gather piece = ⟨.gathering (piece ++ t.buffer), [], t.hasEnded⟩) := by
  have hfront : piece ++ frontFrame (maxFrame - piece.length) t.buffer =
      frontFrame maxFrame (piece ++ t.buffer) := by
    rw [← SyslogFraming.frontFrame_append hpiece, Nat.add_sub_cancel' (Nat.le_of_lt hlength)]
  have hbuffer : t.buffer.drop (frontFrame (maxFrame - piece.length) t.buffer).length =
      (piece ++ t.buffer).drop (frontFrame maxFrame (piece ++ t.buffer)).length := by
    rw [← hfront, List.length_append, List.drop_length_add_append]
  by_cases hwhole : IsWhole (maxFrame - 1) (frontFrame maxFrame (piece ++ t.buffer))
  · refine .inl ⟨hwhole, ?_⟩
    rw [gather, hfront, if_pos (isWhole_iff.2 hwhole), hbuffer]
  · obtain ⟨hall, hmem, hroom⟩ := SyslogFraming.frontFrame_of_not_isWhole hwhole
    replace hall : frontFrame maxFrame (piece ++ t.buffer) = piece ++ t.buffer := hall
    refine .inr ⟨hmem, hroom, ?_⟩
    rw [gather, hfront, if_neg (fun h => hwhole (isWhole_iff.1 h)), hbuffer, hall, List.drop_length]

/-- A task that goes on accounts for the connection if it has done so with all it has received
unread. -/
theorem accounts_gather (hpiece : 10 ∉ piece) (hlength : piece.length < maxFrame)
    (hconserves : ∀ rest, (t.hasEnded → rest = []) →
      sent ++ units (piece ++ t.buffer ++ rest) = units (octets ++ rest))
    (hended : t.hasEnded → piece ++ t.buffer = []) : (t.gather piece).Accounts octets sent := by
  obtain ⟨hwhole, heq⟩ | ⟨hmem, hroom, heq⟩ := gather_cases (t := t) hpiece hlength
  · rw [heq]
    refine ⟨fun rest hrest => ?_, SyslogFraming.length_withLineFeed_pos hwhole.ne_nil, fun h => ?_⟩
    · rw [← hconserves rest hrest, units_append_of_isWhole hwhole, List.append_assoc]
      rfl
    · change List.drop _ _ = []
      rw [hended h, List.drop_nil]
  · rw [heq]
    refine ⟨fun rest hrest => ?_, ⟨hmem, hroom, rfl⟩, fun h => ?_⟩
    · rw [← hconserves rest hrest, unread]
      simp [inHand]
    · simpa [unread] using hended h

theorem isWriting_gather (t : Task) (piece : Bytes) : (t.gather piece).isWriting = false := by
  rw [gather]
  split <;> rfl

/-! #### What a task can do -/

theorem exists_of_receive (h : t.receive chunk = some t') :
    ∃ piece buffer, t = ⟨.gathering piece, buffer, false⟩ ∧
      t' = gather ⟨.gathering piece, buffer ++ chunk, false⟩ piece := by
  obtain ⟨stage, buffer, hasEnded⟩ := t
  cases stage with
  | gathering piece =>
    simp only [receive] at h
    split at h
    · cases h
    · next hready =>
      simp only [Bool.or_eq_true, not_or, Bool.not_eq_true] at hready
      obtain rfl : hasEnded = false := hready.1
      exact ⟨piece, buffer, rfl, (Option.some.inj h).symm⟩
  | _ => cases h

theorem exists_of_finish (h : t.finish = some t') :
    ∃ piece buffer ended, t = ⟨.gathering piece, buffer, ended⟩ ∧
      ((piece = [] ∧ t' = ⟨.done, buffer, true⟩) ∨
        (piece ≠ [] ∧ t' = ⟨.waiting (withLineFeed piece), buffer, true⟩)) := by
  obtain ⟨stage, buffer, hasEnded⟩ := t
  cases stage with
  | gathering piece =>
    refine ⟨piece, buffer, hasEnded, rfl, ?_⟩
    cases piece with
    | nil => exact .inl ⟨rfl, (Option.some.inj h).symm⟩
    | cons b piece => exact .inr ⟨by simp, (Option.some.inj h).symm⟩
  | _ => cases h

theorem exists_of_lock (h : t.lock = some t') :
    ∃ unit buffer ended, t = ⟨.waiting unit, buffer, ended⟩ ∧
      t' = ⟨.writing unit 0, buffer, ended⟩ := by
  obtain ⟨stage, buffer, hasEnded⟩ := t
  cases stage with
  | waiting unit => exact ⟨unit, buffer, hasEnded, rfl, (Option.some.inj h).symm⟩
  | _ => cases h

theorem exists_of_write {count : Nat} {written : Bytes} (h : t.write count = some (written, t')) :
    ∃ unit before buffer ended, t = ⟨.writing unit before, buffer, ended⟩ ∧ 0 < count ∧
      written = (unit.drop before).take count ∧
      ((before + count < unit.length ∧ t' = ⟨.writing unit (before + count), buffer, ended⟩) ∨
        (before + count = unit.length ∧ t' = t.gather [])) := by
  obtain ⟨stage, buffer, hasEnded⟩ := t
  cases stage with
  | writing unit before =>
    simp only [write] at h
    split at h
    · next hcount =>
      simp only [Bool.and_eq_true, decide_eq_true_eq] at hcount
      obtain ⟨rfl, rfl⟩ := Prod.mk.inj (Option.some.inj h)
      refine ⟨unit, before, buffer, hasEnded, rfl, hcount.1, rfl, ?_⟩
      by_cases hlast : before + count = unit.length
      · exact .inr ⟨hlast, if_pos hlast⟩
      · exact .inl ⟨by omega, if_neg hlast⟩
    · cases h
  | _ => cases h

/-! #### What a task accounts for -/

theorem Accounts.receive (h : t.Accounts octets sent) (ht : t.receive chunk = some t') :
    t'.Accounts (octets ++ chunk) sent := by
  obtain ⟨piece, buffer, rfl, rfl⟩ := exists_of_receive ht
  obtain ⟨hpiece, hlength, hbuffer⟩ := h.stands
  refine accounts_gather hpiece hlength (fun rest _ => ?_) (fun hended => by simp at hended)
  simpa [inHand, unread] using h.conserves (chunk ++ rest) (fun hended => by simp at hended)

theorem Accounts.finish (h : t.Accounts octets sent) (ht : t.finish = some t') :
    t'.Accounts octets sent := by
  obtain ⟨piece, buffer, ended, rfl, ⟨rfl, rfl⟩ | ⟨hne, rfl⟩⟩ := exists_of_finish ht
  · obtain ⟨-, -, rfl⟩ : _ ∧ _ ∧ buffer = [] := h.stands
    refine ⟨fun rest hrest => ?_, rfl, fun _ => rfl⟩
    rw [hrest rfl]
    exact h.conserves [] fun _ => rfl
  · obtain ⟨hpiece, hlength, rfl⟩ : _ ∧ _ ∧ buffer = [] := h.stands
    refine ⟨fun rest hrest => ?_, SyslogFraming.length_withLineFeed_pos hne, fun _ => rfl⟩
    rw [hrest rfl, ← h.conserves [] fun _ => rfl]
    simp [inHand, unread, units_short hpiece hlength hne]

theorem Accounts.lock (h : t.Accounts octets sent) (ht : t.lock = some t') :
    t'.Accounts octets sent := by
  obtain ⟨unit, buffer, ended, rfl, rfl⟩ := exists_of_lock ht
  exact ⟨h.conserves, h.stands, h.ended⟩

/-- With the last octet of a unit, the unit is one of those written. -/
theorem Accounts.write {unit buffer : Bytes} {before : Nat} {ended : Bool}
    (h : (⟨.writing unit before, buffer, ended⟩ : Task).Accounts octets sent) :
    (gather ⟨.writing unit before, buffer, ended⟩ []).Accounts octets (sent ++ [unit]) :=
  accounts_gather (by simp) (by decide) h.conserves h.ended

end Steps

end Task

/-! ### All tasks and the pipe -/

/-- The octets that an event brings on a connection. -/
def Event.octetsOf (i : Nat) : Event → Bytes
  | .received j chunk => if j = i then chunk else []
  | _ => []

/-- The octets received on a connection. -/
def carried (i : Nat) (es : List Event) : Bytes := es.flatMap (Event.octetsOf i)

/-- The units that one connection has written, among the units of all of them. -/
def sentBy (i : Nat) (us : List (Nat × Bytes)) : List Bytes :=
  (us.filter fun u => u.1 == i).map Prod.snd

/-- What has been written of a unit that has not been written to its end: nothing if nobody has the
pipe, and otherwise a beginning of the unit of the only task that has it. -/
inductive Begun (s : State) : Bytes → Prop
  /-- Nobody has the pipe. -/
  | nothing (h : s.isFree) : Begun s []
  /-- One task has the pipe. -/
  | one {i : Nat} {unit buffer : Bytes} {count : Nat} {ended : Bool}
    (h : s.tasks[i]? = some ⟨.writing unit count, buffer, ended⟩)
    (alone : ∀ j t, s.tasks[j]? = some t → t.isWriting → j = i) : Begun s (unit.take count)

/-- **The state accounts for what has happened**, with the units that have been written. -/
structure State.Accounts (s : State) (es : List Event) (us : List (Nat × Bytes)) : Prop where
  /-- Everybody who has connected is served or has been turned away. -/
  admits : s.rejected + s.tasks.length = es.count .accepted
  /-- Nobody is turned away unless too many have connected. -/
  rejects : es.count .accepted ≤ maxConnections → s.rejected = 0
  /-- Every task accounts for its connection. -/
  accounts : ∀ i (t : Task), s.tasks[i]? = some t → t.Accounts (carried i es) (sentBy i us)
  /-- Where there is no task, there is nothing to account for. -/
  others : ∀ i, s.tasks.length ≤ i → carried i es = [] ∧ sentBy i us = []

/-- **The pipe accounts for the units**: it has received them, and what has been begun. -/
def State.Delivers (s : State) (us : List (Nat × Bytes)) : Prop :=
  ∃ begun, s.written = (us.map Prod.snd).flatten ++ begun ∧ Begun s begun

section Pipe

variable {s s' : State} {es : List Event} {e : Event} {us us' : List (Nat × Bytes)}
  {i j : Nat} {t t' : Task} {begun : Bytes}

theorem carried_append (i : Nat) (es : List Event) (e : Event) :
    carried i (es ++ [e]) = carried i es ++ e.octetsOf i := by
  simp [carried]

theorem carried_append_of_nil (h : e.octetsOf i = []) (es : List Event) :
    carried i (es ++ [e]) = carried i es := by
  rw [carried_append, h, List.append_nil]

theorem sentBy_append_self (i : Nat) (us : List (Nat × Bytes)) (unit : Bytes) :
    sentBy i (us ++ [(i, unit)]) = sentBy i us ++ [unit] := by
  simp [sentBy]

theorem sentBy_append_of_ne (h : j ≠ i) (us : List (Nat × Bytes)) (unit : Bytes) :
    sentBy j (us ++ [(i, unit)]) = sentBy j us := by
  simp [sentBy, Ne.symm h]

theorem isFree_iff : s.isFree ↔ ∀ (i : Nat) (t : Task),
    s.tasks[i]? = some t → t.isWriting = false := by
  simp only [State.isFree, List.all_eq_true, List.mem_iff_getElem?, Bool.not_eq_true']
  exact ⟨fun h i t ht => h t ⟨i, ht⟩, fun h t ⟨i, ht⟩ => h i t ht⟩

theorem tasks_setTask_self (ht : s.tasks[i]? = some t) (t' : Task) :
    (s.setTask i t').tasks[i]? = some t' := by
  obtain ⟨hi, -⟩ := List.getElem?_eq_some_iff.1 ht
  simp [State.setTask, hi]

theorem tasks_setTask_of_ne (h : j ≠ i) (s : State) (t' : Task) :
    (s.setTask i t').tasks[j]? = s.tasks[j]? :=
  List.getElem?_set_ne (Ne.symm h)

/-- A task that alone may have the pipe remains alone. -/
theorem alone_setTask (halone : ∀ j t, s.tasks[j]? = some t → t.isWriting → j = i) (t' : Task) :
    ∀ j u, (s.setTask i t').tasks[j]? = some u → u.isWriting → j = i := by
  intro j u hu hwriting
  by_contra hji
  rw [tasks_setTask_of_ne hji] at hu
  exact hji (halone j u hu hwriting)

theorem exists_of_setTask {f : Task → Option Task}
    (h : (s.tasks[i]?.bind f).map (s.setTask i) = some s') :
    ∃ t t', s.tasks[i]? = some t ∧ f t = some t' ∧ s' = s.setTask i t' := by
  obtain ⟨t', ht', rfl⟩ := Option.map_eq_some_iff.1 h
  obtain ⟨t, ht, hf⟩ := Option.bind_eq_some_iff.1 ht'
  exact ⟨t, t', ht, hf, rfl⟩

theorem count_append_of_ne (he : e ≠ .accepted) (es : List Event) :
    (es ++ [e]).count .accepted = es.count .accepted := by
  simp [he]

/-- An event that brings nothing is accounted for. -/
theorem State.Accounts.skip (h : s.Accounts es us) (he : e ≠ .accepted)
    (hes : ∀ j, e.octetsOf j = []) : s.Accounts (es ++ [e]) us := by
  have hcount := count_append_of_ne he es
  refine ⟨by rw [hcount]; exact h.admits, by rw [hcount]; exact h.rejects, fun i t ht => ?_,
    fun i hi => ?_⟩
  · rw [carried_append_of_nil (hes i)]
    exact h.accounts i t ht
  · rw [carried_append_of_nil (hes i)]
    exact h.others i hi

/-- A step of one task is accounted for if that task accounts for it. -/
theorem State.Accounts.setTask (h : s.Accounts es us) (ht : s.tasks[i]? = some t)
    (he : e ≠ .accepted) (hes : ∀ j ≠ i, e.octetsOf j = [])
    (hus : ∀ j ≠ i, sentBy j us' = sentBy j us)
    (ht' : t'.Accounts (carried i (es ++ [e])) (sentBy i us')) :
    (s.setTask i t').Accounts (es ++ [e]) us' := by
  have hcount := count_append_of_ne he es
  have hlength : (s.setTask i t').tasks.length = s.tasks.length := List.length_set
  have hother (j : Nat) (hj : j ≠ i) : carried j (es ++ [e]) = carried j es :=
    carried_append_of_nil (hes j hj) es
  refine ⟨?_, ?_, fun j u hu => ?_, fun j hj => ?_⟩
  · rw [hcount, hlength]
    exact h.admits
  · rw [hcount]
    exact h.rejects
  · by_cases hji : j = i
    · subst hji
      rw [tasks_setTask_self ht] at hu
      cases hu
      exact ht'
    · rw [tasks_setTask_of_ne hji] at hu
      rw [hother j hji, hus j hji]
      exact h.accounts j u hu
  · rw [hlength] at hj
    have hji : j ≠ i := by
      rintro rfl
      rw [List.getElem?_eq_none hj] at ht
      cases ht
    rw [hother j hji, hus j hji]
    exact h.others j hj

theorem State.Accounts.of_tasks (h : s.Accounts es us) (htasks : s'.tasks = s.tasks)
    (hrejected : s'.rejected = s.rejected) : s'.Accounts es us := by
  obtain ⟨tasks, rejected, written, read⟩ := s'
  obtain rfl : tasks = s.tasks := htasks
  obtain rfl : rejected = s.rejected := hrejected
  exact ⟨h.admits, h.rejects, h.accounts, h.others⟩

/-- What has been begun stays as long as it is the same tasks that have the pipe. -/
theorem Begun.of_writing_iff (h : Begun s begun) (hw : ∀ (j : Nat) (u : Task), u.isWriting →
    (s'.tasks[j]? = some u ↔ s.tasks[j]? = some u)) : Begun s' begun := by
  cases h with
  | nothing h =>
    refine .nothing (isFree_iff.2 fun j u hu => Bool.eq_false_iff.2 fun hwriting => ?_)
    rw [isFree_iff.1 h j u ((hw j u hwriting).1 hu)] at hwriting
    cases hwriting
  | one h alone =>
    exact .one ((hw _ _ rfl).2 h) fun j u hu hwriting => alone j u ((hw j u hwriting).1 hu) hwriting

/-- A task whose step has nothing to do with the pipe leaves what has been begun. -/
theorem Begun.setTask (h : Begun s begun) (ht : s.tasks[i]? = some t) (hw : t.isWriting = false)
    (hw' : t'.isWriting = false) : Begun (s.setTask i t') begun := by
  refine h.of_writing_iff fun j u hwriting => ?_
  by_cases hji : j = i
  · subst hji
    rw [tasks_setTask_self ht, ht, Option.some_inj, Option.some_inj]
    constructor <;> rintro rfl
    · rw [hw'] at hwriting
      cases hwriting
    · rw [hw] at hwriting
      cases hwriting
  · rw [tasks_setTask_of_ne hji]

theorem State.Delivers.setTask (h : s.Delivers us) (ht : s.tasks[i]? = some t)
    (hw : t.isWriting = false) (hw' : t'.isWriting = false) : (s.setTask i t').Delivers us := by
  obtain ⟨begun, hwritten, hbegun⟩ := h
  exact ⟨begun, hwritten, hbegun.setTask ht hw hw'⟩

theorem Begun.eq_nil (h : Begun s begun) (hfree : s.isFree) : begun = [] := by
  cases h with
  | nothing => rfl
  | one ht => cases isFree_iff.1 hfree _ _ ht

theorem Begun.eq_take {unit buffer : Bytes} {count : Nat} {ended : Bool} (h : Begun s begun)
    (ht : s.tasks[i]? = some ⟨.writing unit count, buffer, ended⟩) :
    begun = unit.take count ∧ ∀ j t, s.tasks[j]? = some t → t.isWriting → j = i := by
  cases h with
  | nothing hfree => cases isFree_iff.1 hfree _ _ ht
  | one hu alone =>
    obtain rfl := alone i _ ht rfl
    rw [hu] at ht
    cases ht
    exact ⟨rfl, alone⟩

/-! #### What an event changes -/

theorem State.Accounts.accepted (h : s.Accounts es us) (hs : step s .accepted = some s') :
    s'.Accounts (es ++ [.accepted]) us := by
  have hcount : (es ++ [Event.accepted]).count .accepted = es.count .accepted + 1 := by simp
  have hcarried (i : Nat) : carried i (es ++ [.accepted]) = carried i es :=
    carried_append_of_nil rfl es
  have hadmits := h.admits
  simp only [step] at hs
  split at hs
  · next hroom =>
    cases hs
    refine ⟨?_, fun hmax => h.rejects (by omega), fun i t ht => ?_, fun i hi => ?_⟩
    · simp only [List.length_append, List.length_singleton]
      omega
    · rw [hcarried]
      rw [List.getElem?_append] at ht
      split at ht
      · exact h.accounts i t ht
      · next hi =>
        obtain ⟨-, rfl⟩ : _ ∧ Task.new = t := by simpa [List.getElem?_singleton] using ht
        obtain ⟨hnone, hsent⟩ := h.others i (by omega)
        rw [hnone, hsent]
        exact Task.accounts_new
    · rw [hcarried]
      simp only [List.length_append, List.length_singleton] at hi
      exact h.others i (by omega)
  · next hfull =>
    cases hs
    have hlive : s.live ≤ s.tasks.length := List.countP_le_length
    refine ⟨?_, fun hmax => ?_, fun i t ht => ?_, fun i hi => ?_⟩
    · dsimp only
      omega
    · -- all that have connected are too few to fill the listener
      have := h.rejects (by omega)
      omega
    · rw [hcarried]
      exact h.accounts i t ht
    · rw [hcarried]
      exact h.others i hi

theorem State.Delivers.accepted (h : s.Delivers us) (hs : step s .accepted = some s') :
    s'.Delivers us := by
  obtain ⟨begun, hwritten, hbegun⟩ := h
  simp only [step] at hs
  split at hs
  · cases hs
    refine ⟨begun, hwritten, hbegun.of_writing_iff fun j u hwriting => ?_⟩
    rw [List.getElem?_append]
    split
    · rfl
    · next hj =>
      rw [List.getElem?_eq_none (Nat.le_of_not_lt hj)]
      refine ⟨fun hu => ?_, fun hu => by cases hu⟩
      obtain ⟨-, rfl⟩ : _ ∧ Task.new = u := by simpa [List.getElem?_singleton] using hu
      cases hwriting
  · cases hs
    exact ⟨begun, hwritten, hbegun.of_writing_iff fun _ _ _ => Iff.rfl⟩

theorem exists_of_wrote {count : Nat} (hs : step s (.wrote i count) = some s') :
    ∃ t octets t', s.tasks[i]? = some t ∧ t.write count = some (octets, t') ∧
      s' = { s.setTask i t' with written := s.written ++ octets } := by
  simp only [step] at hs
  split at hs
  · obtain ⟨⟨octets, t'⟩, ht', rfl⟩ := Option.map_eq_some_iff.1 hs
    obtain ⟨t, ht, hwrite⟩ := Option.bind_eq_some_iff.1 ht'
    exact ⟨t, octets, t', ht, hwrite, rfl⟩
  · cases hs

/-- The octets that a task writes go on with its unit, and the last of them ends it. -/
theorem State.Accounts.wrote {count : Nat} (h : s.Accounts es us) (hp : s.Delivers us)
    (hs : step s (.wrote i count) = some s') :
    ∃ us', s'.Accounts (es ++ [.wrote i count]) us' ∧ s'.Delivers us' := by
  obtain ⟨t, octets, t', ht, hwrite, rfl⟩ := exists_of_wrote hs
  obtain ⟨unit, before, buffer, ended, rfl, -, rfl, hnext⟩ := Task.exists_of_write hwrite
  obtain ⟨begun, hwritten, hbegun⟩ := hp
  obtain ⟨rfl, alone⟩ := hbegun.eq_take ht
  have hoctets : s.written ++ (unit.drop before).take count =
      (us.map Prod.snd).flatten ++ unit.take (before + count) := by
    rw [hwritten, List.append_assoc, List.take_add]
  have hcarried : carried i (es ++ [.wrote i count]) = carried i es := carried_append_of_nil rfl es
  have haccounts := h.accounts i _ ht
  obtain ⟨hlt, rfl⟩ | ⟨hlast, rfl⟩ := hnext
  · have hlater : (⟨.writing unit (before + count), buffer, ended⟩ : Task).Accounts
        (carried i (es ++ [.wrote i count])) (sentBy i us) := by
      rw [hcarried]
      exact ⟨haccounts.conserves, hlt, haccounts.ended⟩
    exact ⟨us, (h.setTask ht (by simp) (fun _ _ => rfl) (fun _ _ => rfl) hlater).of_tasks rfl rfl,
      _, hoctets, .one (tasks_setTask_self ht _) (alone_setTask alone _)⟩
  · have hnext : (Task.gather ⟨.writing unit before, buffer, ended⟩ []).Accounts
        (carried i (es ++ [.wrote i count])) (sentBy i (us ++ [(i, unit)])) := by
      rw [hcarried, sentBy_append_self]
      exact haccounts.write
    refine ⟨us ++ [(i, unit)], (h.setTask ht (by simp) (fun _ _ => rfl)
      (fun j hj => sentBy_append_of_ne hj us unit) hnext).of_tasks rfl rfl, [], ?_,
      .nothing (isFree_iff.2 fun j u hu => ?_)⟩
    · rw [hlast, List.take_length] at hoctets
      simp [hoctets]
    · rw [Bool.eq_false_iff]
      intro hwriting
      obtain rfl := alone_setTask alone _ j u hu hwriting
      rw [tasks_setTask_self ht] at hu
      cases hu
      rw [Task.isWriting_gather] at hwriting
      cases hwriting

/-- **One event** is accounted for by the tasks and by the pipe. -/
theorem exists_accounts_of_step (h : s.Accounts es us) (hp : s.Delivers us)
    (hs : step s e = some s') : ∃ us', s'.Accounts (es ++ [e]) us' ∧ s'.Delivers us' := by
  cases e with
  | accepted => exact ⟨us, h.accepted hs, hp.accepted hs⟩
  | received i chunk =>
    obtain ⟨t, t', ht, hreceive, rfl⟩ := exists_of_setTask hs
    have haccounts := (h.accounts i t ht).receive hreceive
    obtain ⟨piece, buffer, rfl, rfl⟩ := Task.exists_of_receive hreceive
    refine ⟨us, h.setTask ht (by simp) (fun j hj => if_neg (Ne.symm hj)) (fun _ _ => rfl) ?_,
      hp.setTask ht rfl (Task.isWriting_gather _ _)⟩
    rw [carried_append, Event.octetsOf, if_pos rfl]
    exact haccounts
  | ended i =>
    obtain ⟨t, t', ht, hfinish, rfl⟩ := exists_of_setTask hs
    have haccounts := (h.accounts i t ht).finish hfinish
    rw [← carried_append_of_nil (e := .ended i) rfl es] at haccounts
    refine ⟨us, h.setTask ht (by simp) (fun _ _ => rfl) (fun _ _ => rfl) haccounts, ?_⟩
    obtain ⟨piece, buffer, ended, rfl, ⟨-, rfl⟩ | ⟨-, rfl⟩⟩ := Task.exists_of_finish hfinish
    · exact hp.setTask ht rfl rfl
    · exact hp.setTask ht rfl rfl
  | locked i =>
    simp only [step] at hs
    split at hs
    · next hfree =>
      obtain ⟨t, t', ht, hlock, rfl⟩ := exists_of_setTask hs
      have haccounts := (h.accounts i t ht).lock hlock
      rw [← carried_append_of_nil (e := .locked i) rfl es] at haccounts
      refine ⟨us, h.setTask ht (by simp) (fun _ _ => rfl) (fun _ _ => rfl) haccounts, ?_⟩
      obtain ⟨begun, hwritten, hbegun⟩ := hp
      obtain rfl := hbegun.eq_nil hfree
      obtain ⟨unit, buffer, ended, rfl, rfl⟩ := Task.exists_of_lock hlock
      refine ⟨_, hwritten, .one (tasks_setTask_self ht _) (alone_setTask (fun j u hu h => ?_) _)⟩
      rw [isFree_iff.1 hfree j u hu] at h
      cases h
    · cases hs
  | wrote i count => exact h.wrote hp hs
  | drained count =>
    simp only [step] at hs
    split at hs
    · cases hs
      obtain ⟨begun, hwritten, hbegun⟩ := hp
      refine ⟨us, (h.skip (by simp) fun _ => rfl).of_tasks rfl rfl, begun, hwritten, ?_⟩
      exact hbegun.of_writing_iff fun _ _ _ => Iff.rfl
    · cases hs

/-- **A run** is accounted for, after whatever was accounted for before it. -/
theorem exists_accounts_of_run (past : List Event) (h : s.Accounts past us) (hp : s.Delivers us)
    (hrun : run s es = some s') : ∃ us', s'.Accounts (past ++ es) us' ∧ s'.Delivers us' := by
  induction es generalizing s past us with
  | nil =>
    cases hrun
    exact ⟨us, by rwa [List.append_nil], hp⟩
  | cons e es ih =>
    rw [run] at hrun
    split at hrun
    · next s₁ hs =>
      obtain ⟨us₁, h₁, hp₁⟩ := exists_accounts_of_step h hp hs
      simpa using ih (past ++ [e]) h₁ hp₁ hrun
    · cases hrun

theorem accounts_starting : State.starting.Accounts [] [] where
  admits := rfl
  rejects _ := rfl
  accounts i t ht := by simp [State.starting] at ht
  others _ _ := ⟨rfl, rfl⟩

theorem delivers_starting : State.starting.Delivers [] :=
  ⟨[], rfl, .nothing rfl⟩

end Pipe

/-! ### Coming to an end -/

/-- Something the tasks and the monitor do by themselves, or the end of a connection. -/
def Event.isOwn : Event → Bool
  | .accepted => false
  | .received _ _ => false
  | _ => true

/-- So much is left to do for a task. An octet may yet become two of a unit, one of them the line
feed, each of which is written and read, and a unit is made and has the pipe once. -/
def Task.remaining (t : Task) : Nat :=
  match t.stage with
  | .gathering piece => 6 * (piece.length + t.buffer.length) + 1
  | .waiting unit => 2 * unit.length + 6 * t.buffer.length + 2
  | .writing unit count => 2 * (unit.length - count) + 6 * t.buffer.length + 1
  | .done => 0

/-- So much is left to do, with what stands in the pipe. -/
def State.remaining (s : State) : Nat :=
  (s.tasks.map Task.remaining).sum + (s.written.length - s.read)

section Ends

variable {s s' : State} {es : List Event} {e : Event} {us : List (Nat × Bytes)} {i : Nat}
  {t t' : Task} {piece : Bytes}

/-- Going on with a piece is no more to do than what the octets were counted for. -/
theorem Task.remaining_gather (t : Task) : (t.gather []).remaining ≤ 6 * t.buffer.length + 1 := by
  have hnil : 10 ∉ ([] : Bytes) := by simp
  obtain ⟨hwhole, heq⟩ | ⟨hmem, hroom, heq⟩ := gather_cases (t := t) hnil (by decide)
  · rw [heq, remaining]
    have := SyslogFraming.length_withLineFeed_le (frontFrame maxFrame ([] ++ t.buffer))
    have := List.length_pos_of_ne_nil hwhole.ne_nil
    have := SyslogFraming.length_frontFrame_le maxFrame ([] ++ t.buffer)
    simp only [List.length_drop, List.nil_append] at *
    omega
  · rw [heq, remaining]
    simp

theorem remaining_setTask (ht : s.tasks[i]? = some t) (t' : Task) :
    (s.setTask i t').remaining + t.remaining = s.remaining + t'.remaining := by
  obtain ⟨hi, rfl⟩ := List.getElem?_eq_some_iff.1 ht
  obtain ⟨front, back, htasks, -, hset⟩ := @List.exists_of_set _ i t' _ hi
  have hbefore := congrArg (fun ts => (ts.map Task.remaining).sum) htasks
  have hafter := congrArg (fun ts => (ts.map Task.remaining).sum) hset
  simp only [List.map_append, List.map_cons, List.sum_append, List.sum_cons] at hbefore hafter
  simp only [State.remaining, State.setTask]
  omega

/-- **Every step leaves less to do**. -/
theorem remaining_lt_of_step (he : e.isOwn) (hs : step s e = some s') :
    s'.remaining < s.remaining := by
  cases e with
  | accepted => cases he
  | received i chunk => cases he
  | ended i =>
    obtain ⟨t, t', ht, hfinish, rfl⟩ := exists_of_setTask hs
    have hsum := remaining_setTask ht t'
    obtain ⟨piece, buffer, ended, rfl, ⟨rfl, rfl⟩ | ⟨hne, rfl⟩⟩ := Task.exists_of_finish hfinish
    · simp only [Task.remaining] at hsum
      omega
    · have := SyslogFraming.length_withLineFeed_le piece
      have := List.length_pos_of_ne_nil hne
      simp only [Task.remaining] at hsum
      omega
  | locked i =>
    simp only [step] at hs
    split at hs
    · obtain ⟨t, t', ht, hlock, rfl⟩ := exists_of_setTask hs
      have hsum := remaining_setTask ht t'
      obtain ⟨unit, buffer, ended, rfl, rfl⟩ := Task.exists_of_lock hlock
      simp only [Task.remaining] at hsum
      omega
    · cases hs
  | wrote i count =>
    obtain ⟨t, octets, t', ht, hwrite, rfl⟩ := exists_of_wrote hs
    have hsum := remaining_setTask ht t'
    obtain ⟨unit, before, buffer, ended, rfl, hcount, rfl, hnext⟩ := Task.exists_of_write hwrite
    have hless : t'.remaining + count <
        (⟨.writing unit before, buffer, ended⟩ : Task).remaining := by
      obtain ⟨hlt, rfl⟩ | ⟨hlast, rfl⟩ := hnext
      · simp only [Task.remaining]
        omega
      · have := Task.remaining_gather ⟨.writing unit before, buffer, ended⟩
        simp only [Task.remaining] at *
        omega
    have hlength : ((unit.drop before).take count).length ≤ count := List.length_take_le _ _
    simp only [State.remaining, State.setTask, List.length_append] at *
    omega
  | drained count =>
    simp only [step] at hs
    split at hs
    · next hcount =>
      simp only [Bool.and_eq_true, decide_eq_true_eq] at hcount
      cases hs
      simp only [State.remaining]
      omega
    · cases hs

/-- **Somebody can take a step** as long as not all connections have come to their ends. -/
theorem exists_step (h : s.Accounts es us) (hdone : ¬ s.isDone) :
    ∃ e, e.isOwn ∧ (step s e).isSome := by
  by_cases hfree : s.isFree
  · simp only [State.isDone, List.all_eq_true, not_forall] at hdone
    obtain ⟨t, hmem, hlive⟩ := hdone
    obtain ⟨i, ht⟩ := List.mem_iff_getElem?.1 hmem
    obtain ⟨stage, buffer, ended⟩ := t
    cases stage with
    | gathering piece =>
      refine ⟨.ended i, rfl, ?_⟩
      cases piece <;> simp [step, ht, Task.finish]
    | waiting unit => exact ⟨.locked i, rfl, by simp [step, hfree, ht, Task.lock]⟩
    | writing unit count => cases isFree_iff.1 hfree i _ ht
    | done => simp [Task.isLive] at hlive
  · have hwriter : ∃ (i : Nat) (t : Task), s.tasks[i]? = some t ∧ t.isWriting := by
      by_contra hnone
      refine hfree (isFree_iff.2 fun i t ht => Bool.eq_false_iff.2 fun hwriting => ?_)
      exact hnone ⟨i, t, ht, hwriting⟩
    obtain ⟨i, t, ht, hwriting⟩ := hwriter
    have hstands := (h.accounts i t ht).stands
    obtain ⟨stage, buffer, ended⟩ := t
    cases stage with
    | writing unit count =>
      have hcount : (decide (0 < 1) && decide (count + 1 ≤ unit.length)) = true := by
        rw [Bool.and_eq_true, decide_eq_true_eq, decide_eq_true_eq]
        exact ⟨Nat.one_pos, hstands⟩
      by_cases hroom : 1 ≤ s.room
      · refine ⟨.wrote i 1, rfl, ?_⟩
        simp only [step, if_pos hroom, ht, Option.bind_some, Task.write, if_pos hcount,
          Option.map_some, Option.isSome_some]
      · -- a pipe without room has something to be read
        have hread : (decide (0 < 1) && decide (s.read + 1 ≤ s.written.length)) = true := by
          rw [Bool.and_eq_true, decide_eq_true_eq, decide_eq_true_eq]
          simp only [State.room, pipeCapacity] at hroom
          omega
        refine ⟨.drained 1, rfl, ?_⟩
        simp only [step, if_pos hread, Option.isSome_some]
    | _ => cases hwriting

/-- A run of the tasks and the monitor takes no more steps than it leaves less to do. -/
theorem length_le_of_run (hown : ∀ e ∈ es, e.isOwn) (hrun : run s es = some s') :
    es.length + s'.remaining ≤ s.remaining := by
  induction es generalizing s with
  | nil =>
    cases hrun
    simp
  | cons e es ih =>
    rw [run] at hrun
    split at hrun
    · next s₁ hs =>
      have hlt := remaining_lt_of_step (hown e (by simp)) hs
      have hle := ih (fun e he => hown e (by simp [he])) hrun
      rw [List.length_cons]
      omega
    · cases hrun

end Ends

/-! ### Connections are kept apart -/

/-- **What the pipe has received**: units of the connections, and a beginning of one more. -/
structure Separates (es : List Event) (s : State) (us : List (Nat × Bytes)) (begun : Bytes) :
    Prop where
  /-- The units have been written one after the other. -/
  written : s.written = (us.map Prod.snd).flatten ++ begun
  /-- Each of them is a line of one connection, and is not too long. -/
  lines : ∀ u ∈ us, u.1 < s.tasks.length ∧ IsLine u.2 ∧ u.2.length ≤ maxFrame + 1
  /-- Those of a connection are the first ones that it becomes. -/
  inOrder : ∀ i, sentBy i us <+: units (carried i es)
  /-- What has been begun begins the next unit of a connection. -/
  begins : begun ≠ [] → ∃ i unit, begun <+: unit ∧ sentBy i us ++ [unit] <+: units (carried i es)
  /-- When all connections have come to their ends, nothing is left unwritten: but for the line
  feeds that were put there, the units of a connection are the connection. -/
  complete : s.isDone → begun = [] ∧ ∀ i, ∃ pieces : List Bytes,
    sentBy i us = pieces.map withLineFeed ∧ pieces.flatten = carried i es ∧
      (sentBy i us).flatten = SyslogFraming.ofConnection (carried i es)

/-- **Connections are kept apart** in a state to which events have led. -/
structure KeepsApart (es : List Event) (s : State) : Prop where
  /-- Everybody is served unless too many connect. -/
  serves : es.count .accepted ≤ maxConnections →
    s.rejected = 0 ∧ s.tasks.length = es.count .accepted
  /-- The pipe has received units. -/
  separates : ∃ us begun, Separates es s us begun
  /-- In whatever order the tasks go on, they take so many steps at most, and they stop only when
  all connections have come to their ends. -/
  ends : ∀ more s', (∀ e ∈ more, e.isOwn) → run s more = some s' →
    more.length ≤ s.remaining ∧ (s'.isDone ∨ ∃ e, e.isOwn ∧ (step s' e).isSome)

section Apart

variable {s : State} {es : List Event} {us : List (Nat × Bytes)} {i : Nat}

/-- The units written and the one in hand are the first ones that the connection becomes. -/
theorem Task.Accounts.isPrefix {t : Task} {octets : Bytes} {sent : List Bytes}
    (h : t.Accounts octets sent) : sent ++ t.inHand <+: units octets := by
  have hconserves := h.conserves [] fun _ => rfl
  rw [List.append_nil, List.append_nil] at hconserves
  exact ⟨_, hconserves⟩

theorem State.Accounts.sentBy_prefix (h : s.Accounts es us) (i : Nat) :
    sentBy i us <+: units (carried i es) := by
  cases ht : s.tasks[i]? with
  | none =>
    obtain ⟨-, hsent⟩ := h.others i (List.getElem?_eq_none_iff.1 ht)
    rw [hsent]
    exact List.nil_prefix
  | some t => exact (List.prefix_append _ _).trans (h.accounts i t ht).isPrefix

theorem stage_of_isDone {t : Task} (hdone : s.isDone) (ht : s.tasks[i]? = some t) :
    t.stage = .done := by
  simpa [Task.isLive] using List.all_eq_true.1 hdone t (List.mem_of_getElem? ht)

theorem State.Accounts.sentBy_of_isDone (h : s.Accounts es us) (hdone : s.isDone) (i : Nat) :
    sentBy i us = units (carried i es) := by
  cases ht : s.tasks[i]? with
  | none =>
    obtain ⟨hcarried, hsent⟩ := h.others i (List.getElem?_eq_none_iff.1 ht)
    rw [hsent, hcarried, units_nil]
  | some t =>
    have haccounts := h.accounts i t ht
    have hstage := stage_of_isDone hdone ht
    have hended : t.hasEnded := by
      simpa [Task.Stands, hstage] using haccounts.stands
    have hconserves := haccounts.conserves [] fun _ => rfl
    rw [haccounts.ended hended] at hconserves
    simpa [Task.inHand, hstage] using hconserves

theorem mem_sentBy {u : Nat × Bytes} (h : u ∈ us) : u.2 ∈ sentBy u.1 us :=
  List.mem_map_of_mem (List.mem_filter.2 ⟨h, beq_self_eq_true u.1⟩)

/-- A state that is accounted for has received the units of the connections. -/
theorem State.Accounts.separates (h : s.Accounts es us) (hp : s.Delivers us) :
    ∃ begun, Separates es s us begun := by
  obtain ⟨begun, hwritten, hbegun⟩ := hp
  refine ⟨begun, hwritten, fun u hu => ⟨?_, ?_⟩, h.sentBy_prefix, fun hne => ?_,
    fun hdone => ⟨?_, fun i => ?_⟩⟩
  · by_contra hlt
    have hmem := mem_sentBy hu
    rw [(h.others u.1 (Nat.le_of_not_lt hlt)).2] at hmem
    cases hmem
  · exact mem_units ((h.sentBy_prefix u.1).subset (mem_sentBy hu))
  · cases hbegun with
    | nothing => exact absurd rfl hne
    | @one i unit buffer count ended ht alone =>
      exact ⟨i, unit, List.take_prefix count unit, (h.accounts i _ ht).isPrefix⟩
  · refine hbegun.eq_nil (isFree_iff.2 fun i t ht => ?_)
    simp [Task.isWriting, stage_of_isDone hdone ht]
  · rw [h.sentBy_of_isDone hdone i]
    exact ⟨_, rfl, SyslogFraming.flatten_frames _ _, flatten_units _⟩

end Apart

/-- **Connections are kept apart in every run**, in whatever chunks their octets come and in
whatever order the tasks take their steps. -/
theorem run_keepsApart {es : List Event} {s : State} (h : run .starting es = some s) :
    KeepsApart es s := by
  obtain ⟨us, haccounts, hdelivers⟩ :=
    exists_accounts_of_run [] accounts_starting delivers_starting h
  rw [List.nil_append] at haccounts
  refine ⟨fun hmax => ?_, ⟨us, haccounts.separates hdelivers⟩, fun more s' hown hrun => ⟨?_, ?_⟩⟩
  · have hrejected := haccounts.rejects hmax
    have hadmits := haccounts.admits
    exact ⟨hrejected, by omega⟩
  · have hle := length_le_of_run hown hrun
    omega
  · obtain ⟨us', haccounts', -⟩ := exists_accounts_of_run es haccounts hdelivers hrun
    by_cases hdone : s'.isDone
    · exact .inl hdone
    · exact .inr (exists_step haccounts' hdone)

/-- Two connections, of which the first is cut short and the second waits for the first. -/
theorem run_keepsApart_two :
    run .starting [.accepted, .accepted, .received 0 [97], .received 1 [98, 10], .locked 1,
        .wrote 1 1, .ended 0, .wrote 1 1, .locked 0, .ended 1, .wrote 0 2, .ended 0] =
      some ⟨[⟨.done, [], true⟩, ⟨.done, [], true⟩], 0, [98, 10, 97, 10], 0⟩ ∧
    KeepsApart [.accepted, .accepted, .received 0 [97], .received 1 [98, 10], .locked 1,
        .wrote 1 1, .ended 0, .wrote 1 1, .locked 0, .ended 1, .wrote 0 2, .ended 0]
      ⟨[⟨.done, [], true⟩, ⟨.done, [], true⟩], 0, [98, 10, 97, 10], 0⟩ :=
  ⟨by decide +kernel, run_keepsApart (by decide +kernel)⟩

end SyslogConnections

end LogWatch
