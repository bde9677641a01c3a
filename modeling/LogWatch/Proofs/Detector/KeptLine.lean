import LogWatch.Detector.Inquiry
import Mathlib.Data.List.Basic

/-!
# No reply depends on the line that is kept

The detector of JSON objects is asked several questions about a line, and keeps the line that it
has read with its members. Every question replaces what is kept when it is about another line, and
several callers may ask at once: looking at what is kept and replacing it are two steps of a call,
and the steps of other calls may come between them. Nevertheless every reply is the one that reading
the line afresh gives (`LogWatch.Detector.replies_eq_fresh`).

The invariant is that what is kept **has been read**: the members that are kept are those of the
line that is kept (`LogWatch.KeptLine.IsRead`). Both steps preserve it, whatever has happened in
between, since neither relies on what an earlier one has seen of what is kept.
-/

namespace LogWatch

/-! ### What is kept has been read -/

namespace Detector.KeptLine

/-- The members that are kept are those of the line that is kept. -/
def IsRead (kept : Option KeptLine) : Prop :=
  ∀ r ∈ kept, FieldPattern.document? r.line = some r.members

variable {kept : Option KeptLine} {ms : Json.Members} (line : Bytes)

theorem isRead_none : IsRead none := nofun

/-- What is found are the members of the line. -/
theorem document?_of_find? {line : Bytes} (h : IsRead kept) (hfind : find? kept line = some ms) :
    FieldPattern.document? line = some ms := by
  obtain ⟨r, hr, rfl⟩ := Option.map_eq_some_iff.mp hfind
  obtain ⟨hkept, hline⟩ := Option.filter_eq_some_iff.mp hr
  rw [← eq_of_beq hline]
  exact h r hkept

/-- What is kept of a line that has just been read has been read. -/
theorem isRead_keep : IsRead (keep line (FieldPattern.document? line)) := by
  intro r hr
  obtain ⟨ms, hms, rfl⟩ := Option.map_eq_some_iff.mp hr
  exact hms

/-- **A call has the members of its line, and leaves what has been read.** -/
theorem document_spec (h : IsRead kept) :
    (document kept line).1 = FieldPattern.document? line ∧ IsRead (document kept line).2 := by
  rw [document]
  split
  · next hfind => exact ⟨(document?_of_find? h hfind).symm, h⟩
  · exact ⟨rfl, isRead_keep line⟩

end Detector.KeptLine

namespace Detector

open KeptLine

/-! ### One call after the other -/

section Sequence

variable {p : FieldPattern} {m : Memory} {q : Inquiry}

/-- What is replied on the members of the line is what is replied if the line is read afresh. -/
theorem replyOn_document? :
    replyOn p (FieldPattern.document? q.line) q.question = (Detector.json p).reply none q := by
  rw [reply]
  cases q.question <;> rfl

/-- **A reply is the one that reading the line afresh gives**, and what is kept has been read
again. -/
theorem ask_json (h : IsRead m.kept) :
    ((Detector.json p).ask m q).1 = (Detector.json p).reply none q ∧
      IsRead ((Detector.json p).ask m q).2.kept := by
  by_cases hquestion : q.question = .message
  · rw [ask, if_pos hquestion, ← replyOn_document?, hquestion]
    exact ⟨rfl, h⟩
  · obtain ⟨hdocument, hread⟩ := document_spec q.line h
    rw [ask, if_neg hquestion, ← replyOn_document?, ← hdocument]
    exact ⟨rfl, hread⟩

theorem replies_json (h : IsRead m.kept) (qs : List Inquiry) :
    (Detector.json p).replies m qs = qs.map ((Detector.json p).reply none) := by
  induction qs generalizing m with
  | nil => rfl
  | cons q qs ih =>
    obtain ⟨hreply, hread⟩ := ask_json (p := p) (q := q) h
    rw [replies, hreply, ih hread, List.map_cons]

end Sequence

/-! ### Calls at the same time -/

/-- How far a call has come. -/
inductive Stage
  /-- It has not looked at what is kept. -/
  | arrived
  /-- It has looked and not found its line. -/
  | missed
  /-- It has the members of its line. -/
  | served (document : Option Json.Members)

/-- A question of some caller that needs the members of the line. -/
structure Call where
  /-- The question. -/
  inquiry : Inquiry
  /-- How far the call has come. -/
  stage : Stage

/-- What the detector keeps, and all calls that have been made. -/
structure Calls where
  /-- The last line that was read as an object. -/
  kept : Option KeptLine := none
  /-- The calls, in the order in which they were made. -/
  calls : List Call := []

/-- What happens next. -/
inductive Turn
  /-- Somebody asks. -/
  | asked (q : Inquiry)
  /-- A call takes its next step. -/
  | moved (i : Nat)

/-- The next step of a call, during which no other one looks at what is kept or replaces it; what is
kept after it, and how far the call has come. -/
def Call.move? (kept : Option KeptLine) (c : Call) : Option (Option KeptLine × Stage) :=
  match c.stage with
  | .arrived => some (kept, (find? kept c.inquiry.line).elim .missed (.served ∘ some))
  | .missed =>
    let document := FieldPattern.document? c.inquiry.line
    some (keep c.inquiry.line document, .served document)
  | .served _ => none

/-- The number of steps that a call may still have to take. -/
def Stage.owed : Stage → Nat
  | .arrived => 2
  | .missed => 1
  | .served _ => 0

/-- What one turn makes of the calls, if it can happen. -/
def Calls.turn? (cs : Calls) : Turn → Option Calls
  | .asked q =>
    if q.question = .message then none else some { cs with calls := cs.calls ++ [⟨q, .arrived⟩] }
  | .moved i => do
    let c ← cs.calls[i]?
    let (kept, stage) ← c.move? cs.kept
    return ⟨kept, cs.calls.set i { c with stage }⟩

/-- What some turns make of the calls, if they can happen. -/
def Calls.run? (cs : Calls) (turns : List Turn) : Option Calls := turns.foldlM Calls.turn? cs

/-- **What is kept has been read, and every call has at most the members of its line.** -/
structure Calls.IsRead (cs : Calls) : Prop where
  kept : KeptLine.IsRead cs.kept
  served : ∀ c ∈ cs.calls, ∀ document, c.stage = .served document →
    document = FieldPattern.document? c.inquiry.line

section Concurrency

variable {p : FieldPattern} {cs cs' : Calls} {c : Call} {kept kept' : Option KeptLine}
  {stage : Stage} {turn : Turn} {turns : List Turn}

/-- The step of a call leaves what has been read, and hands out at most the members of its line. -/
theorem Call.isRead_of_move? (h : KeptLine.IsRead kept)
    (hmove : c.move? kept = some (kept', stage)) :
    KeptLine.IsRead kept' ∧
      ∀ document, stage = .served document → document = FieldPattern.document? c.inquiry.line := by
  rw [Call.move?] at hmove
  split at hmove
  · obtain ⟨rfl, rfl⟩ : kept = kept' ∧ _ = stage := by simpa using hmove
    refine ⟨h, fun document hserved => ?_⟩
    cases hfind : find? kept c.inquiry.line with
    | none => simp [hfind] at hserved
    | some ms =>
      obtain rfl : some ms = document := by simpa [hfind] using hserved
      exact (document?_of_find? h hfind).symm
  · obtain ⟨rfl, rfl⟩ : _ = kept' ∧ _ = stage := by simpa using hmove
    exact ⟨isRead_keep _, fun document hserved => (Stage.served.inj hserved).symm⟩
  · simp at hmove

/-- A call that has not been served can take its next step, and then owes less. -/
theorem Call.exists_move? (kept : Option KeptLine) (h : 0 < c.stage.owed) :
    ∃ kept' stage, c.move? kept = some (kept', stage) ∧ stage.owed < c.stage.owed := by
  obtain ⟨inquiry, stage⟩ := c
  cases stage with
  | arrived =>
    refine ⟨_, _, rfl, ?_⟩
    cases find? kept inquiry.line with
    | none => exact Nat.one_lt_two
    | some ms => exact Nat.two_pos
  | missed => exact ⟨_, _, rfl, Nat.one_pos⟩
  | served document => exact absurd h (Nat.lt_irrefl 0)

theorem Calls.IsRead.next (h : cs.IsRead) (hturn : cs.turn? turn = some cs') : cs'.IsRead := by
  cases turn with
  | asked q =>
    rw [Calls.turn?] at hturn
    split at hturn
    · simp at hturn
    · obtain rfl : _ = cs' := Option.some.inj hturn
      refine ⟨h.kept, fun c hc document hserved => ?_⟩
      rcases List.mem_append.mp hc with hc | hc
      · exact h.served c hc document hserved
      · rw [List.mem_singleton.mp hc] at hserved
        simp at hserved
  | moved i =>
    obtain ⟨c, -, hturn⟩ := Option.bind_eq_some_iff.mp hturn
    obtain ⟨⟨kept, stage⟩, hmove, hturn⟩ := Option.bind_eq_some_iff.mp hturn
    obtain rfl : _ = cs' := Option.some.inj hturn
    obtain ⟨hkept, hserved⟩ := Call.isRead_of_move? h.kept hmove
    refine ⟨hkept, fun c' hc' => ?_⟩
    rcases List.mem_or_eq_of_mem_set hc' with hc' | rfl
    · exact h.served c' hc'
    · exact hserved

theorem Calls.IsRead.run (h : cs.IsRead) (hrun : cs.run? turns = some cs') : cs'.IsRead := by
  induction turns generalizing cs with
  | nil =>
    obtain rfl : cs = cs' := Option.some.inj hrun
    exact h
  | cons turn turns ih =>
    rw [Calls.run?, List.foldlM_cons] at hrun
    obtain ⟨next, hturn, hrun⟩ := Option.bind_eq_some_iff.mp hrun
    exact ih (h.next hturn) hrun

/-- A call that nobody comes between is what a single caller sees. -/
theorem Calls.run?_alone {q : Inquiry} (hquestion : q.question ≠ .message) :
    ∃ turns, Calls.run? ⟨kept, []⟩ (.asked q :: turns) =
      some ⟨(document kept q.line).2, [⟨q, .served (document kept q.line).1⟩]⟩ := by
  cases hfind : find? kept q.line with
  | some ms =>
    refine ⟨[.moved 0], ?_⟩
    simp [Calls.run?, Calls.turn?, hquestion, Call.move?, document, hfind]
  | none =>
    refine ⟨[.moved 0, .moved 0], ?_⟩
    simp [Calls.run?, Calls.turn?, hquestion, Call.move?, document, hfind]

end Concurrency

/-- **Every reply is the one that reading the line afresh gives**: to questions that are asked one
after the other, and to calls whose steps come in any order. Each call is served after two steps of
its own at most, whatever the others do. -/
theorem replies_eq_fresh (p : FieldPattern) :
    (∀ qs : List Inquiry,
      (Detector.json p).replies {} qs = qs.map ((Detector.json p).reply none)) ∧
    ∀ (turns : List Turn) (cs : Calls), Calls.run? {} turns = some cs →
      (∀ c ∈ cs.calls, ∀ document, c.stage = .served document →
        replyOn p document c.inquiry.question = (Detector.json p).reply none c.inquiry) ∧
      ∀ (i : Nat) (c : Call), cs.calls[i]? = some c → 0 < c.stage.owed →
        ∃ kept stage, cs.turn? (.moved i) = some ⟨kept, cs.calls.set i { c with stage }⟩ ∧
          stage.owed < c.stage.owed := by
  refine ⟨replies_json isRead_none, fun turns cs hrun => ⟨fun c hc document hserved => ?_,
    fun i c hc howed => ?_⟩⟩
  · have hread : cs.IsRead := Calls.IsRead.run ⟨isRead_none, by simp⟩ hrun
    rw [hread.served c hc document hserved, replyOn_document?]
  · obtain ⟨kept, stage, hmove, hless⟩ := Call.exists_move? cs.kept howed
    exact ⟨kept, stage, by simp [Calls.turn?, hc, hmove], hless⟩

/-- One caller has looked for an object, and before it keeps the object it is overtaken by another
one with a line that is none. Each is told about its own line. -/
theorem replies_eq_fresh_two_callers :
    let p : FieldPattern := ⟨"level", .empty⟩
    let object : Inquiry := ⟨.context, [123, 125], 0, ⟨0, 0⟩⟩
    let list : Inquiry := ⟨.context, [91, 93], 0, ⟨0, 0⟩⟩
    ∃ cs, Calls.run? {} [.asked object, .asked list, .moved 0, .moved 1, .moved 1, .moved 0] =
        some cs ∧
      cs.calls = [⟨object, .served (some [])⟩, ⟨list, .served none⟩] ∧
      replyOn p (some []) .context = (Detector.json p).reply none object ∧
      replyOn p none .context = (Detector.json p).reply none list := by
  intro p object list
  have hobject : FieldPattern.document? object.line = some [] := rfl
  have hlist : FieldPattern.document? list.line = none := rfl
  have hrun : Calls.run? {} [.asked object, .asked list, .moved 0, .moved 1, .moved 1, .moved 0] =
      some ⟨keep object.line (FieldPattern.document? object.line),
        [⟨object, .served (FieldPattern.document? object.line)⟩,
          ⟨list, .served (FieldPattern.document? list.line)⟩]⟩ := rfl
  rw [hobject, hlist] at hrun
  have hserved := ((replies_eq_fresh p).2 _ _ hrun).1
  exact ⟨_, hrun, rfl, hserved ⟨object, .served (some [])⟩ (by simp) (some []) rfl,
    hserved ⟨list, .served none⟩ (by simp) none rfl⟩

end Detector

end LogWatch
