import LogWatch.Proofs.Delivery.Calls
import LogWatch.Proofs.Incident

/-!
# What failed is sent again

A report that could not be delivered is put into the spool as it is, without its stamp, and is
stamped when it is sent again. What the receiver then gets is the line that it would have got at
first, provided the report is **durable** (`LogWatch.Incident.IsDurable`); and the line of a report
is discarded only if the report cannot be read again (`LogWatch.Spool.run_resends`).

Not every report that is made is durable. In a line that is a JSON object as many arrays and objects
may be nested as in the line of a report, but in the line of a report the object lies two levels
deeper. So there are lines whose reports can be delivered at first but never again
(`LogWatch.Spool.exists_discarded`). And a number may come back as its neighbour
(`LogWatch.Spool.exists_changed`).
-/

namespace LogWatch

namespace Spool

open Json (Node)

/-! ### Whole runs -/

section Runs

variable {start : List Bytes} {h : List Turn} {item : Item}

/-- Behind the entries of the file at first there are the reports that were added. -/
theorem exists_enqueued (hitem : item ∈ written start h) (hnumber : start.length ≤ item.2) :
    ∃ r ∈ enqueued h, item.1 = reportLine r := by
  rw [written, List.mem_zipIdx_iff_getElem?, List.getElem?_append_right hnumber] at hitem
  obtain ⟨r, hr, heq⟩ := List.mem_map.mp (List.mem_of_getElem? hitem)
  exact ⟨r, hr, heq.symm⟩

/-- A report that was added is one of an event. -/
theorem mem_of_mem_enqueued {s : Shared} {es : List Event} {r : Report}
    (hr : r ∈ enqueued (history s es)) : Event.enqueued r ∈ es := by
  induction es generalizing s with
  | nil => simp [history, enqueued] at hr
  | cons e es ih =>
    rw [history] at hr
    cases hstep : s.step e with
    | none => simp [hstep, enqueued] at hr
    | some t =>
      simp only [hstep, enqueued, List.filterMap_cons] at hr
      split at hr
      · exact List.mem_cons_of_mem _ (ih hr)
      · next r' heq =>
        rcases List.mem_cons.mp hr with rfl | hr
        · cases e with
          | enqueued r' =>
            obtain rfl := Option.some.inj heq
            exact List.mem_cons_self
          | _ => simp [Turn.enqueued?] at heq
        · exact List.mem_cons_of_mem _ (ih hr)

/-- The line that is on its way is one of the file at first or of a report that was added. -/
theorem Account.mem_of_sending {s : Shared} {live : List Item} {tried : List Attempt}
    {lost : List Item} (ha : Account start h s live tried lost) {p : Pass}
    (hp : s.spool.pass = some p) {line : Bytes} {r : Report} (hs : p.sending = some (line, r)) :
    (line ∈ start ∨ ∃ r ∈ Spool.enqueued h, line = reportLine r) ∧ Report.read? line = some r := by
  obtain ⟨looked, added, ht⟩ := ha.inOrder.pass p hp
  refine ⟨?_, ht.reads line r hs⟩
  have hmem : line ∈ s.spool.unsettled := by
    rw [(ht.unsettled_taken hp hs).1]
    simp
  rw [← ha.live_eq] at hmem
  obtain ⟨item, hitem, rfl⟩ := List.mem_map.mp hmem
  have hwritten := List.fst_mem_of_mem_zipIdx (ha.sublist.subset hitem)
  rcases List.mem_append.mp hwritten with hline | hline
  · exact .inl hline
  · obtain ⟨r, hr, heq⟩ := List.mem_map.mp hline
    exact .inr ⟨r, hr, heq.symm⟩

/-- **What failed is sent again as it would have been at first.** However reports that were made are
added to a spool, passes called for and reports taken or refused:

* of the lines that were added, only those are discarded whose reports cannot be read again;
* what a pass sends for a line that was added is the report with its numbers read again, and if the
  report is durable, the receiver writes the same line for it, whatever the stamp. -/
theorem run_resends (file : Option Bytes) (hfile : IsProper (file.getD []))
    (hreturns : 13 ∉ file.getD []) :
    ∃ spool, openOn file = .ok spool ∧ ∀ es s, Shared.run ⟨spool, 0, 0⟩ es = some s →
      (∀ r ∈ enqueued (history ⟨spool, 0, 0⟩ es), Incident.IsMade r) →
      (∃ live tried lost,
        Account (entries (file.getD [])) (history ⟨spool, 0, 0⟩ es) s live tried lost ∧
        ∀ item ∈ lost, (entries (file.getD [])).length ≤ item.2 →
          ∃ r ∈ enqueued (history ⟨spool, 0, 0⟩ es), item.1 = reportLine r ∧ ¬r.IsReadable) ∧
      ∀ p line r', s.spool.pass = some p → p.sending = some (line, r') →
        line ∈ entries (file.getD []) ∨
        ∃ r ∈ enqueued (history ⟨spool, 0, 0⟩ es), line = reportLine r ∧ r' = r.reread ∧
          (Incident.IsDurable r → ∀ (stamp : Stamp) (out : LineOutput),
            out.deliver (stamp.apply r') = out.deliver (stamp.apply r)) := by
  obtain ⟨spool, hopen, hin, hoctets, hpass⟩ := exists_openOn hfile
  refine ⟨spool, hopen, fun es s hrun hmade => ?_⟩
  have hnew := account_new hin hpass
  rw [hoctets] at hnew
  obtain ⟨live, tried, lost, ha⟩ := hnew.run (fun line => hfile.not_mem_of_mem hreturns) hrun
  rw [List.nil_append] at ha
  have hread (r : Report) (hr : r ∈ enqueued (history ⟨spool, 0, 0⟩ es)) :
      Report.read? (reportLine r) = if r.IsReadable then some r.reread else none :=
    Report.read?_reportLine (hmade r hr).isPlain.sound
  refine ⟨⟨live, tried, lost, ha, fun item hitem hnumber => ?_⟩, fun p line r' hp hs => ?_⟩
  · -- what was lost is an entry, and no report
    have hwritten : item ∈ written (entries (file.getD [])) (history ⟨spool, 0, 0⟩ es) :=
      ha.perm.subset (List.mem_append_right _ hitem)
    obtain ⟨r, hr, heq⟩ := exists_enqueued hwritten hnumber
    refine ⟨r, hr, heq, fun hreadable => ?_⟩
    have hnone := ha.unread item hitem
    rw [heq, hread r hr, if_pos hreadable] at hnone
    exact absurd hnone (by simp)
  · obtain ⟨hline | ⟨r, hr, rfl⟩, hsome⟩ := ha.mem_of_sending hp hs
    · exact .inl hline
    · rw [hread r hr] at hsome
      split at hsome
      · obtain rfl := Option.some.inj hsome
        refine .inr ⟨r, hr, rfl, rfl, fun hdurable stamp out => ?_⟩
        rw [LineOutput.deliver, LineOutput.deliver,
          stamp.jsonLine_apply_reread ((hmade r hr).isLasting hdurable)]
      · simp at hsome

/-- An alert that is added, and a pass that sends it. -/
theorem run_resends_alert :
    let r := Incident.recoveryAlert ⟨"", 0⟩ "a"
    ∃ s r', Shared.run ⟨⟨none, 0, 0, none⟩, 0, 0⟩ [.enqueued r, .called, .begun, .advanced] =
        some s ∧ s.spool.sending? = some r' ∧ ∀ (stamp : Stamp) (out : LineOutput),
          out.deliver (stamp.apply r') = out.deliver (stamp.apply r) := by
  intro r
  obtain ⟨spool, hopen, hruns⟩ := run_resends none isProper_nil (by simp)
  obtain rfl : (⟨none, 0, 0, none⟩ : Spool) = spool := Except.ok.inj hopen
  obtain ⟨s, hrun⟩ : ∃ s, Shared.run ⟨⟨none, 0, 0, none⟩, 0, 0⟩
      [.enqueued r, .called, .begun, .advanced] = some s :=
    Option.isSome_iff_exists.mp (by decide +kernel)
  obtain ⟨r', hsending⟩ : ∃ r', s.spool.sending? = some r' := by
    have hsome : (Shared.run ⟨⟨none, 0, 0, none⟩, 0, 0⟩
        [.enqueued r, .called, .begun, .advanced]).any (·.spool.sending?.isSome) = true := by
      decide +kernel
    rw [hrun] at hsome
    exact Option.isSome_iff_exists.mp hsome
  have hone : ∀ q ∈ enqueued (history ⟨⟨none, 0, 0, none⟩, 0, 0⟩
      [.enqueued r, .called, .begun, .advanced]), q = r := by
    intro q hq
    simpa using mem_of_mem_enqueued hq
  have hmade : Incident.IsMade r := .recovery _ _
  have hdurable : Incident.IsDurable r := by
    refine ⟨?_, by simp [r, Incident.recoveryAlert, Report.withTag, Report.new], ?_⟩
    · have htime : (Report.timeReread? 0).map (fun x => (Json.Number.float x).chars) =
          some (Json.Number.float 0).chars := by decide +kernel
      exact Option.map_eq_some_iff.mp htime
    · simp [r, Incident.recoveryAlert, Report.withTag, Report.new]
  obtain ⟨p, hp, hp'⟩ := Option.bind_eq_some_iff.mp hsending
  obtain ⟨⟨line, q⟩, hs, rfl⟩ := Option.map_eq_some_iff.mp hp'
  rcases (hruns _ s hrun fun q hq => hone q hq ▸ hmade).2 p line q hp hs with hfile |
    ⟨q', hq', -, -, hsame⟩
  · simp [entries_nil] at hfile
  · obtain rfl := hone q' hq'
    exact ⟨s, q, hrun, hsending, hsame hdurable⟩

end Runs

/-! ### Reports that do not come back as they were -/

section Losses

/-- What happens to a report that fails, and is sent again. -/
def failure (r : Report) : List Event := [.enqueued r, .called, .begun, .advanced]

/-- A spool without a file, of which nobody makes use yet. -/
def unused : Shared := ⟨⟨none, 0, 0, none⟩, 0, 0⟩

/-- **A report that failed is read again**, and sent or discarded. -/
theorem exists_run_failure (r : Report) :
    ∃ s, unused.run (failure r) = some s ∧ s.spool.sending? = Report.read? (reportLine r) ∧
      discarded (history unused (failure r)) =
        if Report.read? (reportLine r) = none then [reportLine r] else [] := by
  obtain ⟨spool, hopen, hin, -, -⟩ :=
    exists_openOn (show IsProper ((none : Option Bytes).getD []) from isProper_nil)
  obtain rfl : (⟨none, 0, 0, none⟩ : Spool) = spool := Except.ok.inj hopen
  -- a pass begins, with that one line before it
  obtain ⟨full, hfull⟩ : ∃ s, s = enqueue ⟨none, 0, 0, none⟩ r := ⟨_, rfl⟩
  have hoctets : full.octets = lineOf r := by
    rw [hfull, octets_enqueue]
    rfl
  have hbegin := (hin.enqueue r).begin_eq
  rw [← hfull] at hbegin
  have hremaining : (Pass.starting full.octets).remaining = [reportLine r] := by
    rw [hoctets]
    exact entries_lineOf r
  have hnone : full.pass = none := by
    rw [hfull]
    rfl
  have hbegun : Shared.step ⟨full, 1, 0⟩ .begun =
      some ⟨{ full with pass := some (Pass.starting full.octets) }, 1, 1⟩ := by
    simp [Shared.step, hnone, hbegin]
  obtain ⟨busy, hbusy⟩ : ∃ b : Spool, b = { full with pass := some (Pass.starting full.octets) } :=
    ⟨_, rfl⟩
  rw [← hbusy] at hbegun
  have hpass : busy.pass = some (Pass.starting full.octets) := by rw [hbusy]
  have hadvanced : Shared.step ⟨busy, 1, 1⟩ .advanced = some ⟨busy.advance, 1, 1⟩ := by
    simp [Shared.step, hpass, Pass.starting]
  have henqueued : unused.step (.enqueued r) = some ⟨full, 0, 0⟩ := by
    rw [hfull]
    rfl
  have hcalled : Shared.step ⟨full, 0, 0⟩ .called = some ⟨full, 1, 0⟩ := rfl
  refine ⟨⟨busy.advance, 1, 1⟩, ?_, ?_, ?_⟩
  · simp only [failure, Shared.run, henqueued, hcalled, hbegun, hadvanced]
  · rcases advance_cases hpass rfl with ⟨hrest, -⟩ | ⟨line, rest, r', hrest, hread, hadvance⟩ |
      ⟨line, rest, hrest, hread, hadvance⟩
    · rw [hremaining] at hrest
      simp at hrest
    · rw [hremaining, List.cons.injEq] at hrest
      rw [hrest.1, hread]
      simp only [hadvance]
      rfl
    · rw [hremaining, List.cons.injEq] at hrest
      rw [hrest.1, hread]
      simp only [hadvance]
      rfl
  · simp only [failure, history, henqueued, hcalled, hbegun, hadvanced, discarded,
      List.filterMap_cons, List.filterMap_nil, Turn.discarded?, hpass, Option.bind_some, hremaining]
    cases hread : Report.read? (reportLine r) <;> simp [Option.filter, hread]

/-- The report of a line in which a context was found, made at the beginning of 1970. -/
def reportOf (line : Bytes) (context : Json.Members) : Report :=
  Incident.report ⟨"", 0⟩ "a" (Batch.ofLine line none ⟨none, some context, ""⟩) none

theorem isMade_reportOf {line : Bytes} {context : Json.Members}
    (hlength : line.length < Nat.pow 2 64) (h : FieldPattern.document? line = some context) :
    Incident.IsMade (reportOf line context) := by
  refine .batch _ _ _ _ (show 1 < Nat.pow 2 64 by decide) hlength ?_ (by simp)
  rintro context ⟨⟩
  exact ⟨.json ⟨"", .empty⟩, FieldPattern.document?, line, rfl, h⟩

theorem contexts_reportOf {line : Bytes} {context : Json.Members} (h : context ≠ []) :
    (reportOf line context).contexts = [(Incident.logDataContext, context)] := by
  cases context with
  | nil => exact absurd rfl h
  | cons p context => rfl

/-- Arrays within one another, one more than `n`. -/
def nested : Nat → Json
  | 0 => .arr []
  | n + 1 => .arr [nested n]

theorem height_nested (n : Nat) : (nested n).height = n + 1 := by
  induction n with
  | zero => rfl
  | succ n ih => simp [nested, Json.height, Json.itemsHeight, ih]

theorem numbers_nested (n : Nat) : (nested n).numbers = [] := by
  induction n with
  | zero => rfl
  | succ n ih => simp [nested, Json.numbers, Json.itemsNumbers, ih]

theorem isSound_nested (n : Nat) : (nested n).IsSound := by
  induction n with
  | zero => trivial
  | succ n ih => exact ⟨ih, trivial⟩

theorem reread_nested (n : Nat) : (nested n).reread = nested n := by
  induction n with
  | zero => rfl
  | succ n ih => simp [nested, Json.reread, Json.itemsReread, ih]

/-- **A report whose context is nested too deeply is not read again.** -/
theorem read?_of_height_lt {r : Report} (h : Incident.IsMade r) {p : String × Json.Members}
    (hp : p ∈ r.contexts) (hheight : Report.maxDepth < (Json.obj p.2).height) :
    Report.read? (reportLine r) = none := by
  rw [Report.read?_reportLine h.isPlain.sound, if_neg]
  exact fun hr => absurd (hr.contexts p hp).1 (Nat.not_le.mpr hheight)

/-- **A report can be lost on its way through the spool**: a line may hold an object that a detector
finds, but that cannot be read again two levels deeper. -/
theorem exists_discarded :
    ∃ line context s, FieldPattern.document? line = some context ∧
      Incident.IsMade (reportOf line context) ∧
      unused.run (failure (reportOf line context)) = some s ∧
      discarded (history unused (failure (reportOf line context))) =
        [reportLine (reportOf line context)] := by
  let context : Json.Members := [("a", nested 125)]
  have hheight : (Json.obj context).height = Node.maxDepth := by
    simp [context, Json.height, Json.membersHeight, height_nested]
    rfl
  have hnumbers : (Json.obj context).numbers = [] := by
    simp [context, Json.numbers, Json.membersNumbers, numbers_nested]
  have hsound : (Json.obj context).IsSound :=
    ⟨List.pairwise_singleton _ _, isSound_nested 125, trivial⟩
  have hreread : (Json.obj context).reread = .obj context := by
    simp [context, Json.reread, Json.membersReread, reread_nested]
  obtain ⟨line, hline⟩ : ∃ line, line = Json.octets (Json.obj context).chars := ⟨_, rfl⟩
  have hdocument : FieldPattern.document? line = some context := by
    rw [hline, FieldPattern.document?, Json.read?_chars hsound,
      if_pos ⟨hheight.le, by simp [hnumbers]⟩, hreread]
  have hlength : line.length < Nat.pow 2 64 := by
    rw [hline]
    decide +kernel
  have hmade := isMade_reportOf hlength hdocument
  have hlost : Report.read? (reportLine (reportOf line context)) = none := by
    refine read?_of_height_lt hmade (p := (Incident.logDataContext, context)) ?_ ?_
    · rw [contexts_reportOf (by simp [context])]
      exact List.mem_singleton_self _
    · rw [hheight]
      decide
  obtain ⟨s, hrun, -, hdiscarded⟩ := exists_run_failure (reportOf line context)
  rw [if_pos hlost] at hdiscarded
  exact ⟨line, context, s, hdocument, hmade, hrun, hdiscarded⟩

/-- A line with a number whose digits are read as its neighbour when they come back. -/
def unsteady : Bytes := Bytes.ofString "\x7b\"x\":6.806186646225878e-08\x7d"

/-- **A report can be changed on its way through the spool**: the digits that are written for a
number may be read as another one. -/
theorem exists_changed :
    ∃ context s r', FieldPattern.document? unsteady = some context ∧
      Incident.IsMade (reportOf unsteady context) ∧
      unused.run (failure (reportOf unsteady context)) = some s ∧
      s.spool.sending? = some r' ∧
      (Stamp.apply ⟨"", ""⟩ r').jsonLine ≠
        (Stamp.apply ⟨"", ""⟩ (reportOf unsteady context)).jsonLine := by
  obtain ⟨context, hcontext⟩ : ∃ context, context = (FieldPattern.document? unsteady).getD [] :=
    ⟨_, rfl⟩
  have hdocument : FieldPattern.document? unsteady = some context := by
    obtain ⟨context', hsome⟩ : ∃ context, FieldPattern.document? unsteady = some context :=
      Option.isSome_iff_exists.mp (by decide +kernel)
    rw [hcontext, hsome]
    rfl
  have hchanged : (Report.read? (reportLine (reportOf unsteady context))).any (fun r' =>
      (Stamp.apply ⟨"", ""⟩ r').jsonLine !=
        (Stamp.apply ⟨"", ""⟩ (reportOf unsteady context)).jsonLine) = true := by
    rw [hcontext]
    decide +kernel
  obtain ⟨r', hread, hne⟩ := (Option.any_eq_true _ _).mp hchanged
  obtain ⟨s, hrun, hsending, -⟩ := exists_run_failure (reportOf unsteady context)
  exact ⟨context, s, r', hdocument, isMade_reportOf (by decide +kernel) hdocument, hrun,
    hsending.trans hread, by simpa using hne⟩

end Losses

end Spool

end LogWatch
