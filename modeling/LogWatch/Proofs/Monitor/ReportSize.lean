import LogWatch.Proofs.LineSplitting
import LogWatch.Proofs.Monitor.Conservation
import LogWatch.Proofs.Text.Lossy
import Mathlib.Data.List.Induction

/-!
# How long a report can be

Three limits stand between a stream and the report of a batch: a line is cut at 256 KiB, a batch
takes no line that would make it longer than that, and none beyond the thousandth. They hold of the
octets that were read. The message of a report is a text, and to make it one every octet that is no
part of a character is replaced by U+FFFD, which takes three.

So the body of a batch keeps to its limits whatever the stream holds, and the message has as many
lines as the body and as many octets if those are valid UTF-8, but up to three times as many if they
are not (`LogWatch.Monitor.run_bounds_reports`). A line of broken octets gets into a report that is
longer than any batch (`LogWatch.Monitor.exists_long_report`).
-/

namespace LogWatch

/-! ### Lines as messages -/

theorem Kernel.front?_suffix {line body : Bytes} {t : LineTimestamp}
    (h : Kernel.front? line = some (t, body)) : body <:+ line := by
  obtain ⟨inner, hinner, h⟩ := Option.bind_eq_some_iff.mp h
  obtain ⟨⟨bracketed, rest⟩, -, h⟩ := Option.bind_eq_some_iff.mp h
  obtain ⟨epoch, -, h⟩ := Option.bind_eq_some_iff.mp h
  obtain ⟨-, rfl⟩ := Prod.mk.inj (Option.some.inj h)
  have hline : inner <:+ line := by
    rw [Field.octet?.eq_def] at hinner
    split at hinner
    · simp at hinner
    · split at hinner
      · obtain rfl := Option.some.inj hinner
        exact List.suffix_cons _ _
      · simp at hinner
  exact (List.drop_suffix _ inner).trans hline

/-- The message in a kernel line is the end of the line. -/
theorem KernelTrail.message_suffix (line : Bytes) : KernelTrail.message line <:+ line := by
  rw [KernelTrail.message]
  split
  · next t body hfront => exact (List.dropWhile_suffix _).trans (Kernel.front?_suffix hfront)
  · exact List.suffix_refl line

namespace Monitor

section Lines

variable {p : Plan} {s : State} {e : Event} {x : State × List Delivery} {line : Bytes}

/-- A line gets into a batch as it is or without its front. -/
theorem messageOf_suffix (p : Plan) (line : Bytes) : p.messageOf line <:+ line := by
  rw [Plan.messageOf]
  cases p.detector with
  | kernel keywords => exact KernelTrail.message_suffix line
  | _ => exact List.suffix_refl line

/-- **What is being read has been read by the operations of a reader.** -/
def State.ReadsOn (s : State) : Prop :=
  ∀ lines, s.phase = .reading lines → LineReader.IsReached LineReader.maxLine lines

/-- The event is one of a task beside the reader, or comes from outside. -/
def Event.isBeside : Event → Bool
  | .flusherLooks => true
  | .flusherWakes => true
  | .flusherFires => true
  | .flusherStops => true
  | .patrolLooks _ => true
  | .patrolStops => true
  | .dispatched _ _ => true
  | .answered _ => true
  | .stored _ => true
  | .cancelled => true
  | .elapsed _ => true
  | _ => false

theorem phase_begin (origin : Origin) (snapshot : Option Json.Members) (d : Delivery) :
    (begin p s origin snapshot d).phase = s.phase := by
  cases d with
  | alert r => rfl
  | batch b =>
    simp only [begin]
    split <;> rfl

/-- Such an event leaves the reader where it stands. -/
theorem phase_of_act (he : e.isBeside = true) (h : act p s e = some x) : x.1.phase = s.phase := by
  cases e with
  | flusherLooks | flusherWakes | flusherFires | flusherStops =>
    simp only [act, whileSleeping, fire] at h
    grind
  | patrolLooks | patrolStops =>
    simp only [act, lookAfter] at h
    grind
  | dispatched | answered | stored =>
    simp only [act, conclude] at h
    grind [phase_begin]
  | cancelled | elapsed =>
    simp only [act] at h
    grind
  | _ => simp [Event.isBeside] at he

theorem readsOn_endStream : (endStream p s).1.ReadsOn := by
  intro lines hphase
  simp only [endStream, flush] at hphase
  split at hphase <;> simp at hphase

/-- **Reading goes on as it began.** -/
theorem State.ReadsOn.act (h : s.ReadsOn) (hact : act p s e = some x) : x.1.ReadsOn := by
  have hbeside (he : e.isBeside = true) : x.1.ReadsOn := fun lines hphase =>
    h lines (phase_of_act he hact ▸ hphase)
  have hreading {t : State} {r : LineReader} (hphase : t.phase = .reading r)
      (hr : LineReader.IsReached LineReader.maxLine r) : t.ReadsOn := fun lines hlines => by
    obtain rfl : r = lines := Phase.reading.inj (hphase.symm.trans hlines)
    exact hr
  have hother {t : State} (hphase : ∀ r, t.phase ≠ .reading r) : t.ReadsOn := fun lines hlines =>
    absurd hlines (hphase lines)
  cases e with
  | opened =>
    obtain ⟨-, rfl⟩ := whileOpening_eq_some hact
    exact hreading rfl .new
  | received chunk =>
    obtain ⟨lines, hphase, rfl⟩ := whileReading_eq_some hact
    exact hreading rfl ((h lines hphase).looked.received chunk)
  | lineTaken wall =>
    obtain ⟨lines, line, rest, hphase, hnext, rfl⟩ := takeNextLine_eq_some hact
    have hrest := (h lines hphase).looked
    rw [hnext] at hrest
    exact hreading rfl hrest
  | streamEnded wall =>
    obtain ⟨lines, hphase, rfl⟩ := whileReading_eq_some hact
    rw [finishStream]
    split
    · next line rest hfinish =>
      have hrest := (h lines hphase).looked.finished
      rw [hfinish] at hrest
      exact hreading rfl hrest
    · exact readsOn_endStream
  | openFailed =>
    obtain ⟨-, rfl⟩ := whileOpening_eq_some hact
    exact readsOn_endStream
  | readFailed =>
    obtain ⟨-, -, rfl⟩ := whileReading_eq_some hact
    exact readsOn_endStream
  | reopened | interrupted | joined | closed =>
    refine hother fun r => ?_
    simp only [Monitor.act, reopen, interrupt, flush] at hact
    grind
  | _ => exact hbeside rfl

/-- A line that is taken in is one that a reader gives out. -/
theorem State.ReadsOn.isGiven (h : s.ReadsOn) {wall : WallTime}
    (htaken : taken? s e = some (wall, line)) :
    LineReader.IsGiven LineReader.maxLine line := by
  rw [taken?.eq_def] at htaken
  split at htaken
  · split at htaken
    · next lines hphase =>
      obtain ⟨line', hline, heq⟩ := Option.map_eq_some_iff.mp htaken
      obtain ⟨-, rfl⟩ := Prod.mk.inj heq
      exact (h lines hphase).isGiven_next? hline
    · simp at htaken
  · split at htaken
    · next lines hphase =>
      obtain ⟨line', hline, heq⟩ := Option.map_eq_some_iff.mp htaken
      obtain ⟨-, rfl⟩ := Prod.mk.inj heq
      exact (h lines hphase).looked.isGiven_finish hline
    · simp at htaken
  · simp at htaken

theorem isGiven_arrival {a : Batcher.Arrival} (h : s.ReadsOn) (ha : arrival? p s e = some a) :
    LineReader.IsGiven LineReader.maxLine a.line := by
  rw [arrival?] at ha
  split at ha
  · next wall line htaken =>
    split at ha
    · obtain rfl := Option.some.inj ha
      exact (h.isGiven htaken).sublist (messageOf_suffix p line).sublist
    · simp at ha
  · simp at ha

end Lines

/-! ### Batches -/

section Batches

variable {p : Plan} {now : Moment} {es : List Event} {s : State}

/-- **Every line of interest is one that a reader gives out.** -/
theorem isGiven_of_mem_arrivals (hrun : run p (State.starting p now) es = some s)
    {a : Batcher.Arrival} (ha : a ∈ arrivals p (history p (State.starting p now) es)) :
    LineReader.IsGiven LineReader.maxLine a.line := by
  have hinv := run_induction (h := [])
    (fun h s => s.ReadsOn ∧ ∀ a ∈ arrivals p h, LineReader.IsGiven LineReader.maxLine a.line)
    (fun h s e s' ds ⟨hreads, harrivals⟩ hact => by
      refine ⟨hreads.act hact, fun a ha => ?_⟩
      rw [arrivals_snoc] at ha
      rcases List.mem_append.mp ha with ha | ha
      · exact harrivals a ha
      · exact isGiven_arrival hreads (Option.mem_toList.mp ha))
    ⟨fun lines hphase => by simp [State.starting] at hphase, by simp [arrivals]⟩ hrun
  exact hinv.2 a ha

/-- Lines without line feeds are as many as there are line feeds between them, and one more. -/
theorem count_joined {xs : List Batcher.Arrival} (hne : xs ≠ []) (h : ∀ a ∈ xs, 10 ∉ a.line) :
    (Batcher.joined xs).count 10 + 1 = xs.length := by
  induction xs using List.reverseRecOn with
  | nil => exact absurd rfl hne
  | append_singleton xs a ih =>
    have ha : a.line.count 10 = 0 := List.count_eq_zero.mpr (h a (by simp))
    rcases eq_or_ne xs [] with rfl | hne
    · rw [List.nil_append, Batcher.joined_singleton, ha]
      rfl
    · have hxs := ih hne fun b hb => h b (by simp [hb])
      rw [Batcher.joined_snoc hne, List.count_append, List.count_cons_self, ha, List.length_append,
        List.length_singleton]
      lia

/-- **A batch that is handed over keeps to its limits**, and has a line more than its body has line
feeds. -/
theorem batch_bounds (hrun : run p (State.starting p now) es = some s) {b : Batch}
    (hb : b ∈ batches (handed (history p (State.starting p now) es))) :
    b.body.length ≤ 262144 ∧ b.lineCount ≤ 1000 ∧ b.body.count 10 + 1 = b.lineCount := by
  have hg := gathered_of_run hrun
  obtain ⟨segs, tail, hseg⟩ := Batcher.exists_segmented now (calls p _)
  rw [← hg.closed, hseg.closed, List.map_map] at hb
  obtain ⟨seg, hmem, rfl⟩ := List.mem_map.mp hb
  -- the lines of a batch are lines of interest
  have hgiven (a) (ha : a ∈ seg.members) : LineReader.IsGiven LineReader.maxLine a.line := by
    refine isGiven_of_mem_arrivals hrun ?_
    rw [← arrivals_calls, ← hseg.members]
    exact List.mem_append_left _ (List.mem_flatMap.mpr ⟨seg, hmem, ha⟩)
  have hmade := hseg.made seg hmem
  have hadmissible := hseg.admissible seg hmem
  simp only [Function.comp_apply, hmade.body, hmade.lineCount]
  exact ⟨hadmissible.length_joined_le fun a ha => (hgiven a ha).length_le, hadmissible.length_le,
    count_joined hmade.nonempty fun a ha => (hgiven a ha).not_mem⟩

end Batches

/-! ### Reports -/

section Reports

variable {p : Plan} {now : Moment} {es : List Event} {s : State}

/-- Nothing that is added to a report changes its message. -/
theorem message_report (origin : Origin) (source : String) (b : Batch)
    (state : Option Json.Members) :
    (Incident.report origin source b state).message = b.message := by
  have hstate (r : Report) : (Incident.addState r state).message = r.message := by
    cases state <;> rfl
  have hcontext (r : Report) (context : Option Json.Members) :
      (Incident.addContext r context).message = r.message := by
    rw [Incident.addContext.eq_def]
    split <;> rfl
  have hpriority (r : Report) (priority : Option Syslog.Priority) :
      (Incident.tagPriority r priority).message = r.message := by
    cases priority <;> rfl
  have hanchor (r : Report) (anchor : Option LineTimestamp) :
      (Incident.tagAnchor r anchor).message = r.message := by
    cases anchor <;> rfl
  rw [Incident.report, hstate, hcontext, hpriority, hanchor]
  rfl

/-- A report that was sent is one for something that was handed over. -/
theorem exists_handed_of_mem_reports (hrun : run p (State.starting p now) es = some s) {r : Report}
    (hr : r ∈ reports (history p (State.starting p now) es)) :
    ∃ d ∈ handed (history p (State.starting p now) es), IsReportOf p d r := by
  obtain ⟨entered, taken, passed, hd⟩ := exists_delivered_of_run hrun
  obtain ⟨i, hi, rfl⟩ := List.mem_iff_getElem.mp hr
  have hi' : i < passed.length := hd.sent.length_eq ▸ hi
  refine ⟨passed[i], ?_, hd.sent.get hi' hi⟩
  have htaken : passed[i] ∈ taken := hd.passes.subset (List.getElem_mem hi')
  refine hd.enters.subset ?_
  rw [hd.waiting]
  exact List.mem_append_left _ htaken

/-- **How long a report can be**, whatever the stream holds, whatever the detector and however its
tasks took turns. A report is an alert or one of a batch that was handed over. The body of a batch
is at most 256 KiB long and the batch has at most a thousand lines; the message of the report has as
many lines, at most three times as many octets, and exactly the octets of the body if those are
valid UTF-8. -/
theorem run_bounds_reports (hrun : run p (State.starting p now) es = some s) :
    let h := history p (State.starting p now) es
    ∀ r ∈ reports h, .alert r ∈ handed h ∨
      ∃ b ∈ batches (handed h), (∃ origin state, r = Incident.report origin p.name b state) ∧
        b.body.length ≤ 262144 ∧ b.lineCount ≤ 1000 ∧
        (Bytes.ofString r.message).count 10 + 1 = b.lineCount ∧
        (Bytes.ofString r.message).length ≤ 3 * b.body.length ∧
        (Utf8.isValid b.body = true → Bytes.ofString r.message = b.body) := by
  intro h r hr
  obtain ⟨d, hd, hreport⟩ := exists_handed_of_mem_reports hrun hr
  cases d with
  | alert a =>
    obtain rfl : r = a := hreport
    exact .inl hd
  | batch b =>
    have hb : b ∈ batches (handed h) := List.mem_filterMap.mpr ⟨.batch b, hd, rfl⟩
    obtain ⟨origin, state, rfl⟩ := hreport
    obtain ⟨hlength, hlines, hcount⟩ := batch_bounds hrun hb
    refine .inr ⟨b, hb, ⟨origin, state, rfl⟩, hlength, hlines, ?_⟩
    rw [message_report, Batch.message, Utf8.count_ofString_decodeLossy b.body (by decide)]
    exact ⟨hcount, Utf8.length_ofString_decodeLossy_le b.body, Utf8.ofString_decodeLossy⟩

/-- A line with a broken octet at its end, which the message has three octets for. -/
theorem run_bounds_reports_broken_octet :
    let p : Plan := ⟨"m", .custom ⟨"a", .containing [97]⟩, none, none, none, false, true, 0⟩
    let es : List Event := [.opened, .received [97, 255], .streamEnded ⟨0, 0⟩, .streamEnded ⟨0, 0⟩,
      .dispatched ⟨"", 0⟩ none]
    ∃ s, run p (State.starting p 0) es = some s ∧
      ∃ r ∈ reports (history p (State.starting p 0) es),
        (Bytes.ofString r.message).count 10 + 1 ≤ 1000 ∧
        (Bytes.ofString r.message).length ≤ 786432 := by
  intro p es
  obtain ⟨s, hrun⟩ : ∃ s, run p (State.starting p 0) es = some s := ⟨_, rfl⟩
  obtain ⟨r, hr⟩ : ∃ r, reports (history p (State.starting p 0) es) = [r] := ⟨_, rfl⟩
  obtain ⟨b, hb⟩ : ∃ b, handed (history p (State.starting p 0) es) = [.batch b] := ⟨_, rfl⟩
  refine ⟨s, hrun, r, by simp [hr], ?_⟩
  rcases run_bounds_reports hrun r (by simp [hr]) with halert |
    ⟨b, -, -, hlength, hlines, hcount, hmessage, -⟩
  · simp [hb] at halert
  · exact ⟨hcount ▸ hlines, Nat.le_trans hmessage (Nat.mul_le_mul_left 3 hlength)⟩

/-! ### A report that is longer than any batch -/

/-- A letter and broken octets behind it, written as text. -/
theorem length_ofString_broken (n : Nat) :
    (Bytes.ofString (Utf8.decodeLossy (69 :: List.replicate n 0xFF))).length = 1 + 3 * n := by
  have hfront : Utf8.front 69 (List.replicate n 0xFF) = .scalar 'E' (List.replicate n 0xFF) :=
    Utf8.front_of_one (by decide)
  rw [Utf8.decodeLossy, Utf8.lossyOnto_cons hfront, Utf8.ofString_reverse,
    Utf8.length_written_lossyOnto_replicate]
  rfl

/-- The end of a stream that is one line without a line feed. -/
theorem finish_single_line {line : Bytes} (h : 10 ∉ line) (hne : line ≠ [])
    (hlength : line.length ≤ LineReader.maxLine) (hreturn : line.getLast? ≠ some 13) :
    (LineReader.holding LineReader.maxLine 0 [] line).next?.2.finish =
      (some line, LineReader.holding LineReader.maxLine 0 [] []) := by
  have hshown : LineReader.shown LineReader.maxLine line = line := by
    rw [LineReader.shown, List.take_of_length_le hlength, LineReader.withoutReturn, if_neg hreturn]
  have hcut : LineReader.isCut LineReader.maxLine (some line) = false := by
    simpa [LineReader.isCut] using hlength
  rw [LineReader.next?_holding_of_not_mem h]
  simp only [List.nil_append, LineReader.finish_holding, if_neg hne, hshown, hcut]
  rfl

/-- The events take the state `s` to `t`; in between `ds` is handed over and `rs` is sent. -/
structure Leads (p : Plan) (s : State) (es : List Event) (t : State) (ds : List Delivery)
    (rs : List Report) : Prop where
  run_eq : run p s es = some t
  handed_eq : handed (history p s es) = ds
  reports_eq : reports (history p s es) = rs

theorem Leads.nil : Leads p s [] s [] [] := ⟨rfl, rfl, rfl⟩

theorem Leads.cons {e : Event} {s' t : State} {new ds : List Delivery} {rs : List Report}
    (hact : act p s e = some (s', new)) (h : Leads p (s'.submit new) es t ds rs) :
    Leads p s (e :: es) t (new ++ ds)
      ((Entry.sent? ⟨s, e, new, s'.submit new⟩).toList ++ rs) := by
  have hhistory : history p s (e :: es) =
      ⟨s, e, new, s'.submit new⟩ :: history p (s'.submit new) es := by rw [history, hact]
  refine ⟨?_, ?_, ?_⟩
  · rw [run, step, hact]
    exact h.run_eq
  · rw [hhistory, handed, List.flatMap_cons, ← h.handed_eq]
    rfl
  · rw [hhistory, reports, List.filterMap_cons, ← h.reports_eq]
    cases Entry.sent? ⟨s, e, new, s'.submit new⟩ <;> rfl

end Reports

/-- A stream that is one line with a letter in it is told in one report. -/
theorem exists_leads_of_line {line : Bytes} (h : 10 ∉ line) (hne : line ≠ [])
    (hlength : line.length ≤ LineReader.maxLine) (hreturn : line.getLast? ≠ some 13)
    (hletter : Bytes.contains [69] line = true) :
    let p : Plan := ⟨"m", .custom ⟨"E", .containing [69]⟩, none, none, none, false, true, 0⟩
    ∃ s b, b.body = line ∧ Leads p (State.starting p 0)
      [.opened, .received line, .streamEnded ⟨0, 0⟩, .streamEnded ⟨0, 0⟩, .dispatched ⟨"", 0⟩ none]
      s [.batch b] [Incident.report ⟨"", 0⟩ p.name b none] := by
  intro p
  have hfinish := finish_single_line h hne hlength hreturn
  have hdetect : p.detector.detect none 0 line = (true, none) := congrArg (·, none) hletter
  have hhas : (LineReader.holding LineReader.maxLine 0 [] line).hasLine = false := by
    simpa only [LineReader.hasLine, LineReader.holding, List.any_eq_false] using
      fun b hb => by simp [LineReader.bne_of_not_mem h b hb]
  -- when the line has come, when it has been taken in, and when the stream has ended
  let b := Batch.ofLine line (p.timestamp? ⟨0, 0⟩ line) (p.metadata line)
  let come := { State.starting p 0 with
    phase := .reading (LineReader.holding LineReader.maxLine 0 [] line) }
  let taken := { come with
    phase := .reading (LineReader.holding LineReader.maxLine 0 [] [])
    batcher := ⟨some b, 0⟩
    wake := true
    counters := { processed := 1, detected := 1, lastActivity := some (Epoch.ofWallTime ⟨0, 0⟩) } }
  let ended := { taken with phase := .joining, batcher := ⟨none, 0⟩ }
  have hcome : act p come (.streamEnded ⟨0, 0⟩) = some (taken, []) := by
    have hstream : finishStream p come ⟨0, 0⟩
        (LineReader.holding LineReader.maxLine 0 [] line) = (taken, []) := by
      simp only [finishStream, hfinish, takeLineOf, takeLine]
      rw [show p.detector.detect (come.countLine ⟨0, 0⟩).trail (come.countLine ⟨0, 0⟩).now line =
        (true, none) from hdetect]
      rfl
    have hphase : come.phase = .reading (LineReader.holding LineReader.maxLine 0 [] line) := rfl
    simp only [act, whileReading, hphase, mayRead, hhas, hstream]
    rfl
  have htaken : act p taken (.streamEnded ⟨0, 0⟩) = some (ended, [.batch b]) := rfl
  have hsent : act p (ended.submit [.batch b]) (.dispatched ⟨"", 0⟩ none) = some
      ({ ended with courier := .sending (Incident.report ⟨"", 0⟩ p.name b none) }, []) := rfl
  have hopened : act p (State.starting p 0) .opened =
      some ({ State.starting p 0 with phase := .reading (.new LineReader.maxLine) }, []) := rfl
  have hreceived : act p { State.starting p 0 with phase := .reading (.new LineReader.maxLine) }
      (.received line) = some (come, []) := rfl
  have hbody : b.body = line := Batcher.joined_singleton ⟨line, none, default, 0⟩
  exact ⟨_, b, hbody, .cons hopened (.cons hreceived (.cons hcome (.cons htaken
    (.cons hsent .nil))))⟩

/-- **A report can be longer than any batch.** The stream is one line of a letter and 100000 octets
that are no part of any character; the message of its report is more than 256 KiB long. -/
theorem exists_long_report :
    let p : Plan := ⟨"m", .custom ⟨"E", .containing [69]⟩, none, none, none, false, true, 0⟩
    let line : Bytes := 69 :: List.replicate 100000 0xFF
    let es : List Event := [.opened, .received line, .streamEnded ⟨0, 0⟩, .streamEnded ⟨0, 0⟩,
      .dispatched ⟨"", 0⟩ none]
    ∃ s b, run p (State.starting p 0) es = some s ∧
      batches (handed (history p (State.starting p 0) es)) = [b] ∧
      reports (history p (State.starting p 0) es) = [Incident.report ⟨"", 0⟩ p.name b none] ∧
      262144 < (Bytes.ofString (Incident.report ⟨"", 0⟩ p.name b none).message).length := by
  intro p line es
  have hshort : line.length ≤ LineReader.maxLine := by
    rw [List.length_cons, List.length_replicate]
    decide
  have hmem (a : UInt8) (hletter : a ≠ 69) (hbroken : a ≠ 0xFF) : a ∉ line := by
    simp only [line, List.mem_cons, List.mem_replicate, not_or, not_and]
    exact ⟨hletter, fun _ => hbroken⟩
  have hreturn : line.getLast? ≠ some 13 := fun hlast =>
    hmem 13 (by decide) (by decide) (List.mem_of_getLast? hlast)
  obtain ⟨s, b, hbody, hleads⟩ :=
    exists_leads_of_line (hmem 10 (by decide) (by decide)) (List.cons_ne_nil _ _) hshort hreturn rfl
  refine ⟨s, b, hleads.run_eq, by rw [hleads.handed_eq]; rfl, hleads.reports_eq, ?_⟩
  rw [message_report, Batch.message, hbody, length_ofString_broken]
  decide

end Monitor

end LogWatch
