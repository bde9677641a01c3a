import LogWatch.Incident
import LogWatch.Proofs.Delivery.Calls
import LogWatch.Proofs.Json.Preceded
import LogWatch.Proofs.LineSplitting
import LogWatch.Proofs.Text.Lossy

/-!
# A report behind a line that has not been ended

A file that was written to the end ends in a line feed, but one may be found that does not: the
machine went down, or a write came only halfway. A report is put behind the last octet, whatever it
is, and so becomes part of the line that has not been ended.

If there are only blanks in that line, as JSON knows them, the report is an entry of its own and can
be read. If there is anything else, the line is no JSON text whatever it holds, even if what was
there is one by itself (`LogWatch.Report.read?_append`): the next pass discards it, and with it the
report and what was there. The depth tells of the loss only until then: it has been raised by one
although the file has as many entries as before.
-/

namespace LogWatch

/-! ### Something in front of a report -/

namespace Spool

theorem reportLine_eq (r : Report) : reportLine r = Json.octets (Json.obj r.fields).chars := by
  rw [reportLine, Report.jsonText, Json.render, Bytes.ofString_eq, String.toList_ofList,
    Json.octets]

theorem beginsName_reportLine (r : Report) : Json.BeginsName (reportLine r) := by
  rw [reportLine_eq]
  exact ⟨101, _, rfl, fun m => rfl⟩

end Spool

/-- **A line that ends in that of a report is read as the report, or not at all**: it is read if
there are only blanks in front of the report. -/
theorem Report.read?_append (before : Bytes) (r : Report) :
    Report.read? (before ++ Spool.reportLine r) =
      if before.all Json.isSkipped then Report.read? (Spool.reportLine r) else none := by
  have hbegins := Spool.beginsName_reportLine r
  rw [Spool.reportLine_eq] at hbegins ⊢
  rw [read?, read?, Json.Node.ofBytes?_append hbegins]
  split <;> rfl

/-! ### The lines of any text -/

namespace Lines

variable {line : Bytes}

theorem splitOctets_of_not_mem (h : 10 ∉ line) (open_ : Bytes) :
    splitOctets open_ line =
      if (line.reverse ++ open_).isEmpty then [] else [(line.reverse ++ open_).reverse] := by
  induction line generalizing open_ with
  | nil => rfl
  | cons b line ih =>
    rw [List.mem_cons, not_or] at h
    have hb : (b == 10) = false := by simpa using Ne.symm h.1
    rw [splitOctets, hb, if_neg Bool.false_ne_true, ih h.2, List.reverse_cons, List.append_assoc]
    rfl

/-- **The lines of a text** are its finished pieces and what comes behind the last of them. -/
theorem ofBytes_append (text more : Bytes) :
    ofBytes (text ++ more) =
      (LineReader.finished text).map asRead ++ ofBytes (LineReader.unfinished text ++ more) := by
  induction text using LineReader.text_induction with
  | last line h =>
    rw [LineReader.finished_of_not_mem h, LineReader.unfinished_of_not_mem h]
    rfl
  | first line rest h ih =>
    rw [List.append_assoc, List.cons_append, LineReader.finished_append_cons h,
      LineReader.unfinished_append_cons h, ofBytes, splitOctets_append _ _ h, List.append_nil,
      List.map_cons, List.cons_append]
    exact congrArg _ ih

end Lines

namespace Spool

open LineReader (unfinished)

/-! ### The entries of any file -/

section Entries

variable (file : Bytes) (r : Report)

/-- What JSON skips says nothing. -/
theorem all_isBlank_lossyOnto {tail : Bytes} (h : tail.all Json.isSkipped = true)
    {read : List Char} (hread : read.all Blank.isBlank = true) :
    (Utf8.lossyOnto read tail).all Blank.isBlank = true := by
  induction tail generalizing read with
  | nil =>
    rw [Utf8.lossyOnto]
    exact hread
  | cons b tail ih =>
    rw [List.all_cons, Bool.and_eq_true] at h
    have hb : b = 32 ∨ b = 10 ∨ b = 9 ∨ b = 13 := by
      simpa [Json.isSkipped, or_assoc] using h.1
    have hlt : b.toNat < 128 := by rcases hb with rfl | rfl | rfl | rfl <;> decide
    rw [Utf8.lossyOnto_cons (Utf8.front_of_one hlt)]
    refine ih h.2 ?_
    rw [List.all_cons, hread, Bool.and_true]
    rcases hb with rfl | rfl | rfl | rfl <;> decide

theorem isEntry_of_isSkipped {tail : Bytes} (h : tail.all Json.isSkipped = true) :
    isEntry tail = false := by
  rw [isEntry, Utf8.decodeLossy, Blank.isEmpty, String.toList_ofList, List.all_reverse,
    all_isBlank_lossyOnto h rfl]
  rfl

/-- The entries that a line feed ends. -/
def finishedEntries (file : Bytes) : List Bytes :=
  ((LineReader.finished file).map Lines.asRead).filter isEntry

/-- Behind them, a line that has not been ended is an entry if it says something. -/
theorem entries_eq : entries file = finishedEntries file ++ [unfinished file].filter isEntry := by
  have hlines := Lines.ofBytes_append file []
  rw [List.append_nil, List.append_nil, Lines.ofBytes.eq_1 (unfinished file),
    Lines.splitOctets_of_not_mem (LineReader.not_mem_unfinished file)] at hlines
  rw [entries, hlines, List.filter_append, finishedEntries]
  cases unfinished file with
  | nil =>
    rw [List.filter_singleton, isEntry_of_isSkipped rfl]
    rfl
  | cons b tail => simp

/-- A line with the line of a report at its end is read as it is. -/
theorem asRead_append_reportLine (tail : Bytes) :
    Lines.asRead (tail ++ reportLine r) = tail ++ reportLine r := by
  rcases Lines.eq_asRead_or (tail ++ reportLine r) with heq | heq
  · -- the line of a report does not end in a carriage return
    obtain ⟨before, b, hline⟩ : ∃ before b, reportLine r = before ++ [b] := by
      rcases List.eq_nil_or_concat (reportLine r) with hnil | ⟨before, b, hline⟩
      · obtain ⟨b, rest, hline, -⟩ := beginsName_reportLine r
        simp [hnil] at hline
      · exact ⟨before, b, by rw [hline, List.concat_eq_append]⟩
    rw [hline, ← List.append_assoc] at heq
    obtain rfl : b = 13 := by simpa using (List.append_inj' heq rfl).2
    exact absurd (hline ▸ List.mem_append_right _ List.mem_cons_self)
      (not_mem_reportLine r (by decide : (13 : UInt8) < 32))
  · exact heq

/-- Whatever is in front of a report, the line says something. -/
theorem isEntry_append_reportLine (tail : Bytes) : isEntry (tail ++ reportLine r) = true := by
  obtain ⟨b, rest, hline, -⟩ := beginsName_reportLine r
  have hcount : 0 < (Bytes.ofString (Utf8.decodeLossy (tail ++ reportLine r))).count 123 := by
    rw [Utf8.count_ofString_decodeLossy _ (by decide), List.count_pos_iff, hline]
    simp
  obtain ⟨c, hc, hbrace⟩ :=
    Bytes.exists_mem_of_mem_ofString (by decide) (List.count_pos_iff.mp hcount)
  have hblank : Blank.isBlank c = false := by
    obtain rfl : c = '\x7b' := Char.toNat_inj.mp hbrace
    rfl
  rw [isEntry, Bool.not_eq_true', Blank.isEmpty, List.all_eq_false]
  exact ⟨c, hc, by simp [hblank]⟩

/-- **A report that is added is one entry with the line that had not been ended.** -/
theorem entries_append_lineOf :
    entries (file ++ lineOf r) = finishedEntries file ++ [unfinished file ++ reportLine r] := by
  have hnoFeed : 10 ∉ unfinished file ++ reportLine r := by
    rw [List.mem_append, not_or]
    exact ⟨LineReader.not_mem_unfinished file, (isLine_reportLine r).noLineFeed⟩
  have hline : Lines.ofBytes (unfinished file ++ lineOf r) = [unfinished file ++ reportLine r] := by
    rw [lineOf_eq, Lines.text_cons, Lines.text_nil, ← List.append_assoc, Lines.ofBytes,
      Lines.splitOctets_append _ _ hnoFeed, List.append_nil]
    exact congrArg (· :: []) (asRead_append_reportLine r _)
  rw [entries, Lines.ofBytes_append, hline, List.filter_append, finishedEntries,
    List.filter_singleton, isEntry_append_reportLine]
  rfl

end Entries

/-! ### A pass with a receiver that takes everything -/

/-- **A pass that keeps nothing**: what it has sent was taken, and nothing was added to the file. -/
structure Pass.KeepsNothing (p : Pass) (s : Spool) : Prop where
  /-- It is the pass under way. -/
  pass : s.pass = some p
  /-- Nothing is on its way to the receiver. -/
  sending : p.sending = none
  /-- It keeps no line. -/
  kept : p.kept = []
  /-- None has been counted. -/
  keptCount : p.summary.kept = 0
  /-- The file is as it was when the pass began. -/
  file : s.file = some p.snapshot
  /-- It is text. -/
  isValid : Utf8.isValid p.snapshot = true
  /-- There is something in it. -/
  nonempty : p.snapshot ≠ []

/-- **A pass under way clears lines**: with a receiver that takes everything it sends those that are
reports and discards the others, and leaves nothing. -/
def Clears (s : Shared) (lines : List Bytes) : Prop :=
  ∃ es v, s.run es = some v ∧ (∀ e ∈ es, e = .advanced ∨ e = .answered true) ∧
    sent (history s es) = (lines.filter isReport).map (fun line => ⟨s.begun, line, true⟩) ∧
    discarded (history s es) = lines.filter (fun line => !isReport line) ∧
    v.spool.pass = none ∧ v.spool.octets = [] ∧ v.spool.depth = 0

/-- **A pass settles a spool**: with a receiver that takes everything it sends the lines `taken`,
discards the lines `gone`, and leaves nothing. -/
def Settles (s : Spool) (taken gone : List Bytes) : Prop :=
  ∃ es v, Shared.run ⟨s, 1, 0⟩ (.begun :: es) = some v ∧
    (∀ e ∈ es, e = .advanced ∨ e = .answered true) ∧
    sent (history ⟨s, 1, 0⟩ (.begun :: es)) = taken.map (fun line => ⟨1, line, true⟩) ∧
    discarded (history ⟨s, 1, 0⟩ (.begun :: es)) = gone ∧
    v.spool.pass = none ∧ v.spool.octets = [] ∧ v.spool.depth = 0

section Settling

variable {s : Spool} {p : Pass} {called begun : Nat} {line : Bytes} {lines : List Bytes}

theorem run_cons {s t : Shared} {e : Event} (h : s.step e = some t) (es : List Event) :
    s.run (e :: es) = t.run es ∧ history s (e :: es) = ⟨s, e⟩ :: history t es := by
  rw [Shared.run, history, h]
  exact ⟨rfl, rfl⟩

theorem Pass.KeepsNothing.step_advanced (h : p.KeepsNothing s) (called begun : Nat) :
    Shared.step ⟨s, called, begun⟩ .advanced = some ⟨s.advance, called, begun⟩ := by
  simp [Shared.step, h.pass, h.sending]

theorem Pass.KeepsNothing.advance_of_cons (h : p.KeepsNothing s)
    (hrest : p.remaining = line :: lines) : s.advance = { s with pass := some p.takeNext } := by
  simp [advance, h.pass, Pass.isDone, hrest, h.sending]

theorem Pass.KeepsNothing.discarded_cons (h : p.KeepsNothing s)
    (hrest : p.remaining = line :: lines) (ts : List Turn) :
    Spool.discarded (⟨⟨s, called, begun⟩, .advanced⟩ :: ts) =
      if isReport line then Spool.discarded ts else line :: Spool.discarded ts := by
  have hturn : (Turn.mk ⟨s, called, begun⟩ .advanced).discarded? =
      if isReport line then none else some line := by
    cases hread : Report.read? line <;>
      simp [Turn.discarded?, h.pass, hrest, Option.filter, isReport, hread]
  rw [Spool.discarded, List.filterMap_cons, hturn]
  cases isReport line <;> rfl

/-- At its end it leaves an empty file. -/
theorem Pass.KeepsNothing.clears_nil (h : p.KeepsNothing s) (hrest : p.remaining = []) :
    Clears ⟨s, called, begun⟩ [] := by
  have hgained : gained p.snapshot.length p.snapshot = [] := by
    simpa using gained_append (a := p.snapshot) isProper_nil
  have hcontent : content s.file = .ok p.snapshot := by
    rw [h.file]
    exact if_pos h.isValid
  have hfinish : (s.finish p).2 =
      { s with file := some [], pass := none, depth := 0, published := 0 } := by
    rw [finish, if_neg (by simpa using h.nonempty)]
    simp only [hcontent, hgained, Pass.keptText, h.kept, h.keptCount]
    rfl
  have hadvance : s.advance = (s.finish p).2 := by
    simp [advance, h.pass, Pass.isDone, hrest, h.sending]
  obtain ⟨hrun, hhistory⟩ := run_cons (h.step_advanced called begun) []
  refine ⟨[.advanced], ⟨s.advance, called, begun⟩, hrun, by simp, ?_, ?_, ?_⟩
  · rw [hhistory]
    rfl
  · rw [hhistory]
    simp [Spool.discarded, history, Turn.discarded?, h.pass, hrest]
  · rw [hadvance, hfinish]
    exact ⟨rfl, rfl, rfl⟩

/-- A line that is a report is sent, and the receiver takes it. -/
theorem Pass.KeepsNothing.clears_sent (h : p.KeepsNothing s) (hrest : p.remaining = line :: lines)
    {r : Report} (hread : Report.read? line = some r)
    (hclears : Clears ⟨{ s with pass := some ((p.sent line lines r).conclude true) }, called, begun⟩
      lines) : Clears ⟨s, called, begun⟩ (line :: lines) := by
  have hreport : isReport line = true := by
    rw [isReport, hread]
    rfl
  have htaken : p.takeNext = p.sent line lines r := by
    simp only [Pass.takeNext, hrest, hread, Pass.sent]
  have hadvanced := h.step_advanced called begun
  rw [h.advance_of_cons hrest, htaken] at hadvanced
  obtain ⟨es, v, hrun, hevents, hsent, hdiscarded, hv⟩ := hclears
  obtain ⟨hrun₁, hhistory₁⟩ := run_cons hadvanced (.answered true :: es)
  obtain ⟨hrun₂, hhistory₂⟩ := run_cons (s := ⟨{ s with pass := some (p.sent line lines r) },
    called, begun⟩) (e := .answered true) rfl es
  refine ⟨.advanced :: .answered true :: es, v, ?_, by simpa using hevents, ?_, ?_, hv⟩
  · rw [hrun₁, hrun₂]
    exact hrun
  · rw [hhistory₁, hhistory₂, List.filter_cons_of_pos hreport, List.map_cons]
    exact congrArg (_ :: ·) hsent
  · rw [hhistory₁, h.discarded_cons hrest, if_pos hreport, hhistory₂,
      List.filter_cons_of_neg (by simp [hreport])]
    exact hdiscarded

/-- A line that is no report is discarded. -/
theorem Pass.KeepsNothing.clears_discarded (h : p.KeepsNothing s)
    (hrest : p.remaining = line :: lines) (hread : Report.read? line = none)
    (hclears : Clears ⟨{ s with pass := some (p.discarded lines) }, called, begun⟩ lines) :
    Clears ⟨s, called, begun⟩ (line :: lines) := by
  have hreport : isReport line = false := by
    rw [isReport, hread]
    rfl
  have htaken : p.takeNext = p.discarded lines := by
    simp only [Pass.takeNext, hrest, hread, Pass.discarded]
  have hadvanced := h.step_advanced called begun
  rw [h.advance_of_cons hrest, htaken] at hadvanced
  obtain ⟨es, v, hrun, hevents, hsent, hdiscarded, hv⟩ := hclears
  obtain ⟨hrun₁, hhistory₁⟩ := run_cons hadvanced es
  refine ⟨.advanced :: es, v, hrun₁.trans hrun, by simpa using hevents, ?_, ?_, hv⟩
  · rw [hhistory₁, List.filter_cons_of_neg (by simp [hreport])]
    exact hsent
  · rw [hhistory₁, h.discarded_cons hrest, hreport, List.filter_cons_of_pos (by simp [hreport])]
    exact congrArg (line :: ·) hdiscarded

/-- **A pass that keeps nothing clears what remains.** -/
theorem Pass.KeepsNothing.clears (h : p.KeepsNothing s) (hrest : p.remaining = lines) :
    Clears ⟨s, called, begun⟩ lines := by
  induction lines generalizing s p with
  | nil => exact h.clears_nil hrest
  | cons line lines ih =>
    cases hread : Report.read? line with
    | some r =>
      refine h.clears_sent hrest hread (ih (p := (p.sent line lines r).conclude true) ?_ rfl)
      exact ⟨rfl, rfl, h.kept, h.keptCount, h.file, h.isValid, h.nonempty⟩
    | none =>
      refine h.clears_discarded hrest hread (ih (p := p.discarded lines) ?_ rfl)
      exact ⟨rfl, h.sending, h.kept, h.keptCount, h.file, h.isValid, h.nonempty⟩

/-- **A pass settles what a spool holds**, if its file is text and there is something in it. -/
theorem settles (hp : s.pass = none) (hvalid : Utf8.isValid s.octets = true)
    (hne : s.octets ≠ []) :
    Settles s ((entries s.octets).filter isReport)
      ((entries s.octets).filter fun line => !isReport line) := by
  have hfile : s.file = some s.octets := by
    rw [octets] at hne ⊢
    cases hnone : s.file with
    | none => simp [hnone] at hne
    | some file => rfl
  have hbegin : s.begin = .ok { s with pass := some (Pass.starting s.octets) } := by
    have hcontent : content s.file = .ok s.octets := by
      rw [hfile]
      exact if_pos hvalid
    rw [Spool.begin, hcontent]
    rfl
  have hstep : Shared.step ⟨s, 1, 0⟩ .begun =
      some ⟨{ s with pass := some (Pass.starting s.octets) }, 1, 1⟩ := by
    simp [Shared.step, hp, hbegin]
  have hkeeps : (Pass.starting s.octets).KeepsNothing
      { s with pass := some (Pass.starting s.octets) } :=
    ⟨rfl, rfl, rfl, rfl, hfile, hvalid, hne⟩
  have hclears : Clears ⟨{ s with pass := some (Pass.starting s.octets) }, 1, 1⟩
      (entries s.octets) := hkeeps.clears rfl
  obtain ⟨es, v, hrun, hevents, hsent, hdiscarded, hv⟩ := hclears
  obtain ⟨hrun₁, hhistory₁⟩ := run_cons hstep es
  refine ⟨es, v, hrun₁.trans hrun, hevents, ?_, ?_, hv⟩
  · rw [hhistory₁]
    exact hsent
  · rw [hhistory₁]
    exact hdiscarded

end Settling

/-! ### Any file -/

section AnyFile

/-- A spool can be opened on any file that is text. -/
theorem exists_openOn_of_isValid {file : Option Bytes}
    (h : Utf8.isValid (file.getD []) = true) :
    ∃ s, openOn file = .ok s ∧ s.file = file ∧ s.depth = (entries (file.getD [])).length ∧
      s.pass = none := by
  have hcontent : content file = .ok (file.getD []) := by
    cases file with
    | none => rfl
    | some file => exact if_pos h
  refine ⟨⟨file, (entries (file.getD [])).length, (entries (file.getD [])).length, none⟩, ?_, rfl,
    rfl, rfl⟩
  rw [openOn, hcontent]
  rfl

/-- A line with a report at its end is a report if there are only blanks in front. -/
theorem isReport_append_reportLine (tail : Bytes) (r : Report) :
    isReport (tail ++ reportLine r) = (tail.all Json.isSkipped && isReport (reportLine r)) := by
  rw [isReport, Report.read?_append, isReport]
  cases tail.all Json.isSkipped <;> rfl

/-- **What a pass makes of a file that a report was added to.** -/
theorem settles_enqueue {s : Spool} (hp : s.pass = none) (hvalid : Utf8.isValid s.octets = true)
    (r : Report) :
    let line := unfinished s.octets ++ reportLine r
    Settles (s.enqueue r)
      ((finishedEntries s.octets).filter isReport ++
        if (unfinished s.octets).all Json.isSkipped && isReport (reportLine r) then [line] else [])
      ((finishedEntries s.octets).filter (fun line => !isReport line) ++
        if (unfinished s.octets).all Json.isSkipped && isReport (reportLine r) then []
        else [line]) := by
  have hoctets : (s.enqueue r).octets = s.octets ++ lineOf r := octets_enqueue r
  have htext : Utf8.isValid (s.enqueue r).octets = true := by
    rw [hoctets, Utf8.isValid_append hvalid]
    exact (isProper_lineOf r).isValid
  have hne : (s.enqueue r).octets ≠ [] := by
    obtain ⟨b, rest, hline, -⟩ := beginsName_reportLine r
    rw [hoctets, lineOf_eq, Lines.text_cons, hline]
    simp
  have hsettles := settles (s := s.enqueue r) hp htext hne
  rw [hoctets, entries_append_lineOf, List.filter_append, List.filter_append,
    List.filter_singleton, List.filter_singleton, isReport_append_reportLine] at hsettles
  revert hsettles
  cases (unfinished s.octets).all Json.isSkipped && isReport (reportLine r) <;> exact id

/-- **What becomes of a report that is added to a file, whatever the file holds.** A spool can be
opened on any file that is text, and its depth is the number of entries then. Let a report be added
to such a file while no pass is under way, be it the one that the spool was opened on or one that
has come about since.

* Behind the entries that a line feed ends there is one entry, which is the report behind the line
  that had not been ended. The depth is one more than before, and it remains right if and only if
  that line said nothing.
* The new entry is read as the report if there are only blanks in front of it, as JSON knows them,
  which say nothing. Otherwise it is not read at all.
* So a pass with a receiver that takes everything sends it in the one case, if the report can be
  read. In the other it discards it, with the line that had not been ended. -/
theorem added_behind_unfinished_line (file : Option Bytes)
    (hfile : Utf8.isValid (file.getD []) = true) (r : Report) :
    (∃ s, openOn file = .ok s ∧ s.file = file ∧ s.depth = (entries (file.getD [])).length ∧
      s.pass = none) ∧
    ∀ s : Spool, s.file = file → s.pass = none →
      let t := s.enqueue r
      let tail := unfinished s.octets
      let line := tail ++ reportLine r
      entries s.octets = finishedEntries s.octets ++ [tail].filter isEntry ∧
      entries t.octets = finishedEntries s.octets ++ [line] ∧
      t.depth = s.depth + 1 ∧
      (s.depth = (entries s.octets).length →
        (t.depth = (entries t.octets).length ↔ isEntry tail = false)) ∧
      (tail.all Json.isSkipped = true →
        isEntry tail = false ∧ Report.read? line = Report.read? (reportLine r)) ∧
      (tail.all Json.isSkipped = false → Report.read? line = none) ∧
      Settles t
        ((finishedEntries s.octets).filter isReport ++
          if tail.all Json.isSkipped && isReport (reportLine r) then [line] else [])
        ((finishedEntries s.octets).filter (fun line => !isReport line) ++
          if tail.all Json.isSkipped && isReport (reportLine r) then [] else [line]) := by
  refine ⟨exists_openOn_of_isValid hfile, fun s hs hp => ?_⟩
  intro t tail line
  have hoctets : t.octets = s.octets ++ lineOf r := octets_enqueue r
  have hbefore : entries s.octets = finishedEntries s.octets ++ [tail].filter isEntry :=
    entries_eq s.octets
  have hafter : entries t.octets = finishedEntries s.octets ++ [line] := by
    rw [hoctets]
    exact entries_append_lineOf s.octets r
  have hread : Report.read? line =
      if tail.all Json.isSkipped then Report.read? (reportLine r) else none :=
    Report.read?_append tail r
  refine ⟨hbefore, hafter, rfl, fun hdepth => ?_, fun hblank => ⟨isEntry_of_isSkipped hblank, ?_⟩,
    fun hblank => ?_, ?_⟩
  · have hraised : t.depth = s.depth + 1 := rfl
    rw [hraised, hdepth, hbefore, hafter]
    cases hentry : isEntry tail <;> simp [hentry]
  · rw [hread, if_pos hblank]
  · rw [hread, hblank]
    rfl
  · exact settles_enqueue hp (by rw [octets, hs]; exact hfile) r

/-- A report behind a blank, which a pass sends. -/
theorem added_behind_unfinished_line_blank :
    let r := Incident.recoveryAlert ⟨"", 0⟩ "a"
    ∃ s, openOn (some [32]) = .ok s ∧ (s.enqueue r).depth = 1 ∧
      (entries (s.enqueue r).octets).length = 1 ∧
      Settles (s.enqueue r) [32 :: reportLine r] [] := by
  intro r
  have hreport : isReport (reportLine r) = true := by decide +kernel
  have htail : unfinished [32] = [32] := LineReader.unfinished_of_not_mem (by decide)
  obtain ⟨⟨s, hopen, hfile, hdepth, hpass⟩, hadded⟩ :=
    added_behind_unfinished_line (some [32]) (by decide +kernel) r
  have hoctets : s.octets = [32] := by rw [octets, hfile]; rfl
  obtain ⟨hbefore, hafter, -, -, -, -, hsettles⟩ := hadded s hfile hpass
  rw [hoctets, htail] at hbefore hafter hsettles
  have hnone : finishedEntries [32] = [] := by
    rw [finishedEntries, LineReader.finished_of_not_mem (by decide)]
    rfl
  have hzero : s.depth = 0 := by
    rw [hdepth]
    decide +kernel
  rw [hnone] at hafter hsettles
  refine ⟨s, hopen, congrArg (· + 1) hzero, by rw [hafter]; rfl, ?_⟩
  rw [hreport] at hsettles
  exact hsettles

/-- **A report can be lost though it was added**: behind a brace it is part of a line that is no
report, while the depth counts both. -/
theorem exists_added_and_lost :
    ∃ s r, openOn (some [123]) = .ok s ∧ isReport (reportLine r) = true ∧
      (s.enqueue r).depth = 2 ∧ entries (s.enqueue r).octets = [123 :: reportLine r] ∧
      Settles (s.enqueue r) [] [123 :: reportLine r] := by
  have hvalid : Utf8.isValid ((some [123]).getD []) = true := by decide +kernel
  obtain ⟨s, hopen, hfile, hdepth, hpass⟩ := exists_openOn_of_isValid hvalid
  have hoctets : s.octets = [123] := by rw [octets, hfile]; rfl
  have hnone : finishedEntries s.octets = [] := by
    rw [hoctets, finishedEntries, LineReader.finished_of_not_mem (by decide)]
    rfl
  have htail : unfinished s.octets = [123] := by
    rw [hoctets]
    exact LineReader.unfinished_of_not_mem (by decide)
  have hone : s.depth = 1 := by
    rw [hdepth]
    decide +kernel
  let r := Incident.recoveryAlert ⟨"", 0⟩ "a"
  have hsettles := settles_enqueue hpass (by rw [hoctets]; exact hvalid) r
  rw [hnone, htail] at hsettles
  refine ⟨s, r, hopen, by decide +kernel, congrArg (· + 1) hone, ?_, hsettles⟩
  rw [octets_enqueue, entries_append_lineOf, hnone, htail]
  rfl

end AnyFile

end Spool

end LogWatch
