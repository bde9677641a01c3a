import LogWatch.Delivery.Spool
import LogWatch.Proofs.Json.Reader
import LogWatch.Proofs.Json.Writer
import LogWatch.Proofs.Text.Lines

/-!
# What a spool does at each step

The file of a spool is a text of lines, and stays one: JSON is written in one line, and what a pass
writes are lines that it has read. The one place where octets are counted is the end of a pass,
where the file is cut at the length of the snapshot; what comes behind is what was added in the
meantime because the file has only been added to.

What a spool has still to deliver is not what its file holds: while a pass is under way, the file
has lines that the receiver has already taken. The **unsettled** lines
(`LogWatch.Spool.unsettled`) are those that would be in the file if the pass ended here. Of the
steps of a spool only three change them: a report that is added comes last, and a line that the
receiver takes or that is no report goes. At its end a pass may drop carriage returns at the ends of
the lines that it keeps; where there are none, it changes nothing either.
-/

namespace LogWatch

namespace Spool

/-! ### Files of lines -/

/-- **A proper file**: newline-terminated lines of UTF-8. -/
def IsProper (file : Bytes) : Prop :=
  ∃ lines : List Bytes, (∀ line ∈ lines, Lines.IsLine line) ∧ file = Lines.text lines

/-- The octets of a report in the file, without the line feed. -/
def reportLine (r : Report) : Bytes := Bytes.ofString r.jsonText

/-- The line is one of a report. -/
def isReport (line : Bytes) : Bool := (Report.read? line).isSome

/-- The octets of the file; none if there is no file. -/
def octets (s : Spool) : Bytes := s.file.getD []

section Files

variable {file a b : Bytes} {lines : List Bytes}

theorem isProper_nil : IsProper [] := ⟨[], by simp, rfl⟩

theorem IsProper.append (ha : IsProper a) (hb : IsProper b) : IsProper (a ++ b) := by
  obtain ⟨as, has, rfl⟩ := ha
  obtain ⟨bs, hbs, rfl⟩ := hb
  refine ⟨as ++ bs, fun line hline => ?_, by rw [Lines.text_append]⟩
  rcases List.mem_append.mp hline with hline | hline
  · exact has line hline
  · exact hbs line hline

theorem IsProper.isValid (h : IsProper file) : Utf8.isValid file = true := by
  obtain ⟨lines, hlines, rfl⟩ := h
  exact Lines.isValid_text hlines

/-- A proper file begins with no octet that continues a character. -/
theorem IsProper.beginsCharacter (h : IsProper file) : beginsCharacter file = true := by
  cases file with
  | nil => rfl
  | cons b file =>
    rw [Spool.beginsCharacter, Utf8.not_isTail_of_isValid h.isValid]
    rfl

theorem entries_text (h : ∀ line ∈ lines, Lines.IsLine line) :
    entries (Lines.text lines) = (lines.map Lines.asRead).filter isEntry := by
  rw [entries, Lines.ofBytes_text h]

/-- **The entries of a file are those of its parts.** -/
theorem entries_append (ha : IsProper a) (hb : IsProper b) :
    entries (a ++ b) = entries a ++ entries b := by
  obtain ⟨as, has, rfl⟩ := ha
  obtain ⟨bs, hbs, rfl⟩ := hb
  rw [← Lines.text_append, entries_text has, entries_text hbs, ← List.filter_append,
    ← List.map_append, entries_text]
  intro line hline
  rcases List.mem_append.mp hline with hline | hline
  · exact has line hline
  · exact hbs line hline

/-- The entries of a proper file are lines. -/
theorem IsProper.isLine_of_mem (h : IsProper file) {line : Bytes} (hline : line ∈ entries file) :
    Lines.IsLine line ∧ isEntry line = true := by
  obtain ⟨lines, hlines, rfl⟩ := h
  rw [entries_text hlines, List.mem_filter, List.mem_map] at hline
  obtain ⟨⟨line', hmem, rfl⟩, hentry⟩ := hline
  exact ⟨(hlines line' hmem).asRead, hentry⟩

/-- Without carriage returns in the file, there are none in its entries. -/
theorem IsProper.not_mem_of_mem (h : IsProper file) (hreturns : 13 ∉ file) {line : Bytes}
    (hline : line ∈ entries file) : 13 ∉ line := by
  obtain ⟨lines, hlines, rfl⟩ := h
  have hnone : ∀ line ∈ lines, 13 ∉ line := fun line hmem hreturn =>
    hreturns (List.mem_flatMap.mpr ⟨line, hmem, List.mem_append_left _ hreturn⟩)
  rw [entries_text hlines, List.mem_filter, List.mem_map] at hline
  obtain ⟨⟨line', hmem, rfl⟩, -⟩ := hline
  rw [Lines.asRead_of_not_mem (hnone line' hmem)]
  exact hnone line' hmem

/-- A carriage return at its end does not make a line say anything. -/
theorem isEntry_asRead {line : Bytes} (h : Lines.IsLine line) :
    isEntry (Lines.asRead line) = isEntry line := by
  rcases Lines.eq_asRead_or line with heq | heq
  · obtain ⟨cs, hcs⟩ := Option.isSome_iff_exists.mp h.asRead.isValid
    have hreturn : Utf8.strictOnto cs [13] = some ('\r' :: cs) := by
      rw [Utf8.strictOnto_cons (Utf8.front_of_one (by decide)), Utf8.strictOnto]
      rfl
    have hcs' : Utf8.strictOnto [] line = some ('\r' :: cs) := by
      rw [heq, Utf8.strictOnto_append hcs, hreturn]
    rw [isEntry, isEntry, Utf8.decodeLossy, Utf8.decodeLossy, Utf8.lossyOnto_eq hcs,
      Utf8.lossyOnto_eq hcs', Blank.isEmpty, Blank.isEmpty, String.toList_ofList,
      String.toList_ofList, List.all_reverse, List.all_reverse, List.all_cons]
    rfl
  · rw [heq]

/-- What is written line by line is read again, but for the carriage returns. -/
theorem entries_text_of_isEntry (h : ∀ line ∈ lines, Lines.IsLine line ∧ isEntry line = true) :
    entries (Lines.text lines) = lines.map Lines.asRead := by
  rw [entries_text fun line hmem => (h line hmem).1, List.filter_eq_self]
  intro line hline
  obtain ⟨line', hmem, rfl⟩ := List.mem_map.mp hline
  rw [isEntry_asRead (h line' hmem).1]
  exact (h line' hmem).2

theorem entries_nil : entries [] = [] := rfl

/-- A file that lasts is proper: what was proper is added to what was. -/
theorem gained_append (hb : IsProper b) : gained a.length (a ++ b) = b := by
  rw [gained, if_neg (by simp), List.drop_left, if_pos hb.beginsCharacter]

end Files

/-! ### The line of a report -/

section Reports

variable (r : Report)

theorem isPrinted_of_mem_jsonText : ∀ c ∈ r.jsonText.toList, IsPrinted c := by
  intro c hc
  rw [Report.jsonText, Json.render, String.toList_ofList] at hc
  exact Json.forall_mem_chars _ c hc

/-- The line of a report has no control characters. -/
theorem not_mem_reportLine {b : UInt8} (hb : b < 32) : b ∉ reportLine r := by
  have hlt : b.toNat < 32 := UInt8.lt_iff_toNat_lt.mp hb
  intro h
  obtain ⟨c, hc, hcontrol⟩ := Bytes.exists_mem_of_mem_ofString (by omega) h
  have hprinted : 32 ≤ c.toNat := isPrinted_of_mem_jsonText r c hc
  omega

theorem bare_reportLine : Lines.bare (reportLine r) = reportLine r :=
  Lines.bare_of_not_mem (not_mem_reportLine r (by decide))

/-- **A report is written in one line.** -/
theorem isLine_reportLine : Lines.IsLine (reportLine r) where
  noLineFeed := not_mem_reportLine r (by decide)
  isValid := Utf8.isValid_ofString _

theorem isEntry_reportLine : isEntry (reportLine r) = true := by
  have hbrace : '\x7b' ∈ r.jsonText.toList := by
    rw [Report.jsonText, Json.render, String.toList_ofList, Report.fields, Json.chars]
    exact List.mem_cons_self
  rw [isEntry, reportLine, Utf8.decodeLossy_ofString, Bool.not_eq_true', Blank.isEmpty,
    List.all_eq_false]
  exact ⟨_, hbrace, by decide⟩

theorem lineOf_eq : lineOf r = Lines.text [reportLine r] := by
  rw [lineOf, Report.jsonLine, Bytes.ofString_append, Lines.text_cons, Lines.text_nil, reportLine]
  congr 1
  rw [Bytes.ofString_eq]
  decide

theorem isProper_lineOf : IsProper (lineOf r) := by
  refine ⟨[reportLine r], fun line hline => ?_, lineOf_eq r⟩
  rw [List.mem_singleton.mp hline]
  exact isLine_reportLine r

/-- **The line of a report is one entry.** -/
theorem entries_lineOf : entries (lineOf r) = [reportLine r] := by
  have hline : ∀ line ∈ [reportLine r], Lines.IsLine line ∧ isEntry line = true := by
    intro line hline
    rw [List.mem_singleton.mp hline]
    exact ⟨isLine_reportLine r, isEntry_reportLine r⟩
  rw [lineOf_eq, entries_text_of_isEntry hline, List.map_singleton,
    Lines.asRead_of_not_mem (not_mem_reportLine r (by decide))]

/-- What a line says as a report, it says without a carriage return at its end. -/
theorem isReport_asRead {line : Bytes} (h : isReport line = true) :
    isReport (Lines.asRead line) = true := by
  rcases Lines.eq_asRead_or line with heq | heq
  · obtain ⟨r, hr⟩ := Option.isSome_iff_exists.mp h
    obtain ⟨n, hn, hnode⟩ := Option.bind_eq_some_iff.mp hr
    rw [heq] at hn
    rw [isReport, Report.read?, Json.Node.ofBytes?_of_return hn, Option.bind_some, hnode]
    rfl
  · rwa [heq]

end Reports

/-! ### Passes over a file that grows -/

/-- **What a pass knows of the file**: it has looked at the first entries of the snapshot, and the
file has gained something behind the snapshot. -/
structure Pass.Tracks (p : Pass) (octets : Bytes) (looked : List Bytes) (added : Bytes) :
    Prop where
  /-- The snapshot is proper. -/
  snapshot : IsProper p.snapshot
  /-- What the file has gained is proper. -/
  gain : IsProper added
  /-- The file is the snapshot with the gain behind it. -/
  file : octets = p.snapshot ++ added
  /-- The entries that have not been looked at are on their way or remain. -/
  entries : Spool.entries p.snapshot = looked ++ (p.sending.map Prod.fst).toList ++ p.remaining
  /-- What is kept has been looked at, in its order. -/
  kept : p.kept.reverse.Sublist looked
  /-- What has been looked at has been counted. -/
  counted : p.summary.sent + p.summary.kept + p.summary.discarded = looked.length
  /-- What is kept has been counted. -/
  keptCount : p.summary.kept = p.kept.length
  /-- What is on its way has been read. -/
  reads : ∀ line r, p.sending = some (line, r) → Report.read? line = some r

/-- **A spool is in order**: its file is proper, its depth is that of the file and is published, and
a pass that is under way tracks the file. -/
structure IsInOrder (s : Spool) : Prop where
  /-- The file is proper. -/
  proper : IsProper s.octets
  /-- The depth is the number of entries. -/
  depth : s.depth = (entries s.octets).length
  /-- The depth has been published. -/
  published : s.published = s.depth
  /-- The pass knows of the file. -/
  pass : ∀ p, s.pass = some p → ∃ looked added, p.Tracks s.octets looked added

/-- **The lines that have still to be delivered**, in the order in which they were added. -/
def unsettled (s : Spool) : List Bytes :=
  match s.pass with
  | none => entries s.octets
  | some p =>
    p.kept.reverse ++ (p.sending.map Prod.fst).toList ++ p.remaining ++
      entries (s.octets.drop p.snapshot.length)

section Steps

variable {s : Spool} {p : Pass} {looked : List Bytes} {added : Bytes} {file : Option Bytes}

theorem content_eq (h : IsProper (file.getD [])) : content file = .ok (file.getD []) := by
  cases file with
  | none => rfl
  | some bytes => exact if_pos h.isValid

theorem unsettled_of_none (hp : s.pass = none) : s.unsettled = entries s.octets := by
  rw [unsettled, hp]

theorem Pass.Tracks.drop_eq (h : p.Tracks s.octets looked added) :
    s.octets.drop p.snapshot.length = added := by
  rw [h.file, List.drop_left]

theorem Pass.Tracks.unsettled_eq (h : p.Tracks s.octets looked added) (hp : s.pass = some p) :
    s.unsettled =
      p.kept.reverse ++ (p.sending.map Prod.fst).toList ++ p.remaining ++ Spool.entries added := by
  rw [unsettled, hp]
  simp only [h.drop_eq]

/-- What is added to the file, the pass knows of. -/
theorem Pass.Tracks.enqueue (h : p.Tracks s.octets looked added) (r : Report) :
    p.Tracks (s.enqueue r).octets looked (added ++ lineOf r) :=
  { h with
    gain := h.gain.append (isProper_lineOf r)
    file := by
      rw [← List.append_assoc, ← h.file]
      rfl }

/-- A spool can be opened on any proper file. -/
theorem exists_openOn (h : IsProper (file.getD [])) :
    ∃ s, openOn file = .ok s ∧ IsInOrder s ∧ s.octets = file.getD [] ∧ s.pass = none := by
  refine ⟨⟨file, (entries (file.getD [])).length, (entries (file.getD [])).length, none⟩, ?_,
    ⟨h, rfl, rfl, fun p hp => absurd hp (by simp)⟩, rfl, rfl⟩
  rw [openOn, content_eq h]
  rfl

/-! ### Adding a report -/

theorem octets_enqueue (r : Report) : (s.enqueue r).octets = s.octets ++ lineOf r := rfl

/-- Adding a report keeps a spool in order. -/
theorem IsInOrder.enqueue (h : IsInOrder s) (r : Report) : IsInOrder (s.enqueue r) where
  proper := h.proper.append (isProper_lineOf r)
  depth := by
    rw [octets_enqueue, entries_append h.proper (isProper_lineOf r), entries_lineOf,
      List.length_append, ← h.depth]
    rfl
  published := rfl
  pass p hp := by
    obtain ⟨looked, added, ht⟩ := h.pass p hp
    exact ⟨looked, added ++ lineOf r, ht.enqueue r⟩

/-- **A report that is added comes last.** -/
theorem IsInOrder.unsettled_enqueue (h : IsInOrder s) (r : Report) :
    (s.enqueue r).unsettled = s.unsettled ++ [reportLine r] := by
  cases hp : s.pass with
  | none =>
    have hp' : (s.enqueue r).pass = none := hp
    rw [unsettled_of_none hp, unsettled_of_none hp', octets_enqueue,
      entries_append h.proper (isProper_lineOf r), entries_lineOf]
  | some p =>
    have hp' : (s.enqueue r).pass = some p := hp
    obtain ⟨looked, added, ht⟩ := h.pass p hp
    rw [ht.unsettled_eq hp, (ht.enqueue r).unsettled_eq hp',
      entries_append ht.gain (isProper_lineOf r), entries_lineOf]
    simp only [List.append_assoc]

/-! ### The beginning of a pass -/

/-- A pass that has not looked at anything. -/
def Pass.starting (file : Bytes) : Pass := ⟨file, Spool.entries file, none, [], {}⟩

theorem Pass.tracks_starting {file : Bytes} (h : IsProper file) :
    (Pass.starting file).Tracks file [] [] :=
  ⟨h, isProper_nil, (List.append_nil _).symm, rfl, List.Sublist.slnil, rfl, rfl,
    fun _ _ hsending => absurd hsending (by simp [Pass.starting])⟩

/-- A spool remains in order with a pass that tracks its file. -/
theorem IsInOrder.withPass (h : IsInOrder s) (ht : p.Tracks s.octets looked added) :
    IsInOrder { s with pass := some p } := by
  refine ⟨h.proper, h.depth, h.published, fun q hq => ?_⟩
  obtain rfl := Option.some.inj hq
  exact ⟨looked, added, ht⟩

/-- **A pass can begin whenever none is under way.** -/
theorem IsInOrder.begin_eq (h : IsInOrder s) :
    s.begin = .ok { s with pass := some (Pass.starting s.octets) } := by
  rw [Spool.begin, content_eq h.proper]
  rfl

/-- It settles nothing by that. -/
theorem IsInOrder.unsettled_begin (h : IsInOrder s) (hp : s.pass = none) :
    unsettled { s with pass := some (Pass.starting s.octets) } = s.unsettled := by
  have ht := Pass.tracks_starting h.proper
  rw [ht.unsettled_eq (s := { s with pass := some (Pass.starting s.octets) }) rfl,
    unsettled_of_none hp]
  simp [Pass.starting, entries_nil]

/-! ### The work of a pass -/

/-- The pass with its next line on its way. -/
def Pass.sent (p : Pass) (line : Bytes) (rest : List Bytes) (r : Report) : Pass :=
  { p with remaining := rest, sending := some (line, r) }

/-- The pass without its next line, which is no report. -/
def Pass.discarded (p : Pass) (rest : List Bytes) : Pass :=
  { p with
    remaining := rest
    summary := { p.summary with discarded := p.summary.discarded + 1 } }

/-- **What a pass does by itself**: it ends, or it sends or discards its next line. -/
theorem advance_cases (hp : s.pass = some p) (hs : p.sending = none) :
    (p.remaining = [] ∧ s.advance = (s.finish p).2) ∨
    (∃ line rest r, p.remaining = line :: rest ∧ Report.read? line = some r ∧
      s.advance = { s with pass := some (p.sent line rest r) }) ∨
    ∃ line rest, p.remaining = line :: rest ∧ Report.read? line = none ∧
      s.advance = { s with pass := some (p.discarded rest) } := by
  cases hrest : p.remaining with
  | nil => exact .inl ⟨rfl, by simp [advance, hp, Pass.isDone, hrest, hs]⟩
  | cons line rest =>
    have hadvance : s.advance = { s with pass := some p.takeNext } := by
      simp [advance, hp, Pass.isDone, hrest, hs]
    rw [hadvance, Pass.takeNext, hrest]
    cases hread : Report.read? line with
    | some r => exact .inr (.inl ⟨line, rest, r, rfl, hread, by simp only [hread, Pass.sent]⟩)
    | none => exact .inr (.inr ⟨line, rest, rfl, hread, by simp only [hread, Pass.discarded]⟩)

section Work

variable {line : Bytes} {rest : List Bytes} {r : Report}

theorem Pass.Tracks.sent (h : p.Tracks s.octets looked added) (hs : p.sending = none)
    (hrest : p.remaining = line :: rest) (hread : Report.read? line = some r) :
    (p.sent line rest r).Tracks s.octets looked added where
  snapshot := h.snapshot
  gain := h.gain
  file := h.file
  entries := by
    have := h.entries
    rw [hs, hrest] at this
    simpa [Pass.sent] using this
  kept := h.kept
  counted := h.counted
  keptCount := h.keptCount
  reads line' r' heq := by
    obtain ⟨rfl, rfl⟩ : line = line' ∧ r = r' := by simpa [Pass.sent] using heq
    exact hread

theorem Pass.Tracks.discarded (h : p.Tracks s.octets looked added) (hs : p.sending = none)
    (hrest : p.remaining = line :: rest) :
    (p.discarded rest).Tracks s.octets (looked ++ [line]) added where
  snapshot := h.snapshot
  gain := h.gain
  file := h.file
  entries := by
    have := h.entries
    rw [hs, hrest] at this
    simpa [Pass.discarded, hs] using this
  kept := h.kept.trans (List.sublist_append_left _ _)
  counted := by
    rw [List.length_append, ← h.counted]
    rfl
  keptCount := h.keptCount
  reads := h.reads

theorem Pass.Tracks.taken (h : p.Tracks s.octets looked added)
    (hs : p.sending = some (line, r)) :
    (p.conclude true).Tracks s.octets (looked ++ [line]) added := by
  have hconclude : p.conclude true = { p with
      sending := none, summary := { p.summary with sent := p.summary.sent + 1 } } := by
    rw [Pass.conclude, hs]
    rfl
  rw [hconclude]
  refine ⟨h.snapshot, h.gain, h.file, ?_, h.kept.trans (List.sublist_append_left _ _), ?_,
    h.keptCount, fun _ _ heq => absurd heq (by simp)⟩
  · have := h.entries
    rw [hs] at this
    simpa using this
  · rw [List.length_append, ← h.counted, List.length_singleton]
    simp only
    omega

theorem Pass.Tracks.failed (h : p.Tracks s.octets looked added)
    (hs : p.sending = some (line, r)) :
    (p.conclude false).Tracks s.octets (looked ++ [line]) added := by
  have hconclude : p.conclude false = { p with
      sending := none
      kept := line :: p.kept
      summary := { p.summary with kept := p.summary.kept + 1 } } := by
    rw [Pass.conclude, hs]
    rfl
  rw [hconclude]
  refine ⟨h.snapshot, h.gain, h.file, ?_, ?_, ?_, ?_, fun _ _ heq => absurd heq (by simp)⟩
  · have := h.entries
    rw [hs] at this
    simpa using this
  · rw [List.reverse_cons]
    exact h.kept.append (List.Sublist.refl _)
  · rw [List.length_append, ← h.counted, List.length_singleton]
    simp only
    omega
  · rw [List.length_cons, ← h.keptCount]

/-! ### What is settled -/

theorem Pass.Tracks.unsettled_sent (h : p.Tracks s.octets looked added) (hp : s.pass = some p)
    (hs : p.sending = none) (hrest : p.remaining = line :: rest)
    (hread : Report.read? line = some r) :
    unsettled { s with pass := some (p.sent line rest r) } = s.unsettled := by
  rw [h.unsettled_eq hp, (h.sent hs hrest hread).unsettled_eq
    (s := { s with pass := some (p.sent line rest r) }) rfl, hs, hrest]
  simp [Pass.sent]

/-- A line that is no report goes. -/
theorem Pass.Tracks.unsettled_discarded (h : p.Tracks s.octets looked added)
    (hp : s.pass = some p) (hs : p.sending = none) (hrest : p.remaining = line :: rest) :
    s.unsettled = p.kept.reverse ++ line :: (rest ++ Spool.entries added) ∧
      unsettled { s with pass := some (p.discarded rest) } =
        p.kept.reverse ++ (rest ++ Spool.entries added) := by
  rw [h.unsettled_eq hp, (h.discarded hs hrest).unsettled_eq
    (s := { s with pass := some (p.discarded rest) }) rfl, hs, hrest]
  simp [Pass.discarded, hs]

theorem answer_eq (hp : s.pass = some p) (ok : Bool) :
    s.answer ok = { s with pass := some (p.conclude ok) } := by
  rw [answer, hp]
  rfl

/-- A line that the receiver takes goes. -/
theorem Pass.Tracks.unsettled_taken (h : p.Tracks s.octets looked added) (hp : s.pass = some p)
    (hs : p.sending = some (line, r)) :
    s.unsettled = p.kept.reverse ++ line :: (p.remaining ++ Spool.entries added) ∧
      (s.answer true).unsettled = p.kept.reverse ++ (p.remaining ++ Spool.entries added) := by
  rw [h.unsettled_eq hp, answer_eq hp, (h.taken hs).unsettled_eq
    (s := { s with pass := some (p.conclude true) }) rfl, Pass.conclude, hs]
  simp

/-- A line that the receiver does not take stays where it is. -/
theorem Pass.Tracks.unsettled_failed (h : p.Tracks s.octets looked added) (hp : s.pass = some p)
    (hs : p.sending = some (line, r)) :
    s.unsettled = p.kept.reverse ++ line :: (p.remaining ++ Spool.entries added) ∧
      (s.answer false).unsettled = s.unsettled := by
  rw [h.unsettled_eq hp, answer_eq hp, (h.failed hs).unsettled_eq
    (s := { s with pass := some (p.conclude false) }) rfl, Pass.conclude, hs]
  simp

/-- **The end of a pass**: the file is what it keeps with what was added behind it, which is what it
had left to deliver, as read again. -/
theorem IsInOrder.finish (h : IsInOrder s) (hp : s.pass = some p)
    (ht : p.Tracks s.octets looked added) (hs : p.sending = none) (hrest : p.remaining = []) :
    ∃ t, s.finish p = (.ok p.summary, t) ∧ IsInOrder t ∧ t.pass = none ∧
      t.octets = p.keptText ++ added ∧ s.unsettled = p.kept.reverse ++ Spool.entries added ∧
      t.unsettled = p.kept.reverse.map Lines.asRead ++ Spool.entries added := by
  have hunsettled : s.unsettled = p.kept.reverse ++ Spool.entries added := by
    rw [ht.unsettled_eq hp, hs, hrest]
    simp
  have hlooked : Spool.entries p.snapshot = looked := by
    rw [ht.entries, hs, hrest]
    simp
  -- what is kept was read from the snapshot
  have hlines : ∀ line ∈ p.kept.reverse, Lines.IsLine line ∧ isEntry line = true :=
    fun line hline => ht.snapshot.isLine_of_mem (hlooked ▸ ht.kept.subset hline)
  have hkept : IsProper p.keptText := ⟨p.kept.reverse, fun line hline => (hlines line hline).1, rfl⟩
  have hentries : Spool.entries p.keptText = p.kept.reverse.map Lines.asRead :=
    entries_text_of_isEntry hlines
  by_cases hempty : p.snapshot = []
  · -- nothing has been looked at, so nothing is kept, and the file is left as it is
    rw [hempty, entries_nil] at hlooked
    subst hlooked
    have hnone : p.kept = [] := by simpa using ht.kept
    have hadded : s.octets = added := by rw [ht.file, hempty, List.nil_append]
    have hsummary : p.summary = {} := by
      have := ht.counted
      cases hsum : p.summary
      rw [hsum] at this
      simp only [List.length_nil] at this
      congr 1 <;> omega
    -- the file is left alone
    refine ⟨{ s with pass := none }, ?_,
      ⟨h.proper, h.depth, h.published, fun q hq => absurd hq (by simp)⟩, rfl, ?_, hunsettled, ?_⟩
    · rw [Spool.finish, hempty, hsummary]
      rfl
    · rw [Pass.keptText, hnone]
      exact hadded
    · rw [hnone, ← hadded]
      rfl
  · have hfinish : s.finish p = (.ok p.summary,
        { s with pass := none, file := some (p.keptText ++ added) }.withDepth
          (p.summary.kept + (Spool.entries added).length)) := by
      have hcontent : content s.file = .ok s.octets := content_eq h.proper
      rw [Spool.finish, if_neg (by simpa using hempty)]
      simp only [hcontent]
      rw [ht.file, gained_append ht.gain]
    have hfile : Spool.entries (p.keptText ++ added) =
        p.kept.reverse.map Lines.asRead ++ Spool.entries added := by
      rw [entries_append hkept ht.gain, hentries]
    refine ⟨_, hfinish,
      ⟨hkept.append ht.gain, ?_, rfl, fun q hq => absurd hq (by simp [withDepth])⟩, rfl, rfl,
      hunsettled, hfile⟩
    change _ = (Spool.entries (p.keptText ++ added)).length
    rw [hfile, List.length_append, List.length_map, List.length_reverse, ← ht.keptCount]
    rfl

end Work

end Steps

end Spool

end LogWatch
