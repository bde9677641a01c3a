import LogWatch.Proofs.Detector.KeptLine
import LogWatch.Proofs.Monitor.ReportSize

/-!
# What a report tells is told by its own lines

Between the line that opens a batch and the report of the batch there is a long way: the line is
judged, its timestamp and its fields are asked for by a detector that keeps things in between, its
batch is closed by some other line or by another task, and the report is made later still. What the
report says of its first line depends on none of that.

Two things are put together here. The lines of interest of a run, as they were read, are cut into
**groups**, each of which became one batch (`LogWatch.Monitor.exists_groups`); and a **detector
replies to anything but a verdict as a new one would** (`LogWatch.Detector.ask_memory`). So the
fields of a report can be read off the lines of its group (`LogWatch.Monitor.Tells`), with the
detector in whatever state earlier questions have left it (`LogWatch.Monitor.run_tells`).
-/

namespace LogWatch

/-! ### What a detector replies about a line -/

namespace Detector

/-- The fields in a reply. -/
def Reply.fields? : Reply → Option Json.Members
  | .context fields => fields
  | _ => none

/-- The timestamp in a reply. -/
def Reply.timestamp? : Reply → Option LineTimestamp
  | .timestamp t => t
  | _ => none

section Replies

variable (d : Detector) (qs : List Inquiry)

theorem isRead_memory (p : FieldPattern) {m : Memory} (h : KeptLine.IsRead m.kept) :
    KeptLine.IsRead ((Detector.json p).memory m qs).kept := by
  induction qs generalizing m with
  | nil => exact h
  | cons q qs ih => exact ih (ask_json h).2

/-- **A detector replies as a new one would**, whatever it has been asked before, unless it is asked
for a verdict. -/
theorem ask_memory {q : Inquiry} (hq : q.question ≠ .verdict) :
    (d.ask (d.memory {} qs) q).1 = d.reply none q := by
  cases d with
  | json p => exact (ask_json (isRead_memory qs p KeptLine.isRead_none)).1
  | _ =>
    simp only [ask, reply]
    cases hquestion : q.question with
    | verdict => exact absurd hquestion hq
    | _ => rfl

theorem fields?_ask (line : Bytes) (now : Moment) (wall : WallTime) :
    (d.ask (d.memory {} qs) ⟨.context, line, now, wall⟩).1.fields? =
      d.contextReader?.bind fun read => read line := by
  rw [ask_memory d qs (by simp), reply]
  cases d.contextReader? <;> rfl

theorem timestamp?_ask (line : Bytes) (now : Moment) (wall : WallTime) :
    (d.ask (d.memory {} qs) ⟨.timestamp, line, now, wall⟩).1.timestamp? =
      d.timestampReader?.bind fun read => read wall line := by
  rw [ask_memory d qs (by simp), reply]
  cases d.timestampReader? <;> rfl

end Replies

end Detector

/-! ### The parts of a report -/

namespace Incident

section Parts

variable (r : Report) (origin : Origin) (source : String) (b : Batch)
  (state : Option Json.Members)

/-- The severity that fields name is that of the first level field with a known word. -/
theorem severityOfContext?_eq (context : Json.Members) :
    severityOfContext? context = levelFields.findSome? fun name =>
      ((SortedMap.get? context name).bind Json.asString?).bind Severity.ofLevelWord? := by
  rw [severityOfContext?, ← List.head?_filterMap, List.filterMap_filterMap, List.head?_filterMap]

@[simp] theorem tag?_withTag_self (key value : String) :
    (r.withTag key value).tag? key = some value :=
  SortedMap.get?_insert_self r.tags key value

theorem tag?_withTag_of_ne {key j : String} (value : String) (h : j ≠ key) :
    (r.withTag key value).tag? j = r.tag? j :=
  SortedMap.get?_insert_of_ne r.tags value h

@[simp] theorem tags_addState : (addState r state).tags = r.tags := by
  cases state <;> rfl

@[simp] theorem tags_addContext (context : Option Json.Members) :
    (addContext r context).tags = r.tags := by
  rw [addContext.eq_def]
  split <;> rfl

/-- The tags of a report are those that were set for its anchor and its priority. -/
theorem tag?_report (key : String) :
    (report origin source b state).tag? key =
      (tagPriority (tagAnchor ((Report.new origin b.message (severityOf b)).withTag "source" source)
        b.anchor) b.metadata.priority).tag? key := by
  rw [Report.tag?, report, tags_addState, tags_addContext]
  cases b.anchor <;> cases b.metadata.priority <;> rfl

/-- The tag of the anchor is set if there is one. -/
theorem logTimestamp_report :
    (report origin source b state).tag? "log_timestamp" =
      b.anchor.map fun t => Utf8.decodeLossy t.text := by
  rw [tag?_report]
  have hpriority (r : Report) (priority : Option Syslog.Priority) :
      (tagPriority r priority).tag? "log_timestamp" = r.tag? "log_timestamp" := by
    cases priority with
    | none => rfl
    | some priority =>
      rw [tagPriority, tag?_withTag_of_ne _ _ (by decide), tag?_withTag_of_ne _ _ (by decide)]
  rw [hpriority]
  cases b.anchor with
  | none => rfl
  | some t => exact tag?_withTag_self _ _ _

theorem tag?_tagAnchor_of_ne (anchor : Option LineTimestamp) {key : String}
    (h : key ≠ "log_timestamp") : (tagAnchor r anchor).tag? key = r.tag? key := by
  cases anchor with
  | none => rfl
  | some t => exact tag?_withTag_of_ne _ _ h

/-- The tags of the priority are set if there is one. -/
theorem syslog_report :
    (report origin source b state).tag? "syslog_facility" =
        b.metadata.priority.map (fun priority => toString priority.facility) ∧
      (report origin source b state).tag? "syslog_severity" =
        b.metadata.priority.map fun priority => toString priority.severity := by
  rw [tag?_report, tag?_report]
  cases b.metadata.priority with
  | none =>
    simp only [tagPriority]
    rw [tag?_tagAnchor_of_ne _ _ (by decide), tag?_tagAnchor_of_ne _ _ (by decide),
      tag?_withTag_of_ne _ _ (by decide), tag?_withTag_of_ne _ _ (by decide)]
    exact ⟨rfl, rfl⟩
  | some priority =>
    simp only [tagPriority]
    rw [tag?_withTag_of_ne _ _ (by decide), tag?_withTag_self, tag?_withTag_self]
    exact ⟨rfl, rfl⟩

/-- The fields of the first line are a context of the report, unless there are none. -/
theorem logData_report :
    SortedMap.get? (report origin source b state).contexts logDataContext =
      b.metadata.context.filter fun fields => !fields.isEmpty := by
  have hstate (r : Report) : SortedMap.get? (addState r state).contexts logDataContext =
      SortedMap.get? r.contexts logDataContext := by
    cases state with
    | none => rfl
    | some ms => exact SortedMap.get?_insert_of_ne _ _ (by decide)
  have hempty (r : Report) (h : r.contexts = []) (context : Option Json.Members) :
      SortedMap.get? (addContext r context).contexts logDataContext =
        context.filter fun fields => !fields.isEmpty := by
    rcases context with _ | _ | ⟨p, context⟩
    · rw [addContext, h]
      · rfl
      · exact fun _ _ hnone => by simp at hnone
    · rw [addContext, h]
      · rfl
      · exact fun _ _ hnone => by simp at hnone
    · exact SortedMap.get?_insert_self _ _ _
  rw [report, hstate, hempty]
  cases b.anchor <;> cases b.metadata.priority <;> rfl

/-- Neither the tags nor the contexts of a report change its severity, its message or its extra
fields. -/
theorem exists_report_eq : ∃ tags contexts, report origin source b state =
    { ((((Report.new origin b.message (severityOf b)).withExtra "line_count"
        (.ofNat b.lineCount)).withExtra "byte_count" (.ofNat b.byteCount)).withExtra "raw_line"
        (.str b.metadata.rawLine)) with tags, contexts } := by
  have hstate (r : Report) : ∃ contexts, addState r state = { r with contexts } := by
    cases state <;> exact ⟨_, rfl⟩
  have hcontext (r : Report) (context : Option Json.Members) :
      ∃ contexts, addContext r context = { r with contexts } := by
    rw [addContext.eq_def]
    split <;> exact ⟨_, rfl⟩
  have hpriority (r : Report) (priority : Option Syslog.Priority) :
      ∃ tags, tagPriority r priority = { r with tags } := by
    cases priority <;> exact ⟨_, rfl⟩
  have hanchor (r : Report) (anchor : Option LineTimestamp) :
      ∃ tags, tagAnchor r anchor = { r with tags } := by
    cases anchor <;> exact ⟨_, rfl⟩
  rw [report]
  obtain ⟨contexts, hs⟩ := hstate _
  rw [hs]
  obtain ⟨contexts', hc⟩ := hcontext _ b.metadata.context
  rw [hc]
  obtain ⟨tags, hp⟩ := hpriority _ b.metadata.priority
  rw [hp]
  obtain ⟨tags', ha⟩ := hanchor _ b.anchor
  rw [ha]
  exact ⟨_, _, rfl⟩

theorem severity_report : (report origin source b state).severity = severityOf b := by
  obtain ⟨tags, contexts, h⟩ := exists_report_eq origin source b state
  rw [h]
  rfl

/-- The extra fields are the two counts and the first line. -/
theorem extra_report : (report origin source b state).extra =
    [("byte_count", .ofNat b.byteCount), ("line_count", .ofNat b.lineCount),
      ("raw_line", .str b.metadata.rawLine)] := by
  obtain ⟨tags, contexts, h⟩ := exists_report_eq origin source b state
  rw [h]
  rfl

end Parts

end Incident

namespace Monitor

/-! ### Lines as they are read -/

/-- A line of interest as it was read, with what the clocks said. -/
structure ReadLine where
  /-- The time by the wall clock. -/
  wall : WallTime
  /-- The line. -/
  line : Bytes
  /-- The time by the monotonic clock. -/
  now : Moment

/-- The line as it is pushed. -/
def ReadLine.arrival (p : Plan) (x : ReadLine) : Batcher.Arrival where
  line := p.messageOf x.line
  timestamp := p.timestamp? x.wall x.line
  metadata := p.metadata x.line
  now := x.now

/-- The line of interest that the reader takes in at an event, as it was read. -/
def readLine? (p : Plan) (s : State) (e : Event) : Option ReadLine :=
  match taken? s e with
  | some (wall, line) => if accepts p s line then some ⟨wall, line, s.now⟩ else none
  | none => none

/-- The lines of interest of a history, as they were read. -/
def readLines (p : Plan) (h : List Entry) : List ReadLine :=
  h.filterMap fun en => readLine? p en.before en.event

/-- The fields of a line, by a detector that has kept `m`. -/
def ReadLine.fields? (p : Plan) (m : Detector.Memory) (x : ReadLine) : Option Json.Members :=
  (p.detector.ask m ⟨.context, x.line, x.now, x.wall⟩).1.fields?

/-- The timestamp of a line: by a detector that has kept `m`, if it has its own form, or by any
form. -/
def ReadLine.timestamp? (p : Plan) (m : Detector.Memory) (x : ReadLine) : Option LineTimestamp :=
  (p.detector.ask m ⟨.timestamp, x.line, x.now, x.wall⟩).1.timestamp? <|>
    LineTimestamp.extract? x.wall x.line

/-- The body of a batch of those lines. -/
def bodyOf (p : Plan) (xs : List ReadLine) : Bytes :=
  List.intercalate [10] (xs.map fun x => p.messageOf x.line)

/-- **A report tells of the lines** `first` and `rest`, and of what a detector that has kept `m`
replies about them. -/
structure Tells (p : Plan) (m : Detector.Memory) (first : ReadLine) (rest : List ReadLine)
    (r : Report) : Prop where
  /-- The first line is there as it was read. -/
  rawLine : SortedMap.get? r.extra "raw_line" = some (.str (Utf8.decodeLossy first.line))
  /-- The lines are counted. -/
  lineCount : SortedMap.get? r.extra "line_count" = some (.ofNat (rest.length + 1))
  /-- The octets of the body are counted. -/
  byteCount : SortedMap.get? r.extra "byte_count" =
    some (.ofNat (bodyOf p (first :: rest)).length)
  /-- The message is the body. -/
  message : r.message = Utf8.decodeLossy (bodyOf p (first :: rest))
  /-- The log data are the fields of the first line, unless it has none. -/
  logData : SortedMap.get? r.contexts "Log Data" =
    (first.fields? p m).filter fun fields => !fields.isEmpty
  /-- The facility is that of the first line. -/
  facility : r.tag? "syslog_facility" =
    (Syslog.priority? first.line).map fun priority => toString priority.facility
  /-- The syslog severity is that of the first line. -/
  syslogSeverity : r.tag? "syslog_severity" =
    (Syslog.priority? first.line).map fun priority => toString priority.severity
  /-- The severity is that of the priority; without one, that of the first level field of the first
  line with a known word; without one, it is an error. -/
  severity : r.severity =
    match Syslog.priority? first.line with
    | some priority => Severity.ofSyslog priority.severity
    | none => ((first.fields? p m).bind fun fields =>
        ["level", "severity", "log_level", "type"].findSome? fun name =>
          ((SortedMap.get? fields name).bind Json.asString?).bind
            Severity.ofLevelWord?).getD .error
  /-- The timestamp is the first one among the lines. -/
  logTimestamp : r.tag? "log_timestamp" =
    ((first :: rest).findSome? fun x => x.timestamp? p m).map fun t => Utf8.decodeLossy t.text

/-! ### Groups of lines -/

section Groups

variable {p : Plan} {now : Moment} {es : List Event} {s : State}

theorem arrivals_eq (p : Plan) (h : List Entry) :
    arrivals p h = (readLines p h).map (ReadLine.arrival p) := by
  rw [arrivals, readLines, List.map_filterMap]
  refine List.filterMap_congr fun en _ => ?_
  rw [arrival?, readLine?]
  cases taken? en.before en.event with
  | none => rfl
  | some line =>
    simp only [apply_ite (Option.map _), Option.map_some, Option.map_none]
    rfl

/-- Segments of lines that were pushed are groups of lines that were read. -/
theorem exists_groups {f : ReadLine → Batcher.Arrival} {segs : List Batcher.Segment}
    {tail : List Batcher.Arrival} {xs : List ReadLine}
    (h : segs.flatMap Batcher.Segment.members ++ tail = xs.map f) :
    ∃ groups rest, groups.flatten ++ rest = xs ∧
      List.Forall₂ (fun seg group => seg.members = group.map f) segs groups := by
  induction segs generalizing xs with
  | nil => exact ⟨[], xs, rfl, .nil⟩
  | cons seg segs ih =>
    rw [List.flatMap_cons, List.append_assoc] at h
    obtain ⟨group, others, rfl, hgroup, hothers⟩ := List.map_eq_append_iff.mp h.symm
    obtain ⟨groups, rest, rfl, hgroups⟩ := ih hothers.symm
    exact ⟨group :: groups, rest, by simp, .cons hgroup.symm hgroups⟩

/-- **Every batch that is handed over is made of a group of lines**: the groups are lines of
interest, each once and in their order. -/
theorem exists_groups_of_run (hrun : run p (State.starting p now) es = some s) :
    let h := history p (State.starting p now) es
    ∃ groups rest, groups.flatten ++ rest = readLines p h ∧
      List.Forall₂ (fun b group => Batcher.IsMadeOf b (group.map (ReadLine.arrival p)))
        (batches (handed h)) groups := by
  intro h
  obtain ⟨segs, tail, hseg⟩ := Batcher.exists_segmented now (calls p h)
  have hmembers := hseg.members
  rw [arrivals_calls, arrivals_eq] at hmembers
  obtain ⟨groups, rest, hlines, hgroups⟩ := exists_groups hmembers
  have hbatches : batches (handed h) = segs.map Batcher.Segment.batch := by
    rw [← (gathered_of_run hrun).closed, hseg.closed, List.map_map]
    rfl
  refine ⟨groups, rest, hlines, ?_⟩
  rw [hbatches, List.forall₂_map_left_iff]
  have hmade := hseg.made
  clear * - hgroups hmade
  induction hgroups with
  | nil => exact .nil
  | cons hgroup _ ih =>
    refine .cons (hgroup ▸ hmade _ List.mem_cons_self) (ih fun seg hmem => ?_)
    exact hmade seg (List.mem_cons_of_mem _ hmem)

/-- **A report of a batch tells of the lines that the batch is made of**, whatever the detector has
been asked before. -/
theorem tells_report {b : Batch} {first : ReadLine} {rest : List ReadLine}
    (hmade : Batcher.IsMadeOf b ((first :: rest).map (ReadLine.arrival p))) (origin : Origin)
    (state : Option Json.Members) (qs : List Detector.Inquiry) :
    Tells p (p.detector.memory {} qs) first rest (Incident.report origin p.name b state) := by
  have hmetadata : b.metadata = p.metadata first.line :=
    (Option.some.inj hmade.metadata).symm
  have hfields : first.fields? p (p.detector.memory {} qs) = b.metadata.context := by
    rw [hmetadata, ReadLine.fields?, Detector.fields?_ask]
    rfl
  have htimestamp (x : ReadLine) :
      x.timestamp? p (p.detector.memory {} qs) = (x.arrival p).timestamp := by
    rw [ReadLine.timestamp?, Detector.timestamp?_ask]
    rfl
  have hbody : b.body = bodyOf p (first :: rest) := by
    rw [hmade.body, Batcher.joined, List.map_map]
    rfl
  have hsyslog := Incident.syslog_report origin p.name b state
  constructor
  · rw [Incident.extra_report, hmetadata]
    rfl
  · rw [Incident.extra_report, hmade.lineCount, List.length_map]
    rfl
  · rw [Incident.extra_report, hmade.byteCount, ← hmade.body, hbody]
    rfl
  · rw [message_report, Batch.message, hbody]
  · rw [hfields]
    exact Incident.logData_report origin p.name b state
  · rw [hsyslog.1, hmetadata]
    rfl
  · rw [hsyslog.2, hmetadata]
    rfl
  · rw [Incident.severity_report, Incident.severityOf, hfields, hmetadata]
    rw [funext Incident.severityOfContext?_eq]
    rfl
  · rw [Incident.logTimestamp_report, hmade.anchor, Batcher.anchor?, List.findSome?_map]
    simp only [htimestamp]
    rfl

end Groups

/-! ### Whole runs -/

section Runs

variable {p : Plan} {now : Moment} {es : List Event} {s : State}

/-- **A report tells of its own lines and of nothing else**, however the tasks took turns and
whatever the detector has been asked in between. The lines of interest of a run fall into groups, in
their order and each of them in one group, or are left in the open batch; each batch that was handed
over has the lines of one group. A report that was sent is an alert, or the report of one of these
batches, and then it tells of the lines of the group of that batch: of its first line as it was
read, of the fields and the priority of this line, of the first timestamp in the group, and of how
many lines and octets the batch has. -/
theorem run_tells (hrun : run p (State.starting p now) es = some s) :
    let h := history p (State.starting p now) es
    ∃ groups rest, groups.flatten ++ rest = readLines p h ∧
      List.Forall₂ (fun b group => b.lines = group.map fun x => p.messageOf x.line)
        (batches (handed h)) groups ∧
      ∀ r ∈ reports h, .alert r ∈ handed h ∨
        ∃ (i : Nat) (b : Batch) (first : ReadLine) (others : List ReadLine),
          (batches (handed h))[i]? = some b ∧ groups[i]? = some (first :: others) ∧
          (∃ origin state, r = Incident.report origin p.name b state) ∧
          ∀ qs, Tells p (p.detector.memory {} qs) first others r := by
  intro h
  obtain ⟨groups, rest, hlines, hgroups⟩ := exists_groups_of_run hrun
  refine ⟨groups, rest, hlines, hgroups.imp fun b group hmade => ?_, fun r hr => ?_⟩
  · rw [hmade.lines, List.map_map]
    rfl
  obtain ⟨d, hd, hreport⟩ := exists_handed_of_mem_reports hrun hr
  cases d with
  | alert a =>
    obtain rfl : r = a := hreport
    exact .inl hd
  | batch b =>
    obtain ⟨origin, state, rfl⟩ := hreport
    have hb : b ∈ batches (handed h) := List.mem_filterMap.mpr ⟨.batch b, hd, rfl⟩
    obtain ⟨i, hi, rfl⟩ := List.mem_iff_getElem.mp hb
    have hi' : i < groups.length := hgroups.length_eq ▸ hi
    have hmade : Batcher.IsMadeOf (batches (handed h))[i] (groups[i].map (ReadLine.arrival p)) :=
      hgroups.get hi hi'
    cases hgroup : groups[i] with
    | nil =>
      rw [hgroup] at hmade
      exact absurd rfl hmade.nonempty
    | cons first others =>
      rw [hgroup] at hmade
      refine .inr ⟨i, _, first, others, List.getElem?_eq_getElem hi, ?_, ⟨origin, state, rfl⟩,
        tells_report hmade origin state⟩
      rw [List.getElem?_eq_getElem hi', hgroup]

/-- Two lines in one batch, of which the first has a priority: the report has it, though the second
line has none. -/
theorem run_tells_priority :
    let p : Plan := ⟨"m", .custom ⟨"a", .containing [97]⟩, none, none, none, false, true, 0⟩
    let es : List Event := [.opened, .received [60, 49, 49, 62, 97, 10, 97], .lineTaken ⟨0, 0⟩,
      .streamEnded ⟨0, 0⟩, .streamEnded ⟨0, 0⟩, .dispatched ⟨"", 0⟩ none]
    ∃ s, run p (State.starting p 0) es = some s ∧
      ∃ r ∈ reports (history p (State.starting p 0) es),
        SortedMap.get? r.extra "raw_line" = some (.str (Utf8.decodeLossy [60, 49, 49, 62, 97])) ∧
        r.tag? "syslog_facility" = some (toString 1) ∧ r.severity = .error ∧
        SortedMap.get? r.contexts "Log Data" = none := by
  intro p es
  obtain ⟨s, hrun⟩ : ∃ s, run p (State.starting p 0) es = some s := ⟨_, rfl⟩
  obtain ⟨r, hr⟩ : ∃ r, reports (history p (State.starting p 0) es) = [r] := ⟨_, rfl⟩
  obtain ⟨b, hb⟩ : ∃ b, handed (history p (State.starting p 0) es) = [.batch b] := ⟨_, rfl⟩
  obtain ⟨groups, rest, hlines, hgroups, hreports⟩ := run_tells hrun
  refine ⟨s, hrun, r, by simp [hr], ?_⟩
  rcases hreports r (by simp [hr]) with halert | ⟨i, b', first, others, -, hgroup, -, htells⟩
  · simp [hb] at halert
  · -- there is one group, and the first line of the run is the first one in it
    obtain ⟨group, rfl⟩ : ∃ group, groups = [group] := by
      rw [hb] at hgroups
      exact List.length_eq_one_iff.mp hgroups.length_eq.symm
    obtain ⟨rfl, rfl⟩ : i = 0 ∧ group = first :: others := by
      simpa [List.getElem?_singleton] using hgroup
    obtain rfl : first = ⟨⟨0, 0⟩, [60, 49, 49, 62, 97], 0⟩ := (List.cons.inj hlines).1
    have ht := htells []
    exact ⟨ht.rawLine, ht.facility, ht.severity, ht.logData⟩

end Runs

end Monitor

end LogWatch
