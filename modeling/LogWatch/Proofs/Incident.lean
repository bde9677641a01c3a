import LogWatch.Detector.Basic
import LogWatch.Incident
import LogWatch.Proofs.Report.Rereading

/-!
# The reports that are made

Reports are made of batches, and of sources that fall silent or resume; there are no others
(`LogWatch.Incident.IsMade`). What a batch brings along is whatever its lines say: any text, and any
context that a detector finds in a line, such as a whole JSON object.

A report that is made is sound. Its extra fields are two counts and a text, so whether it comes back
from the spool as it was depends on nothing but its time and its contexts
(`LogWatch.Incident.IsMade.isLasting`).
-/

namespace LogWatch

/-! ### Building a report -/

namespace Report

variable {r : Report}

/-- **A plain report**: it is sound, and its extra fields are texts and integers. -/
structure IsPlain (r : Report) : Prop where
  /-- It is sound. -/
  sound : r.IsSound
  /-- In the extra fields nothing is nested. -/
  height : ∀ p ∈ r.extra, p.2.height = 0
  /-- The numbers in the extra fields keep their text. -/
  kept : ∀ p ∈ r.extra, ∀ n ∈ p.2.numbers, n.IsKept

theorem isPlain_new (origin : Origin) (message : String) (severity : Severity) :
    (new origin message severity).IsPlain := by
  refine ⟨⟨List.Pairwise.nil, List.Pairwise.nil, ?_, ?_⟩, ?_, ?_⟩
  · simp [new]
  · exact Json.isSound_obj.mpr ⟨List.Pairwise.nil, by simp [new]⟩
  · simp [new]
  · simp [new]

theorem IsPlain.withTag (h : r.IsPlain) (key value : String) : (r.withTag key value).IsPlain :=
  { h with sound := { h.sound with tags := h.sound.tags.insert key value } }

theorem IsPlain.withContext (h : r.IsPlain) (name : String) {context : Json.Members}
    (hc : (Json.obj context).IsSound) : (r.withContext name context).IsPlain := by
  refine ⟨{ h.sound with contexts := h.sound.contexts.insert name context, context := ?_ },
    h.height, h.kept⟩
  intro p hp
  rcases SortedMap.mem_of_mem_insert hp with rfl | hp
  · exact hc
  · exact h.sound.context p hp

theorem IsPlain.withExtra (h : r.IsPlain) (key : String) {value : Json} (hv : value.IsSound)
    (hheight : value.height = 0) (hkept : ∀ n ∈ value.numbers, n.IsKept) :
    (r.withExtra key value).IsPlain := by
  obtain ⟨hsorted, hsound⟩ := Json.isSound_obj.mp h.sound.extra
  refine ⟨{ h.sound with extra := ?_ }, ?_, ?_⟩
  · refine Json.isSound_obj.mpr ⟨hsorted.insert key value, fun p hp => ?_⟩
    rcases SortedMap.mem_of_mem_insert hp with rfl | hp
    · exact hv
    · exact hsound p hp
  · intro p hp
    rcases SortedMap.mem_of_mem_insert hp with rfl | hp
    · exact hheight
    · exact h.height p hp
  · intro p hp
    rcases SortedMap.mem_of_mem_insert hp with rfl | hp
    · exact hkept
    · exact h.kept p hp

theorem IsPlain.withText (h : r.IsPlain) (key text : String) :
    (r.withExtra key (.str text)).IsPlain :=
  h.withExtra key trivial rfl (by simp [Json.numbers])

theorem IsPlain.withCount (h : r.IsPlain) (key : String) {n : Nat} (hn : n < Nat.pow 2 64) :
    (r.withExtra key (.ofNat n)).IsPlain := by
  have hrange := Json.Number.isInRange_natCast hn
  refine h.withExtra key hrange rfl fun k hk => ?_
  rw [Json.ofNat, Json.numbers, List.mem_singleton] at hk
  exact hk ▸ Json.Number.isKept_int hrange

/-- A plain report comes back as it was if its time and its contexts do. -/
theorem IsPlain.isReadable_iff (h : r.IsPlain) : r.IsReadable ↔
    (timeReread? r.timestamp).isSome = true ∧
      ∀ p ∈ r.contexts, (Json.obj p.2).IsReadable maxDepth := by
  refine ⟨fun hr => ⟨hr.timestamp, hr.contexts⟩, fun hr => ⟨hr.1, hr.2, fun p hp => ⟨?_, ?_⟩⟩⟩
  · rw [h.height p hp]
    exact Nat.zero_le _
  · exact fun n hn => (h.kept p hp n hn).1

end Report

/-! ### Making a report -/

namespace Incident

/-- A detector finds the context in some line. -/
def IsFound (context : Json.Members) : Prop :=
  ∃ (d : Detector) (read : Bytes → Option Json.Members) (line : Bytes),
    d.contextReader? = some read ∧ read line = some context

/-- **The reports that are made**: of a batch, with a context that a detector has found and any
state of the host, and of a source that falls silent or resumes. -/
inductive IsMade : Report → Prop
  /-- The report of a batch. -/
  | batch (origin : Origin) (source : String) (b : Batch) (state : Option Json.Members)
    (hlines : b.lineCount < Nat.pow 2 64) (hoctets : b.byteCount < Nat.pow 2 64)
    (hcontext : ∀ context ∈ b.metadata.context, IsFound context)
    (hstate : ∀ members ∈ state, (Json.obj members).IsSound) :
    IsMade (report origin source b state)
  /-- The alert that a source has fallen silent. -/
  | silence (origin : Origin) (source : String) (threshold : Span) :
    IsMade (silenceAlert origin source threshold)
  /-- The alert that a source has resumed. -/
  | recovery (origin : Origin) (source : String) : IsMade (recoveryAlert origin source)

theorem document?_isSound {line : Bytes} {context : Json.Members}
    (h : FieldPattern.document? line = some context) : (Json.obj context).IsSound := by
  rw [FieldPattern.document?] at h
  split at h
  · next hread =>
    obtain rfl := Option.some.inj h
    exact Json.isSound_of_read? hread
  · simp at h

theorem priority?_le {line : Bytes} {p : Syslog.Priority} (h : Syslog.priority? line = some p) :
    p.value ≤ Syslog.maxPriority := by
  obtain ⟨⟨q, rest⟩, hfront, rfl⟩ := Option.map_eq_some_iff.mp h
  obtain ⟨s, -, hfront⟩ := Option.bind_eq_some_iff.mp hfront
  obtain ⟨⟨digits, behind⟩, -, hfront⟩ := Option.bind_eq_some_iff.mp hfront
  dsimp only at hfront
  split at hfront
  · simp at hfront
  · obtain ⟨⟨value, rest'⟩, -, hfront⟩ := Option.bind_eq_some_iff.mp hfront
    dsimp only at hfront
    split at hfront
    · next hle =>
      obtain ⟨rfl, -⟩ := Prod.mk.inj (Option.some.inj hfront)
      exact hle
    · simp at hfront

/-- **What a detector finds is sound.** -/
theorem IsFound.isSound {context : Json.Members} (h : IsFound context) :
    (Json.obj context).IsSound := by
  obtain ⟨d, read, line, hreader, hread⟩ := h
  cases d with
  | json p =>
    obtain rfl := Option.some.inj hreader
    exact document?_isSound hread
  | syslog keywords =>
    obtain rfl := Option.some.inj hreader
    obtain ⟨p, hp, rfl⟩ := Option.map_eq_some_iff.mp hread
    have hle : p.value ≤ 191 := priority?_le hp
    have hrange {n : Nat} (hn : n ≤ 191) : (Json.ofNat n).IsSound :=
      Json.Number.isInRange_natCast (Nat.lt_of_le_of_lt hn (by decide))
    have hlt : "syslog_facility" < "syslog_severity" := by decide +kernel
    have hsorted : List.Pairwise (· < ·) ["syslog_facility", "syslog_severity"] :=
      List.pairwise_cons.mpr ⟨fun k hk => List.mem_singleton.mp hk ▸ hlt,
        List.pairwise_singleton _ _⟩
    refine Json.isSound_obj.mpr ⟨hsorted, ?_⟩
    simp only [List.forall_mem_cons]
    exact ⟨hrange (Nat.le_trans (Nat.div_le_self _ _) hle),
      hrange (Nat.le_trans (Nat.mod_le _ _) hle), by simp⟩
  | _ => simp [Detector.contextReader?] at hreader

/-- **A report that is made is plain.** -/
theorem IsMade.isPlain {r : Report} (h : IsMade r) : r.IsPlain := by
  cases h with
  | silence origin source threshold =>
    exact ((Report.isPlain_new _ _ _).withTag _ _).withTag _ _
  | recovery origin source =>
    exact ((Report.isPlain_new _ _ _).withTag _ _).withTag _ _
  | batch origin source b state hlines hoctets hcontext hstate =>
    have hfirst := ((((Report.isPlain_new origin b.message (severityOf b)).withTag "source"
      source).withCount "line_count" hlines).withCount "byte_count" hoctets).withText "raw_line"
        b.metadata.rawLine
    have hanchor {r : Report} (h : r.IsPlain) : (tagAnchor r b.anchor).IsPlain := by
      cases b.anchor with
      | none => exact h
      | some t => exact h.withTag _ _
    have hpriority {r : Report} (h : r.IsPlain) : (tagPriority r b.metadata.priority).IsPlain := by
      cases b.metadata.priority with
      | none => exact h
      | some p => exact (h.withTag _ _).withTag _ _
    have hfields {r : Report} (h : r.IsPlain) : (addContext r b.metadata.context).IsPlain := by
      cases hb : b.metadata.context with
      | none => exact h
      | some context =>
        cases context with
        | nil => exact h
        | cons p context => exact h.withContext _ (hcontext _ hb).isSound
    have hstate' {r : Report} (h : r.IsPlain) : (addState r state).IsPlain := by
      cases state with
      | none => exact h
      | some members => exact h.withContext _ (hstate members rfl)
    exact hstate' (hfields (hpriority (hanchor hfirst)))

/-- **A durable report**: its time comes back with its text, and so do the binary64 values in its
contexts, in which no more is nested than can be read again. -/
structure IsDurable (r : Report) : Prop where
  /-- The time comes back with its text. -/
  timestamp : ∃ x, Report.timeReread? r.timestamp = some x ∧
    (Json.Number.float x).chars = (Json.Number.float r.timestamp).chars
  /-- The contexts are not nested too deeply. -/
  contexts : ∀ p ∈ r.contexts, (Json.obj p.2).height ≤ Report.maxDepth
  /-- The binary64 values in the contexts come back with their texts. -/
  numbers : ∀ p ∈ r.contexts, ∀ x, Json.Number.float x ∈ (Json.obj p.2).numbers →
    (Json.Number.float x).IsKept

/-- **A durable report that is made lasts**: integers keep their texts anyway, and the extra fields
have nothing else. -/
theorem IsMade.isLasting {r : Report} (h : IsMade r) (hd : IsDurable r) : r.IsLasting := by
  have hplain := h.isPlain
  have hkept : ∀ p ∈ r.contexts, ∀ n ∈ (Json.obj p.2).numbers, n.IsKept := by
    intro p hp n hn
    cases n with
    | float x => exact hd.numbers p hp x hn
    | int n =>
      exact Json.Number.isKept_int
        (Json.isInRange_of_mem_numbers _ (hplain.sound.context p hp) _ hn)
  obtain ⟨x, hx, hchars⟩ := hd.timestamp
  refine ⟨hplain.isReadable_iff.mpr ⟨by rw [hx]; rfl, fun p hp => ⟨hd.contexts p hp, ?_⟩⟩, ?_,
    hkept, hplain.kept⟩
  · exact fun n hn => (hkept p hp n hn).1
  · rintro y hy
    obtain rfl := Option.some.inj (hx.symm.trans hy)
    exact hchars

end Incident

end LogWatch
