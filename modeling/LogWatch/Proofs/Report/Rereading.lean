import LogWatch.Delivery.Stamp
import LogWatch.Proofs.Delivery.Spool
import LogWatch.Proofs.Json.Rereading

/-!
# Reports, written and read again

A report that waits in the spool is a line of JSON, and what is sent later is what is read of that
line. It is the report as it was, but for the numbers in it (`LogWatch.Report.read?_reportLine`),
and there is none if the report is not **readable**: the contexts and the extra fields of a report
lie two levels deep in its line, so two levels less may be nested in them than in a line of their
own.
-/

namespace LogWatch

namespace Report

open Json (Node)

/-! ### Maps -/

section Maps

variable {α β γ : Type}

/-- A list is read if each of its items is. -/
theorem mapM_ite {l : List α} {f : α → Option β} {R : α → Prop} [DecidablePred R] {g : α → β}
    (h : ∀ a ∈ l, f a = if R a then some (g a) else none) :
    l.mapM f = if ∀ a ∈ l, R a then some (l.map g) else none := by
  induction l with
  | nil => simp
  | cons a l ih =>
    obtain ⟨ha, hl⟩ := List.forall_mem_cons.mp h
    have hcons : (a :: l).mapM f = (f a).bind fun b => (l.mapM f).map (b :: ·) := by
      rw [List.mapM_cons]
      cases f a <;> cases l.mapM f <;> rfl
    rw [hcons, ha, ih hl, Json.bind_ite]
    simp only [List.forall_mem_cons, List.map_cons]

/-- **A map is read if each of its values is.** -/
theorem mapOf?_node {m : SortedMap β} {f : β → Json} {read : Node → Option γ} {R : β → Prop}
    [DecidablePred R] {g : β → γ} (hsorted : SortedMap.IsSorted m)
    (h : ∀ p ∈ m, read (f p.2).node = if R p.2 then some (g p.2) else none) :
    mapOf? read (Json.obj (m.map fun p => (p.1, f p.2))).node =
      if ∀ p ∈ m, R p.2 then some (m.map fun p => (p.1, g p.2)) else none := by
  have hpairs : (m.map fun p => (some p.1, (f p.2).node)).mapM
      (fun x : Option String × Node => do pure (← x.1, ← read x.2)) =
        if ∀ p ∈ m, R p.2 then some (m.map fun p => (p.1, g p.2)) else none := by
    rw [List.mapM_map]
    refine mapM_ite fun p hp => ?_
    have := h p hp
    by_cases hR : R p.2 <;> simp_all
  have hsorted' : SortedMap.IsSorted (m.map fun p => (p.1, g p.2)) := by
    simpa [SortedMap.IsSorted, Function.comp_def] using hsorted
  rw [Json.node, Json.membersNodes_eq, List.map_map, mapOf?]
  refine (congrArg (· >>= _) hpairs).trans ?_
  split
  · exact congrArg some hsorted'.ofList_eq
  · rfl

end Maps

/-! ### The fields of a report -/

/-- **A sound report**: its maps are in the order of their keys, and its values are sound. -/
structure IsSound (r : Report) : Prop where
  /-- The tags are in their order. -/
  tags : SortedMap.IsSorted r.tags
  /-- The contexts are in their order. -/
  contexts : SortedMap.IsSorted r.contexts
  /-- The contexts are sound. -/
  context : ∀ p ∈ r.contexts, (Json.obj p.2).IsSound
  /-- The extra fields are in their order and sound. -/
  extra : (Json.obj r.extra).IsSound

/-- So many arrays and objects may be nested in a context or an extra field. -/
def maxDepth : Nat := Node.maxDepth - 2

/-- The time that is read of the text of a time. -/
def timeReread? (x : Float) : Option Float := numberOf? (Json.Number.float x).node

/-- **A readable report**: its time is read as a number, and its contexts and extra fields are
readable two levels deep. -/
structure IsReadable (r : Report) : Prop where
  /-- The time is a number in range. -/
  timestamp : (timeReread? r.timestamp).isSome = true
  /-- The contexts are readable. -/
  contexts : ∀ p ∈ r.contexts, (Json.obj p.2).IsReadable maxDepth
  /-- The extra fields are readable. -/
  extra : ∀ p ∈ r.extra, p.2.IsReadable maxDepth

instance (r : Report) : Decidable r.IsReadable :=
  decidable_of_iff
    ((timeReread? r.timestamp).isSome = true ∧
      (∀ p ∈ r.contexts, (Json.obj p.2).IsReadable maxDepth) ∧
        ∀ p ∈ r.extra, p.2.IsReadable maxDepth)
    ⟨fun h => ⟨h.1, h.2.1, h.2.2⟩, fun h => ⟨h.timestamp, h.contexts, h.extra⟩⟩

/-- **What a report comes back as**: its numbers are what their texts are read as. -/
def reread (r : Report) : Report :=
  { r with
    timestamp := (timeReread? r.timestamp).getD r.timestamp
    contexts := r.contexts.map fun p => (p.1, Json.membersReread p.2)
    extra := r.extra.map fun p => (p.1, p.2.reread) }

section Fields

variable {r : Report}

theorem tagsOf?_node (h : r.IsSound) : tagsOf? r.tagsJson.node = some r.tags := by
  refine (mapOf?_node (f := Json.str) (R := fun _ => True) (g := id) h.tags fun p _ => rfl).trans ?_
  simp

theorem membersOf?_node {ms : Json.Members} {depth : Nat} (h : (Json.obj ms).IsSound) :
    membersOf? depth (Json.obj ms).node =
      if (Json.obj ms).IsReadable depth then some (Json.membersReread ms) else none := by
  have hvalue := Json.value?_node (Json.obj ms) depth h
  have hnode : (Json.obj ms).node = .obj (Json.membersNodes ms) := by rw [Json.node]
  rw [hnode] at hvalue ⊢
  rw [membersOf?, hvalue]
  by_cases hread : (Json.obj ms).IsReadable depth
  · rw [if_pos hread, if_pos hread, Json.reread]
  · rw [if_neg hread, if_neg hread]

theorem contextsOf?_node (h : r.IsSound) : contextsOf? r.contextsJson.node =
    if ∀ p ∈ r.contexts, (Json.obj p.2).IsReadable maxDepth then
      some (r.contexts.map fun p => (p.1, Json.membersReread p.2))
    else none :=
  mapOf?_node (f := Json.obj) (R := fun ms => (Json.obj ms).IsReadable maxDepth)
    (g := Json.membersReread) h.contexts fun p hp => membersOf?_node (h.context p hp)

theorem extraOf?_node (h : r.IsSound) : extraOf? (Json.obj r.extra).node =
    if ∀ p ∈ r.extra, p.2.IsReadable maxDepth then
      some (r.extra.map fun p => (p.1, p.2.reread))
    else none := by
  obtain ⟨hsorted, hsound⟩ := Json.isSound_obj.mp h.extra
  have hread := mapOf?_node (f := id) hsorted fun p hp =>
    Json.value?_node p.2 maxDepth (hsound p hp)
  simp only [id_eq, Prod.eta, List.map_id'] at hread
  exact hread

/-- **What is read of the line of a report.** -/
theorem read?_reportLine (h : r.IsSound) :
    read? (Spool.reportLine r) = if r.IsReadable then some r.reread else none := by
  have hnode : Node.ofBytes? (Spool.reportLine r) = some (Json.obj r.fields).node := by
    rw [Spool.reportLine, jsonText, Json.ofString_render, Json.ofBytes?_chars]
  have hfields : r.fields.map (fun p => (some p.1, p.2.node)) =
      [(some "event_id", .str (some r.eventId)), (some "message", .str (some r.message)),
        (some "severity", .str (some r.severity.name)),
        (some "timestamp", (Json.Number.float r.timestamp).node),
        (some "tags", r.tagsJson.node), (some "contexts", r.contextsJson.node),
        (some "extra", (Json.obj r.extra).node)] := by
    simp [fields, Json.node]
  have htime : numberOf? (Json.Number.float r.timestamp).node = timeReread? r.timestamp := rfl
  rw [read?, hnode, Option.bind_some, Json.node, Json.membersNodes_eq, ofNode?, hfields]
  -- the texts and the tags are always read; the rest may not be
  simp only [List.foldlM_cons, List.foldlM_nil, Draft.member?, Draft.field?, Draft.empty, textOf?,
    severityOf?, tagsOf?_node h, contextsOf?_node h, extraOf?_node h, htime]
  cases hx : timeReread? r.timestamp with
  | none =>
    rw [if_neg fun hr : r.IsReadable => by simpa [hx] using hr.timestamp]
    simp
  | some x =>
    by_cases hcontexts : ∀ p ∈ r.contexts, (Json.obj p.2).IsReadable maxDepth
    · by_cases hextra : ∀ p ∈ r.extra, p.2.IsReadable maxDepth
      · have hr : r.IsReadable := ⟨by rw [hx]; rfl, hcontexts, hextra⟩
        rw [if_pos hr, if_pos hcontexts, if_pos hextra]
        simp [Severity.ofName?_name, Draft.report?, reread, hx]
      · rw [if_neg fun hr : r.IsReadable => hextra hr.extra, if_neg hextra]
        simp
    · rw [if_neg fun hr : r.IsReadable => hcontexts hr.contexts, if_neg hcontexts]
      simp

/-! ### The line of what comes back -/

/-- **A lasting report** is readable, and each of its numbers comes back with its text. -/
structure IsLasting (r : Report) : Prop where
  /-- It can be read again. -/
  readable : r.IsReadable
  /-- Its time comes back with its text. -/
  timestamp : ∀ x ∈ timeReread? r.timestamp,
    (Json.Number.float x).chars = (Json.Number.float r.timestamp).chars
  /-- So do the numbers in its contexts. -/
  contexts : ∀ p ∈ r.contexts, ∀ n ∈ (Json.obj p.2).numbers, n.IsKept
  /-- So do the numbers in its extra fields. -/
  extra : ∀ p ∈ r.extra, ∀ n ∈ p.2.numbers, n.IsKept

theorem contextsJson_reread : r.reread.contextsJson = r.contextsJson.reread := by
  rw [contextsJson, contextsJson, Json.reread, Json.membersReread_eq, reread]
  simp [Json.reread]

theorem extra_reread : Json.obj r.reread.extra = (Json.obj r.extra).reread := by
  rw [Json.reread, Json.membersReread_eq, reread]

/-- **A lasting report comes back with its text.** -/
theorem IsLasting.jsonText_reread (h : r.IsLasting) : r.reread.jsonText = r.jsonText := by
  have htime : (Json.Number.float r.reread.timestamp).chars =
      (Json.Number.float r.timestamp).chars := by
    obtain ⟨x, hx⟩ := Option.isSome_iff_exists.mp h.readable.timestamp
    rw [reread, hx]
    exact h.timestamp x hx
  have hcontexts : r.reread.contextsJson.chars = r.contextsJson.chars := by
    rw [contextsJson_reread]
    refine Json.chars_reread _ fun n hn => ?_
    rw [contextsJson, Json.numbers, Json.mem_membersNumbers] at hn
    obtain ⟨q, hq, hn⟩ := hn
    obtain ⟨p, hp, rfl⟩ := List.mem_map.mp hq
    exact h.contexts p hp n hn
  have hextra : (Json.obj r.reread.extra).chars = (Json.obj r.extra).chars := by
    rw [extra_reread]
    refine Json.chars_reread _ fun n hn => ?_
    rw [Json.numbers, Json.mem_membersNumbers] at hn
    obtain ⟨p, hp, hn⟩ := hn
    exact h.extra p hp n hn
  have htags : r.reread.tagsJson = r.tagsJson := rfl
  rw [jsonText, jsonText, Json.render, Json.render, fields, fields]
  simp only [Json.chars, Json.membersChars, htime, hcontexts, hextra, htags]
  rfl

end Fields

end Report

/-! ### Stamps -/

namespace Stamp

variable {r : Report} {key value : String}

theorem tag_reread : tag r.reread key value = (tag r key value).reread := by
  rw [tag, tag]
  split <;> rfl

/-- A stamp makes no difference to what comes back. -/
theorem apply_reread (s : Stamp) : s.apply r.reread = (s.apply r).reread := by
  rw [apply, apply, tag_reread, tag_reread]

/-- A tag has no numbers. -/
theorem isLasting_tag (h : r.IsLasting) : (tag r key value).IsLasting := by
  rw [tag]
  split
  · exact h
  · exact ⟨⟨h.readable.timestamp, h.readable.contexts, h.readable.extra⟩, h.timestamp, h.contexts,
      h.extra⟩

theorem isLasting_apply (s : Stamp) (h : r.IsLasting) : (s.apply r).IsLasting :=
  isLasting_tag (isLasting_tag h)

/-- **A lasting report is stamped with the same line after it has come back.** -/
theorem jsonLine_apply_reread (s : Stamp) (h : r.IsLasting) :
    (s.apply r.reread).jsonLine = (s.apply r).jsonLine := by
  rw [apply_reread, Report.jsonLine, Report.jsonLine,
    (isLasting_apply s h).jsonText_reread]

end Stamp

end LogWatch
