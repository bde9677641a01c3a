import LogWatch.Detector.Inquiry
import Mathlib.Data.List.Basic

/-!
# A verdict depends on the last anchor

The detector of kernel messages answers from a trail that earlier questions have left, but most of
them leave none. Only an **anchor** does: a line that matches the keywords, has a timestamp and has
a header, and about which it is asked whether it is of interest
(`LogWatch.Detector.IsAnchor`). A line that is merely on the trail is none, so that a long row of
such lines comes to an end.

What the detector remembers after some questions is therefore what the last anchor among them has
left, and the verdict on a line is a matter of that anchor and the line
(`LogWatch.Detector.kernel_verdict`).
-/

namespace LogWatch

namespace Detector

/-! ### Anchors -/

/-- The question is about an anchor with a timestamp and a header. -/
def IsAnchor (keywords : Regex) (q : Inquiry) (t : LineTimestamp) (header : String) : Prop :=
  q.question = .verdict ∧ keywords.isMatch q.line = true ∧
    ∃ body, Kernel.front? q.line = some (t, body) ∧ KernelTrail.header? body = some header

/-- The question is about no anchor. -/
def IsNoAnchor (keywords : Regex) (q : Inquiry) : Prop :=
  ∀ t header, ¬IsAnchor keywords q t header

/-- **The last anchor** of some questions, with its timestamp and its header. -/
def IsLastAnchor (keywords : Regex) (qs : List Inquiry) (anchor : Inquiry) (t : LineTimestamp)
    (header : String) : Prop :=
  ∃ before after, qs = before ++ anchor :: after ∧ IsAnchor keywords anchor t header ∧
    ∀ q ∈ after, IsNoAnchor keywords q

/-- A line seen at `now` follows an anchor. If it has a timestamp, that is not before the one of the
anchor and not more than five seconds behind it, and one of the headers begins with the other. If it
has none, it is seen not more than five seconds after the anchor. -/
def Follows (anchor : Inquiry) (t : LineTimestamp) (header : String) (now : Moment)
    (line : Bytes) : Prop :=
  (Kernel.front? line = none ∧ now ≤ anchor.now + Span.ofSeconds 5) ∨
    ∃ t' body header', Kernel.front? line = some (t', body) ∧
      0.0 ≤ t'.epoch - t.epoch ∧ t'.epoch - t.epoch ≤ Float.ofNat 5 ∧
      KernelTrail.header? body = some header' ∧
      (header'.toList <+: header.toList ∨ header.toList <+: header'.toList)

section Anchors

variable {keywords : Regex} {q anchor : Inquiry} {qs : List Inquiry} {m : Memory}
  {t : LineTimestamp} {header : String} {now : Moment} {line : Bytes}

/-- A trail covers the lines that follow what has left it. -/
theorem covers_iff :
    KernelTrail.covers ⟨t.epoch, header, anchor.now⟩ now line = true ↔
      Follows anchor t header now line := by
  rw [KernelTrail.covers, Follows]
  cases hfront : Kernel.front? line with
  | none =>
    have hwindow : now - anchor.now ≤ Span.ofSeconds KernelTrail.window ↔
        now ≤ anchor.now + Span.ofSeconds 5 := Nat.sub_le_iff_le_add'
    simpa only [decide_eq_true_eq, true_and, reduceCtorEq, false_and, exists_false, or_false]
      using hwindow
  | some found =>
    obtain ⟨t', body⟩ := found
    simp only [KernelTrail.related, Bool.and_eq_true, decide_eq_true_eq,
      Option.any_eq_true, Bool.or_eq_true, List.isPrefixOf_iff_prefix, reduceCtorEq, false_and,
      false_or, Option.some.injEq, Prod.mk.injEq, and_assoc]
    refine ⟨fun ⟨hfrom, hto, header', hheader, hrelated⟩ =>
      ⟨t', body, header', rfl, rfl, hfrom, hto, hheader, hrelated⟩, ?_⟩
    rintro ⟨_, _, header', rfl, rfl, hfrom, hto, hheader, hrelated⟩
    exact ⟨hfrom, hto, header', hheader, hrelated⟩

/-! ### What is remembered -/

theorem ask_kernel :
    (Detector.kernel keywords).ask m q =
      ((Detector.kernel keywords).reply m.trail q,
        { m with trail := (Detector.kernel keywords).trailAfter m.trail q }) := rfl

/-- An anchor is remembered by its timestamp, its header and the time at which it was seen. -/
theorem IsAnchor.trail_ask (h : IsAnchor keywords q t header) :
    ((Detector.kernel keywords).ask m q).2.trail = some ⟨t.epoch, header, q.now⟩ := by
  obtain ⟨hquestion, hmatch, body, hfront, hheader⟩ := h
  simp [ask_kernel, trailAfter, hquestion, detect, hmatch, KernelTrail.ofLine?, hfront, hheader]

/-- A line that matches the keywords and is no anchor leaves nothing to be remembered. -/
theorem IsNoAnchor.ofLine?_eq_none (h : IsNoAnchor keywords q) (hquestion : q.question = .verdict)
    (hmatch : keywords.isMatch q.line = true) : KernelTrail.ofLine? q.now q.line = none := by
  refine Option.eq_none_iff_forall_ne_some.mpr fun found hfound => ?_
  obtain ⟨⟨t, body⟩, hfront, hfound⟩ := Option.bind_eq_some_iff.mp hfound
  obtain ⟨header, hheader, -⟩ := Option.bind_eq_some_iff.mp hfound
  exact h t header ⟨hquestion, hmatch, body, hfront, hheader⟩

/-- **A question about no anchor changes nothing.** -/
theorem IsNoAnchor.ask_snd (h : IsNoAnchor keywords q) :
    ((Detector.kernel keywords).ask m q).2 = m := by
  suffices htrail : (Detector.kernel keywords).trailAfter m.trail q = m.trail by
    rw [ask_kernel, htrail]
  rw [trailAfter]
  split
  · next hquestion =>
    rw [detect]
    split
    · next hmatch =>
      rw [h.ofLine?_eq_none hquestion hmatch]
      rfl
    · rfl
  · rfl

theorem memory_append (d : Detector) (qs rs : List Inquiry) :
    d.memory m (qs ++ rs) = d.memory (d.memory m qs) rs := List.foldl_append

theorem memory_of_isNoAnchor (h : ∀ q ∈ qs, IsNoAnchor keywords q) :
    (Detector.kernel keywords).memory m qs = m := by
  induction qs generalizing m with
  | nil => rfl
  | cons q qs ih =>
    rw [memory, List.foldl_cons, (h q List.mem_cons_self).ask_snd]
    exact ih fun r hr => h r (List.mem_cons_of_mem _ hr)

/-- **What is remembered after some questions is the last anchor among them.** -/
theorem IsLastAnchor.trail_memory (h : IsLastAnchor keywords qs anchor t header) (m : Memory) :
    ((Detector.kernel keywords).memory m qs).trail = some ⟨t.epoch, header, anchor.now⟩ := by
  obtain ⟨before, after, rfl, hanchor, hafter⟩ := h
  rw [List.append_cons, memory_append, memory_of_isNoAnchor hafter, memory_append]
  exact hanchor.trail_ask

/-- Either there is a last anchor, or there is none at all. -/
theorem exists_isLastAnchor (keywords : Regex) (qs : List Inquiry) :
    (∃ anchor t header, IsLastAnchor keywords qs anchor t header) ∨
      ∀ q ∈ qs, IsNoAnchor keywords q := by
  induction qs with
  | nil => exact .inr (by simp)
  | cons q qs ih =>
    rcases ih with ⟨anchor, t, header, before, after, rfl, hlast⟩ | hnone
    · exact .inl ⟨anchor, t, header, q :: before, after, rfl, hlast⟩
    · by_cases hq : ∃ t header, IsAnchor keywords q t header
      · obtain ⟨t, header, hanchor⟩ := hq
        exact .inl ⟨q, t, header, [], qs, rfl, hanchor, hnone⟩
      · refine .inr fun r hr => ?_
        rcases List.mem_cons.mp hr with rfl | hr
        · exact fun t header hanchor => hq ⟨t, header, hanchor⟩
        · exact hnone r hr

end Anchors

/-- **The verdict on a kernel message depends on the last anchor only.** Whatever has been asked
before, a line is of interest if and only if it matches the keywords or follows the last anchor. A
question about anything else – a line on the trail or off it, a line that matches the keywords but
has no timestamp or no header, or a question for something else than a verdict – might as well not
have been asked. -/
theorem kernel_verdict (keywords : Regex) :
    (∀ (qs : List Inquiry) (line : Bytes) (now : Moment) (wall : WallTime),
      let d := Detector.kernel keywords
      ∃ ofInterest, (d.ask (d.memory {} qs) ⟨.verdict, line, now, wall⟩).1 = .verdict ofInterest ∧
        (ofInterest = true ↔ keywords.isMatch line = true ∨
          ∃ anchor t header, IsLastAnchor keywords qs anchor t header ∧
            Follows anchor t header now line)) ∧
    ∀ (before after : List Inquiry) (q : Inquiry), IsNoAnchor keywords q →
      (Detector.kernel keywords).memory {} (before ++ q :: after) =
        (Detector.kernel keywords).memory {} (before ++ after) := by
  refine ⟨fun qs line now wall => ⟨_, rfl, ?_⟩, fun before after q h => ?_⟩
  · by_cases hmatch : keywords.isMatch line = true
    · simp [detect, hmatch]
    · simp only [detect, hmatch, if_false, Bool.false_eq_true, false_or]
      rcases exists_isLastAnchor keywords qs with ⟨anchor, t, header, hlast⟩ | hnone
      · rw [hlast.trail_memory {}, Option.any_some, covers_iff]
        refine ⟨fun hfollows => ⟨anchor, t, header, hlast, hfollows⟩, ?_⟩
        -- there is only one trail, so every last anchor has left the same
        rintro ⟨anchor', t', header', hlast', hfollows⟩
        have hsame := (hlast.trail_memory {}).symm.trans (hlast'.trail_memory {})
        rw [← covers_iff] at hfollows ⊢
        rwa [Option.some.inj hsame]
      · rw [memory_of_isNoAnchor hnone]
        refine ⟨fun h => absurd h (by simp), ?_⟩
        rintro ⟨anchor, t, header, ⟨before, after, rfl, hanchor, -⟩, -⟩
        exact absurd hanchor (hnone anchor (by simp) t header)
  · rw [memory_append, memory_append, memory, List.foldl_cons, h.ask_snd]
    rfl

/-- Where a colon is the keyword, a line without a colon and without a timestamp is of interest five
seconds after the message `[1] a:`. -/
theorem kernel_verdict_five_seconds :
    let d := Detector.kernel (.octet (.single 58))
    let anchor : Inquiry := ⟨.verdict, [91, 49, 93, 32, 97, 58], 0, ⟨0, 0⟩⟩
    (d.ask (d.memory {} [anchor]) ⟨.verdict, [120], Span.ofSeconds 5, ⟨5, 0⟩⟩).1 =
      .verdict true := by
  intro d anchor
  obtain ⟨ofInterest, hreply, hverdict⟩ :=
    (kernel_verdict (.octet (.single 58))).1 [anchor] [120] (Span.ofSeconds 5) ⟨5, 0⟩
  have hmatch : (Regex.octet (.single 58)).isMatch anchor.line = true := by decide
  obtain ⟨t, hfront⟩ : ∃ t, Kernel.front? anchor.line = some (t, [32, 97, 58]) := ⟨_, rfl⟩
  have hheader : KernelTrail.header? [32, 97, 58] = some "a" := by decide +kernel
  have hanchor : IsAnchor (.octet (.single 58)) anchor t "a" := ⟨rfl, hmatch, _, hfront, hheader⟩
  have hfollows : Follows anchor t "a" (Span.ofSeconds 5) [120] :=
    .inl ⟨rfl, Nat.le_add_left _ _⟩
  rw [hreply, hverdict.mpr (.inr ⟨anchor, t, "a", ⟨[], [], rfl, hanchor, by simp⟩, hfollows⟩)]

end Detector

end LogWatch
