import LogWatch.Proofs.Monitor.Conservation
import LogWatch.Proofs.Monitor.Flushing
import LogWatch.Proofs.Windows

/-!
# The limit sees batches and nothing else

The courier takes batches and alerts from the same outbox, sends reports of both, and learns what
has become of them. A limit on reports is asked about batches alone, and of a batch it is told no
more than the moment at which the courier takes it. So what a monitor's limit answers in the course
of a run is what a limiter by itself answers to these moments
(`LogWatch.Monitor.passage_of_run`), however many alerts come in between and whatever becomes of the
reports: two runs that agree in the moments of their batches let the same of them pass.

What is known of the windows of a limiter (`LogWatch.RateLimiter.Limits`) thus holds of the batches
of a monitor, the clock of which does not run backwards.
-/

namespace LogWatch

namespace Monitor

/-! ### What the courier begins -/

/-- A delivery that the courier takes from the outbox. -/
structure Errand where
  /-- When it takes it. -/
  moment : Moment
  /-- The delivery. -/
  delivery : Delivery
  /-- It is not counted as one beyond the limit. -/
  passes : Bool

/-- The delivery that the courier takes at an event. -/
def Entry.errand? (en : Entry) : Option Errand :=
  match en.event with
  | .dispatched _ _ => en.before.outbox.take.1.map fun d =>
      ⟨en.before.now, d, decide (en.after.counters.rateLimited = en.before.counters.rateLimited)⟩
  | _ => none

/-- What the courier has taken from the outbox. -/
def errands (h : List Entry) : List Errand := h.filterMap Entry.errand?

/-- The attempt of a batch to pass the limit. -/
def Errand.attempt? (x : Errand) : Option (Moment × Bool) :=
  match x.delivery with
  | .batch _ => some (x.moment, x.passes)
  | .alert _ => none

/-- The attempts of the batches to pass the limit. -/
def attempts (h : List Entry) : List (Moment × Bool) := (errands h).filterMap Errand.attempt?

/-- When the batches attempted to pass the limit. -/
def moments (h : List Entry) : List Moment := (attempts h).map Prod.fst

/-- What a limit answers to attempts, if there is one. -/
def answers (limiter : Option RateLimiter) (ts : List Moment) : List (Moment × Bool) :=
  match limiter with
  | none => ts.map (·, true)
  | some l => l.record ts

/-- **What passes in a history that began with a limiter.** -/
structure Passage (p : Plan) (limiter : Option RateLimiter) (h : List Entry) : Prop where
  /-- Of the batches those pass that the limiter lets pass at their moments. -/
  attempts : attempts h = answers limiter (moments h)
  /-- These are in the order of time. -/
  sorted : (moments h).Pairwise (· ≤ ·)
  /-- Alerts pass. -/
  alerts : ∀ x ∈ errands h, ∀ r, x.delivery = .alert r → x.passes = true
  /-- **The receiver gets a report of all that passes**, in that order, and no other. -/
  sends : List.Forall₂ (IsReportOf p) (((errands h).filter Errand.passes).map Errand.delivery)
    (reports h)

section Passages

variable {p : Plan} {s : State} {e : Event} {x : State × List Delivery} {h : List Entry}
  {en : Entry} {limiter after : Option RateLimiter} {ts : List Moment} {now : Moment}
  {passes : Bool}

theorem errands_snoc : errands (h ++ [en]) = errands h ++ en.errand?.toList := by
  simp [errands, List.filterMap_eq_flatMap_toList]

theorem attempts_snoc :
    attempts (h ++ [en]) = attempts h ++ (en.errand?.bind Errand.attempt?).toList := by
  rw [attempts, errands_snoc, List.filterMap_append, attempts]
  cases en.errand? with
  | none => rfl
  | some x => cases hx : x.attempt? <;> simp [hx]

/-- The limit is asked about one more batch. -/
theorem answers_snoc (h : passLimit (limiter.map fun l => l.after ts) now = (passes, after)) :
    answers limiter (ts ++ [now]) = answers limiter ts ++ [(now, passes)] ∧
      after = limiter.map fun l => l.after (ts ++ [now]) := by
  cases limiter with
  | none =>
    obtain ⟨rfl, rfl⟩ := Prod.mk.inj h
    exact ⟨List.map_append, rfl⟩
  | some l =>
    obtain ⟨rfl, rfl⟩ := Prod.mk.inj h
    refine ⟨RateLimiter.record_append, ?_⟩
    rw [Option.map_some, RateLimiter.after_append]
    rfl

/-- **What passes at an event**: the limiter after it, what the courier takes, and the report that
it sends. -/
inductive Passes (p : Plan) (s : State) : Option RateLimiter → Option Errand → Option Report → Prop
  /-- The courier takes nothing. -/
  | nothing : Passes p s s.limiter none none
  /-- An alert. -/
  | alert (r : Report) : Passes p s s.limiter (some ⟨s.now, .alert r, true⟩) (some r)
  /-- A batch that the limit lets pass. -/
  | batch (b : Batch) (r : Report) (limiter : Option RateLimiter) :
      passLimit s.limiter s.now = (true, limiter) → IsReportOf p (.batch b) r →
      Passes p s limiter (some ⟨s.now, .batch b, true⟩) (some r)
  /-- A batch that it does not. -/
  | refused (b : Batch) (limiter : Option RateLimiter) :
      passLimit s.limiter s.now = (false, limiter) →
      Passes p s limiter (some ⟨s.now, .batch b, false⟩) none

/-- The limit is left alone by all events but one, and nothing is sent at them. -/
theorem limiter_of_turn (ht : Turn p s e x)
    (he : ∀ origin snapshot, e ≠ .dispatched origin snapshot) :
    x.1.limiter = s.limiter ∧ (s.courier = .idle → x.1.courier = .idle) := by
  cases ht with
  | line lines rest wall line hphase htaken =>
    refine ⟨?_, sameCourier_takeLineOf.courier.trans⟩
    simp only [takeLineOf, takeLine, gather]
    split <;> try split
    all_goals rfl
  | ended hreading htaken hends =>
    refine ⟨?_, sameCourier_endStream.courier.trans⟩
    simp only [endStream, flush]
    split <;> rfl
  | looked patrol origin hpatrol hover heq =>
    refine ⟨?_, sameCourier_lookAfter.courier.trans⟩
    simp only [lookAfter]
    split <;> rfl
  | dispatched d outbox origin snapshot hcourier htake heq => exact absurd heq (he origin snapshot)
  | answered r ok hcourier heq =>
    exact ⟨by cases ok <;> rfl, fun hidle => by rw [hcourier] at hidle; cases hidle⟩
  | stored r ok hcourier heq => exact ⟨rfl, fun _ => rfl⟩
  | interrupted | fired | moved | waited => exact ⟨rfl, id⟩

/-- The report of a batch that passes is sent. -/
theorem begin_of_passes {b : Batch} {origin : Origin} {snapshot : Option Json.Members}
    (h : passLimit s.limiter s.now = (true, limiter)) :
    begin p s origin snapshot (.batch b) =
      { s with limiter, courier := .sending (Incident.report origin p.name b snapshot) } := by
  rw [begin, h]
  rfl

/-- A batch that does not pass is counted, and the courier remains as it is. -/
theorem begin_of_refused {b : Batch} {origin : Origin} {snapshot : Option Json.Members}
    (h : passLimit s.limiter s.now = (false, limiter)) :
    begin p s origin snapshot (.batch b) =
      { s with
        limiter
        counters := { s.counters with rateLimited := s.counters.rateLimited + 1 } } := by
  rw [begin, h]
  rfl

/-- What the courier begins passes as it should. -/
theorem passes_of_dispatched {d : Delivery} {outbox : Outbox} {origin : Origin}
    {snapshot : Option Json.Members} (hcourier : s.courier = .idle)
    (htake : s.outbox.take = (some d, outbox)) :
    let t := begin p { s with outbox } origin snapshot d
    let en : Entry := ⟨s, .dispatched origin snapshot, [], t⟩
    Passes p s t.limiter en.errand? en.sent? := by
  intro t en
  have herrand : en.errand? =
      some ⟨s.now, d, decide (t.counters.rateLimited = s.counters.rateLimited)⟩ := by
    rw [Entry.errand?, htake]
    rfl
  rw [herrand, Entry.sent?, hcourier]
  cases d with
  | alert r =>
    have hpasses : decide (t.counters.rateLimited = s.counters.rateLimited) = true :=
      decide_eq_true rfl
    rw [hpasses]
    exact .alert r
  | batch b =>
    cases hpass : passLimit s.limiter s.now with
    | mk passes limiter =>
      cases passes with
      | true =>
        have ht : t = _ := begin_of_passes (s := { s with outbox }) hpass
        simp only [en, ht, decide_true]
        exact .batch b _ limiter hpass ⟨origin, snapshot, rfl⟩
      | false =>
        have ht : t = _ := begin_of_refused (s := { s with outbox }) hpass
        have hcounted : decide (s.counters.rateLimited + 1 = s.counters.rateLimited) = false :=
          decide_eq_false (Nat.succ_ne_self _)
        simp only [en, ht, hcounted, hcourier]
        exact .refused b limiter hpass

/-- At any other event nothing passes. -/
theorem passes_of_ne_dispatched (hact : act p s e = some x)
    (he : ∀ origin snapshot, e ≠ .dispatched origin snapshot) :
    let en : Entry := ⟨s, e, x.2, x.1.submit x.2⟩
    Passes p s x.1.limiter en.errand? en.sent? := by
  intro en
  obtain ⟨hlimiter, hidle⟩ := limiter_of_turn (turn_of_act hact) he
  have herrand : en.errand? = none := by
    rw [Entry.errand?.eq_def]
    split
    · next origin snapshot heq => exact absurd heq (he origin snapshot)
    · rfl
  have hsent : en.sent? = none := by
    rw [Entry.sent?.eq_def]
    split
    · next r hbefore hafter =>
      rw [show (x.1.submit x.2).courier = .idle from hidle hbefore] at hafter
      cases hafter
    · rfl
  rw [herrand, hsent, hlimiter]
  exact .nothing

/-- **Every event lets pass what it should.** -/
theorem passes_of_act (hact : act p s e = some x) :
    let en : Entry := ⟨s, e, x.2, x.1.submit x.2⟩
    Passes p s x.1.limiter en.errand? en.sent? := by
  by_cases he : ∃ origin snapshot, e = .dispatched origin snapshot
  · obtain ⟨origin, snapshot, rfl⟩ := he
    rw [act] at hact
    split at hact
    · next d outbox hcourier htake =>
      obtain rfl := Option.some.inj hact
      exact passes_of_dispatched hcourier htake
    · cases hact
  · exact passes_of_ne_dispatched hact fun origin snapshot heq => he ⟨origin, snapshot, heq⟩

/-- The clock does not run backwards. -/
theorem Beat.now_le {t : State} (hb : Beat s e t) : s.now ≤ t.now := by
  cases hb with
  | elapsed span _ hu =>
    rw [hu.now]
    exact Nat.le_add_right ..
  | undisturbed hu => exact Nat.le_of_eq hu.now.symm
  | pushed _ _ _ _ hu => exact Nat.le_of_eq hu.now.symm
  | flushed hu => exact Nat.le_of_eq hu.now.symm
  | fired _ hu => exact Nat.le_of_eq hu.now.symm
  | looked _ hu => exact Nat.le_of_eq hu.now.symm
  | woken _ _ hu => exact Nat.le_of_eq hu.now.symm
  | ceased _ hu => exact Nat.le_of_eq hu.now.symm

/-- The limit answers a batch by its moment; of anything else it learns nothing. -/
theorem Passes.asked {after : Option RateLimiter} {errand : Option Errand} {sent : Option Report}
    (h : Passes p s after errand sent) :
    errand.bind Errand.attempt? = none ∧ after = s.limiter ∨
      ∃ passes, errand.bind Errand.attempt? = some (s.now, passes) ∧
        passLimit s.limiter s.now = (passes, after) := by
  cases h with
  | nothing => exact .inl ⟨rfl, rfl⟩
  | alert r => exact .inl ⟨rfl, rfl⟩
  | batch b r limiter hpass hr => exact .inr ⟨true, rfl, hpass⟩
  | refused b limiter hpass => exact .inr ⟨false, rfl, hpass⟩

/-- What passes is sent. -/
theorem Passes.sends {after : Option RateLimiter} {errand : Option Errand} {sent : Option Report}
    (h : Passes p s after errand sent) :
    List.Forall₂ (IsReportOf p) ((errand.toList.filter Errand.passes).map Errand.delivery)
      sent.toList := by
  cases h with
  | nothing => exact .nil
  | alert r => exact .cons rfl .nil
  | batch b r limiter hpass hr => exact .cons hr .nil
  | refused b limiter hpass => exact .nil

/-- Alerts pass. -/
theorem Passes.alerts {after : Option RateLimiter} {x : Errand} {sent : Option Report}
    (h : Passes p s after (some x) sent) {r : Report} (hx : x.delivery = .alert r) :
    x.passes = true := by
  cases h with
  | alert r => rfl
  | batch b r limiter hpass hr => rfl
  | refused b limiter hpass => cases hx

/-! ### Along a run -/

/-- What has passed, and what the limit remembers of it. -/
structure Passed (p : Plan) (limiter : Option RateLimiter) (h : List Entry) (s : State) : Prop
    extends Passage p limiter h where
  /-- The limit has been asked about the batches. -/
  limiter : s.limiter = limiter.map fun l => l.after (moments h)
  /-- All of them came before now. -/
  before : ∀ t ∈ moments h, t ≤ s.now

theorem passed_nil : Passed p s.limiter [] s where
  attempts := by cases hlimiter : s.limiter <;> rfl
  sorted := .nil
  alerts _ hx := by simp [errands] at hx
  sends := .nil
  limiter := by cases hlimiter : s.limiter <;> rfl
  before _ ht := by simp [moments, Monitor.attempts, errands] at ht

/-- What passes, passes at every event. -/
theorem Passed.snoc (hp : Passed p limiter h s) (hact : act p s e = some x) :
    Passed p limiter (h ++ [⟨s, e, x.2, x.1.submit x.2⟩]) (x.1.submit x.2) := by
  have hpasses := passes_of_act hact
  have hnow : s.now ≤ (x.1.submit x.2).now := (beat_of_act hact).now_le
  change Passes p s (x.1.submit x.2).limiter _ _ at hpasses
  generalize x.1.submit x.2 = t at hpasses hnow ⊢
  generalize (⟨s, e, x.2, t⟩ : Entry) = en at hpasses ⊢
  have halerts : ∀ x ∈ errands (h ++ [en]), ∀ r, x.delivery = .alert r → x.passes = true := by
    intro x hx r hr
    rw [errands_snoc, List.mem_append, Option.mem_toList] at hx
    obtain hx | hx := hx
    · exact hp.alerts x hx r hr
    · rw [hx] at hpasses
      exact hpasses.alerts hr
  have hsends : List.Forall₂ (IsReportOf p)
      (((errands (h ++ [en])).filter Errand.passes).map Errand.delivery) (reports (h ++ [en])) := by
    rw [errands_snoc, reports_snoc, List.filter_append, List.map_append]
    exact List.rel_append hp.sends hpasses.sends
  obtain ⟨hattempt, hlimiter⟩ | ⟨passes, hattempt, hpass⟩ := hpasses.asked
  · -- no batch, and all is as it was
    have hattempts : attempts (h ++ [en]) = attempts h := by
      rw [attempts_snoc, hattempt, Option.toList_none, List.append_nil]
    have hmoments : moments (h ++ [en]) = moments h := by rw [moments, hattempts, moments]
    exact {
      attempts := by rw [hattempts, hmoments, hp.attempts]
      sorted := hmoments ▸ hp.sorted
      alerts := halerts
      sends := hsends
      limiter := by rw [hmoments, hlimiter, hp.limiter]
      before := fun t ht => (hp.before t (hmoments ▸ ht)).trans hnow }
  · have hattempts : attempts (h ++ [en]) = attempts h ++ [(s.now, passes)] := by
      rw [attempts_snoc, hattempt, Option.toList_some]
    have hmoments : moments (h ++ [en]) = moments h ++ [s.now] := by
      rw [moments, hattempts, List.map_append]
      rfl
    rw [hp.limiter] at hpass
    obtain ⟨hanswers, hafter⟩ := answers_snoc hpass
    exact {
      attempts := by rw [hattempts, hmoments, hanswers, hp.attempts]
      sorted := by
        rw [hmoments, List.pairwise_append]
        exact ⟨hp.sorted, List.pairwise_singleton .., fun t ht u hu =>
          List.mem_singleton.mp hu ▸ hp.before t ht⟩
      alerts := halerts
      sends := hsends
      limiter := by rw [hmoments, hafter]
      before := fun t ht => by
        rw [hmoments, List.mem_append, List.mem_singleton] at ht
        obtain ht | rfl := ht
        · exact (hp.before t ht).trans hnow
        · exact hnow }

/-- **What passes in a run**, whatever state it began in. -/
theorem passage_of_run {t : State} {es : List Event} (hrun : run p s es = some t) :
    Passage p s.limiter (history p s es) :=
  (run_induction (Passed p s.limiter) (fun _ _ _ _ _ hp hact => hp.snoc hact) passed_nil
    hrun).toPassage

end Passages

/-! ### The limit of a monitor -/

/-- **A limit bounds bursts, refuses nothing without cause, and does not see alerts.** -/
theorem run_limits_reports {limit : Nat} {window : Span} (hlimit : limit ≠ 0) :
    (∀ ts : List Moment, ts.Pairwise (· ≤ ·) → RateLimiter.Limits limit window ts) ∧
      (∀ (p : Plan) (s t : State) (es : List Event), run p s es = some t →
        Passage p s.limiter (history p s es)) ∧
      -- runs of two monitors of this limit, of which one may have any alerts and any answers to its
      -- reports that the other does not have
      ∀ (p p' : Plan) (s t s' t' : State) (es es' : List Event),
        s.limiter = some (.new limit window) → s'.limiter = some (.new limit window) →
        run p s es = some t → run p' s' es' = some t' →
        moments (history p s es) = moments (history p' s' es') →
        attempts (history p s es) = attempts (history p' s' es') := by
  refine ⟨fun ts => RateLimiter.limits_of_pairwise hlimit, fun p s t es => passage_of_run,
    fun p p' s t s' t' es es' hs hs' hrun hrun' hmoments => ?_⟩
  rw [(passage_of_run hrun).attempts, (passage_of_run hrun').attempts, hs, hs', hmoments]

/-- Two batches under a limit of one report a minute: the second is refused, whether an alert comes
between them or not, and whether reports arrive or fail. -/
theorem run_limits_reports_two_batches :
    let p : Plan := ⟨"m", .custom ⟨"a", .containing [97]⟩, none, none, none, true, true, 0⟩
    let b : Delivery := .batch (.ofLine [97] none default)
    let alert : Delivery := .alert (.new ⟨"", 0⟩ "" .info)
    let s (ds : List Delivery) : State :=
      { State.starting p 0 with limiter := some (.new 1 60000000000), outbox := ⟨256, ds, 0, true⟩ }
    let taken : Event := .dispatched ⟨"", 0⟩ none
    let failing : List Event := [taken, .answered false, .stored true, taken]
    let arriving : List Event := [taken, .answered true, taken, .answered true, taken]
    RateLimiter.Limits 1 60000000000 [0, 0] ∧
      attempts (history p (s [b, b]) failing) = [(0, true), (0, false)] ∧
      attempts (history p (s [b, alert, b]) arriving) = [(0, true), (0, false)] := by
  intro p b alert s taken failing arriving
  obtain ⟨hlimits, -, hsame⟩ := @run_limits_reports 1 60000000000 Nat.one_ne_zero
  have hfailing : attempts (history p (s [b, b]) failing) = [(0, true), (0, false)] := rfl
  have hmoments : moments (history p (s [b, b]) failing) = [0, 0] := rfl
  have hmoments' : moments (history p (s [b, alert, b]) arriving) = [0, 0] := rfl
  obtain ⟨t, hrun⟩ : ∃ t, run p (s [b, b]) failing = some t := ⟨_, rfl⟩
  obtain ⟨t', hrun'⟩ : ∃ t', run p (s [b, alert, b]) arriving = some t' := ⟨_, rfl⟩
  refine ⟨hlimits [0, 0] (by decide), hfailing, ?_⟩
  rw [← hfailing]
  exact (hsame p p _ t _ t' _ _ rfl rfl hrun hrun' (hmoments.trans hmoments'.symm)).symm

end Monitor

end LogWatch
