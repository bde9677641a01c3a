import LogWatch.Daemon.Setup
import LogWatch.Proofs.Number.Binary64

/-!
# What a configuration makes of the daemon

A monitor is put together in several steps, each of which may fail. What is known about its plan
afterwards is what its draft and the whole configuration said (`LogWatch.Daemon.exists_of_assign`):
whether it **keeps what has failed**, and the **spans** it works with, which are all in range
(`LogWatch.Daemon.spans_of_assign`).
-/

namespace LogWatch

theorem exists_of_bind_eq_ok {ε α β : Type} {x : Except ε α} {f : α → Except ε β} {b : β}
    (h : x.bind f = .ok b) : ∃ a, x = .ok a ∧ f a = .ok b := by
  cases x with
  | error e => cases h
  | ok a => exact ⟨a, rfl, h⟩

theorem eq_ok_of_mapError {ε ε' α : Type} {x : Except ε α} {f : ε → ε'} {a : α}
    (h : x.mapError f = .ok a) : x = .ok a := by
  cases x with
  | error e => cases h
  | ok b => rw [Except.ok.inj h]

theorem eq_ok_of_toOption {ε α : Type} {x : Except ε α} {a : α} (h : x.toOption = some a) :
    x = .ok a := by
  cases x with
  | error e => cases h
  | ok b => rw [Option.some.inj h]

/-! ### Spans in a configuration -/

namespace Span

/-- Spans are shorter than this, which is `2 ^ 64` seconds. -/
def limit : Span := ofSeconds (Nat.pow 2 64)

theorem lt_limit_of_ofFloatSeconds? {x : Float} {s : Span} (h : ofFloatSeconds? x = some s) :
    s < limit := by
  have hm := Binary64.fst_parts_lt x
  rw [ofFloatSeconds?] at h
  split at h
  · cases h
  · dsimp only at h
    generalize Binary64.parts x = parts at h hm
    obtain ⟨m, q⟩ := parts
    split at h
    · next hrange =>
      obtain rfl := Option.some.inj h
      dsimp only at hrange hm ⊢
      have hone : Nat.pow 2 0 = 1 := rfl
      change _ < Nat.pow 2 64 * 1000000000
      by_cases hq : 0 ≤ q
      · -- without a fraction there is nothing to round
        have hden : (-q).toNat = 0 := by omega
        rw [hden, hone, Nat.mul_one] at hrange
        rw [hden, hone, Binary64.roundDiv_one]
        omega
      · -- with one, the number is far below the limit
        have hnum : q.toNat = 0 := by omega
        rw [hnum, hone, Nat.mul_one]
        have hround := Binary64.roundDiv_le (m * 1000000000) (Nat.pow 2 (-q).toNat)
        have hdiv := Nat.div_le_self (m * 1000000000) (Nat.pow 2 (-q).toNat)
        have hsmall : Nat.pow 2 53 * 1000000000 + 1 ≤ Nat.pow 2 64 * 1000000000 := by decide
        omega
    · cases h

theorem lt_limit_of_parse {text : String} {s : Span} (h : parse text = .ok s) : s < limit := by
  rw [parse] at h
  split at h
  · cases h
  · next s' hread =>
    cases h
    rw [read] at hread
    split at hread
    · cases hread
    · split at hread
      · cases hread
      · split at hread
        · cases hread
        · next s' hseconds =>
          cases hread
          exact lt_limit_of_ofFloatSeconds? hseconds

end Span

namespace Config.Monitor

variable {m : Config.Monitor} {s : Span}

/-- A window is in range. -/
theorem lt_limit_of_window (h : m.window = .ok (some s)) : s < Span.limit := by
  rw [window] at h
  split at h
  · cases h
  · split at h
    · cases h
      decide
    · cases hparse : Span.parse m.rateLimitWindow with
      | error e => rw [hparse] at h; cases h
      | ok w =>
        rw [hparse] at h
        cases h
        exact Span.lt_limit_of_parse hparse

/-- A time without lines that matters is in range, and it is a time. -/
theorem pos_of_inactivity (h : m.inactivity = .ok (some s)) : 0 < s ∧ s < Span.limit := by
  rw [inactivity] at h
  split at h
  · cases h
  · split at h
    · cases h
    · next s' hparse =>
      split at h
      · cases h
      · next hne =>
        cases h
        exact ⟨Nat.pos_of_ne_zero hne, Span.lt_limit_of_parse hparse⟩

end Config.Monitor

/-! ### Monitors put together -/

namespace Monitor

/-- A plan says what its draft said. -/
theorem Draft.exists_of_complete {d : Draft} {p : Plan} (h : d.complete = .ok p) :
    ∃ name detector, p = ⟨name, detector, d.exclusion, d.rateLimit, d.inactivity, d.keepsFailed,
      d.stopsAtEnd, d.reopenDelay⟩ := by
  rw [complete] at h
  cases hsource : require "source" d.source with
  | error e => rw [hsource] at h; cases h
  | ok name =>
    cases hdetector : require "detector" d.detector with
    | error e => rw [hsource, hdetector] at h; cases h
    | ok detector =>
      rw [hsource, hdetector] at h
      cases hreceiver : d.hasReceiver with
      | false => rw [hreceiver] at h; cases h
      | true =>
        rw [hreceiver] at h
        cases h
        exact ⟨name, detector, rfl⟩

/-- The spans of a draft are those that are configured. -/
theorem Draft.exists_of_ofConfig {m : Config.Monitor} {d : Draft} (h : Draft.ofConfig m = .ok d) :
    m.inactivity = .ok d.inactivity ∧ ∃ window, m.window = .ok window ∧
      d.rateLimit = window.map fun w => (m.rateLimitBurst, w) := by
  obtain ⟨format, -, h⟩ := exists_of_bind_eq_ok h
  obtain ⟨detector, -, h⟩ := exists_of_bind_eq_ok h
  obtain ⟨exclusion, -, h⟩ := exists_of_bind_eq_ok h
  obtain ⟨window, hwindow, h⟩ := exists_of_bind_eq_ok h
  obtain ⟨inactivity, hinactivity, h⟩ := exists_of_bind_eq_ok h
  cases h
  exact ⟨eq_ok_of_mapError hinactivity, window, eq_ok_of_mapError hwindow, rfl⟩

end Monitor

namespace Daemon

section Setup

variable {c : Config} {m : Config.Monitor} {a : Assignment} {assignments : List Assignment}

/-- The plan of a monitor is its draft, with what the whole configuration adds. -/
theorem exists_of_assign (h : assign c m = .ok a) :
    ∃ draft, Monitor.Draft.ofConfig m = .ok draft ∧ a.plan.keepsFailed = c.delivery.spool ∧
      a.plan.inactivity = draft.inactivity ∧ a.plan.rateLimit = draft.rateLimit := by
  obtain ⟨source, -, h⟩ := exists_of_bind_eq_ok h
  obtain ⟨draft, hdraft, h⟩ := exists_of_bind_eq_ok h
  obtain ⟨plan, hplan, h⟩ := exists_of_bind_eq_ok h
  obtain ⟨name, detector, rfl⟩ := Monitor.Draft.exists_of_complete (eq_ok_of_mapError hplan)
  cases h
  exact ⟨draft, eq_ok_of_mapError hdraft, rfl, rfl, rfl⟩

theorem exists_of_assignAll (h : assignAll c = .ok assignments) :
    ∀ a ∈ assignments, ∃ m ∈ c.monitors, assign c m = .ok a := by
  rw [assignAll] at h
  generalize c.monitors = monitors at h ⊢
  induction monitors generalizing assignments with
  | nil =>
    cases h
    simp
  | cons m monitors ih =>
    rw [List.mapM_cons] at h
    obtain ⟨a, ha, h⟩ := exists_of_bind_eq_ok h
    obtain ⟨rest, hrest, h⟩ := exists_of_bind_eq_ok h
    cases h
    rw [List.forall_mem_cons]
    refine ⟨⟨m, List.mem_cons_self, ha⟩, fun b hb => ?_⟩
    obtain ⟨m', hm', hassign⟩ := ih hrest b hb
    exact ⟨m', List.mem_cons_of_mem m hm', hassign⟩

/-- **With a spool, all monitors keep what has failed**, and without one, none does. -/
theorem keepsFailed_of_assignAll (h : assignAll c = .ok assignments) :
    ∀ p ∈ assignments.map Assignment.plan, p.keepsFailed = c.delivery.spool := by
  intro p hp
  obtain ⟨a, ha, rfl⟩ := List.mem_map.1 hp
  obtain ⟨m, -, hassign⟩ := exists_of_assignAll h a ha
  obtain ⟨draft, -, hkeeps, -⟩ := exists_of_assign hassign
  exact hkeeps

/-- **All spans in a plan are in range**, and a silence that matters is not over at once. -/
theorem spans_of_assign (h : assign c m = .ok a) :
    (∀ s, a.plan.inactivity = some s → 0 < s ∧ s < Span.limit) ∧
      ∀ n w, a.plan.rateLimit = some (n, w) → w < Span.limit := by
  obtain ⟨draft, hdraft, -, hinactivity, hlimit⟩ := exists_of_assign h
  obtain ⟨hsilence, window, hwindow, hdraftLimit⟩ := Monitor.Draft.exists_of_ofConfig hdraft
  rw [hinactivity, hlimit, hdraftLimit]
  refine ⟨fun s hs => ?_, fun n w hw => ?_⟩
  · rw [hs] at hsilence
    exact Config.Monitor.pos_of_inactivity hsilence
  · obtain ⟨w', rfl, heq⟩ := Option.map_eq_some_iff.1 hw
    cases heq
    exact Config.Monitor.lt_limit_of_window hwindow

end Setup

end Daemon

end LogWatch
