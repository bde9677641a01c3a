import Mathlib.Data.Option.Basic
import LogWatch.Host.Launch

/-!
# A host runs the daemon

The world moves the daemon by its **events** and by nothing else: whatever a host does, the daemon
is afterwards in a state to which some sequence of events leads. What holds along every run of the
daemon therefore holds of the program (`LogWatch.Host.leads_runDaemon`).
-/

namespace LogWatch

namespace Daemon

/-- Events lead from one state to another. -/
def Leads (s t : State) : Prop := ∃ es, run s es = some t

section Leads

variable {s t u : State} {e : Event}

theorem Leads.refl (s : State) : Leads s s := ⟨[], rfl⟩

theorem run_append (es es' : List Event) :
    run s (es ++ es') = (run s es).bind fun t => run t es' := by
  induction es generalizing s with
  | nil => rfl
  | cons e es ih =>
    rw [List.cons_append, run, run]
    cases step s e with
    | none => rfl
    | some t => exact ih

theorem Leads.trans (h : Leads s t) (h' : Leads t u) : Leads s u := by
  obtain ⟨es, hes⟩ := h
  obtain ⟨es', hes'⟩ := h'
  exact ⟨es ++ es', by rw [run_append, hes]; exact hes'⟩

theorem leads_of_step (h : step s e = some t) : Leads s t :=
  ⟨[e], by rw [run, h]; rfl⟩

end Leads

end Daemon

namespace Host

open Daemon (Leads leads_of_step)

section Turns

variable {h h' : Host} {place : Nat}

theorem leads_monitorTurn (ht : h.monitorTurn place = some h') : Leads h.daemon h'.daemon := by
  obtain ⟨post, -, ht⟩ := Option.bind_eq_some_iff.1 ht
  obtain ⟨p, -, ht⟩ := Option.bind_eq_some_iff.1 ht
  obtain ⟨e, -, ht⟩ := Option.bind_eq_some_iff.1 ht
  obtain ⟨daemon, hstep, ht⟩ := Option.bind_eq_some_iff.1 ht
  obtain ⟨after, -, ht⟩ := Option.bind_eq_some_iff.1 ht
  obtain rfl := Option.some.inj ht
  exact leads_of_step hstep

theorem daemon_feedTurn (ht : h.feedTurn place = some h') : h'.daemon = h.daemon := by
  obtain ⟨p, -, ht⟩ := Option.bind_eq_some_iff.1 ht
  obtain ⟨⟨octets, feed⟩, -, ht⟩ := Option.bind_eq_some_iff.1 ht
  obtain rfl := Option.some.inj ht
  rfl

theorem daemon_askForPass (h : Host) : h.askForPass.daemon = h.daemon := by
  rw [askForPass]
  split <;> rfl

theorem leads_passTurn (ht : h.passTurn = some h') : Leads h.daemon h'.daemon := by
  rw [passTurn] at ht
  split at ht
  · obtain ⟨ok, -, ht⟩ := Option.bind_eq_some_iff.1 ht
    obtain ⟨daemon, hstep, ht⟩ := Option.bind_eq_some_iff.1 ht
    obtain rfl := Option.some.inj ht
    exact leads_of_step hstep
  · obtain ⟨daemon, hstep, ht⟩ := Option.bind_eq_some_iff.1 ht
    obtain rfl := Option.some.inj ht
    rw [daemon_askForPass]
    exact leads_of_step hstep

theorem leads_resenderTurn (ht : h.resenderTurn = some h') : Leads h.daemon h'.daemon := by
  obtain ⟨daemon, hmoved, rfl⟩ := Option.map_eq_some_iff.1 ht
  obtain hstep | ⟨-, hstep⟩ := (Option.orElse_eq_some _ _ _).1 hmoved
  · exact leads_of_step hstep
  · exact leads_of_step hstep

/-- **At a moment** the daemon moves by an event, or not at all. -/
theorem leads_turn (ht : h.turn? = some h') : Leads h.daemon h'.daemon := by
  have hplaces {f : Nat → Option Host} (hf : ∀ place, f place = some h' → Leads h.daemon h'.daemon)
      (hfind : (List.range h.places.length).findSome? f = some h') :
      Leads h.daemon h'.daemon := by
    obtain ⟨place, -, hturn⟩ := List.exists_of_findSome?_eq_some hfind
    exact hf place hturn
  obtain ht | ⟨-, ht⟩ := (Option.orElse_eq_some _ _ _).1 ht
  · exact hplaces (fun _ => leads_monitorTurn) ht
  · obtain ht | ⟨-, ht⟩ := (Option.orElse_eq_some _ _ _).1 ht
    · exact leads_passTurn ht
    · obtain ht | ⟨-, ht⟩ := (Option.orElse_eq_some _ _ _).1 ht
      · exact leads_resenderTurn ht
      · refine hplaces (fun _ hturn => ?_) ht
        rw [daemon_feedTurn hturn]
        exact .refl _

theorem leads_setClock (h : Host) (m : Moment) : Leads h.daemon (h.setClock m).daemon := by
  rw [setClock]
  split
  · next daemon hstep => exact leads_of_step hstep
  · exact .refl _

theorem leads_shutDown (h : Host) : Leads h.daemon h.shutDown.daemon := by
  rw [shutDown]
  split
  · next daemon hstep => exact leads_of_step hstep
  · exact .refl _

end Turns

theorem leads_runUntil (goal : Host → Bool) (limit : Moment) (fuel : Nat) (h : Host) :
    Leads h.daemon (runUntil goal limit fuel h).daemon := by
  induction fuel generalizing h with
  | zero => exact .refl _
  | succ fuel ih =>
    rw [runUntil]
    split
    · exact .refl _
    · split
      · next h' hturn => exact (leads_turn hturn).trans (ih h')
      · split
        · next m hm =>
          split
          · exact (leads_setClock h m).trans (ih _)
          · exact leads_setClock h _
        · exact leads_setClock h _

theorem leads_finish (h : Host) (limit : Moment) : Leads h.daemon (h.finish limit).daemon :=
  leads_runUntil _ limit _ h

/-- **The program** moves the daemon by its events. -/
theorem leads_runDaemon (h : Host) (shutDownAfter : Option Span) :
    Leads h.daemon (h.runDaemon shutDownAfter).daemon := by
  cases shutDownAfter with
  | none => exact leads_finish h _
  | some span =>
    rw [runDaemon]
    split
    · exact leads_finish h _
    · exact (leads_finish h (h.now + span)).trans
        ((leads_shutDown _).trans (leads_finish _ _))

end Host

end LogWatch
