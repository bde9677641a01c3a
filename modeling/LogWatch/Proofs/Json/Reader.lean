import LogWatch.Json.Reader

/-!
# A carriage return behind a JSON text

A carriage return at the end makes no difference to how a JSON text reads: between tokens it is
skipped, a number that is still open is closed by it, and every other open token refuses it, as it
would have refused the end of the text.
-/

namespace LogWatch

namespace Json

/-! ### Runs that may fail -/

/-- **What every step keeps holds at the end of a run**; `Q` is what is known of its items. -/
theorem foldlM_induction {σ α : Type} {step : σ → α → Option σ} {P : σ → Prop} {Q : α → Prop}
    (hstep : ∀ s a s', P s → Q a → step s a = some s' → P s') {l : List α} (hl : ∀ a ∈ l, Q a)
    {s s' : σ} (hs : P s) (h : l.foldlM step s = some s') : P s' := by
  induction l generalizing s with
  | nil =>
    obtain rfl := Option.some.inj h
    exact hs
  | cons a l ih =>
    obtain ⟨ha, hl⟩ := List.forall_mem_cons.mp hl
    rw [List.foldlM_cons] at h
    obtain ⟨s₁, hfirst, hrest⟩ := Option.bind_eq_some_iff.mp h
    exact ih hl (hstep s a s₁ hs ha hfirst) hrest

/-- What holds in both branches holds. -/
theorem forall_mem_ite {σ : Type} {P : σ → Prop} {c : Prop} [Decidable c] {x y : Option σ}
    (hx : ∀ s ∈ x, P s) (hy : ∀ s ∈ y, P s) : ∀ s ∈ (if c then x else y), P s := by
  split
  · exact hx
  · exact hy

namespace Token

/-- The octet is no small letter. -/
def IsNoLetter (c : UInt8) : Prop := c.toNat < 97 ∨ 122 < c.toNat

instance (c : UInt8) : Decidable (IsNoLetter c) :=
  inferInstanceAs (Decidable (c.toNat < 97 ∨ 122 < c.toNat))

/-- A word that is open has not come to its end, and the octet is not in what is left of it. -/
def State.Lacks (c : UInt8) : State → Prop
  | .word left _ => left ≠ [] ∧ c ∉ left
  | _ => True

section Steps

variable {m m' : Machine} {b c : UInt8}

/-- Words are written in small letters. -/
theorem not_mem_of_isNoLetter {left : Bytes} (hc : IsNoLetter c)
    (h : ∀ b ∈ left, ¬IsNoLetter b) : c ∉ left :=
  fun hmem => h c hmem hc

theorem lacks_start (hc : IsNoLetter c) (h : m.start b = some m') : m'.state.Lacks c := by
  have hopen {x : Machine} (hx : x.state.Lacks c) : ∀ m ∈ some x, m.state.Lacks c := by
    rintro m ⟨⟩
    exact hx
  -- `split` at `h` would evaluate the words, so the branches are taken one by one
  refine (?_ : ∀ m' ∈ m.start b, m'.state.Lacks c) m' h
  rw [Machine.start]
  repeat' apply forall_mem_ite
  all_goals first
    | exact hopen trivial
    | exact hopen ⟨by decide +kernel, not_mem_of_isNoLetter hc (by decide +kernel)⟩
    | simp

theorem lacks_step (hc : IsNoLetter c) (hm : m.state.Lacks c) (h : m.step b = some m') :
    m'.state.Lacks c := by
  rw [Machine.step] at h
  split at h
  · exact lacks_start hc h
  · split at h
    · simp at h
    · obtain rfl := Option.some.inj h
      exact trivial
    · obtain rfl := Option.some.inj h
      exact trivial
  · split at h
    · obtain rfl := Option.some.inj h
      exact trivial
    · obtain ⟨m'', -, hstart⟩ := Option.bind_eq_some_iff.mp h
      exact lacks_start hc hstart
  · exact lacks_start hc h
  · split at h
    · obtain rfl := Option.some.inj h
      exact trivial
    · simp at h
  · next _ left t hleft hstate =>
    split at h
    · obtain rfl := Option.some.inj h
      rw [hstate] at hm
      exact ⟨fun hnil => hleft hnil, fun hmem => hm.2 (List.mem_cons_of_mem _ hmem)⟩
    · simp at h

/-- **Reading keeps words of small letters only.** -/
theorem lacks_foldlM {text : Bytes} (hc : IsNoLetter c) (hm : m.state.Lacks c)
    (h : text.foldlM Machine.step m = some m') : m'.state.Lacks c :=
  foldlM_induction (Q := fun _ => True) (fun _ _ _ hm _ hstep => lacks_step hc hm hstep)
    (fun _ _ => trivial) hm h

/-- A carriage return at the end of a text is skipped. -/
theorem finish_of_return {ts : List Token} (hm : m.state.Lacks 13)
    (h : (m.step 13).bind Machine.finish = some ts) : m.finish = some ts := by
  rw [Machine.step] at h
  rw [Machine.finish]
  split at h
  · next hstate =>
    rw [hstate]
    exact h
  · next str hstate =>
    -- a string refuses it, in an escape or not
    have hrefused : str.step 13 = none := by
      rw [OpenString.step]
      cases str.escape <;> rfl
    simp [hrefused] at h
  · next text hstate =>
    -- a number is closed by it, as by the end of the text
    rw [hstate]
    rw [if_neg (by decide)] at h
    cases hclose : m.closeNumber text with
    | none => simp [hclose] at h
    | some m' =>
      obtain ⟨spelling, -, rfl⟩ := Option.map_eq_some_iff.mp hclose
      rw [hclose] at h
      simp only [hclose]
      exact h
  · next t hstate =>
    -- no word that is open has come to its end, and none has a carriage return
    rw [hstate] at hm
    exact absurd rfl hm.1
  · next c t hstate =>
    rw [hstate] at hm
    split at h
    · next heq => exact absurd (eq_of_beq heq ▸ List.mem_cons_self) hm.2
    · simp at h
  · next c left t _ hstate =>
    rw [hstate] at hm
    split at h
    · next heq => exact absurd (eq_of_beq heq ▸ List.mem_cons_self) hm.2
    · simp at h

end Steps

theorem ofBytes?_of_return {text : Bytes} {ts : List Token}
    (h : ofBytes? (text ++ [13]) = some ts) : ofBytes? text = some ts := by
  rw [ofBytes?, List.foldlM_append] at h
  obtain ⟨m', hsteps, hfinish⟩ := Option.bind_eq_some_iff.mp h
  obtain ⟨m, hm, hreturn⟩ := Option.bind_eq_some_iff.mp hsteps
  have hlacks : m.state.Lacks 13 :=
    lacks_foldlM (m := ⟨.idle, []⟩) (by decide) trivial hm
  rw [ofBytes?, hm]
  refine finish_of_return hlacks ?_
  rw [List.foldlM_cons] at hreturn
  obtain ⟨m₁, hstep, ⟨⟩⟩ := Option.bind_eq_some_iff.mp hreturn
  rw [hstep]
  exact hfinish

end Token

/-- **A carriage return behind a JSON text makes no difference.** -/
theorem Node.ofBytes?_of_return {text : Bytes} {n : Node}
    (h : Node.ofBytes? (text ++ [13]) = some n) : Node.ofBytes? text = some n := by
  obtain ⟨ts, htokens, hnode⟩ := Option.bind_eq_some_iff.mp h
  rw [Node.ofBytes?, Token.ofBytes?_of_return htokens]
  exact hnode

end Json

end LogWatch
