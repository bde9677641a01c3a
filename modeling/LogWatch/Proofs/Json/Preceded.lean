import LogWatch.Proofs.Json.Reader
import LogWatch.Proofs.Json.Rereading

/-!
# Something in front of a JSON object

A text that ends in a written object is one of JSON only if there is nothing but blanks in front of
the object. This is not so of every text with a brace at its front: a quotation mark before it makes
a string of it. What decides is how the written object begins, with a brace, the quotation mark of
its first name, and a letter that no token begins with (`LogWatch.Json.BeginsName`).

Reading comes to the object within a token or between tokens. An open token refuses the brace, or is
a string, which the quotation mark ends in front of a letter that begins nothing. A number is closed
by the brace, and then, as between tokens, there are tokens before those of the object. If a value
may follow them, then because an array or an object is open, and nothing closes it any more.
-/

namespace LogWatch

namespace Json

/-- The octet is one that is skipped between tokens. -/
def isSkipped (b : UInt8) : Bool := b == 32 || b == 10 || b == 9 || b == 13

/-- **The text begins with a brace, a quotation mark and an octet that no token begins with.** -/
def BeginsName (text : Bytes) : Prop :=
  ∃ b rest, text = 123 :: 34 :: b :: rest ∧ ∀ m : Token.Machine, m.start b = none

/-! ### Tokens in front of the object -/

namespace Token

/-- Something has been read: a token is open, or there is one. -/
def Machine.HasRead (m : Machine) : Prop := m.state = .idle → m.tokens ≠ []

section Steps

variable {m m' : Machine} {ts : List Token} {b : UInt8} {before text : Bytes}

theorem start_of_isSkipped (h : isSkipped b = true) : m.start b = some ⟨.idle, m.tokens⟩ :=
  if_pos h

/-- Blanks are skipped. -/
theorem foldlM_skipped (h : before.all isSkipped = true) :
    before.foldlM Machine.step ⟨.idle, ts⟩ = some ⟨.idle, ts⟩ := by
  induction before with
  | nil => rfl
  | cons b before ih =>
    rw [List.all_cons, Bool.and_eq_true] at h
    rw [List.foldlM_cons, Machine.step]
    simp only [start_of_isSkipped h.1]
    exact ih h.2

theorem hasRead_start (hb : isSkipped b = true → m.tokens ≠ []) (h : m.start b = some m') :
    m'.HasRead := by
  have hopen {x : Machine} (hx : x.HasRead) : ∀ m ∈ some x, m.HasRead := by
    rintro m ⟨⟩
    exact hx
  refine (?_ : ∀ m' ∈ m.start b, m'.HasRead) m' h
  by_cases hskipped : isSkipped b = true
  · rw [start_of_isSkipped hskipped]
    exact hopen fun _ => hb hskipped
  · rw [isSkipped] at hskipped
    rw [Machine.start, if_neg hskipped]
    repeat' apply forall_mem_ite
    all_goals first
      | exact hopen fun _ => List.cons_ne_nil _ _
      | exact hopen (by simp [Machine.HasRead])
      | simp

theorem hasRead_step (hm : m.HasRead) (h : m.step b = some m') : m'.HasRead := by
  rw [Machine.step] at h
  split at h
  · next hstate => exact hasRead_start (fun _ => hm hstate) h
  · split at h
    · simp at h
    · obtain rfl := Option.some.inj h
      simp [Machine.HasRead]
    · obtain rfl := Option.some.inj h
      exact fun _ => List.cons_ne_nil _ _
  · split at h
    · obtain rfl := Option.some.inj h
      simp [Machine.HasRead]
    · obtain ⟨closed, hclose, hstart⟩ := Option.bind_eq_some_iff.mp h
      obtain ⟨spelling, -, rfl⟩ := Option.map_eq_some_iff.mp hclose
      exact hasRead_start (fun _ => List.cons_ne_nil _ _) hstart
  · exact hasRead_start (fun _ => List.cons_ne_nil _ _) h
  · split at h
    · obtain rfl := Option.some.inj h
      exact fun _ => List.cons_ne_nil _ _
    · simp at h
  · split at h
    · obtain rfl := Option.some.inj h
      simp [Machine.HasRead]
    · simp at h

/-- **Behind anything but blanks something has been read.** -/
theorem hasRead_foldlM (h : before.all isSkipped = false)
    (hm : before.foldlM Machine.step ⟨.idle, []⟩ = some m) : m.HasRead := by
  induction before with
  | nil => simp at h
  | cons b before ih =>
    rw [List.foldlM_cons] at hm
    obtain ⟨m₁, hstep, hrest⟩ := Option.bind_eq_some_iff.mp hm
    by_cases hskipped : isSkipped b = true
    · obtain rfl : _ = m₁ := Option.some.inj ((start_of_isSkipped hskipped).symm.trans hstep)
      rw [List.all_cons, hskipped, Bool.true_and] at h
      exact ih h hrest
    · exact foldlM_induction (Q := fun _ => True) (fun _ _ _ hm _ hstep => hasRead_step hm hstep)
        (fun _ _ => trivial) (hasRead_start (fun hb => absurd hb hskipped) hstep) hrest

/-- A string that is open comes to nothing, or is open behind the brace. -/
theorem step_brace_of_str {s : OpenString} (hstate : m.state = .str s) (h : m.step 123 = some m') :
    ∃ s', m'.state = .str s' ∧ s'.escape = .plain := by
  rw [Machine.step, hstate] at h
  simp only [OpenString.step] at h
  cases hescape : s.escape with
  | plain =>
    simp only [hescape] at h
    obtain rfl := Option.some.inj h
    exact ⟨_, rfl, rfl⟩
  | backslash => simp [hescape] at h
  | hex left value => simp [hescape, show Octet.hexValue? 123 = none from rfl] at h

/-- **The object is refused, or its tokens come behind others.** -/
theorem foldlM_of_hasRead (htext : BeginsName text) (hm : m.HasRead) (hlacks : m.state.Lacks 123) :
    text.foldlM Machine.step m = none ∨
      ∃ ts, ts ≠ [] ∧ text.foldlM Machine.step m = text.foldlM Machine.step ⟨.idle, ts⟩ := by
  obtain ⟨b, rest, rfl, hb⟩ := htext
  obtain ⟨state, ts⟩ := m
  cases state with
  | idle => exact .inr ⟨ts, hm rfl, rfl⟩
  | num number =>
    cases hclose : Machine.closeNumber ⟨.num number, ts⟩ number with
    | none =>
      refine .inl ?_
      rw [List.foldlM_cons, Machine.step]
      simp only [show isNumeric 123 = false from rfl, Bool.false_eq_true, if_false, hclose]
      rfl
    | some closed =>
      obtain ⟨spelling, hspelling, -⟩ := Option.map_eq_some_iff.mp hclose
      refine .inr ⟨.num spelling.value? :: ts, List.cons_ne_nil _ _, ?_⟩
      rw [List.foldlM_cons, (ends_num hspelling).step 123 rfl]
      rfl
  | word left t =>
    refine .inl ?_
    have hne (c : UInt8) (hc : c ∈ left) : (123 == c) = false :=
      beq_false_of_ne fun heq => hlacks.2 (heq ▸ hc)
    rw [List.foldlM_cons]
    cases left with
    | nil => exact absurd rfl hlacks.1
    | cons c left => cases left <;> simp [Machine.step, hne c (by simp)]
  | str s =>
    refine .inl ?_
    cases hbrace : Machine.step ⟨.str s, ts⟩ 123 with
    | none => rw [List.foldlM_cons, hbrace]; rfl
    | some m₁ =>
      obtain ⟨s', hstate, hescape⟩ := step_brace_of_str rfl hbrace
      have hquote : m₁.step 34 = some ⟨.idle, .str s'.text? :: m₁.tokens⟩ := by
        rw [Machine.step, hstate]
        simp [OpenString.step, hescape]
      have hletter : Machine.step ⟨.idle, .str s'.text? :: m₁.tokens⟩ b = none := hb _
      rw [List.foldlM_cons, hbrace]
      change (34 :: b :: rest).foldlM Machine.step m₁ = none
      rw [List.foldlM_cons, hquote]
      change (b :: rest).foldlM Machine.step _ = none
      rw [List.foldlM_cons, hletter]
      rfl

end Steps

end Token

/-! ### Nodes in front of the object -/

namespace Node

/-- Where a value may come next, an array or an object is open. -/
def Partial.IsInside (p : Partial) : Prop :=
  p.expects = .value ∨ p.expects = .valueOrEnd → p.frames ≠ []

section Steps

variable {p p' : Partial} {t : Token} {ts : List Token}

theorem isInside_close (frames : List Frame) (n : Node) : (Partial.close frames n).IsInside := by
  simp [Partial.IsInside, Partial.close]

theorem isInside_value {frames : List Frame} (h : Partial.value frames t = some p) :
    p.IsInside := by
  cases t with
  | openBracket | openBrace =>
    obtain rfl := Option.some.inj h
    simp [Partial.IsInside]
  | null | bool | num | str =>
    obtain rfl := Option.some.inj h
    exact isInside_close _ _
  | _ => simp [Partial.value] at h

/-- **A value is only the first thing that may come unless something is open.** -/
theorem isInside_step (h : p.step t = some p') : p'.IsInside := by
  rw [Partial.step.eq_def] at h
  split at h
  · split at h
    · obtain rfl := Option.some.inj h
      exact isInside_close _ _
    · simp at h
  · exact isInside_value h
  · exact isInside_value h
  · obtain rfl := Option.some.inj h
    exact isInside_close _ _
  · obtain rfl := Option.some.inj h
    simp [Partial.IsInside]
  · obtain rfl := Option.some.inj h
    simp [Partial.IsInside]
  · obtain rfl := Option.some.inj h
    simp [Partial.IsInside]
  · split at h
    · obtain rfl := Option.some.inj h
      simp [Partial.IsInside]
    · obtain rfl := Option.some.inj h
      simp [Partial.IsInside]
    · simp at h
  · split at h
    · obtain rfl := Option.some.inj h
      exact isInside_close _ _
    · simp at h
  · split at h
    · obtain rfl := Option.some.inj h
      exact isInside_close _ _
    · simp at h
  · simp at h

theorem isInside_foldlM (hts : ts ≠ []) (h : ts.foldlM Partial.step p = some p') :
    p'.IsInside := by
  rcases List.eq_nil_or_concat ts with rfl | ⟨before, t, rfl⟩
  · exact absurd rfl hts
  · rw [List.concat_eq_append, List.foldlM_append] at h
    obtain ⟨p₁, -, hlast⟩ := Option.bind_eq_some_iff.mp h
    rw [List.foldlM_cons] at hlast
    obtain ⟨p₂, hstep, ⟨⟩⟩ := Option.bind_eq_some_iff.mp hlast
    exact isInside_step hstep

/-- An object stands where a value may come. -/
theorem expects_of_openBrace (h : p.step .openBrace = some p') :
    p.expects = .value ∨ p.expects = .valueOrEnd := by
  obtain ⟨frames, expects⟩ := p
  cases expects <;> simp_all [Partial.step]

theorem tokens_obj (ms : List (String × Json)) :
    ∃ rest, (Json.obj ms).tokens = .openBrace :: rest := by
  cases ms with
  | nil => exact ⟨[.closeBrace], by rw [tokens]⟩
  | cons p ms => exact ⟨_, by rw [tokens]⟩

/-- **The tokens of an object behind others are not those of one value.** -/
theorem ofTokens?_append (hts : ts ≠ []) (ms : List (String × Json)) :
    ofTokens? (ts ++ (Json.obj ms).tokens) = none := by
  have hnone : ∀ n, (ts ++ (Json.obj ms).tokens).foldlM Partial.step ⟨[], .value⟩ ≠
      some ⟨[], .commaOrEnd n⟩ := by
    intro n hread
    rw [List.foldlM_append] at hread
    obtain ⟨⟨frames, expects⟩, hbefore, hobject⟩ := Option.bind_eq_some_iff.mp hread
    have hinside := isInside_foldlM hts hbefore
    obtain ⟨rest, hrest⟩ := tokens_obj ms
    have hvalue : expects = .value ∨ expects = .valueOrEnd := by
      rw [hrest, List.foldlM_cons] at hobject
      obtain ⟨p, hstep, -⟩ := Option.bind_eq_some_iff.mp hobject
      exact expects_of_openBrace hstep
    -- what was open when the object began is open behind it
    rw [foldlM_tokens (.obj ms) frames expects hvalue] at hobject
    obtain ⟨rfl, -⟩ := Partial.mk.inj (Option.some.inj hobject)
    exact absurd rfl (hinside hvalue)
  rw [ofTokens?.eq_def]
  split
  · next n hread => exact absurd hread (hnone n)
  · rfl

end Steps

/-! ### The whole text -/

variable {before : Bytes} {ms : List (String × Json)}

/-- **In front of an object there may be blanks and nothing else.** -/
theorem ofBytes?_append (hbegins : BeginsName (octets (Json.obj ms).chars)) (before : Bytes) :
    ofBytes? (before ++ octets (Json.obj ms).chars) =
      if before.all isSkipped then ofBytes? (octets (Json.obj ms).chars) else none := by
  cases hbefore : before.all isSkipped with
  | true =>
    rw [ofBytes?, Token.ofBytes?, List.foldlM_append, Token.foldlM_skipped hbefore]
    rfl
  | false =>
    rw [ofBytes?, Token.ofBytes?, List.foldlM_append]
    cases hm : before.foldlM Token.Machine.step ⟨.idle, []⟩ with
    | none => rfl
    | some m =>
      have hlacks : m.state.Lacks 123 :=
        Token.lacks_foldlM (m := ⟨.idle, []⟩) (by decide) trivial hm
      change (((octets (Json.obj ms).chars).foldlM Token.Machine.step m).bind
        Token.Machine.finish).bind ofTokens? = none
      rcases Token.foldlM_of_hasRead hbegins (Token.hasRead_foldlM hbefore hm) hlacks with hnone |
        ⟨ts, hts, heq⟩
      · rw [hnone]
        rfl
      · obtain ⟨m', hm', hends⟩ := Token.exists_foldlM_chars (.obj ms) ts
        rw [heq, hm', Option.bind_some, hends.finish, Option.bind_some, List.reverse_append,
          List.reverse_reverse]
        exact ofTokens?_append (by simpa using hts) ms

end Node

end Json

end LogWatch
