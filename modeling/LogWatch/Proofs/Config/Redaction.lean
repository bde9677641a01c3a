import LogWatch.Config.Redaction
import Mathlib.Data.List.Infix
import Mathlib.Data.List.TakeWhile

/-!
# What a redacted address shows

Behind its scheme an address has four **parts** (`LogWatch.Url.Parts`): a host and a path, user
information before them and a query behind them, of which the last two may be missing. Every text
can be taken apart like that (`LogWatch.Url.exists_text_eq`): the query begins at the first question
mark, the path at the first slash before it, and the user information ends at the last at sign
before both. A separator that occurs in a part further on is not looked at any more.

Redaction acts on the parts alone (`LogWatch.Url.hideRest_text`), and what it puts in place of a
part has no separator. A redacted address is therefore taken apart as before, and to redact it again
changes nothing. The scheme needs a word of its own, since a text that has none must not get one:
what stands for hidden text does not join what is left of it to `://`.
-/

namespace LogWatch

namespace Url

/-! ### The scheme -/

section Scheme

variable {cs scheme rest : List Char}

theorem splitScheme?_cons {c : Char} (h : ¬[':', '/', '/'] <+: c :: cs) :
    splitScheme? (c :: cs) = (splitScheme? cs).map fun (scheme, rest) => (c :: scheme, rest) := by
  rw [splitScheme?]
  split
  · next rest heq =>
    rw [heq] at h
    exact absurd ⟨rest, rfl⟩ h
  · rfl

theorem splitScheme?_append (h : ':' ∉ scheme) (rest : List Char) :
    splitScheme? (scheme ++ ':' :: '/' :: '/' :: rest) = some (scheme, rest) := by
  induction scheme with
  | nil => rfl
  | cons c scheme ih =>
    rw [List.mem_cons, not_or] at h
    rw [List.cons_append, splitScheme?_cons fun hbegins => h.1 (List.cons_prefix_cons.1 hbegins).1,
      ih h.2]
    rfl

/-- A text without `://` has no scheme. -/
theorem splitScheme?_eq_none_iff : splitScheme? cs = none ↔ ¬[':', '/', '/'] <:+: cs := by
  induction cs with
  | nil => simp [splitScheme?]
  | cons c cs ih =>
    rw [List.infix_cons_iff, not_or, ← ih]
    by_cases hbegins : [':', '/', '/'] <+: c :: cs
    · obtain ⟨rest, heq⟩ := hbegins
      rw [← heq]
      simp [splitScheme?]
    · rw [splitScheme?_cons hbegins, Option.map_eq_none_iff]
      exact ⟨fun h => ⟨hbegins, h⟩, And.right⟩

/-- The scheme ends where the first `://` begins, whatever follows that. -/
theorem splitScheme?_of_eq_some (h : splitScheme? cs = some (scheme, rest)) (rest' : List Char) :
    cs = scheme ++ ':' :: '/' :: '/' :: rest ∧
      splitScheme? (scheme ++ ':' :: '/' :: '/' :: rest') = some (scheme, rest') := by
  induction cs generalizing scheme with
  | nil => simp [splitScheme?] at h
  | cons c cs ih =>
    by_cases hbegins : [':', '/', '/'] <+: c :: cs
    · obtain ⟨more, heq⟩ := hbegins
      rw [← heq] at h ⊢
      obtain ⟨rfl, rfl⟩ := Prod.mk.inj (Option.some.inj h)
      exact ⟨rfl, rfl⟩
    · rw [splitScheme?_cons hbegins, Option.map_eq_some_iff] at h
      obtain ⟨⟨scheme, rest⟩, hcs, heq⟩ := h
      obtain ⟨rfl, rfl⟩ := Prod.mk.inj heq
      obtain ⟨rfl, hsplit⟩ := ih hcs
      refine ⟨rfl, ?_⟩
      rw [List.cons_append, splitScheme?_cons, hsplit]
      · rfl
      · -- the first three characters are those of the text
        intro hfront
        refine hbegins ?_
        match scheme, hfront with
        | [], hfront => simp at hfront
        | [a], hfront => simp at hfront
        | a :: b :: scheme, hfront => simpa using hfront

end Scheme

/-! ### The parts behind it -/

/-- The text can be user information. It may have at signs, but neither of the separators that come
later. -/
def IsUser (user : List Char) : Prop := '/' ∉ user ∧ '?' ∉ user

/-- The text can be a host: it has no separator. -/
def IsHost (host : List Char) : Prop := '/' ∉ host ∧ '?' ∉ host ∧ '@' ∉ host

/-- The text can be a path: it is empty or begins with a slash, and has no question mark. -/
def IsPath (path : List Char) : Prop := (∀ c ∈ path.head?, c = '/') ∧ '?' ∉ path

instance (user : List Char) : Decidable (IsUser user) := inferInstanceAs (Decidable (_ ∧ _))

instance (host : List Char) : Decidable (IsHost host) := inferInstanceAs (Decidable (_ ∧ _))

-- The characters of the path are looked at, and not all characters there are.
instance (path : List Char) : Decidable (IsPath path) :=
  decidable_of_iff (path.head?.all (· == '/') ∧ '?' ∉ path) (by simp [IsPath, Option.all_eq_true])

/-- **An address without a scheme, taken apart.** -/
structure Parts where
  /-- The user information, which an at sign ends. -/
  user : Option (List Char)
  /-- The host. -/
  host : List Char
  /-- The path. -/
  path : List Char
  /-- The query, which a question mark begins. -/
  query : Option (List Char)
  /-- User information can end at the at sign. -/
  isUser : ∀ u ∈ user, IsUser u
  /-- The host can end at the path. -/
  isHost : IsHost host
  /-- The path can end at the query. -/
  isPath : IsPath path

namespace Parts

/-- What stands before the path. -/
def authority (p : Parts) : List Char := p.user.elim p.host fun u => u ++ '@' :: p.host

/-- What stands behind the path. -/
def queryText (p : Parts) : List Char := p.query.elim [] ('?' :: ·)

/-- The address with these parts. -/
def text (p : Parts) : List Char := p.authority ++ p.path ++ p.queryText

/-- The parts that are shown, with asterisks for the others. -/
def hide (p : Parts) : Parts where
  user := p.user.map fun _ => hidden
  host := p.host
  path := p.path
  query := p.query.map fun _ => hidden
  isUser u hu := by
    obtain ⟨_, -, rfl⟩ := Option.map_eq_some_iff.1 hu
    decide
  isHost := p.isHost
  isPath := p.isPath

theorem hide_hide (p : Parts) : p.hide.hide = p.hide := by
  cases p
  simp [hide, Function.comp_def]

end Parts

section Rest

variable {cs host : List Char}

/-- A text is cut at the first separator. -/
theorem span_bne_append {sep : Char} {front back : List Char} (h : sep ∉ front)
    (hback : ∀ c ∈ back.head?, c = sep) : (front ++ back).span (· != sep) = (front, back) := by
  have hfront : ∀ c ∈ front, (c != sep) = true := fun c hc =>
    bne_iff_ne.2 fun heq => h (heq ▸ hc)
  rw [List.span_eq_takeWhile_dropWhile, List.takeWhile_append_of_pos hfront,
    List.dropWhile_append_of_pos hfront]
  cases back with
  | nil => simp
  | cons c back =>
    obtain rfl := hback c rfl
    simp

/-- Every text has a first separator, or none. -/
theorem exists_eq_append_at (sep : Char) (cs : List Char) : ∃ front back,
    sep ∉ front ∧ (∀ c ∈ back.head?, c = sep) ∧ cs = front ++ back := by
  by_cases hmem : sep ∈ cs
  · obtain ⟨front, back, rfl, hfront⟩ := List.eq_append_cons_of_mem hmem
    exact ⟨front, sep :: back, hfront, by simp, rfl⟩
  · exact ⟨cs, [], hmem, by simp, (List.append_nil cs).symm⟩

theorem afterLastAt?_of_not_mem (h : '@' ∉ cs) : afterLastAt? cs = none := by
  induction cs with
  | nil => rfl
  | cons c cs ih =>
    rw [List.mem_cons, not_or] at h
    rw [afterLastAt?, ih h.2]
    exact if_neg (Ne.symm h.1)

theorem afterLastAt?_append (h : '@' ∉ host) (u : List Char) :
    afterLastAt? (u ++ '@' :: host) = some host := by
  induction u with
  | nil =>
    rw [List.nil_append, afterLastAt?, afterLastAt?_of_not_mem h]
    rfl
  | cons c u ih => rw [List.cons_append, afterLastAt?, ih]

/-- A text with an at sign has a last one. -/
theorem exists_of_mem_at (h : '@' ∈ cs) : ∃ u host, cs = u ++ '@' :: host ∧ '@' ∉ host := by
  obtain ⟨back, front, heq, hback⟩ := List.eq_append_cons_of_mem (List.mem_reverse.2 h)
  refine ⟨front.reverse, back.reverse, ?_, by simpa using hback⟩
  rw [← List.reverse_reverse cs, heq]
  simp

/-- **Every text can be taken apart.** -/
theorem exists_text_eq (rest : List Char) : ∃ p : Parts, p.text = rest := by
  obtain ⟨before, back, hbefore, hback, rfl⟩ := exists_eq_append_at '?' rest
  obtain ⟨query, rfl⟩ : ∃ query : Option (List Char), back = query.elim [] ('?' :: ·) := by
    cases back with
    | nil => exact ⟨none, rfl⟩
    | cons c back =>
      obtain rfl := hback c rfl
      exact ⟨some back, rfl⟩
  obtain ⟨authority, path, hauthority, hpath, rfl⟩ := exists_eq_append_at '/' before
  rw [List.mem_append, not_or] at hbefore
  by_cases hmem : '@' ∈ authority
  · obtain ⟨u, host, rfl, hhost⟩ := exists_of_mem_at hmem
    simp only [List.mem_append, List.mem_cons, not_or] at hauthority hbefore
    exact ⟨⟨some u, host, path, query, by rintro _ ⟨⟩; exact ⟨hauthority.1, hbefore.1.1⟩,
      ⟨hauthority.2.2, hbefore.1.2.2, hhost⟩, hpath, hbefore.2⟩, rfl⟩
  · exact ⟨⟨none, authority, path, query, by simp, ⟨hauthority, hbefore.1, hmem⟩, hpath,
      hbefore.2⟩, rfl⟩

/-- **Redaction acts on the parts.** -/
theorem hideRest_text (p : Parts) : hideRest p.text = p.hide.text := by
  obtain ⟨user, host, path, query, huser, ⟨hslash, hmark, hat⟩, hhead, hpath⟩ := p
  have hquery : ∀ c ∈ (query.elim [] ('?' :: ·)).head?, c = '?' := by
    cases query <;> simp
  cases user with
  | none =>
    have hbefore : '?' ∉ host ++ path := by simp [hmark, hpath]
    simp only [Parts.text, Parts.authority, Parts.queryText, Option.elim_none, hideRest,
      span_bne_append hbefore hquery, span_bne_append hslash hhead, hideUser,
      afterLastAt?_of_not_mem hat, Parts.hide]
    cases query <;> rfl
  | some u =>
    obtain ⟨huslash, humark⟩ := huser u rfl
    have hbefore : '?' ∉ u ++ '@' :: host ++ path := by simp [humark, hmark, hpath]
    have hauthority : '/' ∉ u ++ '@' :: host := by simp [huslash, hslash]
    simp only [Parts.text, Parts.authority, Parts.queryText, Option.elim_some, hideRest,
      span_bne_append hbefore hquery, span_bne_append hauthority hhead, hideUser,
      afterLastAt?_append hat, Parts.hide]
    cases query <;> rfl

theorem hideRest_hideRest (rest : List Char) : hideRest (hideRest rest) = hideRest rest := by
  obtain ⟨p, rfl⟩ := exists_text_eq rest
  rw [hideRest_text, hideRest_text, Parts.hide_hide]

/-- What occurs in a text occurs before or behind a character that it does not have. -/
theorem infix_of_infix_append_cons {pattern front back : List Char} {c : Char} (hc : c ∉ pattern)
    (h : pattern <:+: front ++ c :: back) : pattern <:+: front ∨ pattern <:+: back := by
  obtain ⟨s, t, heq⟩ := h
  rw [List.append_assoc, List.append_eq_append_iff] at heq
  obtain ⟨a, rfl, heq⟩ | ⟨a, rfl, heq⟩ := heq
  · rw [List.append_eq_append_iff] at heq
    obtain ⟨b, rfl, -⟩ | ⟨b, rfl, heq⟩ := heq
    · exact .inl ⟨s, b, by simp⟩
    · cases b with
      | nil => exact .inl ⟨s, [], by simp⟩
      | cons d b =>
        obtain rfl : c = d := by simpa using congrArg List.head? heq
        simp at hc
  · cases a with
    | nil =>
      cases pattern with
      | nil => exact .inl (List.nil_infix)
      | cons d pattern =>
        obtain rfl : c = d := by simpa using congrArg List.head? heq
        simp at hc
    | cons d a =>
      obtain ⟨-, rfl⟩ := List.cons.inj heq
      exact .inr ⟨a, t, by simp⟩

/-- Hiding does not make a scheme. -/
theorem not_infix_hide {p : Parts} (h : ¬[':', '/', '/'] <:+: p.text) :
    ¬[':', '/', '/'] <:+: p.hide.text := by
  intro hhide
  have hshown : p.host ++ p.path <:+: p.text := by
    cases huser : p.user with
    | none => exact ⟨[], p.queryText, by simp [Parts.text, Parts.authority, huser]⟩
    | some u => exact ⟨u ++ ['@'], p.queryText, by simp [Parts.text, Parts.authority, huser]⟩
  have hbefore : [':', '/', '/'] <:+: p.hide.authority ++ p.path := by
    cases hquery : p.query with
    | none => simpa [Parts.text, Parts.queryText, Parts.hide, hquery] using hhide
    | some q =>
      have hmark : p.hide.text = p.hide.authority ++ p.path ++ '?' :: hidden := by
        simp [Parts.text, Parts.queryText, Parts.hide, hquery]
      rw [hmark] at hhide
      obtain hhide | hhide := infix_of_infix_append_cons (by decide) hhide
      · exact hhide
      · exact absurd hhide (by decide)
  refine h (List.IsInfix.trans ?_ hshown)
  cases huser : p.user with
  | none => simpa [Parts.authority, Parts.hide, huser] using hbefore
  | some u =>
    have hat : p.hide.authority ++ p.path = hidden ++ '@' :: (p.host ++ p.path) := by
      simp [Parts.authority, Parts.hide, huser]
    rw [hat] at hbefore
    obtain hbefore | hbefore := infix_of_infix_append_cons (by decide) hbefore
    · exact absurd hbefore (by decide)
    · exact hbefore

end Rest

/-! ### Whole addresses -/

section Whole

/-- **Nothing more is hidden the second time**, whatever the text. -/
theorem redactChars_redactChars (cs : List Char) :
    redactChars (redactChars cs) = redactChars cs := by
  cases hsplit : splitScheme? cs with
  | some parts =>
    obtain ⟨scheme, rest⟩ := parts
    have hagain := (splitScheme?_of_eq_some hsplit (hideRest rest)).2
    simp only [redactChars, hsplit, hagain, hideRest_hideRest]
  | none =>
    have hagain : splitScheme? (hideRest cs) = none := by
      obtain ⟨p, rfl⟩ := exists_text_eq cs
      rw [splitScheme?_eq_none_iff] at hsplit
      rw [hideRest_text, splitScheme?_eq_none_iff]
      exact not_infix_hide hsplit
    simp only [redactChars, hsplit, hagain, hideRest_hideRest]

theorem redact_redact (url : String) : redact (redact url) = redact url := by
  rw [redact, redact, String.toList_ofList, redactChars_redactChars]

/-- The address with a scheme and these parts. -/
def address (scheme : String) (user : Option String) (host path : String) (query : Option String) :
    String :=
  scheme ++ "://" ++ user.elim "" (· ++ "@") ++ host ++ path ++ query.elim "" ("?" ++ ·)

/-- User information and a query become asterisks, where they are there. -/
theorem redact_address {scheme host path : String} {user query : Option String}
    (hscheme : ':' ∉ scheme.toList) (hhost : IsHost host.toList) (hpath : IsPath path.toList)
    (huser : ∀ u ∈ user, IsUser u.toList) :
    redact (address scheme user host path query) =
      address scheme (user.map fun _ => "***") host path (query.map fun _ => "***") := by
  have hisUser : ∀ u ∈ user.map String.toList, IsUser u := by
    intro u hu
    obtain ⟨text, htext, rfl⟩ := Option.map_eq_some_iff.1 hu
    exact huser text htext
  let p : Parts :=
    ⟨user.map String.toList, host.toList, path.toList, query.map String.toList, hisUser, hhost,
      hpath⟩
  have htext : (address scheme user host path query).toList =
      scheme.toList ++ ':' :: '/' :: '/' :: p.text := by
    cases user <;> cases query <;>
      simp [address, p, Parts.text, Parts.authority, Parts.queryText]
  have hhide : (address scheme (user.map fun _ => "***") host path
      (query.map fun _ => "***")).toList = scheme.toList ++ ':' :: '/' :: '/' :: p.hide.text := by
    cases user <;> cases query <;>
      simp [address, p, Parts.text, Parts.authority, Parts.queryText, Parts.hide, hidden]
  rw [← String.toList_inj, hhide, redact, String.toList_ofList, htext, redactChars,
    splitScheme?_append hscheme, ← hideRest_text]

/-- **A redacted address shows its scheme, its host and its path, and nothing else.** Addresses that
differ only in user information and query look alike, and where one of these is missing nothing is
put in its place. Whatever the text was, what has been redacted is not changed by doing it again. Of
a configuration nothing but the address of the receiver is redacted. -/
theorem redact_hides :
    (∀ scheme host path : String, scheme = "http" ∨ scheme = "https" → IsHost host.toList →
      IsPath path.toList →
      (∀ user query : Option String, (∀ u ∈ user, IsUser u.toList) →
        redact (address scheme user host path query) =
          address scheme (user.map fun _ => "***") host path (query.map fun _ => "***")) ∧
      ∀ u₁ u₂ q₁ q₂ : String, IsUser u₁.toList → IsUser u₂.toList →
        redact (address scheme (some u₁) host path (some q₁)) =
          redact (address scheme (some u₂) host path (some q₂))) ∧
      (∀ url : String, redact (redact url) = redact url) ∧
      ∀ c : Config, c.redacted.delivery.url = redact c.delivery.url ∧
        { c.redacted with delivery := { c.redacted.delivery with url := c.delivery.url } } = c := by
  refine ⟨fun scheme host path hscheme hhost hpath => ?_, redact_redact, fun c => ⟨rfl, rfl⟩⟩
  have hplain : ':' ∉ scheme.toList := by
    obtain rfl | rfl := hscheme <;> decide +kernel
  refine ⟨fun user query huser => redact_address hplain hhost hpath huser,
    fun u₁ u₂ q₁ q₂ hu₁ hu₂ => ?_⟩
  rw [redact_address hplain hhost hpath (by rintro _ ⟨⟩; exact hu₁),
    redact_address hplain hhost hpath (by rintro _ ⟨⟩; exact hu₂)]
  rfl

/-- At signs in the user information and in the path, and separators of all kinds in the queries. -/
theorem redact_hides_separators :
    redact "https://key@home:secret@errors.example.com/api/@1/store?token=a?b" =
        "https://***@errors.example.com/api/@1/store?***" ∧
      redact "https://key@home:secret@errors.example.com/api/@1/store?token=a?b" =
        redact "https://@errors.example.com/api/@1/store?to=ftp://u@h/p" := by
  have h := redact_hides.1 "https" "errors.example.com" "/api/@1/store" (.inr rfl)
    (by decide +kernel) (by decide +kernel)
  exact ⟨h.1 (some "key@home:secret") (some "token=a?b") (by rintro _ ⟨⟩; decide +kernel),
    h.2 "key@home:secret" "" "token=a?b" "to=ftp://u@h/p" (by decide +kernel) (by decide +kernel)⟩

end Whole

end Url

end LogWatch
