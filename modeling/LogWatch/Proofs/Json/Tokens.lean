import LogWatch.Proofs.Json.Numbers

/-!
# The tokens of written JSON

What the writer writes, the reader takes apart again: the octets of a value are read as the tokens
of which it is made (`LogWatch.Json.ofBytes?_octets`). A string comes back as it was, however its
characters were escaped; a number comes back as the one that its text is read as.

A number ends where the next token begins, so behind a value the reader may or may not be within a
number. `LogWatch.Json.Token.Machine.Ends` says that this makes no difference.
-/

namespace LogWatch

namespace Json

/-! ### The machine at work -/

namespace Token

/-- **A value has come to its end**, and these are the tokens so far, in reverse: whatever cannot
stand in a number finds the machine as if it were between tokens. -/
structure Machine.Ends (m : Machine) (ts : List Token) : Prop where
  /-- The text may end here. -/
  finish : m.finish = some ts.reverse
  /-- The next token may begin here. -/
  step : ∀ b, isNumeric b = false → m.step b = Machine.start ⟨.idle, ts⟩ b

section Steps

variable {ts : List Token}

theorem ends_idle (ts : List Token) : Machine.Ends ⟨.idle, ts⟩ ts := ⟨rfl, fun _ _ => rfl⟩

theorem ends_num {text : Bytes} {s : Number.Spelling}
    (h : Number.Spelling.ofBytes? text.reverse = some s) :
    Machine.Ends ⟨.num text, ts⟩ (.num s.value? :: ts) where
  finish := by simp [Machine.finish, Machine.closeNumber, h]
  step b hb := by simp [Machine.step, hb, Machine.closeNumber, h]

/-- Within a number the octets are gathered. -/
theorem foldlM_numeric {text : Bytes} (h : ∀ b ∈ text, isNumeric b = true) (read : Bytes) :
    text.foldlM Machine.step ⟨.num read, ts⟩ = some ⟨.num (text.reverse ++ read), ts⟩ := by
  induction text generalizing read with
  | nil => rfl
  | cons b text ih =>
    rw [List.foldlM_cons, Machine.step]
    simp only [h b List.mem_cons_self, if_true]
    refine (ih (fun c hc => h c (List.mem_cons_of_mem _ hc)) (b :: read)).trans ?_
    rw [List.reverse_cons, List.append_assoc, List.singleton_append]

/-- A digit or a minus sign opens a number. -/
theorem start_numeral {b : UInt8} (h : b = 45 ∨ Octet.isDigit b = true) :
    Machine.start ⟨.idle, ts⟩ b = some ⟨.num [b], ts⟩ := by
  have hne (c : UInt8) (hc : (c == 45 || Octet.isDigit c) = false) : (b == c) = false := by
    refine beq_false_of_ne fun hbc => ?_
    subst hbc
    rcases h with rfl | h
    · simp at hc
    · simp [h] at hc
  have hb : (b == 45 || Octet.isDigit b) = true := by
    rcases h with rfl | h
    · rfl
    · simp [h]
  simp only [Machine.start, hne 32 rfl, hne 10 rfl, hne 9 rfl, hne 13 rfl, hne 34 rfl, hb,
    Bool.or_self, Bool.false_eq_true, if_false, if_true]

/-- A number is read as far as it goes. -/
theorem exists_foldlM_spelling {text : Bytes} {s : Number.Spelling}
    (h : Number.Spelling.ofBytes? text = some s) (hnumeric : ∀ b ∈ text, isNumeric b = true) :
    ∃ m, text.foldlM Machine.step ⟨.idle, ts⟩ = some m ∧ m.Ends (.num s.value? :: ts) := by
  cases text with
  | nil => simp [Number.ofBytes?_nil] at h
  | cons b text =>
    have hb : b = 45 ∨ Octet.isDigit b = true := Number.isSome_ofBytes?_cons (by rw [h]; rfl)
    refine ⟨⟨.num (text.reverse ++ [b]), ts⟩, ?_, ends_num (by simpa using h)⟩
    rw [List.foldlM_cons]
    refine (congrArg (Option.bind · _) (start_numeral hb)).trans ?_
    exact foldlM_numeric (fun c hc => hnumeric c (List.mem_cons_of_mem _ hc)) [b]

/-! ### Strings -/

/-- A string that is being read, of which these are the octets so far, in reverse. -/
def gathered (read : Bytes) : State := .str ⟨read, true, none, .plain⟩

/-- Octets that neither end a string nor begin an escape are gathered. -/
theorem foldlM_plain {bs : Bytes} (h : ∀ b ∈ bs, b ≠ 34 ∧ b ≠ 92 ∧ ¬b < 0x20) (read : Bytes) :
    bs.foldlM Machine.step ⟨gathered read, ts⟩ = some ⟨gathered (bs.reverse ++ read), ts⟩ := by
  induction bs generalizing read with
  | nil => rfl
  | cons b bs ih =>
    obtain ⟨hquote, hbackslash, hcontrol⟩ := h b List.mem_cons_self
    have hstep : Machine.step ⟨gathered read, ts⟩ b = some ⟨gathered (b :: read), ts⟩ := by
      simp [Machine.step, gathered, OpenString.step, hquote, hbackslash, hcontrol]
    rw [List.foldlM_cons, hstep]
    refine (ih (fun c hc => h c (List.mem_cons_of_mem _ hc)) (b :: read)).trans ?_
    rw [List.reverse_cons, List.append_assoc, List.singleton_append]

/-- A hexadecimal digit is an octet that has its value. -/
theorem hexValue?_hexDigit : ∀ d : Fin 16,
    String.utf8EncodeChar (hexDigit d) = [UInt8.ofNat (hexDigit d).toNat] ∧
      Octet.hexValue? (UInt8.ofNat (hexDigit d).toNat) = some d.val := by decide

theorem foldlM_numericEscape {c : Char} (h : c.toNat < 0x20) (read : Bytes) :
    (octets ['\\', 'u', '0', '0', hexDigit (c.toNat / 16), hexDigit (c.toNat % 16)]).foldlM
      Machine.step ⟨gathered read, ts⟩ =
        some ⟨gathered ((String.utf8EncodeChar c).reverse ++ read), ts⟩ := by
  obtain ⟨hhigh, hvhigh⟩ := hexValue?_hexDigit ⟨c.toNat / 16, by omega⟩
  obtain ⟨hlow, hvlow⟩ := hexValue?_hexDigit ⟨c.toNat % 16, by omega⟩
  have hfront : octets ['\\', 'u', '0', '0'] = [92, 117, 48, 48] := by decide
  have hopened : [92, 117, 48, 48].foldlM Machine.step ⟨gathered read, ts⟩ =
      some ⟨.str ⟨read, true, none, .hex 2 0⟩, ts⟩ := rfl
  have hvalue : (0 * 16 + c.toNat / 16) * 16 + c.toNat % 16 = c.toNat := by omega
  have hunit : OpenString.pushUnit ⟨read, true, none, .hex 1 (0 * 16 + c.toNat / 16)⟩ c.toNat =
      ⟨(String.utf8EncodeChar c).reverse ++ read, true, none, .plain⟩ := by
    have hlead : ¬(0xD800 ≤ c.toNat ∧ c.toNat ≤ 0xDBFF) := by omega
    have htrail : ¬(0xDC00 ≤ c.toNat ∧ c.toNat ≤ 0xDFFF) := by omega
    simp only [OpenString.pushUnit, if_neg hlead, if_neg htrail, OpenString.push,
      Char.ofNat_toNat]
    rfl
  rw [show ['\\', 'u', '0', '0', hexDigit (c.toNat / 16), hexDigit (c.toNat % 16)] =
    ['\\', 'u', '0', '0'] ++ [hexDigit (c.toNat / 16), hexDigit (c.toNat % 16)] from rfl,
    octets_append, hfront, octets_cons, octets_cons, hhigh, hlow, List.foldlM_append, hopened]
  have hfirst : Machine.step ⟨.str ⟨read, true, none, .hex 2 0⟩, ts⟩
      (UInt8.ofNat (hexDigit (c.toNat / 16)).toNat) =
        some ⟨.str ⟨read, true, none, .hex 1 (0 * 16 + c.toNat / 16)⟩, ts⟩ := by
    simp only [Machine.step, OpenString.step, hvhigh]
    rfl
  have hsecond : Machine.step ⟨.str ⟨read, true, none, .hex 1 (0 * 16 + c.toNat / 16)⟩, ts⟩
      (UInt8.ofNat (hexDigit (c.toNat % 16)).toNat) =
        some ⟨gathered ((String.utf8EncodeChar c).reverse ++ read), ts⟩ := by
    simp only [Machine.step, OpenString.step, hvlow, Nat.le_refl, if_true, hvalue, hunit]
    rfl
  change (Machine.step _ _).bind (fun m => (Machine.step m _).bind some) = _
  rw [hfirst, Option.bind_some, hsecond, Option.bind_some]

/-- **A character comes back as it was**, however it is escaped. -/
theorem foldlM_escaped (c : Char) (read : Bytes) :
    (octets (escaped c)).foldlM Machine.step ⟨gathered read, ts⟩ =
      some ⟨gathered ((String.utf8EncodeChar c).reverse ++ read), ts⟩ := by
  rw [escaped]
  -- the characters that have an escape of their own
  iterate 7
    split
    · next h => subst h; rfl
  split
  · next hcontrol => exact foldlM_numericEscape hcontrol read
  · next hquote hbackslash _ _ _ _ _ hcontrol =>
    -- of a character that is not escaped no octet is below 32, a quote or a backslash
    have hplain : ∀ b ∈ String.utf8EncodeChar c, b ≠ 34 ∧ b ≠ 92 ∧ ¬b < 0x20 := by
      intro b hb
      have hnat (hlt : b.toNat < 128) : c.toNat = b.toNat := toNat_of_mem_utf8EncodeChar hlt hb
      refine ⟨?_, ?_, fun hlt => ?_⟩
      · rintro rfl
        exact hquote (Char.toNat_inj.mp (hnat (by decide)))
      · rintro rfl
        exact hbackslash (Char.toNat_inj.mp (hnat (by decide)))
      · have hlt' : b.toNat < 32 := UInt8.lt_iff_toNat_lt.mp hlt
        exact hcontrol (hnat (by omega) ▸ hlt')
    rw [octets_cons, octets_nil, List.append_nil]
    exact foldlM_plain hplain read

theorem foldlM_escapes (cs : List Char) (read : Bytes) :
    (octets (cs.flatMap escaped)).foldlM Machine.step ⟨gathered read, ts⟩ =
      some ⟨gathered ((octets cs).reverse ++ read), ts⟩ := by
  induction cs generalizing read with
  | nil => rfl
  | cons c cs ih =>
    rw [List.flatMap_cons, octets_append, List.foldlM_append, foldlM_escaped]
    refine (ih _).trans ?_
    rw [octets_cons, List.reverse_append, List.append_assoc]

/-- **A string comes back as it was.** -/
theorem foldlM_quoted (s : String) :
    (octets (quoted s)).foldlM Machine.step ⟨.idle, ts⟩ = some ⟨.idle, .str (some s) :: ts⟩ := by
  have hstart : Machine.step ⟨.idle, ts⟩ 34 = some ⟨gathered [], ts⟩ := rfl
  have htext : Utf8.decode? ((octets s.toList).reverse ++ []).reverse = some s := by
    rw [List.append_nil, List.reverse_reverse, octets, ← Bytes.ofString_eq]
    exact Utf8.decode?_ofString s
  have hend : Machine.step ⟨gathered ((octets s.toList).reverse ++ []), ts⟩ 34 =
      some ⟨.idle, .str (some s) :: ts⟩ := by
    rw [← htext]
    rfl
  have hquote : String.utf8EncodeChar '"' = [34] := by decide
  rw [quoted, octets_cons, octets_append, octets_cons, octets_nil, hquote, List.append_nil,
    List.singleton_append, List.foldlM_cons, hstart]
  refine (List.foldlM_append ..).trans ?_
  rw [foldlM_escapes]
  exact congrArg (Option.bind · some) hend

/-! ### Words and punctuation -/

/-- A word is read to its end. -/
theorem foldlM_left {left : Bytes} (h : left ≠ []) (t : Token) :
    left.foldlM Machine.step ⟨.word left t, ts⟩ = some ⟨.idle, t :: ts⟩ := by
  induction left with
  | nil => exact absurd rfl h
  | cons b left ih =>
    rw [List.foldlM_cons]
    cases left with
    | nil => simp [Machine.step]
    | cons c left =>
      have hstep : Machine.step ⟨.word (b :: c :: left) t, ts⟩ b =
          some ⟨.word (c :: left) t, ts⟩ := by
        simp [Machine.step]
      rw [hstep]
      exact ih (by simp)

theorem foldlM_word {b : UInt8} {left : Bytes} {t : Token} (h : left ≠ [])
    (hstart : Machine.start ⟨.idle, ts⟩ b = some ⟨.word left t, ts⟩) :
    (b :: left).foldlM Machine.step ⟨.idle, ts⟩ = some ⟨.idle, t :: ts⟩ := by
  rw [List.foldlM_cons]
  refine (congrArg (Option.bind · _) hstart).trans ?_
  exact foldlM_left h t

theorem foldlM_null : (octets "null".toList).foldlM Machine.step ⟨.idle, ts⟩ =
    some ⟨.idle, .null :: ts⟩ := by
  rw [show octets "null".toList = 110 :: Bytes.ofString "ull" by decide +kernel]
  exact foldlM_word (by decide +kernel) rfl

theorem foldlM_true : (octets "true".toList).foldlM Machine.step ⟨.idle, ts⟩ =
    some ⟨.idle, .bool true :: ts⟩ := by
  rw [show octets "true".toList = 116 :: Bytes.ofString "rue" by decide +kernel]
  exact foldlM_word (by decide +kernel) rfl

theorem foldlM_false : (octets "false".toList).foldlM Machine.step ⟨.idle, ts⟩ =
    some ⟨.idle, .bool false :: ts⟩ := by
  rw [show octets "false".toList = 102 :: Bytes.ofString "alse" by decide +kernel]
  exact foldlM_word (by decide +kernel) rfl

/-- Punctuation, with its token. -/
def marks : List (Char × Token) :=
  [('\x7b', .openBrace), ('\x7d', .closeBrace), ('[', .openBracket), (']', .closeBracket),
    (':', .colon), (',', .comma)]

/-- **Punctuation** closes a number and is a token of its own. -/
theorem foldlM_mark {m : Machine} {c : Char} {t : Token} (hm : m.Ends ts) (hc : (c, t) ∈ marks)
    (cs : List Char) : (octets (c :: cs)).foldlM Machine.step m =
      (octets cs).foldlM Machine.step ⟨.idle, t :: ts⟩ := by
  have hstep (b : UInt8) (hb : isNumeric b = false) (hoctet : String.utf8EncodeChar c = [b])
      (hstart : Machine.start ⟨.idle, ts⟩ b = some ⟨.idle, t :: ts⟩) :
      (octets (c :: cs)).foldlM Machine.step m =
        (octets cs).foldlM Machine.step ⟨.idle, t :: ts⟩ := by
    rw [octets_cons, hoctet, List.singleton_append, List.foldlM_cons, hm.step b hb, hstart]
    rfl
  simp only [marks, List.mem_cons, Prod.mk.injEq, List.not_mem_nil, or_false] at hc
  rcases hc with ⟨rfl, rfl⟩ | ⟨rfl, rfl⟩ | ⟨rfl, rfl⟩ | ⟨rfl, rfl⟩ | ⟨rfl, rfl⟩ | ⟨rfl, rfl⟩
  · exact hstep 123 rfl rfl rfl
  · exact hstep 125 rfl rfl rfl
  · exact hstep 91 rfl rfl rfl
  · exact hstep 93 rfl rfl rfl
  · exact hstep 58 rfl rfl rfl
  · exact hstep 44 rfl rfl rfl

end Steps

end Token

/-! ### The tokens of a value -/

/-- What a number is read as: a word, if JSON cannot hold it. -/
def Number.token (n : Number) : Token := if n.isLost then .null else .num n.reread?

mutual

/-- The tokens of a value. -/
def tokens : Json → List Token
  | .null => [.null]
  | .bool b => [.bool b]
  | .num n => [n.token]
  | .str s => [.str (some s)]
  | .arr [] => [.openBracket, .closeBracket]
  | .arr (v :: vs) => .openBracket :: (v.tokens ++ itemsTokens vs)
  | .obj [] => [.openBrace, .closeBrace]
  | .obj ((k, v) :: ms) =>
    .openBrace :: .str (some k) :: .colon :: (v.tokens ++ membersTokens ms)

/-- The tokens of the items after the first, and of the closing bracket. -/
def itemsTokens : List Json → List Token
  | [] => [.closeBracket]
  | v :: vs => .comma :: (v.tokens ++ itemsTokens vs)

/-- The tokens of the members after the first, and of the closing brace. -/
def membersTokens : List (String × Json) → List Token
  | [] => [.closeBrace]
  | (k, v) :: ms => .comma :: .str (some k) :: .colon :: (v.tokens ++ membersTokens ms)

end

namespace Token

/-- A number is read as its token. -/
theorem exists_foldlM_number (n : Number) (ts : List Token) :
    ∃ m, (octets n.chars).foldlM Machine.step ⟨.idle, ts⟩ = some m ∧ m.Ends (n.token :: ts) := by
  cases hlost : n.isLost with
  | true =>
    rw [chars_of_isLost hlost, Number.token, hlost]
    exact ⟨_, foldlM_null, ends_idle _⟩
  | false =>
    obtain ⟨s, hs⟩ := Option.isSome_iff_exists.mp (Number.isSpelled hlost)
    have hnumeric := Number.isNumeric_of_mem_octets (forall_mem_numeral hlost)
    rw [Number.token, hlost, Number.reread?, hs]
    exact exists_foldlM_spelling hs hnumeric

/-- A member is read as its name, a colon and the tokens of its value. -/
theorem foldlM_member {k : String} {v : Json} {ts : List Token} {m : Machine}
    (hm : (octets v.chars).foldlM Machine.step ⟨.idle, .colon :: .str (some k) :: ts⟩ = some m)
    (cs : List Char) :
    (octets (quoted k ++ ':' :: (v.chars ++ cs))).foldlM Machine.step ⟨.idle, ts⟩ =
      (octets cs).foldlM Machine.step m := by
  rw [octets_append, List.foldlM_append, foldlM_quoted]
  refine (foldlM_mark (t := .colon) (ends_idle _) (by simp [marks]) _).trans ?_
  rw [octets_append, List.foldlM_append, hm]
  rfl

mutual

/-- **A value is read as its tokens**, whatever was read before it. -/
theorem exists_foldlM_chars : ∀ (v : Json) (ts : List Token),
    ∃ m, (octets v.chars).foldlM Machine.step ⟨.idle, ts⟩ = some m ∧
      m.Ends (v.tokens.reverse ++ ts)
  | .null, ts => ⟨_, foldlM_null, ends_idle _⟩
  | .bool true, ts => ⟨_, foldlM_true, ends_idle _⟩
  | .bool false, ts => ⟨_, foldlM_false, ends_idle _⟩
  | .num n, ts => by
    rw [chars, tokens]
    exact exists_foldlM_number n ts
  | .str s, ts => by
    rw [chars, tokens]
    exact ⟨_, foldlM_quoted s, ends_idle _⟩
  | .arr [], ts => by
    rw [chars, tokens]
    exact ⟨_, rfl, ends_idle _⟩
  | .arr (v :: vs), ts => by
    obtain ⟨m, hm, hends⟩ := exists_foldlM_chars v (.openBracket :: ts)
    refine ⟨_, ?_, ends_idle _⟩
    rw [chars, tokens, foldlM_mark (t := .openBracket) (ends_idle ts) (by simp [marks]),
      octets_append, List.foldlM_append, hm]
    refine (foldlM_itemsChars vs _ m hends).trans ?_
    simp
  | .obj [], ts => by
    rw [chars, tokens]
    exact ⟨_, rfl, ends_idle _⟩
  | .obj ((k, v) :: ms), ts => by
    obtain ⟨m, hm, hends⟩ :=
      exists_foldlM_chars v (.colon :: .str (some k) :: .openBrace :: ts)
    refine ⟨_, ?_, ends_idle _⟩
    rw [chars, tokens, foldlM_mark (t := .openBrace) (ends_idle ts) (by simp [marks]),
      foldlM_member hm]
    refine (foldlM_membersChars ms _ m hends).trans ?_
    simp

theorem foldlM_itemsChars : ∀ (vs : List Json) (ts : List Token) (m : Machine), m.Ends ts →
    (octets (itemsChars vs)).foldlM Machine.step m =
      some ⟨.idle, (itemsTokens vs).reverse ++ ts⟩
  | [], ts, m, hm => by
    rw [itemsChars, itemsTokens, foldlM_mark (t := .closeBracket) hm (by simp [marks])]
    rfl
  | v :: vs, ts, m, hm => by
    obtain ⟨m', hm', hends⟩ := exists_foldlM_chars v (.comma :: ts)
    rw [itemsChars, itemsTokens, foldlM_mark (t := .comma) hm (by simp [marks]), octets_append,
      List.foldlM_append, hm']
    refine (foldlM_itemsChars vs _ m' hends).trans ?_
    simp

theorem foldlM_membersChars : ∀ (ms : List (String × Json)) (ts : List Token) (m : Machine),
    m.Ends ts → (octets (membersChars ms)).foldlM Machine.step m =
        some ⟨.idle, (membersTokens ms).reverse ++ ts⟩
  | [], ts, m, hm => by
    rw [membersChars, membersTokens, foldlM_mark (t := .closeBrace) hm (by simp [marks])]
    rfl
  | (k, v) :: ms, ts, m, hm => by
    obtain ⟨m', hm', hends⟩ := exists_foldlM_chars v (.colon :: .str (some k) :: .comma :: ts)
    rw [membersChars, membersTokens, foldlM_mark (t := .comma) hm (by simp [marks]),
      foldlM_member hm']
    refine (foldlM_membersChars ms _ m' hends).trans ?_
    simp

end

end Token

/-- **What is written of a value are its tokens.** -/
theorem ofBytes?_octets (v : Json) : Token.ofBytes? (octets v.chars) = some v.tokens := by
  obtain ⟨m, hm, hends⟩ := Token.exists_foldlM_chars v []
  rw [Token.ofBytes?, hm]
  refine hends.finish.trans ?_
  rw [List.append_nil, List.reverse_reverse]

end Json

end LogWatch
