import LogWatch.Proofs.Positional.Fields

/-!
# Dates and times at their positions

An ISO timestamp and one of the nginx error log begin with a date and a time of the same width, so
one length is checked and then every octet of both is there. By position the marks between the
fields are looked at before any number is read, where the reader of fields takes each in its turn.
It makes no difference, for a line in which one of them fails is none of either form
(`LogWatch.Positional.dateTimeAt?_bind`).

After that an ISO timestamp has no fixed length, and its positions are counted. What has been read
up to each of them is a part of the line, so no position comes to lie beyond the end
(`LogWatch.Positional.isoTimestamp_eq`).
-/

namespace LogWatch

namespace Positional

variable {m : Machine} {mark : UInt8} {isSeparator : UInt8 → Bool} {line s : Bytes} {w : Written}

/-! ### The long form -/

/-- The date and the time whose fields stand at their positions in a line. -/
def dateTimeAt? (mark : UInt8) (isSeparator : UInt8 → Bool) (line : Bytes) : Option Written := do
  guard (19 ≤ line.length)
  let _ ← Field.octetAt? line 4 (· == mark)
  let _ ← Field.octetAt? line 7 (· == mark)
  let _ ← Field.octetAt? line 10 isSeparator
  let _ ← Field.octetAt? line 13 (· == 58)
  let _ ← Field.octetAt? line 16 (· == 58)
  let year ← Field.numberAt? line 0 4
  let month ← Field.numberAt? line 5 2
  let day ← Field.numberAt? line 8 2
  let hour ← Field.numberAt? line 11 2
  let minute ← Field.numberAt? line 14 2
  let second ← Field.numberAt? line 17 2
  pure ⟨year, month, day, hour, minute, second⟩

theorem dateTime_eq : dateTime m mark isSeparator line =
    Search.of (dateTimeAt? mark isSeparator line) := by
  have hhalf := m.le_half
  refine Search.guard_bind_eq fun hlength => ?_
  refine Search.bind_eq (expect_eq (by omega)) fun _ _ => ?_
  refine Search.bind_eq (expect_eq (by omega)) fun _ _ => ?_
  refine Search.bind_eq (expect_eq (by omega)) fun _ _ => ?_
  refine Search.bind_eq (expect_eq (by omega)) fun _ _ => ?_
  refine Search.bind_eq (expect_eq (by omega)) fun _ _ => ?_
  refine Search.bind_eq (number_eq (by omega) (by decide) (by decide)) fun year hyear => ?_
  refine Search.bind_eq (number_eq (by omega) (by decide) (by decide)) fun _ _ => ?_
  refine Search.bind_eq (number_eq (by omega) (by decide) (by decide)) fun _ _ => ?_
  refine Search.bind_eq (number_eq (by omega) (by decide) (by decide)) fun _ _ => ?_
  refine Search.bind_eq (number_eq (by omega) (by decide) (by decide)) fun _ _ => ?_
  refine Search.bind_eq (number_eq (by omega) (by decide) (by decide)) fun _ _ => ?_
  have hlt := Field.numberAt?_lt hyear
  exact Search.lift_bind (Exec.signed_eq (by omega) (by omega))

/-- The fields may as well be read in the order in which they stand, each mark between them when
its turn comes. -/
theorem dateTimeAt?_bind {α : Type} (k : Written → Option α) :
    ((Field.numberAt? line 0 4).bind fun year =>
      (Field.octetAt? line 4 (· == mark)).bind fun _ =>
      (Field.numberAt? line 5 2).bind fun month =>
      (Field.octetAt? line 7 (· == mark)).bind fun _ =>
      (Field.numberAt? line 8 2).bind fun day =>
      (Field.octetAt? line 10 isSeparator).bind fun _ =>
      (Field.numberAt? line 11 2).bind fun hour =>
      (Field.octetAt? line 13 (· == 58)).bind fun _ =>
      (Field.numberAt? line 14 2).bind fun minute =>
      (Field.octetAt? line 16 (· == 58)).bind fun _ =>
      (Field.numberAt? line 17 2).bind fun second =>
      k ⟨year, month, day, hour, minute, second⟩) =
    (dateTimeAt? mark isSeparator line).bind k := by
  rw [dateTimeAt?]
  simp only [Option.bind_eq_bind]
  by_cases hlength : 19 ≤ line.length
  · cases Field.octetAt? line 4 (· == mark) with
    | none => simp
    | some =>
    cases Field.octetAt? line 7 (· == mark) with
    | none => simp
    | some =>
    cases Field.octetAt? line 10 isSeparator with
    | none => simp
    | some =>
    cases Field.octetAt? line 13 (· == 58) with
    | none => simp
    | some =>
    cases Field.octetAt? line 16 (· == 58) with
    | none => simp
    | some => simp [hlength, Option.bind_assoc]
  · have hnone : Field.numberAt? line 17 2 = none :=
      Field.numberAt?_eq_none (by decide) (by omega)
    simp [hlength, hnone]

theorem dateTime?_eq : Iso.dateTime? line =
    (dateTimeAt? 45 (fun b => b == 84 || b == 32) line).map fun w => (w, line.drop 19) := by
  rw [Option.map_eq_bind, ← dateTimeAt?_bind, Iso.dateTime?]
  exact Field.number?_bind_eq.trans <| Option.bind_congr fun year _ =>
    (Field.octet?_drop_bind 4).trans <| Option.bind_congr fun _ _ =>
    (Field.number?_drop_bind 5).trans <| Option.bind_congr fun month _ =>
    (Field.octet?_drop_bind 7).trans <| Option.bind_congr fun _ _ =>
    (Field.number?_drop_bind 8).trans <| Option.bind_congr fun day _ =>
    (Field.oneOf?_drop_bind 10).trans <| Option.bind_congr fun _ _ =>
    (Field.number?_drop_bind 11).trans <| Option.bind_congr fun hour _ =>
    (Field.octet?_drop_bind 13).trans <| Option.bind_congr fun _ _ =>
    (Field.number?_drop_bind 14).trans <| Option.bind_congr fun minute _ =>
    (Field.octet?_drop_bind 16).trans <| Option.bind_congr fun _ _ =>
    Field.number?_drop_bind 17

theorem errorTimestamp?_eq : Nginx.errorTimestamp? line =
    (dateTimeAt? 47 (· == 32) line).bind fun w => w.seconds?.bind fun seconds =>
      some ⟨Epoch.ofParts seconds 0, line.take 19⟩ := by
  rw [← dateTimeAt?_bind, Nginx.errorTimestamp?]
  exact Field.number?_bind_eq.trans <| Option.bind_congr fun year _ =>
    (Field.octet?_drop_bind 4).trans <| Option.bind_congr fun _ _ =>
    (Field.number?_drop_bind 5).trans <| Option.bind_congr fun month _ =>
    (Field.octet?_drop_bind 7).trans <| Option.bind_congr fun _ _ =>
    (Field.number?_drop_bind 8).trans <| Option.bind_congr fun day _ =>
    (Field.octet?_drop_bind 10).trans <| Option.bind_congr fun _ _ =>
    (Field.number?_drop_bind 11).trans <| Option.bind_congr fun hour _ =>
    (Field.octet?_drop_bind 13).trans <| Option.bind_congr fun _ _ =>
    (Field.number?_drop_bind 14).trans <| Option.bind_congr fun minute _ =>
    (Field.octet?_drop_bind 16).trans <| Option.bind_congr fun _ _ =>
    Field.number?_drop_bind 17

/-- What has been read has a year of four digits, and is written in ASCII. -/
theorem of_dateTimeAt? (hmark : mark < 0x80) (hseparator : ∀ b, isSeparator b = true → b < 0x80)
    (h : dateTimeAt? mark isSeparator line = some w) :
    0 ≤ w.year ∧ w.year ≤ 9999 ∧ 19 ≤ line.length ∧ Field.IsAscii line 0 19 := by
  simp only [dateTimeAt?, Option.bind_eq_bind, Option.bind_eq_some_iff] at h
  obtain ⟨_, hlength, _, h₄, _, h₇, _, h₁₀, _, h₁₃, _, h₁₆, year, hyear, _, hmonth, _, hday, _,
    hhour, _, hminute, _, hsecond, h⟩ := h
  obtain rfl := Option.some.inj h
  have hlt := Field.numberAt?_lt hyear
  refine ⟨Int.natCast_nonneg year, Int.ofNat_le.mpr (Nat.le_of_lt_succ hlt),
    by simpa using hlength, ?_⟩
  exact (Field.isAscii_of_numberAt? hyear).trans <| (Field.isAscii_of_mark hmark h₄).trans <|
    (Field.isAscii_of_numberAt? hmonth).trans <| (Field.isAscii_of_mark hmark h₇).trans <|
    (Field.isAscii_of_numberAt? hday).trans <| (Field.isAscii_of_octetAt? hseparator h₁₀).trans <|
    (Field.isAscii_of_numberAt? hhour).trans <| (Field.isAscii_of_mark (by decide) h₁₃).trans <|
    (Field.isAscii_of_numberAt? hminute).trans <| (Field.isAscii_of_mark (by decide) h₁₆).trans <|
    Field.isAscii_of_numberAt? hsecond

/-- **A timestamp of the error log** is read by position. -/
theorem errorTimestamp_eq : errorTimestamp m line = Search.of (Nginx.errorTimestamp? line) := by
  rw [errorTimestamp?_eq]
  refine Search.bind_eq dateTime_eq fun w hw => ?_
  have hspace (b : UInt8) (hb : (b == 32) = true) : b < 0x80 := by rw [eq_of_beq hb]; decide
  obtain ⟨hyear, hyear', hlength, hascii⟩ := of_dateTimeAt? (by decide) hspace hw
  refine Search.bind_eq (instant_eq hyear hyear' (by decide)) fun seconds _ => ?_
  rw [Search.lift_bind (Exec.piece_eq (Nat.zero_le 19) hlength), List.drop_zero,
    readable_eq hascii.forall_mem_take, Search.some_bind]
  rfl

/-! ### Fractions and zones -/

theorem length_sub_length_drop {n : Nat} (h : n ≤ s.length) :
    s.length - (s.drop n).length = n := by
  rw [List.length_drop, Nat.sub_sub_self h]

/-- The digits after a point end where the rest of the line starts. -/
theorem fraction_eq (hline : line.length < m.half) (hlength : 19 ≤ line.length) :
    fraction m line = Search.of
      ((Iso.fraction? (line.drop 19)).map fun x => (x.1, line.length - x.2.length)) := by
  have hhalf := m.le_half
  rw [fraction]
  simp only [Nat.reduceAdd]
  split
  · next hpoint =>
    obtain ⟨hlt, hget⟩ := List.getElem?_eq_some_iff.mp hpoint
    have hdrop : line.drop 19 = 46 :: line.drop 20 := by rw [List.drop_eq_getElem_cons hlt, hget]
    obtain ⟨digits, hdigits⟩ :
        ∃ digits, digits = (line.drop 20).takeWhile Octet.isDigit := ⟨_, rfl⟩
    obtain ⟨rest, hrest⟩ : ∃ rest, rest = (line.drop 20).dropWhile Octet.isDigit := ⟨_, rfl⟩
    have hsplit : digits ++ rest = line.drop 20 := by
      rw [hdigits, hrest, List.takeWhile_append_dropWhile]
    have hall : ∀ b ∈ digits, Octet.isDigit b = true := fun b hb =>
      List.mem_takeWhile_imp (hdigits ▸ hb)
    have hsum := congrArg List.length hsplit
    rw [List.length_append, List.length_drop] at hsum
    rw [hdrop, Iso.fraction?_point, Search.lift_bind (Exec.position_eq (by omega)),
      Search.lift_bind (Exec.runEnd_eq hline _), ← hdigits, ← hrest]
    by_cases hempty : digits = []
    · rw [hempty, Search.guard_of_neg (by simp), Search.none_bind]
      rfl
    · have hpos := List.length_pos_iff.mpr hempty
      have hpiece : (line.take (20 + digits.length)).drop 20 = digits := by
        rw [List.drop_take, Nat.add_sub_cancel_left, ← hsplit, List.take_left]
      have hstop : line.length - rest.length = 20 + digits.length := by omega
      rw [Search.guard_of_pos (by omega), pure_bind,
        Search.lift_bind (Exec.piece_eq (by omega) (by omega)), hpiece,
        Search.lift_bind (nanoseconds_eq hall), if_neg (by rwa [List.isEmpty_iff]),
        Option.map_some, hstop]
      rfl
  · next hpoint =>
    have hhead : (line.drop 19).head? ≠ some 46 := by rwa [List.head?_drop]
    rw [Iso.fraction?_of_head?_ne hhead, Option.map_some, length_sub_length_drop hlength]
    rfl

/-- The minutes of a zone end where the rest starts. -/
theorem zoneMinutes_eq (hs : 2 ≤ s.length) : zoneMinutes m s =
    Search.of ((Iso.zoneMinutes? (s.drop 2)).map fun x => (x.1, s.length - x.2.length)) := by
  have hhalf := m.le_half
  rw [zoneMinutes]
  split
  · next hcolon =>
    obtain ⟨hlt, hget⟩ := List.getElem?_eq_some_iff.mp hcolon
    have hdrop : s.drop 2 = 58 :: s.drop 3 := by rw [List.drop_eq_getElem_cons hlt, hget]
    rw [hdrop, Iso.zoneMinutes?_colon, Field.number?_drop, Option.map_map, Option.map_eq_bind]
    refine Search.bind_eq (number_eq (by omega) (by decide) (by decide)) fun minutes hminutes => ?_
    have hle := Field.add_le_of_numberAt? (by decide) hminutes
    rw [Function.comp_apply, Function.comp_apply, length_sub_length_drop hle]
    rfl
  · next hcolon =>
    have hhead : (s.drop 2).head? ≠ some 58 := by rwa [List.head?_drop]
    rw [Iso.zoneMinutes?_of_head?_ne hhead, Field.number?_drop, Option.map_some,
      number_eq (by omega) (by decide) (by decide)]
    cases hminutes : Field.numberAt? s 2 2 with
    | none =>
      rw [Option.map_none, Option.getD_none, length_sub_length_drop hs]
      rfl
    | some minutes =>
      have hle := Field.add_le_of_numberAt? (by decide) hminutes
      rw [Option.map_some, Option.getD_some, length_sub_length_drop hle]
      rfl

/-- The offset of a zone ends where the rest starts. -/
theorem zoneOffset_eq : zoneOffset m s =
    Search.of ((Iso.zoneOffset? s).map fun x => (x.1, s.length - x.2.length)) := by
  have hhalf := m.le_half
  rw [Iso.zoneOffset?, Field.number?_eq]
  simp only [Option.bind_eq_bind, Option.bind_map, Option.map_bind, Function.comp_def]
  refine Search.bind_eq (number_eq (by omega) (by decide) (by decide)) fun hours hhours => ?_
  have hle := Field.add_le_of_numberAt? (by decide) hhours
  refine Search.bind_map_eq (zoneMinutes_eq hle) fun x _ => ?_
  by_cases hrange : hours ≤ 23 ∧ x.1 ≤ 59
  · dsimp only
    rw [Search.guard_of_pos hrange, pure_bind,
      Search.lift_bind (offset_eq (by omega) (by omega)), if_pos hrange]
    rfl
  · dsimp only
    rw [Search.guard_of_neg hrange, Search.none_bind, if_neg hrange]
    rfl

/-- The offset of a zone is less than a day. -/
theorem of_zoneOffset? {offset : Int} {rest : Bytes} (h : Iso.zoneOffset? s = some (offset, rest)) :
    0 ≤ offset ∧ offset < 86400 := by
  simp only [Iso.zoneOffset?, Option.bind_eq_bind, Option.bind_eq_some_iff, Prod.exists] at h
  obtain ⟨hours, _, -, minutes, _, -, h⟩ := h
  split at h
  · next hrange =>
    obtain ⟨rfl, -⟩ := Prod.mk.inj (Option.some.inj h)
    omega
  · cases h

/-- After a sign a zone ends where the rest of the line starts, or there is none. -/
theorem signedZone_eq {stop : Nat} (sign : Iso.Sign) (hline : s.length < m.half)
    (hsign : s[stop]? = some sign.octet) : signedZone m s sign.octet stop =
      pure ((Iso.zone (s.drop stop)).1, s.length - (Iso.zone (s.drop stop)).2.length) := by
  obtain ⟨hlt, hget⟩ := List.getElem?_eq_some_iff.mp hsign
  have hdrop : s.drop stop = sign.octet :: s.drop (stop + 1) := by
    rw [List.drop_eq_getElem_cons hlt, hget]
  rw [signedZone, Exec.position_eq (by omega), pure_bind, Exec.piece_eq hlt (Nat.le_refl _),
    pure_bind, List.take_length, zoneOffset_eq, Search.run_of, pure_bind, hdrop, Iso.zone_sign]
  cases hread : Iso.zoneOffset? (s.drop (stop + 1)) with
  | none =>
    rw [← hdrop]
    dsimp only [Option.map_none, Option.getD_none]
    rw [length_sub_length_drop (Nat.le_of_lt hlt)]
  | some x =>
    obtain ⟨hnonneg, hday⟩ := of_zoneOffset? hread
    obtain ⟨text, hrest, -⟩ := Iso.exists_of_zoneOffset? hread
    have hlength := congrArg List.length hrest
    rw [List.length_append, List.length_drop] at hlength
    dsimp only [Option.map_some, Option.getD_some]
    rw [directed_eq hnonneg (by omega), pure_bind, List.length_drop,
      Exec.position_eq (by omega), pure_bind, Exec.position_eq (by omega), pure_bind]
    have hstop : stop + (1 + (s.length - (stop + 1) - x.2.length)) =
        s.length - x.2.length := by omega
    rw [hstop]
    cases sign <;> rfl

/-- **A zone** ends where the rest of the line starts. -/
theorem zone_eq {stop : Nat} (hline : s.length < m.half) (hstop : stop ≤ s.length) :
    zone m s stop =
      pure ((Iso.zone (s.drop stop)).1, s.length - (Iso.zone (s.drop stop)).2.length) := by
  have hhead : (s.drop stop).head? = s[stop]? := List.head?_drop ..
  have hnone (hutc : s[stop]? ≠ some 90)
      (hsign : ∀ sign : Iso.Sign, s[stop]? ≠ some sign.octet) :
      pure (0, stop) = (pure ((Iso.zone (s.drop stop)).1,
        s.length - (Iso.zone (s.drop stop)).2.length) : Exec (Int × Nat)) := by
    rw [Iso.zone_of_head?_ne (hhead ▸ hutc) (hhead ▸ hsign), length_sub_length_drop hstop]
  rw [zone]
  split
  · next hutc =>
    obtain ⟨hlt, hget⟩ := List.getElem?_eq_some_iff.mp hutc
    have hdrop : s.drop stop = 90 :: s.drop (stop + 1) := by
      rw [List.drop_eq_getElem_cons hlt, hget]
    rw [Exec.position_eq (by omega), pure_bind, hdrop]
    change pure (0, stop + 1) = pure (0, s.length - (s.drop (stop + 1)).length)
    rw [length_sub_length_drop hlt]
  · next sign hutc hsign =>
    split
    · next h =>
      obtain rfl | rfl := h
      · exact signedZone_eq .east hline hsign
      · exact signedZone_eq .west hline hsign
    · next h =>
      refine hnone (by rwa [hsign, ne_eq, Option.some_inj]) fun other hother => h ?_
      rw [hsign, Option.some_inj] at hother
      rw [hother]
      cases other
      · exact .inl rfl
      · exact .inr rfl
  · next h =>
    exact hnone (by rw [h]; nofun) fun _ => by rw [h]; nofun

/-! ### ISO timestamps -/

/-- A digit is ASCII. -/
theorem lt_of_mem_octets {width : Nat} (ds : Digits width) : ∀ b ∈ ds.octets, b < 0x80 :=
  fun b hb => Octet.lt_of_isDigit (ds.isDigit b hb)

theorem lt_of_mem_zone {text : Bytes} {offset : Int} (h : Iso.ZoneAt s text offset) :
    ∀ b ∈ text, b < 0x80 := by
  have hsign (sign : Iso.Sign) : sign.octet < 0x80 := by cases sign <;> decide
  cases h with
  | none => nofun
  | zone text offset h =>
    cases h with
    | utc => simp
    | separated sign hours minutes =>
      simp only [List.forall_mem_cons, List.forall_mem_append]
      exact ⟨hsign sign, lt_of_mem_octets hours, by decide, lt_of_mem_octets minutes⟩
    | compact sign hours minutes =>
      simp only [List.forall_mem_cons, List.forall_mem_append]
      exact ⟨hsign sign, lt_of_mem_octets hours, lt_of_mem_octets minutes⟩
    | hours sign hours =>
      simp only [List.forall_mem_cons]
      exact ⟨hsign sign, lt_of_mem_octets hours⟩

/-- The text of an ISO timestamp is ASCII. -/
theorem lt_of_mem_text {t : LineTimestamp} (h : Iso.timestamp? line = some t) :
    ∀ b ∈ t.text, b < 0x80 := by
  obtain ⟨stamp, ⟨-, rest, -, hdigits, hzone⟩, rfl⟩ := Iso.exists_begins_of_timestamp? h
  have hseparator : stamp.dateTime.separator < 0x80 := by
    obtain h | h := stamp.dateTime.isSeparator <;> rw [h] <;> decide
  have hfraction : ∀ b ∈ Iso.pointed stamp.fraction, b < 0x80 := by
    cases hfraction : stamp.fraction with
    | nil => nofun
    | cons d ds =>
      rw [hfraction] at hdigits
      exact List.forall_mem_cons.mpr
        ⟨by decide, fun b hb => Octet.lt_of_isDigit (hdigits.isDigit b hb)⟩
  change ∀ b ∈ stamp.text, b < 0x80
  simp only [Iso.Stamp.text, Iso.DateTime.text, List.forall_mem_append, List.forall_mem_cons]
  exact ⟨⟨lt_of_mem_octets _, by decide, lt_of_mem_octets _, by decide, lt_of_mem_octets _,
    hseparator, lt_of_mem_octets _, by decide, lt_of_mem_octets _, by decide, lt_of_mem_octets _⟩,
    hfraction, lt_of_mem_zone hzone⟩

/-- **An ISO timestamp** is read by position. -/
theorem isoTimestamp_eq (hline : line.length < m.half) :
    isoTimestamp m line = Search.of (Iso.timestamp? line) := by
  have htext (t : LineTimestamp) (ht : Iso.timestamp? line = some t) := lt_of_mem_text ht
  rw [Iso.timestamp?, dateTime?_eq] at htext ⊢
  simp only [Option.bind_eq_bind, Option.bind_map, Function.comp_def] at htext ⊢
  refine Search.bind_eq dateTime_eq fun w hw => ?_
  obtain ⟨hyear, hyear', hlength, -⟩ :=
    of_dateTimeAt? (by decide) (fun _ => Field.lt_of_beq_or (by decide) (by decide)) hw
  refine Search.bind_map_eq (fraction_eq hline hlength) fun x hx => ?_
  obtain ⟨nanos, rest⟩ := x
  obtain ⟨digits, hrest, hdigits, hnanos⟩ := Iso.exists_of_fraction? hx
  have hdrop : line.drop (line.length - rest.length) = rest :=
    (List.suffix_iff_eq_drop.mp ⟨line.take 19 ++ Iso.pointed digits, by
      rw [List.append_assoc, ← hrest, List.take_append_drop]⟩).symm
  have hlt : nanos < 1000000000 := hnanos ▸ nanoseconds_lt hdigits.isDigit
  dsimp only
  rw [Search.lift_bind (zone_eq hline (Nat.sub_le _ _)), hdrop]
  refine Search.bind_eq (instant_eq hyear hyear' hlt) fun seconds hseconds => ?_
  rw [hw, Option.bind_some, hx, Option.bind_some, hseconds, Option.bind_some] at htext
  rw [Search.lift_bind (Exec.piece_eq (Nat.zero_le _) (Nat.sub_le _ _)), List.drop_zero,
    readable_eq (htext _ rfl), Search.some_bind]
  rfl

end Positional

end LogWatch
