import LogWatch.Proofs.Number.Plain
import LogWatch.Proofs.Positional.Dates
import LogWatch.Proofs.Timestamp.Extract

/-!
# No line breaks a reader down

A line is read by position without harm (`LogWatch.Positional.agree_of_year`): whatever its octets
are, each reader ends, and it finds what is read field by field from the front. The readers guard
their positions in different ways. The forms of fixed width check one length first. A priority and
the brackets of a kernel line are looked for among the first few octets. In the search for an
opening bracket the position of the closing one is asked for, and if it is there so is all that
stands between them.

A year has to be known for the syslog form, and the one before it may be tried. So `now` is taken to
be in a year of at most four digits, far from the ends of the calendar.
-/

namespace LogWatch

/-! ### Where an octet first stands -/

/-- The parts around an octet, by its position. -/
theorem Bytes.splitAtFirst?_eq_map {b : UInt8} (s : Bytes) : splitAtFirst? b s =
    (s.findIdx? (· == b)).map fun i => (s.take i, s.drop (i + 1)) := by
  rw [splitAtFirst?, List.span_eq_takeWhile_dropWhile]
  induction s with
  | nil => rfl
  | cons c s ih =>
    rw [List.findIdx?_cons, List.takeWhile_cons, List.dropWhile_cons]
    cases hc : c == b
    · rw [bne, hc]
      simp only [Bool.not_false, if_true]
      cases hdrop : s.dropWhile (· != b) with
      | nil =>
        rw [hdrop] at ih
        simp [Option.map_eq_none_iff.mp ih.symm]
      | cons d rest =>
        rw [hdrop] at ih
        obtain ⟨i, hi, heq⟩ := Option.map_eq_some_iff.mp ih.symm
        obtain ⟨hbefore, hrest⟩ := Prod.mk.inj heq
        simp [hi, ← hbefore, ← hrest]
    · rw [bne, hc]
      rfl

namespace Positional

open Exec (piece)

variable {m : Machine} {now : WallTime} {line s : Bytes}

theorem octet?_eq (b : UInt8) (s : Bytes) :
    Field.octet? b s = (guard (s.head? = some b) : Option Unit).bind fun _ => some (s.drop 1) := by
  cases s with
  | nil => rfl
  | cons c s => by_cases hc : c = b <;> simp [Field.octet?, hc, guard]

/-! ### Priorities -/

/-- **A priority** is read by position, and ends where the rest of the line starts. -/
theorem frontPriority_eq : frontPriority m line = Search.of
    ((Syslog.frontPriority? line).map fun x => (x.1.value, line.length - x.2.length)) := by
  have hhalf := m.le_half
  rw [Syslog.frontPriority?, octet?_eq]
  simp only [Option.bind_eq_bind, Option.map_bind, Function.comp_def, Option.bind_assoc,
    Option.bind_some, Bytes.splitAtFirst?_eq_map, Option.bind_map]
  refine Search.guard_bind_eq fun hopening => ?_
  obtain ⟨s, rfl⟩ : ∃ s, line = 60 :: s := List.head?_eq_some_iff.mp hopening
  rw [List.take_succ_cons, List.findIdx?_cons, if_neg (by decide), List.drop_one, List.tail_cons]
  refine Search.bind_map_eq rfl fun i hi => ?_
  obtain ⟨hlt, -, -⟩ := List.findIdx?_eq_some_iff_getElem.mp hi
  rw [List.length_take] at hlt
  have hdigits : ((s.take 4).take i).length = i := by
    rw [List.length_take, List.length_take]
    omega
  rw [Search.lift_bind (Exec.minus_eq (Nat.le_add_left 1 i)), Nat.add_sub_cancel]
  obtain rfl | hpos := Nat.eq_zero_or_pos i
  · rfl
  have hread : Field.number? i s = _ := @Field.number?_drop (60 :: s) 1 i
  rw [Search.guard_of_pos (by omega), pure_bind, hdigits, if_neg, hread]
  · simp only [Option.map_bind, Option.bind_map, Function.comp_def]
    refine Search.bind_eq (number_eq (by omega) hpos (by omega)) fun value hvalue => ?_
    have hvalue := Field.numberAt?_lt hvalue
    have hpow : 10 ^ i ≤ 10 ^ 3 := Nat.pow_le_pow_right (by decide) (by omega)
    rw [Search.guard_of_pos (by omega), pure_bind]
    by_cases hmax : value ≤ Syslog.maxPriority
    · rw [Search.guard_of_pos hmax, pure_bind, Search.lift_bind (Exec.position_eq (by omega)),
        if_pos hmax, List.drop_drop]
      have hstop : (60 :: s).length - ((60 :: s).drop (1 + i + 1)).length = i + 1 + 1 := by
        rw [List.length_drop, List.length_cons]
        omega
      exact congrArg (fun stop => Search.of (some (value, stop))) hstop.symm
    · rw [Search.guard_of_neg hmax, Search.none_bind, if_neg hmax]
      rfl
  · rw [List.isEmpty_iff_length_eq_zero, hdigits]
    omega

theorem value_le_of_frontPriority? {p : Syslog.Priority} {rest : Bytes}
    (h : Syslog.frontPriority? line = some (p, rest)) : p.value ≤ Syslog.maxPriority := by
  rw [Syslog.frontPriority?] at h
  obtain ⟨inner, h₁, -⟩ := Field.exists_of_octet?_bind h
  obtain ⟨⟨digits, after⟩, -, h₂⟩ := Option.bind_eq_some_iff.mp h₁
  dsimp only at h₂
  split at h₂
  · cases h₂
  · obtain ⟨ds, rest, h₃, -⟩ := Field.exists_of_number?_bind h₂
    dsimp only at h₃
    split at h₃
    · next hmax =>
      obtain ⟨rfl, -⟩ := Prod.mk.inj (Option.some.inj h₃)
      exact hmax
    · cases h₃

/-- **The priority of a line** fits into an octet. -/
theorem priority_eq : priority m line = Search.of (Syslog.priority? line) := by
  rw [Syslog.priority?, Option.map_eq_bind]
  refine Search.bind_map_eq frontPriority_eq fun x hx => ?_
  have hmax : x.1.value ≤ 191 := value_le_of_frontPriority? hx
  dsimp only
  rw [Search.guard_of_pos (by omega), pure_bind]
  rfl

theorem body_eq : body m line = Search.of (Syslog.body? line) := by
  rw [body]
  split
  · next hopening =>
    obtain ⟨s, rfl⟩ := List.head?_eq_some_iff.mp hopening
    have hbody : Syslog.body? (60 :: s) = (Syslog.frontPriority? (60 :: s)).map (·.2) := rfl
    rw [hbody, Option.map_eq_bind]
    refine Search.bind_map_eq frontPriority_eq fun x hx => ?_
    obtain ⟨before, hline⟩ := Syslog.exists_of_body? (hbody.trans (congrArg (Option.map _) hx))
    have hpiece : piece (60 :: s) ((60 :: s).length - x.2.length) (60 :: s).length = pure x.2 := by
      rw [Exec.piece_eq (Nat.sub_le _ _) (Nat.le_refl _), List.take_length,
        ← List.suffix_iff_eq_drop.mp ⟨before, hline.symm⟩]
    exact congrArg liftM hpiece
  · next hopening =>
    rw [Syslog.body?.eq_def]
    split
    · exact absurd rfl hopening
    · rfl

/-! ### Kernel timestamps -/

/-- Nothing is lost by the checks in front of the reading of a number, which is of ASCII octets. -/
theorem decimal_eq {α : Type} {k : Float → Bytes → Search α} (text : Bytes) :
    (do
      guard (text.all fun b => Octet.isDigit b || b == 46)
      guard (text.any Octet.isDigit)
      let text ← readable text
      let epoch ← Search.of (Plain.read? text)
      k epoch text) = Search.of (Plain.read? text) >>= fun epoch => k epoch text := by
  have hnone (h : ¬Plain.IsDecimal text) : Plain.read? text = none := by
    rwa [← Option.not_isSome_iff_eq_none, Plain.read?_isSome_iff]
  by_cases hall : (text.all fun b => Octet.isDigit b || b == 46) = true
  · have hoctets : ∀ b ∈ text, Octet.isDigit b = true ∨ b = 46 := by simpa using hall
    have hascii : ∀ b ∈ text, b < 0x80 := fun b hb => by
      obtain h | rfl := hoctets b hb
      · exact Octet.lt_of_isDigit h
      · decide
    rw [Search.guard_of_pos hall, pure_bind]
    by_cases hany : text.any Octet.isDigit = true
    · rw [Search.guard_of_pos hany, pure_bind, readable_eq hascii, Search.some_bind]
    · rw [Search.guard_of_neg hany, Search.none_bind,
        hnone fun h => hany (List.any_eq_true.mpr h.digit), Search.none_bind]
  · rw [Search.guard_of_neg hall, Search.none_bind, hnone fun h => hall ?_, Search.none_bind]
    simpa using h.isDigit_or

/-- Behind the blanks at its front, a text is cut out, if anything is left. -/
theorem unblanked_eq {α : Type} {inner : Bytes} {k : Bytes → Search α}
    (hnil : k [] = Search.of none) :
    (do
      let start ← Search.of (inner.findIdx? (· != 32))
      let rest ← Exec.piece inner start inner.length
      k rest) = k (inner.dropWhile (· == 32)) := by
  cases hstart : inner.findIdx? (· != 32) with
  | none =>
    have hempty : inner.dropWhile (· == 32) = [] := by
      rw [List.dropWhile_eq_nil_iff]
      simpa using hstart
    rw [hempty, hnil]
    rfl
  | some start =>
    obtain ⟨hle, hfirst⟩ := List.findIdx?_eq_some_iff_findIdx_eq.mp hstart
    have htext : inner.drop start = inner.dropWhile (· == 32) := by
      rw [List.dropWhile_eq_drop_findIdx_not, ← hfirst]
      rfl
    rw [Search.some_bind, Search.lift_bind (Exec.piece_eq (by omega) (Nat.le_refl _)),
      List.take_length, htext]

/-- **The front of a kernel line** is read by position, and ends where the rest starts. -/
theorem kernelFront_eq : kernelFront m line = Search.of
    ((Kernel.front? line).map fun x => (x.1.epoch, x.1.text, line.length - x.2.length)) := by
  have hhalf := m.le_half
  rw [Kernel.front?, octet?_eq]
  simp only [Option.bind_eq_bind, Option.map_bind, Function.comp_def, Option.bind_assoc,
    Option.bind_some, Bytes.splitAtFirst?_eq_map, Option.bind_map]
  refine Search.guard_bind_eq fun hopening => ?_
  obtain ⟨s, rfl⟩ : ∃ s, line = 91 :: s := List.head?_eq_some_iff.mp hopening
  have hwindow : (91 :: s).take (min (91 :: s).length Kernel.bracketLimit) =
      91 :: s.take (Kernel.bracketLimit - 1) := by
    rw [Nat.min_comm, ← List.take_eq_take_min]
    rfl
  rw [Search.lift_bind (Exec.piece_eq (Nat.zero_le _) (Nat.min_le_left _ _)), List.drop_zero,
    hwindow, List.findIdx?_cons, if_neg (by decide), List.drop_one, List.tail_cons]
  refine Search.bind_map_eq rfl fun i hi => ?_
  obtain ⟨hlt, -, -⟩ := List.findIdx?_eq_some_iff_getElem.mp hi
  rw [List.length_take, Kernel.bracketLimit] at hlt
  have htake : (s.take (Kernel.bracketLimit - 1)).take i = s.take i := by
    rw [List.take_take, Nat.min_eq_left (by rw [Kernel.bracketLimit]; omega)]
  have hinner : ((91 :: s).take (i + 1)).drop 1 = s.take i := rfl
  have hlength : (s.take i).length = i := by
    rw [List.length_take]
    omega
  have hstop : (91 :: s).length - (s.drop (i + 1)).length = i + 1 + 1 := by
    rw [List.length_drop, List.length_cons]
    omega
  rw [Search.lift_bind (Exec.piece_eq (Nat.le_add_left 1 i) (by rw [List.length_cons]; omega)),
    hinner, htake]
  generalize s.take i = inner at hlength ⊢
  subst hlength
  rw [unblanked_eq rfl, decimal_eq]
  refine Search.bind_eq rfl fun epoch _ => ?_
  rw [Search.lift_bind (Exec.position_eq (by omega)), hstop.symm]
  rfl

theorem kernelTimestamp_eq : kernelTimestamp m line = Search.of (Kernel.timestamp? line) := by
  rw [Kernel.timestamp?, Option.map_eq_bind]
  exact Search.bind_map_eq kernelFront_eq fun x _ => rfl

/-! ### Timestamps of the nginx access log -/

/-- What is written in brackets at the front, by the positions of its fields. -/
def bracketedAt? (s : Bytes) : Option LineTimestamp := do
  let _ ← Field.octetAt? s 2 (· == 47)
  let _ ← Field.octetAt? s 6 (· == 47)
  let _ ← Field.octetAt? s 11 (· == 58)
  let _ ← Field.octetAt? s 14 (· == 58)
  let _ ← Field.octetAt? s 17 (· == 58)
  let _ ← Field.octetAt? s 20 (· == 32)
  let sign ← Field.octetAt? s 21 fun b => b == 43 || b == 45
  let day ← Field.numberAt? s 0 2
  let month ← Field.monthAt? s 3
  let year ← Field.numberAt? s 7 4
  let hour ← Field.numberAt? s 12 2
  let minute ← Field.numberAt? s 15 2
  let second ← Field.numberAt? s 18 2
  let zoneHours ← Field.numberAt? s 22 2
  let zoneMinutes ← Field.numberAt? s 24 2
  let seconds ← (Written.mk year month day hour minute second).seconds?
  let offset : Int := zoneHours * 3600 + zoneMinutes * 60
  let offset := if sign == 45 then -offset else offset
  pure ⟨Epoch.ofParts seconds 0 - Binary64.ofInt offset, s.take Nginx.accessLength⟩

/-- What stands between the brackets is read where it is cut out. -/
theorem bracketed_eq (hs : Nginx.accessLength ≤ s.length) :
    bracketed m (s.take Nginx.accessLength) = Search.of (bracketedAt? s) := by
  have hlong : 26 < 2 * m.half := by
    have hhalf := m.le_half
    omega
  refine Search.bind_eq (expect_take_eq (by decide) hs) fun _ h₂ => ?_
  refine Search.bind_eq (expect_take_eq (by decide) hs) fun _ h₆ => ?_
  refine Search.bind_eq (expect_take_eq (by decide) hs) fun _ h₁₁ => ?_
  refine Search.bind_eq (expect_take_eq (by decide) hs) fun _ h₁₄ => ?_
  refine Search.bind_eq (expect_take_eq (by decide) hs) fun _ h₁₇ => ?_
  refine Search.bind_eq (expect_take_eq (by decide) hs) fun _ h₂₀ => ?_
  refine Search.bind_eq (expect_take_eq (by decide) hs) fun sign hsign => ?_
  refine Search.bind_eq (number_take_eq (by decide) hlong (by decide) (by decide))
    fun day hday => ?_
  refine Search.bind_eq (month_take_eq (by decide) hs) fun month hmonth => ?_
  refine Search.bind_eq (number_take_eq (by decide) hlong (by decide) (by decide))
    fun year hyear => ?_
  refine Search.bind_eq (number_take_eq (by decide) hlong (by decide) (by decide))
    fun hour hhour => ?_
  refine Search.bind_eq (number_take_eq (by decide) hlong (by decide) (by decide))
    fun minute hminute => ?_
  refine Search.bind_eq (number_take_eq (by decide) hlong (by decide) (by decide))
    fun second hsecond => ?_
  refine Search.bind_eq (number_take_eq (by decide) hlong (by decide) (by decide))
    fun hours hhours => ?_
  refine Search.bind_eq (number_take_eq (by decide) hlong (by decide) (by decide))
    fun minutes hminutes => ?_
  have hyear' := Field.numberAt?_lt hyear
  have hhours' := Field.numberAt?_lt hhours
  have hminutes' := Field.numberAt?_lt hminutes
  rw [Search.lift_bind (Exec.signed_eq (by omega) (by omega))]
  refine Search.bind_eq (instant_eq (Int.natCast_nonneg year)
    (Int.ofNat_le.mpr (Nat.le_of_lt_succ hyear')) (by decide)) fun seconds _ => ?_
  have hascii : Field.IsAscii s 0 26 :=
    (Field.isAscii_of_numberAt? hday).trans <| (Field.isAscii_of_mark (by decide) h₂).trans <|
    (Field.isAscii_of_monthAt? hmonth).trans <| (Field.isAscii_of_mark (by decide) h₆).trans <|
    (Field.isAscii_of_numberAt? hyear).trans <| (Field.isAscii_of_mark (by decide) h₁₁).trans <|
    (Field.isAscii_of_numberAt? hhour).trans <| (Field.isAscii_of_mark (by decide) h₁₄).trans <|
    (Field.isAscii_of_numberAt? hminute).trans <| (Field.isAscii_of_mark (by decide) h₁₇).trans <|
    (Field.isAscii_of_numberAt? hsecond).trans <| (Field.isAscii_of_mark (by decide) h₂₀).trans <|
    (Field.isAscii_of_octetAt?
      (fun _ => Field.lt_of_beq_or (by decide) (by decide)) hsign).trans <|
    (Field.isAscii_of_numberAt? hhours).trans <| Field.isAscii_of_numberAt? hminutes
  rw [Search.lift_bind (offset_eq hhours' hminutes'),
    Search.lift_bind (directed_eq (by omega) (by omega)), Nginx.accessLength,
    readable_eq hascii.forall_mem_take, Search.some_bind]
  simp only [beq_iff_eq]
  rfl

/-- The closing bracket may as well be looked for first, and the marks before the numbers. -/
theorem bracketed?_eq : Nginx.bracketed? s =
    (Field.octetAt? s 26 (· == 93)).bind fun _ => bracketedAt? s := by
  rw [Nginx.bracketed?]
  refine (Field.number?_bind_eq.trans <| Option.bind_congr fun day _ =>
    (Field.octet?_drop_bind 2).trans <| Option.bind_congr fun _ _ =>
    (Field.month?_drop_bind 3).trans <| Option.bind_congr fun month _ =>
    (Field.octet?_drop_bind 6).trans <| Option.bind_congr fun _ _ =>
    (Field.number?_drop_bind 7).trans <| Option.bind_congr fun year _ =>
    (Field.octet?_drop_bind 11).trans <| Option.bind_congr fun _ _ =>
    (Field.number?_drop_bind 12).trans <| Option.bind_congr fun hour _ =>
    (Field.octet?_drop_bind 14).trans <| Option.bind_congr fun _ _ =>
    (Field.number?_drop_bind 15).trans <| Option.bind_congr fun minute _ =>
    (Field.octet?_drop_bind 17).trans <| Option.bind_congr fun _ _ =>
    (Field.number?_drop_bind 18).trans <| Option.bind_congr fun second _ =>
    (Field.octet?_drop_bind 20).trans <| Option.bind_congr fun _ _ =>
    (Field.oneOf?_drop_bind 21).trans <| Option.bind_congr fun sign _ =>
    (Field.number?_drop_bind 22).trans <| Option.bind_congr fun zoneHours _ =>
    (Field.number?_drop_bind 24).trans <| Option.bind_congr fun zoneMinutes _ =>
    Field.octet?_drop_bind 26).trans ?_
  rw [bracketedAt?]
  cases Field.octetAt? s 26 (· == 93) with
  | none => simp only [Option.bind_none, Option.bind_fun_none]
  | some =>
  cases Field.octetAt? s 2 (· == 47) with
  | none => simp only [Option.bind_none, Option.bind_fun_none]; rfl
  | some =>
  cases Field.octetAt? s 6 (· == 47) with
  | none => simp only [Option.bind_none, Option.bind_fun_none]; rfl
  | some =>
  cases Field.octetAt? s 11 (· == 58) with
  | none => simp only [Option.bind_none, Option.bind_fun_none]; rfl
  | some =>
  cases Field.octetAt? s 14 (· == 58) with
  | none => simp only [Option.bind_none, Option.bind_fun_none]; rfl
  | some =>
  cases Field.octetAt? s 17 (· == 58) with
  | none => simp only [Option.bind_none, Option.bind_fun_none]; rfl
  | some =>
  cases Field.octetAt? s 20 (· == 32) with
  | none => simp only [Option.bind_none, Option.bind_fun_none]; rfl
  | some =>
  cases Field.octetAt? s 21 (fun d => d == 43 || d == 45) with
  | none => simp only [Option.bind_none, Option.bind_fun_none]; rfl
  | some => rfl

/-- Behind an opening bracket a timestamp is found if one follows it. -/
theorem accessAt_eq {opening : Nat} (hline : s.length < m.half)
    (hopening : opening < s.length) :
    accessAt m s opening = Search.of (Nginx.bracketed? (s.drop (opening + 1))) := by
  have hhalf := m.le_half
  rw [accessAt, Search.lift_bind (Exec.position_eq (by omega)), Nginx.accessLength,
    Search.lift_bind (Exec.position_eq (by omega)), bracketed?_eq, Field.octetAt?,
    List.getElem?_drop]
  by_cases hclosing : s[opening + 1 + 26]? = some 93
  · obtain ⟨hlt, -⟩ := List.getElem?_eq_some_iff.mp hclosing
    rw [Search.guard_of_pos hclosing, pure_bind, hclosing,
      Search.lift_bind (Exec.piece_eq (by omega) (by omega)), List.drop_take,
      Nat.add_sub_cancel_left]
    refine bracketed_eq ?_
    rw [List.length_drop, Nginx.accessLength]
    omega
  · rw [Search.guard_of_neg hclosing, Search.none_bind]
    cases hoctet : s[opening + 1 + 26]? with
    | none => rfl
    | some b =>
      rw [hoctet, Option.some_inj] at hclosing
      rw [Option.filter_some, if_neg (by simpa using hclosing)]
      rfl

/-- The next opening bracket is tried first. -/
theorem accessTimestamp?_eq (s : Bytes) : Nginx.accessTimestamp? s =
    match s.findIdx? (· == 91) with
    | none => none
    | some ahead =>
      match Nginx.bracketed? (s.drop (ahead + 1)) with
      | some t => some t
      | none => Nginx.accessTimestamp? (s.drop (ahead + 1)) := by
  induction s with
  | nil => rfl
  | cons b s ih =>
    rw [Nginx.accessTimestamp?, List.findIdx?_cons]
    cases b == 91
    · simp only [Bool.false_eq_true, if_false]
      rw [ih]
      cases s.findIdx? (· == 91) <;> rfl
    · rfl

/-- **A timestamp of the access log** is found by position, and the search ends. -/
theorem accessTimestamp_eq (hline : line.length < m.half) :
    accessTimestamp m line = Search.of (Nginx.accessTimestamp? line) := by
  refine congrArg OptionT.mk <| Exec.Round.loop_eq_of_measure
    (fun start t => start ≤ line.length ∧ t = Nginx.accessTimestamp? (line.drop start))
    (fun start => line.length - start) ?_ ⟨Nat.zero_le _, rfl⟩
  rintro start _ ⟨hstart, rfl⟩
  rw [accessRound, Exec.piece_eq hstart (Nat.le_refl _), pure_bind, List.take_length,
    accessTimestamp?_eq]
  cases hahead : (line.drop start).findIdx? (· == 91) with
  | none => exact .inl rfl
  | some ahead =>
    obtain ⟨hlt, -⟩ := List.findIdx?_eq_some_iff_getElem.mp hahead
    rw [List.length_drop] at hlt
    dsimp only
    rw [Exec.position_eq (by omega), pure_bind, accessAt_eq hline (by omega), Search.run_of,
      pure_bind, List.drop_drop, ← Nat.add_assoc]
    cases Nginx.bracketed? (line.drop (start + ahead + 1)) with
    | some t => exact .inl rfl
    | none =>
      refine .inr ⟨start + ahead + 1, ?_, ⟨by omega, rfl⟩, by omega⟩
      dsimp only
      rw [Exec.position_eq (by omega), pure_bind]

/-! ### Syslog timestamps -/

/-- The day of the month that stands in two octets, or in the second of them after a space. -/
def dayAt? (s : Bytes) : Option Nat :=
  if s[4]? = some 32 then Field.numberAt? s 5 1 else Field.numberAt? s 4 2

/-- The short form whose fields stand at their positions. -/
def stampAt? (s : Bytes) : Option (Int → Written) := do
  guard (Syslog.stampLength ≤ s.length)
  let _ ← Field.octetAt? s 3 (· == 32)
  let _ ← Field.octetAt? s 6 (· == 32)
  let _ ← Field.octetAt? s 9 (· == 58)
  let _ ← Field.octetAt? s 12 (· == 58)
  let month ← Field.monthAt? s 0
  let day ← dayAt? s
  let hour ← Field.numberAt? s 7 2
  let minute ← Field.numberAt? s 10 2
  let second ← Field.numberAt? s 13 2
  pure fun year => ⟨year, month, day, hour, minute, second⟩

theorem day_eq (hs : 4 < s.length) : day m s = Search.of (dayAt? s) := by
  have hhalf := m.le_half
  rw [day, Search.lift_bind (Exec.octetAt_eq hs), dayAt?, List.getElem?_eq_getElem hs,
    number_eq (by omega) (by decide) (by decide), number_eq (by omega) (by decide) (by decide)]
  simp only [Option.some_inj]
  split <;> rfl

theorem stamp_eq : stamp m s = Search.of (stampAt? s) := by
  have hhalf := m.le_half
  refine Search.guard_bind_eq fun hlength => ?_
  rw [Syslog.stampLength] at hlength
  refine Search.bind_eq (expect_eq (by omega)) fun _ _ => ?_
  refine Search.bind_eq (expect_eq (by omega)) fun _ _ => ?_
  refine Search.bind_eq (expect_eq (by omega)) fun _ _ => ?_
  refine Search.bind_eq (expect_eq (by omega)) fun _ _ => ?_
  refine Search.bind_eq (month_eq (by omega)) fun month _ => ?_
  refine Search.bind_eq (day_eq (by omega)) fun day _ => ?_
  refine Search.bind_eq (number_eq (by omega) (by decide) (by decide)) fun hour _ => ?_
  refine Search.bind_eq (number_eq (by omega) (by decide) (by decide)) fun minute _ => ?_
  refine Search.bind_eq (number_eq (by omega) (by decide) (by decide)) fun second _ => ?_
  rfl

theorem day?_drop_bind {α : Type} {k : Nat × Bytes → Option α} :
    (Syslog.day? (s.drop 4) >>= k) = (dayAt? s).bind fun n => k (n, s.drop 6) := by
  rw [dayAt?, ← List.head?_drop, Syslog.day?.eq_def]
  split
  · next rest hspace =>
    have hrest : rest = s.drop 5 := by
      rw [← List.tail_drop, hspace, List.tail_cons]
    rw [hspace, List.head?_cons, if_pos rfl, hrest]
    exact Field.number?_drop_bind 5
  · next hspace =>
    rw [if_neg]
    · exact Field.number?_drop_bind 4
    · intro h
      obtain ⟨rest, hrest⟩ := List.head?_eq_some_iff.mp h
      exact hspace rest hrest

theorem stamp?_eq : Syslog.stamp? s = stampAt? s := by
  rw [Syslog.stamp?]
  refine (Field.month?_bind_eq.trans <| Option.bind_congr fun month _ =>
    (Field.octet?_drop_bind 3).trans <| Option.bind_congr fun _ _ =>
    Syslog.day?_bind_eq.symm.trans <| day?_drop_bind.trans <| Option.bind_congr fun day _ =>
    (Field.octet?_drop_bind 6).trans <| Option.bind_congr fun _ _ =>
    (Field.number?_drop_bind 7).trans <| Option.bind_congr fun hour _ =>
    (Field.octet?_drop_bind 9).trans <| Option.bind_congr fun _ _ =>
    (Field.number?_drop_bind 10).trans <| Option.bind_congr fun minute _ =>
    (Field.octet?_drop_bind 12).trans <| Option.bind_congr fun _ _ =>
    Field.number?_drop_bind 13).trans ?_
  rw [stampAt?]
  by_cases hlength : Syslog.stampLength ≤ s.length
  · rw [guard, if_pos hlength]
    cases Field.octetAt? s 3 (· == 32) with
    | none => simp only [Option.bind_none, Option.bind_fun_none]; rfl
    | some =>
    cases Field.octetAt? s 6 (· == 32) with
    | none => simp only [Option.bind_none, Option.bind_fun_none]; rfl
    | some =>
    cases Field.octetAt? s 9 (· == 58) with
    | none => simp only [Option.bind_none, Option.bind_fun_none]; rfl
    | some =>
    cases Field.octetAt? s 12 (· == 58) with
    | none => simp only [Option.bind_none, Option.bind_fun_none]; rfl
    | some => rfl
  · rw [guard, if_neg hlength]
    rw [Syslog.stampLength] at hlength
    have hnone : Field.numberAt? s 13 2 = none := Field.numberAt?_eq_none (by decide) (by omega)
    simp only [hnone, Option.bind_none, Option.bind_fun_none]
    rfl

/-- A stamp is taken in whatever year, and is written in ASCII. -/
theorem of_stampAt? {stamp : Int → Written} (h : stampAt? s = some stamp) :
    (∀ year, (stamp year).year = year) ∧ Syslog.stampLength ≤ s.length ∧
      Field.IsAscii s 0 Syslog.stampLength := by
  simp only [stampAt?, Option.bind_eq_bind, Option.bind_eq_some_iff] at h
  obtain ⟨_, hlength, _, h₃, _, h₆, _, h₉, _, h₁₂, month, hmonth, day, hday, hour, hhour, minute,
    hminute, second, hsecond, h⟩ := h
  obtain rfl := Option.some.inj h
  have hdayText : Field.IsAscii s 4 6 := by
    rw [dayAt?] at hday
    split at hday
    · next hspace =>
      refine Field.IsAscii.trans ?_ (Field.isAscii_of_numberAt? hday)
      exact Field.isAscii_of_mark (b := 32) (by decide)
        (Option.filter_eq_some_iff.mpr ⟨hspace, rfl⟩)
    · exact Field.isAscii_of_numberAt? hday
  refine ⟨fun _ => rfl, by simpa using hlength, ?_⟩
  exact (Field.isAscii_of_monthAt? hmonth).trans <| (Field.isAscii_of_mark (by decide) h₃).trans <|
    hdayText.trans <| (Field.isAscii_of_mark (by decide) h₆).trans <|
    (Field.isAscii_of_numberAt? hhour).trans <| (Field.isAscii_of_mark (by decide) h₉).trans <|
    (Field.isAscii_of_numberAt? hminute).trans <| (Field.isAscii_of_mark (by decide) h₁₂).trans <|
    Field.isAscii_of_numberAt? hsecond

/-- **The year of a stamp** is found within the calendar. -/
theorem inferred_eq {stamp : Int → Written} (hstamp : ∀ year, (stamp year).year = year)
    (hyear : 1 ≤ now.year) (hyear' : now.year ≤ 9999) :
    inferred now stamp = Search.of (Syslog.inferredSeconds? now stamp) := by
  refine Search.bind_eq (instant_eq ?_ ?_ (by decide)) fun seconds _ => ?_
  · rw [hstamp]
    omega
  · rw [hstamp]
    exact hyear'
  rw [Search.lift_bind (later_eq hyear'), Syslog.isFuture]
  simp only [decide_eq_true_eq]
  split
  · rw [Search.lift_bind (Exec.signed_eq (by omega) (by omega))]
    refine instant_eq ?_ ?_ (by decide)
    · rw [hstamp]
      omega
    · rw [hstamp]
      omega
  · rfl

/-- **A syslog timestamp** is read by position. -/
theorem syslogTimestamp_eq (hyear : 1 ≤ now.year) (hyear' : now.year ≤ 9999)
    (hline : line.length < m.half) :
    syslogTimestamp m now line = Search.of (Syslog.timestamp? now line) := by
  refine Search.bind_eq body_eq fun body hbody => ?_
  obtain ⟨before, rfl⟩ := Syslog.exists_of_body? hbody
  rw [List.length_append] at hline
  by_cases hversion : body.take 2 = [49, 32]
  · obtain ⟨rest, rfl⟩ : ∃ rest, body = 49 :: 32 :: rest :=
      ⟨body.drop 2, by rw [← List.take_append_drop 2 body, hversion]; rfl⟩
    have hrest : rest.length < m.half := by
      rw [List.length_cons, List.length_cons] at hline
      omega
    rw [if_pos hversion, Search.lift_bind (Exec.piece_eq (by simp) (Nat.le_refl _)),
      List.take_length]
    exact isoTimestamp_eq hrest
  rw [if_neg hversion]
  split
  · exact absurd rfl hversion
  · rw [stamp?_eq]
    refine Search.bind_eq stamp_eq fun stamp hstamp => ?_
    obtain ⟨hinYear, hlength, hascii⟩ := of_stampAt? hstamp
    refine Search.bind_eq (inferred_eq hinYear hyear hyear') fun seconds _ => ?_
    rw [Search.lift_bind (Exec.piece_eq (Nat.zero_le _) hlength), List.drop_zero,
      readable_eq hascii.forall_mem_take, Search.some_bind]
    rfl

/-! ### The timestamp of any line -/

theorem frontTimestamp_eq {first : UInt8} (hyear : 1 ≤ now.year) (hyear' : now.year ≤ 9999)
    (hline : line.length < m.half) (hfirst : line.head? = some first) :
    frontTimestamp m now first line = Search.of (LineTimestamp.atFront? now line) := by
  obtain ⟨s, rfl⟩ := List.head?_eq_some_iff.mp hfirst
  rw [frontTimestamp, LineTimestamp.atFront?, kernelTimestamp_eq, isoTimestamp_eq hline,
    errorTimestamp_eq, syslogTimestamp_eq hyear hyear' hline, Search.of_orElse]
  simp only [beq_iff_eq, Bool.or_eq_true, Bool.and_eq_true, decide_eq_true_eq]
  split
  · rfl
  · split
    · cases Iso.timestamp? (first :: s) <;> rfl
    · split <;> rfl

theorem timestamp_eq (hyear : 1 ≤ now.year) (hyear' : now.year ≤ 9999)
    (hline : line.length < m.half) :
    timestamp m now line = Search.of (LineTimestamp.extract? now line) := by
  rw [timestamp, LineTimestamp.extract?]
  cases hfirst : line.head? with
  | none =>
    rw [List.head?_eq_none_iff.mp hfirst]
    rfl
  | some first =>
    rw [Search.some_bind, frontTimestamp_eq hyear hyear' hline hfirst, accessTimestamp_eq hline,
      Search.of_orElse]
    cases LineTimestamp.atFront? now line <;> rfl

/-- **What the readers by position find** in a line, seen from `now`: each of them ends, breaks down
nowhere, and finds what is read from the front of the line. -/
structure Agree (m : Machine) (now : WallTime) (line : Bytes) : Prop where
  /-- The timestamp of any line. -/
  timestamp : timestamp m now line = Search.of (LineTimestamp.extract? now line)
  /-- The kernel timestamp. -/
  kernelTimestamp : kernelTimestamp m line = Search.of (Kernel.timestamp? line)
  /-- The ISO timestamp. -/
  isoTimestamp : isoTimestamp m line = Search.of (Iso.timestamp? line)
  /-- The timestamp of the nginx error log. -/
  errorTimestamp : errorTimestamp m line = Search.of (Nginx.errorTimestamp? line)
  /-- The timestamp of the nginx access log. -/
  accessTimestamp : accessTimestamp m line = Search.of (Nginx.accessTimestamp? line)
  /-- The syslog timestamp. -/
  syslogTimestamp : syslogTimestamp m now line = Search.of (Syslog.timestamp? now line)
  /-- The priority. -/
  priority : priority m line = Search.of (Syslog.priority? line)
  /-- The front of a kernel line, which ends where the rest of the line starts. -/
  kernelFront : kernelFront m line = Search.of
    ((Kernel.front? line).map fun x => (x.1.epoch, x.1.text, line.length - x.2.length))

/-- **No line breaks a reader down**: in the years from 1 to 9999 every reader by position ends, in
whatever line the machine can hold. No octet is asked for that is not there, no number leaves its
word, and no search goes on for ever. -/
theorem agree_of_year (m : Machine) (now : WallTime) (line : Bytes) (hyear : 1 ≤ now.year)
    (hyear' : now.year ≤ 9999) (hline : line.length < m.half) : Agree m now line where
  timestamp := timestamp_eq hyear hyear' hline
  kernelTimestamp := kernelTimestamp_eq
  isoTimestamp := isoTimestamp_eq hline
  errorTimestamp := errorTimestamp_eq
  accessTimestamp := accessTimestamp_eq hline
  syslogTimestamp := syslogTimestamp_eq hyear hyear' hline
  priority := priority_eq
  kernelFront := kernelFront_eq

/-- On a machine of 64 bits, on 1 January 2025, the priority is found in `<34>[<` and no
timestamp. -/
theorem agree_priority :
    let m : Machine := ⟨2 ^ 63, by decide⟩
    let now : WallTime := ⟨1735732800, 0⟩
    let line : Bytes := [60, 51, 52, 62, 91, 60]
    1 ≤ now.year ∧ now.year ≤ 9999 ∧ line.length < m.half ∧ Agree m now line ∧
      priority m line = Search.of (some ⟨34⟩) ∧ timestamp m now line = Search.of none := by
  intro m now line
  have hyear : 1 ≤ now.year ∧ now.year ≤ 9999 := by decide
  have hline : line.length < m.half := by decide
  have h : Agree m now line := agree_of_year m now line hyear.1 hyear.2 hline
  refine ⟨hyear.1, hyear.2, hline, h, ?_, ?_⟩
  · rw [h.priority]
    exact congrArg Search.of (by decide)
  · rw [h.timestamp]
    exact congrArg Search.of (by decide +kernel)

end Positional

end LogWatch
