import LogWatch.Proofs.Positional.Readers
import LogWatch.Proofs.Text.Utf8
import LogWatch.Proofs.Time.Dates
import LogWatch.Proofs.Timestamp.Iso
import Mathlib.Data.List.Induction

/-!
# Fields at their positions

What stands between two positions of a line is what a reader of a field takes when it comes to the
first of them, and it leaves what comes from the second on. So a form that is read field by field
can be read by position (`LogWatch.Field.number?_drop` and its like), and reading by position is an
execution that ends with the same field (`LogWatch.Positional.number_eq` and its like).

A number of at most nine digits fits into a word of 32 bits, and so does each number on the way to
it. An instant of a year with four digits is far from the ends of the calendar. What has been read
as a field is of ASCII octets, and so it is readable.
-/

namespace LogWatch

/-! ### Numbers and texts -/

theorem Octet.isDigit_iff {b : UInt8} : isDigit b = true ↔ 48 ≤ b.toNat ∧ b.toNat ≤ 57 := by
  simp only [isDigit, Bool.and_eq_true, decide_eq_true_eq, UInt8.le_iff_toNat_le,
    UInt8.reduceToNat]

theorem Octet.lt_of_isDigit {b : UInt8} (h : isDigit b = true) : b < 0x80 :=
  Nat.lt_of_le_of_lt (isDigit_iff.mp h).2 (by decide)

/-- A number is less than the power of ten that follows its digits. -/
theorem Bytes.decimalValue_lt {ds : Bytes} (h : ∀ b ∈ ds, Octet.isDigit b = true) :
    decimalValue ds < 10 ^ ds.length := by
  induction ds using List.reverseRecOn with
  | nil => exact Nat.one_pos
  | append_singleton ds b ih =>
    have hb := Octet.isDigit_iff.mp (h b (by simp))
    have hds := ih fun c hc => h c (List.mem_append_left _ hc)
    rw [decimalValue, List.foldl_append, ← decimalValue, List.length_append, List.length_singleton,
      Nat.pow_succ]
    change decimalValue ds * 10 + (b.toNat - 48) < _
    omega

/-- ASCII octets are readable. -/
theorem Utf8.isValid_of_ascii {s : Bytes} (h : ∀ b ∈ s, b < 0x80) : isValid s = true := by
  have hstrict (acc : List Char) : (strictOnto acc s).isSome = true := by
    induction s generalizing acc with
    | nil => rw [strictOnto]; rfl
    | cons b s ih =>
      rw [strictOnto_cons (front_of_one (UInt8.lt_iff_toNat_lt.mp (h b List.mem_cons_self)))]
      exact ih (fun c hc => h c (List.mem_cons_of_mem _ hc)) _
  exact hstrict []

/-! ### Reading fields where they stand -/

namespace Field

variable {s : Bytes} {b c : UInt8} {p : UInt8 → Bool} {start stop width n i : Nat}

/-- The number that stands in so many octets from a position on. -/
def numberAt? (s : Bytes) (start width : Nat) : Option Nat :=
  (number? width (s.drop start)).map (·.1)

/-- The month whose name stands at a position. -/
def monthAt? (s : Bytes) (start : Nat) : Option Nat := (month? (s.drop start)).map (·.1)

/-- The octet at a position, if it has a property. -/
def octetAt? (s : Bytes) (i : Nat) (p : UInt8 → Bool) : Option UInt8 := s[i]?.filter p

theorem number?_drop : number? width (s.drop start) =
    (numberAt? s start width).map fun n => (n, s.drop (start + width)) := by
  rw [numberAt?, number?]
  simp only [List.drop_drop]
  split <;> rfl

theorem number?_eq : number? width s = (numberAt? s 0 width).map fun n => (n, s.drop width) := by
  have h : number? width (s.drop 0) = _ := number?_drop
  rwa [List.drop_zero, Nat.zero_add] at h

theorem month?_drop :
    month? (s.drop start) = (monthAt? s start).map fun n => (n, s.drop (start + 3)) := by
  rw [monthAt?, month?]
  split
  · rw [List.drop_drop]
    rfl
  · rfl

theorem month?_eq : month? s = (monthAt? s 0).map fun n => (n, s.drop 3) := by
  have h : month? (s.drop 0) = _ := month?_drop
  rwa [List.drop_zero, Nat.zero_add] at h

theorem octet?_drop :
    octet? b (s.drop i) = (octetAt? s i (· == b)).map fun _ => s.drop (i + 1) := by
  rw [octetAt?]
  by_cases hi : i < s.length
  · rw [List.drop_eq_getElem_cons hi, octet?, List.getElem?_eq_getElem hi, Option.filter_some]
    split <;> rfl
  · rw [List.drop_of_length_le (Nat.le_of_not_lt hi), List.getElem?_eq_none (Nat.le_of_not_lt hi)]
    rfl

theorem oneOf?_drop : oneOf? b c (s.drop i) =
    (octetAt? s i fun d => d == b || d == c).map fun d => (d, s.drop (i + 1)) := by
  rw [octetAt?]
  by_cases hi : i < s.length
  · rw [List.drop_eq_getElem_cons hi, oneOf?, List.getElem?_eq_getElem hi, Option.filter_some]
    split <;> rfl
  · rw [List.drop_of_length_le (Nat.le_of_not_lt hi), List.getElem?_eq_none (Nat.le_of_not_lt hi)]
    rfl

/-! A reader that goes on with what a field leaves goes on at the position after it. -/

section Bind

variable {α : Type}

theorem number?_drop_bind {k : Nat × Bytes → Option α} (i : Nat) :
    (number? width (s.drop i) >>= k) =
      (numberAt? s i width).bind fun n => k (n, s.drop (i + width)) := by
  rw [number?_drop, Option.bind_eq_bind, Option.bind_map]
  rfl

theorem number?_bind_eq {k : Nat × Bytes → Option α} :
    (number? width s >>= k) = (numberAt? s 0 width).bind fun n => k (n, s.drop width) := by
  rw [number?_eq, Option.bind_eq_bind, Option.bind_map]
  rfl

theorem month?_drop_bind {k : Nat × Bytes → Option α} (i : Nat) :
    (month? (s.drop i) >>= k) = (monthAt? s i).bind fun n => k (n, s.drop (i + 3)) := by
  rw [month?_drop, Option.bind_eq_bind, Option.bind_map]
  rfl

theorem month?_bind_eq {k : Nat × Bytes → Option α} :
    (month? s >>= k) = (monthAt? s 0).bind fun n => k (n, s.drop 3) := by
  rw [month?_eq, Option.bind_eq_bind, Option.bind_map]
  rfl

theorem octet?_drop_bind {k : Bytes → Option α} (i : Nat) :
    (octet? b (s.drop i) >>= k) =
      (octetAt? s i (· == b)).bind fun _ => k (s.drop (i + 1)) := by
  rw [octet?_drop, Option.bind_eq_bind, Option.bind_map]
  rfl

theorem oneOf?_drop_bind {k : UInt8 × Bytes → Option α} (i : Nat) :
    (oneOf? b c (s.drop i) >>= k) =
      (octetAt? s i fun d => d == b || d == c).bind fun d => k (d, s.drop (i + 1)) := by
  rw [oneOf?_drop, Option.bind_eq_bind, Option.bind_map]
  rfl

end Bind

theorem octetAt?_eq_some (h : octetAt? s i p = some b) : s[i]? = some b ∧ p b = true :=
  Option.filter_eq_some_iff.mp h

/-- The number is that of the digits from the position on. -/
theorem exists_of_numberAt? (h : numberAt? s start width = some n) :
    ∃ ds : Digits width, n = ds.value ∧ ∃ rest, s.drop start = ds.octets ++ rest := by
  obtain ⟨⟨_, rest⟩, hread, rfl⟩ := Option.map_eq_some_iff.mp h
  obtain ⟨ds, hs, rfl⟩ := number?_eq_some hread
  exact ⟨ds, rfl, rest, hs⟩

theorem numberAt?_lt (h : numberAt? s start width = some n) : n < 10 ^ width := by
  obtain ⟨ds, rfl, -⟩ := exists_of_numberAt? h
  have hlt := Bytes.decimalValue_lt ds.isDigit
  rwa [ds.length_octets] at hlt

/-- No number reaches beyond the end. -/
theorem numberAt?_eq_none (hwidth : 1 ≤ width) (h : s.length < start + width) :
    numberAt? s start width = none := by
  refine Option.eq_none_iff_forall_ne_some.mpr fun n hn => ?_
  obtain ⟨ds, -, rest, hs⟩ := exists_of_numberAt? hn
  have hlength := congrArg List.length hs
  rw [List.length_drop, List.length_append, ds.length_octets] at hlength
  omega

theorem add_le_of_numberAt? (hwidth : 1 ≤ width) (h : numberAt? s start width = some n) :
    start + width ≤ s.length := by
  by_contra hlt
  rw [numberAt?_eq_none hwidth (Nat.lt_of_not_le hlt)] at h
  cases h

/-! What follows a field does not matter. -/

theorem numberAt?_take (h : start + width ≤ n) :
    numberAt? (s.take n) start width = numberAt? s start width := by
  have htake : ((s.take n).drop start).take width = (s.drop start).take width := by
    rw [List.drop_take, List.take_take, Nat.min_eq_left (by omega)]
  rw [numberAt?, numberAt?, number?, number?, htake]
  split <;> rfl

theorem monthAt?_take (h : start + 3 ≤ n) : monthAt? (s.take n) start = monthAt? s start := by
  have htake : ((s.take n).drop start).take 3 = (s.drop start).take 3 := by
    rw [List.drop_take, List.take_take, Nat.min_eq_left (by omega)]
  rw [monthAt?, monthAt?, month?, month?, htake]
  split <;> rfl

theorem octetAt?_take (h : i < n) : octetAt? (s.take n) i p = octetAt? s i p := by
  rw [octetAt?, octetAt?, List.getElem?_take_of_lt h]

/-! ### ASCII octets -/

/-- The octets from one position up to another are ASCII. -/
def IsAscii (s : Bytes) (start stop : Nat) : Prop :=
  ∀ i b, start ≤ i → i < stop → s[i]? = some b → b < 0x80

theorem IsAscii.trans {middle : Nat} (h : IsAscii s start middle) (h' : IsAscii s middle stop) :
    IsAscii s start stop := fun i b hstart hstop hb => by
  obtain hi | hi := Nat.lt_or_ge i middle
  · exact h i b hstart hi hb
  · exact h' i b hi hstop hb

theorem IsAscii.forall_mem_take (h : IsAscii s 0 stop) : ∀ b ∈ s.take stop, b < 0x80 := by
  intro b hb
  obtain ⟨i, hi⟩ := List.mem_iff_getElem?.mp hb
  rw [List.getElem?_take] at hi
  split at hi
  · next hlt => exact h i b (Nat.zero_le i) hlt hi
  · cases hi

/-- Octets that stand from a position on are ASCII if they all are. -/
theorem IsAscii.of_drop {text rest : Bytes} (hs : s.drop start = text ++ rest)
    (htext : ∀ b ∈ text, b < 0x80) : IsAscii s start (start + text.length) := by
  intro i b hstart hstop hb
  have hget : (s.drop start)[i - start]? = some b := by
    rw [List.getElem?_drop, Nat.add_sub_cancel' hstart, hb]
  rw [hs, List.getElem?_append_left (by omega)] at hget
  exact htext b (List.mem_of_getElem? hget)

theorem isAscii_of_numberAt? (h : numberAt? s start width = some n) :
    IsAscii s start (start + width) := by
  obtain ⟨ds, -, rest, hs⟩ := exists_of_numberAt? h
  have hascii := IsAscii.of_drop hs fun b hb => Octet.lt_of_isDigit (ds.isDigit b hb)
  rwa [ds.length_octets] at hascii

theorem isAscii_of_octetAt? (hp : ∀ b, p b = true → b < 0x80) (h : octetAt? s i p = some b) :
    IsAscii s i (i + 1) := by
  intro j c hj hj' hc
  obtain rfl : j = i := by omega
  obtain ⟨hb, hpb⟩ := octetAt?_eq_some h
  rw [hc, Option.some_inj] at hb
  exact hp c (hb ▸ hpb)

theorem isAscii_of_mark (hb : b < 0x80) (h : octetAt? s i (· == b) = some c) :
    IsAscii s i (i + 1) :=
  isAscii_of_octetAt? (fun d (hd : (d == b) = true) => eq_of_beq hd ▸ hb) h

theorem lt_of_beq_or {d : UInt8} (hb : b < 0x80) (hc : c < 0x80) (h : (d == b || d == c) = true) :
    d < 0x80 := by
  obtain rfl | rfl : d = b ∨ d = c := by simpa using h
  · exact hb
  · exact hc

theorem lt_of_mem_monthName : ∀ i, ∀ b ∈ monthName i, b < 0x80 := by
  have hall : ∀ i, (monthName i).all (· < 0x80) = true := by decide +kernel
  exact fun i b hb => of_decide_eq_true (List.all_eq_true.mp (hall i) b hb)

theorem isAscii_of_monthAt? (h : monthAt? s start = some n) : IsAscii s start (start + 3) := by
  obtain ⟨⟨_, rest⟩, hread, rfl⟩ := Option.map_eq_some_iff.mp h
  obtain ⟨i, hs, -⟩ := month?_eq_some hread
  have hascii := IsAscii.of_drop hs (lt_of_mem_monthName i)
  rwa [length_monthName] at hascii

end Field

/-! ### Numbers in words -/

namespace Positional

variable {m : Machine} {line s : Bytes} {b : UInt8} {p : UInt8 → Bool} {start width n i : Nat}

/-- A digit is pushed if there is room for nine. -/
theorem pushDigit_eq (hb : Octet.isDigit b = true) (hn : n < 10 ^ 8) :
    pushDigit n b = pure (n * 10 + Octet.digitValue b) := by
  rw [Octet.isDigit_iff] at hb
  rw [pushDigit, Exec.word_eq (by omega), pure_bind, Exec.minus_eq hb.1, pure_bind,
    Exec.word_eq (by omega)]
  rfl

/-- There is room for nine digits. -/
theorem room_of_cons (hfit : (n + 1) * 10 ^ (s.length + 1) ≤ 10 ^ 9) (hb : Octet.isDigit b = true) :
    n < 10 ^ 8 ∧ (n * 10 + Octet.digitValue b + 1) * 10 ^ s.length ≤ 10 ^ 9 := by
  have hdigit : Octet.digitValue b ≤ 9 := by
    rw [Octet.isDigit_iff] at hb
    rw [Octet.digitValue]
    omega
  have hten : (n + 1) * 10 ^ (s.length + 1) = (n * 10 + 10) * 10 ^ s.length := by
    rw [Nat.pow_succ', ← Nat.mul_assoc, Nat.add_mul, Nat.one_mul]
  rw [hten] at hfit
  refine ⟨?_, Nat.le_trans (Nat.mul_le_mul_right _ (by omega)) hfit⟩
  have hle : n * 10 + 10 ≤ (n * 10 + 10) * 10 ^ s.length :=
    Nat.le_mul_of_pos_right _ (Nat.pow_pos (by decide))
  omega

/-- Digits are put one behind the other. -/
theorem foldlM_pushDigit (hs : ∀ b ∈ s, Octet.isDigit b = true)
    (hfit : (n + 1) * 10 ^ s.length ≤ 10 ^ 9) :
    s.foldlM pushDigit n = pure (s.foldl (fun n b => n * 10 + Octet.digitValue b) n) := by
  induction s generalizing n with
  | nil => rfl
  | cons b s ih =>
    have hb := hs b List.mem_cons_self
    obtain ⟨hroom, hrest⟩ := room_of_cons hfit hb
    rw [List.foldlM_cons, pushDigit_eq hb hroom, pure_bind,
      ih (fun b hb => hs b (List.mem_cons_of_mem _ hb)) hrest]
    rfl

/-- Octets are put one behind the other, up to one that is no digit. -/
theorem foldlM_pushIfDigit (hfit : (n + 1) * 10 ^ s.length ≤ 10 ^ 9) :
    s.foldlM pushIfDigit n = Search.of (if s.all Octet.isDigit then
      some (s.foldl (fun n b => n * 10 + Octet.digitValue b) n) else none) := by
  induction s generalizing n with
  | nil => rfl
  | cons b s ih =>
    rw [List.foldlM_cons, pushIfDigit, List.all_cons]
    cases hb : Octet.isDigit b
    · rw [Search.guard_of_neg (by simp), Search.none_bind, Search.none_bind]
      rfl
    · obtain ⟨hroom, hrest⟩ := room_of_cons hfit hb
      rw [Search.guard_of_pos rfl, pure_bind, Search.lift_bind (pushDigit_eq hb hroom), ih hrest]
      rfl

/-- **A number is read by position** as it is read where it comes first. -/
theorem number_eq (hstop : start + width < 2 * m.half) (hpos : 1 ≤ width) (hwidth : width ≤ 9) :
    number m line start width = Search.of (Field.numberAt? line start width) := by
  rw [number, Search.lift_bind (Exec.position_eq hstop), Exec.piece?]
  by_cases hin : start + width ≤ line.length
  · have hpiece : (line.take (start + width)).drop start = (line.drop start).take width := by
      rw [List.drop_take, Nat.add_sub_cancel_left]
    have hlength : ((line.drop start).take width).length = width := by
      rw [List.length_take, List.length_drop]
      omega
    rw [if_pos ⟨Nat.le_add_right _ _, hin⟩, Search.some_bind, hpiece, foldlM_pushIfDigit,
      Field.numberAt?, Field.number?, hlength]
    · cases ((line.drop start).take width).all Octet.isDigit
      · simp
      · simp [Bytes.decimalValue]
    · rw [hlength, Nat.zero_add, Nat.one_mul]
      exact Nat.pow_le_pow_right (by decide) hwidth
  · rw [if_neg fun h => hin h.2, Search.none_bind,
      Field.numberAt?_eq_none hpos (Nat.lt_of_not_le hin)]

theorem month_eq (hstop : start + 3 ≤ line.length) :
    month line start = Search.of (Field.monthAt? line start) := by
  have hpiece : (line.take (start + 3)).drop start = (line.drop start).take 3 := by
    rw [List.drop_take, Nat.add_sub_cancel_left]
  rw [month, Search.lift_bind (Exec.piece_eq (Nat.le_add_right _ _) hstop), hpiece, Field.monthAt?,
    Field.month?]
  cases Field.monthNames.findIdx? fun name => Bytes.ofString name == (line.drop start).take 3
  · rfl
  · rfl

theorem expect_eq (hi : i < s.length) : expect s i p = Search.of (Field.octetAt? s i p) := by
  rw [expect, Search.lift_bind (Exec.octetAt_eq hi), Field.octetAt?, List.getElem?_eq_getElem hi,
    Option.filter_some]
  by_cases h : p s[i] = true
  · rw [Search.guard_of_pos h, pure_bind, if_pos h]
    rfl
  · rw [Search.guard_of_neg h, Search.none_bind, if_neg h]

/-! What is cut out of a text has the fields of the text. -/

theorem number_take_eq {k : Nat} (h : start + width ≤ k) (hk : k < 2 * m.half) (hpos : 1 ≤ width)
    (hwidth : width ≤ 9) :
    number m (s.take k) start width = Search.of (Field.numberAt? s start width) := by
  rw [number_eq (Nat.lt_of_le_of_lt h hk) hpos hwidth, Field.numberAt?_take h]

theorem month_take_eq {k : Nat} (h : start + 3 ≤ k) (hk : k ≤ s.length) :
    month (s.take k) start = Search.of (Field.monthAt? s start) := by
  rw [month_eq (by rwa [List.length_take, Nat.min_eq_left hk]), Field.monthAt?_take h]

theorem expect_take_eq {k : Nat} (h : i < k) (hk : k ≤ s.length) :
    expect (s.take k) i p = Search.of (Field.octetAt? s i p) := by
  rw [expect_eq (by rwa [List.length_take, Nat.min_eq_left hk]), Field.octetAt?_take h]

/-- The nine digits of the nanoseconds, with zeros for those that are missing. -/
theorem map_range_nine (s : Bytes) :
    (List.range 9).map (fun i => s[i]?.getD 48) = (s ++ List.replicate 9 48).take 9 := by
  refine List.ext_getElem? fun i => ?_
  rw [List.getElem?_map, List.getElem?_take]
  by_cases hi : i < 9
  · rw [List.getElem?_range hi, if_pos hi, Option.map_some]
    by_cases hs : i < s.length
    · rw [List.getElem?_append_left hs, List.getElem?_eq_getElem hs, Option.getD_some]
    · rw [List.getElem?_append_right (Nat.le_of_not_lt hs), List.getElem?_replicate,
        if_pos (by omega), List.getElem?_eq_none (Nat.le_of_not_lt hs), Option.getD_none]
  · rw [List.getElem?_eq_none (by simpa using hi), if_neg hi]
    rfl

theorem isDigit_of_mem_nine (hs : ∀ b ∈ s, Octet.isDigit b = true) :
    ∀ b ∈ (s ++ List.replicate 9 48).take 9, Octet.isDigit b = true := by
  intro b hb
  obtain hb | hb := List.mem_append.mp (List.mem_of_mem_take hb)
  · exact hs b hb
  · rw [List.eq_of_mem_replicate hb]
    rfl

theorem length_nine (s : Bytes) : ((s ++ List.replicate 9 48).take 9).length = 9 := by
  rw [List.length_take, List.length_append, List.length_replicate]
  omega

/-- **The nanoseconds** are summed up within a word. -/
theorem nanoseconds_eq (hs : ∀ b ∈ s, Octet.isDigit b = true) :
    nanoseconds s = pure (Iso.nanosOf s) := by
  have hmap : ((List.range 9).map fun i => s[i]?.getD 48).foldlM pushDigit 0 = nanoseconds s :=
    List.foldlM_map
  rw [← hmap, map_range_nine, foldlM_pushDigit (isDigit_of_mem_nine hs), Iso.nanosOf_eq]
  · rfl
  · rw [length_nine, Nat.zero_add, Nat.one_mul]

theorem nanoseconds_lt (hs : ∀ b ∈ s, Octet.isDigit b = true) : Iso.nanoseconds s < 1000000000 := by
  have hlt := Bytes.decimalValue_lt (isDigit_of_mem_nine hs)
  rwa [length_nine] at hlt

/-! ### Instants -/

theorem lastSecond_eq : lastSecond = 8210266876799 := by decide

/-- A day of a year of four digits is far from the end of the calendar. -/
theorem daysOf_le {w : Written} (hyear : w.year ≤ 9999)
    (hdate : Civil.isDate w.year w.month w.day = true) :
    Civil.daysOf w.year w.month w.day ≤ 3000000 := by
  have hday := Nat.le_trans (Civil.isDate_iff.mp hdate).2.2 (Civil.daysInMonth_le _ _)
  rw [Civil.daysOf]
  split <;> omega

/-- **An instant is that of the calendar** if the year is far from its ends. -/
theorem instant_eq {w : Written} {nanos : Nat} (hyear : 0 ≤ w.year) (hyear' : w.year ≤ 9999)
    (hnanos : nanos < 1000000000) : instant w nanos = Search.of w.seconds? := by
  have hrange : DateTime.yearRange.1 ≤ w.year ∧ w.year ≤ DateTime.yearRange.2 :=
    ⟨Int.le_trans (by decide) hyear, Int.le_trans hyear' (by decide)⟩
  rw [instant, Written.seconds?, Written.isValid, hasDate, decide_eq_true hrange.1,
    decide_eq_true hrange.2, Bool.true_and, Bool.true_and]
  by_cases hdate : Civil.isDate w.year w.month w.day = true
  · have hday := (Civil.isDate_iff.mp hdate).2
    have hmonth := Civil.daysInMonth_le w.year w.month
    by_cases htime : w.hour ≤ 23 ∧ w.minute ≤ 59 ∧ w.second ≤ 60
    · obtain ⟨hhour, hminute, hsecond⟩ := htime
      rw [Search.guard_of_pos ⟨hday.1, by omega, hhour, hminute, hsecond⟩, pure_bind,
        Search.guard_of_pos hdate, pure_bind, Search.guard_of_pos (.inl hnanos), pure_bind, hdate,
        decide_eq_true hhour, decide_eq_true hminute, decide_eq_true hsecond]
      have hdays := daysOf_le hyear' hdate
      simp only [Civil.secondsOf, Bool.and_self, if_true]
      split
      · next hleap =>
        have hfits : Civil.daysOf w.year w.month w.day * 86400 + w.hour * 3600 + w.minute * 60 +
            (min w.second 59 : Nat) + 1 ≤ lastSecond := by
          rw [lastSecond_eq]
          omega
        rw [later?, if_pos hfits, hleap, Int.add_assoc]
        rfl
      · next hcommon =>
        rw [Nat.min_eq_left (by omega)]
        rfl
    · rw [Search.guard_of_neg fun h => htime h.2.2, Search.none_bind, if_neg]
      simpa [hdate, and_assoc] using htime
  · rw [Bool.eq_false_iff.mpr hdate]
    simp only [Bool.false_and, Bool.false_eq_true, if_false]
    by_cases htime : 1 ≤ w.day ∧ w.day ≤ 31 ∧ w.hour ≤ 23 ∧ w.minute ≤ 59 ∧ w.second ≤ 60
    · rw [Search.guard_of_pos htime, pure_bind, Search.guard_of_neg (by simp), Search.none_bind]
    · rw [Search.guard_of_neg htime, Search.none_bind]

/-- **The latest instant of a stamp** is one of the calendar. -/
theorem later_eq {now : WallTime} (hyear : now.year ≤ 9999) :
    later now.seconds (Syslog.futureToleranceDays * 86400) =
      pure (now.seconds + Syslog.futureToleranceDays * 86400) := by
  have hday := (Civil.newYear_yearOf (now.seconds / 86400)).2
  have hle : Civil.newYear (now.year + 1) ≤ Civil.newYear 10000 := Civil.newYear_mono (by omega)
  have hlast : Civil.newYear 10000 = 2932897 := by decide
  have hfits : now.seconds + Syslog.futureToleranceDays * 86400 ≤ lastSecond := by
    rw [lastSecond_eq, Syslog.futureToleranceDays]
    rw [WallTime.year] at hle
    omega
  rw [later, later?, if_pos hfits]

theorem offset_eq {hours minutes : Nat} (hhours : hours < 100) (hminutes : minutes < 100) :
    offset hours minutes = pure ((hours * 3600 + minutes * 60 : Nat) : Int) := by
  rw [offset, Exec.signed_eq (by omega) (by omega), pure_bind, Exec.signed_eq (by omega) (by omega),
    pure_bind, Exec.signed_eq (by omega) (by omega)]
  rfl

theorem directed_eq {sign : UInt8} {seconds : Int} (h : 0 ≤ seconds) (h' : seconds < 1000000) :
    directed sign seconds = pure (if sign = 45 then -seconds else seconds) := by
  rw [directed]
  split
  · exact Exec.signed_eq (by omega) (by omega)
  · rfl

/-! ### Readable texts -/

theorem readable_eq (hs : ∀ b ∈ s, b < 0x80) : readable s = Search.of (some s) := by
  rw [readable, Search.guard_of_pos (Utf8.isValid_of_ascii hs), pure_bind]
  rfl

end Positional

end LogWatch
