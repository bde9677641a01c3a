import LogWatch.RateLimiter
import Mathlib.Data.List.Basic
import Mathlib.Data.List.Induction
import Mathlib.Data.List.TakeWhile

/-!
# Windows of a rate limit

A limiter remembers one window and a number. What it answers to a whole sequence of attempts can be
said without either: the attempts are cut into **windows**, in their order and each of them once,
and of every window the first `limit` pass (`LogWatch.RateLimiter.record_eq_flatMap`). A window
reaches as far as its length allows, counted from the attempt that starts it and not from a tick of
the clock; the next attempt starts the next one.

So two windows start more than a length apart, and a stretch of time that is no longer than a window
meets at most two of them: that is why up to twice the limit can pass in it, and not more. In the
other direction, a limiter that refuses an attempt has let `limit` others pass since its window
started, and that is at most a length ago.
-/

namespace LogWatch

namespace RateLimiter

/-! ### Attempts and answers -/

/-- A limiter after some attempts. -/
def after (l : RateLimiter) (ts : List Moment) : RateLimiter :=
  ts.foldl (fun l t => (l.allow t).2) l

/-- Some attempts, each with whether it passes. -/
def record (l : RateLimiter) : List Moment → List (Moment × Bool)
  | [] => []
  | t :: ts => (t, (l.allow t).1) :: record (l.allow t).2 ts

/-- So many of the attempts pass that are made from one moment to another. -/
def passedBetween (start stop : Moment) (as : List (Moment × Bool)) : Nat :=
  as.countP fun a => a.2 && decide (start ≤ a.1 ∧ a.1 ≤ stop)

/-- The attempts of a window. -/
structure Window where
  /-- The attempt that starts it. -/
  start : Moment
  /-- The attempts after that one, in their order. -/
  later : List Moment

/-- All attempts of a window. -/
def Window.attempts (w : Window) : List Moment := w.start :: w.later

/-- The attempts of a window, of which the first `limit` pass. -/
def Window.record (limit : Nat) (w : Window) : List (Moment × Bool) :=
  (w.attempts.take limit).map (·, true) ++ (w.attempts.drop limit).map (·, false)

/-- A window that starts at a moment reaches as far as another one. -/
def reaches (length : Span) (start t : Moment) : Bool := decide (t ≤ start + length)

/-- **Attempts cut into windows** of a length: each window has the attempts that it reaches. -/
def windows (length : Span) : List Moment → List Window
  | [] => []
  | t :: ts =>
    have := (List.dropWhile_suffix (reaches length t) (l := ts)).length_le
    ⟨t, ts.takeWhile (reaches length t)⟩ :: windows length (ts.dropWhile (reaches length t))
  termination_by ts => ts.length

/-- **What a limit does to attempts.** -/
structure Limits (limit : Nat) (length : Span) (ts : List Moment) : Prop where
  /-- In each window the first `limit` attempts pass, or all if there are not so many, and no
  others. -/
  byWindow : (new limit length).record ts = (windows length ts).flatMap (Window.record limit)
  /-- The window that the limiter remembers is the last one of them. -/
  starts : ((new limit length).after ts).windowStart = (windows length ts).getLast?.map Window.start
  /-- An attempt is refused only when `limit` have passed before it and within a length. -/
  refuses : ∀ before t after, (new limit length).record ts = before ++ (t, false) :: after →
    limit ≤ passedBetween (t - length) t before
  /-- In a stretch of time no longer than a window, at most twice the limit pass. -/
  passes : ∀ start stop, stop ≤ start + length →
    passedBetween start stop ((new limit length).record ts) ≤ 2 * limit

section Attempts

variable {l : RateLimiter} {t : Moment} {ts us : List Moment}

@[simp] theorem after_nil : l.after [] = l := rfl

@[simp] theorem after_cons : l.after (t :: ts) = (l.allow t).2.after ts := rfl

@[simp] theorem after_append : l.after (ts ++ us) = (l.after ts).after us := List.foldl_append

@[simp] theorem record_nil : l.record [] = [] := rfl

theorem record_cons : l.record (t :: ts) = (t, (l.allow t).1) :: (l.allow t).2.record ts := rfl

theorem record_append : l.record (ts ++ us) = l.record ts ++ (l.after ts).record us := by
  induction ts generalizing l with
  | nil => rfl
  | cons t ts ih => rw [List.cons_append, record_cons, record_cons, ih, after_cons]; rfl

end Attempts

/-! ### One window -/

section OneWindow

variable {l : RateLimiter} {start t : Moment} {ts : List Moment}

theorem isOver_of_windowStart (hstart : l.windowStart = some start) :
    l.isOver t = !reaches l.window start t := by
  rw [isOver, hstart, reaches, Bool.eq_iff_iff, decide_eq_true_iff, Bool.not_eq_true',
    decide_eq_false_iff_not]
  lia

/-- An attempt within the window passes if the limit has not been reached. -/
theorem allow_of_reaches (hlimit : l.limit ≠ 0) (hstart : l.windowStart = some start)
    (h : reaches l.window start t = true) : l.allow t =
      if l.count < l.limit then (true, { l with count := l.count + 1 }) else (false, l) := by
  rw [allow, if_neg hlimit, enter, isOver_of_windowStart hstart, h]
  rfl

/-- An attempt beyond the window starts the next one, and passes. -/
theorem allow_of_isOver (hlimit : l.limit ≠ 0) (hover : l.isOver t = true) :
    l.allow t = (true, { l with windowStart := some t, count := 1 }) := by
  rw [allow, if_neg hlimit, enter, if_pos hover]
  exact if_pos (Nat.pos_of_ne_zero hlimit)

/-- **Within a window** attempts pass until the limit is reached, and the window remains. -/
theorem record_of_reaches (hlimit : l.limit ≠ 0) (hstart : l.windowStart = some start)
    (h : ∀ t ∈ ts, reaches l.window start t = true) :
    l.record ts = (ts.take (l.limit - l.count)).map (·, true) ++
        (ts.drop (l.limit - l.count)).map (·, false) ∧
      (l.after ts).limit = l.limit ∧ (l.after ts).window = l.window ∧
      (l.after ts).windowStart = some start := by
  induction ts generalizing l with
  | nil => simp [hstart]
  | cons t ts ih =>
    rw [List.forall_mem_cons] at h
    rw [record_cons, after_cons, allow_of_reaches hlimit hstart h.1]
    split
    · next hcount =>
      obtain ⟨hrecord, hafter⟩ := ih (l := { l with count := l.count + 1 }) hlimit hstart h.2
      obtain ⟨n, hn⟩ : ∃ n, l.limit - l.count = n + 1 := ⟨l.limit - l.count - 1, by omega⟩
      have hless : l.limit - (l.count + 1) = n := by omega
      rw [hrecord, hless, hn]
      exact ⟨rfl, hafter⟩
    · next hcount =>
      obtain ⟨hrecord, hafter⟩ := ih hlimit hstart h.2
      have hnone : l.limit - l.count = 0 := by omega
      rw [hrecord, hnone]
      exact ⟨rfl, hafter⟩

/-- Of a window that starts with the first attempt, the first `limit` attempts pass. -/
theorem record_of_isOver (hlimit : l.limit ≠ 0) (hover : l.isOver t = true)
    (h : ∀ u ∈ ts, reaches l.window t u = true) :
    l.record (t :: ts) = Window.record l.limit ⟨t, ts⟩ ∧
      (l.after (t :: ts)).limit = l.limit ∧ (l.after (t :: ts)).window = l.window ∧
      (l.after (t :: ts)).windowStart = some t := by
  obtain ⟨hrecord, hafter⟩ := record_of_reaches (l := { l with windowStart := some t, count := 1 })
    hlimit rfl h
  rw [record_cons, after_cons, allow_of_isOver hlimit hover]
  refine ⟨?_, hafter⟩
  obtain ⟨n, hn⟩ := Nat.exists_eq_succ_of_ne_zero hlimit
  rw [hrecord, Window.record, Window.attempts, hn]
  rfl

end OneWindow

/-! ### Window by window -/

section Windows

/-- **A limiter goes window by window**: if the attempts begin when its window is over, it answers
each window by itself, and remembers when the last one has started. -/
theorem record_eq_flatMap (l : RateLimiter) (ts : List Moment) (hlimit : l.limit ≠ 0)
    (hover : ∀ t ∈ ts.head?, l.isOver t = true) :
    l.record ts = (windows l.window ts).flatMap (Window.record l.limit) ∧
      (l.after ts).windowStart =
        ((windows l.window ts).getLast?.map Window.start).or l.windowStart := by
  generalize hlength : l.window = length
  induction ts using windows.induct length generalizing l with
  | case1 => simp [windows]
  | case2 t ts hle ih =>
    have hreaches : ∀ u ∈ ts.takeWhile (reaches length t), reaches l.window t u = true := by
      rw [hlength]
      exact fun u hu => List.mem_takeWhile_imp hu
    obtain ⟨hrecord, hlimit', hlength', hstart'⟩ := record_of_isOver hlimit (hover t rfl) hreaches
    -- the attempt that follows comes when the window is over
    have hover' : ∀ u ∈ (ts.dropWhile (reaches length t)).head?,
        (l.after (t :: ts.takeWhile (reaches length t))).isOver u = true := by
      intro u hu
      have hbeyond := List.head?_dropWhile_not (reaches length t) ts
      rw [Option.mem_def.mp hu] at hbeyond
      rw [isOver_of_windowStart hstart', hlength', hlength, hbeyond]
      rfl
    obtain ⟨hrest, hlast⟩ := ih _ (hlimit' ▸ hlimit) hover' (hlength'.trans hlength)
    have hsplit : t :: ts =
        (t :: ts.takeWhile (reaches length t)) ++ ts.dropWhile (reaches length t) := by
      rw [List.cons_append, List.takeWhile_append_dropWhile]
    rw [windows, List.flatMap_cons, List.getLast?_cons, hsplit, record_append, after_append,
      hrecord, hrest, hlast, hlimit', hstart']
    refine ⟨rfl, ?_⟩
    cases (windows length (ts.dropWhile (reaches length t))).getLast? <;> rfl

end Windows

/-! ### How many pass -/

section Counts

variable {limit start stop : Nat} {length : Span} {t : Moment} {ts : List Moment}
  {as bs : List (Moment × Bool)}

@[simp] theorem passedBetween_append :
    passedBetween start stop (as ++ bs) =
      passedBetween start stop as + passedBetween start stop bs :=
  List.countP_append ..

theorem passedBetween_eq_zero (h : ∀ a ∈ as, start ≤ a.1 → stop < a.1) :
    passedBetween start stop as = 0 := by
  rw [passedBetween, List.countP_eq_zero]
  rintro a ha hpass
  rw [Bool.and_eq_true, decide_eq_true_iff] at hpass
  exact absurd hpass.2.2 (Nat.not_le.mpr (h a ha hpass.2.1))

theorem passedBetween_record_le (limit start stop : Nat) (w : Window) :
    passedBetween start stop (w.record limit) ≤ limit := by
  have hrefused : passedBetween start stop ((w.attempts.drop limit).map (·, false)) = 0 := by
    rw [passedBetween, List.countP_map, List.countP_eq_zero]
    exact fun _ _ h => Bool.false_ne_true h
  rw [Window.record, passedBetween_append, hrefused, Nat.add_zero]
  refine List.countP_le_length.trans ?_
  rw [List.length_map, List.length_take]
  exact Nat.min_le_left ..

theorem Window.map_fst_record (w : Window) (limit : Nat) :
    (w.record limit).map Prod.fst = w.attempts := by
  have hfst (b : Bool) : Prod.fst ∘ (fun t : Moment => (t, b)) = id := rfl
  rw [Window.record, List.map_append, List.map_map, List.map_map, hfst, hfst, List.map_id,
    List.map_id, List.take_append_drop]

/-- The windows have all attempts and no others. -/
theorem map_fst_windows (limit : Nat) (length : Span) (ts : List Moment) :
    ((windows length ts).flatMap (Window.record limit)).map Prod.fst = ts := by
  induction ts using windows.induct length with
  | case1 => rw [windows]; rfl
  | case2 t ts hle ih =>
    rw [windows, List.flatMap_cons, List.map_append, ih, Window.map_fst_record, Window.attempts,
      List.cons_append, List.takeWhile_append_dropWhile]

/-- What a window does not reach comes later than that. -/
theorem lt_of_mem_dropWhile (hsorted : ts.Pairwise (· ≤ ·)) :
    ∀ u ∈ ts.dropWhile (reaches length t), t + length < u := by
  have hrest := hsorted.sublist (List.dropWhile_sublist (reaches length t))
  have hbeyond := List.head?_dropWhile_not (reaches length t) ts
  cases hts : ts.dropWhile (reaches length t) with
  | nil => simp
  | cons v vs =>
    rw [hts] at hrest hbeyond
    have hv : t + length < v := Nat.not_le.mp (of_decide_eq_false hbeyond)
    rw [List.forall_mem_cons]
    exact ⟨hv, fun u hu => Nat.lt_of_lt_of_le hv (List.rel_of_pairwise_cons hrest hu)⟩

/-- From its first moment on, a stretch meets one window that starts in it. -/
theorem passedBetween_windows_le_of_le (limit : Nat) (hsorted : ts.Pairwise (· ≤ ·))
    (hstop : stop ≤ start + length) (hstart : ∀ t ∈ ts, start ≤ t) :
    passedBetween start stop ((windows length ts).flatMap (Window.record limit)) ≤ limit := by
  cases ts with
  | nil => simp [windows, passedBetween]
  | cons t ts =>
    rw [windows, List.flatMap_cons, passedBetween_append]
    have hrest : passedBetween start stop
        ((windows length (ts.dropWhile (reaches length t))).flatMap (Window.record limit)) = 0 := by
      refine passedBetween_eq_zero fun a ha _ => ?_
      have hmem := List.mem_map_of_mem (f := Prod.fst) ha
      rw [map_fst_windows] at hmem
      have hlate := lt_of_mem_dropWhile (List.Pairwise.of_cons hsorted) a.1 hmem
      have ht := hstart t List.mem_cons_self
      lia
    rw [hrest]
    exact passedBetween_record_le ..

/-- **A stretch no longer than a window meets at most two windows.** -/
theorem passedBetween_windows_le (hsorted : ts.Pairwise (· ≤ ·)) (hstop : stop ≤ start + length) :
    passedBetween start stop ((windows length ts).flatMap (Window.record limit)) ≤ 2 * limit := by
  induction ts using windows.induct length with
  | case1 => simp [windows, passedBetween]
  | case2 t ts hle ih =>
    have hrest : (ts.dropWhile (reaches length t)).Pairwise (· ≤ ·) :=
      (List.Pairwise.of_cons hsorted).sublist (List.dropWhile_sublist _)
    rw [windows, List.flatMap_cons, passedBetween_append]
    by_cases hstart : ∀ u ∈ ts.dropWhile (reaches length t), start ≤ u
    · -- the stretch may meet the first window and the next one
      have hfirst :=
        passedBetween_record_le limit start stop ⟨t, ts.takeWhile (reaches length t)⟩
      have hnext := passedBetween_windows_le_of_le limit hrest hstop hstart
      omega
    · -- it begins after the first window
      push Not at hstart
      obtain ⟨u, hu, hlt⟩ := hstart
      have hsplit : (t :: ts).Pairwise (· ≤ ·) := hsorted
      rw [← List.takeWhile_append_dropWhile (p := reaches length t) (l := ts),
        ← List.cons_append, List.pairwise_append] at hsplit
      have hfirst : passedBetween start stop
          (Window.record limit ⟨t, ts.takeWhile (reaches length t)⟩) = 0 := by
        refine passedBetween_eq_zero fun a ha hge => ?_
        have hmem := List.mem_map_of_mem (f := Prod.fst) ha
        rw [Window.map_fst_record] at hmem
        have hle := hsplit.2.2 a.1 hmem u hu
        lia
      rw [hfirst, Nat.zero_add]
      exact ih hrest

end Counts

/-! ### Refusals -/

section Refusals

variable {l : RateLimiter} {limit start stop : Nat} {length : Span} {t : Moment} {ts : List Moment}
  {before rest : List (Moment × Bool)} {a : Moment × Bool}

/-- An attempt does not change what a limiter was made with. -/
theorem made_allow : (l.allow t).2.limit = l.limit ∧ (l.allow t).2.window = l.window := by
  rw [allow, enter]
  split
  · exact ⟨rfl, rfl⟩
  · split <;> dsimp only <;> split <;> exact ⟨rfl, rfl⟩

theorem made_after (l : RateLimiter) (ts : List Moment) :
    (l.after ts).limit = l.limit ∧ (l.after ts).window = l.window := by
  induction ts generalizing l with
  | nil => exact ⟨rfl, rfl⟩
  | cons t ts ih =>
    rw [after_cons, (ih _).1, (ih _).2]
    exact made_allow

/-- A limiter that refuses is in a window in which the limit has been reached. -/
theorem exists_of_refused (h : (l.allow t).1 = false) :
    ∃ start, l.windowStart = some start ∧ reaches l.window start t = true ∧ l.limit ≤ l.count := by
  have hlimit : l.limit ≠ 0 := fun hzero => by
    rw [allow, if_pos hzero] at h
    cases h
  have hover : l.isOver t = false := by
    by_contra hover
    rw [Bool.not_eq_false] at hover
    rw [allow_of_isOver hlimit hover] at h
    cases h
  cases hstart : l.windowStart with
  | none =>
    rw [isOver, hstart] at hover
    cases hover
  | some start =>
    rw [isOver_of_windowStart hstart, Bool.not_eq_false'] at hover
    rw [allow_of_reaches hlimit hstart hover] at h
    refine ⟨start, rfl, hover, Nat.not_lt.mp fun hlt => ?_⟩
    rw [if_pos hlt] at h
    cases h

theorem passedBetween_singleton (hstart : start ≤ t) (hstop : t ≤ stop) :
    passedBetween start stop [(t, true)] = 1 := by
  simp [passedBetween, hstart, hstop]

/-- **A limiter has counted no more than has passed** since its window started, of the attempts that
were made until some moment. -/
def CountsSince (l : RateLimiter) (ts : List Moment) (as : List (Moment × Bool)) (stop : Moment) :
    Prop :=
  ∀ start, l.windowStart = some start → start ∈ ts ∧ l.count ≤ passedBetween start stop as

/-- An attempt that passes is counted, as the first one of its window or as one more. -/
theorem CountsSince.allow (hc : CountsSince l ts before stop) (hlimit : l.limit ≠ 0)
    (hlater : ∀ u ∈ ts, u ≤ t) (hle : t ≤ stop) :
    CountsSince (l.allow t).2 (ts ++ [t]) (before ++ [(t, (l.allow t).1)]) stop := by
  intro start hstart
  rw [passedBetween_append]
  cases hover : l.isOver t with
  | true =>
    rw [allow_of_isOver hlimit hover] at hstart ⊢
    obtain rfl : t = start := Option.some.inj hstart
    rw [passedBetween_singleton (Nat.le_refl t) hle]
    exact ⟨by simp, Nat.le_add_left ..⟩
  | false =>
    obtain ⟨opened, hopened⟩ : ∃ opened, l.windowStart = some opened := by
      rw [isOver] at hover
      split at hover
      · cases hover
      · exact ⟨_, ‹_›⟩
    obtain ⟨hmem, hcount⟩ := hc opened hopened
    rw [isOver_of_windowStart hopened, Bool.not_eq_false'] at hover
    rw [allow_of_reaches hlimit hopened hover] at hstart ⊢
    split at hstart
    · next hless =>
      obtain rfl : opened = start := Option.some.inj (hopened.symm.trans hstart)
      rw [if_pos hless, passedBetween_singleton (hlater opened hmem) hle]
      exact ⟨by simp [hmem], Nat.succ_le_succ hcount⟩
    · next hless =>
      obtain rfl : opened = start := Option.some.inj (hopened.symm.trans hstart)
      rw [if_neg hless]
      exact ⟨by simp [hmem], hcount.trans (Nat.le_add_right ..)⟩

theorem countsSince_after (hlimit : limit ≠ 0) (hsorted : ts.Pairwise (· ≤ ·))
    (hstop : ∀ t ∈ ts, t ≤ stop) :
    CountsSince ((new limit length).after ts) ts ((new limit length).record ts) stop := by
  induction ts using List.reverseRecOn with
  | nil => exact fun start hstart => nomatch hstart
  | append_singleton ts t ih =>
    rw [List.pairwise_append] at hsorted
    have hlimit' : ((new limit length).after ts).limit ≠ 0 := by rwa [(made_after _ ts).1]
    rw [after_append, after_cons, after_nil, record_append, record_cons, record_nil]
    exact (ih hsorted.1 fun u hu => hstop u (by simp [hu])).allow hlimit'
      (fun u hu => hsorted.2.2 u hu t (by simp)) (hstop t (by simp))

/-- What stands before an attempt in a record is the record of the attempts before it. -/
theorem exists_of_record_eq (h : l.record ts = before ++ a :: rest) :
    ∃ us vs, ts = us ++ a.1 :: vs ∧ l.record us = before ∧ ((l.after us).allow a.1).1 = a.2 := by
  induction before generalizing l ts with
  | nil =>
    cases ts with
    | nil => simp at h
    | cons t ts =>
      obtain ⟨rfl, -⟩ := List.cons.inj h
      exact ⟨[], ts, rfl, rfl, rfl⟩
  | cons b before ih =>
    cases ts with
    | nil => simp at h
    | cons t ts =>
      obtain ⟨rfl, hrest⟩ := List.cons.inj h
      obtain ⟨us, vs, rfl, rfl, ha⟩ := ih hrest
      exact ⟨t :: us, vs, rfl, rfl, ha⟩

/-- The earlier a stretch begins, the more pass in it. -/
theorem passedBetween_le_passedBetween {earlier : Moment} (h : earlier ≤ start) :
    passedBetween start stop before ≤ passedBetween earlier stop before := by
  refine List.countP_mono_left fun a _ ha => ?_
  rw [Bool.and_eq_true, decide_eq_true_iff] at ha ⊢
  exact ⟨ha.1, Nat.le_trans h ha.2.1, ha.2.2⟩

end Refusals

/-- **A limit does this to attempts in the order of time.** -/
theorem limits_of_pairwise {limit : Nat} {length : Span} {ts : List Moment} (hlimit : limit ≠ 0)
    (hsorted : ts.Pairwise (· ≤ ·)) : Limits limit length ts := by
  obtain ⟨hwindows, hstarts⟩ :=
    record_eq_flatMap (new limit length) ts hlimit fun _ _ => rfl
  change _ = ((windows length ts).getLast?.map Window.start).or none at hstarts
  rw [Option.or_none] at hstarts
  refine ⟨hwindows, hstarts, fun before t after hrecord => ?_, fun start stop hstop => ?_⟩
  · obtain ⟨us, vs, rfl, rfl, hrefused⟩ := exists_of_record_eq hrecord
    obtain ⟨start, hstart, hreaches, hcount⟩ := exists_of_refused hrefused
    rw [List.pairwise_append] at hsorted
    obtain ⟨hmade, hlength⟩ := made_after (new limit length) us
    rw [hmade] at hcount
    rw [hlength] at hreaches
    have hbefore : ∀ u ∈ us, u ≤ t := fun u hu => hsorted.2.2 u hu t List.mem_cons_self
    have hpassed := (countsSince_after hlimit hsorted.1 hbefore start hstart).2
    have hlate : t - length ≤ start := by
      have := of_decide_eq_true hreaches
      change t - length ≤ (start : Nat)
      replace this : t ≤ start + length := this
      lia
    exact (hcount.trans hpassed).trans (passedBetween_le_passedBetween hlate)
  · rw [hwindows]
    exact passedBetween_windows_le hsorted hstop

end RateLimiter

end LogWatch
