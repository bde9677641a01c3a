import LogWatch.Watchdog
import Mathlib.Data.List.Basic

/-!
# Each silence is told once

A watchdog is touched whenever a line is read, and checked from time to time. Nobody keeps the two
in step: any number of touches may come between two checks, and any number of checks between two
touches. What it tells is nevertheless what happened to the source, each silence once and each
resumption once (`LogWatch.Watchdog.told_once`).

Between two touches the recorded time of the last line stays what it is, so the idle time only
grows, and the alarm is raised at most once. That no resumption is missed is a matter of the
**period**: it is at most half of the threshold, so a check that follows a touch within a period
finds the source busy, and calls off an alarm that is still raised, long before the next silence
could be told.

What the watchdog records of a touch are whole milliseconds, so an idle time is up to one
millisecond too long, and never too short.
-/

namespace LogWatch

namespace Watchdog

/-! ### What happens to a watchdog -/

/-- Something that happens to a watchdog. -/
inductive Occasion
  /-- A line is read. -/
  | touch (now : Moment)
  /-- The watchdog is checked. -/
  | check (now : Moment)

/-- When it happens. -/
def Occasion.moment : Occasion → Moment
  | .touch now => now
  | .check now => now

/-- What a watchdog tells on an occasion, and what becomes of it. -/
def meet (w : Watchdog) : Occasion → Option WatchdogEvent × Watchdog
  | .touch now => (none, w.touch now)
  | .check now => w.check now

/-- What has become of a watchdog after some occasions. -/
def after (w : Watchdog) (os : List Occasion) : Watchdog := os.foldl (fun w o => (w.meet o).2) w

/-- What a watchdog tells on some occasions. -/
def told (w : Watchdog) : List Occasion → List WatchdogEvent
  | [] => []
  | o :: os => (w.meet o).1.toList ++ (w.meet o).2.told os

/-- The idle times of the silences among what is told. -/
def silences (es : List WatchdogEvent) : List Span :=
  es.filterMap fun
    | .silent idle => some idle
    | .resumed => none

/-- The moment of the last check, if the last one before was at `checked`. -/
def lastCheck (checked : Moment) : List Occasion → Moment
  | [] => checked
  | .touch _ :: os => lastCheck checked os
  | .check now :: os => lastCheck now os

/-- The moment of the last occasion, if the last one before was at `now`. -/
def lastMoment (now : Moment) (os : List Occasion) : Moment :=
  os.foldl (fun _ o => o.moment) now

/-- **The occasions are in the order of time, and checks go on**: none comes more than a period
after the check before it. The last occasion before was at `now`, the last check at `checked`. -/
def IsPaced (period : Span) : (checked now : Moment) → List Occasion → Prop
  | _, _, [] => True
  | checked, now, o :: os =>
    now ≤ o.moment ∧ o.moment ≤ checked + period ∧
      IsPaced period (lastCheck checked [o]) o.moment os

section Occasions

variable {w : Watchdog} {os os' : List Occasion} {o : Occasion} {period : Span}
  {checked now : Moment}

@[simp] theorem after_nil : w.after [] = w := rfl

@[simp] theorem after_cons : w.after (o :: os) = (w.meet o).2.after os := rfl

@[simp] theorem after_append : w.after (os ++ os') = (w.after os).after os' :=
  List.foldl_append

@[simp] theorem told_nil : w.told [] = [] := rfl

theorem told_cons : w.told (o :: os) = (w.meet o).1.toList ++ (w.meet o).2.told os := rfl

theorem told_append : w.told (os ++ os') = w.told os ++ (w.after os).told os' := by
  induction os generalizing w with
  | nil => rfl
  | cons o os ih => rw [List.cons_append, told_cons, told_cons, ih, List.append_assoc, after_cons]

@[simp] theorem silences_append (es es' : List WatchdogEvent) :
    silences (es ++ es') = silences es ++ silences es' := List.filterMap_append

theorem lastCheck_append :
    lastCheck checked (os ++ os') = lastCheck (lastCheck checked os) os' := by
  induction os generalizing checked with
  | nil => rfl
  | cons o os ih => cases o <;> exact ih

theorem lastCheck_touches (touches : List Moment) :
    lastCheck checked (touches.map .touch) = checked := by
  induction touches with
  | nil => rfl
  | cons t touches ih => exact ih

/-- Neither a touch nor a check changes what a watchdog was made with. -/
theorem made_meet : (w.meet o).2.threshold = w.threshold ∧ (w.meet o).2.base = w.base := by
  cases o with
  | touch now => exact ⟨rfl, rfl⟩
  | check now =>
    simp only [meet, check]
    split <;> split <;> exact ⟨rfl, rfl⟩

@[simp] theorem threshold_after : (w.after os).threshold = w.threshold := by
  induction os generalizing w with
  | nil => rfl
  | cons o os ih => rw [after_cons, ih, made_meet.1]

@[simp] theorem base_after : (w.after os).base = w.base := by
  induction os generalizing w with
  | nil => rfl
  | cons o os ih => rw [after_cons, ih, made_meet.2]

/-- A schedule is kept piece by piece. -/
theorem isPaced_append : IsPaced period checked now (os ++ os') ↔
    IsPaced period checked now os ∧
      IsPaced period (lastCheck checked os) (lastMoment now os) os' := by
  induction os generalizing checked now with
  | nil => exact ⟨fun h => ⟨trivial, h⟩, And.right⟩
  | cons o os ih =>
    have hlast : lastCheck (lastCheck checked [o]) os = lastCheck checked (o :: os) :=
      lastCheck_append.symm
    rw [List.cons_append, IsPaced, IsPaced, ih, hlast]
    exact ⟨fun ⟨h1, h2, h3, h4⟩ => ⟨⟨h1, h2, h3⟩, h4⟩, fun ⟨⟨h1, h2, h3⟩, h4⟩ => ⟨h1, h2, h3, h4⟩⟩

/-- Time goes on, and the last check has been made. -/
theorem IsPaced.lastCheck_le (h : IsPaced period checked now os) (hle : checked ≤ now) :
    now ≤ lastMoment now os ∧ lastCheck checked os ≤ lastMoment now os := by
  induction os generalizing checked now with
  | nil => exact ⟨Nat.le_refl _, hle⟩
  | cons o os ih =>
    obtain ⟨hnow, -, hrest⟩ := h
    have hcheck : lastCheck checked [o] ≤ o.moment := by
      cases o with
      | touch t => exact Nat.le_trans hle hnow
      | check t => exact Nat.le_refl _
    obtain ⟨hmoment, hlast⟩ := ih hrest hcheck
    exact ⟨Nat.le_trans hnow hmoment, by rwa [← List.singleton_append, lastCheck_append]⟩

end Occasions

/-! ### The time of the last line, as recorded -/

/-- The time of the last line, as the watchdog has recorded it. -/
def recorded (w : Watchdog) : Moment := w.base + Span.ofMillis w.lastReadMillis

section Checks

variable {w : Watchdog} {now t : Moment} {checks : List Moment}

theorem idle_eq : w.idle now = now - w.recorded := rfl

/-- **A touch is recorded to the millisecond**, as long as its milliseconds can be recorded. -/
theorem recorded_touch (hbase : w.base ≤ now)
    (hrange : now < w.base + Span.ofMillis (maxMillis + 1)) :
    (w.touch now).recorded ≤ now ∧ now < (w.touch now).recorded + Span.ofMillis 1 := by
  have hmillis : (now - w.base) / 1000000 ≤ maxMillis := by
    rw [Span.ofMillis] at hrange
    lia
  have heq : (w.touch now).recorded = w.base + (now - w.base) / 1000000 * 1000000 := by
    rw [recorded, touch, Nat.min_eq_left hmillis, Span.ofMillis]
  rw [heq, Span.ofMillis]
  lia

/-- A check that finds the source busy calls the alarm off. -/
theorem check_of_lt (h : w.idle now < w.threshold) :
    w.check now = (if w.alerted then some .resumed else none, { w with alerted := false }) := by
  simp only [check, if_neg (Nat.not_le.mpr h)]
  split
  · rfl
  · next halerted =>
    obtain ⟨threshold, base, millis, alerted⟩ := w
    obtain rfl : alerted = false := Bool.eq_false_iff.mpr halerted
    rfl

/-- A check that finds the source silent raises the alarm. -/
theorem check_of_le (h : w.threshold ≤ w.idle now) :
    w.check now =
      (if w.alerted then none else some (.silent (w.idle now)), { w with alerted := true }) := by
  simp only [check, if_pos h]
  split
  · next halerted =>
    obtain ⟨threshold, base, millis, alerted⟩ := w
    obtain rfl : alerted = true := halerted
    rfl
  · rfl

/-- **A silence is told by a check that finds it, and of the time that the source has been idle.**
-/
theorem check_eq_silent {idle : Span} (h : (w.check now).1 = some (.silent idle)) :
    idle = w.idle now ∧ w.threshold ≤ w.idle now ∧ w.alerted = false ∧
      (w.check now).2 = { w with alerted := true } := by
  rcases Nat.lt_or_ge (w.idle now) w.threshold with hlt | hle
  · rw [check_of_lt hlt] at h
    split at h <;> simp at h
  · rw [check_of_le hle] at h ⊢
    split at h
    · simp at h
    · next halerted =>
      obtain rfl : w.idle now = idle := by simpa using h
      exact ⟨rfl, hle, Bool.eq_false_iff.mpr halerted, rfl⟩

/-- Checks leave the recorded time as it is. -/
@[simp] theorem recorded_after_checks : (w.after (checks.map .check)).recorded = w.recorded := by
  induction checks generalizing w with
  | nil => rfl
  | cons t checks ih =>
    rw [List.map_cons, after_cons, ih]
    rcases Nat.lt_or_ge (w.idle t) w.threshold with hlt | hle
    · rw [meet, check_of_lt hlt]
      rfl
    · rw [meet, check_of_le hle]
      rfl

/-- **A silence that has been told is told no more.** -/
theorem meet_checks_of_alerted (halerted : w.alerted = true)
    (h : ∀ t ∈ checks, w.threshold ≤ w.idle t) :
    w.told (checks.map .check) = [] ∧ w.after (checks.map .check) = w := by
  induction checks with
  | nil => exact ⟨rfl, rfl⟩
  | cons t checks ih =>
    obtain ⟨htold, hafter⟩ := ih fun t ht => h t (List.mem_cons_of_mem _ ht)
    have hmeet : w.meet (.check t) = (none, w) := by
      rw [meet, check_of_le (h t List.mem_cons_self), if_pos halerted, ← halerted]
    rw [List.map_cons, told_cons, after_cons, hmeet]
    exact ⟨htold, hafter⟩

/-- Where no check finds the source silent, no silence is told. -/
theorem silences_of_busy (h : ∀ t ∈ checks, w.idle t < w.threshold) :
    silences (w.told (checks.map .check)) = [] := by
  induction checks generalizing w with
  | nil => rfl
  | cons t checks ih =>
    have hmeet := check_of_lt (h t List.mem_cons_self)
    rw [List.map_cons, told_cons, meet, hmeet, silences_append, ih, List.append_nil]
    · cases w.alerted <;> rfl
    · exact fun t ht => h t (List.mem_cons_of_mem _ ht)

/-- **Checks in the order of time tell of one silence at most.** -/
theorem length_silences_le (h : checks.Pairwise (· ≤ ·)) :
    (silences (w.told (checks.map .check))).length ≤ 1 := by
  induction checks generalizing w with
  | nil => exact Nat.zero_le _
  | cons t checks ih =>
    obtain ⟨hfirst, hrest⟩ := List.pairwise_cons.mp h
    rw [List.map_cons, told_cons, meet, silences_append, List.length_append]
    rcases Nat.lt_or_ge (w.idle t) w.threshold with hlt | hle
    · have hbusy : silences (w.check t).1.toList = [] := by
        rw [check_of_lt hlt]
        cases w.alerted <;> rfl
      rw [hbusy, List.length_nil, Nat.zero_add]
      exact ih hrest
    · -- what is silent now is so at every later check
      have hquiet : ((w.check t).2.told (checks.map .check)) = [] := by
        rw [check_of_le hle]
        refine (meet_checks_of_alerted rfl fun u hu => ?_).1
        exact Nat.le_trans hle (Nat.sub_le_sub_right (hfirst u hu) _)
      rw [hquiet, check_of_le hle]
      cases w.alerted
      · exact Nat.le_refl _
      · exact Nat.zero_le _

/-- Where no alarm is raised and a check finds the source silent, a silence is told. -/
theorem length_silences_pos (halerted : w.alerted = false) (ht : t ∈ checks)
    (h : w.threshold ≤ w.idle t) : 0 < (silences (w.told (checks.map .check))).length := by
  induction checks generalizing w with
  | nil => simp at ht
  | cons u checks ih =>
    rw [List.map_cons, told_cons, meet, silences_append, List.length_append]
    rcases Nat.lt_or_ge (w.idle u) w.threshold with hlt | hle
    · have hne : t ≠ u := fun heq => absurd h (Nat.not_le.mpr (heq ▸ hlt))
      have hrest := ih (w := { w with alerted := false }) rfl
        ((List.mem_cons.mp ht).resolve_left hne) h
      rw [check_of_lt hlt]
      exact Nat.lt_add_left _ hrest
    · rw [check_of_le hle, halerted]
      exact Nat.lt_add_right _ Nat.one_pos

end Checks

/-! ### From one touch to the next -/

section Silences

variable {w : Watchdog} {pace : Span} {checked now a b c s : Moment} {idle : Span}
  {checks touches : List Moment} {rest : List Occasion}

/-- **A check within a period of a touch finds the source busy**: the period is at most half of the
threshold, and what is lost in recording is less than the other half. -/
theorem idle_lt_of_period (hthreshold : Span.ofMillis 200 ≤ w.threshold)
    (ha : a < w.recorded + Span.ofMillis 1) (hnow : now ≤ a + w.period) :
    w.idle now < w.threshold := by
  have hhalf : w.period + Span.ofMillis 1 ≤ w.threshold ∧ 0 < w.threshold := by
    simp only [period, minPeriod, maxPeriod, Span.ofMillis, Span.ofSeconds, Span] at hthreshold ⊢
    omega
  rw [idle_eq]
  lia

/-- Checks are made in the order of time. -/
theorem IsPaced.pairwise_checks (h : IsPaced pace checked now (checks.map .check ++ rest)) :
    (now :: checks).Pairwise (· ≤ ·) := by
  induction checks generalizing checked now with
  | nil => exact List.pairwise_singleton _ _
  | cons t checks ih =>
    obtain ⟨hnow, -, hrest⟩ := h
    have htail := ih hrest
    refine List.pairwise_cons.mpr ⟨?_, htail⟩
    rintro u (_ | ⟨_, hu⟩)
    · exact hnow
    · exact Nat.le_trans hnow ((List.pairwise_cons.mp htail).1 u hu)

/-- The checks between the last occasion and a touch lie between the two; the first of them comes
within a period of the check before, and the touch within a period of the last of them. -/
theorem IsPaced.order_checks
    (h : IsPaced pace checked now (checks.map .check ++ .touch b :: rest)) :
    now ≤ b ∧ (∀ t ∈ checks, now ≤ t ∧ t ≤ b) ∧
      (∀ t ∈ checks.head?, t ≤ checked + pace) ∧ b ≤ checks.getLastD checked + pace := by
  induction checks generalizing checked now with
  | nil =>
    obtain ⟨hnow, hb, -⟩ := h
    exact ⟨hnow, by simp, by simp, hb⟩
  | cons t checks ih =>
    obtain ⟨hnow, ht, hrest⟩ := h
    obtain ⟨hb, hall, -, hlast⟩ := ih hrest
    refine ⟨Nat.le_trans hnow hb, ?_, ?_, ?_⟩
    · rintro u (_ | ⟨_, hu⟩)
      · exact ⟨hnow, hb⟩
      · exact ⟨Nat.le_trans hnow (hall u hu).1, (hall u hu).2⟩
    · rintro u ⟨⟩
      exact ht
    · rwa [List.getLastD_cons]

/-- **A silence that is long enough is told**: the first check behind a touch finds the source busy,
and the last one before the next touch finds it silent. -/
theorem length_silences_of_long (hthreshold : Span.ofMillis 200 ≤ w.threshold)
    (hrecorded : w.recorded ≤ a ∧ a < w.recorded + Span.ofMillis 1) (hchecked : checked ≤ a)
    (h : IsPaced w.period checked a (checks.map .check ++ .touch b :: rest))
    (hlong : a + w.threshold + w.period ≤ b) :
    (silences (w.told (checks.map .check))).length = 1 := by
  obtain ⟨-, -, hfirst, hlast⟩ := h.order_checks
  refine Nat.le_antisymm (length_silences_le h.pairwise_checks.of_cons) ?_
  cases checks with
  | nil =>
    rw [List.getLastD_nil] at hlast
    have : Span.ofMillis 200 = 200000000 := rfl
    lia
  | cons t checks =>
    have hbusy : w.idle t < w.threshold :=
      idle_lt_of_period hthreshold hrecorded.2
        (Nat.le_trans (hfirst t rfl) (Nat.add_le_add_right hchecked _))
    have hsilent : w.threshold ≤ w.idle (checks.getLastD t) := by
      rw [List.getLastD_cons] at hlast
      rw [idle_eq]
      lia
    have hmem : checks.getLastD t ∈ checks := by
      rcases List.mem_cons.mp (List.getLastD_mem_cons (l := checks) (a := t)) with heq | hmem
      · exact absurd (heq ▸ hsilent) (Nat.not_le.mpr hbusy)
      · exact hmem
    rw [List.map_cons, told_cons, meet, check_of_lt hbusy, silences_append, List.length_append]
    exact Nat.lt_add_left _ (length_silences_pos rfl hmem hsilent)

/-- A silence that is too short is not told. -/
theorem silences_of_short (hrecorded : a < w.recorded + Span.ofMillis 1)
    (h : IsPaced w.period checked a (checks.map .check ++ .touch b :: rest))
    (hshort : b + Span.ofMillis 1 ≤ a + w.threshold) :
    silences (w.told (checks.map .check)) = [] := by
  obtain ⟨-, hall, -, -⟩ := h.order_checks
  refine silences_of_busy fun t ht => ?_
  have ht := hall t ht
  have hmilli : Span.ofMillis 1 = 1000000 := rfl
  rw [idle_eq]
  lia

/-- Of some touches only the last one is remembered. -/
theorem meet_touches (touches : List Moment) :
    w.told (.touch b :: touches.map .touch) = [] ∧
      w.after (.touch b :: touches.map .touch) = w.touch (touches.getLastD b) := by
  induction touches generalizing w b with
  | nil => exact ⟨rfl, rfl⟩
  | cons t touches ih =>
    obtain ⟨htold, hafter⟩ := ih (w := w.touch b) (b := t)
    rw [List.map_cons, told_cons, after_cons, List.getLastD_cons]
    exact ⟨htold, hafter⟩

theorem IsPaced.le_touches (h : IsPaced pace checked now (touches.map .touch ++ rest)) :
    ∀ t ∈ touches, now ≤ t := by
  induction touches generalizing now with
  | nil => simp
  | cons u touches ih =>
    obtain ⟨hnow, -, hrest⟩ := h
    rintro t (_ | ⟨_, ht⟩)
    · exact hnow
    · exact Nat.le_trans hnow (ih hrest t ht)

/-- **After a silence the next thing to be told is that lines come again**, and it is told at the
first check behind the next touch. -/
theorem resumes (hthreshold : Span.ofMillis 200 ≤ w.threshold) (hbase : w.base ≤ s)
    (hrange : ∀ t ∈ b :: touches, t < w.base + Span.ofMillis (maxMillis + 1))
    (hsilent : (w.check s).1 = some (.silent idle))
    (h : IsPaced w.period s s
      (checks.map .check ++ .touch b :: (touches.map .touch ++ .check c :: rest))) :
    let between := checks.map .check ++ .touch b :: touches.map .touch
    (w.check s).2.told between = [] ∧
      (((w.check s).2.after between).check c).1 = some .resumed := by
  intro between
  obtain ⟨-, hle, -, hcheck⟩ := check_eq_silent hsilent
  obtain ⟨hb, hall, -, -⟩ := h.order_checks
  -- the checks find what has been told, and the touches tell nothing
  have hquiet (t : Moment) (ht : t ∈ checks) :
      (w.check s).2.threshold ≤ (w.check s).2.idle t := by
    rw [hcheck]
    exact Nat.le_trans hle (Nat.sub_le_sub_right (hall t ht).1 _)
  have halerted : (w.check s).2.alerted = true := by rw [hcheck]
  obtain ⟨htold, hafter⟩ := meet_checks_of_alerted halerted hquiet
  obtain ⟨htold', hafter'⟩ := meet_touches (w := (w.check s).2) (b := b) touches
  refine ⟨by rw [told_append, htold, hafter, htold', List.nil_append], ?_⟩
  rw [after_append, hafter, hafter', hcheck]
  -- the last touch is not before the first one, and the check comes within a period of that one
  obtain ⟨last, hlast⟩ : ∃ last, last = touches.getLastD b := ⟨_, rfl⟩
  have hmem : last ∈ b :: touches := hlast ▸ List.getLastD_mem_cons
  obtain ⟨hchecks, hrest⟩ := isPaced_append.mp h
  obtain ⟨-, -, hrest⟩ := hrest
  have hlastb : b ≤ last := by
    rcases List.mem_cons.mp hmem with heq | hmem
    · exact Nat.le_of_eq heq.symm
    · exact hrest.le_touches last hmem
  have hc : c ≤ b + w.period := by
    obtain ⟨-, -, hc, -⟩ := isPaced_append.mp hrest
    have hcheckb : lastCheck s (checks.map .check) ≤ b := by
      have := (hchecks.lastCheck_le (Nat.le_refl s)).2
      exact Nat.le_trans this (isPaced_append.mp h).2.1
    rw [lastCheck_touches] at hc
    exact Nat.le_trans hc (Nat.add_le_add_right hcheckb _)
  have hlt : last <
      (Watchdog.touch { w with alerted := true } last).recorded + Span.ofMillis 1 :=
    (recorded_touch (Nat.le_trans hbase (Nat.le_trans hb hlastb)) (hrange last hmem)).2
  have hbusy : (Watchdog.touch { w with alerted := true } last).idle c < w.threshold :=
    idle_lt_of_period hthreshold hlt (Nat.le_trans hc (Nat.add_le_add_right hlastb _))
  rw [← hlast, check_of_lt hbusy]
  rfl

/-- What becomes of the alarm, and what is told of it. -/
theorem meet_cases (w : Watchdog) (o : Occasion) :
    ((w.meet o).1 = none ∧ (w.meet o).2.alerted = w.alerted) ∨
    (∃ idle, (w.meet o).1 = some (.silent idle) ∧ w.alerted = false ∧
      (w.meet o).2.alerted = true) ∨
    ((w.meet o).1 = some .resumed ∧ w.alerted = true ∧ (w.meet o).2.alerted = false) := by
  cases o with
  | touch now => exact .inl ⟨rfl, rfl⟩
  | check now =>
    rw [meet]
    rcases Nat.lt_or_ge (w.idle now) w.threshold with hlt | hle
    · rw [check_of_lt hlt]
      cases halerted : w.alerted
      · exact .inl ⟨rfl, rfl⟩
      · exact .inr (.inr ⟨rfl, rfl, rfl⟩)
    · rw [check_of_le hle]
      cases halerted : w.alerted
      · exact .inr (.inl ⟨_, rfl, rfl, rfl⟩)
      · exact .inl ⟨rfl, rfl⟩

/-- **Silences and resumptions alternate**, and it is a silence that comes first unless the alarm is
raised to begin with. -/
theorem told_alternates (os : List Occasion) {i : Nat} {e : WatchdogEvent}
    (h : (w.told os)[i]? = some e) :
    e = .resumed ↔ (i + if w.alerted then 1 else 0) % 2 = 1 := by
  induction os generalizing w i with
  | nil => simp at h
  | cons o os ih =>
    rw [told_cons] at h
    rcases meet_cases w o with ⟨hnone, hsame⟩ | ⟨idle, hsome, hbefore, hafter⟩ |
      ⟨hsome, hbefore, hafter⟩
    · rw [hnone] at h
      rw [← hsame]
      exact ih h
    · rw [hsome] at h
      rw [hbefore]
      cases i with
      | zero =>
        obtain rfl : WatchdogEvent.silent idle = e := Option.some.inj h
        simp
      | succ i =>
        rw [ih h, hafter]
        simp
    · rw [hsome] at h
      rw [hbefore]
      cases i with
      | zero =>
        obtain rfl : WatchdogEvent.resumed = e := Option.some.inj h
        simp
      | succ i =>
        rw [ih h, hafter]
        simp only [Bool.false_eq_true, if_false, if_true]
        omega

end Silences

/-! ### The whole time -/

section Told

variable {threshold : Span} {base : Moment} {os : List Occasion}

/-- What is known at an occasion of a schedule that begins when the watchdog is made. -/
theorem IsPaced.of_append {pace : Span} {before rest : List Occasion} {o : Occasion}
    (h : IsPaced pace base base (before ++ o :: rest)) :
    base ≤ o.moment ∧ lastCheck base (before ++ [o]) ≤ o.moment ∧
      IsPaced pace (lastCheck base (before ++ [o])) o.moment rest := by
  obtain ⟨hbefore, hnow, -, hrest⟩ := isPaced_append.mp h
  obtain ⟨hbase, hcheck⟩ := hbefore.lastCheck_le (Nat.le_refl base)
  rw [lastCheck_append]
  refine ⟨Nat.le_trans hbase hnow, ?_, hrest⟩
  cases o with
  | touch t => exact Nat.le_trans hcheck hnow
  | check t => exact Nat.le_refl t

/-- **Each silence is told once.** A watchdog with a threshold of at least 200 ms is touched and
checked in whatever order, but so that no more than a period passes from one check to the next, of
which the first is made with the watchdog; so is the first touch. It records touches in milliseconds
as long as their number has 64 bits. Then

* from one touch to the next, or to the end, one silence is told at most; one is told if the next
  touch comes a period or more after the threshold, and none if it comes a millisecond or more
  before the threshold;
* of the silence that is told the idle time is at least the threshold, and less than a millisecond
  longer than the time since the last touch;
* after a silence nothing is told until the first check behind the next touch, and there it is told
  that lines come again;
* silences and resumptions alternate, beginning with a silence. -/
theorem told_once (hthreshold : Span.ofMillis 200 ≤ threshold)
    (hpaced : IsPaced (new threshold base).period base base os)
    (hrange : ∀ t, .touch t ∈ os → t < base + Span.ofMillis (maxMillis + 1)) :
    let w := new threshold base
    let all := Occasion.touch base :: os
    (∀ (before : List Occasion) (a : Moment) (checks : List Moment) (rest : List Occasion),
      all = before ++ .touch a :: (checks.map .check ++ rest) →
      let found := silences ((w.after (before ++ [.touch a])).told (checks.map .check))
      found.length ≤ 1 ∧ ∀ (b : Moment) (rest' : List Occasion), rest = .touch b :: rest' →
        (a + threshold + w.period ≤ b → found.length = 1) ∧
          (b + Span.ofMillis 1 ≤ a + threshold → found = [])) ∧
    (∀ (before : List Occasion) (a : Moment) (checks : List Moment) (t : Moment)
      (rest : List Occasion) (idle : Span),
      all = before ++ .touch a :: (checks.map .check ++ .check t :: rest) →
      ((w.after (before ++ .touch a :: checks.map .check)).check t).1 = some (.silent idle) →
        threshold ≤ idle ∧ t ≤ a + idle ∧ a + idle < t + Span.ofMillis 1) ∧
    (∀ (before : List Occasion) (s : Moment) (checks : List Moment) (b : Moment)
      (touches : List Moment) (c : Moment) (rest : List Occasion) (idle : Span),
      all = before ++ .check s ::
        (checks.map .check ++ .touch b :: (touches.map .touch ++ .check c :: rest)) →
      ((w.after before).check s).1 = some (.silent idle) →
        let between := checks.map .check ++ .touch b :: touches.map .touch
        (w.after (before ++ [.check s])).told between = [] ∧
          ((w.after (before ++ .check s :: between)).check c).1 = some .resumed) ∧
    ∀ (i : Nat) (e : WatchdogEvent), (w.told all)[i]? = some e → (e = .resumed ↔ i % 2 = 1) := by
  intro w all
  have hall : IsPaced w.period base base all := ⟨Nat.le_refl _, Nat.le_add_right _ _, hpaced⟩
  have hnow (t : Moment) (ht : .touch t ∈ all) : t < base + Span.ofMillis (maxMillis + 1) := by
    rcases List.mem_cons.mp ht with heq | ht
    · obtain rfl : t = base := Occasion.touch.inj heq
      exact Nat.lt_add_of_pos_right (by decide)
    · exact hrange t ht
  have hbase (before : List Occasion) : (w.after before).base = base := base_after
  have hsame (before : List Occasion) : (w.after before).threshold = threshold := threshold_after
  have hperiod (before : List Occasion) : (w.after before).period = w.period := by
    rw [period, hsame, period]
    rfl
  -- whatever has happened, a touch is recorded to the millisecond
  have hrecorded {before a rest} (h : all = before ++ .touch a :: rest) :
      (w.after (before ++ [.touch a])).recorded ≤ a ∧
        a < (w.after (before ++ [.touch a])).recorded + Span.ofMillis 1 := by
    rw [after_append]
    refine recorded_touch ?_ ?_
    · rw [hbase]
      exact (IsPaced.of_append (h ▸ hall)).1
    · rw [hbase]
      exact hnow a (by simp [h])
  refine ⟨fun before a checks rest h => ?_, fun before a checks t rest idle h hsilent => ?_,
    fun before s checks b touches c rest idle h hsilent => ?_, fun i e h => told_alternates all h⟩
  · obtain ⟨-, hcheck, hpaced'⟩ := IsPaced.of_append (h ▸ hall)
    refine ⟨length_silences_le hpaced'.pairwise_checks.of_cons, ?_⟩
    rintro b rest' rfl
    rw [← hperiod (before ++ [.touch a])] at hpaced' ⊢
    rw [← hsame (before ++ [.touch a])] at hthreshold ⊢
    exact ⟨length_silences_of_long hthreshold (hrecorded h) hcheck hpaced',
      silences_of_short (hrecorded h).2 hpaced'⟩
  · obtain ⟨rfl, hle, -, -⟩ := check_eq_silent hsilent
    obtain ⟨hlow, hhigh⟩ := hrecorded h
    rw [hsame] at hle
    refine ⟨hle, ?_⟩
    have heq : (w.after (before ++ .touch a :: checks.map .check)).recorded =
        (w.after (before ++ [.touch a])).recorded := by
      rw [List.append_cons, after_append, recorded_after_checks]
    rw [idle_eq, heq] at hle ⊢
    have : Span.ofMillis 200 = 200000000 := rfl
    lia
  · obtain ⟨hs, -, hpaced'⟩ := IsPaced.of_append (h ▸ hall)
    have hlast : lastCheck base (before ++ [.check s]) = s := lastCheck_append
    rw [hlast, ← hperiod before] at hpaced'
    rw [← hsame before] at hthreshold
    have htouched (t : Moment) (ht : t ∈ b :: touches) :
        t < (w.after before).base + Span.ofMillis (maxMillis + 1) := by
      rw [hbase]
      refine hnow t (h ▸ ?_)
      rcases List.mem_cons.mp ht with rfl | ht
      · simp
      · simp [ht]
    have hresumes := resumes hthreshold ((hbase before).symm ▸ hs) htouched hsilent hpaced'
    simpa only [after_append, after_cons, after_nil, meet] using hresumes

/-- A second and seven tenths without a line, and checks every half of a second: one silence is
told, at the check after one second, and the resumption at the check after two. -/
theorem told_once_pause :
    let ticks := [0, 1, 2, 3].map fun k => k * Span.ofMillis 500
    let line := Span.ofMillis 1700
    let os := ticks.map Occasion.check ++ [.touch line, .check (Span.ofSeconds 2)]
    let w := new (Span.ofSeconds 1) 0
    IsPaced w.period 0 0 os ∧
      (∀ t, .touch t ∈ os → t < 0 + Span.ofMillis (maxMillis + 1)) ∧
      (silences ((w.after [.touch 0]).told (ticks.map .check))).length = 1 ∧
      w.told (.touch 0 :: os) = [.silent (Span.ofSeconds 1), .resumed] := by
  intro ticks line os w
  have hpaced : IsPaced w.period 0 0 os := by
    simp only [os, ticks, line, List.map_cons, List.map_nil, List.cons_append, List.nil_append,
      IsPaced, Occasion.moment, lastCheck]
    decide
  have hrange : ∀ t, .touch t ∈ os → t < 0 + Span.ofMillis (maxMillis + 1) := by
    intro t ht
    obtain rfl : t = line := by simpa [os, ticks] using ht
    decide
  have htold := (told_once (by decide) hpaced hrange).1 [] 0 ticks
    [.touch line, .check (Span.ofSeconds 2)] rfl
  exact ⟨hpaced, hrange, (htold.2 line _ rfl).1 (by decide), by decide⟩

end Told

end Watchdog

end LogWatch
