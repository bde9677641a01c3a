import LogWatch.Proofs.Daemon.Setup
import LogWatch.Proofs.Host.Runs
import LogWatch.Proofs.Monitor.History

/-!
# The timers of the daemon

The daemon has a **timer** for the resender and one for the patrol of each monitor that must not
fall silent. A timer needs a period: with one of length zero, whoever makes it breaks down.

The periods are fixed when the daemon begins, and no event changes them
(`LogWatch.Daemon.sameTimers_of_step`). That of a patrol is kept within limits, whatever is
configured; that of the resender is the one configured, and nothing in between looks at it. So a
daemon with a valid configuration breaks down in just one case
(`LogWatch.Daemon.KeepsTime.breaksDown_iff`).
-/

namespace LogWatch

namespace Monitor

section Pace

variable {p : Plan} {s t : State} {e : Event} {x : State × List Delivery}

theorem pace?_countLine (s : State) (wall : WallTime) :
    pace? (s.countLine wall).patrol = pace? s.patrol := by
  cases h : s.patrol <;> simp [State.countLine, pace?, h]

theorem patrol_takeLine (p : Plan) (s : State) (wall : WallTime) (line : Bytes) :
    (takeLine p s wall line).1.patrol = (s.countLine wall).patrol := by
  rw [takeLine]
  dsimp only
  split
  · rfl
  · split <;> rfl

theorem pace?_takeLineOf {wall : WallTime} {line : Bytes} {rest : LineReader} {before : Nat} :
    pace? (takeLineOf p s wall line rest before).1.patrol = pace? s.patrol := by
  rw [← pace?_countLine s wall, ← patrol_takeLine p s wall line]
  rfl

theorem pace?_lookAfter {patrol : Patrol} {origin : Origin} (h : s.patrol = some patrol) :
    pace? (lookAfter p s patrol origin).1.patrol = pace? s.patrol := by
  have hpatrol : pace? (some { patrol with
      watchdog := (patrol.watchdog.check s.now).2, ticker := patrol.ticker.attend s.now }) =
      pace? (some patrol) := by
    simp only [pace?, Option.map_some, Ticker.attend]
    split <;> rfl
  rw [h, ← hpatrol, lookAfter]
  dsimp only
  split <;> rfl

theorem patrol_begin (p : Plan) (s : State) (origin : Origin) (snapshot : Option Json.Members)
    (d : Delivery) : (begin p s origin snapshot d).patrol = s.patrol := by
  cases d with
  | alert r => rfl
  | batch b =>
    rw [begin]
    dsimp only
    split <;> rfl

theorem pace?_of_turn (h : Turn p s e x) : pace? x.1.patrol = pace? s.patrol := by
  cases h with
  | line lines rest wall line hphase htaken => exact pace?_takeLineOf
  | ended hreading htaken hends =>
    simp only [endStream, flush]
    split <;> rfl
  | interrupted hreading hcancelled he => rfl
  | fired deadline hflusher he => rfl
  | looked patrol origin hpatrol hover he => exact pace?_lookAfter hpatrol
  | moved phase hmoves htaken hcall => rfl
  | waited now isCancelled wake flusher patrol hkeeps htaken hcall => exact hkeeps.pace
  | dispatched d outbox origin snapshot hcourier htake he =>
    exact congrArg pace? (patrol_begin p _ origin snapshot d)
  | answered r ok hcourier he => cases ok <;> rfl
  | stored r ok hcourier he => rfl

/-- **A patrol keeps its pace** at every event. -/
theorem pace?_of_step (h : step p s e = some t) : pace? t.patrol = pace? s.patrol := by
  obtain ⟨s', ds, hact, rfl⟩ := step_eq_some h
  exact pace?_of_turn (turn_of_act hact)

end Pace

/-- The pace of a patrol that watches for a silence of that length. -/
def paceFor (threshold : Span) : Span := (Watchdog.new threshold 0).period

theorem le_paceFor (threshold : Span) : Watchdog.minPeriod ≤ paceFor threshold := by
  rw [paceFor, Watchdog.period, Nat.le_min]
  exact ⟨Nat.le_max_right _ _, by decide⟩

theorem paceFor_le (threshold : Span) : paceFor threshold ≤ Watchdog.maxPeriod :=
  Nat.min_le_right _ _

theorem pace?_starting (p : Plan) (now : Moment) :
    pace? (State.starting p now).patrol = p.inactivity.map paceFor := by
  rw [State.starting, pace?, Option.map_map]
  rfl

end Monitor

namespace Daemon

/-! ### The timers in a state -/

/-- The timers: that of the resender, and those of the patrols. -/
def State.timers (s : State) : List Ticker :=
  (s.resender.map Resender.ticker).toList ++
    s.posts.filterMap fun post => post.state.patrol.map Monitor.Patrol.ticker

/-- **Somebody breaks down**: a timer has been made without a period. -/
def State.BreaksDown (s : State) : Prop := ∃ t ∈ s.timers, t.period = 0

/-- What a monitor has to keep to: its plan, and the pace of its patrol. -/
def Post.schedule (post : Post) : Monitor.Plan × Option Span :=
  (post.plan, Monitor.pace? post.state.patrol)

/-- The period of the resender. -/
def State.resendPeriod? (s : State) : Option Span := s.resender.map fun r => r.ticker.period

/-- The resender has stopped. -/
def State.resenderIsOver (s : State) : Bool := s.resender.any fun r => r.isOver

section Steps

variable {s t : State} {e : Event} {es : List Event}

theorem schedule_of_step {post : Post} {e : Monitor.Event} {state : Monitor.State}
    (h : Monitor.step post.plan post.state e = some state) :
    ({ post with state } : Post).schedule = post.schedule :=
  congrArg (Prod.mk post.plan) (Monitor.pace?_of_step h)

theorem schedules_move {place : Nat} {e : Monitor.Event} (h : s.move place e = some t) :
    t.posts.map Post.schedule = s.posts.map Post.schedule ∧ t.resender = s.resender := by
  obtain ⟨post, hpost, h⟩ := Option.bind_eq_some_iff.1 h
  obtain ⟨state, hstep, h⟩ := Option.bind_eq_some_iff.1 h
  cases h
  refine ⟨?_, rfl⟩
  obtain ⟨hplace, hget⟩ := List.getElem?_eq_some_iff.1 hpost
  rw [List.map_set, schedule_of_step hstep, ← List.map_set, ← hget, List.set_getElem_self]

theorem schedules_moveAll (s : State) (e : Monitor.Event) :
    (s.moveAll e).posts.map Post.schedule = s.posts.map Post.schedule := by
  rw [State.moveAll, List.map_map]
  refine List.map_congr_left fun post _ => ?_
  dsimp only [Function.comp]
  split
  · next state hstep => exact schedule_of_step hstep
  · rfl

/-- **Nothing changes the periods**, and a resender that has stopped does not begin again. -/
structure SameTimers (s t : State) : Prop where
  /-- Every monitor keeps to its schedule. -/
  schedules : t.posts.map Post.schedule = s.posts.map Post.schedule
  /-- The resender keeps its period. -/
  resendPeriod : t.resendPeriod? = s.resendPeriod?
  /-- A resender that has stopped remains so. -/
  isOver : s.resenderIsOver → t.resenderIsOver

theorem SameTimers.of_resender (hposts : t.posts.map Post.schedule = s.posts.map Post.schedule)
    (hresender : t.resender = s.resender) : SameTimers s t where
  schedules := hposts
  resendPeriod := by rw [State.resendPeriod?, hresender]; rfl
  isOver h := by rw [State.resenderIsOver, hresender]; exact h

theorem period_attend (k : Ticker) (now : Moment) : (k.attend now).period = k.period := by
  rw [Ticker.attend]
  split <;> rfl

theorem sameTimers_attend {spool : Spool} {resender : Resender} (h : s.resender = some resender) :
    SameTimers s (s.attend spool resender) := by
  have hattend : SameTimers s { s with
      resender := some { resender with ticker := resender.ticker.attend s.now } } := by
    refine ⟨rfl, ?_, fun hover => ?_⟩
    · simp [State.resendPeriod?, h, period_attend]
    · simpa [State.resenderIsOver, h] using hover
  rw [State.attend]
  dsimp only
  split
  · exact hattend
  · split <;> exact ⟨hattend.schedules, hattend.resendPeriod, hattend.isOver⟩

theorem sameTimers_of_step (h : step s e = some t) : SameTimers s t := by
  cases e with
  | monitor place e =>
    rw [step] at h
    split at h
    · obtain ⟨hposts, hresender⟩ := schedules_move h
      exact .of_resender hposts hresender
    · cases h
  | kept place =>
    rw [step] at h
    split at h
    · next r spool hstoring hspool =>
      obtain ⟨hposts, hresender⟩ := schedules_move h
      exact .of_resender hposts hresender
    · cases h
  | resenderTicks =>
    rw [step] at h
    split at h
    · next spool resender hspool hresender =>
      split at h
      · cases h
        exact sameTimers_attend hresender
      · cases h
    · cases h
  | passAdvances =>
    rw [step] at h
    split at h
    · split at h
      · cases h
        exact .of_resender rfl rfl
      · cases h
    · cases h
  | passAnswered ok =>
    rw [step] at h
    split at h
    · split at h
      · cases h
        exact .of_resender rfl rfl
      · cases h
    · cases h
  | resenderStops =>
    rw [step] at h
    split at h
    · next resender hresender =>
      split at h
      · cases h
        exact ⟨rfl, by simp [State.resendPeriod?, hresender], fun _ => rfl⟩
      · cases h
    · cases h
  | shutDown =>
    cases h
    exact .of_resender (schedules_moveAll s .cancelled) rfl
  | elapsed span =>
    cases h
    exact .of_resender (schedules_moveAll s (.elapsed span)) rfl

theorem SameTimers.refl (s : State) : SameTimers s s := .of_resender rfl rfl

theorem SameTimers.trans {u : State} (h : SameTimers s t) (h' : SameTimers t u) :
    SameTimers s u where
  schedules := h'.schedules.trans h.schedules
  resendPeriod := h'.resendPeriod.trans h.resendPeriod
  isOver hover := h'.isOver (h.isOver hover)

/-- **Along a run** the timers remain what they were made. -/
theorem sameTimers_of_run (h : run s es = some t) : SameTimers s t := by
  induction es generalizing s with
  | nil =>
    cases h
    exact .refl _
  | cons e es ih =>
    rw [run] at h
    split at h
    · next s' hs => exact (sameTimers_of_step hs).trans (ih h)
    · cases h

end Steps

/-! ### The timers of a configuration -/

/-- **The daemon of a configuration keeps time**. -/
structure KeepsTime (c : Config) (s : State) : Prop where
  /-- The resender has the period configured, and a patrol one that its silence calls for. -/
  periods : s.timers.map Ticker.period = (if c.delivery.spool then [resendPeriod c] else []) ++
    (s.posts.filterMap fun post => post.plan.inactivity).map Monitor.paceFor
  /-- A patrol looks neither too often nor too seldom. -/
  patrols : ∀ post ∈ s.posts, ∀ patrol, post.state.patrol = some patrol →
    Watchdog.minPeriod ≤ patrol.ticker.period ∧ patrol.ticker.period ≤ Watchdog.maxPeriod
  /-- All spans of the monitors are in range. -/
  spans : ∀ post ∈ s.posts,
    (∀ span, post.plan.inactivity = some span → 0 < span ∧ span < Span.limit) ∧
      ∀ n window, post.plan.rateLimit = some (n, window) → window < Span.limit
  /-- So is the period of the resender, for a number of seconds that has 64 bits. -/
  resendPeriod : c.delivery.retryIntervalSecs < Nat.pow 2 64 → resendPeriod c < Span.limit
  /-- The receiver has time to answer. -/
  timeout : 0 < c.delivery.timeoutSecs
  /-- **Somebody breaks down in one case only**. -/
  breaksDown_iff : s.BreaksDown ↔
    c.delivery.spool = true ∧ c.delivery.retryIntervalSecs = 0
  /-- Then it is the resender, and it makes no pass. -/
  breaksDown : s.BreaksDown → s.resenderIsOver

section Config

variable {c : Config} {files files' : FileTree} {wall : WallTime} {host : Host} {s : State}

theorem isSome_of_openSpool {spool : Option Spool}
    (h : Host.openSpool files c = .ok (spool, files')) : spool.isSome = c.delivery.spool := by
  rw [Host.openSpool] at h
  split at h
  · next hspool =>
    cases h
    simpa using hspool
  · next hspool =>
    have hmap {r : Except DeliveryFault Spool} {files : FileTree}
        (h : (r.map fun s => (some s, files)).mapError StartFault.delivery = .ok (spool, files')) :
        spool.isSome = c.delivery.spool := by
      cases r with
      | error e => cases h
      | ok s =>
        cases h
        simpa using hspool
    dsimp only at h
    split at h
    · cases h
    · split at h
      · exact hmap h
      · exact hmap h
      · cases h

theorem ofString_empty : FilePath.ofString "" = [] := by
  have hsplit : "".splitOn "/" = [""] := by
    rw [String.splitOn, String.splitOnAux]
    decide +kernel
  rw [FilePath.ofString, hsplit]
  decide

/-- The spool of a host without files, in its root. -/
theorem openSpool_empty (hkeeps : c.delivery.spool = true) (hroot : c.general.dataDir = "") :
    Host.openSpool FileTree.empty c = .ok (some ⟨none, 0, 0, none⟩, FileTree.empty) := by
  rw [Host.openSpool, hkeeps, Host.spoolPath, hroot, ofString_empty]
  rfl

/-- A host without files for the daemon of a configuration. -/
theorem exists_ofConfig_empty (c : Config) (wall : WallTime) (assignments : List Assignment)
    (hkeeps : c.delivery.spool = true) (hroot : c.general.dataDir = "")
    (hvalid : c.validate = .ok ()) (hassign : assignAll c = .ok assignments) :
    ∃ host, Host.ofConfig FileTree.empty wall c = .ok host ∧ host.daemon =
      State.starting (assignments.map Assignment.plan) (some ⟨none, 0, 0, none⟩)
        (resendPeriod c) 0 := by
  rw [Host.ofConfig, check, hvalid, openSpool_empty hkeeps hroot, hassign]
  exact ⟨_, rfl, rfl⟩

theorem exists_starting_of_ofConfig (h : Host.ofConfig files wall c = .ok host) :
    ∃ assignments spool, c.validate = .ok () ∧ assignAll c = .ok assignments ∧
      spool.isSome = c.delivery.spool ∧
      host.daemon = State.starting (assignments.map Assignment.plan) spool (resendPeriod c) 0 := by
  obtain ⟨_, hcheck, h⟩ := exists_of_bind_eq_ok h
  obtain ⟨⟨spool, files'⟩, hspool, h⟩ := exists_of_bind_eq_ok h
  obtain ⟨assignments, hassign, h⟩ := exists_of_bind_eq_ok h
  cases h
  exact ⟨assignments, spool, eq_ok_of_mapError hcheck, hassign, isSome_of_openSpool hspool, rfl⟩

theorem timeout_pos_of_validate (h : c.validate = .ok ()) : 0 < c.delivery.timeoutSecs := by
  obtain ⟨-, -, h⟩ := exists_of_bind_eq_ok h
  obtain ⟨-, -, h⟩ := exists_of_bind_eq_ok h
  obtain ⟨_, hdelivery, -⟩ := exists_of_bind_eq_ok h
  obtain ⟨-, -, hdelivery⟩ := exists_of_bind_eq_ok hdelivery
  obtain ⟨-, -, htimeout⟩ := exists_of_bind_eq_ok hdelivery
  rw [Config.refuseIf] at htimeout
  split at htimeout
  · cases htimeout
  · next hzero =>
    rw [beq_iff_eq] at hzero
    exact Nat.pos_of_ne_zero hzero

theorem periods_eq (s : State) : s.timers.map Ticker.period = s.resendPeriod?.toList ++
    s.posts.filterMap fun post => Monitor.pace? post.state.patrol := by
  have hpatrols (post : Post) : (post.state.patrol.map Monitor.Patrol.ticker).map Ticker.period =
      Monitor.pace? post.state.patrol := Option.map_map ..
  rw [State.timers, List.map_append, List.map_filterMap, State.resendPeriod?]
  simp only [hpatrols]
  cases s.resender <;> rfl

theorem breaksDown_iff_mem : s.BreaksDown ↔ 0 ∈ s.timers.map Ticker.period := by
  simp [State.BreaksDown]

theorem resendPeriod_eq_zero : resendPeriod c = 0 ↔ c.delivery.retryIntervalSecs = 0 := by
  change c.delivery.retryIntervalSecs * 1000000000 = (0 : Nat) ↔ _
  omega

/-- No patrol breaks down, so the resender has to. -/
theorem mem_periods_iff {thresholds : List Span} :
    0 ∈ (if c.delivery.spool then [resendPeriod c] else []) ++ thresholds.map Monitor.paceFor ↔
      c.delivery.spool = true ∧ c.delivery.retryIntervalSecs = 0 := by
  have hpatrols : 0 ∉ thresholds.map Monitor.paceFor := by
    intro hmem
    obtain ⟨threshold, -, hzero⟩ := List.mem_map.1 hmem
    have hpos := Monitor.le_paceFor threshold
    rw [hzero] at hpos
    exact absurd hpos (by decide)
  rw [List.mem_append, or_iff_left hpatrols, ← resendPeriod_eq_zero]
  cases c.delivery.spool <;> simp [eq_comm]

theorem schedules_starting (plans : List Monitor.Plan) (spool : Option Spool) (every : Span)
    (now : Moment) : (State.starting plans spool every now).posts.map Post.schedule =
      plans.map fun p => (p, p.inactivity.map Monitor.paceFor) := by
  rw [State.starting, List.map_map]
  refine List.map_congr_left fun p _ => ?_
  exact congrArg (Prod.mk p) (Monitor.pace?_starting p now)

/-- Every monitor keeps to a plan that was made of the configuration. -/
theorem exists_of_mem_posts {plans : List Monitor.Plan} {spool : Option Spool} {every : Span}
    {now : Moment} (h : SameTimers (State.starting plans spool every now) s) :
    ∀ post ∈ s.posts, post.plan ∈ plans ∧
      Monitor.pace? post.state.patrol = post.plan.inactivity.map Monitor.paceFor := by
  intro post hpost
  have hschedule := List.mem_map_of_mem (f := Post.schedule) hpost
  rw [h.schedules, schedules_starting] at hschedule
  obtain ⟨p, hp, heq⟩ := List.mem_map.1 hschedule
  obtain ⟨rfl, hpace⟩ := Prod.mk.inj heq
  exact ⟨hp, hpace.symm⟩

/-- The daemon of a configuration keeps time in every state to which events lead. -/
theorem keepsTime_of_leads (h : Host.ofConfig files wall c = .ok host)
    (hleads : Leads host.daemon s) : KeepsTime c s := by
  obtain ⟨assignments, spool, hvalid, hassign, hspool, hdaemon⟩ := exists_starting_of_ofConfig h
  obtain ⟨es, hrun⟩ := hleads
  rw [hdaemon] at hrun
  have hsame := sameTimers_of_run hrun
  have hposts := exists_of_mem_posts hsame
  have hperiods : s.timers.map Ticker.period =
      (if c.delivery.spool then [resendPeriod c] else []) ++
        (s.posts.filterMap fun post => post.plan.inactivity).map Monitor.paceFor := by
    rw [periods_eq, hsame.resendPeriod, ← hspool, List.map_filterMap]
    congr 1
    · cases spool <;> rfl
    · exact List.filterMap_congr fun post hpost => (hposts post hpost).2
  have hbreaks : s.BreaksDown ↔ c.delivery.spool = true ∧ c.delivery.retryIntervalSecs = 0 := by
    rw [breaksDown_iff_mem, hperiods, mem_periods_iff]
  refine ⟨hperiods, fun post hpost patrol hpatrol => ?_, fun post hpost => ?_, fun hlt => ?_,
    timeout_pos_of_validate hvalid, hbreaks, fun hbroken => hsame.isOver ?_⟩
  · have hpace := (hposts post hpost).2
    rw [hpatrol] at hpace
    obtain ⟨threshold, -, hthreshold⟩ := Option.map_eq_some_iff.1 hpace.symm
    replace hthreshold : Monitor.paceFor threshold = patrol.ticker.period := hthreshold
    rw [← hthreshold]
    exact ⟨Monitor.le_paceFor threshold, Monitor.paceFor_le threshold⟩
  · obtain ⟨a, ha, hplan⟩ := List.mem_map.1 (hposts post hpost).1
    obtain ⟨m, -, hm⟩ := exists_of_assignAll hassign a ha
    rw [← hplan]
    exact spans_of_assign hm
  · exact Nat.mul_lt_mul_of_pos_right hlt (by decide)
  · obtain ⟨hkeeps, hzero⟩ := hbreaks.1 hbroken
    rw [hkeeps, Option.isSome_iff_exists] at hspool
    obtain ⟨spool, rfl⟩ := hspool
    simp [State.resenderIsOver, State.starting, Resender.starting, resendPeriod_eq_zero.2 hzero]

end Config

/-- **The daemon of a valid configuration keeps time**, whatever happens to it, and so it does when
the program has run it. -/
theorem keepsTime_of_ofConfig {c : Config} {files : FileTree} {wall : WallTime} {host : Host}
    (h : Host.ofConfig files wall c = .ok host) :
    (∀ es s, run host.daemon es = some s → KeepsTime c s) ∧
      ∀ shutDownAfter, KeepsTime c (host.runDaemon shutDownAfter).daemon :=
  ⟨fun es _ hrun => keepsTime_of_leads h ⟨es, hrun⟩,
    fun shutDownAfter => keepsTime_of_leads h (host.leads_runDaemon shutDownAfter)⟩

/-- A daemon with a spool and a monitor whose silence matters, after a minute. -/
theorem keepsTime_of_ofConfig_minute :
    let m : Config.Monitor :=
      { name := "m", sourceType := "stdin", pattern := "a", maxInactivity := "1s" }
    let c : Config :=
      { general := { dataDir := "" }, systemState := { enabled := false }, monitors := [m] }
    ∃ host s, Host.ofConfig FileTree.empty ⟨0, 0⟩ c = .ok host ∧
      run host.daemon [.elapsed (Span.ofSeconds 60), .resenderTicks] = some s ∧
      KeepsTime c s ∧ KeepsTime c (host.runDaemon none).daemon := by
  intro m c
  have hassigns : (assignAll c).toOption.any fun assignments =>
      (run (State.starting (assignments.map Assignment.plan) (some ⟨none, 0, 0, none⟩)
        (resendPeriod c) 0) [.elapsed (Span.ofSeconds 60), .resenderTicks]).isSome := by
    decide +kernel
  obtain ⟨assignments, hassign, hrun⟩ := (Option.any_eq_true ..).1 hassigns
  obtain ⟨s, hs⟩ := Option.isSome_iff_exists.1 hrun
  obtain ⟨host, hhost, hdaemon⟩ := exists_ofConfig_empty c ⟨0, 0⟩ assignments rfl rfl
    (by decide +kernel) (eq_ok_of_toOption hassign)
  rw [← hdaemon] at hs
  obtain ⟨hruns, hprogram⟩ := keepsTime_of_ofConfig hhost
  exact ⟨host, s, hhost, hs, hruns _ s hs, hprogram none⟩

/-- **A valid configuration may bring the resender down**, as soon as the daemon begins. -/
theorem exists_breaksDown :
    ∃ c : Config, c.systemState.enabled = false ∧ c.validate = .ok () ∧
      ∃ host, Host.ofConfig FileTree.empty ⟨0, 0⟩ c = .ok host ∧ host.daemon.BreaksDown := by
  let c : Config :=
    { general := { dataDir := "" }, delivery := { retryIntervalSecs := 0 },
      systemState := { enabled := false } }
  obtain ⟨host, hhost, hdaemon⟩ := exists_ofConfig_empty c ⟨0, 0⟩ [] rfl rfl rfl rfl
  refine ⟨c, rfl, rfl, host, hhost, ⟨resendPeriod c, 0 + resendPeriod c⟩, ?_,
    resendPeriod_eq_zero.2 rfl⟩
  simp [hdaemon, State.timers, State.starting, Resender.starting]

end Daemon

end LogWatch
