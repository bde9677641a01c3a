import LogWatch.Daemon.State
import LogWatch.Proofs.Delivery.Calls
import LogWatch.Proofs.Monitor.Conservation

/-!
# The daemon loses no report

A report that a monitor hands to the receiver is **in flight** until the receiver has taken it or it
has been put into the spool. There it is unsettled until a pass delivers it. At every moment the
reports that have been handed over and the entries that were in the file at first are, as lines,
those that the receiver has taken, those in flight and those unsettled, each as often
(`LogWatch.Daemon.Balanced`); which task moves next makes no difference to the sum.

When all work is done, nothing is in flight, since each monitor has waited for its courier, and no
pass is under way, since the resender stops between passes. What is unsettled is then what the file
holds (`LogWatch.Daemon.run_delivers`).
-/

namespace LogWatch

namespace Monitor

/-! ### The courier of a monitor -/

section Courier

variable {p : Plan} {s : State} {e : Event} {x : State × List Delivery}

/-- The event is one of the courier. -/
def Event.isOfCourier : Event → Bool
  | .dispatched _ _ => true
  | .answered _ => true
  | .stored _ => true
  | _ => false

/-- No other event moves the courier. -/
theorem sameCourier_of_turn (ht : Turn p s e x) (he : e.isOfCourier = false) :
    SameCourier s x.1 := by
  cases ht with
  | line lines rest wall line hphase htaken => exact sameCourier_takeLineOf
  | ended hreading htaken hends => exact sameCourier_endStream
  | looked patrol origin hpatrol hover heq => exact sameCourier_lookAfter
  | interrupted hreading hcancelled heq => exact ⟨rfl, rfl, rfl, rfl, rfl⟩
  | fired deadline hflusher heq => exact ⟨rfl, rfl, rfl, rfl, rfl⟩
  | moved phase hmoves htaken hcall => exact ⟨rfl, rfl, rfl, rfl, rfl⟩
  | waited now isCancelled wake flusher patrol hkeeps htaken hcall =>
    exact ⟨rfl, rfl, rfl, rfl, rfl⟩
  | dispatched d outbox origin snapshot hcourier htake heq => simp [heq, Event.isOfCourier] at he
  | answered r ok hcourier heq => simp [heq, Event.isOfCourier] at he
  | stored r ok hcourier heq => simp [heq, Event.isOfCourier] at he

/-- **What the courier does at an event.** -/
inductive CourierTurn (p : Plan) (s : State) : Event → Courier → Prop
  /-- It does nothing. -/
  | rests (e : Event) : (∀ ok, e ≠ .answered ok) → (∀ ok, e ≠ .stored ok) →
      CourierTurn p s e s.courier
  /-- It takes a delivery and sends a report. -/
  | sends (origin : Origin) (snapshot : Option Json.Members) (r : Report) :
      s.courier = .idle → CourierTurn p s (.dispatched origin snapshot) (.sending r)
  /-- It learns that its report has been taken. -/
  | delivered (r : Report) : s.courier = .sending r → CourierTurn p s (.answered true) .idle
  /-- It learns that its report has not been taken. -/
  | failed (r : Report) : s.courier = .sending r →
      CourierTurn p s (.answered false) (if p.keepsFailed then .storing r else .idle)
  /-- Its report has been kept. -/
  | stored (r : Report) (ok : Bool) : s.courier = .storing r → CourierTurn p s (.stored ok) .idle

theorem courierTurn_of_act (h : act p s e = some x) : CourierTurn p s e x.1.courier := by
  by_cases he : e.isOfCourier = true
  · cases e with
    | dispatched origin snapshot =>
      rw [act] at h
      split at h
      · next d outbox hcourier htake =>
        obtain rfl := Option.some.inj h
        obtain ⟨-, -, -, hcase⟩ :=
          begin_cases (t := begin p { s with outbox } origin snapshot d) rfl
        rcases hcase with ⟨r, -, hsending, -⟩ | ⟨hidle, -⟩
        · rw [hsending]
          exact .sends origin snapshot r hcourier
        · rw [hidle]
          exact .rests _ (by simp) (by simp)
      · simp at h
    | answered ok =>
      rw [act] at h
      split at h
      · next r hcourier =>
        obtain rfl := Option.some.inj h
        cases ok with
        | true => exact .delivered r hcourier
        | false => exact .failed r hcourier
      · simp at h
    | stored ok =>
      rw [act] at h
      split at h
      · next r hcourier =>
        obtain rfl := Option.some.inj h
        exact .stored r ok hcourier
      · simp at h
    | _ => simp [Event.isOfCourier] at he
  · have hsame := sameCourier_of_turn (turn_of_act h) (Bool.eq_false_iff.mpr he)
    rw [hsame.courier]
    refine .rests e (fun ok heq => ?_) fun ok heq => ?_
    · exact he (by rw [heq]; rfl)
    · exact he (by rw [heq]; rfl)

/-- A step of a monitor keeps it in order and moves its courier. -/
theorem courierTurn_of_step {t : State} (ho : Orderly s) (h : step p s e = some t) :
    Orderly t ∧ CourierTurn p s e t.courier := by
  obtain ⟨s', ds, hact, rfl⟩ := step_eq_some h
  exact ⟨ho.snoc (turn_of_act hact), courierTurn_of_act hact⟩

end Courier

end Monitor

namespace Daemon

open Spool (isReport reportLine)

/-! ### What is observed of a run -/

/-- An event of a run, with the states before and after it. -/
structure Turn where
  /-- The state before the event. -/
  before : State
  /-- The event. -/
  event : Event
  /-- The state after the event. -/
  after : State

/-- The events of a run, each with the states around it. -/
def history : State → List Event → List Turn
  | _, [] => []
  | s, e :: es =>
    match step s e with
    | some t => ⟨s, e, t⟩ :: history t es
    | none => []

/-- Where the courier of a monitor stands. -/
def State.courier? (s : State) (place : Nat) : Option Monitor.Courier :=
  s.posts[place]?.map fun post => post.state.courier

namespace Turn

/-- The report that a monitor hands to the receiver at an event. -/
def handed? (t : Turn) : Option Report :=
  match t.event with
  | .monitor place _ =>
    match t.before.courier? place, t.after.courier? place with
    | some .idle, some (.sending r) => some r
    | _, _ => none
  | _ => none

/-- The line of the report that the receiver takes at an event, from a monitor or from a pass. -/
def accepted? (t : Turn) : Option Bytes :=
  match t.event with
  | .monitor place (.answered true) =>
    match t.before.courier? place with
    | some (.sending r) => some (reportLine r)
    | _ => none
  | .passAnswered true =>
    t.before.spool.bind fun spool => spool.pass.bind fun p => p.sending.map Prod.fst
  | _ => none

/-- The report that is put into the spool at an event. -/
def kept? (t : Turn) : Option Report :=
  match t.event with
  | .kept place => t.before.storing? place
  | _ => none

end Turn

/-- The reports that the monitors have handed to the receiver. -/
def handed (h : List Turn) : List Report := h.filterMap Turn.handed?

/-- The lines of the reports that the receiver has taken. -/
def accepted (h : List Turn) : List Bytes := h.filterMap Turn.accepted?

/-- The reports that were put into the spool. -/
def kept (h : List Turn) : List Report := h.filterMap Turn.kept?

theorem handed_snoc (h : List Turn) (t : Turn) :
    handed (h ++ [t]) = handed h ++ t.handed?.toList := by
  simp [handed, List.filterMap_eq_flatMap_toList]

theorem accepted_snoc (h : List Turn) (t : Turn) :
    accepted (h ++ [t]) = accepted h ++ t.accepted?.toList := by
  simp [accepted, List.filterMap_eq_flatMap_toList]

/-! ### The sum -/

/-- The line of the report that a courier holds. -/
def inFlight (post : Post) : List Bytes :=
  match post.state.courier with
  | .idle => []
  | .sending r => [reportLine r]
  | .storing r => [reportLine r]

/-- **Nothing is lost and nothing made up**: what was in the file at first and what has been handed
to the receiver was taken, is in flight, or has still to be delivered by the spool. Carriage returns
at the ends of lines are not minded, since a pass drops one of them when it keeps a line. -/
structure Balanced (start : List Bytes) (h : List Turn) (s : State) (spool : Spool) : Prop where
  /-- There is a spool. -/
  held : s.spool = some spool
  /-- It is in order. -/
  inOrder : spool.IsInOrder
  /-- It has only reports. -/
  reports : ∀ line ∈ spool.unsettled, isReport line = true
  /-- The monitors keep what has failed, and wind up in order. -/
  posts : ∀ post ∈ s.posts, post.plan.keepsFailed = true ∧ Monitor.Orderly post.state
  /-- **The sum.** -/
  sum : ((start ++ (handed h).map reportLine).map Lines.bare).Perm
    ((accepted h ++ (s.posts.flatMap inFlight ++ spool.unsettled)).map Lines.bare)

section Balance

variable {start : List Bytes} {h : List Turn} {s t : State} {spool spool' : Spool} {e : Event}

/-- **An event keeps the sum** when what it takes from one place it puts into another. -/
theorem Balanced.snoc (hb : Balanced start h s spool) (hheld : t.spool = some spool')
    (hin : spool'.IsInOrder) (hreports : ∀ line ∈ spool'.unsettled, isReport line = true)
    (hposts : ∀ post ∈ t.posts, post.plan.keepsFailed = true ∧ Monitor.Orderly post.state)
    (hperm : ((s.posts.flatMap inFlight ++ spool.unsettled ++
        (Turn.mk s e t).handed?.toList.map reportLine).map Lines.bare).Perm
      (((Turn.mk s e t).accepted?.toList ++
        (t.posts.flatMap inFlight ++ spool'.unsettled)).map Lines.bare)) :
    Balanced start (h ++ [⟨s, e, t⟩]) t spool' where
  held := hheld
  inOrder := hin
  reports := hreports
  posts := hposts
  sum := by
    have hsum := hb.sum
    rw [handed_snoc, accepted_snoc]
    rw [List.perm_iff_count] at hsum hperm ⊢
    intro line
    have hline := hsum line
    have hevent := hperm line
    simp only [List.map_append, List.count_append] at hline hevent ⊢
    omega

/-- What the spool does by itself keeps the sum. -/
theorem Balanced.ofSpool (hb : Balanced start h s spool) (hheld : t.spool = some spool')
    (hposts : t.posts = s.posts) (hin : spool'.IsInOrder)
    (hhanded : (Turn.mk s e t).handed? = none)
    (hperm : spool.unsettled.Perm ((Turn.mk s e t).accepted?.toList ++ spool'.unsettled)) :
    Balanced start (h ++ [⟨s, e, t⟩]) t spool' := by
  refine hb.snoc hheld hin (fun line hline => ?_) (hposts ▸ hb.posts) ?_
  · exact hb.reports line (hperm.mem_iff.mpr (List.mem_append_right _ hline))
  · refine List.Perm.map _ ?_
    rw [hhanded, hposts]
    rw [List.perm_iff_count] at hperm ⊢
    intro line
    have hevent := hperm line
    simp only [List.count_append, Option.toList_none, List.map_nil, List.count_nil] at hevent ⊢
    omega

/-- Setting one of several posts changes what is in flight there and nowhere else. -/
theorem perm_inFlight_set {posts : List Post} {place : Nat} {post : Post} (post' : Post)
    (hpost : posts[place]? = some post) :
    ((posts.set place post').flatMap inFlight ++ inFlight post).Perm
      (posts.flatMap inFlight ++ inFlight post') := by
  obtain ⟨hlt, rfl⟩ := List.getElem?_eq_some_iff.mp hpost
  -- both lists of posts are cut at the place
  have hsplit : posts = posts.take place ++ posts[place] :: posts.drop (place + 1) := by
    rw [List.getElem_cons_drop, List.take_append_drop]
  have hset : posts.set place post' =
      posts.take place ++ post' :: posts.drop (place + 1) := by
    rw [List.set_eq_take_append_cons_drop, if_pos hlt]
  have hflight : posts.flatMap inFlight = (posts.take place).flatMap inFlight ++
      (inFlight posts[place] ++ (posts.drop (place + 1)).flatMap inFlight) := by
    rw [← List.flatMap_cons, ← List.flatMap_append, ← hsplit]
  rw [hset, hflight, List.flatMap_append, List.flatMap_cons, List.perm_iff_count]
  intro line
  simp only [List.count_append]
  omega

/-- **What a monitor does keeps the sum**, when its own part of it is kept. -/
theorem Balanced.ofPost (hb : Balanced start h s spool) {place : Nat} {post : Post}
    {state : Monitor.State} (hpost : s.posts[place]? = some post)
    (hposts : t.posts = s.posts.set place { post with state }) (ho : Monitor.Orderly state)
    (hheld : t.spool = some spool') (hin : spool'.IsInOrder)
    (hreports : ∀ line ∈ spool'.unsettled, isReport line = true)
    (hperm : (inFlight post ++ spool.unsettled ++
        (Turn.mk s e t).handed?.toList.map reportLine).Perm
      ((Turn.mk s e t).accepted?.toList ++ (inFlight { post with state } ++ spool'.unsettled))) :
    Balanced start (h ++ [⟨s, e, t⟩]) t spool' := by
  have hmem : post ∈ s.posts := List.mem_of_getElem? hpost
  refine hb.snoc hheld hin hreports (fun post' hmem' => ?_) ?_
  · rw [hposts] at hmem'
    rcases List.mem_or_eq_of_mem_set hmem' with hmem' | rfl
    · exact hb.posts post' hmem'
    · exact ⟨(hb.posts post hmem).1, ho⟩
  · refine List.Perm.map _ ?_
    have hset := perm_inFlight_set { post with state } hpost
    rw [hposts]
    rw [List.perm_iff_count] at hset hperm ⊢
    intro line
    have hplace := hset line
    have hevent := hperm line
    simp only [List.count_append] at hplace hevent ⊢
    omega

/-! ### The events -/

theorem move_eq_some {place : Nat} {e : Monitor.Event} (h : s.move place e = some t) :
    ∃ post state, s.posts[place]? = some post ∧
      Monitor.step post.plan post.state e = some state ∧
      t = { s with posts := s.posts.set place { post with state } } := by
  rw [State.move, Option.bind_eq_bind, Option.bind_eq_some_iff] at h
  obtain ⟨post, hpost, h⟩ := h
  rw [Option.bind_eq_bind, Option.bind_eq_some_iff] at h
  obtain ⟨state, hstep, h⟩ := h
  exact ⟨post, state, hpost, hstep, (Option.some.inj h).symm⟩

/-- A monitor hands over, learns of or forgets a report only as its courier does. -/
theorem Balanced.monitor (hb : Balanced start h s spool) {place : Nat} {e : Monitor.Event}
    (hown : isOwn s e = true) (hmove : s.move place e = some t) :
    Balanced start (h ++ [⟨s, .monitor place e, t⟩]) t spool := by
  obtain ⟨post, state, hpost, hstep, rfl⟩ := move_eq_some hmove
  obtain ⟨hkeeps, horderly⟩ := hb.posts post (List.mem_of_getElem? hpost)
  obtain ⟨ho, hturn⟩ := Monitor.courierTurn_of_step horderly hstep
  refine hb.ofPost hpost rfl ho hb.held hb.inOrder hb.reports ?_
  have hbefore : s.courier? place = some post.state.courier := by
    rw [State.courier?, hpost]
    rfl
  have hafter : State.courier? { s with posts := s.posts.set place { post with state } } place =
      some state.courier := by
    rw [State.courier?, List.getElem?_set_self (List.getElem?_eq_some_iff.mp hpost).1]
    rfl
  simp only [Turn.handed?, hbefore, hafter]
  generalize hc : state.courier = c at hturn
  cases hturn with
  | rests _ hanswered hstored =>
    have haccepted : (Turn.mk s (.monitor place e)
        { s with posts := s.posts.set place { post with state } }).accepted? = none := by
      rw [Turn.accepted?]
      split
      · next heq => exact absurd (Event.monitor.inj heq).2 (hanswered true)
      · next heq => cases heq
      · rfl
    have hflight : inFlight { post with state } = inFlight post := by
      rw [inFlight, inFlight, hc]
    rw [haccepted, hflight]
    cases post.state.courier <;> simp
  | sends origin snapshot r hidle =>
    have hflight : inFlight { post with state } = [reportLine r] := by rw [inFlight, hc]
    have hempty : inFlight post = [] := by rw [inFlight, hidle]
    rw [hflight, hempty, hidle]
    exact List.perm_append_comm
  | delivered r hsending =>
    have hflight : inFlight { post with state } = [] := by rw [inFlight, hc]
    have hheld : inFlight post = [reportLine r] := by rw [inFlight, hsending]
    rw [hflight, hheld, hsending]
    simp [Turn.accepted?, hbefore, hsending]
  | failed r hsending =>
    rw [hkeeps, if_pos rfl] at hc
    have hflight : inFlight { post with state } = [reportLine r] := by rw [inFlight, hc]
    have hheld : inFlight post = [reportLine r] := by rw [inFlight, hsending]
    rw [hflight, hheld, hsending]
    simp [Turn.accepted?]
  | stored r ok hstoring =>
    rw [isOwn, hb.held] at hown
    simp at hown

/-- **A report that is kept goes from its courier into the spool.** -/
theorem Balanced.keeps (hb : Balanced start h s spool) {place : Nat} {r : Report}
    (hstoring : s.storing? place = some r) (hread : isReport (reportLine r) = true)
    (hmove : (s.keep r).move place (.stored true) = some t) :
    Balanced start (h ++ [⟨s, .kept place, t⟩]) t (spool.enqueue r) := by
  obtain ⟨post, state, hpost, hstep, rfl⟩ := move_eq_some hmove
  have hpost' : s.posts[place]? = some post := hpost
  have hcourier : post.state.courier = .storing r := by
    rw [State.storing?, hpost'] at hstoring
    rw [Option.bind_eq_bind, Option.bind_some] at hstoring
    split at hstoring
    · next r' heq => rw [heq, Option.some.inj hstoring]
    · simp at hstoring
  obtain ⟨-, horderly⟩ := hb.posts post (List.mem_of_getElem? hpost')
  obtain ⟨ho, hturn⟩ := Monitor.courierTurn_of_step horderly hstep
  have hunsettled := hb.inOrder.unsettled_enqueue r
  refine hb.ofPost hpost' rfl ho ?_ (hb.inOrder.enqueue r) (fun line hline => ?_) ?_
  · change s.spool.map _ = _
    rw [hb.held]
    rfl
  · rw [hunsettled] at hline
    rcases List.mem_append.mp hline with hline | hline
    · exact hb.reports line hline
    · rw [List.mem_singleton.mp hline]
      exact hread
  · generalize hc : state.courier = c at hturn
    cases hturn with
    | rests _ _ hstored => exact absurd rfl (hstored true)
    | stored _ _ _ =>
      have hflight : inFlight { post with state } = [] := by rw [inFlight, hc]
      have hheld : inFlight post = [reportLine r] := by rw [inFlight, hcourier]
      rw [hflight, hheld, hunsettled]
      simp only [Turn.handed?, Turn.accepted?, Option.toList_none, List.map_nil, List.append_nil,
        List.nil_append]
      exact List.perm_append_comm

/-- A pass may begin. -/
theorem Balanced.attends (hb : Balanced start h s spool) (hpass : spool.pass = none)
    (resender : Resender) :
    ∃ spool', Balanced start (h ++ [⟨s, .resenderTicks, s.attend spool resender⟩])
      (s.attend spool resender) spool' := by
  rw [State.attend]
  split
  · exact ⟨spool, hb.ofSpool hb.held rfl hb.inOrder rfl (List.Perm.refl _)⟩
  · rw [hb.inOrder.begin_eq]
    have hunsettled := hb.inOrder.unsettled_begin hpass
    refine ⟨_, hb.ofSpool rfl rfl
      (hb.inOrder.withPass (Spool.Pass.tracks_starting hb.inOrder.proper)) rfl ?_⟩
    rw [hunsettled]
    exact List.Perm.refl _

/-- **A pass discards nothing**, for the spool has only reports, and loses nothing at its end. -/
theorem Balanced.advances (hb : Balanced start h s spool) {p : Spool.Pass}
    (hp : spool.pass = some p) (hs : p.sending = none) :
    Balanced start (h ++ [⟨s, .passAdvances, { s with spool := some spool.advance }⟩])
      { s with spool := some spool.advance } spool.advance := by
  obtain ⟨looked, added, ht⟩ := hb.inOrder.pass p hp
  rcases Spool.advance_cases hp hs with ⟨hrest, hadvance⟩ |
    ⟨line, rest, r, hrest, hread, hadvance⟩ | ⟨line, rest, hrest, hread, hadvance⟩
  · obtain ⟨t, hfinish, hin, -, -, hbefore, hafter⟩ := hb.inOrder.finish hp ht hs hrest
    have hreports := hb.reports
    rw [hbefore] at hreports
    rw [hadvance, hfinish]
    -- the pass ends: what it kept may lose carriage returns, and remains a report
    refine hb.snoc rfl hin (fun line hline => ?_) hb.posts ?_
    · rw [hafter] at hline
      rcases List.mem_append.mp hline with hline | hline
      · obtain ⟨line', hmem, rfl⟩ := List.mem_map.mp hline
        exact Spool.isReport_asRead (hreports line' (List.mem_append_left _ hmem))
      · exact hreports line (List.mem_append_right _ hline)
    · have hbare : (p.kept.reverse.map Lines.asRead).map Lines.bare =
          p.kept.reverse.map Lines.bare := by
        rw [List.map_map]
        exact List.map_congr_left fun line _ => Lines.bare_asRead line
      rw [hbefore, hafter]
      simp only [List.map_append, hbare]
      simp [Turn.handed?, Turn.accepted?]
  -- a report is sent again, and remains unsettled
  · rw [hadvance]
    refine hb.ofSpool rfl rfl (hb.inOrder.withPass (ht.sent hs hrest hread)) rfl ?_
    rw [ht.unsettled_sent hp hs hrest hread]
    exact List.Perm.refl _
  -- nothing is discarded: the line would have to be no report
  · have hline : isReport line = true := by
      refine hb.reports line ?_
      rw [(ht.unsettled_discarded hp hs hrest).1]
      simp
    rw [isReport, hread] at hline
    simp at hline

/-- What the receiver takes from a pass leaves the spool. -/
theorem Balanced.answers (hb : Balanced start h s spool) {p : Spool.Pass} {line : Bytes}
    {r : Report} (hp : spool.pass = some p) (hs : p.sending = some (line, r)) (ok : Bool) :
    Balanced start (h ++ [⟨s, .passAnswered ok, { s with spool := some (spool.answer ok) }⟩])
      { s with spool := some (spool.answer ok) } (spool.answer ok) := by
  obtain ⟨looked, added, ht⟩ := hb.inOrder.pass p hp
  cases ok with
  | true =>
    have hin := hb.inOrder.withPass (ht.taken hs)
    rw [← Spool.answer_eq hp] at hin
    obtain ⟨hbefore, hafter⟩ := ht.unsettled_taken hp hs
    have haccepted : (Turn.mk s (.passAnswered true)
        { s with spool := some (spool.answer true) }).accepted? = some line := by
      simp [Turn.accepted?, hb.held, hp, hs]
    refine hb.ofSpool rfl rfl hin rfl ?_
    rw [haccepted, hbefore, hafter]
    exact List.perm_middle
  | false =>
    have hin := hb.inOrder.withPass (ht.failed hs)
    rw [← Spool.answer_eq hp] at hin
    refine hb.ofSpool rfl rfl hin rfl ?_
    rw [(ht.unsettled_failed hp hs).2]
    exact List.Perm.refl _

/-- What happens to all monitors at once moves no courier. -/
theorem Balanced.all (hb : Balanced start h s spool) (me : Monitor.Event)
    (hme : me.isOfCourier = false) (hposts : t.posts = (s.moveAll me).posts)
    (hspool : t.spool = s.spool) (hhanded : (Turn.mk s e t).handed? = none)
    (haccepted : (Turn.mk s e t).accepted? = none) : Balanced start (h ++ [⟨s, e, t⟩]) t spool := by
  have hpost : ∀ post ∈ s.posts, ∀ state, Monitor.step post.plan post.state me = some state →
      Monitor.Orderly state ∧ state.courier = post.state.courier := by
    intro post hmem state hstep
    obtain ⟨s', ds, hact, rfl⟩ := Monitor.step_eq_some hstep
    -- the event is not one of the courier, which stays as it is
    have hturn := Monitor.turn_of_act hact
    exact ⟨(hb.posts post hmem).2.snoc hturn, (Monitor.sameCourier_of_turn hturn hme).courier⟩
  have hflight : t.posts.flatMap inFlight = s.posts.flatMap inFlight := by
    rw [hposts, State.moveAll, List.flatMap_map]
    refine List.flatMap_congr fun post hmem => ?_
    split
    · next state hstep => rw [inFlight, inFlight, (hpost post hmem state hstep).2]
    · rfl
  refine hb.snoc (hspool.trans hb.held) hb.inOrder hb.reports (fun post' hmem' => ?_) ?_
  · rw [hposts, State.moveAll] at hmem'
    obtain ⟨post, hmem, rfl⟩ := List.mem_map.mp hmem'
    split
    · next state hstep => exact ⟨(hb.posts post hmem).1, (hpost post hmem state hstep).1⟩
    · exact hb.posts post hmem
  · rw [hhanded, haccepted, hflight]
    simp

/-- **The sum is kept at every event**, if what is put into the spool can be read again. -/
theorem Balanced.step (hb : Balanced start h s spool) (hstep : step s e = some t)
    (hkept : ∀ r ∈ (Turn.mk s e t).kept?, isReport (reportLine r) = true) :
    ∃ spool', Balanced start (h ++ [⟨s, e, t⟩]) t spool' := by
  cases e with
  | monitor place me =>
    rw [Daemon.step] at hstep
    split at hstep
    · next hown => exact ⟨spool, hb.monitor hown hstep⟩
    · simp at hstep
  | kept place =>
    rw [Daemon.step] at hstep
    split at hstep
    · next r held hstoring heq => exact ⟨_, hb.keeps hstoring (hkept r hstoring) hstep⟩
    · simp at hstep
  | resenderTicks =>
    simp only [Daemon.step, hb.held] at hstep
    split at hstep
    · next held resender heq hresender =>
      obtain rfl := Option.some.inj heq
      split at hstep
      · next hdue =>
        obtain rfl := Option.some.inj hstep
        rw [Bool.and_eq_true, Option.isNone_iff_eq_none] at hdue
        exact hb.attends hdue.2 resender
      · simp at hstep
    · simp at hstep
  | passAdvances =>
    simp only [Daemon.step, hb.held] at hstep
    split at hstep
    · next hfree =>
      obtain rfl := Option.some.inj hstep
      obtain ⟨p, hp, hs⟩ : ∃ p, spool.pass = some p ∧ p.sending = none := by
        simpa [Option.any_eq_true] using hfree
      exact ⟨_, hb.advances hp hs⟩
    · simp at hstep
  | passAnswered ok =>
    simp only [Daemon.step, hb.held] at hstep
    split at hstep
    · next hwaits =>
      obtain rfl := Option.some.inj hstep
      obtain ⟨r, hr⟩ := Option.isSome_iff_exists.mp hwaits
      obtain ⟨p, hp, hsending⟩ := Option.bind_eq_some_iff.mp hr
      obtain ⟨⟨line, r'⟩, hs, rfl⟩ := Option.map_eq_some_iff.mp hsending
      exact ⟨_, hb.answers hp hs ok⟩
    · simp at hstep
  | resenderStops =>
    rw [Daemon.step] at hstep
    split at hstep
    · split at hstep
      · obtain rfl := Option.some.inj hstep
        exact ⟨spool, hb.ofSpool hb.held rfl hb.inOrder rfl (List.Perm.refl _)⟩
      · simp at hstep
    · simp at hstep
  | shutDown =>
    obtain rfl := Option.some.inj hstep
    exact ⟨spool, hb.all .cancelled rfl rfl rfl rfl rfl⟩
  | elapsed span =>
    obtain rfl := Option.some.inj hstep
    exact ⟨spool, hb.all (.elapsed span) rfl rfl rfl rfl rfl⟩

/-- The sum is kept along every run. -/
theorem Balanced.run (hb : Balanced start h s spool) {es : List Event} (hrun : run s es = some t)
    (hkept : ∀ r ∈ kept (history s es), isReport (reportLine r) = true) :
    ∃ spool', Balanced start (h ++ history s es) t spool' := by
  induction es generalizing h s spool with
  | nil =>
    obtain rfl := Option.some.inj hrun
    exact ⟨spool, by simpa [history] using hb⟩
  | cons e es ih =>
    rw [Daemon.run] at hrun
    cases hstep : Daemon.step s e with
    | none => simp [hstep] at hrun
    | some u =>
      rw [hstep] at hrun
      rw [history, hstep] at hkept ⊢
      obtain ⟨spool', hb'⟩ := hb.step hstep fun r hr =>
        hkept r (List.mem_filterMap.mpr ⟨_, List.mem_cons_self, hr⟩)
      have hrest : ∀ r ∈ kept (history u es), isReport (reportLine r) = true := by
        intro r hr
        obtain ⟨turn, hturn, heq⟩ := List.mem_filterMap.mp hr
        exact hkept r (List.mem_filterMap.mpr ⟨turn, List.mem_cons_of_mem _ hturn, heq⟩)
      simpa using ih hb' hrun hrest

end Balance

/-! ### Whole runs -/

section Runs

variable {plans : List Monitor.Plan} {file : Option Bytes}

/-- The sum before anything has happened. -/
theorem balanced_starting {spool : Spool} (hin : spool.IsInOrder) (hpass : spool.pass = none)
    (hreports : ∀ line ∈ Spool.entries spool.octets, isReport line = true)
    (hplans : ∀ p ∈ plans, p.keepsFailed = true) (every : Span) (now : Moment) :
    Balanced (Spool.entries spool.octets) [] (State.starting plans (some spool) every now) spool
    where
  held := rfl
  inOrder := hin
  reports := by
    rw [Spool.unsettled_of_none hpass]
    exact hreports
  posts post hmem := by
    obtain ⟨p, hp, rfl⟩ := List.mem_map.mp hmem
    exact ⟨hplans p hp, Monitor.orderly_starting p now⟩
  sum := by
    have hflight : (State.starting plans (some spool) every now).posts.flatMap inFlight = [] := by
      rw [State.starting, List.flatMap_map]
      exact List.flatMap_eq_nil_iff.mpr fun p _ => rfl
    rw [hflight, Spool.unsettled_of_none hpass]
    simp [handed, accepted]

/-- When all monitors have stopped, nothing is in flight. -/
theorem inFlight_of_stopped {posts : List Post} (ho : ∀ post ∈ posts, Monitor.Orderly post.state)
    (hstopped : ∀ post ∈ posts, post.state.isStopped = true) : posts.flatMap inFlight = [] := by
  refine List.flatMap_eq_nil_iff.mpr fun post hmem => ?_
  have hphase : post.state.phase = .stopped := by
    have := hstopped post hmem
    rw [Monitor.State.isStopped] at this
    split at this
    · assumption
    · simp at this
  have hdelivered := (ho post hmem).isDelivered hphase
  rw [Monitor.State.isDelivered] at hdelivered
  split at hdelivered
  · next hidle => rw [inFlight, hidle]
  · simp at hdelivered

/-- **No report is lost and none is delivered twice.** Let the monitors keep what has failed, as
they do when a spool is configured, and let the file be proper and hold only reports. However the
monitors, the resender and the receiver take turns, when the daemon has done its work – because the
streams have ended or because it was shut down – every report handed to the receiver and every entry
that the file had at first was taken once or is one entry of the file. All that is asked is that the
reports put into the spool can be read again, and all that is not minded is carriage returns at the
ends of lines. -/
theorem run_delivers (plans : List Monitor.Plan) (file : Option Bytes)
    (hplans : ∀ p ∈ plans, p.keepsFailed = true) (hfile : Spool.IsProper (file.getD []))
    (hreports : ∀ line ∈ Spool.entries (file.getD []), isReport line = true) (every : Span)
    (now : Moment) :
    ∃ spool, Spool.openOn file = .ok spool ∧ ∀ es s,
      run (State.starting plans (some spool) every now) es = some s → s.isDone = true →
      let h := history (State.starting plans (some spool) every now) es
      (∀ r ∈ kept h, isReport (reportLine r) = true) →
      ∃ spool', s.spool = some spool' ∧ Spool.IsProper spool'.octets ∧
        let due := (Spool.entries (file.getD [])).map Lines.bare ++ (handed h).map reportLine
        let taken := (accepted h).map Lines.bare
        let left := (Spool.entries spool'.octets).map Lines.bare
        due.Perm (taken ++ left) ∧
        ∀ line, due.count line = 1 →
          taken.count line = 1 ∧ line ∉ left ∨ line ∉ taken ∧ left.count line = 1 := by
  obtain ⟨spool, hopen, hin, hoctets, hpass⟩ := Spool.exists_openOn hfile
  refine ⟨spool, hopen, ?_⟩
  intro es s hrun hdone h hkept
  rw [← hoctets] at hreports ⊢
  obtain ⟨spool', hb⟩ := (balanced_starting hin hpass hreports hplans every now).run hrun hkept
  rw [List.nil_append] at hb
  rw [State.isDone, Bool.and_eq_true, Bool.and_eq_true, Bool.not_eq_true'] at hdone
  obtain ⟨⟨hstopped, hpassing⟩, -⟩ := hdone
  have hflight : s.posts.flatMap inFlight = [] :=
    inFlight_of_stopped (fun post hmem => (hb.posts post hmem).2) (List.all_eq_true.mp hstopped)
  have hnone : spool'.pass = none := by
    rw [State.isPassing, hb.held] at hpassing
    simpa using hpassing
  have hsum := hb.sum
  rw [hflight, List.nil_append, Spool.unsettled_of_none hnone] at hsum
  refine ⟨spool', hb.held, hb.inOrder.proper, ?_⟩
  intro due taken left
  -- reports are written without carriage returns
  have hreported : ((handed h).map reportLine).map Lines.bare = (handed h).map reportLine := by
    rw [List.map_map]
    exact List.map_congr_left fun r _ => Spool.bare_reportLine r
  have hdue : due.Perm (taken ++ left) := by
    change (_ ++ (handed h).map reportLine).Perm _
    rw [← hreported, ← List.map_append, ← List.map_append]
    exact hsum
  refine ⟨hdue, fun line hline => ?_⟩
  have hcount : taken.count line + left.count line = 1 := by
    rw [← List.count_append, ← hdue.count_eq line, hline]
  rw [← List.count_eq_zero, ← List.count_eq_zero]
  omega

/-- A daemon with one monitor, whose report is taken, and one report in the file, which fails again.
-/
theorem run_delivers_two_reports :
    let p : Monitor.Plan := ⟨"m", .custom ⟨"a", .containing [97]⟩, none, none, none, true, true, 0⟩
    let es : List Event := [.monitor 0 .opened, .monitor 0 (.received [97, 10]),
      .monitor 0 (.lineTaken ⟨0, 0⟩), .monitor 0 (.streamEnded ⟨0, 0⟩), .monitor 0 .flusherLooks,
      .monitor 0 .flusherStops, .monitor 0 .joined, .monitor 0 (.dispatched ⟨"", 0⟩ none),
      .elapsed 1, .resenderTicks, .passAdvances, .monitor 0 (.answered true), .passAnswered false,
      .passAdvances, .monitor 0 .closed, .resenderStops]
    ∃ spool s spool', Spool.openOn (some (Spool.shortReport ++ [10])) = .ok spool ∧
      run (State.starting [p] (some spool) 1 0) es = some s ∧ s.isDone = true ∧
      s.spool = some spool' ∧
      (handed (history (State.starting [p] (some spool) 1 0) es)).length = 1 ∧
      ([Spool.shortReport].map Lines.bare ++
        (handed (history (State.starting [p] (some spool) 1 0) es)).map reportLine).Perm
        ((accepted (history (State.starting [p] (some spool) 1 0) es)).map Lines.bare ++
          (Spool.entries spool'.octets).map Lines.bare) := by
  intro p es
  have hentries : Spool.entries (Spool.shortReport ++ [10]) = [Spool.shortReport] := by
    decide +kernel
  obtain ⟨spool, hopen, h⟩ := run_delivers [p] (some (Spool.shortReport ++ [10]))
    (fun q hq => by rw [List.mem_singleton.mp hq]) Spool.isProper_shortReport
    (by decide +kernel) 1 0
  obtain rfl := Except.ok.inj (Spool.openOn_shortReport.symm.trans hopen)
  obtain ⟨s, hs, hdone⟩ : ∃ s, run (State.starting [p]
      (some ⟨some (Spool.shortReport ++ [10]), 1, 1, none⟩) 1 0) es = some s ∧ s.isDone = true := by
    rw [← Option.any_eq_true]
    decide +kernel
  have hkept : (kept (history (State.starting [p]
      (some ⟨some (Spool.shortReport ++ [10]), 1, 1, none⟩) 1 0) es)).length = 0 := by
    decide +kernel
  obtain ⟨spool', hheld, -, hperm, -⟩ := h es s hs hdone fun r hr => by
    rw [List.length_eq_zero_iff.mp hkept] at hr
    simp at hr
  change ((Spool.entries (Spool.shortReport ++ [10])).map _ ++ _).Perm _ at hperm
  rw [hentries] at hperm
  exact ⟨_, s, spool', hopen, hs, hdone, hheld, by decide +kernel, hperm⟩

end Runs

end Daemon

end LogWatch
