import SymbolRelay.Proofs.Handling.Lifecycle
import SymbolRelay.Standin.RetryLoop

/-!
# Whatever ends a run, it cleans up

A run can end before it subscribed to anything, while it subscribes, between two rounds and within one,
with a result, an error or a panic. It gives back what it opened in three places: where it closes its
routes at the end, where it drops the routes that ended, and where it drops all of them on its way out of
an error or a panic. Each subscription that it opened is held by the run, or it is gone:

```text
opened = held ∪ gone,   and a run that has returned holds nothing
```

## Results

* `Effect.holds` — whatever an act does, what was opened is held or gone;
* `Tidy.move`, `tidy_play` — one move keeps a router tidy, and so does a whole life;
* `phases_in_order` — what a router is seen to be doing changes in one direction only;
* `every_exit_cleans_up` — all of it.
-/

set_option autoImplicit false

namespace SymbolRelay

variable {ξ : Type}

/-! ## Subscriptions of the queue -/

/-- A subscription of the queue: its feed was opened for its topic, and the queue is what it settles with.
If it was closed before, nobody is registered for it. -/
structure Handed (q : Queue) (s : Subscription ξ) : Prop where
  broker : s.broker = Broker.ofQueue
  given : q.GivenFor s.feed s.topic
  closed : s.closed = true → q.Gone s.feed

namespace Handed

variable {q : Queue} {s : Subscription ξ}

theorem after (h : Handed q s) (requests : List Queue.Request) : Handed (q.after requests) s where
  broker := h.broker
  given := h.given.after requests
  closed hc := (h.closed hc).after requests

/-- **A subscription that is dropped is not registered any more.** -/
theorem farewell (h : Handed q s) : (q.after s.farewell).Gone s.feed := by
  unfold Subscription.farewell
  cases hc : s.closed with
  | true => exact (h.closed hc).after _
  | false => exact (Queue.gone_of_unsubscribe h.given).serve (.dropReceiver s.feed)

end Handed

/-- A router whose subscriber hands out subscriptions of the queue. It may fail and panic whenever it is
called, and as little is known of the handlers, the middleware and the publisher. -/
structure Router.HandsOut (r : Router ξ) : Prop where
  around : r.Keeps (World.Beside fun _ => True)
  subscribe : ∀ ctx topic, (r.subscriber.subscribe ctx topic).Keeps (World.Beside fun _ => True)
  handed : ∀ ctx topic w s w', w.queue.Reached →
    r.subscriber.subscribe ctx topic w = (.ok s, w') → Handed w'.queue s
  close : r.subscriber.close.Keeps (World.Beside fun _ => True)

/-- What the subscriber over the queue hands out is a subscription of the queue. -/
theorem Handed.of_subscribe {ctx : Context} {topic : String} {w w' : World ξ} {s : Subscription ξ}
    (hq : w.queue.Reached)
    (h : (Subscriber.ofBroker Broker.ofQueue).subscribe ctx topic w = (.ok s, w')) :
    Handed w'.queue s := by
  obtain ⟨hserved, hs⟩ := Subscriber.subscribe_eq_ok h
  have hgiven := Queue.givenFor_subscribe hq (by rw [hserved])
  rw [hserved] at hgiven
  rw [hs]
  exact ⟨rfl, hgiven, nofun⟩

/-! ## One act -/

/-- A route that a run may hold. -/
structure Holdable (q : Queue) (route : Route ξ) : Prop where
  handed : Handed q route.subscription
  handler : route.handler.Keeps (World.Beside fun _ => True)

theorem Holdable.beside {w w' : World ξ} {allowed : Queue.Request → Prop} {route : Route ξ}
    (h : Holdable w.queue route) (hb : w.Beside allowed w') : Holdable w'.queue route := by
  obtain ⟨requests, _, hqueue⟩ := hb.queue
  rw [hqueue]
  exact ⟨h.handed.after requests, h.handler⟩

/-! ## What is opened and what is held -/

/-- Every feed that a run opened is gone, or the feed of a route that it holds. -/
structure Course.Holds (w : World ξ) (opened : List Nat) (stage : Stage ξ) : Prop where
  reached : w.queue.Reached
  routes : ∀ route ∈ stage.routes, Holdable w.queue route
  covered : ∀ id ∈ opened, w.queue.Gone id ∨ ∃ route ∈ stage.routes, route.subscription.feed = id

namespace Course

variable {w w' : World ξ} {opened : List Nat} {stage stage' : Stage ξ} {allowed : Queue.Request → Prop}

theorem gone_beside {id : Nat} (h : w.queue.Gone id) (hb : w.Beside allowed w') : w'.queue.Gone id := by
  obtain ⟨requests, _, hqueue⟩ := hb.queue
  rw [hqueue]
  exact h.after requests

theorem Holds.beside (h : Holds w opened stage) (hb : w.Beside allowed w') : Holds w' opened stage where
  reached := hb.reached h.reached
  routes route hr := (h.routes route hr).beside hb
  covered id hid := (h.covered id hid).imp_left fun hgone => gone_beside hgone hb

theorem Holds.routes_congr (h : Holds w opened stage)
    (hroutes : ∀ route, route ∈ stage'.routes ↔ route ∈ stage.routes) : Holds w opened stage' where
  reached := h.reached
  routes route hr := h.routes route ((hroutes route).mp hr)
  covered id hid := (h.covered id hid).imp_right fun ⟨route, hr, hfeed⟩ =>
    ⟨route, (hroutes route).mpr hr, hfeed⟩

/-- What an act of a router that hands out subscriptions can count on. -/
theorem Holds.setting {r : Router ξ} (hr : r.HandsOut) (h : Holds w opened stage) (ctx : Context) :
    Setting r ctx (fun _ => True) w stage where
  broker route hroute := (h.routes route hroute).handed.broker
  subscribe registration _ := hr.subscribe ctx registration.topic w
  judge passed route m ahead hstage := by
    have hroute := h.routes route (by simp [hstage, Stage.routes])
    exact Router.judge_keeps World.Beside.tolerant hr.around.publisher hroute.handler m w
  receive _ := trivial
  ack _ := trivial
  nack _ _ := trivial

/-- **Whatever an act does, what was opened is held or gone.** -/
theorem Effect.holds [RetryLoop] {r : Router ξ} (hr : r.HandsOut) {ctx : Context}
    (hawaited : ∀ registration ∈ stage.awaited, registration ∈ r.registrations)
    (he : Effect r ctx allowed w stage stage' w') (h : Holds w opened stage) :
    Holds w' (opened ++ (opens? r ⟨ctx, stage⟩ w).toList) stage' := by
  cases he with
  | kept hshows hopens hroutes hbeside =>
    rw [hopens, Option.toList_none, List.append_nil]
    exact (h.beside hbeside).routes_congr hroutes
  | shown phase hshows hopens hroutes =>
    rw [hopens, Option.toList_none, List.append_nil]
    have hshown : Holds (Run.setPhase phase w) opened stage := ⟨h.reached, h.routes, h.covered⟩
    exact hshown.routes_congr hroutes
  | opened registration route hshows hopens hroutes hmem hsubscribe hhandler hbeside =>
    have hkept := h.beside hbeside
    refine ⟨hkept.reached, ?_, ?_⟩
    · intro other ho
      rcases (hroutes other).mp ho with ho | rfl
      · exact hkept.routes other ho
      · refine ⟨hr.handed ctx registration.topic w _ w' h.reached hsubscribe, ?_⟩
        rw [hhandler]
        exact Router.chain_keeps World.Beside.tolerant hr.around.middleware
          (hr.around.handlers registration (hawaited registration hmem))
    · intro id hid
      rw [hopens, Option.toList_some] at hid
      rcases List.mem_append.mp hid with hid | hid
      · exact (hkept.covered id hid).imp_right fun ⟨other, ho, hfeed⟩ =>
          ⟨other, (hroutes other).mpr (.inl ho), hfeed⟩
      · exact .inr ⟨route, (hroutes route).mpr (.inr rfl), (List.mem_singleton.mp hid).symm⟩
  | gaveBack route hgives hshows hopens hroutes =>
    rw [hopens, Option.toList_none, List.append_nil]
    have hhanded := (h.routes route ((hroutes route).mpr (.inl rfl))).handed
    have hbeside : w.Beside (fun _ => True)
        { w with queue := w.queue.after route.subscription.farewell } :=
      ⟨rfl, rfl, id, fun _ hs => hs, _, fun _ _ => trivial, rfl⟩
    have hkept := h.beside hbeside
    refine ⟨hkept.reached, fun other ho => hkept.routes other ((hroutes other).mpr (.inr ho)), ?_⟩
    intro id hid
    rcases hkept.covered id hid with hgone | ⟨other, ho, rfl⟩
    · exact .inl hgone
    · rcases (hroutes other).mp ho with rfl | ho
      · exact .inl hhanded.farewell
      · exact .inr ⟨other, ho, rfl⟩

end Course

/-! ## A life -/

namespace Lifecycle

/-- Whatever is done beside a router may be done at any time. -/
def Free (l : Lifecycle ξ) : Move ξ → Prop
  | .meanwhile world => l.world.Beside (fun _ => True) world
  | _ => True

/-- A router that was not called to run yet. -/
structure Unbegun (l : Lifecycle ξ) : Prop where
  course : l.course = none
  reached : l.world.queue.Reached
  started : l.world.control.started = false
  phase : l.world.control.phase = .stopped
  opened : l.opened = []

/-- A router that was called to run. -/
structure Begun (r : Router ξ) (l : Lifecycle ξ) (c : Course ξ) : Prop where
  course : l.course = some c
  started : l.world.control.started = true
  fits : c.stage.Fits l.world.control.phase
  awaited : ∀ registration ∈ c.stage.awaited, registration ∈ r.registrations
  holds : Course.Holds l.world l.opened c.stage
  released : ∀ outcome, c.stage = .returned outcome → l.released = true

/-- Something happened in which the run has no part. -/
structure Apart (l l' : Lifecycle ξ) : Prop where
  world : l.world.Beside (fun _ => True) l'.world
  caller : l'.caller = l.caller
  course : l'.course = l.course
  released : l'.released = l.released
  opened : l'.opened = l.opened
  taken : l'.taken = l.taken
  settled : l'.settled = l.settled

section Lives

variable {r : Router ξ} {l l' : Lifecycle ξ} {c : Course ξ}

theorem Unbegun.apart (h : Unbegun l) (ha : Apart l l') : Unbegun l' where
  course := ha.course.trans h.course
  reached := ha.world.reached h.reached
  started := ha.world.started.trans h.started
  phase := ha.world.phase.trans h.phase
  opened := ha.opened.trans h.opened

theorem Begun.apart (h : Begun r l c) (ha : Apart l l') : Begun r l' c where
  course := ha.course.trans h.course
  started := ha.world.started.trans h.started
  fits := ha.world.phase ▸ h.fits
  awaited := h.awaited
  holds := ha.opened ▸ h.holds.beside ha.world
  released outcome ho := ha.released.trans (h.released outcome ho)

theorem close_apart (l : Lifecycle ξ) : Apart l l.close :=
  ⟨⟨rfl, rfl, fun _ => rfl, fun _ hs => hs, [], by simp, rfl⟩, rfl, rfl, rfl, rfl, rfl, rfl⟩

theorem closeOn_apart (hr : r.HandsOut) (k : Nat) (l : Lifecycle ξ) : Apart l (l.closeOn r k) := by
  unfold closeOn
  split
  · exact ⟨.refl _, rfl, rfl, rfl, rfl, rfl, rfl⟩
  · exact ⟨.refl _, rfl, rfl, rfl, rfl, rfl, rfl⟩
  · exact ⟨.refl _, rfl, rfl, rfl, rfl, rfl, rfl⟩
  · exact ⟨hr.close l.world, rfl, rfl, rfl, rfl, rfl, rfl⟩
  · exact ⟨.refl _, rfl, rfl, rfl, rfl, rfl, rfl⟩
  · exact ⟨.refl _, rfl, rfl, rfl, rfl, rfl, rfl⟩

theorem Unbegun.run_eq (h : Unbegun l) (ctx : Context) :
    l.run ctx = { l with
      world := { l.world with control := { l.world.control with started := true } }
      caller := some ctx
      course := some ⟨ctx, .admitted⟩ } := by
  simp only [Lifecycle.run, h.started, Bool.false_eq_true, if_false]

/-- The first call to run. -/
theorem Unbegun.run (h : Unbegun l) (ctx : Context) : Begun r (l.run ctx) ⟨ctx, .admitted⟩ := by
  rw [h.run_eq]
  refine ⟨rfl, rfl, h.phase, nofun, ⟨h.reached, nofun, ?_⟩, nofun⟩
  intro id hid
  rw [h.opened] at hid
  exact absurd hid List.not_mem_nil

/-- **A call to run that finds the router begun is answered at once**, and does nothing. -/
theorem Begun.run (h : Begun r l c) (ctx : Context) :
    l.run ctx = { l with answers := l.answers ++ [.ok ()] } := by
  simp only [Lifecycle.run, h.started, if_true]

theorem Begun.answers (h : Begun r l c) (answers : List (Outcome RouterError Unit)) :
    Begun r { l with answers } c := ⟨h.course, h.started, h.fits, h.awaited, h.holds, h.released⟩

/-- **The next act of a run keeps what holds of it**, and it goes on in one direction only. -/
theorem Begun.advance [RetryLoop] (hr : r.HandsOut) (h : Begun r l c) :
    Begun r (l.advance r) (c.step r l.rung l.world).1 ∧
      c.stage.era l.world.control.phase ≤
        (c.step r l.rung l.world).1.stage.era (l.advance r).world.control.phase := by
  rw [advance_of_some h.course]
  obtain ⟨ctx, stage⟩ := c
  by_cases hadmitted : stage = .admitted
  · subst hadmitted
    have hstopped : l.world.control.phase = .stopped := h.fits
    have hgone : ∀ id ∈ l.opened ++ [], l.world.queue.Gone id ∨
        ∃ route ∈ ([] : List (Route ξ)), route.subscription.feed = id := by
      rw [List.append_nil]
      exact h.holds.covered
    simp only [Course.step, Course.setOut]
    cases l.world.control.closing with
    | true =>
      exact ⟨⟨rfl, h.started, trivial, List.forall_mem_nil _, ⟨h.holds.reached, List.forall_mem_nil _, hgone⟩,
        fun _ hover => by cases hover⟩, Nat.le_refl _⟩
    | false =>
      exact ⟨⟨rfl, h.started, hstopped, fun _ hreg => hreg, ⟨h.holds.reached, List.forall_mem_nil _, hgone⟩,
        fun _ hover => by cases hover⟩, Nat.le_refl _⟩
  · have hstep := Course.step_of_ne r l.rung ctx hadmitted l.world
    have heffect := Course.act_effect l.rung (h.holds.setting hr ctx) hadmitted
    obtain ⟨hstarted, hphase⟩ := heffect.control
    obtain ⟨hfits, hera⟩ := Course.fits_act r l.rung ctx l.world h.fits
    rw [hstep]
    refine ⟨⟨rfl, hstarted.trans h.started, ?_, fun registration hreg => ?_,
      heffect.holds hr h.awaited h.holds, ?_⟩, ?_⟩
    · simp only [hphase]
      exact hfits
    · exact h.awaited registration (Course.awaited_act hreg)
    · intro outcome hreturned
      rcases Course.releases_or_returned hreturned with hreleases | hover
      · simp only [hreleases, Bool.or_true]
      · simp only [h.released outcome hover, Bool.true_or]
    · simp only [hphase]
      exact hera

/-- A move is a call to run, or the next act of the run, or the run has no part in it. -/
theorem move_cases [RetryLoop] (hr : r.HandsOut) {m : Move ξ} (hm : l.Free m) :
    (∃ ctx, m = .run ctx) ∨ m = .advance ∨ acts [m] = 0 ∧ Apart l (l.move r m) := by
  cases m with
  | run ctx => exact .inl ⟨ctx, rfl⟩
  | advance => exact .inr (.inl rfl)
  | close => exact .inr (.inr ⟨rfl, close_apart l⟩)
  | closer k => exact .inr (.inr ⟨rfl, closeOn_apart hr k l⟩)
  | meanwhile world => exact .inr (.inr ⟨rfl, hm, rfl, rfl, rfl, rfl, rfl, rfl⟩)

/-- What holds of a router at any time. -/
def Tidy (r : Router ξ) (l : Lifecycle ξ) : Prop := Unbegun l ∨ ∃ c, Begun r l c

/-- How far a router is: its run was not in its rounds yet, is in them, is out of them, or is over. -/
def era (l : Lifecycle ξ) : Nat := (l.course.map fun c => c.stage.era l.world.control.phase).getD 0

theorem era_apart (ha : Apart l l') : l'.era = l.era := by
  simp only [era, ha.course, ha.world.phase]

/-- **One move keeps a router tidy**, and does not set it back. -/
theorem Tidy.move [RetryLoop] (hr : r.HandsOut) (h : Tidy r l) {m : Move ξ} (hm : l.Free m) :
    Tidy r (l.move r m) ∧ l.era ≤ (l.move r m).era := by
  rcases move_cases hr hm with ⟨ctx, rfl⟩ | rfl | ⟨_, ha⟩
  · rcases h with h | ⟨c, h⟩
    · exact ⟨.inr ⟨_, h.run ctx⟩, by simp [era, h.course]⟩
    · simp only [Lifecycle.move, h.run ctx]
      exact ⟨.inr ⟨c, h.answers _⟩, Nat.le_refl _⟩
  · rcases h with h | ⟨c, h⟩
    · have hsame : l.advance r = l := by simp only [Lifecycle.advance, h.course]
      simp only [Lifecycle.move, hsame]
      exact ⟨.inl h, Nat.le_refl _⟩
    · obtain ⟨hnext, hera⟩ := h.advance hr
      refine ⟨.inr ⟨_, hnext⟩, ?_⟩
      simp only [era, h.course, hnext.course, Lifecycle.move, Option.map_some, Option.getD_some]
      exact hera
  · refine ⟨?_, Nat.le_of_eq (era_apart ha).symm⟩
    rcases h with h | ⟨c, h⟩
    · exact .inl (h.apart ha)
    · exact .inr ⟨c, h.apart ha⟩

/-- What is shown at each of these. -/
def phaseAt : Nat → Phase
  | 1 => .running
  | 2 => .draining
  | _ => .stopped

theorem Tidy.phase (h : Tidy r l) : l.world.control.phase = phaseAt l.era := by
  rcases h with h | ⟨c, h⟩
  · simp only [era, h.course, Option.map_none, Option.getD_none]
    exact h.phase
  · have hfits := h.fits
    have hlater : ∀ phase : Phase, phase = phaseAt phase.era := by
      intro phase
      cases phase <;> rfl
    simp only [era, h.course, Option.map_some, Option.getD_some]
    obtain ⟨ctx, stage⟩ := c
    cases stage with
    | releasing | returned => exact hfits
    | _ => exact hlater _

theorem Tidy.era_le (h : Tidy r l) : l.era ≤ 3 := by
  rcases h with h | ⟨c, h⟩
  · simp [era, h.course]
  · simp only [era, h.course, Option.map_some, Option.getD_some]
    exact c.stage.era_le _

/-- A router is tidy all along its life. -/
theorem tidy_play [RetryLoop] (hr : r.HandsOut) (h : Tidy r l) {moves : List (Move ξ)}
    (hm : Along r Free l moves) : Tidy r (play r l moves) :=
  play_keeps (fun _ _ hfree htidy => (htidy.move hr hfree).1) h hm

/-- A router is not set back. -/
theorem eras_ascending [RetryLoop] (hr : r.HandsOut) (h : Tidy r l) {moves : List (Move ξ)}
    (hm : Along r Free l moves) : ((states r l moves).map era).Pairwise (· ≤ ·) := by
  induction moves generalizing l with
  | nil => exact List.pairwise_singleton _ _
  | cons m moves ih =>
    obtain ⟨hnext, hera⟩ := h.move hr hm.1
    refine List.pairwise_cons.mpr ⟨?_, ih hnext hm.2⟩
    intro e he
    obtain ⟨s, hs, rfl⟩ := List.mem_map.mp he
    refine states_keep (P := fun s => Tidy r s ∧ l.era ≤ s.era) ?_ ⟨hnext, hera⟩ hm.2 s hs |>.2
    intro s m hfree hs
    obtain ⟨hstill, hgrown⟩ := hs.1.move hr hfree
    exact ⟨hstill, Nat.le_trans hs.2 hgrown⟩

/-- Numbers up to three that ascend are zeros, ones, twos and threes, in this order. -/
theorem blocks_of_ascending {eras : List Nat} (h : eras.Pairwise (· ≤ ·)) (hle : ∀ e ∈ eras, e ≤ 3) :
    ∃ a b c d, eras = List.replicate a 0 ++ List.replicate b 1 ++ List.replicate c 2 ++
      List.replicate d 3 := by
  induction eras with
  | nil => exact ⟨0, 0, 0, 0, rfl⟩
  | cons e eras ih =>
    rw [List.pairwise_cons] at h
    obtain ⟨a, b, c, d, hblocks⟩ := ih h.2 fun e' he' => hle e' (List.mem_cons_of_mem _ he')
    have hfirst := hle e List.mem_cons_self
    -- A smaller number after this one would be out of order.
    have hnone : ∀ n k, n < e → (∀ x ∈ List.replicate k n, x ∈ eras) → k = 0 := by
      intro n k hlt hsub
      cases k with
      | zero => rfl
      | succ k =>
        have hle := h.1 n (hsub n (by simp))
        omega
    rcases (by omega : e = 0 ∨ e = 1 ∨ e = 2 ∨ e = 3) with rfl | rfl | rfl | rfl
    · exact ⟨a + 1, b, c, d, by rw [hblocks]; rfl⟩
    · obtain rfl := hnone 0 a (by omega) fun x hx => by simp [hblocks, hx]
      exact ⟨0, b + 1, c, d, by rw [hblocks]; rfl⟩
    · obtain rfl := hnone 0 a (by omega) fun x hx => by simp [hblocks, hx]
      obtain rfl := hnone 1 b (by omega) fun x hx => by simp [hblocks, hx]
      exact ⟨0, 0, c + 1, d, by rw [hblocks]; rfl⟩
    · obtain rfl := hnone 0 a (by omega) fun x hx => by simp [hblocks, hx]
      obtain rfl := hnone 1 b (by omega) fun x hx => by simp [hblocks, hx]
      obtain rfl := hnone 2 c (by omega) fun x hx => by simp [hblocks, hx]
      exact ⟨0, 0, 0, d + 1, by rw [hblocks]; rfl⟩

/-- **What a router is seen to be doing changes in one direction only**: it is stopped, it runs, it drains,
and it is stopped again. -/
theorem phases_in_order [RetryLoop] (hr : r.HandsOut) (h : Tidy r l) {moves : List (Move ξ)}
    (hm : Along r Free l moves) :
    ∃ a b c d, phases r l moves = List.replicate a .stopped ++ List.replicate b .running ++
      List.replicate c .draining ++ List.replicate d .stopped := by
  have htidy := states_keep (P := Tidy r) (fun _ _ hfree h => (h.move hr hfree).1) h hm
  have hphases : phases r l moves = ((states r l moves).map era).map phaseAt := by
    rw [phases, List.map_map]
    exact List.map_congr_left fun s hs => (htidy s hs).phase
  obtain ⟨a, b, c, d, hblocks⟩ := blocks_of_ascending (eras_ascending hr h hm) fun e he => by
    obtain ⟨s, hs, rfl⟩ := List.mem_map.mp he
    exact (htidy s hs).era_le
  refine ⟨a, b, c, d, ?_⟩
  rw [hphases, hblocks]
  simp only [List.map_append, List.map_replicate, phaseAt]

/-! ## A router that was closed before it was called to run -/

/-- Closing was asked for before the router was called to run: it does nothing and shows nothing. -/
structure Shut (l : Lifecycle ξ) : Prop where
  closing : l.world.control.closing = true
  phase : l.world.control.phase = .stopped
  opened : l.opened = []
  refused : ∀ c, l.course = some c → c.stage.Refused

theorem Shut.apart (h : Shut l) (ha : Apart l l') : Shut l' where
  closing := ha.world.closing h.closing
  phase := ha.world.phase.trans h.phase
  opened := ha.opened.trans h.opened
  refused c hc := h.refused c (ha.course ▸ hc)

/-- A run that finds the router closed opens nothing and ends at once. -/
theorem Shut.advance [RetryLoop] (h : Shut l) (r : Router ξ) : Shut (l.advance r) := by
  cases hcourse : l.course with
  | none =>
    have hsame : l.advance r = l := by simp only [Lifecycle.advance, hcourse]
    rw [hsame]
    exact h
  | some c =>
    have hrefused := h.refused c hcourse
    rw [advance_of_some hcourse]
    obtain ⟨ctx, stage⟩ := c
    have hnone : l.opened ++ [] = [] := by rw [List.append_nil, h.opened]
    cases stage with
    | admitted =>
      simp only [Course.step, Course.setOut, h.closing, if_true]
      exact ⟨h.closing, h.phase, hnone, fun c hc => by cases hc; trivial⟩
    | giving outcome left =>
      obtain ⟨rfl, rfl⟩ := hrefused
      exact ⟨h.closing, rfl, hnone, fun c hc => by cases hc; rfl⟩
    | releasing outcome => exact ⟨h.closing, h.phase, hnone, fun c hc => by cases hc; exact hrefused⟩
    | returned outcome => exact ⟨h.closing, h.phase, hnone, fun c hc => by cases hc; exact hrefused⟩
    | _ => exact hrefused.elim

theorem Shut.move [RetryLoop] (hr : r.HandsOut) (h : Shut l) {m : Move ξ} (hm : l.Free m) :
    Shut (l.move r m) := by
  rcases move_cases hr hm with ⟨ctx, rfl⟩ | rfl | ⟨_, ha⟩
  · simp only [Lifecycle.move, Lifecycle.run]
    split
    · exact ⟨h.closing, h.phase, h.opened, h.refused⟩
    · exact ⟨h.closing, h.phase, h.opened, fun c hc => by cases hc; trivial⟩
  · exact h.advance r
  · exact h.apart ha

theorem Unbegun.shut (h : Unbegun l) (hclosing : l.world.control.closing = true) : Shut l :=
  ⟨hclosing, h.phase, h.opened, fun c hc => by simp [h.course] at hc⟩

theorem Shut.outcome (h : Shut l) {outcome : Outcome RouterError Unit} (ho : l.outcome? = some outcome) :
    outcome = .error .closed := by
  cases hcourse : l.course with
  | none => simp [outcome?, hcourse] at ho
  | some c =>
    have hrefused := h.refused c hcourse
    obtain ⟨ctx, stage⟩ := c
    simp only [outcome?, hcourse, Option.bind_some, Course.outcome?] at ho
    cases stage with
    | returned o =>
      have hsame : o = outcome := by simpa using ho
      exact hsame ▸ hrefused
    | _ => simp at ho

/-! ## A run that is over -/

/-- **A run that has returned cleaned up.** -/
theorem Tidy.over (h : Tidy r l) {outcome : Outcome RouterError Unit} (ho : l.outcome? = some outcome) :
    l.world.control.phase = .stopped ∧ l.released = true ∧
      ∀ id ∈ l.opened, ¬l.world.queue.Registered id := by
  rcases h with h | ⟨c, h⟩
  · simp [outcome?, h.course] at ho
  · obtain ⟨ctx, stage⟩ := c
    simp only [outcome?, h.course, Option.bind_some, Course.outcome?] at ho
    cases stage with
    | returned o =>
      refine ⟨h.fits, h.released o rfl, fun id hid => ?_⟩
      rcases h.holds.covered id hid with hgone | ⟨route, hr, _⟩
      · exact hgone.unregistered
      · exact absurd hr List.not_mem_nil
    | _ => simp at ho

/-- A call to close that waits goes on once it is released. -/
theorem closeOn_waiting {k : Nat} (hk : l.closers[k]? = some .waiting) (hreleased : l.released = true) :
    (l.closeOn r k).closers[k]? = some .shutting := by
  rw [closeOn_of_waiting hk, hreleased]
  exact getElem?_set_of_some hk _

/-- Once begun, a run is not forgotten. -/
theorem course_move [RetryLoop] (h : l.course ≠ none) (m : Move ξ) : (l.move r m).course ≠ none := by
  cases m with
  | close => exact h
  | meanwhile world => exact h
  | run ctx =>
    simp only [Lifecycle.move, Lifecycle.run]
    split
    · exact h
    · exact Option.some_ne_none _
  | closer k =>
    simp only [Lifecycle.move, closeOn]
    split <;> exact h
  | advance =>
    simp only [Lifecycle.move, Lifecycle.advance]
    split
    · exact h
    · exact Option.some_ne_none _

theorem Tidy.run_begun (h : Tidy r l) (ctx : Context) : (l.run ctx).course ≠ none := by
  rcases h with h | ⟨c, h⟩
  · rw [(h.run (r := r) ctx).course]
    exact nofun
  · rw [h.run ctx]
    simp [h.course]

/-- **Only the first call to run does anything.** -/
theorem Tidy.run_again (h : Tidy r l) (hcourse : l.course ≠ none) (ctx : Context) :
    l.run ctx = { l with answers := l.answers ++ [.ok ()] } := by
  rcases h with h | ⟨c, h⟩
  · exact absurd h.course hcourse
  · exact h.run ctx

end Lives

/-- **Every exit of a run cleans up.** Whatever the registrations are, however the subscriber answers, and
whatever happens around a router from its first call on:

* it is seen to be stopped, to run, to drain and to be stopped again, and never goes back;
* if closing was asked for before it was called to run, it is never seen but stopped, opens nothing, and a
  run of it ends with that answer;
* when the run has ended, it is stopped, who waits in a call to close is released, and nobody is registered
  any more for what the run opened;
* a call to run after the first one is answered well, and nothing else happens. -/
theorem every_exit_cleans_up [RetryLoop] {r : Router ξ} (hr : r.HandsOut) {w : World ξ}
    (hnew : w.control = {}) (hq : w.queue.Reached) {moves : List (Move ξ)}
    (hm : Along r Free { world := w } moves) :
    let l := play r { world := w } moves
    (∃ a b c d, phases r { world := w } moves = List.replicate a .stopped ++ List.replicate b .running ++
      List.replicate c .draining ++ List.replicate d .stopped) ∧
    (∀ before after, moves = before ++ after →
      (play r { world := w } before).course = none →
      (play r { world := w } before).world.control.closing = true →
      (∀ phase ∈ phases r (play r { world := w } before) after, phase = .stopped) ∧ l.opened = [] ∧
        ∀ outcome, l.outcome? = some outcome → outcome = .error .closed) ∧
    (∀ outcome, l.outcome? = some outcome →
      l.world.control.phase = .stopped ∧
      (∀ k : Nat, l.closers[k]? = some .waiting → (l.move r (.closer k)).closers[k]? = some .shutting) ∧
      ∀ id ∈ l.opened, ¬l.world.queue.Registered id) ∧
    ∀ ctx, .run ctx ∈ moves → ∀ other,
      l.move r (.run other) = { l with answers := l.answers ++ [.ok ()] } := by
  intro l
  have hstart : Tidy r { world := w } := .inl ⟨rfl, hq, by simp [hnew], by simp [hnew], rfl⟩
  have htidy : Tidy r l := tidy_play hr hstart hm
  refine ⟨phases_in_order hr hstart hm, ?_, ?_, ?_⟩
  · rintro before after rfl hcourse hclosing
    obtain ⟨hbefore, hafter⟩ := along_append.mp hm
    have hshut : Shut (play r { world := w } before) := by
      rcases tidy_play hr hstart hbefore with h | ⟨c, h⟩
      · exact h.shut hclosing
      · simp [h.course] at hcourse
    have hkept := fun s m hfree (h : Shut s) => Shut.move hr h (m := m) hfree
    have hlater : Shut l := by
      show Shut (play r { world := w } (before ++ after))
      rw [play_append]
      exact play_keeps hkept hshut hafter
    refine ⟨?_, hlater.opened, ?_⟩
    · intro phase hphase
      obtain ⟨s, hs, rfl⟩ := List.mem_map.mp hphase
      exact (states_keep hkept hshut hafter s hs).phase
    · exact fun outcome ho => hlater.outcome ho
  · intro outcome ho
    obtain ⟨hphase, hreleased, hgone⟩ := htidy.over ho
    exact ⟨hphase, fun k hk => closeOn_waiting hk hreleased, hgone⟩
  · intro ctx hmem other
    obtain ⟨before, after, rfl⟩ := List.append_of_mem hmem
    obtain ⟨hbefore, hafter⟩ := along_append.mp hm
    have hbegun : l.course ≠ none := by
      show (play r { world := w } (before ++ .run ctx :: after)).course ≠ none
      rw [play_append]
      exact play_keeps (P := fun l => l.course ≠ none) (fun _ m _ h => course_move h m)
        ((tidy_play hr hstart hbefore).run_begun ctx) hafter.2
    exact htidy.run_again hbegun other

/-! ## A subscriber that panics -/

/-- A subscriber over the queue that panics when it is to subscribe to bills. -/
def billsPanic : Subscriber Unit where
  subscribe ctx topic :=
    if topic = "bills" then Action.raise (.because "no bills")
    else (Subscriber.ofBroker Broker.ofQueue).subscribe ctx topic
  close := (Subscriber.ofBroker Broker.ofQueue).close

/-- Orders and bills are handled by doing nothing. -/
def billsRouter : Router Unit where
  subscriber := billsPanic
  registrations := [⟨"orders", none, fun _ => pure []⟩, ⟨"bills", none, fun _ => pure []⟩]

/-- The router is called to run and to close at once. It subscribes to orders, panics when it subscribes to
bills, and gives the orders back. -/
def billsMoves : List (Move Unit) :=
  [.run { scope := 7 }, .advance, .advance, .close, .closer 0, .closer 0, .closer 0, .advance, .advance,
    .advance, .advance, .run { scope := 8 }]

def billsLife : Lifecycle Unit := play billsRouter { world := { extra := () } } billsMoves

theorem billsRouter_handsOut : billsRouter.HandsOut where
  around := {
    handlers := by
      intro registration hreg m
      simp only [billsRouter, List.mem_cons, List.not_mem_nil, or_false] at hreg
      rcases hreg with rfl | rfl
      · exact .pure World.Beside.tolerant []
      · exact .pure World.Beside.tolerant []
    middleware := nofun
    publisher := nofun }
  subscribe ctx topic := by
    simp only [billsRouter, billsPanic]
    split
    · exact .raise World.Beside.tolerant _
    · exact Subscriber.subscribe_keeps (fun _ => trivial) ctx topic
  handed ctx topic w s w' hq h := by
    simp only [billsRouter, billsPanic] at h
    split at h
    · simp [Action.raise] at h
    · exact Handed.of_subscribe hq h
  close := Subscriber.close_keeps trivial

/-- **A run that panics while it subscribes** gives back the subscription that it has, is stopped, and lets
the call to close go on. -/
theorem billsRouter_cleans_up :
    billsRouter.HandsOut ∧ Along billsRouter Free { world := { extra := () } } billsMoves ∧
      billsLife.outcome? = some (.panic (.because "no bills")) ∧ billsLife.opened = [0] ∧
      billsLife.world.control.phase = .stopped ∧
      (billsLife.closeOn billsRouter 0).closers[0]? = some .shutting ∧
      ¬billsLife.world.queue.Registered 0 ∧
      billsLife.run { scope := 9 } = { billsLife with answers := [.ok (), .ok ()] } := by
  have halong : Along billsRouter Free { world := { extra := () } } billsMoves := by
    simp [Along, billsMoves, Free]
  have houtcome : billsLife.outcome? = some (.panic (.because "no bills")) := by decide +kernel
  have hopened : billsLife.opened = [0] := by decide +kernel
  have hwaiting : billsLife.closers[0]? = some .waiting := by rfl
  obtain ⟨_, _, hover, hagain⟩ := every_exit_cleans_up billsRouter_handsOut rfl .empty halong
  obtain ⟨hphase, hreleased, hgone⟩ := hover _ houtcome
  have hrun := hagain { scope := 7 } List.mem_cons_self { scope := 9 }
  exact ⟨billsRouter_handsOut, halong, houtcome, hopened, hphase, hreleased 0 hwaiting,
    hgone 0 (hopened ▸ List.mem_singleton.mpr rfl), hrun⟩

end Lifecycle

end SymbolRelay
