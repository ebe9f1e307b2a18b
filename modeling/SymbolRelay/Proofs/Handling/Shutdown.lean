import SymbolRelay.Proofs.Handling.Cleanup
import SymbolRelay.Proofs.Handling.Rounds
import SymbolRelay.Standin.RetryLoop

/-!
# A router shuts down gracefully

A router runs over the queue. At some moment it is asked to close, or its context is cancelled. Wherever its
run is then, it settles the message that it has in hand, or takes at most one more and settles that one; it
takes few acts until it has returned, and what it took by then is settled. If nobody else closed the queue
or gave up what the run subscribed to, it returns well.

```text
settled later + owing later ≤ owing now ≤ 1        rank later ≤ rank now - acts ≤ 11 + registrations - acts
```

## Results

* `Steady.move` — a run over the queue settles what it takes, whatever happens around it;
* `Winding.move`, `Winding.play` — once its end was asked for, what is owed and how far the end is;
* `Unharmed.move` — as long as nobody else gives up its feeds, nothing goes wrong with a run;
* `shuts_down_gracefully` — all of it.
-/

set_option autoImplicit false

namespace SymbolRelay

variable {ξ : Type}

namespace Stage

/-- The message that the next act of a run lets be judged, with its route, if it does. -/
def judged? : Stage ξ → Option (Route ξ × Message)
  | .handling _ route m _ => some (route, m)
  | _ => none

/-- Who is cancelled has less to settle. -/
theorem owing_beside {w w' : World ξ} {allowed : Queue.Request → Prop} (h : w.Beside allowed w')
    (stage : Stage ξ) : stage.owing w' ≤ stage.owing w := by
  cases stage with
  | checking passed route ahead idle =>
    cases hc : route.subscription.ctx.isCancelled w.scopes with
    | true => simp [owing, h.isCancelled hc]
    | false =>
      simp only [owing, hc]
      split <;> simp
  | _ => exact Nat.le_refl _

/-- Who is cancelled has less to do. -/
theorem rank_beside {w w' : World ξ} {allowed : Queue.Request → Prop} (h : w.Beside allowed w')
    (stage : Stage ξ) : stage.rank w' ≤ stage.rank w := by
  cases stage with
  | checking passed route ahead idle =>
    cases hc : route.subscription.ctx.isCancelled w.scopes with
    | true => simp [rank, remaining, hc, h.isCancelled hc]
    | false =>
      simp only [rank, remaining, hc]
      split <;> simp
  | _ => exact Nat.le_refl _

end Stage

theorem Course.Asked.beside {ctx : Context} {w w' : World ξ} {allowed : Queue.Request → Prop}
    (h : Course.Asked ctx w) (hb : w.Beside allowed w') : Course.Asked ctx w' :=
  h.imp hb.closing hb.isCancelled

/-- A run that sets out has no routes yet, and shows nothing. -/
theorem Course.setOut_begins (r : Router ξ) (ctx : Context) (w : World ξ) :
    (setOut r ctx w).1.stage.Outside ∧ (setOut r ctx w).1.stage.routes = [] ∧
      (setOut r ctx w).2.control = w.control := by
  simp only [setOut]
  split
  · exact ⟨trivial, rfl, rfl⟩
  · exact ⟨trivial, rfl, rfl⟩

/-- A router over the queue. Its handlers, its middleware and its publisher do whatever they like beside
it. -/
structure Router.OnQueue (r : Router ξ) : Prop where
  subscriber : r.subscriber = Subscriber.ofBroker Broker.ofQueue
  around : r.Keeps (World.Beside fun _ => True)

theorem Router.OnQueue.handsOut {r : Router ξ} (hr : r.OnQueue) : r.HandsOut where
  around := hr.around
  subscribe ctx topic := by
    rw [hr.subscriber]
    exact Subscriber.subscribe_keeps (fun _ => trivial) ctx topic
  handed ctx topic w s w' hq h := by
    rw [hr.subscriber] at h
    exact Handed.of_subscribe hq h
  close := by
    rw [hr.subscriber]
    exact Subscriber.close_keeps trivial

namespace Lifecycle

/-! ## A run over the queue -/

/-- A router that was not called to run yet, and took nothing. -/
structure Fresh (l : Lifecycle ξ) : Prop where
  unbegun : Unbegun l
  released : l.released = false
  taken : l.taken = []
  settled : l.settled = []

/-- A run over the queue. What it took it settled, or has in hand. -/
structure Steady (r : Router ξ) (l : Lifecycle ξ) (c : Course ξ) : Prop where
  begun : Begun r l c
  inside : ∀ ctx, l.caller = some ctx →
    ∀ scopes, ctx.isCancelled scopes = true → c.ctx.isCancelled scopes = true
  calm : c.stage.Calm
  owned : ∀ route ∈ c.stage.routes, Owned c.ctx route
  few : c.stage.routes.length + c.stage.awaited.length ≤ r.registrations.length
  seen : c.stage.Entered ∨ c.stage.Outside ∧ l.world.control.phase = .stopped
  taken : l.taken = l.settled.map (fun t => (t.topic, t.message)) ++ c.stage.inHand
  once : ∀ t ∈ l.settled, t.Once

section Lives

variable {r : Router ξ} {l l' : Lifecycle ξ} {c : Course ξ}

theorem Fresh.new {w : World ξ} (hnew : w.control = {}) (hq : w.queue.Reached) : Fresh { world := w } :=
  ⟨⟨rfl, hq, by simp [hnew], by simp [hnew], rfl⟩, rfl, rfl, rfl⟩

theorem Fresh.apart (h : Fresh l) (ha : Apart l l') : Fresh l' where
  unbegun := h.unbegun.apart ha
  released := ha.released.trans h.released
  taken := ha.taken.trans h.taken
  settled := ha.settled.trans h.settled

theorem Fresh.advance [RetryLoop] (h : Fresh l) : l.advance r = l := by
  simp only [Lifecycle.advance, h.unbegun.course]

theorem Steady.apart (h : Steady r l c) (ha : Apart l l') : Steady r l' c where
  begun := h.begun.apart ha
  inside ctx hcaller := h.inside ctx (ha.caller ▸ hcaller)
  calm := h.calm
  owned := h.owned
  few := h.few
  seen := ha.world.phase ▸ h.seen
  taken := by rw [ha.taken, ha.settled, h.taken]
  once := ha.settled ▸ h.once

theorem Steady.answers (h : Steady r l c) (answers : List (Outcome RouterError Unit)) :
    Steady r { l with answers } c :=
  ⟨h.begun.answers answers, h.inside, h.calm, h.owned, h.few, h.seen, h.taken, h.once⟩

/-- The first call to run. -/
theorem Fresh.run (h : Fresh l) (ctx : Context) : Steady r (l.run ctx) ⟨ctx, .admitted⟩ := by
  have hbegun := h.unbegun.run (r := r) ctx
  rw [h.unbegun.run_eq] at hbegun ⊢
  refine ⟨hbegun, ?_, trivial, nofun, Nat.zero_le _, .inr ⟨trivial, h.unbegun.phase⟩, ?_, ?_⟩
  · intro caller hcaller scopes hcancelled
    obtain rfl : ctx = caller := by simpa using hcaller
    exact hcancelled
  · simp [h.taken, h.settled, Stage.inHand]
  · simp [h.settled]

/-- A run that was admitted sets out with a context of its own, or finds the router closed. -/
theorem Steady.setOut [RetryLoop] (hr : r.OnQueue) {ctx : Context} (h : Steady r l ⟨ctx, .admitted⟩) :
    Steady r (l.advance r) (Course.setOut r ctx l.world).1 := by
  have hbegun := (h.begun.advance hr.handsOut).1
  have hstopped : l.world.control.phase = .stopped := h.begun.fits
  have htaken := h.taken
  rw [advance_of_some h.begun.course] at hbegun ⊢
  simp only [Course.step, Course.setOut, Course.settles?, Course.takes?, Option.toList_none,
    List.append_nil] at hbegun ⊢
  cases hclosing : l.world.control.closing with
  | true =>
    rw [hclosing] at hbegun
    exact ⟨hbegun, h.inside, trivial, List.forall_mem_nil _, Nat.zero_le _, .inr ⟨trivial, hstopped⟩, htaken,
      h.once⟩
  | false =>
    rw [hclosing] at hbegun
    refine ⟨hbegun, ?_, trivial, List.forall_mem_nil _, ?_, .inr ⟨trivial, hstopped⟩, htaken, h.once⟩
    · exact fun caller hcaller scopes hcancelled =>
        Context.child_isCancelled _ (h.inside caller hcaller scopes hcancelled)
    · simp [Stage.routes, Stage.awaited]

/-- **The next act of a run over the queue.** What it takes it settles before it takes more. -/
theorem Steady.advance [RetryLoop] (hr : r.OnQueue) (h : Steady r l c) :
    Steady r (l.advance r) (c.step r l.rung l.world).1 ∧
      (c.stage ≠ .admitted → Course.Goes c.ctx l.world c.stage (c.step r l.rung l.world).1.stage) := by
  obtain ⟨ctx, stage⟩ := c
  by_cases hadmitted : stage = .admitted
  · subst hadmitted
    exact ⟨h.setOut hr, fun hne => absurd rfl hne⟩
  · have hgoes : Course.Goes ctx l.world stage (Course.act r l.rung ctx stage l.world).1 :=
      Course.act_goes hr.subscriber l.rung hadmitted h.calm h.owned
    have hphase := (Course.act_effect l.rung (h.begun.holds.setting hr.handsOut ctx) hadmitted).control.2
    have hbegun := (h.begun.advance hr.handsOut).1
    rw [advance_of_some h.begun.course, Course.step_of_ne r l.rung ctx hadmitted] at hbegun ⊢
    refine ⟨⟨hbegun, h.inside, Course.goes_calm hgoes, Course.goes_owned hgoes h.owned,
      Nat.le_trans (Course.goes_few hgoes) h.few, ?_, ?_, ?_⟩, fun _ => hgoes⟩
    · rcases h.seen with hentered | ⟨houtside, hstopped⟩
      · exact .inl (Course.goes_entered hgoes hentered)
      · refine (Course.goes_outside hgoes houtside).imp Stage.Smooth.entered fun ⟨hnext, hshown⟩ =>
          ⟨hnext, ?_⟩
        rw [hphase, hstopped]
        exact hshown
    · have hhand := Course.goes_inHand (Course.act r l.rung ctx stage l.world).2 hgoes
      simp only [h.taken, List.map_append, List.append_assoc, hhand]
    · intro t ht
      rcases List.mem_append.mp ht with ht | ht
      · exact h.once t ht
      · exact Course.act_settles_once r l.rung h.owned t ht

/-- **Whatever happens around a run**, it stays where it is, or takes its next act. -/
theorem Steady.move [RetryLoop] (hr : r.OnQueue) (h : Steady r l c) {m : Move ξ} (hm : l.Free m) :
    ∃ c', Steady r (l.move r m) c' ∧ (c.stage.Entered → c'.stage.Entered) := by
  rcases move_cases hr.handsOut hm with ⟨ctx, rfl⟩ | rfl | ⟨_, ha⟩
  · simp only [Lifecycle.move, h.begun.run ctx]
    exact ⟨c, h.answers _, id⟩
  · obtain ⟨hnext, hgoes⟩ := h.advance hr
    refine ⟨_, hnext, fun hentered => Course.goes_entered (hgoes fun hadmitted => ?_) hentered⟩
    rw [hadmitted] at hentered
    exact hentered
  · exact ⟨c, h.apart ha, id⟩

/-- A router over the queue at any time. -/
def Kept (r : Router ξ) (l : Lifecycle ξ) : Prop := Fresh l ∨ ∃ c, Steady r l c

theorem Kept.move [RetryLoop] (hr : r.OnQueue) (h : Kept r l) {m : Move ξ} (hm : l.Free m) :
    Kept r (l.move r m) := by
  rcases h with h | ⟨c, h⟩
  · rcases move_cases hr.handsOut hm with ⟨ctx, rfl⟩ | rfl | ⟨_, ha⟩
    · exact .inr ⟨_, h.run ctx⟩
    · simp only [Lifecycle.move, h.advance]
      exact .inl h
    · exact .inl (h.apart ha)
  · obtain ⟨c', hnext, _⟩ := h.move hr hm
    exact .inr ⟨c', hnext⟩

/-- A router that was seen to run came into its rounds. -/
theorem Kept.entered [RetryLoop] (hr : r.OnQueue) (h : Kept r l) {moves : List (Move ξ)}
    (hm : Along r Free l moves) (hrunning : .running ∈ phases r l moves) :
    ∃ c, Steady r (play r l moves) c ∧ c.stage.Entered := by
  refine play_since (K := Kept r) (P := fun l => ∃ c, Steady r l c ∧ c.stage.Entered)
    (fun _ _ hfree hkept => hkept.move hr hfree) ?_ ?_ h hm hrunning
  · rintro s m hfree ⟨c, hsteady, hentered⟩
    obtain ⟨c', hnext, hstill⟩ := hsteady.move hr hfree
    exact ⟨c', hnext, hstill hentered⟩
  · rintro s (hfresh | ⟨c, hsteady⟩) hphase
    · simp [hfresh.unbegun.phase] at hphase
    · refine ⟨c, hsteady, hsteady.seen.resolve_right ?_⟩
      rintro ⟨_, hstopped⟩
      simp [hstopped] at hphase

/-! ## Once its end was asked for -/

/-- The end of the run was asked for: the router was asked to close, or the context with which it was called
to run, or the one that the run made inside it, is cancelled. -/
def Asked (l : Lifecycle ξ) : Prop :=
  l.world.control.closing = true ∨
    ∃ ctx, (l.caller = some ctx ∨ l.course.map (·.ctx) = some ctx) ∧ ctx.isCancelled l.world.scopes = true

/-- A run that came into its rounds, and whose end was asked for. -/
structure Winding (r : Router ξ) (l : Lifecycle ξ) (c : Course ξ) : Prop where
  steady : Steady r l c
  entered : c.stage.Entered
  asked : Course.Asked c.ctx l.world

theorem Steady.winding (h : Steady r l c) (hentered : c.stage.Entered) (hasked : l.Asked) :
    Winding r l c where
  steady := h
  entered := hentered
  asked := by
    rcases hasked with hclosing | ⟨ctx, hctx, hcancelled⟩
    · exact .inl hclosing
    · rcases hctx with hcaller | hcourse
      · exact .inr (h.inside ctx hcaller _ hcancelled)
      · obtain rfl : c.ctx = ctx := by simpa [h.begun.course] using hcourse
        exact .inr hcancelled

/-- **The next act of a run whose end was asked for** settles what is owed, and brings the end nearer. -/
theorem Winding.advance [RetryLoop] (hr : r.OnQueue) (h : Winding r l c) :
    ∃ c', Winding r (l.advance r) c' ∧
      (l.advance r).settled.length + c'.stage.owing (l.advance r).world ≤
        l.settled.length + c.stage.owing l.world ∧
      c'.stage.rank (l.advance r).world ≤ c.stage.rank l.world - 1 := by
  obtain ⟨ctx, stage⟩ := c
  have hadmitted : stage ≠ .admitted := by
    rintro rfl
    exact h.entered
  obtain ⟨hnext, hgoes⟩ := h.steady.advance hr
  have hgoes := hgoes hadmitted
  obtain ⟨hclosing, hlasting⟩ :=
    (Course.act_effect l.rung (h.steady.begun.holds.setting hr.handsOut ctx) hadmitted).lasting
  rw [advance_of_some h.steady.begun.course, Course.step_of_ne r l.rung ctx hadmitted] at hnext ⊢
  rw [Course.step_of_ne r l.rung ctx hadmitted] at hgoes
  refine ⟨_, ⟨hnext, Course.goes_entered hgoes h.entered, h.asked.imp hclosing (hlasting ctx)⟩, ?_, ?_⟩
  · have howing := Course.goes_owing hgoes h.steady.owned h.asked hlasting
    rw [List.length_append, Nat.add_assoc]
    exact Nat.add_le_add_left howing _
  · exact Course.goes_rank hgoes h.steady.owned h.entered h.asked hlasting

/-- Whatever happens once the end of a run was asked for. -/
theorem Winding.move [RetryLoop] (hr : r.OnQueue) (h : Winding r l c) {m : Move ξ} (hm : l.Free m) :
    ∃ c', Winding r (l.move r m) c' ∧
      (l.move r m).settled.length + c'.stage.owing (l.move r m).world ≤
        l.settled.length + c.stage.owing l.world ∧
      c'.stage.rank (l.move r m).world ≤ c.stage.rank l.world - acts [m] := by
  rcases move_cases hr.handsOut hm with ⟨ctx, rfl⟩ | rfl | ⟨hnone, ha⟩
  · simp only [Lifecycle.move, h.steady.begun.run ctx]
    exact ⟨c, ⟨h.steady.answers _, h.entered, h.asked⟩, Nat.le_refl _, Nat.le_refl _⟩
  · exact h.advance hr
  · refine ⟨c, ⟨h.steady.apart ha, h.entered, h.asked.beside ha.world⟩, ?_, ?_⟩
    · rw [ha.settled]
      exact Nat.add_le_add_left (c.stage.owing_beside ha.world) _
    · rw [hnone]
      exact c.stage.rank_beside ha.world

theorem acts_cons (m : Move ξ) (moves : List (Move ξ)) : acts (m :: moves) = acts [m] + acts moves := by
  cases m <;> simp [acts, Nat.add_comm]

/-- **From the moment at which its end was asked for**, a run settles no more than it owes, and each of its
acts brings it nearer to its end. -/
theorem Winding.play [RetryLoop] (hr : r.OnQueue) (h : Winding r l c) {moves : List (Move ξ)}
    (hm : Along r Free l moves) :
    ∃ c', Winding r (play r l moves) c' ∧
      (play r l moves).settled.length + c'.stage.owing (play r l moves).world ≤
        l.settled.length + c.stage.owing l.world ∧
      c'.stage.rank (play r l moves).world ≤ c.stage.rank l.world - acts moves := by
  induction moves generalizing l c with
  | nil => exact ⟨c, h, Nat.le_refl _, Nat.le_refl _⟩
  | cons m moves ih =>
    obtain ⟨c', hnext, howing, hrank⟩ := h.move hr hm.1
    obtain ⟨c'', hlast, howing', hrank'⟩ := ih hnext hm.2
    refine ⟨c'', hlast, Nat.le_trans howing' howing, ?_⟩
    have hacts := acts_cons m moves
    exact Nat.le_trans hrank' (by omega)

end Lives

/-! ## As long as nobody else gives up its feeds -/

/-- The topics and the feeds that the run subscribed to. -/
def feeds (l : Lifecycle ξ) : List (String × Nat) :=
  l.routes.map fun route => (route.subscription.topic, route.subscription.feed)

/-- Others neither close the queue nor give up what the run subscribed to, be it meanwhile or while a message
is handled. -/
def Sparing (r : Router ξ) (l : Lifecycle ξ) : Move ξ → Prop
  | .meanwhile world => l.world.Beside (Queue.Request.Spares l.feeds) world
  | .advance =>
    match l.course.bind (·.stage.judged?) with
    | some (route, m) => l.world.Beside (Queue.Request.Spares l.feeds) (r.judge route m l.world).2
    | none => True
  | _ => True

/-- Who closes the router does not close the queue before the run gave back what it has. -/
structure Guarded (l : Lifecycle ξ) : Prop where
  asked : l.closers ≠ [] → l.world.control.closing = true
  released : l.released = true → ∀ c, l.course = some c → ∃ outcome, c.stage = .returned outcome
  patient : .shutting ∈ l.closers → ∀ c, l.course = some c → ¬c.stage.Open

/-- A run over the queue whose feeds nobody else gives up. -/
structure Unharmed (r : Router ξ) (l : Lifecycle ξ) (c : Course ξ) : Prop where
  steady : Steady r l c
  guarded : Guarded l
  tended : c.stage.Open → ∀ route ∈ c.stage.routes,
    l.world.queue.Tended route.subscription.feed route.subscription.topic
  seen : c.stage.Smooth ∨ c.stage.Outside ∧ l.world.control.phase = .stopped

section Spared

variable {r : Router ξ} {l l' : Lifecycle ξ} {c : Course ξ}

/-- What is spared is done beside the router. -/
theorem Sparing.free {m : Move ξ} (hm : l.Sparing r m) : l.Free m := by
  cases m with
  | meanwhile world =>
    obtain ⟨requests, _, hqueue⟩ := hm.queue
    exact ⟨hm.started, hm.phase, hm.closing, hm.cancelled, requests, fun _ _ => trivial, hqueue⟩
  | _ => trivial

theorem Steady.mem_feeds (h : Steady r l c) {route : Route ξ} (hroute : route ∈ c.stage.routes) :
    (route.subscription.topic, route.subscription.feed) ∈ l.feeds := by
  refine List.mem_map.mpr ⟨route, ?_, rfl⟩
  simpa only [routes, h.begun.course, Option.map_some, Option.getD_some] using hroute

theorem Guarded.new (w : World ξ) : Guarded { world := w } := ⟨fun hne => absurd rfl hne, nofun, nofun⟩

theorem Guarded.apart (h : Guarded l) (ha : Apart l l')
    (hasked : l'.closers ≠ [] → l.closers ≠ [] ∨ l'.world.control.closing = true)
    (hpatient : .shutting ∈ l'.closers → .shutting ∈ l.closers ∨ ∀ c, l.course = some c → ¬c.stage.Open) :
    Guarded l' where
  asked hne := (hasked hne).elim (fun hold => ha.world.closing (h.asked hold)) id
  released hr c hc := h.released (ha.released ▸ hr) c (ha.course ▸ hc)
  patient hs c hc := (hpatient hs).elim (fun hold => h.patient hold c (ha.course ▸ hc))
    (fun hshut => hshut c (ha.course ▸ hc))

theorem Guarded.close (h : Guarded l) : Guarded l.close := by
  refine h.apart (close_apart l) (fun _ => .inr rfl) fun hs => .inl ?_
  rcases List.mem_append.mp hs with hs | hs
  · exact hs
  · cases hclosing : l.world.control.closing <;> simp [hclosing] at hs

/-- Who closes a router that was called to run waits for the end of the run. -/
theorem Guarded.closeOn (hr : r.HandsOut) (h : Guarded l)
    (hstarted : ∀ c, l.course = some c → l.world.control.started = true) (k : Nat) :
    Guarded (l.closeOn r k) := by
  refine h.apart (closeOn_apart hr k l) ?_ ?_
  · intro hne
    refine .inl fun hnone => hne ?_
    simp [Lifecycle.closeOn, hnone]
  · have hset : ∀ next, .shutting ∈ l.closers.set k next → .shutting ∈ l.closers ∨ .shutting = next :=
      fun _ => List.mem_or_eq_of_mem_set
    simp only [Lifecycle.closeOn]
    split
    · exact fun hs => (hset _ hs).imp_right fun hnext => by cases hnext
    · -- It finds that the router was called to run.
      refine fun hs => (hset _ hs).imp_right fun hnext c hc => ?_
      simp [hstarted c hc] at hnext
    · -- It goes on only if the run is over.
      refine fun hs => (hset _ hs).imp_right fun hnext c hc hopen => ?_
      cases hreleased : l.released with
      | false => simp [hreleased] at hnext
      | true =>
        obtain ⟨outcome, hover⟩ := h.released hreleased c hc
        rw [hover] at hopen
        exact hopen
    · exact fun hs => (hset _ hs).imp_right fun hnext => by cases hnext
    · exact .inl
    · exact .inl

/-- What spares the feeds of a run leaves them live. -/
theorem Unharmed.tended_beside (h : Unharmed r l c) (hopen : c.stage.Open) {w : World ξ}
    (hspared : l.world.Beside (Queue.Request.Spares l.feeds) w) : ∀ route ∈ c.stage.routes,
      w.queue.Tended route.subscription.feed route.subscription.topic := by
  intro route hroute
  obtain ⟨requests, hspares, hqueue⟩ := hspared.queue
  rw [hqueue]
  exact (h.tended hopen route hroute).after (h.steady.mem_feeds hroute) hspares

/-- What happens around a run that nobody disturbs. -/
theorem Unharmed.apart (h : Unharmed r l c) (ha : Apart l l') (hguarded : Guarded l')
    (hspared : c.stage.Open → l.world.Beside (Queue.Request.Spares l.feeds) l'.world) : Unharmed r l' c where
  steady := h.steady.apart ha
  guarded := hguarded
  tended hopen := h.tended_beside hopen (hspared hopen)
  seen := ha.world.phase ▸ h.seen

/-- An act of a run that nobody disturbs keeps its feeds live. -/
theorem Unharmed.tended_act [RetryLoop] (hr : r.OnQueue) {ctx : Context} {stage : Stage ξ}
    (h : Unharmed r l ⟨ctx, stage⟩) (hm : l.Sparing r .advance) (hadmitted : stage ≠ .admitted)
    (hopen : stage.Open) :
    ∀ route ∈ (Course.act r l.rung ctx stage l.world).1.routes,
      (Course.act r l.rung ctx stage l.world).2.queue.Tended route.subscription.feed
        route.subscription.topic := by
  have hsetting : Course.Setting r ctx (Queue.Request.Spares l.feeds) l.world stage := {
    broker := fun route hroute => (h.steady.owned route hroute).broker
    subscribe := fun registration _ => by
      rw [hr.subscriber]
      exact Subscriber.subscribe_keeps (fun _ => ⟨nofun, fun _ _ => rfl⟩) ctx registration.topic l.world
    judge := fun passed route m ahead hstage => by
      subst hstage
      simp only [Sparing, h.steady.begun.course] at hm
      exact hm
    receive := fun _ => ⟨nofun, fun _ _ => rfl⟩
    ack := fun _ => ⟨nofun, fun _ _ => rfl⟩
    nack := fun _ _ => ⟨nofun, fun _ _ => rfl⟩ }
  have heffect := Course.act_effect l.rung hsetting hadmitted
  generalize Course.act r l.rung ctx stage l.world = next at heffect
  obtain ⟨stage', w'⟩ := next
  cases heffect with
  | kept hshows hopens hroutes hbeside =>
    exact fun route hroute => h.tended_beside hopen hbeside route ((hroutes route).mp hroute)
  | shown phase hshows hopens hroutes =>
    exact fun route hroute => h.tended hopen route ((hroutes route).mp hroute)
  | opened registration route hshows hopens hroutes hawaited hsubscribe hhandler hbeside =>
    intro other hother
    rcases (hroutes other).mp hother with hother | rfl
    · exact h.tended_beside hopen hbeside other hother
    · rw [hr.subscriber] at hsubscribe
      obtain ⟨hserved, hs⟩ := Subscriber.subscribe_eq_ok hsubscribe
      have htended := Queue.tended_subscribe h.steady.begun.holds.reached (by rw [hserved])
      rw [hserved] at htended
      rw [hs]
      exact htended
  | gaveBack route hgives =>
    -- It gives routes back when it lost some, or at its end.
    cases stage with
    | parting lost panic kept idle =>
      rcases h.seen with hsmooth | ⟨houtside, _⟩
      · exact hsmooth.elim
      · exact houtside.elim
    | giving outcome left => exact hopen.elim
    | _ => simp [Stage.gives?] at hgives

/-- The run releases who waits for its end when it is over, and sets out only if nobody asked it to close. -/
theorem Guarded.advance [RetryLoop] (hr : r.OnQueue) (hguarded : Guarded l) (h : Steady r l c) :
    Guarded (l.advance r) := by
  obtain ⟨ctx, stage⟩ := c
  have hcourse := h.begun.course
  by_cases hadmitted : stage = .admitted
  · subst hadmitted
    have hunreleased : l.released = false := by
      refine Bool.eq_false_iff.mpr fun hreleased => ?_
      obtain ⟨outcome, hover⟩ := hguarded.released hreleased _ hcourse
      cases hover
    rw [advance_of_some hcourse]
    simp only [Course.step, Course.setOut, Course.releases, hunreleased, Bool.false_or]
    cases hclosing : l.world.control.closing with
    | true =>
      exact ⟨fun _ => hclosing, fun h => absurd h Bool.false_ne_true, fun _ c hc => by cases hc; exact id⟩
    | false =>
      have hnone : l.closers = [] := by
        by_contra hne
        simp [hguarded.asked hne] at hclosing
      exact ⟨fun hne => absurd hnone hne, fun h => absurd h Bool.false_ne_true,
        fun hmem => by simp [hnone] at hmem⟩
  · have hgoes := (h.advance hr).2 hadmitted
    have hlasting :=
      (Course.act_effect l.rung (h.begun.holds.setting hr.handsOut ctx) hadmitted).lasting.1
    rw [advance_of_some hcourse, Course.step_of_ne r l.rung ctx hadmitted] at *
    refine ⟨fun hne => hlasting (hguarded.asked hne), ?_, ?_⟩
    · rintro hreleased c hc
      obtain rfl := Option.some.inj hc
      refine Course.goes_over hgoes ?_
      rcases Bool.or_eq_true_iff.mp hreleased with hreleased | hreleases
      · exact .inr (hguarded.released hreleased _ hcourse)
      · exact .inl hreleases
    · rintro hmem c hc
      obtain rfl := Option.some.inj hc
      exact Course.goes_shut hgoes hadmitted (hguarded.patient hmem _ hcourse)

/-- **The next act of a run that nobody disturbs.** -/
theorem Unharmed.advance [RetryLoop] (hr : r.OnQueue) (h : Unharmed r l c) (hm : l.Sparing r .advance) :
    Unharmed r (l.advance r) (c.step r l.rung l.world).1 ∧
      (c.stage.Smooth → (c.step r l.rung l.world).1.stage.Smooth) := by
  obtain ⟨hsteady, hgoes⟩ := h.steady.advance hr
  have hguarded := h.guarded.advance hr h.steady
  obtain ⟨ctx, stage⟩ := c
  by_cases hadmitted : stage = .admitted
  · subst hadmitted
    have hstopped : l.world.control.phase = .stopped := h.steady.begun.fits
    obtain ⟨houtside, hroutes, hcontrol⟩ := Course.setOut_begins r ctx l.world
    refine ⟨⟨hsteady, hguarded, ?_, .inr ⟨houtside, ?_⟩⟩, fun hsmooth => hsmooth.elim⟩
    · intro _ route hroute
      simp [Course.step, hroutes] at hroute
    · rw [advance_of_some h.steady.begun.course]
      simp only [Course.step, hcontrol, hstopped]
  · have hgoes := hgoes hadmitted
    have hphase :=
      (Course.act_effect l.rung (h.steady.begun.holds.setting hr.handsOut ctx) hadmitted).control.2
    have hsmooth : stage.Smooth → (Course.step r l.rung ⟨ctx, stage⟩ l.world).1.stage.Smooth :=
      fun hsmooth => Course.goes_smooth hgoes hsmooth fun hopen route hroute =>
        (h.tended hopen route hroute).receive
    refine ⟨⟨hsteady, hguarded, ?_, ?_⟩, hsmooth⟩
    · intro hnext
      have hopen : stage.Open := by
        by_contra hshut
        exact Course.goes_shut hgoes hadmitted hshut hnext
      rw [advance_of_some h.steady.begun.course, Course.step_of_ne r l.rung ctx hadmitted]
      exact h.tended_act hr hm hadmitted hopen
    · rcases h.seen with hseen | ⟨houtside, hstopped⟩
      · exact .inl (hsmooth hseen)
      · refine (Course.goes_outside hgoes houtside).imp_right fun hnext => ⟨hnext.1, ?_⟩
        rw [advance_of_some h.steady.begun.course, Course.step_of_ne r l.rung ctx hadmitted]
        simp only [hphase, hstopped]
        exact hnext.2

/-- **Whatever happens around a run that nobody disturbs**, nothing goes wrong with it. -/
theorem Unharmed.move [RetryLoop] (hr : r.OnQueue) (h : Unharmed r l c) {m : Move ξ} (hm : l.Sparing r m) :
    ∃ c', Unharmed r (l.move r m) c' ∧ (c.stage.Smooth → c'.stage.Smooth) := by
  have hstarted : ∀ c', l.course = some c' → l.world.control.started = true :=
    fun _ _ => h.steady.begun.started
  cases m with
  | run ctx =>
    simp only [Lifecycle.move, h.steady.begun.run ctx]
    have hguarded : Guarded { l with answers := l.answers ++ [.ok ()] } :=
      ⟨h.guarded.asked, h.guarded.released, h.guarded.patient⟩
    exact ⟨c, ⟨h.steady.answers _, hguarded, h.tended, h.seen⟩, id⟩
  | advance => exact ⟨_, h.advance hr hm⟩
  | close =>
    refine ⟨c, h.apart (close_apart l) h.guarded.close fun _ => ?_, id⟩
    exact ⟨rfl, rfl, fun _ => rfl, fun _ hs => hs, [], by simp, rfl⟩
  | closer k =>
    refine ⟨c, h.apart (closeOn_apart hr.handsOut k l) (h.guarded.closeOn hr.handsOut hstarted k) ?_, id⟩
    intro hopen
    simp only [Lifecycle.move, Lifecycle.closeOn]
    split
    · exact .refl _
    · exact .refl _
    · exact .refl _
    · rename_i hshutting
      exact absurd hopen (h.guarded.patient (List.mem_of_getElem? hshutting) c h.steady.begun.course)
    · exact .refl _
    · exact .refl _
  | meanwhile world =>
    have ha : Apart l { l with world } := ⟨hm.free, rfl, rfl, rfl, rfl, rfl, rfl⟩
    exact ⟨c, h.apart ha (h.guarded.apart ha .inl .inl) fun _ => hm, id⟩

/-- The first call to run. -/
theorem Fresh.unharmed (h : Fresh l) (hguarded : Guarded l) (ctx : Context) :
    Unharmed r (l.run ctx) ⟨ctx, .admitted⟩ := by
  have hsteady := h.run (r := r) ctx
  rw [h.unbegun.run_eq] at hsteady ⊢
  refine ⟨hsteady, ⟨hguarded.asked, ?_, ?_⟩, nofun, .inr ⟨trivial, h.unbegun.phase⟩⟩
  · simp [h.released]
  · intro _ c hc
    obtain rfl := Option.some.inj hc
    exact id

/-- A router over the queue at any time, if nobody else gives up its feeds. -/
def Safe (r : Router ξ) (l : Lifecycle ξ) : Prop := Fresh l ∧ Guarded l ∨ ∃ c, Unharmed r l c

theorem Safe.move [RetryLoop] (hr : r.OnQueue) (h : Safe r l) {m : Move ξ} (hm : l.Sparing r m) :
    Safe r (l.move r m) := by
  rcases h with ⟨hfresh, hguarded⟩ | ⟨c, h⟩
  · have hstarted : ∀ c, l.course = some c → l.world.control.started = true := by
      simp [hfresh.unbegun.course]
    cases m with
    | run ctx => exact .inr ⟨_, hfresh.unharmed hguarded ctx⟩
    | advance =>
      simp only [Lifecycle.move, hfresh.advance]
      exact .inl ⟨hfresh, hguarded⟩
    | close => exact .inl ⟨hfresh.apart (close_apart l), hguarded.close⟩
    | closer k =>
      exact .inl ⟨hfresh.apart (closeOn_apart hr.handsOut k l), hguarded.closeOn hr.handsOut hstarted k⟩
    | meanwhile world =>
      have ha : Apart l { l with world } := ⟨hm.free, rfl, rfl, rfl, rfl, rfl, rfl⟩
      exact .inl ⟨hfresh.apart ha, hguarded.apart ha .inl .inl⟩
  · obtain ⟨c', hnext, _⟩ := h.move hr hm
    exact .inr ⟨c', hnext⟩

/-- A router that was seen to run came into its rounds, and nothing went wrong since. -/
theorem Safe.smooth [RetryLoop] (hr : r.OnQueue) (h : Safe r l) {moves : List (Move ξ)}
    (hm : Along r (Sparing r) l moves) (hrunning : .running ∈ phases r l moves) :
    ∃ c, Unharmed r (play r l moves) c ∧ c.stage.Smooth := by
  refine play_since (K := Safe r) (P := fun l => ∃ c, Unharmed r l c ∧ c.stage.Smooth)
    (fun _ _ hspared hsafe => hsafe.move hr hspared) ?_ ?_ h hm hrunning
  · rintro s m hspared ⟨c, hunharmed, hsmooth⟩
    obtain ⟨c', hnext, hstill⟩ := hunharmed.move hr hspared
    exact ⟨c', hnext, hstill hsmooth⟩
  · rintro s (⟨hfresh, _⟩ | ⟨c, hunharmed⟩) hphase
    · simp [hfresh.unbegun.phase] at hphase
    · refine ⟨c, hunharmed, hunharmed.seen.resolve_right ?_⟩
      rintro ⟨_, hstopped⟩
      simp [hstopped] at hphase

end Spared

/-! ## The end -/

section End

variable {r : Router ξ} {l : Lifecycle ξ} {c : Course ξ}

/-- What a run ended with is told by its stage. -/
theorem Steady.returned_of_outcome (h : Steady r l c) {outcome : Outcome RouterError Unit}
    (ho : l.outcome? = some outcome) : c.stage = .returned outcome := by
  simp only [outcome?, h.begun.course, Option.bind_some, Course.outcome?] at ho
  cases hstage : c.stage with
  | returned o => simpa [hstage] using ho
  | _ => simp [hstage] at ho

/-- A run that has nothing more to do has returned. -/
theorem Winding.returned (h : Winding r l c) (hrank : c.stage.rank l.world = 0) :
    ∃ outcome, l.outcome? = some outcome := by
  have hentered := h.entered
  simp only [outcome?, h.steady.begun.course, Option.bind_some, Course.outcome?]
  cases hstage : c.stage with
  | returned outcome => exact ⟨outcome, rfl⟩
  | admitted | subscribing =>
    rw [hstage] at hentered
    exact hentered.elim
  | checking passed route ahead idle =>
    rw [hstage] at hrank
    simp only [Stage.rank, Stage.remaining] at hrank
    split at hrank <;> omega
  | _ => simp [hstage, Stage.rank, Stage.remaining] at hrank

end End

/-- **A router shuts down gracefully.** It runs over the queue; what its handlers, its middleware, its
publisher and all others do beside it is up to them. It was seen to run, and then it was asked to close, or
its context, or one around it, was cancelled: while it rests, between two looks at whether to close, when it
is about to take a message, while a handler is at it, or anywhere else. From that moment on, whatever happens:

* at most one more message is settled;
* each message that was settled was acked once or nacked once, and when the run has returned these are all the
  messages that were taken out of its subscriptions. A message is judged in one act with all its attempts, so
  the one in hand has the attempts that are left to it;
* the run has returned after as many of its acts as there are registrations, and eleven;
* it returns well, or finds all its subscriptions ended. The latter does not happen if others do not close the
  queue and do not give up what the run subscribed to. -/
theorem shuts_down_gracefully [RetryLoop] {r : Router ξ} (hr : r.OnQueue) {w : World ξ}
    (hnew : w.control = {}) (hq : w.queue.Reached) {before after : List (Move ξ)}
    (hm : Along r Free { world := w } (before ++ after))
    (hrunning : .running ∈ phases r { world := w } before) (hasked : (play r { world := w } before).Asked) :
    let asked := play r { world := w } before
    let l := play r { world := w } (before ++ after)
    l.settled.length ≤ asked.settled.length + 1 ∧
    (∀ t ∈ l.settled, t.Once) ∧
    (∀ outcome, l.outcome? = some outcome → l.taken = l.settled.map fun t => (t.topic, t.message)) ∧
    (r.registrations.length + 11 ≤ acts after → ∃ outcome, l.outcome? = some outcome) ∧
    (∀ outcome, l.outcome? = some outcome → outcome = .ok () ∨ outcome = .error .subscriptionsLost) ∧
    (Along r (Sparing r) { world := w } (before ++ after) →
      ∀ outcome, l.outcome? = some outcome → outcome = .ok ()) := by
  intro asked l
  have hfresh : Fresh { world := w } := .new hnew hq
  obtain ⟨hbefore, hafter⟩ := along_append.mp hm
  obtain ⟨c, hsteady, hentered⟩ := Kept.entered hr (.inl hfresh) hbefore hrunning
  obtain ⟨c', hwinding, howing, hrank⟩ := (hsteady.winding hentered hasked).play hr hafter
  have hl : play r asked after = l := (play_append r { world := w } before after).symm
  rw [hl] at hwinding howing hrank
  refine ⟨?_, hwinding.steady.once, ?_, ?_, ?_, ?_⟩
  · have hone := c.stage.owing_le (play r { world := w } before).world
    show l.settled.length ≤ (play r { world := w } before).settled.length + 1
    omega
  · intro outcome ho
    have hnone : c'.stage.inHand = [] := by
      rw [hwinding.steady.returned_of_outcome ho]
      rfl
    rw [hwinding.steady.taken, hnone, List.append_nil]
  · intro hacts
    have hleft := c.stage.remaining_le (play r { world := w } before).world
    have hfew := hsteady.few
    refine hwinding.returned ?_
    simp only [Stage.rank] at hrank ⊢
    omega
  · intro outcome ho
    have hended := hwinding.entered
    rw [hwinding.steady.returned_of_outcome ho] at hended
    exact hended
  · intro hspared outcome ho
    obtain ⟨c'', hunharmed, hsmooth⟩ := Safe.smooth hr (.inl ⟨hfresh, .new w⟩) hspared
      (mem_phases_append hrunning after)
    have hreturned := hunharmed.steady.returned_of_outcome ho
    rw [hreturned] at hsmooth
    exact hsmooth

/-! ## A letter that takes two attempts -/

/-- Letters are handled at the second attempt. While the first one is made, the router is asked to close. -/
def letterHandler : Handler Bool := fun _ w =>
  if w.extra then (.ok [], w)
  else (.error (.other "not yet"), { Router.askToClose w with extra := true })

def letterRouter : Router Bool where
  subscriber := .ofBroker .ofQueue
  registrations := [{ topic := "letters", handler := letterHandler }]

theorem letterHandler_keeps (allowed : Queue.Request → Prop) :
    letterHandler.Keeps (World.Beside allowed) := by
  intro m w
  simp only [letterHandler]
  split
  · exact .refl w
  · exact ⟨rfl, rfl, fun _ => rfl, fun _ hs => hs, [], by simp, rfl⟩

theorem letterRouter_judges [RetryLoop] (allowed : Queue.Request → Prop) {route : Route Bool}
    (hroute : route.handler = letterRouter.chain letterHandler) (m : Message) (w : World Bool) :
    w.Beside allowed (letterRouter.judge route m w).2 := by
  have hchain : (letterRouter.chain letterHandler).Keeps (World.Beside allowed) :=
    Router.chain_keeps World.Beside.tolerant nofun (letterHandler_keeps allowed)
  rw [← hroute] at hchain
  exact Router.judge_keeps World.Beside.tolerant (by simp [letterRouter]) hchain m w

theorem letterRouter_onQueue : letterRouter.OnQueue where
  subscriber := rfl
  around := {
    handlers := by
      intro registration hreg
      obtain rfl : registration = { topic := "letters", handler := letterHandler } := by
        simpa [letterRouter] using hreg
      exact letterHandler_keeps _
    middleware := nofun
    publisher := nofun }

/-- The router is called to run, and subscribes to letters. -/
def lettersOpened : List (Move Bool) := [.run { scope := 9 }, .advance, .advance, .advance]

/-- Two letters. -/
def letters : List Queue.Request :=
  [.publish "letters" { uuid := "m1", payload := [] }, .publish "letters" { uuid := "m2", payload := [] }]

/-- They are published. -/
def lettersPublished : World Bool :=
  let w := (play letterRouter { world := { extra := false } } lettersOpened).world
  { w with queue := w.queue.after letters }

/-- The router takes the first letter, and it is judged. -/
def lettersBefore : List (Move Bool) :=
  lettersOpened ++ [.meanwhile lettersPublished, .advance, .advance, .advance, .advance, .advance]

/-- Then another call to close comes, and waits for the end of the run. -/
def lettersAfter : List (Move Bool) :=
  [.close, .closer 0] ++ List.replicate 12 .advance ++ [.closer 0, .closer 0]

/-- **The letter at hand is tried again and acked**, the other one is left, and the run returns well. -/
theorem letters_shut_down :
    let before := play letterRouter { world := { extra := false } } lettersBefore
    let l := play letterRouter { world := { extra := false } } (lettersBefore ++ lettersAfter)
    letterRouter.OnQueue ∧
      Along letterRouter Free { world := { extra := false } } (lettersBefore ++ lettersAfter) ∧
      before.Asked ∧ before.settled.length = 0 ∧ l.settled.length ≤ 1 ∧
      l.settled.map (·.acked) = [["m1"]] ∧ l.taken = l.settled.map (fun t => (t.topic, t.message)) ∧
      l.outcome? = some (.ok ()) := by
  intro before l
  have hpublished : ∀ allowed : Queue.Request → Prop, (∀ topic m, allowed (.publish topic m)) →
      (play letterRouter { world := { extra := false } } lettersOpened).world.Beside allowed
        lettersPublished := fun allowed hallowed =>
    ⟨rfl, rfl, id, fun _ hs => hs, letters, by simp [letters, hallowed], rfl⟩
  have hfree : Along letterRouter Free { world := { extra := false } } (lettersBefore ++ lettersAfter) := by
    refine along_append.mpr ⟨along_append.mpr ⟨?_, ?_⟩, ?_⟩
    · exact ⟨trivial, trivial, trivial, trivial, trivial⟩
    · exact ⟨hpublished _ fun _ _ => trivial, trivial, trivial, trivial, trivial, trivial, trivial⟩
    · simp [lettersAfter, Along, Free, List.replicate]
  have hspared : Along letterRouter (Sparing letterRouter) { world := { extra := false } }
      (lettersBefore ++ lettersAfter) := by
    refine along_append.mpr ⟨along_append.mpr ⟨?_, ?_⟩, ?_⟩
    · exact ⟨trivial, trivial, trivial, trivial, trivial⟩
    · refine ⟨hpublished _ fun _ _ => ⟨by simp, fun _ _ => rfl⟩, trivial, trivial, trivial, trivial, ?_,
        trivial⟩
      exact letterRouter_judges _ rfl _ _
    · iterate 16 refine ⟨trivial, ?_⟩
      trivial
  have hrunning : .running ∈ phases letterRouter { world := { extra := false } } lettersBefore := by
    decide +kernel
  have hasked : before.Asked := .inl (by decide +kernel)
  have hnone : before.settled.length = 0 := by decide +kernel
  obtain ⟨hone, _, htaken, hreturned, _, hwell⟩ :=
    shuts_down_gracefully letterRouter_onQueue rfl .empty hfree hrunning hasked
  obtain ⟨outcome, houtcome⟩ := hreturned (by decide +kernel)
  obtain rfl := hwell hspared outcome houtcome
  refine ⟨letterRouter_onQueue, hfree, hasked, hnone, ?_, by decide +kernel, htaken _ houtcome, houtcome⟩
  exact Nat.le_trans hone (Nat.le_of_eq (by rw [hnone]))

end Lifecycle

end SymbolRelay
