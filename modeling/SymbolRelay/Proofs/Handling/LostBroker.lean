import Mathlib.Data.List.Flatten
import SymbolRelay.Proofs.Handling.Accounts
import SymbolRelay.Standin.RetryLoop

/-!
# A router that loses its broker

A router runs over the queue, and the queue is closed by somebody else. No feed of the run is delivered to
any more, but what waits in the feeds stays there, in one more than in another. In each round every route
that is left takes a message, or is found ended because nothing waits in its feed; the run gives up what
ended after the round, and goes on with the others. When none is left, it ends and says so.

```text
to go ≤ 10 · (messages that wait + routes that are held) + 12        to go later ≤ to go now - acts
```

A round costs five acts for a message and one act for a route that ended, and what is left of the round, so
ten for each message and for each route are enough.

## Results

* `act_presses` — an act of a run that nobody asks to end keeps it going, and brings it nearer to its end
  once the queue is closed;
* `Pressing.move`, `Pressing.play` — one move does, and so does a whole life;
* `broker_loss_loses_nothing` — all of it.
-/

set_option autoImplicit false

namespace SymbolRelay

variable {ξ : Type}

/-! ## How far the end is -/

namespace Stage

/-- How many messages wait for the routes. -/
def load (q : Queue) (routes : List (Route ξ)) : Nat :=
  (routes.flatMap fun route => q.waitingIn route.subscription.feed).length

/-- How far the end is in a round of a run over a closed queue: each route that comes takes a message, or is
found ended. -/
def roundToEnd (q : Queue) (passed : List (Route ξ × Bool)) (ahead : List (Route ξ)) : Nat :=
  let lost := (passed.filter (·.2)).map (·.1)
  let kept := (passed.filter fun e => !e.2).map (·.1)
  10 * (load q kept + kept.length + load q ahead) + 6 * ahead.length + lost.length + 7

/-- How many acts a run over a closed queue takes at most until it has returned, if nobody asks it to end. -/
def toEnd (q : Queue) : Stage ξ → Nat
  | .admitted | .subscribing _ _ | .returned _ => 0
  | .releasing _ => 1
  | .giving _ _ => 2
  | .leaving _ _ => 3
  | .top routes => 10 * (load q routes + routes.length) + 4
  | .resting routes => 10 * (load q routes + routes.length) + 5
  | .parting lost _ kept _ => 10 * (load q kept + kept.length) + lost.length + 6
  | .asking passed ahead _ => roundToEnd q passed ahead
  | .checking passed route ahead _ =>
    roundToEnd q passed ahead + 10 * (q.waitingIn route.subscription.feed).length + 5
  | .receiving passed route ahead _ =>
    roundToEnd q passed ahead + 10 * (q.waitingIn route.subscription.feed).length + 4
  | .handling passed route _ ahead => roundToEnd q (passed ++ [(route, false)]) ahead + 2
  | .settling passed route _ _ ahead => roundToEnd q (passed ++ [(route, false)]) ahead + 1

/-- A run in its rounds that goes on until it has lost its subscriptions. -/
def Striving : Stage ξ → Prop
  | .admitted | .subscribing _ _ => False
  | .top routes | .resting routes => routes ≠ []
  | .asking passed ahead _ => passed.map (·.1) ++ ahead ≠ []
  | .parting _ panic _ _ => panic = none
  | .leaving result routes => result = .error .subscriptionsLost ∧ routes = []
  | .giving outcome left => outcome = .error .subscriptionsLost ∧ left = []
  | .releasing outcome | .returned outcome => outcome = .error .subscriptionsLost
  | _ => True

variable {q q' : Queue} {passed : List (Route ξ × Bool)} {ahead : List (Route ξ)}

theorem load_append (q : Queue) (routes more : List (Route ξ)) :
    load q (routes ++ more) = load q routes + load q more := by
  simp [load]

theorem load_mono (h : ∀ id, (q'.waitingIn id).length ≤ (q.waitingIn id).length)
    (routes : List (Route ξ)) : load q' routes ≤ load q routes := by
  induction routes with
  | nil => exact Nat.le_refl _
  | cons route routes ih =>
    simp only [load, List.flatMap_cons, List.length_append] at ih ⊢
    exact Nat.add_le_add (h route.subscription.feed) ih

theorem roundToEnd_mono (h : ∀ id, (q'.waitingIn id).length ≤ (q.waitingIn id).length)
    (passed : List (Route ξ × Bool)) (ahead : List (Route ξ)) :
    roundToEnd q' passed ahead ≤ roundToEnd q passed ahead := by
  have hkept := load_mono h ((passed.filter fun e => !e.2).map (·.1))
  have hahead := load_mono h ahead
  simp only [roundToEnd]
  omega

/-- The end comes no further away if nothing is added to what waits. -/
theorem toEnd_mono (h : ∀ id, (q'.waitingIn id).length ≤ (q.waitingIn id).length) (stage : Stage ξ) :
    stage.toEnd q' ≤ stage.toEnd q := by
  cases stage with
  | top routes | resting routes =>
    have hload := load_mono h routes
    simp only [toEnd]
    omega
  | parting lost panic kept idle =>
    have hload := load_mono h kept
    simp only [toEnd]
    omega
  | asking passed ahead idle => exact roundToEnd_mono h passed ahead
  | checking passed route ahead idle | receiving passed route ahead idle =>
    have hround := roundToEnd_mono h passed ahead
    have hroute := h route.subscription.feed
    simp only [toEnd]
    omega
  | handling passed route m ahead | settling passed route m verdict ahead =>
    have hround := roundToEnd_mono h (passed ++ [(route, false)]) ahead
    simp only [toEnd]
    omega
  | _ => exact Nat.le_refl _

theorem roundToEnd_kept (q : Queue) (passed : List (Route ξ × Bool)) (route : Route ξ)
    (ahead : List (Route ξ)) :
    roundToEnd q (passed ++ [(route, false)]) ahead =
      roundToEnd q passed ahead + 10 * ((q.waitingIn route.subscription.feed).length + 1) := by
  simp [roundToEnd, load]
  omega

theorem roundToEnd_lost (q : Queue) (passed : List (Route ξ × Bool)) (route : Route ξ)
    (ahead : List (Route ξ)) :
    roundToEnd q (passed ++ [(route, true)]) ahead = roundToEnd q passed ahead + 1 := by
  simp [roundToEnd]
  omega

theorem roundToEnd_cons (q : Queue) (passed : List (Route ξ × Bool)) (route : Route ξ)
    (ahead : List (Route ξ)) :
    roundToEnd q passed (route :: ahead) =
      roundToEnd q passed ahead + 10 * (q.waitingIn route.subscription.feed).length + 6 := by
  simp [roundToEnd, load]
  omega

theorem toEnd_again (q : Queue) (kept : List (Route ξ)) (idle : Bool) :
    (again kept idle).toEnd q ≤ 10 * (load q kept + kept.length) + 5 := by
  cases idle with
  | true => exact Nat.le_refl _
  | false => exact Nat.le_succ _

theorem striving_again {kept : List (Route ξ)} (h : kept ≠ []) (idle : Bool) :
    (again kept idle).Striving := by
  cases idle <;> exact h

/-- Not more than ten acts for each message that waits and for each route, and twelve. -/
theorem toEnd_le (q : Queue) (stage : Stage ξ) :
    stage.toEnd q ≤ 10 * (load q stage.routes + stage.routes.length) + 12 := by
  have hround : ∀ (passed : List (Route ξ × Bool)) (ahead : List (Route ξ)),
      roundToEnd q passed ahead ≤
        10 * (load q (passed.map (·.1) ++ ahead) + (passed.map (·.1) ++ ahead).length) + 7 := by
    intro passed ahead
    have hload : load q ((passed.filter fun e => !e.2).map (·.1)) ≤ load q (passed.map (·.1)) :=
      ((List.filter_sublist.map _).flatMap _).length_le
    have hlength := List.length_eq_length_filter_add (l := passed) (·.2)
    simp only [roundToEnd, load_append, List.length_append, List.length_map]
    omega
  have hlater : ∀ (passed : List (Route ξ × Bool)) (route : Route ξ) (ahead : List (Route ξ)),
      load q (passed.map (·.1) ++ route :: ahead) = load q (passed.map (·.1) ++ ahead) +
        (q.waitingIn route.subscription.feed).length := by
    intro passed route ahead
    simp [load]
    omega
  cases stage with
  | asking passed ahead idle =>
    have hpassed := hround passed ahead
    simp only [toEnd, routes]
    omega
  | checking passed route ahead idle | receiving passed route ahead idle =>
    have hpassed := hround passed ahead
    simp only [toEnd, routes, hlater, List.length_append, List.length_cons] at hpassed ⊢
    omega
  | handling passed route m ahead | settling passed route m verdict ahead =>
    have hpassed := hround passed ahead
    simp only [toEnd, routes, roundToEnd_kept, hlater, List.length_append, List.length_cons] at hpassed ⊢
    omega
  | parting lost panic kept idle =>
    simp only [toEnd, routes, load_append, List.length_append]
    omega
  | _ =>
    simp only [toEnd, routes]
    omega

end Stage

namespace Course

variable {r : Router ξ} {ctx : Context} {stage : Stage ξ} {w : World ξ}

/-- **An act of a run that nobody asks to end** keeps it going until it has lost its subscriptions. Once the
queue is closed, each act brings it nearer to this end. -/
theorem act_presses [RetryLoop] (hs : Setting r ctx (fun _ => True) w stage)
    (howned : ∀ route ∈ stage.routes, Owned ctx route) (hclosing : w.control.closing = false)
    (hctx : ctx.isCancelled w.scopes = false)
    (hroutes : ∀ route ∈ stage.routes, route.subscription.ctx.isCancelled w.scopes = false)
    (hstriving : stage.Striving) :
    (act r false ctx stage w).1.Striving ∧ (w.queue.Reached → w.queue.closed = true →
      (act r false ctx stage w).1.toEnd (act r false ctx stage w).2.queue ≤ stage.toEnd w.queue - 1) := by
  cases stage with
  | admitted | subscribing => exact hstriving.elim
  | top routes =>
    have hlength : 0 < routes.length := List.length_pos_iff.mpr hstriving
    simp only [act, hclosing, hctx, Bool.or_self, Bool.false_eq_true, if_false]
    refine ⟨hstriving, fun _ _ => ?_⟩
    simp [Stage.toEnd, Stage.roundToEnd, Stage.load]
    omega
  | asking passed ahead idle =>
    cases ahead with
    | cons route ahead =>
      simp only [act, hclosing, Bool.false_eq_true, if_false]
      refine ⟨trivial, fun _ _ => ?_⟩
      simp only [Stage.toEnd, Stage.roundToEnd_cons]
      omega
    | nil =>
      have hperm := Stage.routes_sweep_perm passed [] idle
      simp only [act, Stage.sweep] at hperm ⊢
      split
      · rename_i hnone
        rw [if_pos hnone, Stage.routes_again] at hperm
        have hkept : (passed.filter fun e => !e.2).map (·.1) ++ [] ≠ [] := by
          intro hempty
          rw [hempty] at hperm
          exact hstriving (List.nil_perm.mp hperm)
        refine ⟨Stage.striving_again hkept idle, fun _ _ => Nat.le_trans (Stage.toEnd_again _ _ _) ?_⟩
        simp [Stage.toEnd, Stage.roundToEnd, Stage.load]
        omega
      · exact ⟨rfl, fun _ _ => Nat.le_of_eq (by simp [Stage.toEnd, Stage.roundToEnd, Stage.load])⟩
  | checking passed route ahead idle =>
    have hroute : route ∈ (Stage.checking passed route ahead idle).routes := by simp [Stage.routes]
    simp only [act, check, (howned route hroute).opened, hroutes route hroute, Bool.false_eq_true, if_false]
    refine ⟨trivial, fun _ _ => ?_⟩
    simp only [Stage.toEnd]
    omega
  | receiving passed route ahead idle =>
    have hless : w.queue.closed = true → ∀ id,
        ((w.queue.receive route.subscription.feed).2.waitingIn id).length ≤
          (w.queue.waitingIn id).length := by
      intro hclosed id
      rw [← Queue.serve_receive_state]
      exact Queue.waitingIn_serve_le hclosed _ id
    simp only [act, receive]
    cases hreceive : w.queue.receive route.subscription.feed with
    | mk received queue =>
      rw [hreceive] at hless
      cases received with
      | error e =>
        refine ⟨by simp [Stage.Striving], fun _ hclosed => ?_⟩
        have hround := Stage.roundToEnd_mono (hless hclosed) passed ahead
        simp only [Stage.toEnd, Stage.roundToEnd_lost] at hround ⊢
        omega
      | ok waiting =>
        cases waiting with
        | none =>
          exact ⟨by simp [Stage.Striving],
            fun hq hclosed => absurd hreceive (Queue.receive_of_closed hq hclosed)⟩
        | some m =>
          refine ⟨trivial, fun _ hclosed => ?_⟩
          have hround := Stage.roundToEnd_mono (hless hclosed) passed ahead
          simp only [Stage.toEnd, Stage.roundToEnd_kept, Queue.waitingIn_of_receive hreceive,
            List.length_cons] at hround ⊢
          omega
  | handling passed route m ahead =>
    obtain ⟨requests, _, hqueue⟩ := (hs.judge passed route m ahead rfl).queue
    obtain ⟨verdict, w', hjudge⟩ := r.judge_returns route m w
    rw [hjudge] at hqueue
    have hnext : w'.queue = w.queue.after requests := hqueue
    simp only [act, judge, hjudge]
    refine ⟨trivial, fun _ hclosed => ?_⟩
    have hround := Stage.roundToEnd_mono (hnext ▸ Queue.waitingIn_after_le hclosed requests)
      (passed ++ [(route, false)]) ahead
    simp only [Stage.toEnd]
    omega
  | settling passed route m verdict ahead =>
    have hbroker := (howned route (by simp [Stage.routes])).broker
    have hsame : ∀ id, (w.queue.ack m.uuid).waitingIn id = w.queue.waitingIn id ∧
        ∀ e : HandlerError, (w.queue.nack m.uuid e.message).waitingIn id = w.queue.waitingIn id :=
      fun _ => ⟨rfl, fun _ => rfl⟩
    refine ⟨by simp [act, conclude, Stage.Striving], fun _ _ => ?_⟩
    simp only [act, conclude, Router.conclude_ofQueue hbroker, Stage.toEnd]
    cases verdict with
    | none => exact Stage.roundToEnd_mono (fun id => Nat.le_of_eq (by rw [(hsame id).1])) _ _
    | some e => exact Stage.roundToEnd_mono (fun id => Nat.le_of_eq (by rw [(hsame id).2])) _ _
  | parting lost panic kept idle =>
    have hnone : panic = none := hstriving
    subst hnone
    cases lost with
    | cons route lost =>
      have hbroker := (howned route (by simp [Stage.routes])).broker
      simp only [act, Subscription.discard_ofQueue hbroker]
      refine ⟨rfl, fun _ hclosed => ?_⟩
      have hload := Stage.load_mono (Queue.waitingIn_after_le hclosed route.subscription.farewell) kept
      simp only [Stage.toEnd, List.length_cons]
      omega
    | nil =>
      simp only [act, goOn, hclosing, Bool.false_eq_true, if_false]
      cases kept with
      | nil => exact ⟨⟨rfl, rfl⟩, fun _ _ => by simp [Stage.toEnd, Stage.load]⟩
      | cons route kept =>
        refine ⟨Stage.striving_again (List.cons_ne_nil _ _) idle, fun _ _ => ?_⟩
        exact Nat.le_trans (Stage.toEnd_again _ _ _) (Nat.le_of_eq (by simp [Stage.toEnd]))
  | resting routes =>
    simp only [act, Bool.false_eq_true, if_false]
    exact ⟨hstriving, fun _ _ => by simp [Stage.toEnd]⟩
  | leaving result routes =>
    obtain ⟨rfl, rfl⟩ := hstriving
    exact ⟨⟨rfl, rfl⟩, fun _ _ => Nat.le_refl _⟩
  | giving outcome left =>
    obtain ⟨rfl, rfl⟩ := hstriving
    exact ⟨rfl, fun _ _ => Nat.le_refl _⟩
  | releasing outcome => exact ⟨hstriving, fun _ _ => Nat.le_refl _⟩
  | returned outcome => exact ⟨hstriving, fun _ _ => Nat.le_refl _⟩

/-- Whatever an act does to the queue, it asks for. -/
theorem Effect.queue [RetryLoop] {allowed : Queue.Request → Prop} {stage' : Stage ξ} {w' : World ξ}
    (he : Effect r ctx allowed w stage stage' w') : ∃ requests, w'.queue = w.queue.after requests := by
  cases he with
  | kept _ _ _ hbeside | opened _ _ _ _ _ _ _ _ hbeside =>
    obtain ⟨requests, _, hqueue⟩ := hbeside.queue
    exact ⟨requests, hqueue⟩
  | shown => exact ⟨[], rfl⟩
  | gaveBack route => exact ⟨_, rfl⟩

end Course

/-! ## Into the rounds -/

/-- A run on its way into its rounds, with something to subscribe to or to hold, or one that does not come
into them. -/
def Stage.Outset : Stage ξ → Prop
  | .admitted | .giving _ _ | .releasing _ | .returned _ => True
  | .subscribing ahead opened => ahead ≠ [] ∨ opened ≠ []
  | _ => False

/-- A run that subscribed to something comes into its rounds with it. -/
theorem Course.goes_outset {ctx : Context} {w : World ξ} {stage stage' : Stage ξ}
    (h : Goes ctx w stage stage') (hs : stage.Outset) :
    stage'.Striving ∨ stage'.Outset ∧ stage.shows?.getD .stopped = .stopped := by
  cases h with
  | enters => exact .inl (hs.resolve_left fun hne => hne rfl)
  | subscribed => exact .inr ⟨.inr (by simp), rfl⟩
  | refused | gives | given | releases | rests => exact .inr ⟨trivial, rfl⟩
  | _ => exact hs.elim

namespace Lifecycle

/-! ## Nobody asks it to end -/

/-- Nobody asks a run to end: the router was not asked to close, and neither the context of the call to run
nor one of those that the run made is cancelled. -/
def Undisturbed (l : Lifecycle ξ) : Prop :=
  ¬l.Asked ∧ ∀ route ∈ l.routes, route.subscription.ctx.isCancelled l.world.scopes = false

/-- A run is woken only by who asked the router to close. -/
structure Rings (l : Lifecycle ξ) : Prop where
  asked : l.closers ≠ [] → l.world.control.closing = true
  rung : l.rung = true → l.world.control.closing = true

/-- A run in its rounds, or out of them because it lost its subscriptions. -/
structure Pressing (r : Router ξ) (l : Lifecycle ξ) (c : Course ξ) : Prop where
  steady : Steady r l c
  rings : Rings l
  striving : c.stage.Striving

/-- How many messages wait for the routes of the run. -/
def backlog (l : Lifecycle ξ) : Nat := Stage.load l.world.queue l.routes

section Lives

variable {r : Router ξ} {l : Lifecycle ξ} {c : Course ξ}

/-- What was asked for is not forgotten by an act. -/
theorem Steady.lasting [RetryLoop] (hr : r.OnQueue) (h : Steady r l c)
    (hclosing : l.world.control.closing = true) :
    (l.advance r).world.control.closing = true := by
  obtain ⟨ctx, stage⟩ := c
  rw [advance_of_some h.begun.course]
  by_cases hadmitted : stage = .admitted
  · subst hadmitted
    have hcontrol := (Course.setOut_begins r ctx l.world).2.2
    simp only [Course.step, hcontrol, hclosing]
  · rw [Course.step_of_ne r l.rung ctx hadmitted]
    exact (Course.act_effect l.rung (h.begun.holds.setting hr.handsOut ctx) hadmitted).lasting.1 hclosing

theorem Rings.new (w : World ξ) : Rings { world := w } := ⟨fun hne => absurd rfl hne, nofun⟩

theorem Rings.move [RetryLoop] (hr : r.OnQueue) (h : Rings l) (hkept : Kept r l) {m : Move ξ}
    (hm : l.Free m) :
    Rings (l.move r m) := by
  cases m with
  | run ctx =>
    simp only [Lifecycle.move, Lifecycle.run]
    split <;> exact ⟨h.asked, h.rung⟩
  | advance =>
    rcases hkept with hfresh | ⟨c, hsteady⟩
    · simp only [Lifecycle.move, hfresh.advance]
      exact h
    · have hlasting := hsteady.lasting hr
      simp only [Lifecycle.move]
      rw [advance_of_some hsteady.begun.course] at hlasting ⊢
      exact ⟨fun hne => hlasting (h.asked hne), fun hrung => hlasting (h.rung hrung)⟩
  | close => exact ⟨fun _ => rfl, fun _ => rfl⟩
  | meanwhile world => exact ⟨fun hne => hm.closing (h.asked hne), fun hrung => hm.closing (h.rung hrung)⟩
  | closer k =>
    have hlasting := (closeOn_apart hr.handsOut k l).world.closing
    refine ⟨fun hne => hlasting (h.asked ?_), fun hrung => hlasting ?_⟩
    · rintro hnone
      simp [Lifecycle.move, Lifecycle.closeOn, hnone] at hne
    · by_cases hnone : l.closers = []
      · refine h.rung ?_
        simpa [Lifecycle.move, Lifecycle.closeOn, hnone] using hrung
      · exact h.asked hnone

theorem Pressing.kept (h : Pressing r l c) : Kept r l := .inr ⟨c, h.steady⟩

/-- **The next act of a run that nobody asks to end.** -/
theorem Pressing.advance [RetryLoop] (hr : r.OnQueue) (h : Pressing r l c) (hl : l.Undisturbed) :
    ∃ c', Pressing r (l.advance r) c' ∧ (l.world.queue.closed = true →
      (l.advance r).world.queue.closed = true ∧
      c'.stage.toEnd (l.advance r).world.queue ≤ c.stage.toEnd l.world.queue - 1) := by
  have hrings := h.rings.move hr h.kept (m := .advance) trivial
  obtain ⟨hnext, _⟩ := h.steady.advance hr
  obtain ⟨ctx, stage⟩ := c
  have hcourse := h.steady.begun.course
  have hadmitted : stage ≠ .admitted := by
    rintro rfl
    exact h.striving
  have hclosing : l.world.control.closing = false := Bool.eq_false_iff.mpr fun hasked => hl.1 (.inl hasked)
  have hrung : l.rung = false := Bool.eq_false_iff.mpr fun hwoken => by simp [h.rings.rung hwoken] at hclosing
  have hctx : ctx.isCancelled l.world.scopes = false :=
    Bool.eq_false_iff.mpr fun hcancelled => hl.1 (.inr ⟨ctx, .inr (by rw [hcourse]; rfl), hcancelled⟩)
  have hroutes : ∀ route ∈ stage.routes, route.subscription.ctx.isCancelled l.world.scopes = false := by
    intro route hroute
    refine hl.2 route ?_
    simpa only [routes, hcourse, Option.map_some, Option.getD_some] using hroute
  have hsetting := h.steady.begun.holds.setting hr.handsOut ctx
  obtain ⟨hstriving, hnearer⟩ :=
    Course.act_presses hsetting h.steady.owned hclosing hctx hroutes h.striving
  obtain ⟨requests, hqueue⟩ := (Course.act_effect l.rung hsetting hadmitted).queue
  simp only [Lifecycle.move] at hrings
  rw [advance_of_some hcourse, Course.step_of_ne r l.rung ctx hadmitted] at hnext hrings ⊢
  rw [hrung] at hnext hrings hqueue ⊢
  refine ⟨_, ⟨hnext, hrings, hstriving⟩,
    fun hclosed => ⟨?_, hnearer h.steady.begun.holds.reached hclosed⟩⟩
  rw [hqueue]
  exact (Queue.closed_after_iff _ requests).mpr (.inl hclosed)

/-- Whatever happens around a run that nobody asks to end. -/
theorem Pressing.move [RetryLoop] (hr : r.OnQueue) (h : Pressing r l c) {m : Move ξ} (hm : l.Free m)
    (hl : l.Undisturbed) :
    ∃ c', Pressing r (l.move r m) c' ∧ (l.world.queue.closed = true →
      (l.move r m).world.queue.closed = true ∧
      c'.stage.toEnd (l.move r m).world.queue ≤ c.stage.toEnd l.world.queue - acts [m]) := by
  have hrings := h.rings.move hr h.kept hm
  rcases move_cases hr.handsOut hm with ⟨ctx, rfl⟩ | rfl | ⟨hnone, ha⟩
  · simp only [Lifecycle.move, h.steady.begun.run ctx] at hrings ⊢
    exact ⟨c, ⟨h.steady.answers _, hrings, h.striving⟩, fun hclosed => ⟨hclosed, Nat.le_refl _⟩⟩
  · exact h.advance hr hl
  · refine ⟨c, ⟨h.steady.apart ha, hrings, h.striving⟩, fun hclosed => ?_⟩
    obtain ⟨requests, _, hqueue⟩ := ha.world.queue
    rw [hqueue, hnone]
    exact ⟨(Queue.closed_after_iff _ requests).mpr (.inl hclosed),
      c.stage.toEnd_mono (Queue.waitingIn_after_le hclosed requests)⟩

/-- **From the moment at which the queue is closed**, each act of a run that nobody asks to end brings it
nearer to its end. -/
theorem Pressing.play [RetryLoop] (hr : r.OnQueue) (h : Pressing r l c)
    (hclosed : l.world.queue.closed = true) {moves : List (Move ξ)}
    (hm : Along r (fun l m => l.Free m ∧ l.Undisturbed) l moves) :
    ∃ c', Pressing r (play r l moves) c' ∧
      c'.stage.toEnd (play r l moves).world.queue ≤ c.stage.toEnd l.world.queue - acts moves := by
  induction moves generalizing l c with
  | nil => exact ⟨c, h, Nat.le_refl _⟩
  | cons m moves ih =>
    obtain ⟨c', hnext, hnearer⟩ := h.move hr hm.1.1 hm.1.2
    obtain ⟨hstill, htoEnd⟩ := hnearer hclosed
    obtain ⟨c'', hlast, htoEnd'⟩ := ih hnext hstill hm.2
    refine ⟨c'', hlast, Nat.le_trans htoEnd' ?_⟩
    have hacts := acts_cons m moves
    omega

/-- A router over the queue at any time, if nobody asks its run to end. -/
def Ready (r : Router ξ) (l : Lifecycle ξ) : Prop :=
  Rings l ∧ (Fresh l ∨ ∃ c, Steady r l c ∧
    (c.stage.Striving ∨ c.stage.Outset ∧ l.world.control.phase = .stopped))

theorem Ready.kept (h : Ready r l) : Kept r l :=
  h.2.imp_right fun ⟨c, hsteady, _⟩ => ⟨c, hsteady⟩

theorem Ready.move [RetryLoop] (hr : r.OnQueue) (hsome : r.registrations ≠ []) (h : Ready r l) {m : Move ξ}
    (hm : l.Free m) (hl : l.Undisturbed) : Ready r (l.move r m) := by
  refine ⟨h.1.move hr h.kept hm, ?_⟩
  rcases h.2 with hfresh | ⟨c, hsteady, hstage⟩
  · rcases move_cases hr.handsOut hm with ⟨ctx, rfl⟩ | rfl | ⟨_, ha⟩
    · have hstopped : (l.run ctx).world.control.phase = .stopped := by
        rw [hfresh.unbegun.run_eq]
        exact hfresh.unbegun.phase
      exact .inr ⟨_, hfresh.run ctx, .inr ⟨trivial, hstopped⟩⟩
    · simp only [Lifecycle.move, hfresh.advance]
      exact .inl hfresh
    · exact .inl (hfresh.apart ha)
  · rcases hstage with hstriving | ⟨houtset, hstopped⟩
    · obtain ⟨c', hnext, _⟩ := Pressing.move hr ⟨hsteady, h.1, hstriving⟩ hm hl
      exact .inr ⟨c', hnext.steady, .inl hnext.striving⟩
    · rcases move_cases hr.handsOut hm with ⟨ctx, rfl⟩ | rfl | ⟨_, ha⟩
      · simp only [Lifecycle.move, hsteady.begun.run ctx]
        exact .inr ⟨c, hsteady.answers _, .inr ⟨houtset, hstopped⟩⟩
      · obtain ⟨hnext, hgoes⟩ := hsteady.advance hr
        refine .inr ⟨_, hnext, ?_⟩
        obtain ⟨ctx, stage⟩ := c
        simp only [Lifecycle.move]
        by_cases hadmitted : stage = .admitted
        · subst hadmitted
          have hcontrol := (Course.setOut_begins r ctx l.world).2.2
          rw [advance_of_some hsteady.begun.course]
          refine .inr ⟨?_, by simp only [Course.step, hcontrol, hstopped]⟩
          simp only [Course.step, Course.setOut]
          split
          · trivial
          · exact .inl hsome
        · have hphase := (Course.act_effect l.rung (hsteady.begun.holds.setting hr.handsOut ctx)
            hadmitted).control.2
          have hgoes := hgoes hadmitted
          rw [advance_of_some hsteady.begun.course]
          rw [Course.step_of_ne r l.rung ctx hadmitted] at hgoes ⊢
          refine (Course.goes_outset hgoes houtset).imp_right (.imp_right fun hshown => ?_)
          simp only [hphase, hstopped]
          exact hshown
      · exact .inr ⟨c, hsteady.apart ha, .inr ⟨houtset, ha.world.phase.trans hstopped⟩⟩

/-- A router that was seen to run, and that nobody asked to end, goes on until it loses its subscriptions. -/
theorem Ready.pressing [RetryLoop] (hr : r.OnQueue) (hsome : r.registrations ≠ []) (h : Ready r l)
    {moves : List (Move ξ)} (hm : Along r (fun l m => l.Free m ∧ l.Undisturbed) l moves)
    (hrunning : .running ∈ phases r l moves) : ∃ c, Pressing r (play r l moves) c := by
  refine play_since (K := Ready r) (P := fun l => ∃ c, Pressing r l c)
    (fun _ _ hfree hready => hready.move hr hsome hfree.1 hfree.2) ?_ ?_ h hm hrunning
  · rintro s m hfree ⟨c, hpressing⟩
    obtain ⟨c', hnext, _⟩ := hpressing.move hr hfree.1 hfree.2
    exact ⟨c', hnext⟩
  · rintro s ⟨hrings, hfresh | ⟨c, hsteady, hstage⟩⟩ hphase
    · simp [hfresh.unbegun.phase] at hphase
    · refine ⟨c, hsteady, hrings, hstage.resolve_right ?_⟩
      rintro ⟨_, hstopped⟩
      simp [hstopped] at hphase

/-- A run over a closed queue that has nothing more to do lost its subscriptions. -/
theorem Pressing.lost (h : Pressing r l c) (htoEnd : c.stage.toEnd l.world.queue = 0) :
    l.outcome? = some (.error .subscriptionsLost) := by
  have hstriving := h.striving
  simp only [outcome?, h.steady.begun.course, Option.bind_some, Course.outcome?]
  cases hstage : c.stage with
  | returned outcome =>
    rw [hstage] at hstriving
    exact congrArg some hstriving
  | admitted | subscribing =>
    rw [hstage] at hstriving
    exact hstriving.elim
  | _ =>
    rw [hstage] at htoEnd
    simp [Stage.toEnd, Stage.roundToEnd] at htoEnd

/-- The end of a run over a closed queue is not further away than what it holds and what waits for it. -/
theorem Pressing.toEnd_le (h : Pressing r l c) :
    c.stage.toEnd l.world.queue ≤ 10 * (l.backlog + r.registrations.length) + 12 := by
  have hbound := c.stage.toEnd_le l.world.queue
  have hfew := h.steady.few
  have hbacklog : l.backlog = Stage.load l.world.queue c.stage.routes := by
    simp only [backlog, routes, h.steady.begun.course, Option.map_some, Option.getD_some]
  omega

end Lives

/-- **Losing the broker loses no accepted message.** A router with at least one registered topic runs over
the queue; its handlers, its middleware, its publisher and all others publish, close the queue, clear its log
and unsubscribe as they like, but leave the feeds of the run to it. Then:

* if the router was seen to run, and the queue was closed at any moment after that, and nobody asks the run
  to end, it says that it lost its subscriptions after ten of its acts for each message that waits and for
  each registration, and twelve more;
* when a run has said so, each message that was settled was acked once or nacked once, and the messages of a
  registered topic that were settled are, in this order, those that the log held when the run subscribed to it
  and those accepted since, until others gave up its feed. If they did not before the queue was closed, and
  the log was not cleared before the run subscribed, these are all that was ever accepted for the topic before
  the close;
* as long as the run is in its rounds, it gives back a route only if nothing waits for it, and for every route
  it holds, what was settled, what is in hand and what waits are all that its feed is due. -/
theorem broker_loss_loses_nothing [RetryLoop] {r : Router ξ} (hr : r.OnQueue)
    (htopics : (r.registrations.map (·.topic)).Nodup) (hsome : r.registrations ≠ []) {w : World ξ}
    (hnew : w.control = {}) (hq : w.queue.Reached) {script : List (Move ξ × List Queue.Request)}
    (hscript : Scripted r { world := w } script) :
    let l := play r { world := w } (script.map (·.1))
    let requests := script.flatMap (·.2)
    (∀ before after, script.map (·.1) = before ++ after →
      .running ∈ phases r { world := w } before →
      (play r { world := w } before).world.queue.closed = true →
      Along r (fun l _ => l.Undisturbed) { world := w } (before ++ after) →
      10 * ((play r { world := w } before).backlog + r.registrations.length) + 12 ≤ acts after →
      l.outcome? = some (.error .subscriptionsLost)) ∧
    (l.outcome? = some (.error .subscriptionsLost) →
      (∀ t ∈ l.settled, t.Once) ∧
      ∀ registration ∈ r.registrations, ∃ id early late,
        w.queue.Opening requests registration.topic id early late ∧
        settledOn l.settled registration.topic = w.queue.due registration.topic id early late ∧
        ∀ first rest, requests = first ++ .close :: rest → .clear ∉ early →
          (∀ request ∈ first, request.givesUp registration.topic id = false) →
          settledOn l.settled registration.topic = w.queue.publishedOn registration.topic ++
            (w.queue.transcript first).filterMap (Queue.accepted? registration.topic)) ∧
    ∀ c, l.course = some c → c.stage.Serving →
      (∀ route, c.stage.gives? = some route → l.world.queue.waitingIn route.subscription.feed = []) ∧
      ∀ route ∈ c.stage.routes, ∃ early late,
        w.queue.Opening requests route.subscription.topic route.subscription.feed early late ∧
        settledOn l.settled route.subscription.topic ++ loggedOn c.stage.inHand route.subscription.topic ++
            l.world.queue.waitingIn route.subscription.feed =
          w.queue.due route.subscription.topic route.subscription.feed early late := by
  intro l requests
  have hfresh : Fresh { world := w } := .new hnew hq
  have hstart : Accounted r w.queue [] { world := w } := ⟨rfl, .inl hfresh⟩
  have haccounted : Accounted r w.queue requests l := hstart.play hr hq htopics hscript
  refine ⟨?ends, ?settles, ?serves⟩
  case ends =>
    intro before after hmoves hrunning hclosed hundisturbed hacts
    have hfree := hscript.along
    rw [hmoves] at hfree
    obtain ⟨hbefore, hafter⟩ := along_append.mp (along_and hfree hundisturbed)
    have hready : Ready r { world := w } := ⟨.new w, .inl hfresh⟩
    obtain ⟨c, hpressing⟩ := hready.pressing hr hsome hbefore hrunning
    obtain ⟨c', hlast, htoEnd⟩ := hpressing.play hr hclosed hafter
    have hbound := hpressing.toEnd_le
    have hl : l = play r (play r { world := w } before) after := by
      rw [← play_append, ← hmoves]
    rw [hl]
    exact hlast.lost (by omega)
  case settles =>
    intro ho
    refine ⟨?_, ?_⟩
    · rcases haccounted.run with hnone | ⟨c, hsteady, _⟩
      · simp [hnone.settled]
      · exact hsteady.once
    · intro registration hreg
      obtain ⟨id, early, late, hopening, _, hdue⟩ := haccounted.spent ho registration hreg
      refine ⟨id, early, late, hopening, hdue, fun first rest hclose hclear hkept => ?_⟩
      rw [hdue, hopening.due_of_close hclose hclear hkept]
  case serves =>
    intro c hcourse hserving
    obtain ⟨hbalance, hended⟩ := haccounted.serving hq hcourse hserving
    refine ⟨fun route hgives => hended route ?_, hbalance⟩
    cases hstage : c.stage with
    | parting lost panic kept idle =>
      cases lost with
      | nil => simp [hstage, Stage.gives?] at hgives
      | cons first lost =>
        obtain rfl : first = route := by simpa [hstage, Stage.gives?] using hgives
        exact List.mem_cons_self
    | giving outcome left =>
      rw [hstage] at hserving
      exact hserving.elim
    | _ => simp [hstage, Stage.gives?] at hgives

/-! ## Orders and bills over a queue that is closed -/

/-- The next acts of a run, each with what the run asks the queue for by itself. -/
def alone [RetryLoop] (r : Router ξ) : Nat → Lifecycle ξ → List (Move ξ × List Queue.Request)
  | 0, _ => []
  | n + 1, l => (.advance, (l.course.map (·.asks r l.world)).getD []) :: alone r n (l.advance r)

theorem map_alone [RetryLoop] (r : Router ξ) (n : Nat) (l : Lifecycle ξ) :
    (alone r n l).map (·.1) = List.replicate n .advance := by
  induction n generalizing l with
  | zero => rfl
  | succ n ih => exact congrArg (Move.advance :: ·) (ih (l.advance r))

/-- Acts of a run whose handlers ask the queue for nothing. -/
theorem scripted_alone [RetryLoop] {r : Router ξ} (hr : r.OnQueue) {l : Lifecycle ξ} {c : Course ξ}
    (h : Steady r l c) {n : Nat} (hquiet : ∀ s ∈ states r l (List.replicate n .advance),
      ∀ e ∈ s.course.bind (·.stage.judged?), (r.judge e.1 e.2 s.world).2.queue = s.world.queue) :
    Scripted r l (alone r n l) := by
  induction n generalizing l c with
  | zero => trivial
  | succ n ih =>
    obtain ⟨hnext, _⟩ := h.advance hr
    have hnow := hquiet l List.mem_cons_self
    have hcourse := h.begun.course
    obtain ⟨ctx, stage⟩ := c
    refine ⟨⟨trivial, ?_, fun _ c hc => ?_, fun hne => absurd rfl hne⟩,
      ih hnext fun s hs => hquiet s (List.mem_cons_of_mem _ hs)⟩
    · simp only [hcourse, Option.bind_some, Option.map_some, Option.getD_some] at hnow ⊢
      simp only [Lifecycle.move, advance_of_some hcourse]
      cases stage with
      | admitted =>
        simp only [Course.step, Course.setOut]
        split <;> rfl
      | handling passed route m ahead =>
        obtain ⟨verdict, w', hjudge⟩ := r.judge_returns route m l.world
        have hsame := hnow (route, m) rfl
        rw [hjudge] at hsame
        simp only [Course.step, Course.act, Course.judge, hjudge]
        exact hsame
      | _ => exact Course.act_asks hr.subscriber l.rung h.owned rfl
    · obtain rfl : ⟨ctx, stage⟩ = c := Option.some.inj (hcourse.symm.trans hc)
      simp only [hcourse, Option.map_some, Option.getD_some]
      refine ⟨fun _ => rfl, fun hjudged => ?_⟩
      cases stage with
      | handling => exact fun _ _ => by simp [Course.asks]
      | _ => exact absurd rfl hjudged

/-- A life during which the router is not asked to close, and no context is cancelled. -/
theorem along_undisturbed [RetryLoop] {r : Router ξ} {l : Lifecycle ξ} {moves : List (Move ξ)}
    (h : ∀ s ∈ states r l moves, s.world.control.closing = false ∧ s.world.scopes.cancelled = []) :
    Along r (fun l _ => l.Undisturbed) l moves := by
  induction moves generalizing l with
  | nil => trivial
  | cons m moves ih =>
    obtain ⟨hclosing, hcancelled⟩ := h l List.mem_cons_self
    have hlive : ∀ ctx : Context, ctx.isCancelled l.world.scopes ≠ true := by
      simp [Context.isCancelled, hcancelled]
    refine ⟨⟨?_, fun route _ => Bool.eq_false_iff.mpr (hlive _)⟩,
      ih fun s hs => h s (List.mem_cons_of_mem _ hs)⟩
    rintro (hasked | ⟨ctx, _, hasked⟩)
    · simp [hclosing] at hasked
    · exact hlive ctx hasked

/-- Orders and bills are handled by doing nothing. -/
def storeRouter : Router Unit := { billsRouter with subscriber := .ofBroker .ofQueue }

theorem storeRouter_onQueue : storeRouter.OnQueue where
  subscriber := rfl
  around := ⟨billsRouter_handsOut.around.handlers, nofun, nofun⟩

/-- One order and two bills. -/
def storePublished : List Queue.Request :=
  [.publish "orders" { uuid := "o1", payload := [] }, .publish "bills" { uuid := "b1", payload := [] },
    .publish "bills" { uuid := "b2", payload := [] }]

/-- They are published, and the queue is closed. -/
def storeClosed : List Queue.Request := storePublished ++ [.close]

/-- What the queue is asked for before it is closed. -/
def storeEarlier : List Queue.Request := [.subscribe "orders", .subscribe "bills"] ++ storePublished

/-- The router is called to run. -/
def storeCalled : Lifecycle Unit := ({ world := { extra := () } } : Lifecycle Unit).run { scope := 7 }

/-- It subscribes to orders and to bills, and comes into its rounds. -/
def storeOpened : Lifecycle Unit := play storeRouter storeCalled (List.replicate 4 .advance)

/-- Others publish, and close the queue. -/
def storeLost : Lifecycle Unit :=
  { storeOpened with
    world := { storeOpened.world with queue := storeOpened.world.queue.after storeClosed } }

/-- All this, with what the queue is asked for. -/
def storeBefore : List (Move Unit × List Queue.Request) :=
  (.run { scope := 7 }, []) :: alone storeRouter 4 storeCalled ++ [(.meanwhile storeLost.world, storeClosed)]

/-- The acts that are enough for three messages and two registrations. -/
def storeAfter : List (Move Unit × List Queue.Request) := alone storeRouter 62 storeLost

theorem storeRouter_scripted :
    Scripted storeRouter { world := { extra := () } } (storeBefore ++ storeAfter) := by
  have hfresh : Fresh ({ world := { extra := () } } : Lifecycle Unit) := .new rfl .empty
  have hcalled : Steady storeRouter storeCalled ⟨{ scope := 7 }, .admitted⟩ := hfresh.run _
  obtain ⟨c, hopened, _⟩ : ∃ c, Steady storeRouter storeOpened c ∧ c.stage.Entered :=
    Kept.entered storeRouter_onQueue (.inr ⟨_, hcalled⟩) (by simp [Along, List.replicate, Free])
      (by decide +kernel)
  have hclosed : Hears storeRouter storeOpened (.meanwhile storeLost.world) storeClosed := by
    refine ⟨⟨rfl, rfl, id, fun _ hs => hs, storeClosed, fun _ _ => trivial, rfl⟩, rfl,
      (fun hsame => by cases hsame), ?_⟩
    exact fun _ _ _ _ _ => by simp [storeClosed, storePublished]
  have hlost : Steady storeRouter storeLost c :=
    hopened.apart ⟨hclosed.free, rfl, rfl, rfl, rfl, rfl, rfl⟩
  have hopening : play storeRouter { world := { extra := () } }
      (((.run { scope := 7 }, []) :: alone storeRouter 4 storeCalled).map (·.1)) = storeOpened := by
    rw [List.map_cons, map_alone]
    rfl
  have hbefore : play storeRouter { world := { extra := () } } (storeBefore.map (·.1)) = storeLost := by
    rw [storeBefore, List.map_append, play_append, hopening]
    rfl
  have hrun : Hears storeRouter { world := { extra := () } } (.run { scope := 7 }) [] :=
    ⟨trivial, rfl, (fun hsame => by cases hsame), fun _ _ hcourse => by cases hcourse⟩
  rw [scripted_append, hbefore, storeBefore, scripted_append, hopening]
  refine ⟨⟨⟨hrun, ?_⟩, ?_⟩, ?_⟩
  · exact scripted_alone storeRouter_onQueue hcalled (by decide +kernel)
  · exact ⟨hclosed, trivial⟩
  · exact scripted_alone storeRouter_onQueue hlost (by decide +kernel)

/-- **The order and both bills are settled**, though orders end first, and the run says that it lost its
subscriptions. -/
theorem storeRouter_loses_nothing :
    let l := play storeRouter { world := { extra := () } } ((storeBefore ++ storeAfter).map (·.1))
    storeRouter.OnQueue ∧
      Scripted storeRouter { world := { extra := () } } (storeBefore ++ storeAfter) ∧
      l.outcome? = some (.error .subscriptionsLost) ∧
      (settledOn l.settled "orders").map (·.uuid) = ["o1"] ∧
      (settledOn l.settled "bills").map (·.uuid) = ["b1", "b2"] := by
  intro l
  obtain ⟨hends, hsettles, _⟩ := broker_loss_loses_nothing storeRouter_onQueue (by decide +kernel)
    (List.cons_ne_nil _ _) rfl .empty storeRouter_scripted
  have hlost : l.outcome? = some (.error .subscriptionsLost) := by
    refine hends (storeBefore.map (·.1)) (storeAfter.map (·.1)) List.map_append ?_ ?_ ?_ ?_
    · decide +kernel
    · decide +kernel
    · exact along_undisturbed (by decide +kernel)
    · decide +kernel
  obtain ⟨_, hdue⟩ := hsettles hlost
  have hrequests : (storeBefore ++ storeAfter).flatMap (·.2) =
      storeEarlier ++ .close :: storeAfter.flatMap (·.2) := rfl
  have hclear : .clear ∉ (storeBefore ++ storeAfter).flatMap (·.2) := by decide +kernel
  have hall : ∀ registration ∈ storeRouter.registrations, settledOn l.settled registration.topic =
      (({} : Queue).transcript storeEarlier).filterMap (Queue.accepted? registration.topic) := by
    intro registration hreg
    obtain ⟨id, early, late, hopening, _, hbefore⟩ := hdue registration hreg
    refine hbefore storeEarlier _ hrequests (fun hmem => hclear ?_) ?_
    · rw [hopening.requests]
      exact List.mem_append_left _ hmem
    · simp [storeEarlier, storePublished, Queue.Request.givesUp]
  refine ⟨storeRouter_onQueue, storeRouter_scripted, hlost, ?_, ?_⟩
  · exact (congrArg _ (hall _ List.mem_cons_self)).trans (by decide +kernel)
  · exact (congrArg _ (hall _ (List.mem_cons_of_mem _ List.mem_cons_self))).trans (by decide +kernel)

end Lifecycle

end SymbolRelay
