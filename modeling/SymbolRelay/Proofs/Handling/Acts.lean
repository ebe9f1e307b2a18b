import SymbolRelay.Proofs.Delivery.Registrations
import SymbolRelay.Proofs.Delivery.Subscriptions
import SymbolRelay.Proofs.Handling.Stages
import SymbolRelay.Proofs.Handling.Watching

/-!
# What an act of a run does

Whatever a handler, a publisher or a subscriber does while a run acts, they do beside the router: they ask
the queue for something, ask the router to close, or cancel contexts. Given that, an act of a run does one
of four things: it shows what the router is doing, it opens a route, it gives one back, or it leaves its
routes as they are.

## Results

* `Beside.tolerant` — doing something beside a router is a relation that goes on from world to world;
* `act_effect` — what an act does to the routes of a run and to the world;
* `serving_act`, `fits_act` — a run leaves its rounds by giving back what it holds, and what is seen of it
  changes in one direction only.
-/

set_option autoImplicit false

namespace SymbolRelay

variable {ξ : Type}

/-! ## What others do -/

/-- What others do beside a router: they may ask it to close and cancel contexts, and the queue they change
by requests that are allowed. What the router is doing is not for them to say. -/
structure World.Beside (allowed : Queue.Request → Prop) (w w' : World ξ) : Prop where
  started : w'.control.started = w.control.started
  phase : w'.control.phase = w.control.phase
  closing : w.control.closing = true → w'.control.closing = true
  cancelled : ∀ scope ∈ w.scopes.cancelled, scope ∈ w'.scopes.cancelled
  queue : ∃ requests, (∀ request ∈ requests, allowed request) ∧ w'.queue = w.queue.after requests

namespace World.Beside

variable {allowed : Queue.Request → Prop} {w w' w'' : World ξ}

theorem of_aside (h : w.Aside w') : w.Beside allowed w' where
  started := by rw [h.control]
  phase := by rw [h.control]
  closing := by
    rw [h.control]
    exact id
  cancelled := by
    rw [h.cancelled]
    exact fun _ hs => hs
  queue := ⟨[], by simp, h.queue⟩

theorem refl (w : World ξ) : w.Beside allowed w := of_aside (.refl w)

theorem trans (h : w.Beside allowed w') (h' : w'.Beside allowed w'') : w.Beside allowed w'' where
  started := h'.started.trans h.started
  phase := h'.phase.trans h.phase
  closing hc := h'.closing (h.closing hc)
  cancelled scope hs := h'.cancelled scope (h.cancelled scope hs)
  queue := by
    obtain ⟨requests, hallowed, hqueue⟩ := h.queue
    obtain ⟨more, hmore, hqueue'⟩ := h'.queue
    refine ⟨requests ++ more, ?_, ?_⟩
    · intro request hr
      rcases List.mem_append.mp hr with hr | hr
      · exact hallowed request hr
      · exact hmore request hr
    · rw [hqueue', hqueue, Queue.after, Queue.after, Queue.after, List.foldl_append]

theorem tolerant : World.Tolerant (World.Beside allowed : World ξ → World ξ → Prop) where
  aside := of_aside
  trans := trans

/-- A request that is allowed. -/
theorem request {r : Queue.Request} (h : allowed r) (w : World ξ) :
    w.Beside allowed { w with queue := (w.queue.serve r).2 } where
  started := rfl
  phase := rfl
  closing := id
  cancelled _ hs := hs
  queue := ⟨[r], by simpa using h, rfl⟩

theorem isCancelled (h : w.Beside allowed w') {ctx : Context} (hc : ctx.isCancelled w.scopes = true) :
    ctx.isCancelled w'.scopes = true := by
  simp only [Context.isCancelled, List.any_eq_true, List.contains_iff_mem] at hc ⊢
  obtain ⟨scope, hscope, hcancelled⟩ := hc
  exact ⟨scope, hscope, h.cancelled scope hcancelled⟩

theorem reached (h : w.Beside allowed w') (hq : w.queue.Reached) : w'.queue.Reached := by
  obtain ⟨requests, _, hqueue⟩ := h.queue
  rw [hqueue]
  exact hq.after requests

end World.Beside

/-! ## The subscriber over the queue -/

/-- The subscriber over the queue opens a feed, or does nothing. -/
theorem Subscriber.subscribe_keeps {allowed : Queue.Request → Prop}
    (h : ∀ topic, allowed (.subscribe topic)) (ctx : Context) (topic : String) :
    ((Subscriber.ofBroker Broker.ofQueue).subscribe ctx topic).Keeps
      (World.Beside allowed : World ξ → World ξ → Prop) := by
  intro w
  rw [subscribe_apply]
  split
  · exact .refl w
  · split
    · exact .refl w
    · split
      · exact .refl w
      · rename_i hopen
        refine ⟨rfl, rfl, id, fun _ hs => hs, [.subscribe topic], by simpa using h topic, ?_⟩
        simp [Queue.after, Queue.serve, Queue.subscribe, hopen]

/-- What the subscriber over the queue hands out, and what it does to the world. -/
theorem Subscriber.subscribe_eq_ok {ctx : Context} {topic : String} {w w' : World ξ} {s : Subscription ξ}
    (h : (Subscriber.ofBroker Broker.ofQueue).subscribe ctx topic w = (.ok s, w')) :
    w.queue.serve (.subscribe topic) = (.opened s.feed, w'.queue) ∧
      s = ⟨topic, s.feed, Broker.ofQueue, (ctx.child w.scopes).1, false⟩ := by
  refine ⟨(Subscription.of_subscribe h).1, ?_⟩
  rw [subscribe_apply] at h
  split at h
  · simp at h
  · split at h
    · simp at h
    · split at h
      · simp at h
      · simp only [Prod.mk.injEq, Outcome.ok.injEq] at h
        obtain ⟨rfl, _⟩ := h
        rfl

/-- Closing the subscriber over the queue closes the queue, once. -/
theorem Subscriber.close_apply (w : World ξ) :
    (Subscriber.ofBroker Broker.ofQueue).close w =
      (.ok (), if w.subscriberClosed then w
        else { w with queue := w.queue.close, subscriberClosed := true }) := by
  cases hc : w.subscriberClosed with
  | true => simp [Subscriber.ofBroker, bind, Action.bind, Action.get, hc, pure, Action.pure]
  | false =>
    simp [Subscriber.ofBroker, bind, Action.bind, Action.get, hc, Action.modify, Broker.ofQueue,
      World.modifyQueue, Action.mapError, Outcome.mapError]

theorem Subscriber.close_keeps {allowed : Queue.Request → Prop} (h : allowed .close) :
    (Subscriber.ofBroker Broker.ofQueue).close.Keeps
      (World.Beside allowed : World ξ → World ξ → Prop) := by
  intro w
  rw [close_apply]
  split
  · exact .refl w
  · exact ⟨rfl, rfl, id, fun _ hs => hs, [.close], by simpa using h, rfl⟩

/-! ## Giving a subscription back -/

namespace Subscription

variable {s : Subscription ξ}

/-- What the queue is asked for when a subscription is dropped. -/
def farewell (s : Subscription ξ) : List Queue.Request :=
  if s.closed then [.dropReceiver s.feed] else [.unsubscribe s.topic s.feed, .dropReceiver s.feed]

/-- Dropping a subscription of the queue never fails. -/
theorem discard_ofQueue (hb : s.broker = Broker.ofQueue) (w : World ξ) :
    s.discard (ε := Empty) w = (.ok (), { w with queue := w.queue.after s.farewell }) := by
  cases hc : s.closed with
  | true =>
    simp only [discard, release, farewell, hc]
    rfl
  | false =>
    simp only [discard, release, farewell, hc, hb, Broker.ofQueue]
    rfl

end Subscription

/-! ## What is seen of a run -/

/-- The message that a run has in hand, with its topic. -/
def Stage.inHand : Stage ξ → List (String × Message)
  | .handling _ route m _ | .settling _ route m _ _ => [(route.subscription.topic, m)]
  | _ => []

/-- The registrations that a run has not subscribed to yet. -/
def Stage.awaited : Stage ξ → List (Registration ξ)
  | .subscribing ahead _ => ahead
  | _ => []

/-- The route that the next act of a run gives back, if it gives one back. -/
def Stage.gives? : Stage ξ → Option (Route ξ)
  | .parting (route :: _) _ _ _ | .giving _ (route :: _) => some route
  | _ => none

/-! ## What an act does -/

/-- What the next act of a run shows it to be doing, if it shows anything. -/
def Stage.shows? : Stage ξ → Option Phase
  | .subscribing [] _ => some .running
  | .leaving _ _ => some .draining
  | .giving _ [] => some .stopped
  | _ => none

namespace Course

/-- What an act does: nothing to the routes that the run holds, or it opens one, or it gives one back. -/
inductive Effect [RetryLoop] (r : Router ξ) (ctx : Context) (allowed : Queue.Request → Prop) (w : World ξ)
    (stage : Stage ξ) : Stage ξ → World ξ → Prop where
  | kept {stage' : Stage ξ} {w' : World ξ} (hshows : stage.shows? = none)
    (hopens : opens? r ⟨ctx, stage⟩ w = none)
    (hroutes : ∀ route, route ∈ stage'.routes ↔ route ∈ stage.routes) (hbeside : w.Beside allowed w') :
    Effect r ctx allowed w stage stage' w'
  | shown {stage' : Stage ξ} (phase : Phase) (hshows : stage.shows? = some phase)
    (hopens : opens? r ⟨ctx, stage⟩ w = none)
    (hroutes : ∀ route, route ∈ stage'.routes ↔ route ∈ stage.routes) :
    Effect r ctx allowed w stage stage' (Run.setPhase phase w)
  | opened {stage' : Stage ξ} {w' : World ξ} (registration : Registration ξ) (route : Route ξ)
    (hshows : stage.shows? = none) (hopens : opens? r ⟨ctx, stage⟩ w = some route.subscription.feed)
    (hroutes : ∀ other, other ∈ stage'.routes ↔ other ∈ stage.routes ∨ other = route)
    (hawaited : registration ∈ stage.awaited)
    (hsubscribe : r.subscriber.subscribe ctx registration.topic w = (.ok route.subscription, w'))
    (hhandler : route.handler = r.chain registration.handler) (hbeside : w.Beside allowed w') :
    Effect r ctx allowed w stage stage' w'
  | gaveBack {stage' : Stage ξ} (route : Route ξ) (hgives : stage.gives? = some route)
    (hshows : stage.shows? = none) (hopens : opens? r ⟨ctx, stage⟩ w = none)
    (hroutes : ∀ other, other ∈ stage.routes ↔ other = route ∨ other ∈ stage'.routes) :
    Effect r ctx allowed w stage stage' { w with queue := w.queue.after route.subscription.farewell }

/-- What an act can count on: its subscriptions settle with the queue, and whoever it calls does nothing but
what is allowed, as is what it asks the queue for itself. -/
structure Setting (r : Router ξ) (ctx : Context) (allowed : Queue.Request → Prop) (w : World ξ)
    (stage : Stage ξ) : Prop where
  broker : ∀ route ∈ stage.routes, route.subscription.broker = Broker.ofQueue
  subscribe : ∀ registration ∈ stage.awaited,
    w.Beside allowed (r.subscriber.subscribe ctx registration.topic w).2
  judge : ∀ passed route m ahead, stage = .handling passed route m ahead →
    w.Beside allowed (r.judge route m w).2
  receive : ∀ id, allowed (.receive id)
  ack : ∀ messageId, allowed (.ack messageId)
  nack : ∀ messageId reason, allowed (.nack messageId reason)

end Course

theorem Stage.mem_routes_again {kept : List (Route ξ)} {idle : Bool} {route : Route ξ} :
    route ∈ (Stage.again kept idle).routes ↔ route ∈ kept := by
  cases idle <;> rfl

/-- The end of a round gives no route away. -/
theorem Stage.mem_routes_sweep {passed : List (Route ξ × Bool)} {ahead : List (Route ξ)} {idle : Bool}
    {route : Route ξ} :
    route ∈ (Stage.sweep passed ahead idle).routes ↔ route ∈ passed.map (·.1) ++ ahead := by
  have hsplit : route ∈ passed.map (·.1) ↔
      route ∈ (passed.filter (·.2)).map (·.1) ∨ route ∈ (passed.filter fun e => !e.2).map (·.1) := by
    simp only [List.mem_map, List.mem_filter, Bool.not_eq_true']
    constructor
    · rintro ⟨e, he, rfl⟩
      cases hflag : e.2 with
      | true => exact .inl ⟨e, ⟨he, hflag⟩, rfl⟩
      | false => exact .inr ⟨e, ⟨he, hflag⟩, rfl⟩
    · rintro (⟨e, ⟨he, _⟩, rfl⟩ | ⟨e, ⟨he, _⟩, rfl⟩)
      · exact ⟨e, he, rfl⟩
      · exact ⟨e, he, rfl⟩
  rw [List.mem_append, hsplit]
  simp only [Stage.sweep]
  generalize (passed.filter (·.2)).map (·.1) = lost
  generalize (passed.filter fun e => !e.2).map (·.1) = kept
  cases lost with
  | nil => simp [mem_routes_again]
  | cons first lost => simp [Stage.routes, or_assoc]

namespace Course

variable {r : Router ξ} {ctx : Context} {allowed : Queue.Request → Prop} {stage : Stage ξ} {w : World ξ}

/-- Subscribing opens a route, or nothing. -/
theorem subscribe_effect [RetryLoop] {registration : Registration ξ} {ahead : List (Registration ξ)}
    {opened : List (Route ξ)}
    (hbeside : w.Beside allowed (r.subscriber.subscribe ctx registration.topic w).2) :
    Effect r ctx allowed w (.subscribing (registration :: ahead) opened)
      (subscribe r ctx registration ahead opened w).1
      (subscribe r ctx registration ahead opened w).2 := by
  by_cases hpublisher : (registration.outputTopic.isSome && r.publisher.isNone) = true
  · simp only [subscribe, hpublisher, if_true]
    exact .kept rfl (by simp only [opens?, hpublisher, if_true]) (fun _ => .rfl) (.refl w)
  · simp only [subscribe, if_neg hpublisher]
    cases hs : r.subscriber.subscribe ctx registration.topic w with
    | mk o w' =>
      rw [hs] at hbeside
      cases o with
      | ok s =>
        have hopens : opens? r ⟨ctx, .subscribing (registration :: ahead) opened⟩ w = some s.feed := by
          simp only [opens?, if_neg hpublisher, hs]
        exact .opened registration ⟨s, registration.outputTopic, r.chain registration.handler⟩ rfl hopens
          (fun other => by simp [Stage.routes]) List.mem_cons_self hs rfl hbeside
      | error e =>
        exact .kept rfl (by simp only [opens?, if_neg hpublisher, hs]) (fun _ => .rfl) hbeside
      | panic p =>
        exact .kept rfl (by simp only [opens?, if_neg hpublisher, hs]) (fun _ => .rfl) hbeside

/-- **What an act does to the routes of a run and to the world.** -/
theorem act_effect [RetryLoop] (rung : Bool) (hs : Setting r ctx allowed w stage)
    (hstage : stage ≠ .admitted) :
    Effect r ctx allowed w stage (act r rung ctx stage w).1 (act r rung ctx stage w).2 := by
  have hrefl : w.Beside allowed w := .refl w
  cases stage with
  | admitted => exact absurd rfl hstage
  | subscribing ahead opened =>
    cases ahead with
    | nil => exact .shown .running rfl rfl fun _ => .rfl
    | cons registration ahead => exact subscribe_effect (hs.subscribe _ List.mem_cons_self)
  | top routes =>
    refine .kept rfl rfl (fun route => ?_) hrefl
    simp only [act]
    split <;> simp [Stage.routes]
  | asking passed ahead idle =>
    cases ahead with
    | nil => exact .kept rfl rfl (fun route => Stage.mem_routes_sweep) hrefl
    | cons next ahead =>
      refine .kept rfl rfl (fun route => ?_) hrefl
      simp only [act]
      split
      · exact Stage.mem_routes_sweep
      · rfl
  | checking passed route ahead idle =>
    refine .kept rfl rfl (fun route => ?_) hrefl
    simp only [act, check]
    split
    · simp [Stage.routes]
    · split <;> simp [Stage.routes]
  | receiving passed route ahead idle =>
    have hserved : w.Beside allowed
        { w with queue := (w.queue.serve (.receive route.subscription.feed)).2 } :=
      .request (hs.receive route.subscription.feed) w
    rw [Queue.serve_receive_state] at hserved
    simp only [act, receive]
    cases hreceive : w.queue.receive route.subscription.feed with
    | mk received queue =>
      rw [hreceive] at hserved
      cases received with
      | error e => exact .kept rfl rfl (fun other => by simp [Stage.routes]) hserved
      | ok waiting =>
        cases waiting with
        | none => exact .kept rfl rfl (fun other => by simp [Stage.routes]) hserved
        | some m => exact .kept rfl rfl (fun _ => .rfl) hserved
  | handling passed route m ahead =>
    have hbeside := hs.judge passed route m ahead rfl
    obtain ⟨verdict, w', hjudge⟩ := r.judge_returns route m w
    rw [hjudge] at hbeside
    simp only [act, judge, hjudge]
    exact .kept rfl rfl (fun _ => .rfl) hbeside
  | settling passed route m verdict ahead =>
    have hbroker := hs.broker route (by simp [Stage.routes])
    simp only [act, conclude, Router.conclude_ofQueue hbroker]
    refine .kept rfl rfl (by simp [Stage.routes]) ?_
    cases verdict with
    | none => exact ⟨rfl, rfl, id, fun _ hs => hs, [.ack m.uuid], by simpa using hs.ack _, rfl⟩
    | some e =>
      exact ⟨rfl, rfl, id, fun _ hs => hs, [.nack m.uuid e.message], by simpa using hs.nack _ _, rfl⟩
  | parting lost panic kept idle =>
    cases lost with
    | nil =>
      refine .kept rfl rfl (fun route => ?_) hrefl
      simp only [act, goOn]
      cases panic with
      | some p => simp [Stage.routes]
      | none =>
        cases kept with
        | nil => simp [Stage.routes]
        | cons first kept => exact Stage.mem_routes_again
    | cons route lost =>
      simp only [act, Subscription.discard_ofQueue (hs.broker route (by simp [Stage.routes]))]
      exact .gaveBack route rfl rfl rfl fun other => by simp [Stage.routes]
  | resting routes =>
    refine .kept rfl rfl (fun route => ?_) hrefl
    simp only [act]
    split <;> rfl
  | leaving result routes => exact .shown .draining rfl rfl fun _ => .rfl
  | giving outcome left =>
    cases left with
    | nil => exact .shown .stopped rfl rfl fun _ => .rfl
    | cons route left =>
      simp only [act, Subscription.discard_ofQueue (hs.broker route (by simp [Stage.routes]))]
      exact .gaveBack route rfl rfl rfl fun other => by simp [Stage.routes]
  | releasing outcome => exact .kept rfl rfl (fun _ => .rfl) hrefl
  | returned outcome => exact .kept rfl rfl (fun _ => .rfl) hrefl

/-- What a run shows it shows by its own acts. -/
theorem Effect.control [RetryLoop] {stage' : Stage ξ} {w' : World ξ}
    (he : Effect r ctx allowed w stage stage' w') :
    w'.control.started = w.control.started ∧
      w'.control.phase = stage.shows?.getD w.control.phase := by
  cases he with
  | kept hshows _ _ hbeside | opened _ _ hshows _ _ _ _ _ hbeside =>
    rw [hshows]
    exact ⟨hbeside.started, hbeside.phase⟩
  | shown phase hshows | gaveBack _ _ hshows =>
    rw [hshows]
    exact ⟨rfl, rfl⟩

/-- What was asked for is not forgotten by an act. -/
theorem Effect.lasting [RetryLoop] {stage' : Stage ξ} {w' : World ξ}
    (he : Effect r ctx allowed w stage stage' w') :
    (w.control.closing = true → w'.control.closing = true) ∧
      ∀ other : Context, other.isCancelled w.scopes = true → other.isCancelled w'.scopes = true := by
  cases he with
  | kept _ _ _ hbeside | opened _ _ _ _ _ _ _ _ hbeside =>
    exact ⟨hbeside.closing, fun _ hc => hbeside.isCancelled hc⟩
  | shown | gaveBack => exact ⟨id, fun _ hc => hc⟩

end Course

/-! ## What a run shows -/

/-- What is shown, in the order in which it is. -/
def Phase.era : Phase → Nat
  | .stopped => 0
  | .running => 1
  | .draining => 2

namespace Stage

/-- A run that is in its rounds, or just out of them. -/
def Serving : Stage ξ → Prop
  | .admitted | .subscribing _ _ | .giving _ _ | .releasing _ | .returned _ => False
  | _ => True

/-- What is seen of a run fits the stage at which it is. -/
def Fits (phase : Phase) : Stage ξ → Prop
  | .admitted | .subscribing _ _ | .releasing _ | .returned _ => phase = .stopped
  | .giving _ _ => True
  | _ => phase = .running

/-- A run that finds the router closed. -/
def Refused : Stage ξ → Prop
  | .admitted => True
  | .giving outcome left => outcome = .error .closed ∧ left = []
  | .releasing outcome | .returned outcome => outcome = .error .closed
  | _ => False

/-- How far a run is: not in its rounds yet, in its rounds, out of them, or over. -/
def era (phase : Phase) : Stage ξ → Nat
  | .releasing _ | .returned _ => 3
  | _ => phase.era

theorem serving_again (kept : List (Route ξ)) (idle : Bool) : (again kept idle).Serving := by
  cases idle <;> trivial

theorem serving_sweep (passed : List (Route ξ × Bool)) (ahead : List (Route ξ)) (idle : Bool) :
    (sweep passed ahead idle).Serving := by
  simp only [sweep]
  split
  · exact serving_again _ _
  · trivial

theorem Serving.fits_iff {stage : Stage ξ} (h : stage.Serving) (phase : Phase) :
    stage.Fits phase ↔ phase = .running := by
  cases stage <;> first | exact h.elim | exact .rfl

theorem Serving.awaited {stage : Stage ξ} (h : stage.Serving) : stage.awaited = [] := by
  cases stage <;> first | exact h.elim | rfl

theorem Serving.era {stage : Stage ξ} (h : stage.Serving) (phase : Phase) :
    stage.era phase = phase.era := by
  cases stage <;> first | exact h.elim | rfl

theorem era_le (phase : Phase) (stage : Stage ξ) : stage.era phase ≤ 3 := by
  have hphase : phase.era ≤ 3 := by cases phase <;> decide
  cases stage <;> first | exact Nat.le_refl 3 | exact hphase

end Stage

namespace Course

variable {r : Router ξ} {rung : Bool} {ctx : Context} {stage : Stage ξ} {w : World ξ}

/-- A run leaves its rounds by giving back what it holds. -/
theorem serving_act [RetryLoop] (r : Router ξ) (rung : Bool) (ctx : Context) (h : stage.Serving)
    (w : World ξ) :
    (act r rung ctx stage w).1.Serving ∨
      ∃ outcome left, (act r rung ctx stage w).1 = .giving outcome left := by
  cases stage with
  | admitted | subscribing | giving | releasing | returned => exact h.elim
  | top routes =>
    simp only [act]
    split <;> exact .inl trivial
  | asking passed ahead idle =>
    cases ahead with
    | nil => exact .inl (Stage.serving_sweep _ _ _)
    | cons next ahead =>
      simp only [act]
      split
      · exact .inl (Stage.serving_sweep _ _ _)
      · exact .inl trivial
  | checking passed route ahead idle =>
    simp only [act, check]
    split
    · exact .inl trivial
    · split <;> exact .inl trivial
  | receiving passed route ahead idle =>
    simp only [act, receive]
    split <;> exact .inl trivial
  | handling passed route m ahead =>
    simp only [act, judge]
    split <;> exact .inl trivial
  | settling passed route m verdict ahead => exact .inl trivial
  | parting lost panic kept idle =>
    cases lost with
    | cons route lost => exact .inl trivial
    | nil =>
      simp only [act, goOn]
      split
      · exact .inr ⟨_, _, rfl⟩
      · split
        · exact .inl trivial
        · exact .inl (Stage.serving_again _ _)
  | resting routes =>
    simp only [act]
    split <;> exact .inl trivial
  | leaving result routes => exact .inr ⟨_, _, rfl⟩

/-- A run that has not subscribed to everything goes on with the next registration, or gives up. -/
theorem subscribe_cases [RetryLoop] (r : Router ξ) (ctx : Context) (registration : Registration ξ)
    (ahead : List (Registration ξ)) (opened : List (Route ξ)) (w : World ξ) :
    (∃ routes, (subscribe r ctx registration ahead opened w).1 = .subscribing ahead routes) ∨
      ∃ outcome, (subscribe r ctx registration ahead opened w).1 = .giving outcome opened := by
  simp only [subscribe]
  split
  · exact .inr ⟨_, rfl⟩
  · split
    · exact .inl ⟨_, rfl⟩
    · exact .inr ⟨_, rfl⟩
    · exact .inr ⟨_, rfl⟩

/-- **What is seen of a run changes in one direction only.** -/
theorem fits_act [RetryLoop] (r : Router ξ) (rung : Bool) (ctx : Context) (w : World ξ) {phase : Phase}
    (h : stage.Fits phase) :
    (act r rung ctx stage w).1.Fits (stage.shows?.getD phase) ∧
      stage.era phase ≤ (act r rung ctx stage w).1.era (stage.shows?.getD phase) := by
  have hserved : stage.Serving → stage.shows? = none →
      (act r rung ctx stage w).1.Fits (stage.shows?.getD phase) ∧
        stage.era phase ≤ (act r rung ctx stage w).1.era (stage.shows?.getD phase) := by
    intro hserving hshows
    rw [hshows, Option.getD_none, hserving.era]
    have hrunning := (hserving.fits_iff phase).mp h
    rcases serving_act r rung ctx hserving w with hnext | ⟨_, _, hnext⟩
    · exact ⟨(hnext.fits_iff phase).mpr hrunning, Nat.le_of_eq (hnext.era phase).symm⟩
    · rw [hnext]
      exact ⟨trivial, Nat.le_refl _⟩
  cases stage with
  | top | asking | checking | receiving | handling | settling | parting | resting =>
    exact hserved trivial rfl
  | admitted => exact ⟨h, Nat.le_refl _⟩
  | subscribing ahead opened =>
    have hstopped : phase = .stopped := h
    subst hstopped
    cases ahead with
    | nil => exact ⟨rfl, Nat.zero_le _⟩
    | cons registration ahead =>
      refine ⟨?_, Nat.zero_le _⟩
      rcases subscribe_cases r ctx registration ahead opened w with ⟨_, hnext⟩ | ⟨_, hnext⟩
      · simp only [act, hnext]
        rfl
      · simp only [act, hnext]
        trivial
  | leaving result routes =>
    have hrunning : phase = .running := h
    subst hrunning
    have hlater : Phase.running.era ≤ Phase.draining.era := by decide
    exact ⟨trivial, hlater⟩
  | giving outcome left =>
    cases left with
    | nil => exact ⟨rfl, Stage.era_le phase (.giving outcome [])⟩
    | cons route left => exact ⟨trivial, Nat.le_refl _⟩
  | releasing outcome => exact ⟨h, Nat.le_refl _⟩
  | returned outcome => exact ⟨h, Nat.le_refl _⟩

/-- A run returns after it released those who wait for its end. -/
theorem releases_or_returned [RetryLoop] {outcome : Outcome RouterError Unit}
    (h : (act r rung ctx stage w).1 = .returned outcome) :
    releases ⟨ctx, stage⟩ = true ∨ stage = .returned outcome := by
  have hserved : stage.Serving → (act r rung ctx stage w).1 ≠ .returned outcome := by
    intro hserving hreturned
    rcases serving_act r rung ctx hserving w with hnext | ⟨_, _, hnext⟩
    · rw [hreturned] at hnext
      exact hnext
    · rw [hreturned] at hnext
      cases hnext
  cases stage with
  | top | asking | checking | receiving | handling | settling | parting | resting | leaving =>
    exact absurd h (hserved trivial)
  | admitted => cases h
  | releasing outcome => exact .inl rfl
  | returned outcome => exact .inr h
  | giving outcome left => cases left <;> cases h
  | subscribing ahead opened =>
    cases ahead with
    | nil => cases h
    | cons next ahead =>
      rcases subscribe_cases r ctx next ahead opened w with ⟨_, hnext⟩ | ⟨_, hnext⟩
      · simp [act, hnext] at h
      · simp [act, hnext] at h

/-- Registrations are subscribed to in their order. -/
theorem awaited_act [RetryLoop] {registration : Registration ξ}
    (h : registration ∈ (act r rung ctx stage w).1.awaited) : registration ∈ stage.awaited := by
  have hserved : stage.Serving → registration ∉ (act r rung ctx stage w).1.awaited := by
    intro hserving
    rcases serving_act r rung ctx hserving w with hnext | ⟨_, _, hnext⟩
    · simp [hnext.awaited]
    · simp [hnext, Stage.awaited]
  cases stage with
  | top | asking | checking | receiving | handling | settling | parting | resting | leaving =>
    exact absurd h (hserved trivial)
  | admitted | releasing | returned => exact h
  | giving outcome left => cases left <;> exact h
  | subscribing ahead opened =>
    cases ahead with
    | nil => exact h
    | cons next ahead =>
      rcases subscribe_cases r ctx next ahead opened w with ⟨_, hnext⟩ | ⟨_, hnext⟩
      · simp only [act, hnext] at h
        exact List.mem_cons_of_mem _ h
      · simp [act, hnext, Stage.awaited] at h

end Course

end SymbolRelay
