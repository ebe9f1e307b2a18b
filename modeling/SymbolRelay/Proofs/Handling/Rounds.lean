import SymbolRelay.Proofs.Handling.Acts

/-!
# From its rounds to its end

A run over the queue opens its subscriptions itself and closes none of them before its end. So it goes from
one stage to the next in few ways, and whatever holds of a run from its rounds on is seen by looking at
these. Once its end was asked for, it does not begin another round, and does not take another message if it
looks once more; so one message may still be settled, and every act brings the run nearer to its end.

```text
rank    returned < releasing < giving < leaving < top < resting < parting < asking < settling < … < checking
owing      0          0          0        0        0      0         0         0         1      1      0 or 1
```

## Results

* `act_goes` — where a run over the queue goes next;
* `goes_entered`, `goes_few`, `goes_owned`, `goes_inHand` — what holds of it as it goes on;
* `goes_owing`, `goes_rank` — what is owed and how far the end is, once the end was asked for;
* `goes_smooth` — as long as its feeds are live, nothing goes wrong.
-/

set_option autoImplicit false

namespace SymbolRelay

variable {ξ : Type}

/-! ## Subscriptions of a run -/

/-- A subscription that a run opened over the queue: it was not closed, and it ends when the run is
cancelled. -/
structure Owned (ctx : Context) (route : Route ξ) : Prop where
  broker : route.subscription.broker = Broker.ofQueue
  opened : route.subscription.closed = false
  inside : ∀ scopes, ctx.isCancelled scopes = true → route.subscription.ctx.isCancelled scopes = true

/-- Who is cancelled cancels its children. -/
theorem Context.child_isCancelled {ctx : Context} (made : Scopes) {scopes : Scopes}
    (h : ctx.isCancelled scopes = true) : (ctx.child made).1.isCancelled scopes = true := by
  simp only [isCancelled, child, List.any_cons, Bool.or_eq_true] at h ⊢
  exact .inr h

/-- What the subscriber over the queue opens is owned by the run that asked for it. -/
theorem Owned.of_subscribe {ctx : Context} {topic : String} {w w' : World ξ} {s : Subscription ξ}
    (h : (Subscriber.ofBroker Broker.ofQueue).subscribe ctx topic w = (.ok s, w'))
    (outputTopic : Option String) (handler : Handler ξ) : Owned ctx ⟨s, outputTopic, handler⟩ := by
  rw [(Subscriber.subscribe_eq_ok h).2]
  exact ⟨rfl, rfl, fun _ hc => Context.child_isCancelled _ hc⟩

namespace Stage

/-! ## Rounds -/

@[simp] theorem routes_again (kept : List (Route ξ)) (idle : Bool) : (again kept idle).routes = kept := by
  cases idle <;> rfl

@[simp] theorem awaited_again (kept : List (Route ξ)) (idle : Bool) : (again kept idle).awaited = [] := by
  cases idle <;> rfl

@[simp] theorem inHand_again (kept : List (Route ξ)) (idle : Bool) : (again kept idle).inHand = [] := by
  cases idle <;> rfl

/-- What comes after a round: the next one, or first some routes are given up. -/
theorem sweep_cases (passed : List (Route ξ × Bool)) (ahead : List (Route ξ)) (idle : Bool) :
    ((∀ e ∈ passed, e.2 = false) ∧ sweep passed ahead idle = again (passed.map (·.1) ++ ahead) idle) ∨
      ∃ lost kept, (∃ e ∈ passed, e.2 = true) ∧ sweep passed ahead idle = parting lost none kept idle ∧
        (lost ++ kept).length = (passed.map (·.1) ++ ahead).length := by
  have hlength := List.length_eq_length_filter_add (l := passed) (·.2)
  by_cases hlost : ∀ e ∈ passed, e.2 = false
  · have hnone : passed.filter (·.2) = [] := by
      rw [List.filter_eq_nil_iff]
      exact fun e he => by simp [hlost e he]
    have hall : (passed.filter fun e => !e.2) = passed := by
      rw [List.filter_eq_self]
      exact fun e he => by simp [hlost e he]
    refine .inl ⟨hlost, ?_⟩
    simp only [sweep, hnone, hall, List.map_nil, List.isEmpty_nil, if_true]
  · push Not at hlost
    obtain ⟨e, he, hended⟩ := hlost
    have hended : e.2 = true := by simpa using hended
    have hsome : ((passed.filter (·.2)).map (·.1)).isEmpty = false := by
      have hmem : e ∈ passed.filter (·.2) := List.mem_filter.mpr ⟨he, hended⟩
      cases hfilter : passed.filter (·.2) with
      | nil => simp [hfilter] at hmem
      | cons first rest => rfl
    refine .inr ⟨_, _, ⟨e, he, hended⟩, by simp only [sweep, hsome, Bool.false_eq_true, if_false]; rfl, ?_⟩
    simp only [List.length_append, List.length_map]
    omega

/-! ## What is seen of a stage -/

/-- A run that came into its rounds: no panic is on its way, and it ends well or lost its subscriptions. -/
def Entered : Stage ξ → Prop
  | .admitted | .subscribing _ _ => False
  | .parting _ panic _ _ => panic = none
  | .leaving result _ => result = .ok () ∨ result = .error .subscriptionsLost
  | .giving outcome _ | .releasing outcome | .returned outcome =>
    outcome = .ok () ∨ outcome = .error .subscriptionsLost
  | _ => True

/-- A run that came into its rounds, in which no subscription was found ended. -/
def Smooth : Stage ξ → Prop
  | .admitted | .subscribing _ _ | .parting _ _ _ _ => False
  | .asking passed _ _ | .checking passed _ _ _ | .receiving passed _ _ _ => ∀ e ∈ passed, e.2 = false
  | .handling passed _ _ _ | .settling passed _ _ _ _ => ∀ e ∈ passed, e.2 = false
  | .top _ | .resting _ => True
  | .leaving result _ => result = .ok ()
  | .giving outcome _ | .releasing outcome | .returned outcome => outcome = .ok ()

/-- How many messages a run may still settle once its end was asked for. -/
def owing (w : World ξ) : Stage ξ → Nat
  | .checking _ route _ _ => if route.subscription.ctx.isCancelled w.scopes then 0 else 1
  | .receiving _ _ _ _ | .handling _ _ _ _ | .settling _ _ _ _ _ => 1
  | _ => 0

/-- How many acts, besides giving its routes back, a run takes at most until it has returned, once its end
was asked for. -/
def remaining (w : World ξ) : Stage ξ → Nat
  | .admitted | .subscribing _ _ | .returned _ => 0
  | .releasing _ => 1
  | .giving _ _ => 2
  | .leaving _ _ => 3
  | .top _ => 4
  | .resting _ => 5
  | .parting _ _ _ _ => 6
  | .asking _ _ _ => 7
  | .settling _ _ _ _ _ => 8
  | .handling _ _ _ _ => 9
  | .receiving _ _ _ _ => 10
  | .checking _ route _ _ => if route.subscription.ctx.isCancelled w.scopes then 4 else 11

/-- How many acts a run takes at most until it has returned, once its end was asked for. -/
def rank (w : World ξ) (stage : Stage ξ) : Nat := stage.remaining w + stage.routes.length

@[simp] theorem owing_again (w : World ξ) (kept : List (Route ξ)) (idle : Bool) :
    (again kept idle).owing w = 0 := by
  cases idle <;> rfl

theorem rank_again (w : World ξ) (kept : List (Route ξ)) (idle : Bool) :
    (again kept idle).rank w ≤ 5 + kept.length := by
  cases idle <;> simp [again, rank, remaining, routes]

/-- One more route had its turn, and was not found ended. -/
theorem passed_snoc {passed : List (Route ξ × Bool)} (h : ∀ e ∈ passed, e.2 = false) (route : Route ξ) :
    ∀ e ∈ passed ++ [(route, false)], e.2 = false := by
  intro e he
  rcases List.mem_append.mp he with he | he
  · exact h e he
  · rw [List.mem_singleton.mp he]

theorem entered_again (kept : List (Route ξ)) (idle : Bool) : (again kept idle).Entered := by
  cases idle <;> trivial

theorem smooth_again (kept : List (Route ξ)) (idle : Bool) : (again kept idle).Smooth := by
  cases idle <;> trivial

/-- A run that did not come into its rounds, or left them. -/
def Outside : Stage ξ → Prop
  | .admitted | .subscribing _ _ | .giving _ _ | .releasing _ | .returned _ => True
  | _ => False

/-- A run that holds its routes open, be it in its rounds or before them. -/
def Open : Stage ξ → Prop
  | .admitted | .giving _ _ | .releasing _ | .returned _ => False
  | _ => True

/-- No panic is on its way while a run gives up routes. -/
def Calm : Stage ξ → Prop
  | .parting _ panic _ _ => panic = none
  | _ => True

theorem owing_le (w : World ξ) (stage : Stage ξ) : stage.owing w ≤ 1 := by
  cases stage with
  | checking passed route ahead idle =>
    simp only [owing]
    split <;> decide
  | _ => simp [owing]

theorem remaining_le (w : World ξ) (stage : Stage ξ) : stage.remaining w ≤ 11 := by
  cases stage with
  | checking passed route ahead idle =>
    simp only [remaining]
    split <;> decide
  | _ => simp [remaining]

/-- A run that smoothly came into its rounds came into them. -/
theorem Smooth.entered {stage : Stage ξ} (h : stage.Smooth) : stage.Entered := by
  cases stage with
  | admitted | subscribing | parting => exact h.elim
  | leaving | giving | releasing | returned => exact .inl h
  | _ => trivial

end Stage

namespace Course

/-! ## The ways on -/

/-- Where a run over the queue goes next. -/
inductive Goes (ctx : Context) (w : World ξ) : Stage ξ → Stage ξ → Prop where
  | subscribed {registration : Registration ξ} {ahead : List (Registration ξ)} {opened : List (Route ξ)}
    {route : Route ξ} (howned : Owned ctx route) :
    Goes ctx w (.subscribing (registration :: ahead) opened) (.subscribing ahead (opened ++ [route]))
  | refused {registration : Registration ξ} {ahead : List (Registration ξ)} {opened : List (Route ξ)}
    (outcome : Outcome RouterError Unit) :
    Goes ctx w (.subscribing (registration :: ahead) opened) (.giving outcome opened)
  | enters {routes : List (Route ξ)} : Goes ctx w (.subscribing [] routes) (.top routes)
  | stops {routes : List (Route ξ)} : Goes ctx w (.top routes) (.leaving (.ok ()) routes)
  | begins {routes : List (Route ξ)} (hclosing : w.control.closing = false)
    (hcancelled : ctx.isCancelled w.scopes = false) :
    Goes ctx w (.top routes) (.asking [] routes true)
  | sweeps {passed : List (Route ξ × Bool)} {ahead : List (Route ξ)} {idle : Bool}
    (hended : ∀ e ∈ passed, e.2 = false) :
    Goes ctx w (.asking passed ahead idle) (.again (passed.map (·.1) ++ ahead) idle)
  | loses {passed : List (Route ξ × Bool)} {ahead lost kept : List (Route ξ)} {idle : Bool}
    (hended : ∃ e ∈ passed, e.2 = true)
    (hroutes : ∀ route ∈ lost ++ kept, route ∈ passed.map (·.1) ++ ahead)
    (hlength : (lost ++ kept).length = (passed.map (·.1) ++ ahead).length) :
    Goes ctx w (.asking passed ahead idle) (.parting lost none kept idle)
  | checks {passed : List (Route ξ × Bool)} {route : Route ξ} {ahead : List (Route ξ)} {idle : Bool}
    (hclosing : w.control.closing = false) :
    Goes ctx w (.asking passed (route :: ahead) idle) (.checking passed route ahead idle)
  | isCancelled {passed : List (Route ξ × Bool)} {route : Route ξ} {ahead : List (Route ξ)} {idle : Bool}
    (hcancelled : route.subscription.ctx.isCancelled w.scopes = true) :
    Goes ctx w (.checking passed route ahead idle)
      (.leaving (.ok ()) (passed.map (·.1) ++ route :: ahead))
  | isOpen {passed : List (Route ξ × Bool)} {route : Route ξ} {ahead : List (Route ξ)} {idle : Bool}
    (hcancelled : route.subscription.ctx.isCancelled w.scopes = false) :
    Goes ctx w (.checking passed route ahead idle) (.receiving passed route ahead idle)
  | takes {passed : List (Route ξ × Bool)} {route : Route ξ} {ahead : List (Route ξ)} {idle : Bool}
    {m : Message} (hreceived : (w.queue.receive route.subscription.feed).1 = .ok (some m)) :
    Goes ctx w (.receiving passed route ahead idle) (.handling passed route m ahead)
  | misses {passed : List (Route ξ × Bool)} {route : Route ξ} {ahead : List (Route ξ)} {idle : Bool}
    (ended : Bool)
    (hreceived : (w.queue.receive route.subscription.feed).1 = if ended then .error () else .ok none) :
    Goes ctx w (.receiving passed route ahead idle) (.asking (passed ++ [(route, ended)]) ahead idle)
  | judges {passed : List (Route ξ × Bool)} {route : Route ξ} {m : Message} {ahead : List (Route ξ)}
    (verdict : Option HandlerError) :
    Goes ctx w (.handling passed route m ahead) (.settling passed route m verdict ahead)
  | settles {passed : List (Route ξ × Bool)} {route : Route ξ} {m : Message}
    {verdict : Option HandlerError} {ahead : List (Route ξ)} :
    Goes ctx w (.settling passed route m verdict ahead) (.asking (passed ++ [(route, false)]) ahead false)
  | parts {route : Route ξ} {lost kept : List (Route ξ)} {idle : Bool} :
    Goes ctx w (.parting (route :: lost) none kept idle) (.parting lost none kept idle)
  | parted {kept : List (Route ξ)} {idle : Bool} :
    Goes ctx w (.parting [] none kept idle) (.again kept idle)
  | alone {idle : Bool} {result : Except RouterError Unit}
    (hresult : result = .ok () ∨ result = .error .subscriptionsLost) :
    Goes ctx w (.parting [] none [] idle) (.leaving result [])
  | woken {routes : List (Route ξ)} : Goes ctx w (.resting routes) (.leaving (.ok ()) routes)
  | rested {routes : List (Route ξ)} : Goes ctx w (.resting routes) (.top routes)
  | leaves {result : Except RouterError Unit} {routes : List (Route ξ)} :
    Goes ctx w (.leaving result routes) (.giving (.ofExcept result) routes)
  | gives {outcome : Outcome RouterError Unit} {route : Route ξ} {left : List (Route ξ)} :
    Goes ctx w (.giving outcome (route :: left)) (.giving outcome left)
  | given {outcome : Outcome RouterError Unit} : Goes ctx w (.giving outcome []) (.releasing outcome)
  | releases {outcome : Outcome RouterError Unit} :
    Goes ctx w (.releasing outcome) (.returned outcome)
  | rests {outcome : Outcome RouterError Unit} : Goes ctx w (.returned outcome) (.returned outcome)

variable {r : Router ξ} {ctx : Context} {w w' : World ξ} {stage stage' : Stage ξ}

/-- The end of a round. -/
theorem sweep_goes {passed : List (Route ξ × Bool)} {ahead : List (Route ξ)} {idle : Bool} :
    Goes ctx w (.asking passed ahead idle) (.sweep passed ahead idle) := by
  have hroutes : ∀ route ∈ (Stage.sweep passed ahead idle).routes, route ∈ passed.map (·.1) ++ ahead :=
    fun _ => Stage.mem_routes_sweep.mp
  rcases Stage.sweep_cases passed ahead idle with ⟨hended, hsweep⟩ | ⟨lost, kept, hended, hsweep, hlength⟩
  · rw [hsweep]
    exact .sweeps hended
  · rw [hsweep] at hroutes ⊢
    exact .loses hended hroutes hlength

/-- **Where a run over the queue goes next.** -/
theorem act_goes [RetryLoop] (hr : r.subscriber = Subscriber.ofBroker Broker.ofQueue) (rung : Bool)
    (hadmitted : stage ≠ .admitted) (hcalm : stage.Calm) (howned : ∀ route ∈ stage.routes, Owned ctx route) :
    Goes ctx w stage (act r rung ctx stage w).1 := by
  cases stage with
  | admitted => exact absurd rfl hadmitted
  | subscribing ahead opened =>
    cases ahead with
    | nil => exact .enters
    | cons registration ahead =>
      simp only [act, subscribe]
      split
      · exact .refused _
      · split
        · rename_i hsubscribe
          rw [hr] at hsubscribe
          exact .subscribed (.of_subscribe hsubscribe _ _)
        · exact .refused _
        · exact .refused _
  | top routes =>
    simp only [act]
    split
    · exact .stops
    · rename_i hasked
      rw [Bool.not_eq_true, Bool.or_eq_false_iff] at hasked
      exact .begins hasked.1 hasked.2
  | asking passed ahead idle =>
    cases ahead with
    | nil => exact sweep_goes
    | cons route ahead =>
      simp only [act]
      split
      · exact sweep_goes
      · rename_i hclosing
        exact .checks (Bool.eq_false_iff.mpr hclosing)
  | checking passed route ahead idle =>
    have hopened := (howned route (by simp [Stage.routes])).opened
    simp only [act, check, hopened, Bool.false_eq_true, if_false]
    split
    · rename_i hcancelled
      exact .isCancelled hcancelled
    · rename_i hcancelled
      exact .isOpen (Bool.eq_false_iff.mpr hcancelled)
  | receiving passed route ahead idle =>
    simp only [act, receive]
    cases hreceive : w.queue.receive route.subscription.feed with
    | mk received queue =>
      have hreceived : (w.queue.receive route.subscription.feed).1 = received := by rw [hreceive]
      cases received with
      | error e => exact .misses true hreceived
      | ok waiting =>
        cases waiting with
        | none => exact .misses false hreceived
        | some m => exact .takes hreceived
  | handling passed route m ahead =>
    obtain ⟨verdict, w', hjudge⟩ := r.judge_returns route m w
    simp only [act, judge, hjudge]
    exact .judges verdict
  | settling passed route m verdict ahead => exact .settles
  | parting lost panic kept idle =>
    have hpanic : panic = none := hcalm
    subst hpanic
    cases lost with
    | cons route lost =>
      have hbroker := (howned route (by simp [Stage.routes])).broker
      simp only [act, Subscription.discard_ofQueue hbroker]
      exact .parts
    | nil =>
      simp only [act, goOn]
      cases kept with
      | cons route kept => exact .parted
      | nil =>
        refine .alone ?_
        split
        · exact .inl rfl
        · exact .inr rfl
  | resting routes =>
    simp only [act]
    split
    · exact .woken
    · exact .rested
  | leaving result routes => exact .leaves
  | giving outcome left =>
    cases left with
    | nil => exact .given
    | cons route left =>
      have hbroker := (howned route (by simp [Stage.routes])).broker
      simp only [act, Subscription.discard_ofQueue hbroker]
      exact .gives
  | releasing outcome => exact .releases
  | returned outcome => exact .rests

/-! ## What holds of a run as it goes on -/

/-- No panic gets on its way. -/
theorem goes_calm (h : Goes ctx w stage stage') : stage'.Calm := by
  cases h with
  | loses | parts => rfl
  | @sweeps _ _ idle | @parted _ idle => cases idle <;> trivial
  | _ => trivial

/-- **A run that came into its rounds** goes on in them, or ends well, or lost its subscriptions. -/
theorem goes_entered (h : Goes ctx w stage stage') (hs : stage.Entered) : stage'.Entered := by
  cases h with
  | subscribed | refused | enters => exact hs.elim
  | sweeps | parted => exact Stage.entered_again _ _
  | begins | checks | isOpen | takes | misses | judges | settles | rested => trivial
  | loses | parts => rfl
  | stops | isCancelled | woken => exact .inl rfl
  | alone hresult => exact hresult
  | leaves =>
    rcases hs with rfl | rfl
    · exact .inl rfl
    · exact .inr rfl
  | gives | given | releases | rests => exact hs

/-- A run that is not in its rounds comes into them, or shows nothing but that it is stopped. -/
theorem goes_outside (h : Goes ctx w stage stage') (hs : stage.Outside) :
    stage'.Smooth ∨ stage'.Outside ∧ stage.shows?.getD .stopped = .stopped := by
  cases h with
  | enters => exact .inl trivial
  | subscribed | refused | gives | given | releases | rests => exact .inr ⟨trivial, rfl⟩
  | _ => exact hs.elim

/-- A run that gives back what it has opens nothing any more. -/
theorem goes_shut (h : Goes ctx w stage stage') (hadmitted : stage ≠ .admitted) (hs : ¬stage.Open) :
    ¬stage'.Open := by
  cases h with
  | gives | given | releases | rests => exact id
  | _ => exact absurd trivial hs

/-- A run that released who waits for its end has returned. -/
theorem goes_over (h : Goes ctx w stage stage')
    (hs : releases ⟨ctx, stage⟩ = true ∨ ∃ outcome, stage = .returned outcome) :
    ∃ outcome, stage' = .returned outcome := by
  cases h with
  | releases | rests => exact ⟨_, rfl⟩
  | _ => simp [Course.releases] at hs

/-- A run holds no more routes than there are registrations. -/
theorem goes_few (h : Goes ctx w stage stage') :
    stage'.routes.length + stage'.awaited.length ≤ stage.routes.length + stage.awaited.length := by
  cases h with
  | sweeps | parted =>
    rw [Stage.routes_again, Stage.awaited_again]
    exact Nat.le_refl _
  | loses hended hroutes hlength => exact Nat.le_of_eq hlength
  | subscribed =>
    simp only [Stage.routes, Stage.awaited, List.length_append, List.length_cons, List.length_nil]
    omega
  | _ => simp [Stage.routes, Stage.awaited]

/-- What a run holds it opened. -/
theorem goes_owned (h : Goes ctx w stage stage') (hs : ∀ route ∈ stage.routes, Owned ctx route) :
    ∀ route ∈ stage'.routes, Owned ctx route := by
  cases h with
  | subscribed howned =>
    intro route hmem
    rcases List.mem_append.mp hmem with hmem | hmem
    · exact hs route hmem
    · rw [List.mem_singleton.mp hmem]
      exact howned
  | loses hended hroutes => exact fun route hmem => hs route (hroutes route hmem)
  | sweeps | parted =>
    rw [Stage.routes_again]
    exact hs
  | parts | gives => exact fun route hmem => hs route (List.mem_cons_of_mem _ hmem)
  | misses | settles => exact fun route hmem => hs route (by simpa [Stage.routes] using hmem)
  | given | releases | rests => exact List.forall_mem_nil _
  | _ => exact hs

/-- **What was taken is settled, or in hand.** -/
theorem goes_inHand (w' : World ξ) (h : Goes ctx w stage stage') :
    stage.inHand ++ (takes? ⟨ctx, stage⟩ w).toList =
      (settles? ⟨ctx, stage⟩ w w').toList.map (fun t => (t.topic, t.message)) ++ stage'.inHand := by
  cases h with
  | takes hreceived => simp [Stage.inHand, takes?, settles?, hreceived]
  | misses ended hreceived => cases ended <;> simp [Stage.inHand, takes?, settles?, hreceived]
  | sweeps | parted =>
    rw [Stage.inHand_again]
    rfl
  | _ => rfl

/-- **A message that a run settles it acks once, or nacks once.** -/
theorem act_settles_once [RetryLoop] (r : Router ξ) (rung : Bool)
    (howned : ∀ route ∈ stage.routes, Owned ctx route) :
    ∀ t ∈ (settles? ⟨ctx, stage⟩ w (act r rung ctx stage w).2).toList, t.Once := by
  cases stage with
  | settling passed route m verdict ahead =>
    have hbroker := (howned route (by simp [Stage.routes])).broker
    intro t ht
    simp only [settles?, act, conclude, Router.conclude_ofQueue hbroker, Option.toList_some,
      List.mem_singleton] at ht
    subst ht
    cases verdict with
    | none => exact .inl (by simp [Settlement.ofStep, Queue.ack])
    | some e => exact .inr (by simp [Settlement.ofStep, Queue.nack])
  | _ => exact List.forall_mem_nil _

/-! ## After the end was asked for -/

/-- The end of a run was asked for: the router was asked to close, or the context of the run is
cancelled. -/
def Asked (ctx : Context) (w : World ξ) : Prop :=
  w.control.closing = true ∨ ctx.isCancelled w.scopes = true

/-- **Once its end was asked for, a run settles what it owes, and owes nothing more.** -/
theorem goes_owing (h : Goes ctx w stage stage') (howned : ∀ route ∈ stage.routes, Owned ctx route)
    (hasked : Asked ctx w)
    (hlasting : ∀ other : Context, other.isCancelled w.scopes = true → other.isCancelled w'.scopes = true) :
    (settles? ⟨ctx, stage⟩ w w').toList.length + stage'.owing w' ≤ stage.owing w := by
  cases h with
  | @checks _ route _ _ hclosing =>
    -- It looks once more only if its context was cancelled, and then it finds the subscription ended.
    have hcancelled : ctx.isCancelled w.scopes = true := hasked.resolve_left (by simp [hclosing])
    have hinside := (howned route (by simp [Stage.routes])).inside _ hcancelled
    simp [settles?, Stage.owing, hlasting _ hinside]
  | isOpen hcancelled => simp [settles?, Stage.owing, hcancelled]
  | sweeps | parted =>
    rw [Stage.owing_again]
    exact Nat.le_refl 0
  | _ => simp [settles?, Stage.owing]

/-- **Once its end was asked for, a run comes nearer to it with every act.** -/
theorem goes_rank (h : Goes ctx w stage stage') (howned : ∀ route ∈ stage.routes, Owned ctx route)
    (hentered : stage.Entered) (hasked : Asked ctx w)
    (hlasting : ∀ other : Context, other.isCancelled w.scopes = true → other.isCancelled w'.scopes = true) :
    stage'.rank w' ≤ stage.rank w - 1 := by
  cases h with
  | subscribed | refused | enters => exact hentered.elim
  | begins hclosing hcancelled => simp [Asked, hclosing, hcancelled] at hasked
  | @checks _ route _ _ hclosing =>
    have hcancelled : ctx.isCancelled w.scopes = true := hasked.resolve_left (by simp [hclosing])
    have hinside := (howned route (by simp [Stage.routes])).inside _ hcancelled
    simp [Stage.rank, Stage.remaining, hlasting _ hinside, Stage.routes]
  | isOpen hcancelled => simp [Stage.rank, Stage.remaining, hcancelled, Stage.routes]
  | isCancelled hcancelled => simp [Stage.rank, Stage.remaining, hcancelled, Stage.routes]
  | sweeps | parted =>
    refine Nat.le_trans (Stage.rank_again _ _ _) ?_
    simp only [Stage.rank, Stage.remaining, Stage.routes, List.nil_append, List.length_append]
    omega
  | loses hended hroutes hlength =>
    simp only [Stage.rank, Stage.remaining, Stage.routes, hlength]
    omega
  | _ => simp [Stage.rank, Stage.remaining, Stage.routes]

/-! ## As long as the feeds are live -/

/-- **As long as its feeds are live, nothing goes wrong with a run.** -/
theorem goes_smooth (h : Goes ctx w stage stage') (hs : stage.Smooth)
    (hlive : stage.Open →
      ∀ route ∈ stage.routes, ∃ m, (w.queue.receive route.subscription.feed).1 = .ok m) :
    stage'.Smooth := by
  cases h with
  | subscribed | refused | enters | parts | parted | alone => exact hs.elim
  | loses hended =>
    obtain ⟨e, he, hended⟩ := hended
    simp [hs e he] at hended
  | @misses _ route _ _ ended hreceived =>
    obtain ⟨m, hm⟩ := hlive trivial route (by simp [Stage.routes])
    have hopen : ended = false := by
      cases ended with
      | false => rfl
      | true => simp [hm] at hreceived
    subst hopen
    exact Stage.passed_snoc hs route
  | @settles _ route => exact Stage.passed_snoc hs route
  | sweeps => exact Stage.smooth_again _ _
  | begins => exact List.forall_mem_nil _
  | stops | isCancelled | woken => exact rfl
  | rested => trivial
  | checks | isOpen | takes | judges | given | gives | releases | rests => exact hs
  | @leaves result =>
    have hresult : result = .ok () := hs
    subst hresult
    rfl

end Course

end SymbolRelay
