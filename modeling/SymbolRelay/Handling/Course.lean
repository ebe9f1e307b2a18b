import SymbolRelay.Handling.Watch

/-!
# A run, one act after the other

While a router runs, others act as well: they publish, ask it to close, cancel its context, or call it
again. What they can come between are the single acts of the run: looking whether closing was asked for,
opening one subscription, receiving one message, handling it, settling it, giving one subscription back.

```text
admitted ─► subscribing ─► top ─► asking ─► checking ─► receiving ─► handling ─► settling
                 │          ▲ │     ▲ │        │            │                        │
                 │          │ │     └─┼────────┼────────────┴────────────────────────┘
                 │  resting ┴─┼───────┴─► parting
                 │            ▼                │
                 │         leaving ◄───────────┘
                 ▼            ▼
                 └────────► giving ─► releasing ─► returned
```

## Definitions

* `Stage` — where a run stands between two acts;
* `Course.act`, `Course.step` — the next act;
* `Course.opens?`, `takes?`, `settles?`, `releases` — what is seen of it.
-/

set_option autoImplicit false

namespace SymbolRelay

variable {ξ : Type}

/-! ## Panics on the way out -/

namespace Outcome

variable {ε α : Type}

/-- The panic, if it was one. -/
def panic? : Outcome ε α → Option Panic
  | .panic p => some p
  | _ => none

/-- The ending of something that is left, perhaps with a panic on the way out: the first one counts. -/
def orPanic (o : Outcome ε α) : Option Panic → Outcome ε α
  | none => o
  | some p =>
    match o with
    | .panic q => .panic q
    | _ => .panic p

theorem orPanic_or (o : Outcome ε α) (first later : Option Panic) :
    (o.orPanic first).orPanic later = o.orPanic (first.or later) := by
  cases first with
  | none => rfl
  | some p => cases later <;> cases o <;> rfl

end Outcome

/-! ## Stages -/

/-- Where a run stands between two of its acts. -/
inductive Stage (ξ : Type) where
  /-- It is the first run. -/
  | admitted
  /-- Registrations that are not subscribed to yet, and the routes of the others. -/
  | subscribing (ahead : List (Registration ξ)) (opened : List (Route ξ))
  /-- A round may begin. -/
  | top (routes : List (Route ξ))
  /-- In a round, before it is asked whether to close. Routes that had their turn come with whether they
  were found ended; `idle` while nothing was received. -/
  | asking (passed : List (Route ξ × Bool)) (ahead : List (Route ξ)) (idle : Bool)
  /-- The next thing to see is whether the subscription of a route is open. -/
  | checking (passed : List (Route ξ × Bool)) (route : Route ξ) (ahead : List (Route ξ)) (idle : Bool)
  /-- It was open, and the next thing is to receive. -/
  | receiving (passed : List (Route ξ × Bool)) (route : Route ξ) (ahead : List (Route ξ)) (idle : Bool)
  /-- A message was taken out of the subscription of a route. -/
  | handling (passed : List (Route ξ × Bool)) (route : Route ξ) (m : Message) (ahead : List (Route ξ))
  /-- It was judged. -/
  | settling (passed : List (Route ξ × Bool)) (route : Route ξ) (m : Message)
    (verdict : Option HandlerError) (ahead : List (Route ξ))
  /-- Routes that ended are given up, with the first panic on the way; the others are kept. -/
  | parting (lost : List (Route ξ)) (panic : Option Panic) (kept : List (Route ξ)) (idle : Bool)
  /-- Nothing came in the last round. -/
  | resting (routes : List (Route ξ))
  /-- The last round is over. -/
  | leaving (result : Except RouterError Unit) (routes : List (Route ξ))
  /-- What the run ends with, and the subscriptions that are to be given back. -/
  | giving (outcome : Outcome RouterError Unit) (left : List (Route ξ))
  /-- Those who wait for the end of the run are released next. -/
  | releasing (outcome : Outcome RouterError Unit)
  | returned (outcome : Outcome RouterError Unit)

namespace Stage

/-- The stage after a round from which no route was lost. -/
def again (routes : List (Route ξ)) (idle : Bool) : Stage ξ :=
  if idle then .resting routes else .top routes

/-- The stage after the last turn of a round. -/
def sweep (passed : List (Route ξ × Bool)) (ahead : List (Route ξ)) (idle : Bool) : Stage ξ :=
  let lost := (passed.filter (·.2)).map (·.1)
  let kept := (passed.filter fun e => !e.2).map (·.1) ++ ahead
  if lost.isEmpty then again kept idle else .parting lost none kept idle

/-- The stage of a run at a point. -/
def ofPoint : RunPoint ξ → Stage ξ
  | .top routes => .top routes
  | .round passed ahead idle => .asking passed ahead idle
  | .resting routes => .resting routes
  | .leaving result routes => .leaving result routes
  | .ended outcome => .returned outcome

end Stage

/-- A run in single acts: the context it watches, and where it stands. -/
structure Course (ξ : Type) where
  ctx : Context
  stage : Stage ξ

namespace Course

/-- The course of a run. -/
def ofRun (run : Run ξ) : Course ξ := ⟨run.ctx, .ofPoint run.point⟩

/-- Subscribes to the topic of a registration. -/
def subscribe [RetryLoop] (r : Router ξ) (ctx : Context) (registration : Registration ξ)
    (ahead : List (Registration ξ)) (opened : List (Route ξ)) (w : World ξ) : Stage ξ × World ξ :=
  if registration.outputTopic.isSome && r.publisher.isNone then
    (.giving (.error (.noPublisher registration.topic)) opened, w)
  else
    match r.subscriber.subscribe ctx registration.topic w with
    | (.ok subscription, w) =>
      let route := ⟨subscription, registration.outputTopic, r.chain registration.handler⟩
      (.subscribing ahead (opened ++ [route]), w)
    | (.error e, w) => (.giving (.error (.subscribe registration.topic e)) opened, w)
    | (.panic p, w) => (.giving (.panic p) opened, w)

/-- Whether a subscription still gives messages, as far as it can tell by itself. -/
def check (passed : List (Route ξ × Bool)) (route : Route ξ) (ahead : List (Route ξ)) (idle : Bool)
    (w : World ξ) : Stage ξ :=
  if route.subscription.closed then .asking (passed ++ [(route, true)]) ahead idle
  else if route.subscription.ctx.isCancelled w.scopes then
    .leaving (.ok ()) (passed.map (·.1) ++ route :: ahead)
  else .receiving passed route ahead idle

/-- Takes the next message off the feed of a route. -/
def receive (passed : List (Route ξ × Bool)) (route : Route ξ) (ahead : List (Route ξ)) (idle : Bool)
    (w : World ξ) : Stage ξ × World ξ :=
  let (r, queue) := w.queue.receive route.subscription.feed
  match r with
  | .ok (some m) => (.handling passed route m ahead, { w with queue })
  | .ok none => (.asking (passed ++ [(route, false)]) ahead idle, { w with queue })
  | .error () => (.asking (passed ++ [(route, true)]) ahead idle, { w with queue })

/-- Lets a message be judged. -/
def judge (r : Router ξ) (passed : List (Route ξ × Bool)) (route : Route ξ) (m : Message)
    (ahead : List (Route ξ)) (w : World ξ) : Stage ξ × World ξ :=
  match r.judge route m w with
  | (.ok verdict, w) => (.settling passed route m verdict ahead, w)
  | (_, w) => (.asking (passed ++ [(route, false)]) ahead false, w.countPanic)

/-- Settles a message; a panic of the broker is caught and counted. -/
def conclude (passed : List (Route ξ × Bool)) (route : Route ξ) (m : Message)
    (verdict : Option HandlerError) (ahead : List (Route ξ)) (w : World ξ) : Stage ξ × World ξ :=
  (.asking (passed ++ [(route, false)]) ahead false,
    match Router.conclude route m verdict w with
    | (.panic _, w) => w.countPanic
    | (_, w) => w)

/-- What comes after the routes that ended were given up. -/
def goOn (panic : Option Panic) (kept : List (Route ξ)) (idle : Bool) (w : World ξ) : Stage ξ :=
  match panic with
  | some p => .giving (.panic p) kept
  | none =>
    if kept.isEmpty then .leaving (if w.control.closing then .ok () else .error .subscriptionsLost) []
    else .again kept idle

/-- The next act of a run that has a context of its own. A run that rests is woken by a ring, or goes
on when it has rested. -/
def act [RetryLoop] (r : Router ξ) (rung : Bool) (ctx : Context) : Stage ξ → World ξ → Stage ξ × World ξ
  | .admitted, w => (.admitted, w)
  | .subscribing (registration :: ahead) opened, w => subscribe r ctx registration ahead opened w
  | .subscribing [] routes, w => (.top routes, Run.setPhase .running w)
  | .top routes, w =>
    (if w.control.closing || ctx.isCancelled w.scopes then .leaving (.ok ()) routes
      else .asking [] routes true, w)
  | .asking passed (route :: ahead) idle, w =>
    (if w.control.closing then .sweep passed (route :: ahead) idle
      else .checking passed route ahead idle, w)
  | .asking passed [] idle, w => (.sweep passed [] idle, w)
  | .checking passed route ahead idle, w => (check passed route ahead idle w, w)
  | .receiving passed route ahead idle, w => receive passed route ahead idle w
  | .handling passed route m ahead, w => judge r passed route m ahead w
  | .settling passed route m verdict ahead, w => conclude passed route m verdict ahead w
  | .parting (route :: lost) panic kept idle, w =>
    let (released, w) := route.subscription.discard (ε := Empty) w
    (.parting lost (panic.or released.panic?) kept idle, w)
  | .parting [] panic kept idle, w => (goOn panic kept idle w, w)
  | .resting routes, w => (if rung then .leaving (.ok ()) routes else .top routes, w)
  | .leaving result routes, w => (.giving (.ofExcept result) routes, Run.setPhase .draining w)
  | .giving outcome (route :: left), w =>
    let (released, w) := route.subscription.discard (ε := Empty) w
    (.giving (outcome.orPanic released.panic?) left, w)
  | .giving outcome [], w => (.releasing outcome, Run.setPhase .stopped w)
  | .releasing outcome, w => (.returned outcome, w)
  | .returned outcome, w => (.returned outcome, w)

/-- A run that was admitted sets out, unless the router was closed, with a context of its own. -/
def setOut (r : Router ξ) (ctx : Context) (w : World ξ) : Course ξ × World ξ :=
  if w.control.closing then (⟨ctx, .giving (.error .closed) []⟩, w)
  else (⟨(ctx.child w.scopes).1, .subscribing r.registrations []⟩,
    { w with scopes := (ctx.child w.scopes).2 })

/-- The next act of a run. -/
def step [RetryLoop] (r : Router ξ) (rung : Bool) (c : Course ξ) (w : World ξ) : Course ξ × World ξ :=
  match c.stage with
  | .admitted => setOut r c.ctx w
  | stage => (⟨c.ctx, (act r rung c.ctx stage w).1⟩, (act r rung c.ctx stage w).2)

theorem step_of_ne [RetryLoop] (r : Router ξ) (rung : Bool) (ctx : Context) {stage : Stage ξ}
    (h : stage ≠ .admitted) (w : World ξ) :
    step r rung ⟨ctx, stage⟩ w =
      (⟨ctx, (act r rung ctx stage w).1⟩, (act r rung ctx stage w).2) := by
  cases stage with
  | admitted => exact absurd rfl h
  | _ => rfl

/-! ## What is seen of an act -/

/-- The feed that the next act of a run opens, if it opens one. -/
def opens? (r : Router ξ) (c : Course ξ) (w : World ξ) : Option Nat :=
  match c.stage with
  | .subscribing (registration :: _) _ =>
    if registration.outputTopic.isSome && r.publisher.isNone then none
    else
      match (r.subscriber.subscribe c.ctx registration.topic w).1 with
      | .ok subscription => some subscription.feed
      | _ => none
  | _ => none

/-- The message that the next act of a run takes out of a subscription, with its topic. -/
def takes? (c : Course ξ) (w : World ξ) : Option (String × Message) :=
  match c.stage with
  | .receiving _ route _ _ =>
    match (w.queue.receive route.subscription.feed).1 with
    | .ok (some m) => some (route.subscription.topic, m)
    | _ => none
  | _ => none

/-- What an act of a run is seen to have settled. -/
def settles? (c : Course ξ) (w w' : World ξ) : Option Settlement :=
  match c.stage with
  | .settling _ route m _ _ => some (.ofStep route.subscription.topic m w w')
  | _ => none

/-- Whether the next act of a run releases those who wait for its end. -/
def releases (c : Course ξ) : Bool :=
  match c.stage with
  | .releasing _ => true
  | _ => false

/-- What a run ended with, once it has returned. -/
def outcome? (c : Course ξ) : Option (Outcome RouterError Unit) :=
  match c.stage with
  | .returned outcome => some outcome
  | _ => none

end Course

/-- The routes that a run holds. -/
def Stage.routes : Stage ξ → List (Route ξ)
  | .admitted | .releasing _ | .returned _ => []
  | .subscribing _ opened => opened
  | .top routes | .resting routes | .leaving _ routes | .giving _ routes => routes
  | .asking passed ahead _ => passed.map (·.1) ++ ahead
  | .checking passed route ahead _ | .receiving passed route ahead _ => passed.map (·.1) ++ route :: ahead
  | .handling passed route _ ahead | .settling passed route _ _ ahead =>
    passed.map (·.1) ++ route :: ahead
  | .parting lost _ kept _ => lost ++ kept

end SymbolRelay
