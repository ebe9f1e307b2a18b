import SymbolRelay.Delivery.Metering
import SymbolRelay.Handling.Middleware

/-!
# Routers

A router knows which handler takes the messages of which topic, and what happens to a message: it is
acknowledged if its handler succeeds and what the handler produced could be published, and refused
otherwise. A refused message may be copied to a poison topic first. To process a message is to judge it,
which is where its handler has its say, and then to settle it; others may act between the two.

## Definitions

* `Router.register` — handlers and their topics;
* `Router.process` — one message;
* `Router.judge`, `Router.conclude` — its two halves.

## Results

* `register_error_iff` — a topic is refused exactly when it has a handler already;
* `forward_nil` — a handler that produces nothing publishes nothing.
-/

set_option autoImplicit false

namespace SymbolRelay

/-- The settings of a router. -/
structure RouterConfig where
  /-- How often a message is tried again. -/
  maxRetries : Nat := 3
  initialBackoff : Duration := .ofMillis 100
  backoffMultiplier : Float32 := 2
  maxBackoff : Duration := .ofSecs 1
  /-- How long an idle router waits before it looks again. -/
  pollInterval : Duration := .ofMillis 50
  /-- Where messages are copied that are refused, if anywhere. -/
  poisonTopic : Option String := none
  deriving BEq, Repr

/-- How a router tries messages again. -/
def RouterConfig.backoff (c : RouterConfig) : Backoff where
  maxRetries := c.maxRetries
  initial := c.initialBackoff
  multiplier := c.backoffMultiplier
  greatest := c.maxBackoff

/-- What can go wrong for a router. -/
inductive RouterError where
  | duplicateHandler (topic : String)
  | noPublisher (topic : String)
  | subscribe (topic : String) (cause : SubscribeError)
  /-- Every subscription ended while the router was running. -/
  | subscriptionsLost
  | closed
  | close (cause : SubscribeError)
  deriving DecidableEq, Repr

/-- The text of the error. -/
def RouterError.message : RouterError → String
  | .duplicateHandler topic => "a handler is already registered for topic " ++ topic
  | .noPublisher topic => "handler for " ++ topic ++ " produces messages but the router has no publisher"
  | .subscribe topic _ => "subscribing to " ++ topic ++ " failed"
  | .subscriptionsLost => "all subscriptions were lost"
  | .closed => "router is closed"
  | .close _ => "closing the subscriber failed"

/-- A topic, its handler, and the topic for what the handler produces, if any. -/
structure Registration (ξ : Type) where
  topic : String
  outputTopic : Option String := none
  handler : Handler ξ

/-- What takes messages to their handlers. -/
structure Router (ξ : Type) where
  subscriber : Subscriber ξ
  publisher : Option (Publisher ξ) := none
  config : RouterConfig := {}
  registrations : List (Registration ξ) := []
  /-- What is around every handler besides the usual, outermost first. -/
  middleware : List (Middleware ξ) := []

/-- A registration that is subscribed to. -/
structure Route (ξ : Type) where
  subscription : Subscription ξ
  outputTopic : Option String
  handler : Handler ξ

namespace Router

variable {ξ : Type}

/-- Registers a handler for a topic that has none. -/
def register (r : Router ξ) (registration : Registration ξ) : Except RouterError (Router ξ) :=
  if r.registrations.any (·.topic == registration.topic) then
    .error (.duplicateHandler registration.topic)
  else .ok { r with registrations := r.registrations ++ [registration] }

/-- A handler with everything that the router puts around it. -/
def chain [RetryLoop] (r : Router ξ) (handler : Handler ξ) : Handler ξ :=
  r.middleware.foldr (fun middleware next => middleware next)
    (Handler.correlating (Handler.retrying r.config.backoff (Handler.recovering true handler)))

/-- The router with its publisher and its subscriber measured. -/
def metered (recorder : Recorder ξ) (r : Router ξ) : Router ξ :=
  { r with
    subscriber := r.subscriber.metered recorder
    publisher := r.publisher.map (Publisher.metered recorder) }

/-! ## One message -/

/-- Publishes messages one after the other, up to the first that fails. -/
def publishAll (p : Publisher ξ) (ctx : Context) (topic : String) :
    List Message → Action (World ξ) HandlerError Unit
  | [] => pure ()
  | m :: rest => do
    (p.send ctx topic m).mapError .publish
    publishAll p ctx topic rest

/-- Publishes what the handler of a message produced, if there is anywhere to publish it. -/
def forward (r : Router ξ) (inbound : Message) (outputTopic : Option String)
    (produced : List Message) : Action (World ξ) HandlerError Unit := do
  if produced.isEmpty then return ()
  match outputTopic, r.publisher with
  | some topic, some publisher =>
    let ctx ← World.onScopes (Context.ofMessage inbound)
    publishAll publisher ctx topic produced
  | _, _ => return ()

/-- The copy of a refused message. -/
def poisonCopy (m : Message) (topic : String) (e : HandlerError) : Message :=
  (m.setValue Header.poisonReason e.message).setValue Header.poisonedTopic topic

/-- Copies a refused message to the poison topic, if there is one. How that ends does not matter. -/
def poison (r : Router ξ) (topic : String) (m : Message) (e : HandlerError) :
    Action (World ξ) Empty Unit := do
  match r.config.poisonTopic, r.publisher with
  | some poisonTopic, some publisher =>
    let ctx ← World.onScopes (Context.ofMessage m)
    let _ ← Action.attempt (publisher.send ctx poisonTopic (poisonCopy m topic e))
    return ()
  | _, _ => return ()

/-- Lets the handler of a route take a message, and publishes what it produces. A panic on the way,
which no recovered handler raises, is counted and taken for an error. -/
def handle (r : Router ξ) (route : Route ξ) (m : Message) : Action (World ξ) HandlerError Unit := do
  let whole : Action (World ξ) HandlerError Unit := do
    let produced ← route.handler m
    r.forward m route.outputTopic produced
  match ← Action.attempt whole with
  | .panic p =>
    Action.modify World.countPanic
    Action.fail (.panicked p.reason)
  | outcome => Action.ofOutcome outcome

/-- Tells the broker something about a message. What it answers does not matter, unless it panics. -/
def settleWith {ε : Type} (a : Action (World ξ) SubscribeError Unit) : Action (World ξ) ε Unit := do
  match ← Action.attempt a with
  | .panic p => Action.raise p
  | _ => return ()

/-- Handles a message and settles it. -/
def process (r : Router ξ) (route : Route ξ) (m : Message) : Action (World ξ) Empty Unit := do
  match ← Action.attempt (r.handle route m) with
  | .ok () =>
    settleWith (route.subscription.ack m)
    Action.modify fun w => { w with stats := { w.stats with handled := w.stats.handled + 1 } }
  | .error e =>
    r.poison route.subscription.topic m e
    settleWith (route.subscription.nack m e.message)
    Action.modify fun w => { w with stats := { w.stats with failed := w.stats.failed + 1 } }
  | .panic p => Action.raise p

/-- Processes a message; a panic of the broker is caught and counted. -/
def processSafely (r : Router ξ) (route : Route ξ) (m : Message) (w : World ξ) : World ξ :=
  match r.process route m w with
  | (.panic _, w) => w.countPanic
  | (_, w) => w

/-! ## Judging and settling -/

/-- All that comes before a message is settled. The verdict is the error for which it is refused, if it
is. -/
def judge (r : Router ξ) (route : Route ξ) (m : Message) :
    Action (World ξ) Empty (Option HandlerError) := do
  match ← Action.attempt (r.handle route m) with
  | .ok () => return none
  | .error e =>
    r.poison route.subscription.topic m e
    return some e
  | .panic p => Action.raise p

/-- Settles a message as it was judged, and counts it. -/
def conclude (route : Route ξ) (m : Message) : Option HandlerError → Action (World ξ) Empty Unit
  | none => do
    settleWith (route.subscription.ack m)
    Action.modify fun w => { w with stats := { w.stats with handled := w.stats.handled + 1 } }
  | some e => do
    settleWith (route.subscription.nack m e.message)
    Action.modify fun w => { w with stats := { w.stats with failed := w.stats.failed + 1 } }

theorem register_error_iff (r : Router ξ) (registration : Registration ξ) (e : RouterError) :
    r.register registration = .error e ↔
      (∃ known ∈ r.registrations, known.topic = registration.topic) ∧
        e = .duplicateHandler registration.topic := by
  unfold register
  split
  · rename_i h
    obtain ⟨known, hk, ht⟩ := List.any_eq_true.mp h
    constructor
    · rintro ⟨⟩
      exact ⟨⟨known, hk, by simpa using ht⟩, rfl⟩
    · rintro ⟨_, rfl⟩
      rfl
  · rename_i h
    constructor
    · nofun
    · rintro ⟨⟨known, hk, ht⟩, _⟩
      exact absurd (List.any_eq_true.mpr ⟨known, hk, by simpa using ht⟩) h

theorem forward_nil (r : Router ξ) (inbound : Message) (outputTopic : Option String) (w : World ξ) :
    r.forward inbound outputTopic [] w = (.ok (), w) := rfl

end Router

end SymbolRelay
