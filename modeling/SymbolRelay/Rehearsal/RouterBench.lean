import SymbolRelay.Rehearsal.Script
import SymbolRelay.Service.Worker

/-!
# A bench for routers

A bench builds a router with scripted handlers, middleware, publisher and subscriber, and serves
requests one at a time. After every publish and every request the run is given time to come to rest.

## Definitions

* `RouterPlan.build` — the router that a plan asks for;
* `RouterBench.serve` — one request at the bench.
-/

set_option autoImplicit false

namespace SymbolRelay

/-- What a router under rehearsal publishes with. -/
inductive PublisherPlan where
  | none
  | queue
  /-- It is never given an event. -/
  | broken
  | panicking
  deriving DecidableEq, Repr

/-- A scripted handler. One without a topic for its output drops what it produces. -/
structure HandlerPlan where
  topic : String
  outputTopic : Option String := none
  script : Script := Table.empty

/-- A router under rehearsal. -/
structure RouterPlan where
  config : RouterConfig := {}
  publisher : PublisherPlan := .none
  subscriberPanics : Bool := false
  middleware : List Tag := []
  handlers : List HandlerPlan := []

namespace RouterPlan

/-- The broker of a router under rehearsal. -/
def broker : Broker Rehearsal := Broker.ofQueue.withFaults

/-- The router before its handlers are registered. -/
def bare (plan : RouterPlan) : Router Rehearsal where
  subscriber :=
    let subscriber := Subscriber.ofBroker broker
    if plan.subscriberPanics then Rehearsal.panickingSubscriber subscriber else subscriber
  publisher :=
    match plan.publisher with
    | .none => none
    | .queue => some (Publisher.ofBroker broker)
    | .broken => some Rehearsal.brokenPublisher
    | .panicking => some Rehearsal.panickingPublisher
  config := plan.config
  middleware := plan.middleware.map Tag.middleware

/-- What registers a planned handler, which may cancel a context on the side. -/
def registration (ctx : Context) (h : HandlerPlan) : Registration Rehearsal where
  topic := h.topic
  outputTopic := h.outputTopic
  handler :=
    let handler := Rehearsal.scripted broker ctx h.topic h.script
    if h.outputTopic.isSome then handler else Rehearsal.consuming handler

/-- Registers planned handlers, and tells how each registration ended. -/
def registerAll (ctx : Context) :
    List HandlerPlan → Router Rehearsal → List (Except RouterError Unit) × Router Rehearsal
  | [], r => ([], r)
  | h :: rest, r =>
    match r.register (registration ctx h) with
    | .ok r =>
      let (results, r) := registerAll ctx rest r
      (.ok () :: results, r)
    | .error e =>
      let (results, r) := registerAll ctx rest r
      (.error e :: results, r)

/-- The router with its handlers, and how each registration ended. -/
def build (plan : RouterPlan) (ctx : Context) : List (Except RouterError Unit) × Router Rehearsal :=
  registerAll ctx plan.handlers plan.bare

end RouterPlan

/-- A router that may be running, under a context. -/
structure RouterBench where
  host : RouterHost Rehearsal
  ctx : Context

/-- What is asked of a bench. -/
inductive RouterRequest where
  | publish (topic : String) (messages : List Message)
  | run
  | close
  | perform (effect : Effect)
  | unsubscribe (topic : String) (feed : Nat)

/-- What a bench answers. -/
inductive RouterReply where
  | published (results : List (Outcome BrokerError Unit))
  | router (outcome : Outcome RouterError Unit)
  | broker (outcome : Outcome BrokerError Unit)

namespace RouterBench

/-- How many steps a run is given to come to rest. -/
def patience : Nat := 1000000000

/-- Lets the run come to rest. -/
def settle (r : Router Rehearsal) (b : RouterBench) : RouterBench :=
  { b with host := b.host.settle r patience }

/-- Does something in the world. -/
def inWorld {ε α : Type} (a : Action (World Rehearsal) ε α) (b : RouterBench) :
    Outcome ε α × RouterBench :=
  let (o, world) := a b.host.world
  (o, { b with host := { b.host with world } })

/-- Publishes messages, and lets the run come to rest after each. -/
def publishAll (r : Router Rehearsal) (topic : String) :
    List Message → RouterBench → List (Outcome BrokerError Unit) × RouterBench
  | [], b => ([], b)
  | m :: rest, b =>
    let (o, b) := inWorld (Broker.ofQueue.publish topic m) b
    let (os, b) := publishAll r topic rest (b.settle r)
    (o :: os, b)

/-- Serves a request while the run stands still. -/
def serveAtRest (r : Router Rehearsal) (b : RouterBench) : RouterRequest → RouterReply × RouterBench
  | .publish topic messages =>
    let (os, b) := publishAll r topic messages b
    (.published os, b)
  | .run =>
    match b.host.run with
    | none => (.router (.ok ()), { b with host := (Runnable.ofRouter r b.ctx).begin b.host })
    | some _ =>
      let (run, world) := Run.start r b.ctx b.host.world
      (.router (run.outcome?.getD (.ok ())), { b with host := { b.host with world } })
  | .close =>
    let ((_, o), host) := (Runnable.ofRouter r b.ctx).close b.host
    (.router o, { b with host })
  | .perform effect =>
    let (_, b) := inWorld (Rehearsal.perform RouterPlan.broker b.ctx effect) b
    (.broker (.ok ()), b)
  | .unsubscribe topic feed =>
    let (o, b) := inWorld (RouterPlan.broker.unsubscribe topic feed) b
    (.broker o, b)

/-- Serves a request, and lets the run come to rest. -/
def serve (r : Router Rehearsal) (request : RouterRequest) (b : RouterBench) :
    RouterReply × RouterBench :=
  let (reply, b) := b.serveAtRest r request
  (reply, b.settle r)

end RouterBench

end SymbolRelay
