import SymbolRelay.Rehearsal.State

/-!
# A bench for the bus

A bench holds a publisher and a subscriber over one queue, together with the contexts, subscriptions
and receivers that requests name. Requests are served one at a time, in any order.

## Definitions

* `BusBench.serve` — one request at the bench.
-/

set_option autoImplicit false

namespace SymbolRelay

/-- The parts that a bench tries out. -/
structure BusParts where
  broker : Broker Rehearsal
  publisher : Publisher Rehearsal
  subscriber : Subscriber Rehearsal

/-- Parts over the queue, where calls of the broker go wrong as the rehearsal says. With a recorder
they are measured; without one the publisher has the queue to itself. -/
def BusParts.ofRecorder (recorder : Option (Recorder Rehearsal)) : BusParts :=
  let queue : Broker Rehearsal := Broker.ofQueue
  let broker := queue.withFaults
  match recorder with
  | none => ⟨broker, Publisher.ofBroker queue, Subscriber.ofBroker broker⟩
  | some r => ⟨broker, (Publisher.ofBroker broker).metered r, (Subscriber.ofBroker broker).metered r⟩

/-- What is asked of a bench. `ctx` names a context, which is made empty when first used, `sub` a
subscription or a receiver. -/
inductive BusRequest where
  | define (ctx : String) (values : Metadata) (cancelled : Bool)
  | cancel (ctx : String)
  | setFaults (faults : Table String BrokerFault)
  | reject (count : Nat)
  | clear
  | publish (topic : String) (m : Message)
  | send (ctx topic : String) (m : Message)
  | sendPayload (ctx topic : String) (payload : Text.Octets)
  | subscribe (ctx topic sub : String)
  | receive (sub : String)
  | takeAll (sub : String) (count : Nat)
  | ack (sub : String) (m : Message)
  | nack (sub : String) (m : Message) (reason : String)
  | close (sub : String)
  | isClosed (sub : String)
  | drop (sub : String)
  /-- The requests from here on pass the subscriber by. -/
  | openFeed (topic sub : String)
  | receiveRaw (sub : String)
  | dropFeed (sub : String)
  | ackRaw (topic messageId : String)
  | nackRaw (topic messageId reason : String)
  | unsubscribe (topic : String) (feed : Nat)
  | closeQueue
  | closeSubscriber
  | log
  | publishedOn (topic : String)
  | settled

/-- What a bench answers. -/
inductive BusReply where
  | done
  | flag (value : Bool)
  | feed (id : Nat)
  | topic (topic : String)
  | message (m : Option Message)
  | messages (messages : List Message)
  | log (entries : List (String × Message))
  | settled (acked : List String) (nacked : List (String × String))

/-- Why a bench refuses. -/
inductive BusFailure where
  | broker (cause : BrokerError)
  | publish (cause : PublishError)
  | subscribe (cause : SubscribeError)
  /-- Nothing will ever be received again. -/
  | disconnected
  /-- Nothing goes by that name. -/
  | unknown

/-- The world of the bus, and everything that has a name. -/
structure BusBench where
  world : World Rehearsal
  contexts : Table String Context := Table.empty
  subscriptions : Table String (Subscription Rehearsal) := Table.empty
  receivers : Table String Nat := Table.empty

namespace BusBench

/-- What a bench does for a request. -/
abbrev Service (α : Type) : Type := Action BusBench BusFailure α

/-- Does something in the world. -/
def inWorld {ε α : Type} (lift : ε → BusFailure) (a : Action (World Rehearsal) ε α) : Service α :=
  (a.within (·.world) fun world b => { b with world }).mapError lift

/-- Does something in the world that does not fail. -/
def surely {α : Type} (a : Action (World Rehearsal) BusFailure α) : Service α := inWorld id a

/-- The context of a name. -/
def context (name : String) : Service Context := do
  match (← Action.get).contexts.get? name with
  | some ctx => return ctx
  | none =>
    let ctx ← surely (World.openContext Table.empty false)
    Action.modify fun b => { b with contexts := b.contexts.insert name ctx }
    return ctx

/-- The subscription of a name. -/
def subscription (name : String) : Service (Subscription Rehearsal) := fun b =>
  match b.subscriptions.get? name with
  | some s => (.ok s, b)
  | none => (.error .unknown, b)

/-- Names a subscription. One that had the name before is dropped. -/
def putSubscription (name : String) (s : Subscription Rehearsal) : Service Unit := do
  let old := (← Action.get).subscriptions.get? name
  Action.modify fun b => { b with subscriptions := b.subscriptions.insert name s }
  match old with
  | some old => surely old.discard
  | none => return ()

/-- Closes a subscription, which then stays closed whatever comes of it. -/
def closeSubscription (name : String) : Service Unit := do
  let s ← subscription name
  Action.modify fun b => { b with subscriptions := b.subscriptions.insert name s.ended }
  surely s.release

/-- Lets a subscription go, if there is one of that name. -/
def dropSubscription (name : String) : Service Bool := do
  match (← Action.get).subscriptions.get? name with
  | none => return false
  | some s =>
    Action.modify fun b => { b with subscriptions := b.subscriptions.erase name }
    surely s.discard
    return true

/-- Lets a receiver go, if there is one of that name. -/
def dropReceiver (name : String) : Service Unit := do
  match (← Action.get).receivers.get? name with
  | none => return ()
  | some feed =>
    Action.modify fun b => { b with receivers := b.receivers.erase name }
    surely (World.modifyQueue fun q => q.dropReceiver feed)

/-- Takes the next message of a receiver. -/
def receiveRaw (name : String) : Service (Option Message) := do
  match (← Action.get).receivers.get? name with
  | none => Action.fail .unknown
  | some feed => inWorld (fun () => .disconnected) (World.onQueue fun q => q.receive feed)

/-- Serves a request. -/
def serve (p : BusParts) : BusRequest → Service BusReply
  | .define name values cancelled => do
    let ctx ← surely (World.openContext values cancelled)
    Action.modify fun b => { b with contexts := b.contexts.insert name ctx }
    return .done
  | .cancel name => do
    surely (World.cancel (← context name))
    return .done
  | .setFaults faults => do
    surely (Rehearsal.setBrokerFaults faults)
    return .done
  | .reject count => do
    surely (Rehearsal.setRejecting count)
    return .done
  | .clear => do
    surely (World.modifyQueue Queue.clear)
    return .done
  | .publish topic m => do
    inWorld .broker (p.broker.publish topic m)
    return .done
  | .send ctx topic m => do
    inWorld .publish (p.publisher.send (← context ctx) topic m)
    return .done
  | .sendPayload ctx topic payload => do
    inWorld .publish (p.publisher.sendPayload (← context ctx) topic payload)
    return .done
  | .subscribe ctx topic name => do
    let s ← inWorld .subscribe (p.subscriber.subscribe (← context ctx) topic)
    putSubscription name s
    return .topic s.topic
  | .receive name => do return .message (← inWorld .subscribe (← subscription name).tryReceive)
  | .takeAll name count => do return .messages (← surely ((← subscription name).takeAll count))
  | .ack name m => do
    inWorld .subscribe ((← subscription name).ack m)
    return .done
  | .nack name m reason => do
    inWorld .subscribe ((← subscription name).nack m reason)
    return .done
  | .close name => do
    closeSubscription name
    return .flag (← subscription name).closed
  | .isClosed name => do return .flag (← subscription name).closed
  | .drop name => do return .flag (← dropSubscription name)
  | .openFeed topic name => do
    let feed ← inWorld .broker (p.broker.subscribe topic)
    dropReceiver name
    Action.modify fun b => { b with receivers := b.receivers.insert name feed }
    return .feed feed
  | .receiveRaw name => do return .message (← receiveRaw name)
  | .dropFeed name => do
    dropReceiver name
    return .flag true
  | .ackRaw topic messageId => do
    inWorld .broker (p.broker.ack topic messageId)
    return .done
  | .nackRaw topic messageId reason => do
    inWorld .broker (p.broker.nack topic messageId reason)
    return .done
  | .unsubscribe topic feed => do
    inWorld .broker (p.broker.unsubscribe topic feed)
    return .done
  | .closeQueue => do
    inWorld .broker p.broker.close
    return .done
  | .closeSubscriber => do
    inWorld .subscribe p.subscriber.close
    return .done
  | .log => do return .log (← Action.get).world.queue.log
  | .publishedOn topic => do return .messages ((← Action.get).world.queue.publishedOn topic)
  | .settled => do
    let q := (← Action.get).world.queue
    return .settled q.acked q.nacked

end BusBench

end SymbolRelay
