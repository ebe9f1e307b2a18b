import SymbolRelay.Delivery.Publisher
import SymbolRelay.Delivery.Requests

/-!
# Subscribers and subscriptions

A subscription takes messages of one topic off its feed, one at a time, and settles them with the
broker. It ends when it is closed, when its context is cancelled, and, once nothing waits any more,
when the broker stops delivering to it. While a receiver waits for a message, others go on.

## Definitions

* `Subscription.tryReceive`, `ack`, `nack`, `release` — what the receiver asks for;
* `Subscriber.ofBroker` — what opens subscriptions;
* `Subscription.receiveWithin`, `useAll` — waiting, and one use after the other, among what others do.

## Results

* `tryReceive_of_closed`, `tryReceive_of_cancelled` — a subscription that ended stays ended, and takes
  nothing off its feed.
-/

set_option autoImplicit false

namespace SymbolRelay

/-- What can go wrong for a subscriber. -/
inductive SubscribeError where
  | broker (topic : String) (cause : BrokerError)
  | ack (messageId : String) (cause : BrokerError)
  | closed
  | cancelled
  deriving DecidableEq, Repr

/-- The text of the error. -/
def SubscribeError.message : SubscribeError → String
  | .broker topic _ => "subscribe to " ++ topic ++ " failed"
  | .ack messageId _ => "acknowledgement for message " ++ messageId ++ " failed"
  | .closed => "subscription closed"
  | .cancelled => "subscription cancelled"

/-- A feed of one topic with the broker that settles its messages. -/
structure Subscription (ξ : Type) where
  topic : String
  feed : Nat
  broker : Broker ξ
  ctx : Context
  closed : Bool := false

namespace Subscription

variable {ξ ε : Type}

/-- Takes the next message, if one waits. -/
def tryReceive (s : Subscription ξ) : Action (World ξ) SubscribeError (Option Message) := fun w =>
  if s.closed then (.error .closed, w)
  else if s.ctx.isCancelled w.scopes then (.error .cancelled, w)
  else
    let (r, queue) := w.queue.receive s.feed
    match r with
    | .ok m => (.ok m, { w with queue })
    | .error () => (.error .closed, { w with queue })

/-- Takes messages until none waits, the subscription has ended, or so many were taken. -/
def takeAll (s : Subscription ξ) : Nat → Action (World ξ) ε (List Message)
  | 0 => pure []
  | count + 1 => do
    match ← Action.attempt s.tryReceive with
    | .ok (some m) =>
      let ms ← s.takeAll count
      return m :: ms
    | _ => return []

/-- Tells the broker that a message was handled. -/
def ack (s : Subscription ξ) (m : Message) : Action (World ξ) SubscribeError Unit :=
  (s.broker.ack s.topic m.uuid).mapError fun cause => .ack m.uuid cause

/-- Tells the broker that a message was not handled, and why. -/
def nack (s : Subscription ξ) (m : Message) (reason : String) :
    Action (World ξ) SubscribeError Unit :=
  (s.broker.nack s.topic m.uuid reason).mapError fun cause => .ack m.uuid cause

/-- The subscription after its first close. -/
def ended (s : Subscription ξ) : Subscription ξ := { s with closed := true }

/-- What the first close does: the broker is told, and what it answers does not matter. -/
def release (s : Subscription ξ) : Action (World ξ) ε Unit := do
  if s.closed then return ()
  match ← Action.attempt (s.broker.unsubscribe s.topic s.feed) with
  | .panic p => Action.raise p
  | _ => return ()

/-- What dropping a subscription does: it is closed, and its receiver is gone. -/
def discard (s : Subscription ξ) : Action (World ξ) ε Unit := do
  let closed ← Action.attempt (ε := ε) s.release
  World.modifyQueue fun q => q.dropReceiver s.feed
  Action.ofOutcome closed

theorem tryReceive_of_closed {s : Subscription ξ} (h : s.closed = true) (w : World ξ) :
    s.tryReceive w = (.error .closed, w) := by
  simp [tryReceive, h]

theorem tryReceive_of_cancelled {s : Subscription ξ} {w : World ξ} (h : s.closed = false)
    (hc : s.ctx.isCancelled w.scopes = true) : s.tryReceive w = (.error .cancelled, w) := by
  simp [tryReceive, h, hc]

end Subscription

/-- What opens subscriptions. -/
structure Subscriber (ξ : Type) where
  subscribe (ctx : Context) (topic : String) : Action (World ξ) SubscribeError (Subscription ξ)
  close : Action (World ξ) SubscribeError Unit

/-- The subscriber over a broker. Its subscriptions get a scope of their own; closing it closes the
broker, once. -/
def Subscriber.ofBroker {ξ : Type} (b : Broker ξ) : Subscriber ξ where
  subscribe ctx topic := do
    let w ← Action.get
    if w.subscriberClosed then Action.fail .closed
    else if ctx.isCancelled w.scopes then Action.fail .cancelled
    else
      let feed ← (b.subscribe topic).mapError fun cause => .broker topic cause
      let ctx ← World.onScopes ctx.child
      return { topic, feed, broker := b, ctx }
  close := do
    let w ← Action.get
    if w.subscriberClosed then return ()
    Action.modify fun w => { w with subscriberClosed := true }
    b.close.mapError fun cause => .broker "" cause

/-! ## A subscription among others -/

/-- What others do in the world of a subscription. -/
inductive Happening where
  | request (r : Queue.Request)
  | cancel (ctx : Context)
  /-- A child of a context is made. -/
  | child (ctx : Context)

/-- The world after something happened. -/
def World.happen {ξ : Type} (w : World ξ) : Happening → World ξ
  | .request r => { w with queue := (w.queue.serve r).2 }
  | .cancel ctx => { w with scopes := ctx.cancel w.scopes }
  | .child ctx => { w with scopes := (ctx.child w.scopes).2 }

/-- The world after all of this happened. -/
def World.pass {ξ : Type} (w : World ξ) (happenings : List Happening) : World ξ :=
  happenings.foldl happen w

namespace Subscription

variable {ξ : Type}

/-- Waits for the next message until some time has passed. Whether the subscription is closed or cancelled
is asked only before the wait; `meanwhile` is what others do until something is there or the time is up. -/
def receiveWithin (s : Subscription ξ) (meanwhile : List Happening) :
    Action (World ξ) SubscribeError (Option Message) := fun w =>
  if s.closed then (.error .closed, w)
  else if s.ctx.isCancelled w.scopes then (.error .cancelled, w)
  else
    let w := w.pass meanwhile
    let (r, queue) := w.queue.receive s.feed
    match r with
    | .ok m => (.ok m, { w with queue })
    | .error () => (.error .closed, { w with queue })

/-- What is done with a subscription, and around it. -/
inductive Use where
  | receive (meanwhile : List Happening)
  | close
  | apart (h : Happening)

/-- A subscription and its world after it was used. -/
def use (s : Subscription ξ) (w : World ξ) : Use → Subscription ξ × World ξ
  | .receive meanwhile => (s, (s.receiveWithin meanwhile w).2)
  | .close => (s.ended, ((s.release : Action (World ξ) SubscribeError Unit) w).2)
  | .apart h => (s, w.happen h)

/-- A subscription and its world after one use after the other. -/
def useAll (s : Subscription ξ) (w : World ξ) (uses : List Use) : Subscription ξ × World ξ :=
  uses.foldl (fun (s, w) u => s.use w u) (s, w)

end Subscription

end SymbolRelay
