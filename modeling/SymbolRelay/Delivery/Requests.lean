import SymbolRelay.Delivery.Queue

/-!
# Requests of a queue

Everything that a queue can be asked for, as data, so that whatever its clients do is a list of requests.

## Definitions

* `Queue.serve` — one request;
* `Queue.after`, `Queue.transcript` — one request after the other.
-/

set_option autoImplicit false

namespace SymbolRelay

/-- What a queue can be asked for. -/
inductive Queue.Request where
  | publish (topic : String) (m : Message)
  | subscribe (topic : String)
  | unsubscribe (topic : String) (id : Nat)
  | receive (id : Nat)
  /-- The receiver of a feed is dropped. -/
  | dropReceiver (id : Nat)
  | ack (messageId : String)
  | nack (messageId reason : String)
  /-- From now on so many publishes are refused. -/
  | reject (count : Nat)
  | close
  | clear
  deriving DecidableEq

/-- What the queue answers. -/
inductive Queue.Answer where
  | done
  | refused (cause : BrokerError)
  | opened (id : Nat)
  /-- A message, if one was waiting. -/
  | received (m : Option Message)
  /-- Nothing will ever be received again. -/
  | ended
  deriving DecidableEq

namespace Queue

/-- Serves a request. -/
def serve (q : Queue) : Request → Answer × Queue
  | .publish topic m =>
    match q.publish topic m with
    | (.ok (), q) => (.done, q)
    | (.error cause, q) => (.refused cause, q)
  | .subscribe topic =>
    match q.subscribe topic with
    | (.ok id, q) => (.opened id, q)
    | (.error cause, q) => (.refused cause, q)
  | .unsubscribe topic id => (.done, q.unsubscribe topic id)
  | .receive id =>
    match q.receive id with
    | (.ok m, q) => (.received m, q)
    | (.error (), q) => (.ended, q)
  | .dropReceiver id => (.done, q.dropReceiver id)
  | .ack messageId => (.done, q.ack messageId)
  | .nack messageId reason => (.done, q.nack messageId reason)
  | .reject count => (.done, { q with rejecting := count })
  | .close => (.done, q.close)
  | .clear => (.done, q.clear)

/-- The queue after one request after the other. -/
def after (q : Queue) (requests : List Request) : Queue := requests.foldl (fun q r => (q.serve r).2) q

/-- Requests with what was answered to each. -/
def transcript (q : Queue) : List Request → List (Request × Answer)
  | [] => []
  | r :: requests => (r, (q.serve r).1) :: (q.serve r).2.transcript requests

end Queue

end SymbolRelay
