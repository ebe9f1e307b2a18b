import SymbolRelay.Delivery.Subscription

/-!
# Calls of publishers and subscribers

What a publisher and a subscriber are called for, as data, so that whatever their clients do is a list of
calls. How each ended is kept.

## Definitions

* `DeliveryCall.make`, `DeliveryCall.makeAll` — one call, and one after the other.
-/

set_option autoImplicit false

namespace SymbolRelay

variable {ξ : Type}

/-- A call of a publisher or of a subscriber. -/
inductive DeliveryCall where
  | publish (ctx : Context) (topic : String) (payload : Text.Octets)
  | publishMessage (ctx : Context) (topic : String) (m : Message)
  | subscribe (ctx : Context) (topic : String)
  | close

/-- How a call was answered. -/
inductive DeliveryAnswer (ξ : Type) where
  | sent (topic : String) (outcome : Outcome PublishError Unit)
  | opened (topic : String) (outcome : Outcome SubscribeError (Subscription ξ))
  | closed (outcome : Outcome SubscribeError Unit)

namespace DeliveryCall

/-- Makes a call, and goes on whatever comes of it. -/
def make (p : Publisher ξ) (s : Subscriber ξ) : DeliveryCall → World ξ → DeliveryAnswer ξ × World ξ
  | publish ctx topic payload, w =>
    let (outcome, w) := p.sendPayload ctx topic payload w
    (.sent topic outcome, w)
  | publishMessage ctx topic m, w =>
    let (outcome, w) := p.send ctx topic m w
    (.sent topic outcome, w)
  | subscribe ctx topic, w =>
    let (outcome, w) := s.subscribe ctx topic w
    (.opened topic outcome, w)
  | close, w =>
    let (outcome, w) := s.close w
    (.closed outcome, w)

/-- Makes calls one after the other. -/
def makeAll (p : Publisher ξ) (s : Subscriber ξ) :
    List DeliveryCall → World ξ → List (DeliveryAnswer ξ) × World ξ
  | [], w => ([], w)
  | call :: rest, w =>
    let (answer, w) := call.make p s w
    let (answers, w) := makeAll p s rest w
    (answer :: answers, w)

end DeliveryCall

end SymbolRelay
