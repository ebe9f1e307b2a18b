import SymbolRelay.Proofs.Actions
import SymbolRelay.Proofs.Delivery.Stamping

/-!
# What a broker is given

A broker among records notes every message that it is given to publish, and does what it does without
them. Over it a publisher shows what leaves it: one stamped message for each message that it sends,
whatever the broker makes of it.

## Results

* `send_noted` — a publisher gives the broker the stamped message, and no other;
* `send_noted_mirrors` — a publisher over a broker that takes notes does what it does without them.
-/

set_option autoImplicit false

namespace SymbolRelay

open SymbolRelay.Action

variable {ξ κ : Type}

/-- The broker with what it is given to publish on record. -/
def Broker.noted (b : Broker ξ) (entry : String → Message → κ) : Broker (ξ × List κ) where
  publish topic m := (b.publish topic m).recorded fun _ _ => entry topic m
  subscribe topic := (b.subscribe topic).unseen
  unsubscribe topic feed := (b.unsubscribe topic feed).unseen
  ack topic messageId := (b.ack topic messageId).unseen
  nack topic messageId reason := (b.nack topic messageId reason).unseen
  close := b.close.unseen

namespace Publisher

variable (b : Broker ξ) (entry : String → Message → κ) (ctx : Context) (topic : String) (m : Message)

/-- Whatever comes of it, one message reaches the broker: the one that was sent, stamped. -/
theorem send_noted [IdSource] (w : World (ξ × List κ)) :
    ((Publisher.ofBroker (b.noted entry)).send ctx topic m w).2.record =
      w.record ++ [entry topic (stamp ctx topic m w.ids).1] := rfl

theorem send_noted_mirrors [IdSource] :
    Mirrors ((Publisher.ofBroker (b.noted entry)).send ctx topic m)
      ((Publisher.ofBroker b).send ctx topic m) := by
  refine Mirrors.bind (fun _ => rfl) fun stamped => ?_
  have hpublish : Mirrors ((b.noted entry).publish topic stamped) (b.publish topic stamped) :=
    recorded_mirrors _ _
  exact hpublish.mapError _

end Publisher

end SymbolRelay
