import SymbolRelay.Codec
import SymbolRelay.World

/-!
# Brokers and publishers

A broker carries messages; the queue is one. A publisher stamps every message with the metadata that
consumers rely on before it hands it to a broker. What a message says already is never overwritten.

| name | value when absent |
|------|-------------------|
| `message_id` | the message's uuid, which is made up if empty |
| `correlation_id` | the context's, else a fresh id |
| `request_id` | the context's, if any |
| `routing_key` | the topic |
| anything else in the context | the context's, unless it describes one message only |

## Results

* `stamp_payload` — stamping never touches the payload;
* `stamp_uuid` — nor a uuid that is there.
-/

set_option autoImplicit false

namespace SymbolRelay

/-- What carries messages. A subscription is known by the id of its feed. -/
structure Broker (ξ : Type) where
  publish (topic : String) (m : Message) : Action (World ξ) BrokerError Unit
  subscribe (topic : String) : Action (World ξ) BrokerError Nat
  unsubscribe (topic : String) (feed : Nat) : Action (World ξ) BrokerError Unit
  ack (topic messageId : String) : Action (World ξ) BrokerError Unit
  nack (topic messageId reason : String) : Action (World ξ) BrokerError Unit
  close : Action (World ξ) BrokerError Unit

/-- The queue as a broker. -/
def Broker.ofQueue {ξ : Type} : Broker ξ where
  publish topic m := World.onQueue fun q => q.publish topic m
  subscribe topic := World.onQueue fun q => q.subscribe topic
  unsubscribe topic feed := World.modifyQueue fun q => q.unsubscribe topic feed
  ack _ messageId := World.modifyQueue fun q => q.ack messageId
  nack _ messageId reason := World.modifyQueue fun q => q.nack messageId reason
  close := World.modifyQueue Queue.close

/-- Why a message was not published. -/
inductive PublishError where
  | broker (topic messageId : String) (cause : BrokerError)
  | missingEvent (topic : String)
  | encode (cause : CodecError)
  deriving DecidableEq, Repr

/-- The text of the error. -/
def PublishError.message : PublishError → String
  | .broker topic messageId _ => "publish to " ++ topic ++ " failed for message " ++ messageId
  | .missingEvent topic => "cannot publish " ++ topic ++ ": no event given"
  | .encode _ => "event encoding failed"

/-- What publishes messages. -/
structure Publisher (ξ : Type) where
  send (ctx : Context) (topic : String) (m : Message) : Action (World ξ) PublishError Unit

/-- Publishes a payload as a message of its own. -/
def Publisher.sendPayload {ξ : Type} (p : Publisher ξ) (ctx : Context) (topic : String)
    (payload : Text.Octets) : Action (World ξ) PublishError Unit :=
  p.send ctx topic { payload }

/-! ## Stamping -/

/-- Gives a message a uuid if it has none. -/
def identify [IdSource] (m : Message) (ids : Ids) : Message × Ids :=
  if m.uuid = "" then
    let (id, ids) := ids.fresh
    ({ m with uuid := id }, ids)
  else (m, ids)

/-- Gives a message a correlation id if it has none: the context's, or a fresh one. -/
def correlate [IdSource] (ctx : Context) (m : Message) (ids : Ids) : Message × Ids :=
  if (m.value? Header.correlationId).isSome then (m, ids)
  else
    match ctx.value? Header.correlationId with
    | some id => (m.setValue Header.correlationId id, ids)
    | none =>
      let (id, ids) := ids.fresh
      (m.setValue Header.correlationId id, ids)

/-- Gives a message the context's request id if it has none. -/
def adoptRequest (ctx : Context) (m : Message) : Message :=
  match ctx.value? Header.requestId with
  | some id => m.setAbsent Header.requestId id
  | none => m

/-- Gives a message one value of a context, unless it is empty, describes one message only, or the
message has a value of its own. -/
def adoptValue (m : Message) (entry : String × String) : Message :=
  if entry.2 = "" ∨ Header.isMessageScoped entry.1 then m else m.setAbsent entry.1 entry.2

/-- Gives a message everything that consumers rely on. -/
def stamp [IdSource] (ctx : Context) (topic : String) (m : Message) (ids : Ids) : Message × Ids :=
  let (m, ids) := identify m ids
  let m := m.setAbsent Header.messageId m.uuid
  let (m, ids) := correlate ctx m ids
  let m := (adoptRequest ctx m).setAbsent Header.routingKey topic
  (ctx.values.entries.foldl adoptValue m, ids)

/-- The publisher over a broker. -/
def Publisher.ofBroker [IdSource] {ξ : Type} (b : Broker ξ) : Publisher ξ where
  send ctx topic m := do
    let m ← Action.update fun w =>
      let (m, ids) := stamp ctx topic m w.ids
      (m, { w with ids })
    (b.publish topic m).mapError fun cause => .broker topic m.uuid cause

/-! ## What stamping leaves alone -/

theorem setAbsent_payload (m : Message) (key value : String) :
    (m.setAbsent key value).payload = m.payload ∧ (m.setAbsent key value).uuid = m.uuid := by
  unfold Message.setAbsent
  split <;> exact ⟨rfl, rfl⟩

theorem adoptValue_payload (m : Message) (entry : String × String) :
    (adoptValue m entry).payload = m.payload ∧ (adoptValue m entry).uuid = m.uuid := by
  unfold adoptValue
  split
  · exact ⟨rfl, rfl⟩
  · exact setAbsent_payload m _ _

theorem foldl_adoptValue_payload (es : List (String × String)) (m : Message) :
    (es.foldl adoptValue m).payload = m.payload ∧ (es.foldl adoptValue m).uuid = m.uuid := by
  induction es generalizing m with
  | nil => exact ⟨rfl, rfl⟩
  | cons e es ih =>
    have h := adoptValue_payload m e
    have := ih (adoptValue m e)
    exact ⟨this.1.trans h.1, this.2.trans h.2⟩

theorem correlate_payload [IdSource] (ctx : Context) (m : Message) (ids : Ids) :
    (correlate ctx m ids).1.payload = m.payload ∧ (correlate ctx m ids).1.uuid = m.uuid := by
  unfold correlate
  split
  · exact ⟨rfl, rfl⟩
  · split <;> exact ⟨rfl, rfl⟩

theorem adoptRequest_payload (ctx : Context) (m : Message) :
    (adoptRequest ctx m).payload = m.payload ∧ (adoptRequest ctx m).uuid = m.uuid := by
  unfold adoptRequest
  split
  · exact setAbsent_payload m _ _
  · exact ⟨rfl, rfl⟩

theorem stamp_fields [IdSource] (ctx : Context) (topic : String) (m : Message) (ids : Ids) :
    (stamp ctx topic m ids).1.payload = (identify m ids).1.payload ∧
      (stamp ctx topic m ids).1.uuid = (identify m ids).1.uuid := by
  have h₁ := setAbsent_payload (identify m ids).1 Header.messageId (identify m ids).1.uuid
  have h₂ := correlate_payload ctx
    ((identify m ids).1.setAbsent Header.messageId (identify m ids).1.uuid) (identify m ids).2
  have h₃ := adoptRequest_payload ctx (correlate ctx
    ((identify m ids).1.setAbsent Header.messageId (identify m ids).1.uuid) (identify m ids).2).1
  have h₄ := setAbsent_payload (adoptRequest ctx (correlate ctx
    ((identify m ids).1.setAbsent Header.messageId (identify m ids).1.uuid)
      (identify m ids).2).1) Header.routingKey topic
  have h₅ := foldl_adoptValue_payload ctx.values.entries ((adoptRequest ctx (correlate ctx
    ((identify m ids).1.setAbsent Header.messageId (identify m ids).1.uuid)
      (identify m ids).2).1).setAbsent Header.routingKey topic)
  exact ⟨h₅.1.trans (h₄.1.trans (h₃.1.trans (h₂.1.trans h₁.1))),
    h₅.2.trans (h₄.2.trans (h₃.2.trans (h₂.2.trans h₁.2)))⟩

/-- Stamping never touches the payload. -/
theorem stamp_payload [IdSource] (ctx : Context) (topic : String) (m : Message) (ids : Ids) :
    (stamp ctx topic m ids).1.payload = m.payload := by
  rw [(stamp_fields ctx topic m ids).1, identify]
  split <;> rfl

/-- A uuid that is there stays. -/
theorem stamp_uuid [IdSource] (ctx : Context) (topic : String) (m : Message) (ids : Ids) (h : m.uuid ≠ "") :
    (stamp ctx topic m ids).1.uuid = m.uuid := by
  rw [(stamp_fields ctx topic m ids).2, identify, if_neg h]

end SymbolRelay
