import SymbolRelay.Proofs.Delivery.Stamping
import SymbolRelay.Proofs.Encoding.JsonRecords
import SymbolRelay.Symbol.Event

/-!
# Events arrive as they were sent

An event that is encoded, stamped under any context and published on its topic is the event that a
consumer decodes.

## Results

* `Codec.decode_encode` — what a codec encoded it decodes;
* `Event.decode_stamp_encode` — a published event is decoded as it was.
-/

set_option autoImplicit false

namespace SymbolRelay

open SymbolRelay.Text SymbolRelay.Json

theorem Codec.decode_encode [BinaryFormat] (codec : Codec) (ms : List Member)
    (distinct : (ms.map (·.name)).Nodup) (fields : Fields ms) :
    codec.decode ms (codec.encode ms fields) = .ok fields := by
  cases codec with
  | compact => simp only [Codec.decode, Codec.encode, BinaryFormat.read_write]
  | json =>
    simp only [Codec.decode, Codec.encode, parseRecord_writeRecord ms distinct fields]
    rfl

namespace EventKind

theorem names_nodup (kind : EventKind) : (kind.members.map (·.name)).Nodup := by
  cases kind <;> decide

theorem ofTopic?_topic (kind : EventKind) : ofTopic? kind.topic = some kind := by
  cases kind <;> decide

theorem topic_ne_empty (kind : EventKind) : kind.topic ≠ "" := by
  cases kind <;> decide

theorem topic_injective {kind other : EventKind} (h : kind.topic = other.topic) : kind = other := by
  have hsome := ofTopic?_topic kind
  rw [h, ofTopic?_topic] at hsome
  exact (Option.some.inj hsome).symm

end EventKind

namespace Event

theorem encode_uuid [BinaryFormat] (codec : Codec) (e : Event) : (e.encode codec).uuid = "" := rfl

theorem encode_contentType [BinaryFormat] (codec : Codec) (e : Event) :
    (e.encode codec).value? Header.contentType = some codec.contentType := by
  rw [encode, Message.value?_setValue_self, if_neg]
  cases codec <;> decide

theorem encode_routingKey [BinaryFormat] (codec : Codec) (e : Event) :
    (e.encode codec).value? Header.routingKey = none := by
  rw [encode, Message.value?_setValue_of_ne _ _ (by decide)]
  rfl

/-- A message that states the topic of an event and its encoding carries the event. -/
theorem decode_of_stated [BinaryFormat] (codec : Codec) {m : Message} {e : Event}
    (route : m.value? Header.routingKey = some e.topic)
    (type : m.value? Header.contentType = some codec.contentType)
    (payload : m.payload = codec.encode e.kind.members e.fields) : decode m = .ok e := by
  have hkind : EventKind.ofTopic? e.topic = some e.kind := e.kind.ofTopic?_topic
  have hdecoded := codec.decode_encode e.kind.members e.kind.names_nodup e.fields
  simp only [decode, route, Option.getD_some, hkind, codecOf, type, Codec.ofContentType_contentType,
    Except.bind, decodeAs, payload, hdecoded]
  show Except.ok (ofFields e.kind e.fields) = Except.ok e
  rw [ofFields_fields]

/-- **A published event is decoded as it was**, in whichever codec and under whichever context. -/
theorem decode_stamp_encode [BinaryFormat] [IdSource] (codec : Codec) (e : Event) (ctx : Context)
    (ids : Ids) :
    decode (stamp ctx e.topic (e.encode codec) ids).1 = .ok e := by
  have hne : e.topic ≠ "" := e.kind.topic_ne_empty
  refine decode_of_stated codec ?_ ?_ (stamp_payload ctx e.topic _ ids)
  · rw [value?_stamp_routingKey ctx _ ids hne, encode_routingKey]
    rfl
  · rw [value?_stamp_of_scoped ctx e.topic _ ids (by decide) (by decide) (by decide),
      encode_contentType]

theorem kind_ofSymbol (kind : EventKind) (symbol : Symbol) (at_ : Time) :
    (ofSymbol kind symbol at_).kind = kind := by
  cases kind <;> rfl

theorem code_ofSymbol (kind : EventKind) (symbol : Symbol) (at_ : Time) :
    (ofSymbol kind symbol at_).facts.code = symbol.code := by
  cases kind <;> rfl

theorem symbolId_ofSymbol (kind : EventKind) (symbol : Symbol) (at_ : Time) :
    (ofSymbol kind symbol at_).symbolId = symbol.id := by
  cases kind <;> rfl

end Event

end SymbolRelay
