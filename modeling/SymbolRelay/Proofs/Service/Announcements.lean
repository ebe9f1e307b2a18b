import SymbolRelay.Proofs.Delivery.Handovers
import SymbolRelay.Proofs.Encoding.Events
import SymbolRelay.Service.SymbolService
import SymbolRelay.Standin.Compact
import SymbolRelay.Standin.NumberedIds

/-!
# What is told about a symbol

The service tells about a symbol in one message, on the topic of the kind of event. Whatever the context
of the call holds, be it under the names that describe one message only, the event that is read from the
message is the one that was told:

```text
symbol ─► event ─► payload, content type ─► stamped: routing key ─► broker
event  ◄─ kind by the routing key, codec by the content type ◄─ message
```

## Results

* `Event.decode_read` — a message is read by its routing key, its content type and its payload alone;
* `announce_record` — an announcement gives the broker one message;
* `read_as_told` — what is read from it, in either codec and under every context.
-/

set_option autoImplicit false

namespace SymbolRelay

open SymbolRelay.Text

/-! ## What a message is read by -/

/-- Whether a content type asks for a codec; one that is absent asks for the default. -/
def Codec.AskedBy (codec : Codec) : Option String → Prop
  | some name => name = codec.contentType
  | none => codec = .default

namespace Event

/-- What is read from a payload. The routing key beside it decides the kind of the event, and the content
type the codec. -/
inductive Read [BinaryFormat] (route type : Option String) (payload : Octets) :
    Except DecodeError Event → Prop
  /-- The routing key is the topic of no kind, or there is none. -/
  | unknown (hroute : ∀ kind : EventKind, route ≠ some kind.topic) :
    Read route type payload (.error (.unknownTopic (route.getD "")))
  /-- The content type is that of no codec. -/
  | uncoded {kind : EventKind} {name : String} (hroute : route = some kind.topic)
      (htype : type = some name) (hname : ∀ codec : Codec, name ≠ codec.contentType) :
    Read route type payload (.error (.codec (.unknownContentType name)))
  /-- The payload is no record of the kind in this codec. -/
  | malformed {kind : EventKind} {codec : Codec} {cause : CodecError}
      (hroute : route = some kind.topic) (htype : codec.AskedBy type)
      (hpayload : codec.decode kind.members payload = .error cause) :
    Read route type payload (.error (.codec cause))
  | event {e : Event} {codec : Codec} (hroute : route = some e.kind.topic)
      (htype : codec.AskedBy type) (hpayload : codec.decode e.kind.members payload = .ok e.fields) :
    Read route type payload (.ok e)

/-- The kind that a routing key tells: the one with this topic. -/
theorem route_cases (route : Option String) :
    (EventKind.ofTopic? (route.getD "") = none ∧ ∀ kind : EventKind, route ≠ some kind.topic) ∨
      ∃ kind, EventKind.ofTopic? (route.getD "") = some kind ∧ route = some kind.topic := by
  cases hkind : EventKind.ofTopic? (route.getD "") with
  | none =>
    refine .inl ⟨rfl, ?_⟩
    rintro kind rfl
    rw [Option.getD_some, kind.ofTopic?_topic] at hkind
    cases hkind
  | some kind =>
    have htopic : kind.topic = route.getD "" := by simpa using List.find?_some hkind
    refine .inr ⟨kind, rfl, ?_⟩
    cases route with
    | none => exact absurd htopic kind.topic_ne_empty
    | some topic => rw [htopic, Option.getD_some]

/-- The codec that a content type asks for, if there is one. -/
theorem codecOf_cases (m : Message) :
    (∃ codec, codecOf m = .ok codec ∧ codec.AskedBy (m.value? Header.contentType)) ∨
      ∃ name, codecOf m = .error (.unknownContentType name) ∧
        m.value? Header.contentType = some name ∧ ∀ codec : Codec, name ≠ codec.contentType := by
  unfold codecOf
  cases m.value? Header.contentType with
  | none => exact .inl ⟨.default, rfl, rfl⟩
  | some name =>
    by_cases hname : ∃ codec : Codec, name = codec.contentType
    · obtain ⟨codec, rfl⟩ := hname
      exact .inl ⟨codec, Codec.ofContentType_contentType codec, rfl⟩
    · refine .inr ⟨name, ?_, rfl, fun codec h => hname ⟨codec, h⟩⟩
      have hcompact : name ≠ Codec.compact.contentType := fun h => hname ⟨.compact, h⟩
      have hjson : name ≠ Codec.json.contentType := fun h => hname ⟨.json, h⟩
      simp [Codec.ofContentType, hcompact, hjson]

/-- **A message is read by its routing key, its content type and its payload**, and by nothing else that
it says. -/
theorem decode_read [BinaryFormat] (m : Message) :
    Read (m.value? Header.routingKey) (m.value? Header.contentType) m.payload (decode m) := by
  rcases route_cases (m.value? Header.routingKey) with ⟨hkind, hroute⟩ | ⟨kind, hkind, hroute⟩
  · simp only [decode, hkind]
    exact .unknown hroute
  · simp only [decode, hkind]
    rcases codecOf_cases m with ⟨codec, hcodec, htype⟩ | ⟨name, hcodec, htype, hname⟩
    · simp only [hcodec, Except.bind, decodeAs]
      cases hpayload : codec.decode kind.members m.payload with
      | error cause => exact .malformed hroute htype hpayload
      | ok fields =>
        cases kind with
        | created | updated | deleted => exact .event hroute htype hpayload
    · simp only [hcodec]
      exact .uncoded hroute htype hname

/-- The routing key of a message that holds an event is the topic of the event's kind. -/
theorem route_of_decode [BinaryFormat] {m : Message} {e : Event} (h : decode m = .ok e) :
    m.value? Header.routingKey = some e.kind.topic := by
  have hread := decode_read m
  rw [h] at hread
  cases hread with
  | event hroute _ _ => exact hroute

end Event

/-! ## Announcing -/

namespace SymbolService

variable {ξ τ : Type}

/-- An announcement gives the broker one message, whatever the broker makes of it: the encoded event,
stamped. -/
theorem announce_record [BinaryFormat] [IdSource] {b : Broker ξ}
    {s : SymbolService (ξ × List (String × Message)) τ} (hs : s.publisher = .ofBroker (b.noted Prod.mk))
    (kind : EventKind) (ctx : Context) (symbol : Symbol) (w : World (ξ × List (String × Message))) :
    (s.announce kind ctx (some symbol) w).2.record = w.record ++ [(kind.topic,
      (stamp ctx kind.topic ((Event.ofSymbol kind symbol w.clock.now).encode s.codec) w.ids).1)] := by
  simp only [announce, hs]
  rfl

/-- **What is told about a symbol is what is read.** One message reaches the broker, on the topic of the
kind; the event in it is of that kind and says of the symbol what the kind tells, in either codec and
under every context. And no message is read by anything but its routing key, which decides the kind, its
content type, which decides the codec, and its payload. -/
theorem read_as_told [BinaryFormat] [IdSource] (b : Broker ξ)
    (s : SymbolService (ξ × List (String × Message)) τ) (hs : s.publisher = .ofBroker (b.noted Prod.mk)) :
    (∀ kind ctx symbol (w : World (ξ × List (String × Message))), ∃ m e,
      (s.announce kind ctx (some symbol) w).2.record = w.record ++ [(kind.topic, m)] ∧
      Event.decode m = .ok e ∧ e.kind = kind ∧ e.symbolId = symbol.id ∧ e.facts.name = symbol.name ∧
      e.facts.code = symbol.code ∧ (kind ≠ .deleted → e.facts.description = symbol.description) ∧
      e.facts.occurredAt.millis = w.clock.now.millis) ∧
    (∀ m, Event.Read (m.value? Header.routingKey) (m.value? Header.contentType) m.payload
      (Event.decode m)) ∧
    ∀ m m' e e', m.value? Header.routingKey = m'.value? Header.routingKey →
      Event.decode m = .ok e → Event.decode m' = .ok e' → e.kind = e'.kind := by
  refine ⟨?_, Event.decode_read, ?_⟩
  · intro kind ctx symbol w
    have hdecode := Event.decode_stamp_encode s.codec (Event.ofSymbol kind symbol w.clock.now) ctx w.ids
    rw [Event.topic, Event.kind_ofSymbol] at hdecode
    refine ⟨_, _, announce_record hs kind ctx symbol w, hdecode, Event.kind_ofSymbol _ _ _,
      Event.symbolId_ofSymbol _ _ _, ?_⟩
    cases kind with
    | created | updated => exact ⟨rfl, rfl, fun _ => rfl, rfl⟩
    | deleted => exact ⟨rfl, rfl, fun h => absurd rfl h, rfl⟩
  · intro m m' e e' hroute he he'
    have htopic := Event.route_of_decode he
    rw [hroute, Event.route_of_decode he'] at htopic
    exact (EventKind.topic_injective (Option.some.inj htopic)).symm

/-- A context inside a unit of work that claims to know everything about the message. -/
def meddlingContext : Context :=
  { values := Table.ofList
      [(Header.routingKey, "symbol.deleted"), (Header.contentType, "text/plain"),
        (Header.messageId, "m"), (Header.poisonReason, "none"), (Header.poisonedTopic, ""),
        (Header.correlationId, ""), ("traceparent", "00-aa-bb-01")]
    scope := 1, outer := [0], inTransaction := true }

/-- A service that tells about symbols in JSON, over a queue that takes notes. -/
def notedService : SymbolService (Unit × List (String × Message)) Transaction where
  storage := .ofStore
  publisher := .ofBroker (Broker.ofQueue.noted Prod.mk)
  codec := .json

/-- A renamed symbol, with a quotation mark in its new name. -/
def renamed : Symbol := ⟨7, "\"Bit\" coin", "BTC", "a coin", .epoch, .epoch⟩

/-- The context does not get in the way of the event. -/
theorem notedService_reads_renamed :
    notedService.publisher = .ofBroker (Broker.ofQueue.noted Prod.mk) ∧
    ∃ m e, (notedService.announce .updated meddlingContext (some renamed)
        { extra := ((), []) }).2.record = [("symbol.updated", m)] ∧
      Event.decode m = .ok e ∧ e.kind = .updated ∧ e.symbolId = 7 ∧ e.facts.name = "\"Bit\" coin" ∧
      e.facts.description = "a coin" := by
  refine ⟨rfl, ?_⟩
  obtain ⟨m, e, hrecord, hdecode, hkind, hid, hname, -, hdescription, -⟩ :=
    (read_as_told Broker.ofQueue notedService rfl).1 .updated meddlingContext renamed
      { extra := ((), []) }
  exact ⟨m, e, hrecord, hdecode, hkind, hid, hname, hdescription (by decide)⟩

end SymbolService

end SymbolRelay
