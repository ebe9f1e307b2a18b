import SymbolRelay.Codec
import SymbolRelay.Message
import SymbolRelay.Symbol.Basic
import SymbolRelay.Text.Quoted

/-!
# Symbol events

What happens to a symbol is told by three kinds of events, each on a topic of its own. The topic, kept
in the message as its routing key, tells the kind; the content type tells the encoding.

## Results

* `ofFacts_facts` — an event is its kind and what it says;
* `decode_of_unknown` — a message with any other routing key holds no event.
-/

set_option autoImplicit false

namespace SymbolRelay

open SymbolRelay.Text SymbolRelay.Json

/-- The three kinds of events. -/
inductive EventKind where
  | created
  | updated
  | deleted
  deriving DecidableEq, Repr

namespace EventKind

/-- The topic of a kind. -/
def topic : EventKind → String
  | .created => "symbol.created"
  | .updated => "symbol.updated"
  | .deleted => "symbol.deleted"

/-- All kinds. -/
def all : List EventKind := [.created, .updated, .deleted]

/-- The kind with a topic. -/
def ofTopic? (topic : String) : Option EventKind := all.find? (·.topic = topic)

/-- The members of an event of a kind. -/
def members : EventKind → List Member
  | .deleted =>
    [⟨"id", .integer, false⟩, ⟨"name", .text, false⟩, ⟨"code", .text, false⟩,
      ⟨"occurred_at", .time, false⟩]
  | _ =>
    [⟨"id", .integer, false⟩, ⟨"name", .text, false⟩, ⟨"code", .text, false⟩,
      ⟨"description", .text, false⟩, ⟨"occurred_at", .time, false⟩]

end EventKind

/-- The topics of all kinds. -/
def symbolTopics : List String := EventKind.all.map EventKind.topic

/-- What an event says about a symbol. Its description is not told when it is deleted. -/
structure EventFacts where
  id : Int64
  name : String
  code : String
  description : String := ""
  occurredAt : Time
  deriving DecidableEq

/-- Something that happened to a symbol. -/
inductive Event where
  | created (facts : EventFacts)
  | updated (facts : EventFacts)
  | deleted (id : Int64) (name code : String) (occurredAt : Time)
  deriving DecidableEq

namespace Event

/-- The kind of an event. -/
def kind : Event → EventKind
  | .created _ => .created
  | .updated _ => .updated
  | .deleted .. => .deleted

/-- The topic of an event. -/
def topic (e : Event) : String := e.kind.topic

/-- What an event says; nothing of the description when its symbol was deleted. -/
def facts : Event → EventFacts
  | .created f => f
  | .updated f => f
  | .deleted id name code occurredAt => { id, name, code, occurredAt }

/-- The event of a kind that says as much as its kind tells. -/
def ofFacts (kind : EventKind) (f : EventFacts) : Event :=
  match kind with
  | .created => .created f
  | .updated => .updated f
  | .deleted => .deleted f.id f.name f.code f.occurredAt

theorem ofFacts_facts (e : Event) : ofFacts e.kind e.facts = e := by
  cases e <;> rfl

/-- The id of the symbol. -/
def symbolId : Event → Int64
  | .created f => f.id
  | .updated f => f.id
  | .deleted id _ _ _ => id

/-- The event that tells about a symbol at a time. -/
def ofSymbol (kind : EventKind) (s : Symbol) (at_ : Time) : Event :=
  ofFacts kind ⟨s.id, s.name, s.code, s.description, at_⟩

/-! ## Encoding -/

/-- The members of an event, in order. -/
def fields : (e : Event) → Fields e.kind.members
  | .created f => (f.id, f.name, f.code, f.description, f.occurredAt, ())
  | .updated f => (f.id, f.name, f.code, f.description, f.occurredAt, ())
  | .deleted id name code occurredAt => (id, name, code, occurredAt, ())

/-- The event of a kind with these members. -/
def ofFields : (kind : EventKind) → Fields kind.members → Event
  | .created, (id, name, code, description, occurredAt, ()) =>
    .created ⟨id, name, code, description, occurredAt⟩
  | .updated, (id, name, code, description, occurredAt, ()) =>
    .updated ⟨id, name, code, description, occurredAt⟩
  | .deleted, (id, name, code, occurredAt, ()) => .deleted id name code occurredAt

theorem ofFields_fields (e : Event) : ofFields e.kind e.fields = e := by
  cases e <;> rfl

/-- The message that carries an event, with its content type. -/
def encode [BinaryFormat] (codec : Codec) (e : Event) : Message :=
  ({ payload := codec.encode e.kind.members e.fields } : Message).setValue
    Header.contentType codec.contentType

/-! ## Decoding -/

/-- Why a message holds no event. -/
inductive DecodeError where
  | unknownTopic (topic : String)
  | codec (cause : CodecError)
  deriving DecidableEq, Repr

/-- The text of the error. -/
def DecodeError.message : DecodeError → String
  | .unknownTopic topic => "no symbol event is published on " ++ quoted topic
  | .codec cause => cause.message

/-- The codec of a message: that of its content type, or the default. -/
def codecOf (m : Message) : Except CodecError Codec :=
  match m.value? Header.contentType with
  | some s => Codec.ofContentType s
  | none => .ok Codec.default

/-- The event of a kind in a payload. -/
def decodeAs [BinaryFormat] (kind : EventKind) (codec : Codec) (payload : Octets) : Except CodecError Event :=
  (codec.decode kind.members payload).map (ofFields kind)

/-- The event that a message carries. -/
def decode [BinaryFormat] (m : Message) : Except DecodeError Event :=
  let topic := (m.value? Header.routingKey).getD ""
  match EventKind.ofTopic? topic with
  | none => .error (.unknownTopic topic)
  | some kind =>
    ((codecOf m).bind fun codec => decodeAs kind codec m.payload).mapError .codec

theorem decode_of_unknown [BinaryFormat] {m : Message} {topic : String}
    (key : m.value? Header.routingKey = some topic) (unknown : topic ∉ symbolTopics) :
    decode m = .error (.unknownTopic topic) := by
  have h : EventKind.ofTopic? topic = none := by
    rw [EventKind.ofTopic?, List.find?_eq_none]
    intro kind hk he
    exact unknown (List.mem_map.mpr ⟨kind, hk, by simpa using he⟩)
  simp [decode, key, h]

end Event

end SymbolRelay
