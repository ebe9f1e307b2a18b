import SymbolRelay.Json.Record

/-!
# Messages

A message has an identity of its own, a payload of octets, and metadata: named values, of which an
empty one counts as absent. Some metadata describes the one message that carries it and is never
handed on to another.

## Results

* `value?_setValue_self` — a value that was set is found, unless it is empty.
-/

set_option autoImplicit false

namespace SymbolRelay

open SymbolRelay.Text

/-- Named values, at most one under each name. -/
abbrev Metadata := Table String String

/-- The value under a name, if it is not empty. -/
def Metadata.value? (m : Metadata) (key : String) : Option String :=
  (m.get? key).filter (· ≠ "")

/-! ## Well-known names -/

namespace Header

/-- The message's own id. -/
def messageId : String := "message_id"

/-- The id that all messages of one conversation share. -/
def correlationId : String := "correlation_id"

/-- The id of the request that caused the message. -/
def requestId : String := "request_id"

/-- The topic that the message was first published on. -/
def routingKey : String := "routing_key"

/-- How the payload is encoded. -/
def contentType : String := "content_type"

/-- Why a message ended on the poison topic. -/
def poisonReason : String := "poison_reason"

/-- The topic from which a message came to the poison topic. -/
def poisonedTopic : String := "poisoned_topic"

/-- The names that describe one message only. -/
def messageScoped : List String :=
  [messageId, routingKey, contentType, poisonReason, poisonedTopic]

/-- Whether a name describes one message only. -/
def isMessageScoped (key : String) : Bool := messageScoped.contains key

end Header

/-! ## Messages -/

/-- What is carried from a publisher to a subscriber. -/
structure Message where
  uuid : String := ""
  payload : Octets := []
  metadata : Metadata := Table.empty
  deriving DecidableEq, Inhabited

namespace Message

/-- The metadata value under a name, if it is not empty. -/
def value? (m : Message) (key : String) : Option String := m.metadata.value? key

/-- The message with a metadata value. -/
def setValue (m : Message) (key value : String) : Message :=
  { m with metadata := m.metadata.insert key value }

/-- The message with a metadata value, unless it has a value under that name already. -/
def setAbsent (m : Message) (key value : String) : Message :=
  if (m.value? key).isSome then m else m.setValue key value

/-- The payload as text, if it is UTF-8. -/
def payloadText? (m : Message) : Option String := text? m.payload

theorem value?_setValue_self (m : Message) (key value : String) :
    (m.setValue key value).value? key = if value = "" then none else some value := by
  by_cases h : value = "" <;> simp [setValue, value?, Metadata.value?, h, Option.filter]

/-! ## JSON -/

/-- The members of a message's JSON form. The metadata may be left out. -/
def members : List Json.Member :=
  [⟨"uuid", .text, false⟩, ⟨"payload", .octets, false⟩, ⟨"metadata", .texts, true⟩]

/-- The JSON form of a message. -/
def json (m : Message) : String := Json.writeRecord members (m.uuid, m.payload, m.metadata, ())

/-- Reads a message from its JSON form. -/
def ofJson (bytes : Octets) : Except Json.Fault Message := do
  let (uuid, payload, metadata, ()) ← Json.parseRecord members bytes
  return ⟨uuid, payload, metadata⟩

end Message

end SymbolRelay
