import SymbolRelay.Proofs.Encoding.Events
import SymbolRelay.Standin.Compact

/-!
# Messages, symbols and events read back

What is written as JSON is an object with these members, in this order:

| value | members |
|-------|---------|
| message | `uuid`, `payload` as a list of octets, `metadata` as an object of strings |
| symbol | `id`, `name`, `code`, `description`, `created_at`, `updated_at` |
| event | `id`, `name`, `code`, `description` unless it tells of a removal, `occurred_at` |

Times are whole milliseconds. The metadata of a message has no order of its own, so its members may be
written in any.

## Results

* `Message.ofJson_jsonInOrder` — a message is read back, in whichever order its metadata was written;
* `Symbol.ofJson_json`, `Event.decodeAs_encode` — so are symbols, and events of every kind;
* `json_read_back` — all of them, whatever their texts, numbers and times are.
-/

set_option autoImplicit false

namespace SymbolRelay

open SymbolRelay.Text SymbolRelay.Json

/-! ## Messages -/

namespace Message

/-- The JSON form of a message with its metadata in this order. -/
def jsonInOrder (m : Message) (order : List (String × String)) : String :=
  writeObject
    [writeMember "uuid" (writeString m.uuid), writeMember "payload" (Shape.octets.write m.payload),
      writeMember "metadata" (writeTexts order)]

/-- The form that is written here has the metadata by name. -/
theorem jsonInOrder_entries (m : Message) : m.jsonInOrder m.metadata.entries = m.json := rfl

theorem fieldsWrite_inOrder (m : Message) {order : List (String × String)}
    (h : order.Perm m.metadata.entries) :
    FieldsWrite members (m.uuid, m.payload, m.metadata, ())
      [writeMember "uuid" (writeString m.uuid), writeMember "payload" (Shape.octets.write m.payload),
        writeMember "metadata" (writeTexts order)] :=
  ⟨_, _, Shape.text.writes_write m.uuid,
    ⟨_, _, Shape.octets.writes_write m.payload, ⟨_, _, ⟨order, h, rfl⟩, rfl, rfl⟩, rfl⟩, rfl⟩

/-- A message is read back, in whichever order its metadata was written. -/
theorem ofJson_jsonInOrder (m : Message) {order : List (String × String)}
    (h : order.Perm m.metadata.entries) : ofJson (octets (m.jsonInOrder order)) = .ok m := by
  have hread := parseRecord_of_fieldsWrite members (by decide) (m.uuid, m.payload, m.metadata, ())
    (m.fieldsWrite_inOrder h)
  simp only [ofJson, jsonInOrder, hread]
  rfl

end Message

/-! ## Symbols and events -/

theorem Symbol.ofJson_json (s : Symbol) : ofJson (octets s.json) = .ok s := by
  have hread := parseRecord_writeRecord members (by decide)
    (s.id, s.name, s.code, s.description, s.createdAt, s.updatedAt, ())
  simp only [ofJson, json, hread]
  rfl

/-- An event is read back in either codec. -/
theorem Event.decodeAs_encode [BinaryFormat] (codec : Codec) (e : Event) :
    decodeAs e.kind codec (codec.encode e.kind.members e.fields) = .ok e := by
  rw [decodeAs, codec.decode_encode e.kind.members e.kind.names_nodup e.fields]
  exact congrArg Except.ok e.ofFields_fields

/-! ## All of them -/

/-- **What is written as JSON is read back as it was.** A message comes back with its uuid, its octets and its
metadata, in whichever order the metadata was written, by name in particular; so does a symbol, and so does an
event of each kind. The texts may hold any characters, the ids are any numbers of 64 bits, and the times any
that there are. -/
theorem json_read_back [BinaryFormat] :
    (∀ (m : Message) (order : List (String × String)), order.Perm m.metadata.entries →
      Message.ofJson (octets (m.jsonInOrder order)) = .ok m) ∧
    (∀ m : Message, m.jsonInOrder m.metadata.entries = m.json ∧
      Message.ofJson (octets m.json) = .ok m) ∧
    (∀ s : Symbol, Symbol.ofJson (octets s.json) = .ok s) ∧
    ∀ e : Event,
      Event.decodeAs e.kind .json (Codec.json.encode e.kind.members e.fields) = .ok e :=
  ⟨fun m _ h => m.ofJson_jsonInOrder h,
    fun m => ⟨m.jsonInOrder_entries, m.ofJson_jsonInOrder (.refl _)⟩,
    Symbol.ofJson_json, Event.decodeAs_encode .json⟩

/-- A message with quotes, backslashes and control characters in its texts. -/
def awkward : Message where
  uuid := "u\"1\\\x00"
  payload := [0, 255]
  metadata := Table.ofList [("tab\t", "\u2028"), ("\"", ""), ("é", "Σ😀\x1f")]

/-- Its metadata in reverse order gives another text, and the same message. -/
theorem awkward_read_back :
    awkward.metadata.entries.reverse.Perm awkward.metadata.entries ∧
      awkward.jsonInOrder awkward.metadata.entries.reverse ≠ awkward.json ∧
      Message.ofJson (octets (awkward.jsonInOrder awkward.metadata.entries.reverse)) = .ok awkward := by
  have horder := List.reverse_perm awkward.metadata.entries
  exact ⟨horder, by decide +kernel, json_read_back.1 awkward _ horder⟩

end SymbolRelay
