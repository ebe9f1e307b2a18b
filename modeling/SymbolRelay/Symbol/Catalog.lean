import SymbolRelay.Handling.HandlerError
import SymbolRelay.Symbol.RecentIds

/-!
# The symbol catalog

The catalog is what a consumer of symbol events knows about the symbols. Messages may come more than
once, so one whose uuid was applied a short while ago changes nothing.

## Definitions

* `Catalog.apply` — one message;
* `Catalog.applyAll`, `Catalog.replay` — messages one after the other, and a log from the beginning.

## Results

* `apply_of_undecodable` — a message that holds no event is refused, and its uuid is not remembered;
* `apply_of_remembered` — a message that comes again changes nothing.
-/

set_option autoImplicit false

namespace SymbolRelay

/-- What the catalog knows of a symbol; `version` counts the events that told about it. -/
structure CatalogEntry where
  name : String
  code : String
  description : String
  version : Nat
  deriving DecidableEq, Repr

/-- How many uuids a catalog remembers unless told otherwise. -/
def defaultDedupeWindow : Nat := 10000

/-- The symbols that events told about, by id, and the uuids of the messages applied last. -/
structure Catalog where
  entries : Table Int64 CatalogEntry := Table.empty
  recent : RecentIds

namespace Catalog

/-- An empty catalog that remembers so many uuids. -/
def withWindow (window : Nat) : Catalog := { recent := .withCapacity window }

/-- How many uuids are remembered. -/
def remembered (c : Catalog) : Nat := c.recent.count

/-- Enters what an event told about a symbol. -/
def enter (entries : Table Int64 CatalogEntry) (facts : EventFacts) : Table Int64 CatalogEntry :=
  let version := match entries.get? facts.id with
    | some entry => entry.version + 1
    | none => 1
  entries.insert facts.id ⟨facts.name, facts.code, facts.description, version⟩

/-- The entries after an event. -/
def applyEvent (entries : Table Int64 CatalogEntry) : Event → Table Int64 CatalogEntry
  | .created facts => enter entries facts
  | .updated facts => enter entries facts
  | .deleted id _ _ _ => entries.erase id

/-- Applies a message, unless it was applied a short while ago. One without a uuid always counts as
new. -/
def apply [BinaryFormat] (c : Catalog) (m : Message) : Except HandlerError Catalog :=
  match Event.decode m with
  | .error e => .error (.ofDecode e)
  | .ok event =>
    if m.uuid = "" then .ok { c with entries := applyEvent c.entries event }
    else
      match c.recent.accept? m.uuid with
      | none => .ok c
      | some recent => .ok { entries := applyEvent c.entries event, recent }

/-- The catalog after messages that are applied one after the other. -/
def applyAll [BinaryFormat] (c : Catalog) (ms : List Message) : Except HandlerError Catalog :=
  ms.foldlM apply c

/-- The catalog after all messages of a log, from an empty one that remembers so many uuids. -/
def replay [BinaryFormat] (window : Nat) (log : List (String × Message)) : Except HandlerError Catalog :=
  log.foldlM (fun c e => c.apply e.2) (withWindow window)

theorem apply_of_undecodable [BinaryFormat] {c : Catalog} {m : Message} {e : Event.DecodeError}
    (h : Event.decode m = .error e) : c.apply m = .error (.ofDecode e) := by
  simp [apply, h]

theorem apply_of_remembered [BinaryFormat] {c : Catalog} {m : Message} {event : Event}
    (h : Event.decode m = .ok event) (named : m.uuid ≠ "") (known : m.uuid ∈ c.recent.ids) :
    c.apply m = .ok c := by
  simp [apply, h, named, (RecentIds.accept?_eq_none_iff c.recent m.uuid).mpr known]

end Catalog

end SymbolRelay
