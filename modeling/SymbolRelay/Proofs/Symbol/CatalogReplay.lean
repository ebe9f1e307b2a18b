import SymbolRelay.Proofs.Store.Lookups
import SymbolRelay.Symbol.Catalog

/-!
# Replaying a log into a catalog

A catalog that is given all messages of a log, one after the other. Messages that were not given to it
before count as new, whatever number of uuids it remembers.

## Results

* `apply_of_new` — a message that is new to a catalog is applied and remembered;
* `apply_eq_self_iff` — a message leaves no trace exactly if its uuid is remembered;
* `get?_applyEvent_ofSymbol` — what a catalog knows after an event about a symbol.
-/

set_option autoImplicit false

namespace SymbolRelay

/-- What a catalog tells of a symbol in some version. -/
def Symbol.entry (s : Symbol) (version : Nat) : CatalogEntry := ⟨s.name, s.code, s.description, version⟩

namespace RecentIds

theorem exists_accept {r : RecentIds} {id : String} (new : id ∉ r.ids) :
    ∃ after, r.accept? id = some after ∧ ∀ other ∈ after.ids, other = id ∨ other ∈ r.ids := by
  cases h : r.accept? id with
  | none => exact absurd ((r.accept?_eq_none_iff id).mp h) new
  | some after => exact ⟨after, rfl, fun _ hother => eq_or_mem_of_accept h hother⟩

end RecentIds

namespace Catalog

theorem replay_snoc [BinaryFormat] {window : Nat} {log : List (String × Message)} {c : Catalog}
    (topic : String) (m : Message) (h : replay window log = .ok c) :
    replay window (log ++ [(topic, m)]) = c.apply m := by
  rw [replay, List.foldlM_append, ← replay, h]
  show (c.apply m >>= fun c => pure c) = c.apply m
  rw [bind_pure]

/-- A message that is new to a catalog is applied and remembered. -/
theorem apply_of_new [BinaryFormat] {c : Catalog} {m : Message} {event : Event}
    (h : Event.decode m = .ok event) (named : m.uuid ≠ "") (new : m.uuid ∉ c.recent.ids) :
    ∃ after, c.apply m = .ok after ∧ after.entries = applyEvent c.entries event ∧
      ∀ uuid ∈ after.recent.ids, uuid = m.uuid ∨ uuid ∈ c.recent.ids := by
  obtain ⟨recent, haccept, hids⟩ := RecentIds.exists_accept new
  exact ⟨⟨applyEvent c.entries event, recent⟩, by simp [apply, h, named, haccept], rfl, hids⟩

/-- A message leaves no trace exactly if its uuid is remembered. -/
theorem apply_eq_self_iff [BinaryFormat] {c : Catalog} {m : Message} {event : Event}
    (h : Event.decode m = .ok event) (named : m.uuid ≠ "") : c.apply m = .ok c ↔ m.uuid ∈ c.recent.ids := by
  refine ⟨fun hsame => ?_, apply_of_remembered h named⟩
  cases haccept : c.recent.accept? m.uuid with
  | none => exact (RecentIds.accept?_eq_none_iff c.recent m.uuid).mp haccept
  | some recent =>
    -- a catalog that accepts the uuid remembers it, and here that is the same catalog
    simp only [apply, h, named, haccept, if_false, Except.ok.injEq] at hsame
    have hrecent : recent = c.recent := congrArg Catalog.recent hsame
    exact hrecent ▸ RecentIds.mem_ids_accept haccept

/-- The version that a catalog gives to a symbol it is told about again. -/
def nextVersion (entries : Table Int64 CatalogEntry) (id : Int64) : Nat :=
  (entries.get? id).elim 1 fun entry => entry.version + 1

/-- What a catalog knows after an event about a symbol. -/
theorem get?_applyEvent_ofSymbol (entries : Table Int64 CatalogEntry) (kind : EventKind) (symbol : Symbol)
    (at_ : Time) (id : Int64) :
    (applyEvent entries (Event.ofSymbol kind symbol at_)).get? id =
      if id = symbol.id then
        if kind = .deleted then none else some (symbol.entry (nextVersion entries symbol.id))
      else entries.get? id := by
  have entered : (enter entries ⟨symbol.id, symbol.name, symbol.code, symbol.description, at_⟩).get? id =
      if id = symbol.id then some (symbol.entry (nextVersion entries symbol.id))
      else entries.get? id := by
    rw [enter, Table.get?_insert_eq]
    simp only [nextVersion, Symbol.entry]
    cases entries.get? symbol.id <;> rfl
  cases kind with
  | created => exact entered
  | updated => exact entered
  | deleted => exact Table.get?_erase_eq entries symbol.id id

end Catalog

end SymbolRelay
