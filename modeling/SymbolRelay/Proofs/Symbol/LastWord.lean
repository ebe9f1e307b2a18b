import SymbolRelay.Proofs.Symbol.Redelivery

/-!
# The last word about a symbol

Of all events about a symbol the last one decides what a catalog tells of it: the name, the code and the
description that this event tells, or nothing if it tells that the symbol was deleted. Only the version
depends on the events before.

## Results

* `lastWord_snoc` — one more event has the last word about its symbol, and about no other;
* `wording_entriesOf` — what a catalog tells after any messages is the last word in them;
* `exists_lastWord` — a symbol that was told of and not removed after that is known.
-/

set_option autoImplicit false

namespace SymbolRelay

/-! ## What is told of a symbol -/

/-- What is told of a symbol besides its id. -/
structure Wording where
  name : String
  code : String
  description : String
  deriving DecidableEq

/-- What the store tells of a symbol. -/
def Symbol.wording (s : Symbol) : Wording := ⟨s.name, s.code, s.description⟩

/-- What a catalog tells of a symbol. -/
def CatalogEntry.wording (entry : CatalogEntry) : Wording := ⟨entry.name, entry.code, entry.description⟩

namespace Event

/-- What is told of a symbol after an event about it. -/
def leaves (e : Event) : Option Wording :=
  if e.kind = .deleted then none else some ⟨e.facts.name, e.facts.code, e.facts.description⟩

theorem leaves_ofSymbol (kind : EventKind) (symbol : Symbol) (at_ : Time) :
    (ofSymbol kind symbol at_).leaves = if kind = .deleted then none else some symbol.wording := by
  cases kind <;> rfl

end Event

/-- The events about a symbol in messages, in order. -/
def eventsAbout [BinaryFormat] (id : Int64) (ms : List Message) : List Event :=
  (ms.filterMap fun m => (Event.decode m).toOption).filter (·.symbolId = id)

/-- What is told of a symbol after messages: what the last event about it leaves, and nothing if there
is none. -/
def lastWord [BinaryFormat] (id : Int64) (ms : List Message) : Option Wording :=
  (eventsAbout id ms).getLast?.bind Event.leaves

/-! ## One more message -/

section Messages

variable {ms : List Message} {m : Message} {event : Event}

theorem eventsAbout_append [BinaryFormat] (id : Int64) (ms more : List Message) :
    eventsAbout id (ms ++ more) = eventsAbout id ms ++ eventsAbout id more := by
  rw [eventsAbout, List.filterMap_append, List.filter_append, eventsAbout, eventsAbout]

theorem eventsAbout_singleton [BinaryFormat] (id : Int64) (h : Event.decode m = .ok event) :
    eventsAbout id [m] = if event.symbolId = id then [event] else [] := by
  rw [eventsAbout, List.filterMap_cons, h]
  show [event].filter _ = _
  rw [List.filter_singleton]
  by_cases hid : event.symbolId = id <;> simp [hid]

/-- One more event has the last word about its symbol, and about no other. -/
theorem lastWord_snoc [BinaryFormat] (id : Int64) (ms : List Message) (h : Event.decode m = .ok event) :
    lastWord id (ms ++ [m]) = if event.symbolId = id then event.leaves else lastWord id ms := by
  rw [lastWord, eventsAbout_append, eventsAbout_singleton id h]
  split
  · rw [List.getLast?_concat]
    rfl
  · rw [List.append_nil, lastWord]

theorem lastWord_snoc_undecodable [BinaryFormat] (id : Int64) (ms : List Message) {e : Event.DecodeError}
    (h : Event.decode m = .error e) : lastWord id (ms ++ [m]) = lastWord id ms := by
  have hnone : eventsAbout id [m] = [] := by
    rw [eventsAbout, List.filterMap_cons, h]
    rfl
  rw [lastWord, eventsAbout_append, hnone, List.append_nil, lastWord]

/-- A symbol that was told of, and not removed after that, is known. -/
theorem exists_lastWord [BinaryFormat] {id : Int64} {after : List Message}
    (decoded : Event.decode m = .ok event) (about : event.symbolId = id) (told : event.kind ≠ .deleted)
    (kept : ∀ m' ∈ after, ∀ event', Event.decode m' = .ok event' → event'.symbolId = id →
      event'.kind ≠ .deleted) : lastWord id (ms ++ m :: after) ≠ none := by
  induction after using List.reverseRecOn with
  | nil =>
    rw [lastWord_snoc id ms decoded, if_pos about, Event.leaves, if_neg told]
    exact nofun
  | append_singleton after m' ih =>
    have hbefore := ih fun x hx => kept x (List.mem_append_left _ hx)
    rw [← List.cons_append, ← List.append_assoc]
    cases hdecode : Event.decode m' with
    | error e =>
      rw [lastWord_snoc_undecodable id _ hdecode]
      exact hbefore
    | ok event' =>
      rw [lastWord_snoc id _ hdecode]
      split
      · rename_i hid
        have hkept := kept m' (List.mem_append_right _ List.mem_cons_self) event' hdecode hid
        rw [Event.leaves, if_neg hkept]
        exact nofun
      · exact hbefore

end Messages

/-! ## What a catalog tells -/

namespace Catalog

theorem wording_applyEvent (entries : Table Int64 CatalogEntry) (event : Event) (id : Int64) :
    ((applyEvent entries event).get? id).map CatalogEntry.wording =
      if event.symbolId = id then event.leaves else (entries.get? id).map CatalogEntry.wording := by
  have entered : ∀ facts : EventFacts, ((enter entries facts).get? id).map CatalogEntry.wording =
      if facts.id = id then some ⟨facts.name, facts.code, facts.description⟩
      else (entries.get? id).map CatalogEntry.wording := by
    intro facts
    rw [enter, Table.get?_insert_eq]
    by_cases hid : facts.id = id
    · rw [if_pos hid, if_pos hid.symm]
      rfl
    · rw [if_neg hid, if_neg (Ne.symm hid)]
  cases event with
  | created facts => exact entered facts
  | updated facts => exact entered facts
  | deleted gone name code at_ =>
    rw [applyEvent, Table.get?_erase_eq]
    by_cases hid : gone = id
    · rw [if_pos hid.symm]
      exact (if_pos hid).symm
    · rw [if_neg (Ne.symm hid)]
      exact (if_neg hid).symm

/-- **What a catalog tells of a symbol is the last word about it** in the messages that were applied. -/
theorem wording_entriesOf [BinaryFormat] (ms : List Message) (id : Int64) :
    ((entriesOf ms).get? id).map CatalogEntry.wording = lastWord id ms := by
  induction ms using List.reverseRecOn with
  | nil => rfl
  | append_singleton ms m ih =>
    cases hdecode : Event.decode m with
    | error e =>
      have hsame : entriesOf (ms ++ [m]) = entriesOf ms := by
        rw [entriesOf, List.foldl_append, ← entriesOf]
        show (Event.decode m).toOption.elim _ _ = _
        rw [hdecode]
        rfl
      rw [hsame, ih, lastWord_snoc_undecodable id ms hdecode]
    | ok event =>
      rw [entriesOf_snoc ms hdecode, wording_applyEvent, lastWord_snoc id ms hdecode, ih]

end Catalog

end SymbolRelay
