import SymbolRelay.World

/-!
# Storages

A transactor opens transactions and ends them; a storage also stages writes in them and reads what was
committed. The store is one; others may stand before it and refuse calls of their own accord.

## Results

* `ofStore_find` — reading from the store changes nothing.
-/

set_option autoImplicit false

namespace SymbolRelay

/-- What opens transactions, votes on them and ends them. A refused vote leaves the transaction as it
was. -/
structure Transactor (ξ τ : Type) where
  begin (ctx : Context) : Action (World ξ) DataError τ
  prepare (tx : τ) : Action (World ξ) DataError τ
  commit (tx : τ) : Action (World ξ) DataError Unit
  rollback (tx : τ) : Action (World ξ) DataError Unit

/-- A transactor that votes for everything. -/
def Transactor.withoutVote {ξ τ : Type} (t : Transactor ξ τ) : Transactor ξ τ :=
  { t with prepare := pure }

/-- A transactor whose transactions take writes, and whose committed rows can be read. -/
structure Storage (ξ τ : Type) extends Transactor ξ τ where
  create (tx : τ) (symbol : Symbol) : Action (World ξ) DataError (Symbol × τ)
  update (tx : τ) (symbol : Symbol) : Action (World ξ) DataError (Symbol × τ)
  delete (tx : τ) (id : Int64) : Action (World ξ) DataError τ
  find (ctx : Context) (id : Int64) : Action (World ξ) DataError Symbol
  list (ctx : Context) (query : Query) : Action (World ξ) DataError (List Symbol)

namespace World

variable {ξ ε α : Type}

/-- Goes on with what the store answers. -/
def onStore (f : Store → Except ε (α × Store)) : Action (World ξ) ε α := fun w =>
  match f w.store with
  | .error e => (.error e, w)
  | .ok (a, store) => (.ok a, { w with store })

/-- Goes on with what the store answers at the present time. The clock moves on if a write was
staged. -/
def onStoreNow (f : Store → Time → Except ε (α × Store)) : Action (World ξ) ε α := fun w =>
  match f w.store w.clock.now with
  | .error e => (.error e, w)
  | .ok (a, store) => (.ok a, { w with store, clock := w.clock.read.2 })

end World

/-- The store as a storage. -/
def Storage.ofStore {ξ : Type} : Storage ξ Transaction where
  begin _ := World.onStore fun s => .ok s.begin
  prepare tx := World.onStore fun s => s.prepare tx
  commit tx := World.onStore fun s => (s.commit tx).map ((), ·)
  rollback tx := World.onStore fun s => .ok ((), s.rollback tx)
  create tx symbol := World.onStoreNow fun s now =>
    (s.create tx symbol now).map fun (created, tx, s) => ((created, tx), s)
  update tx symbol := World.onStoreNow fun s now =>
    (s.update tx symbol now).map fun (updated, tx) => ((updated, tx), s)
  delete tx id := World.onStore fun s => (s.delete tx id).map (·, s)
  find _ id := World.onStore fun s => (s.find id).map (·, s)
  list _ query := World.onStore fun s => .ok (s.list query, s)

theorem ofStore_find {ξ : Type} (ctx : Context) (id : Int64) (w : World ξ) :
    Storage.ofStore.find ctx id w = (.ofExcept (w.store.find id), w) := by
  simp only [Storage.ofStore, World.onStore]
  cases w.store.find id <;> rfl

end SymbolRelay
