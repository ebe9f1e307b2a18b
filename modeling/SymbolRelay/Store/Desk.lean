import SymbolRelay.Store.Basic

/-!
# Several transactions over one store

A desk holds a store, the clock it reads, and the transactions that are open, each under a name.
Requests are served one at a time, in any order, so every interleaving of transactions is a list of
requests. In between the store may begin or cease to refuse commits.

## Definitions

* `Desk.serve` — one request of a client; `Desk.run` — one after the other;
* `Desk.take`, `Desk.play` — turns, which are requests or what the store does in between;
* `Desk.orderly` — that nobody stages a write once the vote is in.
-/

set_option autoImplicit false

namespace SymbolRelay

/-- A store with the transactions that are open over it. -/
structure Desk where
  store : Store := {}
  clock : Clock := default
  opened : Table String Transaction := Table.empty
  deriving DecidableEq

/-- What a client of the store asks for, in a transaction of its own or on the whole store. -/
inductive Demand where
  | begin
  | create (symbol : Symbol)
  | update (symbol : Symbol)
  | delete (id : Int64)
  | prepare
  | commit
  | rollback
  deriving DecidableEq

/-- What a client gets. -/
inductive Reply where
  | done
  | opened (tx : Transaction)
  | symbol (symbol : Symbol)
  deriving DecidableEq

/-- Whether a demand stages a write. -/
def Demand.stages : Demand → Bool
  | .create _ | .update _ | .delete _ => true
  | _ => false

/-- What may happen at a desk. -/
inductive Desk.Turn where
  /-- A client is served under the name of its transaction. -/
  | serve (name : String) (demand : Demand)
  /-- From now on the store refuses commits, or no longer. -/
  | refuse (refusing : Bool)
  deriving DecidableEq

/-- Whether a turn opens, commits or rolls back the transaction under a name. -/
def Desk.Turn.ends (name : String) : Desk.Turn → Bool
  | .serve other demand =>
    other == name && (demand = .begin || demand = .commit || demand = .rollback)
  | .refuse _ => false

namespace Desk

/-- A desk over an empty store. -/
def fresh (nextId : Int64) (clock : Clock) : Desk := { store := .withNextId nextId, clock }

/-- The desk with a transaction under a name. -/
def put (d : Desk) (name : String) (tx : Transaction) : Desk :=
  { d with opened := d.opened.insert name tx }

/-- The desk without the transaction under a name. -/
def drop (d : Desk) (name : String) : Desk := { d with opened := d.opened.erase name }

/-- Opens a transaction under a name. -/
def openUnder (d : Desk) (name : String) : Desk × Transaction :=
  let (tx, store) := d.store.begin
  ({ d with store }.put name tx, tx)

/-- Serves a demand in a transaction that is open. A transaction ends with its commit or rollback,
whatever comes of it. -/
def serveIn (d : Desk) (name : String) (tx : Transaction) : Demand → Desk × Except DataError Reply
  | .begin =>
    let (d, tx) := d.openUnder name
    (d, .ok (.opened tx))
  | .create symbol =>
    match d.store.create tx symbol d.clock.now with
    | .error e => (d, .error e)
    | .ok (created, tx, store) =>
      ({ d with store, clock := d.clock.read.2 }.put name tx, .ok (.symbol created))
  | .update symbol =>
    match d.store.update tx symbol d.clock.now with
    | .error e => (d, .error e)
    | .ok (updated, tx) => ({ d with clock := d.clock.read.2 }.put name tx, .ok (.symbol updated))
  | .delete id =>
    match d.store.delete tx id with
    | .error e => (d, .error e)
    | .ok tx => (d.put name tx, .ok .done)
  | .prepare =>
    match d.store.prepare tx with
    | .error e => (d, .error e)
    | .ok (tx, store) => ({ d with store }.put name tx, .ok .done)
  | .commit =>
    match d.store.commit tx with
    | .error e => (d.drop name, .error e)
    | .ok store => ({ d with store }.drop name, .ok .done)
  | .rollback => ({ d with store := d.store.rollback tx }.drop name, .ok .done)

/-- Serves a demand under a name; `none` if no transaction is open there. -/
def serve (d : Desk) (name : String) (demand : Demand) : Desk × Option (Except DataError Reply) :=
  match demand, d.opened.get? name with
  | .begin, _ =>
    let (d, tx) := d.openUnder name
    (d, some (.ok (.opened tx)))
  | demand, some tx =>
    let (d, reply) := d.serveIn name tx demand
    (d, some reply)
  | _, none => (d, none)

/-- Creates symbols in an open transaction, one after the other, up to the first that fails. -/
def createAll : List Symbol → Transaction → Desk → Except DataError (List Symbol × Transaction) × Desk
  | [], tx, d => (.ok ([], tx), d)
  | wanted :: rest, tx, d =>
    match d.store.create tx wanted d.clock.now with
    | .error e => (.error e, d)
    | .ok (created, tx, store) =>
      let (r, d) := createAll rest tx { d with store, clock := d.clock.read.2 }
      (r.map fun (all, tx) => (created :: all, tx), d)

/-- Creates symbols in one transaction and commits it. A transaction that fails on the way is just
forgotten. -/
def fill (wanted : List Symbol) (d : Desk) : Except DataError (List Symbol) × Desk :=
  let (tx, store) := d.store.begin
  match createAll wanted tx { d with store } with
  | (.error e, d) => (.error e, d)
  | (.ok (created, tx), d) =>
    match d.store.commit tx with
    | .error e => (.error e, d)
    | .ok store => (.ok created, { d with store })

/-- Serves demands one after the other. -/
def run (d : Desk) (demands : List (String × Demand)) : Desk :=
  demands.foldl (fun d r => (d.serve r.1 r.2).1) d

/-- The desk after a turn. -/
def take (d : Desk) : Turn → Desk
  | .serve name demand => (d.serve name demand).1
  | .refuse refusing => { d with store := { d.store with refusing } }

/-- The desk after one turn after the other. -/
def play (d : Desk) (turns : List Turn) : Desk := turns.foldl take d

/-- Whether a turn stages no write in a transaction that was voted for. -/
def allows (d : Desk) : Turn → Bool
  | .serve name demand =>
    !demand.stages || (d.opened.get? name).all fun tx => !tx.prepared
  | .refuse _ => true

/-- Whether no transaction stages a write after the vote for it. -/
def orderly (d : Desk) : List Turn → Bool
  | [] => true
  | turn :: turns => d.allows turn && (d.take turn).orderly turns

end Desk

end SymbolRelay
