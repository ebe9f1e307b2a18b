import SymbolRelay.Service.SymbolService

/-!
# Calls under way together

Any number of clients make calls of one service. A move is a new call, the next step of a call, or a
disturbance from outside: a context is cancelled, the queue is told to reject messages or is closed, the
store begins or ceases to refuse commits, time passes. The moves come in any order, and the record of
all steps so far tells who did what.

## Definitions

* `Deed` — a step that was taken, and what it did;
* `Disturbance.act` — what happens from outside;
* `Traffic.move`, `Traffic.run` — one move, and one after the other.
-/

set_option autoImplicit false

namespace SymbolRelay

variable {ξ : Type}

/-- One step of a call: whose, and the world before and after it. -/
structure Deed (ξ : Type) where
  caller : Nat
  before : World ξ
  after : World ξ

namespace Deed

/-- What the step added to the log. -/
def told (d : Deed ξ) : List (String × Message) := d.after.queue.log.drop d.before.queue.log.length

/-- The transactions that the step opened. -/
def opened (d : Deed ξ) : List Nat :=
  List.range' d.before.store.nextTransaction
    (d.after.store.nextTransaction - d.before.store.nextTransaction)

/-- The symbol ids that the step was given. -/
def issued (d : Deed ξ) : List Int64 :=
  if d.after.store.nextId = d.before.store.nextId then [] else [d.before.store.nextId]

/-- Whether the step committed a transaction. -/
def commits (d : Deed ξ) : Bool := d.after.store.committed != d.before.store.committed

end Deed

/-- The transaction that a call has open. -/
def Call.tx? : Call Transaction → Option Transaction
  | .stage _ u | .prepare _ _ u | .publish _ _ u | .leave _ u => some u.tx
  | .lookup _ | .begin _ | .ended _ => none

/-- A client's call. -/
structure Caller where
  ctx : Context
  what : Write
  call : Call Transaction

/-- What may happen from outside. -/
inductive Disturbance where
  | cancel (ctx : Context)
  /-- The queue is to reject so many messages. -/
  | reject (count : Nat)
  | refuse (refusing : Bool)
  | close
  | tick (now : Time)

/-- The world after a disturbance. -/
def Disturbance.act (w : World ξ) : Disturbance → World ξ
  | .cancel ctx => { w with scopes := ctx.cancel w.scopes }
  | .reject count => { w with queue := { w.queue with rejecting := count } }
  | .refuse refusing => { w with store := { w.store with refusing } }
  | .close => { w with queue := w.queue.close }
  | .tick now => { w with clock := ⟨now⟩ }

/-- What may happen next. -/
inductive Move where
  | call (ctx : Context) (what : Write)
  /-- The next step of the call with a number. -/
  | step (k : Nat)
  | disturb (disturbance : Disturbance)

/-- The world with all calls that were made, and what was done step by step. -/
structure Traffic (ξ : Type) where
  world : World ξ
  callers : List Caller := []
  deeds : List (Deed ξ) := []

namespace Traffic

/-- What happened after a move. -/
def move [BinaryFormat] (s : SymbolService ξ Transaction) (t : Traffic ξ) : Move → Traffic ξ
  | .call ctx what => { t with callers := t.callers ++ [⟨ctx, what, s.start what⟩] }
  | .step k =>
    match t.callers[k]? with
    | none => t
    | some c =>
      let (call, world) := s.step c.ctx c.call t.world
      { world, callers := t.callers.set k { c with call }, deeds := t.deeds ++ [⟨k, t.world, world⟩] }
  | .disturb disturbance => { t with world := disturbance.act t.world }

/-- What happened after one move after the other, starting without any call. -/
def run [BinaryFormat] (s : SymbolService ξ Transaction) (start : World ξ) (moves : List Move) : Traffic ξ :=
  moves.foldl (move s) { world := start }

/-- The deeds of one caller. -/
def deedsOf (t : Traffic ξ) (k : Nat) : List (Deed ξ) := t.deeds.filter (·.caller = k)

/-- The transactions that are open, by caller. -/
def tx? (t : Traffic ξ) (k : Nat) : Option Transaction := (t.callers[k]?).bind (·.call.tx?)

/-- What a caller told. -/
def told (t : Traffic ξ) (k : Nat) : List (String × Message) := (t.deedsOf k).flatMap Deed.told

/-- The transactions that a caller opened. -/
def opened (t : Traffic ξ) (k : Nat) : List Nat := (t.deedsOf k).flatMap Deed.opened

/-- The commits of a caller. -/
def commits (t : Traffic ξ) (k : Nat) : List (Deed ξ) := (t.deedsOf k).filter Deed.commits

end Traffic

end SymbolRelay
