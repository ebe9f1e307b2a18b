import SymbolRelay.Rehearsal.State
import SymbolRelay.Store.UnitOfWork

/-!
# Scripted units of work

The body of a unit of work as a list of steps. A step that fails ends the body with its error, unless
the step is only tried.

## Definitions

* `UnitScript.perform`, `performAll` — one step of a body, and one after the other;
* `UnitScript.run` — a unit of work with such a body.
-/

set_option autoImplicit false

namespace SymbolRelay

/-- The context of a unit of work that is opened inside another. -/
inductive NestedContext where
  /-- The context of the outer unit itself. -/
  | same
  /-- A child of it. -/
  | child
  /-- A child of the context that the outer unit was opened with. -/
  | outside
  deriving DecidableEq, Repr

/-- What a scripted body does. -/
inductive UnitDeed where
  | create (symbol : Symbol)
  | update (symbol : Symbol)
  | delete (id : Int64)
  | prepare
  /-- Cancels the context that the unit was opened with. -/
  | cancelOutside
  /-- Cancels the context of the unit. -/
  | cancelInside
  | facts
  /-- Opens and ends an empty unit. -/
  | nest (ctx : NestedContext)
  | fail (text : String)
  deriving DecidableEq

/-- A deed, and whether it is only tried. -/
structure UnitStep where
  deed : UnitDeed
  tried : Bool := false
  deriving DecidableEq

namespace UnitScript

/-- The actions of a scripted body. -/
abbrev Body (α : Type) : Type := UnitAction Rehearsal Transaction UnitError α

/-- Something done in the world by the body. -/
def inWorld {α : Type} (a : Action (World Rehearsal) DataError α) : Body α :=
  (UnitOfWork.inWorld a).mapError .data

/-- What is known of the unit. -/
def unitFacts : Body UnitFacts := do
  let u ← UnitOfWork.current
  let child ← UnitOfWork.inWorld (World.onScopes u.ctx.child)
  let cancelled ← UnitOfWork.inWorld (World.isCancelled u.ctx)
  return ⟨u.tx, u.prepared, u.ctx.inTransaction, child.inTransaction, cancelled,
    u.ctx.value? Header.requestId⟩

/-- Opens and ends an empty unit. -/
def nest (t : Transactor Rehearsal Transaction) (outside : Context) (where_ : NestedContext) :
    Body Unit := do
  let u ← UnitOfWork.current
  let ctx ← match where_ with
    | .same => pure u.ctx
    | .child => UnitOfWork.inWorld (World.onScopes u.ctx.child)
    | .outside => UnitOfWork.inWorld (World.onScopes outside.child)
  inWorld (UnitOfWork.run t id ctx (pure ()))

/-- Does one deed. -/
def perform (s : Storage Rehearsal Transaction) (outside : Context) : UnitDeed → Body UnitReply
  | .create symbol => do
    let created ← (UnitOfWork.stage (s.create · symbol)).mapError .data
    return .symbol created
  | .update symbol => do
    let updated ← (UnitOfWork.stage (s.update · symbol)).mapError .data
    return .symbol updated
  | .delete id => do
    (UnitOfWork.stage fun tx => do return ((), ← s.delete tx id)).mapError .data
    return .done
  | .prepare => do
    (UnitOfWork.vote s.toTransactor).mapError .data
    return .done
  | .cancelOutside => do
    UnitOfWork.inWorld (World.cancel outside)
    return .done
  | .cancelInside => do
    UnitOfWork.inWorld (World.cancel (← UnitOfWork.current).ctx)
    return .done
  | .facts => do return .facts (← unitFacts)
  | .nest ctx => do
    nest s.toTransactor outside ctx
    return .done
  | .fail text => Action.fail (.own text)

/-- The symbol that a step created. -/
def created? : UnitStep × UnitReply → Option Symbol
  | (⟨.create _, _⟩, .symbol created) => some created
  | _ => none

/-- Notes how a step ended. -/
def reply (r : UnitReply) : Body Unit :=
  UnitOfWork.inWorld (Action.modify fun w =>
    { w with extra := { w.extra with replies := w.extra.replies ++ [r] } })

/-- Takes the steps of a body, and gives the number of staged writes at its end. -/
def performAll (s : Storage Rehearsal Transaction) (outside : Context) : List UnitStep → Body Nat
  | [] => do return (← UnitOfWork.current).tx.pending
  | step :: rest => do
    match ← Action.attempt (perform s outside step.deed) with
    | .ok r => reply r
    | .error e =>
      reply (.failed e)
      if !step.tried then Action.fail e
    | .panic p => Action.raise p
    performAll s outside rest

/-- The storage of scripted units: the store, perhaps without a vote, whose calls go wrong as the
rehearsal says. -/
def storage (voting : Bool) : Storage Rehearsal Transaction :=
  let s : Storage Rehearsal Transaction := Storage.ofStore.withFaults
  if voting then s else { s with toTransactor := s.toTransactor.withoutVote }

/-- Runs a scripted body in a unit of its own. -/
def run (s : Storage Rehearsal Transaction) (ctx : Context) (steps : List UnitStep) :
    Action (World Rehearsal) UnitError Nat :=
  UnitOfWork.run s.toTransactor .data ctx (performAll s ctx steps)

end UnitScript

end SymbolRelay
