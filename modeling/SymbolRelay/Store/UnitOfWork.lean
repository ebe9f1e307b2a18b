import SymbolRelay.Store.Storage

/-!
# Units of work

A unit of work runs a body inside one transaction, under a context that is bound to it. The body may
ask for the vote itself, before anything leaves the process; otherwise the vote is taken once the body
has ended well. A unit that was voted for is committed whatever happens to its context afterwards; one
that was not is rolled back.

```text
enter ─► body ─► vote (unless taken) ─► commit
           │              │
           └── error ─────┴──► rollback
```

## Results

* `enter_of_inTransaction`, `enter_of_cancelled` — when a unit is not even opened;
* `vote_of_prepared` — the vote is taken once.
-/

set_option autoImplicit false

namespace SymbolRelay

/-- An open unit of work. -/
structure UnitOfWork (τ : Type) where
  ctx : Context
  tx : τ
  prepared : Bool := false

/-- What runs inside a unit of work: it sees the world and the unit. -/
abbrev UnitAction (ξ τ ε α : Type) : Type := Action (World ξ × UnitOfWork τ) ε α

namespace UnitOfWork

variable {ξ τ ε α : Type}

/-- Does something in the world from inside a unit. -/
def inWorld (a : Action (World ξ) ε α) : UnitAction ξ τ ε α :=
  a.within (·.1) fun w s => (w, s.2)

/-- The unit. -/
def current : UnitAction ξ τ ε (UnitOfWork τ) := fun s => (.ok s.2, s)

/-- Puts another transaction into the unit. -/
def putTx (tx : τ) : UnitAction ξ τ ε Unit :=
  Action.modify fun s => (s.1, { s.2 with tx })

/-- Stages a write that has a result. -/
def stage (write : τ → Action (World ξ) ε (α × τ)) : UnitAction ξ τ ε α := do
  let u ← current
  let (a, tx) ← inWorld (write u.tx)
  putTx tx
  return a

/-- Opens a unit of work, unless the context is inside one already or is cancelled. -/
def enter (t : Transactor ξ τ) (ctx : Context) : Action (World ξ) DataError (UnitOfWork τ) := do
  if ctx.inTransaction then
    Action.fail (.transactionFailed "unit of work cannot be reentered")
  else if ← World.isCancelled ctx then
    Action.fail (.transactionFailed "context cancelled")
  else
    let ctx ← World.onScopes ctx.bindTransaction
    let tx ← t.begin ctx
    return { ctx, tx }

/-- Asks for the vote on a unit, unless it was taken already. -/
def prepared? (t : Transactor ξ τ) (u : UnitOfWork τ) :
    Action (World ξ) DataError (UnitOfWork τ) := do
  if u.prepared then
    return u
  else if ← World.isCancelled u.ctx then
    Action.fail (.transactionFailed "context cancelled")
  else
    let tx ← t.prepare u.tx
    return { u with tx, prepared := true }

/-- Asks for the vote from inside the unit. -/
def vote (t : Transactor ξ τ) : UnitAction ξ τ DataError Unit := do
  let u ← current
  let u ← inWorld (prepared? t u)
  Action.modify fun s => (s.1, u)

/-- Rolls a unit back and ends with an error, whether or not the rollback went well. -/
def abandon (t : Transactor ξ τ) (u : UnitOfWork τ) (e : ε) : Action (World ξ) ε α := do
  match ← Action.attempt (t.rollback u.tx) with
  | .panic p => Action.raise p
  | _ => Action.fail e

/-- What a failed commit is reported as. -/
def commitError : DataError → DataError
  | .database reason => .database reason
  | e => .database ("commit failed: " ++ e.message)

/-- Ends a unit whose body ended well. -/
def conclude (t : Transactor ξ τ) (lift : DataError → ε) (u : UnitOfWork τ) (value : α) :
    Action (World ξ) ε α := do
  match ← Action.attempt (prepared? t u) with
  | .panic p => Action.raise p
  | .error e => abandon t u (lift e)
  | .ok u =>
    (t.commit u.tx).mapError fun e => lift (commitError e)
    return value

/-- Ends a unit as its body ended. A panic passes by: the transaction is just forgotten. -/
def leave (t : Transactor ξ τ) (lift : DataError → ε) (u : UnitOfWork τ) :
    Outcome ε α → Action (World ξ) ε α
  | .ok value => conclude t lift u value
  | .error e => abandon t u e
  | .panic p => Action.raise p

/-- Runs a body in a unit of its own. -/
def run (t : Transactor ξ τ) (lift : DataError → ε) (ctx : Context) (body : UnitAction ξ τ ε α) :
    Action (World ξ) ε α := do
  let u ← (enter t ctx).mapError lift
  let (outcome, u) ← fun w =>
    let (outcome, w, u) := body (w, u)
    (.ok (outcome, u), w)
  leave t lift u outcome

theorem enter_of_inTransaction (t : Transactor ξ τ) {ctx : Context} (w : World ξ)
    (h : ctx.inTransaction = true) :
    enter t ctx w = (.error (.transactionFailed "unit of work cannot be reentered"), w) := by
  simp [enter, h, Action.fail]

theorem enter_of_cancelled (t : Transactor ξ τ) {ctx : Context} {w : World ξ}
    (h : ctx.inTransaction = false) (hc : ctx.isCancelled w.scopes = true) :
    enter t ctx w = (.error (.transactionFailed "context cancelled"), w) := by
  simp [enter, h, hc, World.isCancelled, bind, Action.bind, Action.fail]

theorem vote_of_prepared (t : Transactor ξ τ) {u : UnitOfWork τ} (w : World ξ)
    (h : u.prepared = true) : prepared? t u w = (.ok u, w) := by
  simp [prepared?, h, pure, Action.pure]

end UnitOfWork

end SymbolRelay
