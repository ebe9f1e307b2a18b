import SymbolRelay.Action
import SymbolRelay.Delivery.Queue
import SymbolRelay.Request.Context
import SymbolRelay.Request.Ids
import SymbolRelay.Store.Basic

/-!
# The world of a service

Everything that the parts of one service share: the scopes of its contexts, its supply of ids, its
clock, the store, the queue, and what the router shows of itself. Actions of the service run on such a
world; `extra` is whatever handlers and callers keep besides.

## Definitions

* `World` — everything that is shared;
* `World.onQueue`, `onScopes`, `onExtra` — actions on one of its parts.
-/

set_option autoImplicit false

namespace SymbolRelay

/-- What the router has counted. -/
structure Stats where
  handled : Nat := 0
  failed : Nat := 0
  panics : Nat := 0
  deriving DecidableEq, Repr, Inhabited

/-- What is told before a handler is tried again. -/
structure RetryNotice where
  messageId : String
  /-- How many attempts there were, from 1 on. -/
  attempt : Nat
  maxRetries : Nat
  delayMillis : Nat
  error : String
  deriving DecidableEq, Repr

/-- What a router is doing. -/
inductive Phase where
  | stopped
  | running
  | draining
  deriving DecidableEq, Repr, Inhabited

/-- What a router shows of itself. -/
structure Control where
  /-- A run was begun; there is only one. -/
  started : Bool := false
  /-- Closing was asked for. -/
  closing : Bool := false
  phase : Phase := .stopped
  deriving DecidableEq, Repr, Inhabited

/-- Everything that the parts of a service share. -/
structure World (ξ : Type) where
  scopes : Scopes := {}
  ids : Ids := {}
  clock : Clock := default
  store : Store := {}
  queue : Queue := {}
  subscriberClosed : Bool := false
  stats : Stats := {}
  notices : List RetryNotice := []
  control : Control := {}
  extra : ξ

namespace World

variable {ξ ε α : Type}

/-- Runs an action on the extra part. -/
def onExtra (a : Action ξ ε α) : Action (World ξ) ε α :=
  a.within (·.extra) fun extra w => { w with extra }

/-- Takes a value out of the queue. -/
def onQueue (f : Queue → Except ε α × Queue) : Action (World ξ) ε α := fun w =>
  let (r, queue) := f w.queue
  (.ofExcept r, { w with queue })

/-- Changes the queue. -/
def modifyQueue (f : Queue → Queue) : Action (World ξ) ε Unit :=
  .modify fun w => { w with queue := f w.queue }

/-- Makes a context or anything else that needs a scope. -/
def onScopes (f : Scopes → α × Scopes) : Action (World ξ) ε α := fun w =>
  let (a, scopes) := f w.scopes
  (.ok a, { w with scopes })

/-- Whether a context is cancelled. -/
def isCancelled (ctx : Context) : Action (World ξ) ε Bool := fun w =>
  (.ok (ctx.isCancelled w.scopes), w)

/-- Makes a context with these values, perhaps one that is cancelled at once. -/
def openContext (values : Metadata) (cancelled : Bool) : Action (World ξ) ε Context :=
  onScopes fun scopes =>
    let (ctx, scopes) := Context.ofValues values scopes
    (ctx, if cancelled then ctx.cancel scopes else scopes)

/-- Cancels a context. -/
def cancel (ctx : Context) : Action (World ξ) ε Unit :=
  .modify fun w => { w with scopes := ctx.cancel w.scopes }

/-- Counts a panic. -/
def countPanic (w : World ξ) : World ξ :=
  { w with stats := { w.stats with panics := w.stats.panics + 1 } }

theorem onExtra_snd (a : Action ξ ε α) (w : World ξ) :
    (onExtra a w).2 = { w with extra := (a w.extra).2 } := rfl

end World

end SymbolRelay
