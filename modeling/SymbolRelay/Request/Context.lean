import SymbolRelay.Message

/-!
# Request contexts

A context carries what belongs to one request: named values, the scope in which the request can be
cancelled, and whether it runs inside a unit of work. A copy of a context stays in its scope; a child
gets a scope of its own inside it. Cancelling a scope cancels everything inside.

## Results

* `isCancelled_cancel` — after a cancellation exactly the contexts inside that scope are cancelled as
  well;
* `isCancelled_child` — a fresh child is cancelled exactly when its parent is.
-/

set_option autoImplicit false

namespace SymbolRelay

/-- The scopes handed out so far, and those that were cancelled. -/
structure Scopes where
  next : Nat := 0
  cancelled : List Nat := []
  deriving DecidableEq, Inhabited

/-- What belongs to one request. `scope` is where it can be cancelled, `outer` the scopes around it. -/
structure Context where
  values : Metadata := Table.empty
  scope : Nat
  outer : List Nat := []
  inTransaction : Bool := false
  deriving DecidableEq

namespace Context

/-- A context with these values, in a scope of its own. -/
def ofValues (values : Metadata) (scopes : Scopes) : Context × Scopes :=
  (⟨values, scopes.next, [], false⟩, { scopes with next := scopes.next + 1 })

/-- A context that carries the metadata of a message. -/
def ofMessage (message : Message) (scopes : Scopes) : Context × Scopes :=
  ofValues message.metadata scopes

/-- A context without values. -/
def blank (scopes : Scopes) : Context × Scopes := ofValues Table.empty scopes

/-- The value under a name, if it is not empty. -/
def value? (ctx : Context) (key : String) : Option String := ctx.values.value? key

/-- The context with a value. -/
def setValue (ctx : Context) (key value : String) : Context :=
  { ctx with values := ctx.values.insert key value }

/-- The context with the id of the request it belongs to. -/
def withRequestId (ctx : Context) (id : String) : Context := ctx.setValue Header.requestId id

/-- The context with the id of the conversation it belongs to. -/
def withCorrelationId (ctx : Context) (id : String) : Context := ctx.setValue Header.correlationId id

/-- A context with the same values, in a scope inside this one. -/
def child (ctx : Context) (scopes : Scopes) : Context × Scopes :=
  ({ ctx with scope := scopes.next, outer := ctx.scope :: ctx.outer },
    { scopes with next := scopes.next + 1 })

/-- A child that runs inside a unit of work. -/
def bindTransaction (ctx : Context) (scopes : Scopes) : Context × Scopes :=
  let (bound, scopes) := ctx.child scopes
  ({ bound with inTransaction := true }, scopes)

/-- Cancels the scope of a context. -/
def cancel (ctx : Context) (scopes : Scopes) : Scopes :=
  { scopes with cancelled := ctx.scope :: scopes.cancelled }

/-- Whether the scope of a context or one around it was cancelled. -/
def isCancelled (ctx : Context) (scopes : Scopes) : Bool :=
  (ctx.scope :: ctx.outer).any scopes.cancelled.contains

theorem isCancelled_cancel (ctx other : Context) (scopes : Scopes) :
    other.isCancelled (ctx.cancel scopes) =
      (other.isCancelled scopes || (other.scope :: other.outer).contains ctx.scope) := by
  have h : ∀ l : List Nat, l.any (ctx.cancel scopes).cancelled.contains =
      (l.any scopes.cancelled.contains || l.contains ctx.scope) := by
    intro l
    induction l with
    | nil => rfl
    | cons a l ih =>
      simp only [cancel] at ih
      simp only [cancel, List.any_cons, List.contains_cons, ih]
      rw [show (a == ctx.scope) = (ctx.scope == a) from BEq.comm]
      cases ctx.scope == a <;> cases scopes.cancelled.contains a <;>
        cases l.any scopes.cancelled.contains <;> cases l.contains ctx.scope <;> rfl
  exact h _

theorem isCancelled_child (ctx : Context) (scopes : Scopes)
    (fresh : scopes.next ∉ scopes.cancelled) :
    (ctx.child scopes).1.isCancelled (ctx.child scopes).2 = ctx.isCancelled scopes := by
  simp [child, isCancelled, fresh]

end Context

end SymbolRelay
