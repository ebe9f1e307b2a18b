import SymbolRelay.Request.Context

/-!
# Families of contexts

Contexts are opened, copied, given an id or a value, bound to a unit of work, and have children, in any
order, and any of them is cancelled at any time. A family is all the contexts that came about so, each
known by its place in the order in which they did.

## Definitions

* `Family.Deed` — what can be done with the contexts of a family;
* `Family.step`, `Family.after` — one deed, and one after the other.
-/

set_option autoImplicit false

namespace SymbolRelay

/-- Contexts in the order in which they came about, and the scopes they live in. -/
structure Family where
  scopes : Scopes := {}
  members : List Context := []

namespace Family

/-- Something done with the contexts of a family. It names them by their places. -/
inductive Deed
  | blank
  | given (values : Metadata)
  | received (message : Message)
  | copy (source : Nat)
  | withRequestId (source : Nat) (id : String)
  | withCorrelationId (source : Nat) (id : String)
  | child (source : Nat)
  | bind (source : Nat)
  | set (place : Nat) (key value : String)
  | cancel (place : Nat)
  deriving DecidableEq

/-- The family with one more context. -/
def join (f : Family) (made : Context × Scopes) : Family := ⟨made.2, f.members ++ [made.1]⟩

/-- The family with a context made from one that is there. -/
def derive (f : Family) (source : Nat) (make : Context → Context × Scopes) : Family :=
  match f.members[source]? with
  | some ctx => f.join (make ctx)
  | none => f

/-- The family after a deed. A deed that names a context that is not there does nothing. -/
def step (f : Family) : Deed → Family
  | .blank => f.join (Context.blank f.scopes)
  | .given values => f.join (Context.ofValues values f.scopes)
  | .received message => f.join (Context.ofMessage message f.scopes)
  | .copy source => f.derive source fun ctx => (ctx, f.scopes)
  | .withRequestId source id => f.derive source fun ctx => (ctx.withRequestId id, f.scopes)
  | .withCorrelationId source id => f.derive source fun ctx => (ctx.withCorrelationId id, f.scopes)
  | .child source => f.derive source (·.child f.scopes)
  | .bind source => f.derive source (·.bindTransaction f.scopes)
  | .set place key value => { f with members := f.members.modify place (·.setValue key value) }
  | .cancel place =>
    match f.members[place]? with
    | some ctx => { f with scopes := ctx.cancel f.scopes }
    | none => f

/-- The family that some deeds leave. -/
def after (deeds : List Deed) : Family := deeds.foldl step {}

theorem after_append (deeds more : List Deed) : after (deeds ++ more) = more.foldl step (after deeds) :=
  List.foldl_append ..

@[simp] theorem after_concat (deeds : List Deed) (d : Deed) : after (deeds ++ [d]) = (after deeds).step d :=
  after_append deeds [d]

end Family

end SymbolRelay
