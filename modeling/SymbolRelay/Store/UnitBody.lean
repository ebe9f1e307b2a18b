import SymbolRelay.Store.UnitOfWork

/-!
# Bodies of units of work

What may run inside a unit of work, as a program: it makes changes to the world and to the transaction,
asks for the vote as often as it likes and sees how that went, and comes to a result. A change is a
write, a cancellation or anything else that the body may do; which changes it may make is a parameter.

## Definitions

* `UnitChange`, `UnitBody` — what a body does, one thing after the other;
* `UnitBody.perform` — the body as it runs in a unit.
-/

set_option autoImplicit false

namespace SymbolRelay

variable {ξ τ ε α ρ : Type}

/-- A change to the world, and to the transaction of the unit in which it is made. -/
abbrev UnitChange (ξ τ : Type) : Type := World ξ × UnitOfWork τ → World ξ × τ

/-- World and unit after a change: nothing of the unit but its transaction is another one. -/
def UnitChange.apply (change : UnitChange ξ τ) (s : World ξ × UnitOfWork τ) :
    World ξ × UnitOfWork τ :=
  ((change s).1, { s.2 with tx := (change s).2 })

/-- The change that stages a write, if it can be staged. -/
def UnitChange.ofWrite (write : τ → Action (World ξ) DataError (α × τ)) : UnitChange ξ τ := fun s =>
  match write s.2.tx s.1 with
  | (.ok (_, tx), w) => (w, tx)
  | (_, w) => (w, s.2.tx)

/-- The body of a unit of work, which makes only changes that are allowed. What it does after a change
depends on all that it saw before. -/
inductive UnitBody (allowed : UnitChange ξ τ → Prop) (ρ : Type) : Type where
  | act (change : UnitChange ξ τ) (h : allowed change)
      (next : World ξ × UnitOfWork τ → UnitBody allowed ρ)
  /-- The vote is asked for; what it was answered does not have to matter. -/
  | vote (next : Except DataError Unit → UnitBody allowed ρ)
  | done (result : ρ)

namespace UnitBody

variable {allowed : UnitChange ξ τ → Prop}

/-- What a body does; `finish` is what becomes of its result. -/
def perform (t : Transactor ξ τ) (finish : ρ → UnitAction ξ τ ε α) :
    UnitBody allowed ρ → UnitAction ξ τ ε α
  | .act change _ next => fun s => (next s).perform t finish (change.apply s)
  | .vote next => fun s =>
    match UnitOfWork.vote t s with
    | (.ok (), s) => (next (.ok ())).perform t finish s
    | (.error e, s) => (next (.error e)).perform t finish s
    | (.panic p, s) => (.panic p, s)
  | .done result => finish result

end UnitBody

end SymbolRelay
