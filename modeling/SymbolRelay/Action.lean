/-!
# Actions

An action runs on a state and ends in one of three ways: with a value, with an error that its caller
is told about, or with a panic that passes through every caller until someone catches it. Whatever the
ending, the state keeps what was done to it.

## Definitions

* `Outcome`, `Action` — the three endings, and what comes to one of them;
* `Action.bind` — one action after the other, up to the first that does not end with a value;
* `Action.attempt` — an action whose ending is looked at.
-/

set_option autoImplicit false

namespace SymbolRelay

/-- What a panic carries. -/
inductive Panic where
  /-- A panic with a reason. -/
  | because (reason : String)
  /-- A panic that carries something else. -/
  | unnamed
  deriving DecidableEq, Repr, Inhabited

/-- The reason of a panic, in words. -/
def Panic.reason : Panic → String
  | .because reason => reason
  | .unnamed => "unknown panic"

/-- How an action ends. -/
inductive Outcome (ε α : Type) where
  | ok (value : α)
  | error (cause : ε)
  | panic (cause : Panic)
  deriving DecidableEq, Repr

namespace Outcome

variable {ε δ α β : Type}

/-- Whether the ending is a good one. -/
def isOk : Outcome ε α → Bool
  | .ok _ => true
  | _ => false

/-- The ending with another value. -/
def map (f : α → β) : Outcome ε α → Outcome ε β
  | .ok a => .ok (f a)
  | .error e => .error e
  | .panic p => .panic p

/-- The ending with another error. -/
def mapError (f : ε → δ) : Outcome ε α → Outcome δ α
  | .ok a => .ok a
  | .error e => .error (f e)
  | .panic p => .panic p

/-- The ending of a computation that cannot panic. -/
def ofExcept : Except ε α → Outcome ε α
  | .ok a => .ok a
  | .error e => .error e

end Outcome

/-- A step that reads and changes a state and may fail or panic. -/
def Action (σ ε α : Type) : Type := σ → Outcome ε α × σ

namespace Action

variable {σ τ ε δ α β : Type}

/-- Ends with a value and changes nothing. -/
def pure (a : α) : Action σ ε α := fun s => (.ok a, s)

/-- Ends with an error. -/
def fail (e : ε) : Action σ ε α := fun s => (.error e, s)

/-- Panics. -/
def raise (p : Panic) : Action σ ε α := fun s => (.panic p, s)

/-- Goes on with the value of the first action, if it has one. -/
def bind (a : Action σ ε α) (f : α → Action σ ε β) : Action σ ε β := fun s =>
  match a s with
  | (.ok v, s) => f v s
  | (.error e, s) => (.error e, s)
  | (.panic p, s) => (.panic p, s)

instance : Monad (Action σ ε) where
  pure := pure
  bind := bind

/-- The state. -/
def get : Action σ ε σ := fun s => (.ok s, s)

/-- Changes the state. -/
def modify (f : σ → σ) : Action σ ε Unit := fun s => (.ok (), f s)

/-- Takes a value out of the state, leaving another state. -/
def update (f : σ → α × σ) : Action σ ε α := fun s =>
  let (a, s) := f s
  (.ok a, s)

/-- Ends as an outcome says. -/
def ofOutcome (o : Outcome ε α) : Action σ ε α := fun s => (o, s)

/-- Ends as a computation says. -/
def ofExcept (x : Except ε α) : Action σ ε α := ofOutcome (.ofExcept x)

/-- Runs an action and catches whatever it ends with. -/
def attempt (a : Action σ ε α) : Action σ δ (Outcome ε α) := fun s =>
  let (o, s) := a s
  (.ok o, s)

/-- Counts beside the state how often the action is run. -/
def counted (a : Action σ ε α) : Action (σ × Nat) ε α := fun (s, made) =>
  let (o, s) := a s
  (o, (s, made + 1))

/-- The action with another error. -/
def mapError (f : ε → δ) (a : Action σ ε α) : Action σ δ α := fun s =>
  let (o, s) := a s
  (o.mapError f, s)

/-- Runs an action on a part of the state. -/
def within (part : σ → τ) (put : τ → σ → σ) (a : Action τ ε α) : Action σ ε α := fun s =>
  let (o, t) := a (part s)
  (o, put t s)

end Action

end SymbolRelay
