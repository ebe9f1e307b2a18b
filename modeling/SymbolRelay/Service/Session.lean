import SymbolRelay.Service.Traffic

/-!
# Calls one after the other

A session is a list of acts: a call of the service, made to its end under a context and in an encoding of its
own, or a disturbance from outside. What came of the writes is kept.

## Definitions

* `Session.perform`, `Session.play` — one act, and one after the other.
-/

set_option autoImplicit false

namespace SymbolRelay

variable {ξ : Type}

/-- What a call may ask for. -/
inductive Ask where
  | write (what : Write)
  | get (id : Int64)
  | list (query : Query)

/-- What may happen next in a session. -/
inductive Act where
  | call (codec : Codec) (ctx : Context) (ask : Ask)
  | disturb (disturbance : Disturbance)

/-- The world, and what came of the writes so far. -/
structure Session (ξ : Type) where
  world : World ξ
  answers : List (Write × Outcome DomainError Symbol) := []

namespace Session

/-- The session after one more act. -/
def perform [BinaryFormat] [IdSource] (validator : Symbol → Except ValidationError Unit) (s : Session ξ) :
    Act → Session ξ
  | .call codec ctx (.write what) =>
    let (outcome, world) := (SymbolService.direct codec validator).write ctx what s.world
    { world, answers := s.answers ++ [(what, outcome)] }
  | .call codec ctx (.get id) =>
    { s with world := ((SymbolService.direct codec validator).get ctx id s.world).2 }
  | .call codec ctx (.list query) =>
    { s with world := ((SymbolService.direct codec validator).list ctx query s.world).2 }
  | .disturb disturbance => { s with world := disturbance.act s.world }

/-- The session after one act after the other. -/
def play [BinaryFormat] [IdSource] (validator : Symbol → Except ValidationError Unit) (start : World ξ)
    (acts : List Act) : Session ξ :=
  acts.foldl (perform validator) { world := start }

end Session

end SymbolRelay
