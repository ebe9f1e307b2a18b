import SymbolRelay.Handling.Course

/-!
# The life of a router

A router is called to run, any number of times, by anybody; only the first of these calls does anything.
It is asked to close, any number of times; each of these calls asks for it, wakes the run, looks whether
there was a run, waits for its end if there was, and closes the subscriber. Meanwhile others do what they
like. A life is a list of moves: which of these acts comes next.

## Definitions

* `Lifecycle` — the run of a router and the calls to close it, in their world;
* `Lifecycle.move`, `Lifecycle.play` — one move, and one after the other;
* `Lifecycle.states`, `phases`, `outcome?` — what is seen of a life.
-/

set_option autoImplicit false

namespace SymbolRelay

variable {ξ : Type}

/-- How far a call to close a router has come. -/
inductive ClosePoint where
  /-- It is the first to ask for it. The run is woken next. -/
  | ringing
  /-- It is seen next whether there was a run. -/
  | looking
  /-- There was one, and its end is waited for. -/
  | waiting
  /-- The subscriber is closed next. -/
  | shutting
  | returned (outcome : Outcome RouterError Unit)

/-- A router in its world: the run, if one was begun, with the context of the call that began it, the calls
to close it, whether the run was woken and whether those who wait for its end were released. What the calls
to run that found it begun were answered, the feeds that the run opened, the messages it took and those it
settled are remembered. -/
structure Lifecycle (ξ : Type) where
  world : World ξ
  caller : Option Context := none
  course : Option (Course ξ) := none
  rung : Bool := false
  released : Bool := false
  closers : List ClosePoint := []
  answers : List (Outcome RouterError Unit) := []
  opened : List Nat := []
  taken : List (String × Message) := []
  settled : List Settlement := []

namespace Lifecycle

/-- What can happen next in the life of a router. -/
inductive Move (ξ : Type) where
  /-- It is called to run. -/
  | run (ctx : Context)
  /-- Its run takes the next act. -/
  | advance
  /-- It is called to close. -/
  | close
  /-- One of the calls to close takes its next act. -/
  | closer (k : Nat)
  /-- Others act. -/
  | meanwhile (world : World ξ)

/-- A call to run. Only the first one begins a run. -/
def run (ctx : Context) (l : Lifecycle ξ) : Lifecycle ξ :=
  if l.world.control.started then { l with answers := l.answers ++ [.ok ()] }
  else
    { l with
      world := { l.world with control := { l.world.control with started := true } }
      caller := some ctx
      course := some ⟨ctx, .admitted⟩ }

/-- The next act of the run. -/
def advance [RetryLoop] (r : Router ξ) (l : Lifecycle ξ) : Lifecycle ξ :=
  match l.course with
  | none => l
  | some c =>
    { l with
      world := (c.step r l.rung l.world).2
      course := some (c.step r l.rung l.world).1
      released := l.released || c.releases
      opened := l.opened ++ (c.opens? r l.world).toList
      taken := l.taken ++ (c.takes? l.world).toList
      settled := l.settled ++ (c.settles? l.world (c.step r l.rung l.world).2).toList }

/-- A call to close. -/
def close (l : Lifecycle ξ) : Lifecycle ξ :=
  { l with
    world := Router.askToClose l.world
    closers := l.closers ++ [if l.world.control.closing then .looking else .ringing] }

/-- The next act of a call to close. -/
def closeOn (r : Router ξ) (k : Nat) (l : Lifecycle ξ) : Lifecycle ξ :=
  match l.closers[k]? with
  | some .ringing => { l with rung := true, closers := l.closers.set k .looking }
  | some .looking =>
    { l with closers := l.closers.set k (if l.world.control.started then .waiting else .shutting) }
  | some .waiting => { l with closers := l.closers.set k (if l.released then .shutting else .waiting) }
  | some .shutting =>
    { l with
      world := (r.subscriber.close l.world).2
      closers := l.closers.set k (.returned ((r.subscriber.close l.world).1.mapError .close)) }
  | some (.returned _) => l
  | none => l

/-- The next move. -/
def move [RetryLoop] (r : Router ξ) (l : Lifecycle ξ) : Move ξ → Lifecycle ξ
  | .run ctx => l.run ctx
  | .advance => l.advance r
  | .close => l.close
  | .closer k => l.closeOn r k
  | .meanwhile world => { l with world }

/-- One move after the other. -/
def play [RetryLoop] (r : Router ξ) (l : Lifecycle ξ) (moves : List (Move ξ)) : Lifecycle ξ :=
  moves.foldl (move r) l

/-- How many of the moves are acts of the run. -/
def acts : List (Move ξ) → Nat
  | [] => 0
  | .advance :: moves => acts moves + 1
  | _ :: moves => acts moves

/-- What a life goes through. -/
def states [RetryLoop] (r : Router ξ) : Lifecycle ξ → List (Move ξ) → List (Lifecycle ξ)
  | l, [] => [l]
  | l, move :: moves => l :: states r (l.move r move) moves

/-- What a router is seen to be doing along a life. -/
def phases [RetryLoop] (r : Router ξ) (l : Lifecycle ξ) (moves : List (Move ξ)) : List Phase :=
  (states r l moves).map (·.world.control.phase)

/-- What the run ended with, once it has returned. -/
def outcome? (l : Lifecycle ξ) : Option (Outcome RouterError Unit) := l.course.bind Course.outcome?

/-- The routes that the run holds. -/
def routes (l : Lifecycle ξ) : List (Route ξ) := (l.course.map (·.stage.routes)).getD []

/-- The next move of who is to run the router. -/
def runner (ctx : Context) (l : Lifecycle ξ) : Move ξ :=
  match l.course with
  | none => .run ctx
  | some _ => .advance

end Lifecycle

end SymbolRelay
