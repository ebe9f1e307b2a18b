import SymbolRelay.Handling.Dispatch
import SymbolRelay.Service.SymbolService

/-!
# Pipelines

A service and a router share a world: the service publishes what the router takes to its handlers. Calls of
the service go step by step, as does the run of the router, and others change the world in between.

## Definitions

* `Pipeline.move`, `Pipeline.play` — what happens next, one after the other.
-/

set_option autoImplicit false

namespace SymbolRelay

variable {ξ τ : Type}

/-- A service and a router over one world. -/
structure Pipeline (ξ τ : Type) where
  service : SymbolService ξ τ
  router : Router ξ

/-- What may happen next. -/
inductive PipelineMove (ξ : Type) where
  /-- A write is asked for. -/
  | call (ctx : Context) (what : Write)
  /-- The next step of the write with a number. -/
  | step (k : Nat)
  | get (ctx : Context) (id : Int64)
  | list (ctx : Context) (query : Query)
  /-- The router is called to run. -/
  | run (ctx : Context)
  /-- The next step of the router's run. -/
  | turn
  | close
  /-- Others change the world. -/
  | others (change : World ξ → World ξ)

/-- What was answered at once. -/
inductive PipelineAnswer where
  | got (outcome : Outcome DomainError Symbol)
  | listed (outcome : Outcome DomainError (List Symbol))
  /-- How the run ended, if it did so before it began. -/
  | begun (outcome : Option (Outcome RouterError Unit))
  | closed (outcome : Outcome RouterError Unit)

/-- The world with the writes that were asked for, the run of the router and the other answers. -/
structure PipelineState (ξ τ : Type) where
  world : World ξ
  calls : List (Context × Call τ) := []
  run : Option (Run ξ) := none
  answers : List PipelineAnswer := []

namespace Pipeline

/-- What there is after a move. -/
def move [BinaryFormat] [RetryLoop] (p : Pipeline ξ τ) (s : PipelineState ξ τ) :
    PipelineMove ξ → PipelineState ξ τ
  | .call ctx what => { s with calls := s.calls ++ [(ctx, p.service.start what)] }
  | .step k =>
    match s.calls[k]? with
    | none => s
    | some (ctx, call) =>
      let (call, world) := p.service.step ctx call s.world
      { s with world, calls := s.calls.set k (ctx, call) }
  | .get ctx id =>
    let (outcome, world) := p.service.get ctx id s.world
    { s with world, answers := s.answers ++ [.got outcome] }
  | .list ctx query =>
    let (outcome, world) := p.service.list ctx query s.world
    { s with world, answers := s.answers ++ [.listed outcome] }
  | .run ctx =>
    let (run, world) := Run.start p.router ctx s.world
    { s with world, run := s.run.or (some run), answers := s.answers ++ [.begun run.outcome?] }
  | .turn =>
    match s.run with
    | none => s
    | some run =>
      let (run, world) := run.step p.router s.world
      { s with world, run := some run }
  | .close =>
    let ((outcome, run), world) := p.router.close s.run s.world
    { s with world, run, answers := s.answers ++ [.closed outcome] }
  | .others change => { s with world := change s.world }

/-- What there is after one move after the other. -/
def play [BinaryFormat] [RetryLoop] (p : Pipeline ξ τ) (s : PipelineState ξ τ)
    (moves : List (PipelineMove ξ)) : PipelineState ξ τ :=
  moves.foldl p.move s

/-- The pipeline with its publishers and its subscriber measured. -/
def metered (recorder : Recorder ξ) (p : Pipeline ξ τ) : Pipeline ξ τ where
  service := p.service.metered recorder
  router := p.router.metered recorder

end Pipeline

end SymbolRelay
