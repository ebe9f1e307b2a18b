import SymbolRelay.Service.Worker

/-!
# Calls to a worker

Any number of callers start and stop a worker, each at its own pace: a call to stop first forbids every later
start, and is answered some time after. What the worker runs goes on in between.

## Definitions

* `Tenure` — a worker with what it runs, and the calls to stop it;
* `Tenure.move`, `Tenure.play` — what happens next, one after the other.
-/

set_option autoImplicit false

namespace SymbolRelay

variable {σ : Type}

/-- A call to stop within some time, and its answer once it has one. -/
structure StopCall where
  timeout : Duration
  answer : Option (Except WorkerError Unit) := none

/-- A worker with what it runs, and the calls to stop it, the oldest first. -/
structure Tenure (σ : Type) where
  worker : Worker := {}
  state : σ
  stops : List StopCall := []

/-- What happens next to a worker. -/
inductive WorkerMove (σ : Type) where
  /-- Somebody starts it. -/
  | start
  /-- Somebody asks it to stop within some time, which forbids every later start. -/
  | stop (timeout : Duration)
  /-- A call to stop is answered. -/
  | settle (call : Nat)
  /-- What it runs goes on. -/
  | meanwhile (act : σ → σ)

namespace Tenure

/-- The next move. A call that was answered, or never made, is not answered again. -/
def move (r : Runnable σ) (t : Tenure σ) : WorkerMove σ → Tenure σ
  | .start =>
    let (worker, state) := Worker.start r t.worker t.state
    { t with worker, state }
  | .stop timeout => { t with worker := t.worker.forbidStart, stops := t.stops ++ [{ timeout }] }
  | .settle call =>
    match t.stops[call]? with
    | some ⟨timeout, none⟩ =>
      let (outcome, worker, state) := Worker.stopWithin r timeout t.worker t.state
      { worker, state, stops := t.stops.set call ⟨timeout, some outcome⟩ }
    | _ => t
  | .meanwhile act => { t with state := act t.state }

/-- Moves, one after the other. -/
def play (r : Runnable σ) : Tenure σ → List (WorkerMove σ) → Tenure σ := List.foldl (move r)

end Tenure

end SymbolRelay
