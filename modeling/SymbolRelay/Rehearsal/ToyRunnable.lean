import SymbolRelay.Service.Worker

/-!
# A toy to run

Something for a worker to run that does nothing: its run waits until it is closed or cancelled and
then ends as told, and closing it takes a given time.

## Definitions

* `Toy.runnable` — the toy as a worker runs it;
* `Toy.stopMany` — a worker that is stopped over and over.
-/

set_option autoImplicit false

namespace SymbolRelay

/-- How the run and the closing of a toy end, how long closing takes, and whether the run waits. -/
structure ToyPlan where
  run : Outcome RouterError Unit := .ok ()
  close : Outcome RouterError Unit := .ok ()
  closeDelay : Duration := ⟨0⟩
  returnsAtOnce : Bool := false

/-- What happened to a toy. -/
structure Toy where
  runs : Nat := 0
  closes : Nat := 0
  released : Bool := false
  cancelled : Bool := false
  deriving DecidableEq, Repr

namespace Toy

/-- Whether a run has begun and has ended. -/
def runFinished (plan : ToyPlan) (toy : Toy) : Bool :=
  0 < toy.runs && (plan.returnsAtOnce || toy.released || toy.cancelled)

/-- Cancels the context of a toy. -/
def cancel (toy : Toy) : Toy := { toy with cancelled := true }

/-- A toy as a worker runs it. -/
def runnable (plan : ToyPlan) : Runnable Toy where
  begin toy := { toy with runs := toy.runs + 1 }
  close toy := ((plan.closeDelay, plan.close), { toy with closes := toy.closes + 1, released := true })
  join toy := (plan.run, toy)

/-- Stops a worker that runs a toy so many times, and tells how each stop ended. -/
def stopMany (plan : ToyPlan) (timeout : Duration) :
    Nat → Worker × Toy → List (Except WorkerError Unit) × Worker × Toy
  | 0, s => ([], s)
  | n + 1, (worker, toy) =>
    let (o, s) := Worker.stopWithin (runnable plan) timeout worker toy
    let (os, s) := stopMany plan timeout n s
    (o :: os, s)

end Toy

end SymbolRelay
