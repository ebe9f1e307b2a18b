import SymbolRelay.Handling.Dispatch

/-!
# Workers

A worker lets something run on its own and stops it within a bounded time. Starting and stopping may
be asked for more than once and in any order: there is one run at most, none once stopping was asked
for, and one outcome of stopping, which everybody gets who asks.

## Results

* `stopWithin_outcome` — a stop gives the outcome that is kept, whatever its own time limit;
* `stopWithin_of_outcome` — and leaves everything as it is if there was one already.
-/

set_option autoImplicit false

namespace SymbolRelay

/-- How long a worker waits for closing unless told otherwise. -/
def defaultStopTimeout : Duration := .ofSecs 15

/-- Something that runs on its own until it is closed: `begin` lets the run begin, `close` makes it
end and tells how long that took, `join` tells how the run ended. -/
structure Runnable (σ : Type) where
  begin : σ → σ
  close : σ → (Duration × Outcome RouterError Unit) × σ
  join : σ → Outcome RouterError Unit × σ

/-- Why a worker did not stop well. -/
inductive WorkerError where
  | stopTimeout (timeout : Duration)
  | close (cause : RouterError)
  | run (cause : RouterError)
  | panicked
  deriving DecidableEq, Repr

/-- The text of the error. -/
def WorkerError.message : WorkerError → String
  | .stopTimeout timeout => "router did not close within " ++ timeout.text
  | .close _ => "router close failed"
  | .run _ => "router run failed"
  | .panicked => "router thread panicked"

/-- What a worker remembers: whether it was started, whether there is a run, whether stopping was
asked for, and the outcome of stopping. -/
structure Worker where
  started : Bool := false
  running : Bool := false
  stopping : Bool := false
  outcome : Option (Except WorkerError Unit) := none

namespace Worker

variable {σ : Type}

/-- Lets the run begin, unless the worker was started before or stopping was asked for. -/
def start (r : Runnable σ) (worker : Worker) (s : σ) : Worker × σ :=
  if worker.started then (worker, s)
  else if worker.stopping then ({ worker with started := true }, s)
  else ({ worker with started := true, running := true }, r.begin s)

/-- What closing in a bounded time amounts to. -/
def closeResult (timeout took : Duration) : Outcome RouterError Unit → Except WorkerError Unit
  | outcome =>
    if timeout.nanos ≤ took.nanos then .error (.stopTimeout timeout)
    else
      match outcome with
      | .ok () => .ok ()
      | .error e => .error (.close e)
      | .panic _ => .error .panicked

/-- What the end of a run amounts to. -/
def runResult : Outcome RouterError Unit → Except WorkerError Unit
  | .ok () => .ok ()
  | .error e => .error (.run e)
  | .panic _ => .error .panicked

/-- Waits for the run to end, if there is one. -/
def joinRun (r : Runnable σ) (running : Bool) (s : σ) : Except WorkerError Unit × σ :=
  if running then
    let (ended, s) := r.join s
    (runResult ended, s)
  else (.ok (), s)

/-- The one shutdown: closes, waits for the run, and keeps what comes of it. A failure to close counts
for more than one of the run. -/
def shutdown (r : Runnable σ) (timeout : Duration) (worker : Worker) (s : σ) : Worker × σ :=
  let ((took, closed), s) := r.close s
  let (ran, s) := joinRun r worker.running s
  let outcome := match closeResult timeout took closed with
    | .ok () => ran
    | .error e => .error e
  ({ worker with running := false, outcome := some outcome }, s)

/-- Forbids every later start. -/
def forbidStart (worker : Worker) : Worker := { worker with stopping := true }

/-- Stops, and gives the outcome of the first stop. -/
def stopWithin (r : Runnable σ) (timeout : Duration) (worker : Worker) (s : σ) :
    Except WorkerError Unit × Worker × σ :=
  let worker := worker.forbidStart
  match worker.outcome with
  | some outcome => (outcome, worker, s)
  | none =>
    let (worker, s) := shutdown r timeout worker s
    (worker.outcome.getD (.ok ()), worker, s)

theorem stopWithin_outcome (r : Runnable σ) (timeout : Duration) (worker : Worker) (s : σ) :
    (stopWithin r timeout worker s).2.1.outcome = some (stopWithin r timeout worker s).1 := by
  cases h : worker.outcome with
  | some outcome => simp [stopWithin, forbidStart, h]
  | none => simp [stopWithin, forbidStart, h, shutdown]

theorem stopWithin_of_outcome (r : Runnable σ) (timeout : Duration) {worker : Worker} (s : σ)
    {outcome : Except WorkerError Unit} (h : worker.outcome = some outcome) :
    stopWithin r timeout worker s = (outcome, worker.forbidStart, s) := by
  simp [stopWithin, forbidStart, h]

end Worker

/-! ## A router as something to run -/

/-- A world with the run of its router, if it was begun. -/
structure RouterHost (ξ : Type) where
  world : World ξ
  run : Option (Run ξ) := none

/-- A router under a context, as a worker runs it. Closing it takes no time to speak of. -/
def Runnable.ofRouter [RetryLoop] {ξ : Type} (r : Router ξ) (ctx : Context) : Runnable (RouterHost ξ) where
  begin host :=
    let (run, world) := Run.start r ctx host.world
    { world, run := some run }
  close host :=
    let ((outcome, run), world) := r.close host.run host.world
    ((⟨0⟩, outcome), { world, run })
  join host :=
    match host.run with
    | none => (.ok (), host)
    | some run =>
      let (run, world) := run.advance r Router.stepsToClose host.world
      ((run.outcome?).getD (.ok ()), { world, run := some run })

/-- Lets the run of a router go on until it rests, but for no more than so many steps. -/
def RouterHost.settle {ξ : Type} (r : Router ξ) (fuel : Nat) (host : RouterHost ξ) : RouterHost ξ :=
  match host.run with
  | none => host
  | some run =>
    let (run, world) := run.settle r fuel host.world
    { world, run := some run }

end SymbolRelay
