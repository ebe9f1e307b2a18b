import SymbolRelay.Handling.Lifecycle
import SymbolRelay.Service.Worker

/-!
# A worker around a router

Who starts a worker and then stops it shares the router with two threads: one runs it, and one, which is there
once stopping was asked for, closes it. Each of the three takes its acts when it has its turn, others act in
between, and nothing says whose turn is next.

```text
caller   start ─► stop ─────────► report of the closer? ─► end of the run? ─► outcome
runner     └─► run ─► look: closing? ─► … ─────────────────────┘
closer              └─► ask to close ─► ring ─► run begun? ─► end of the run? ─► close ─► report
```

## Definitions

* `Attendance` — a router with the one who attends to it;
* `Attendance.turn`, `Attendance.play` — one turn, and one after the other.
-/

set_option autoImplicit false

namespace SymbolRelay

variable {ξ : Type}

/-- How far the one has come who starts a worker and stops it. -/
inductive StopPoint where
  /-- The worker is started next. -/
  | idle
  /-- There is a thread that runs the router. Stopping is asked for next. -/
  | started
  /-- There is a thread that closes the router. Its report is awaited. -/
  | closing
  /-- It has reported. The end of the run is awaited. -/
  | joining (closed : Outcome RouterError Unit)
  | stopped (outcome : Except WorkerError Unit)

/-- A router with the one who starts and stops a worker around it. -/
structure Attendance (ξ : Type) where
  router : Lifecycle ξ
  point : StopPoint := .idle

/-- Whose turn it is. -/
inductive StopTurn (ξ : Type) where
  | caller
  | runner
  | closer
  /-- Others act. -/
  | meanwhile (world : World ξ)

/-- How much time a stop grants, and how much of it closing takes. -/
structure Deadline where
  timeout : Duration
  took : Duration
  met : took.nanos < timeout.nanos

namespace Attendance

/-- What the thread that closes the router has reported. -/
def report? (a : Attendance ξ) : Option (Outcome RouterError Unit) :=
  match a.router.closers with
  | ClosePoint.returned outcome :: _ => some outcome
  | _ => none

/-- What becomes of a stop for which closing ended in time. -/
def verdict (d : Deadline) (closed ran : Outcome RouterError Unit) : Except WorkerError Unit :=
  match Worker.closeResult d.timeout d.took closed with
  | .ok () => Worker.runResult ran
  | .error e => .error e

/-- The next act of the caller. -/
def callerOn (d : Deadline) (a : Attendance ξ) : StopPoint :=
  match a.point with
  | .idle => .started
  | .started => .closing
  | .closing => (a.report?.map .joining).getD .closing
  | .joining closed =>
    (a.router.outcome?.map fun ran => .stopped (verdict d closed ran)).getD (.joining closed)
  | .stopped outcome => .stopped outcome

/-- What the one whose turn it is does to the router, unless that is the caller, or a thread that is not there
yet. -/
def move? (ctx : Context) (a : Attendance ξ) : StopTurn ξ → Option (Lifecycle.Move ξ)
  | .caller => none
  | .runner =>
    match a.point with
    | .idle => none
    | _ => some (a.router.runner ctx)
  | .closer =>
    match a.point with
    | .idle | .started => none
    | _ => some (if a.router.closers.isEmpty then .close else .closer 0)
  | .meanwhile world => some (.meanwhile world)

/-- The next turn. -/
def turn [RetryLoop] (r : Router ξ) (ctx : Context) (d : Deadline) (a : Attendance ξ) :
    StopTurn ξ → Attendance ξ
  | .caller => { a with point := a.callerOn d }
  | t => { a with router := ((a.move? ctx t).map (a.router.move r)).getD a.router }

/-- Turns, one after the other. -/
def play [RetryLoop] (r : Router ξ) (ctx : Context) (d : Deadline) :
    Attendance ξ → List (StopTurn ξ) → Attendance ξ :=
  List.foldl (turn r ctx d)

end Attendance

end SymbolRelay
