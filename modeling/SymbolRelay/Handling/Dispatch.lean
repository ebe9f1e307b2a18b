import SymbolRelay.Handling.Router

/-!
# Running a router

A run subscribes to every registered topic and then goes round and round: each route gets one message
processed in a round, in the order of the registrations. A round in which nothing came is followed by
a rest. The run ends when the router is asked to close, when its context is cancelled, or when every
subscription has ended. It proceeds in small steps, so that others may publish in between.

## Definitions

* `Run.start` — a run begins, unless there was one or the router is closed;
* `Run.step`, `Run.advance` — one step, and so many of them;
* `Router.close` — asks a run to end, waits for that, and closes the subscriber.
-/

set_option autoImplicit false

namespace SymbolRelay

/-- Where a run stands. -/
inductive RunPoint (ξ : Type) where
  /-- A round may begin. -/
  | top (routes : List (Route ξ))
  /-- In a round: routes that had their turn, with whether they were found ended, and those to come;
  `idle` while nothing was received. -/
  | round (passed : List (Route ξ × Bool)) (ahead : List (Route ξ)) (idle : Bool)
  /-- Nothing came in the last round. -/
  | resting (routes : List (Route ξ))
  /-- The subscriptions are given back next. -/
  | leaving (result : Except RouterError Unit) (routes : List (Route ξ))
  | ended (outcome : Outcome RouterError Unit)

/-- A run: the context it watches, and where it stands. -/
structure Run (ξ : Type) where
  ctx : Context
  point : RunPoint ξ

namespace Run

variable {ξ : Type}

/-- The outcome of a run that is over. -/
def outcome? (run : Run ξ) : Option (Outcome RouterError Unit) :=
  match run.point with
  | .ended outcome => some outcome
  | _ => none

/-- Whether nothing will happen in a run unless something else happens first. -/
def isQuiet (run : Run ξ) : Bool :=
  match run.point with
  | .resting _ | .ended _ => true
  | _ => false

/-- Sets what the router is seen to be doing. -/
def setPhase (phase : Phase) (w : World ξ) : World ξ :=
  { w with control := { w.control with phase } }

/-- Gives subscriptions back, all of them even if one panics; the first panic counts. -/
def giveBack : List (Route ξ) → World ξ → Option Panic × World ξ
  | [], w => (none, w)
  | route :: rest, w =>
    let (released, w) := route.subscription.discard (ε := Empty) w
    let (later, w) := giveBack rest w
    match released with
    | .panic p => (some p, w)
    | _ => (later, w)

/-- The end of a run. -/
def endWith (outcome : Outcome RouterError Unit) (panic : Option Panic) (w : World ξ) :
    RunPoint ξ × World ξ :=
  (.ended (match panic with
    | some p => .panic p
    | none => outcome), setPhase .stopped w)

/-! ## Beginning -/

/-- Subscribes to the topics of registrations, up to the first that fails. -/
def openRoutes [RetryLoop] (r : Router ξ) (ctx : Context) :
    List (Registration ξ) → List (Route ξ) → World ξ →
      (Outcome RouterError Unit × List (Route ξ)) × World ξ
  | [], opened, w => ((.ok (), opened), w)
  | registration :: rest, opened, w =>
    if registration.outputTopic.isSome && r.publisher.isNone then
      ((.error (.noPublisher registration.topic), opened), w)
    else
      match r.subscriber.subscribe ctx registration.topic w with
      | (.ok subscription, w) =>
        let route := ⟨subscription, registration.outputTopic, r.chain registration.handler⟩
        openRoutes r ctx rest (opened ++ [route]) w
      | (.error e, w) => ((.error (.subscribe registration.topic e), opened), w)
      | (.panic p, w) => ((.panic p, opened), w)

/-- Begins the run of a router that was not closed. -/
def open? [RetryLoop] (r : Router ξ) (ctx : Context) (w : World ξ) : RunPoint ξ × World ξ :=
  match openRoutes r ctx r.registrations [] w with
  | ((.ok (), routes), w) => (.top routes, setPhase .running w)
  | ((outcome, routes), w) =>
    let (panic, w) := giveBack routes w
    match outcome with
    | .panic p => endWith outcome (some p) w
    | _ => endWith outcome panic w

/-- Begins a run. Only the first one does anything; none does after the router was closed. -/
def start [RetryLoop] (r : Router ξ) (ctx : Context) (w : World ξ) : Run ξ × World ξ :=
  if w.control.started then (⟨ctx, .ended (.ok ())⟩, w)
  else
    let w := { w with control := { w.control with started := true } }
    if w.control.closing then
      let (point, w) := endWith (.error .closed) none w
      (⟨ctx, point⟩, w)
    else
      let (ctx, scopes) := ctx.child w.scopes
      let (point, w) := open? r ctx { w with scopes }
      (⟨ctx, point⟩, w)

/-! ## Going on -/

/-- What a round leaves to the next one: routes that ended are given up. -/
def sweep (passed : List (Route ξ × Bool)) (ahead : List (Route ξ)) (idle : Bool) (w : World ξ) :
    RunPoint ξ × World ξ :=
  let lost := (passed.filter (·.2)).map (·.1)
  let kept := (passed.filter fun e => !e.2).map (·.1) ++ ahead
  if lost.isEmpty then (if idle then .resting kept else .top kept, w)
  else
    let (panic, w) := giveBack lost w
    match panic with
    | some p =>
      let (_, w) := giveBack kept w
      endWith (.panic p) none w
    | none =>
      if kept.isEmpty then
        (.leaving (if w.control.closing then .ok () else .error .subscriptionsLost) [], w)
      else (if idle then .resting kept else .top kept, w)

/-- Begins a round, unless the run is to end. -/
def beginRound (ctx : Context) (routes : List (Route ξ)) (w : World ξ) : RunPoint ξ :=
  if w.control.closing || ctx.isCancelled w.scopes then .leaving (.ok ()) routes
  else .round [] routes true

/-- The turn of one route. -/
def turn (r : Router ξ) (passed : List (Route ξ × Bool)) (route : Route ξ) (ahead : List (Route ξ))
    (idle : Bool) (w : World ξ) : RunPoint ξ × World ξ :=
  match route.subscription.tryReceive w with
  | (.ok (some m), w) => (.round (passed ++ [(route, false)]) ahead false, r.processSafely route m w)
  | (.ok none, w) => (.round (passed ++ [(route, false)]) ahead idle, w)
  | (.error .cancelled, w) => (.leaving (.ok ()) (passed.map (·.1) ++ route :: ahead), w)
  | (_, w) => (.round (passed ++ [(route, true)]) ahead idle, w)

/-- The next step from a point. -/
def stepPoint (r : Router ξ) (ctx : Context) : RunPoint ξ → World ξ → RunPoint ξ × World ξ
  | .top routes, w => (beginRound ctx routes w, w)
  | .resting routes, w => (beginRound ctx routes w, w)
  | .round passed [] idle, w => sweep passed [] idle w
  | .round passed (route :: ahead) idle, w =>
    if w.control.closing then sweep passed (route :: ahead) idle w
    else turn r passed route ahead idle w
  | .leaving result routes, w =>
    let (panic, w) := giveBack routes (setPhase .draining w)
    endWith (.ofExcept result) panic w
  | .ended outcome, w => (.ended outcome, w)

/-- The next step of a run. -/
def step (r : Router ξ) (run : Run ξ) (w : World ξ) : Run ξ × World ξ :=
  let (point, w) := stepPoint r run.ctx run.point w
  ({ run with point }, w)

/-- So many steps of a run. -/
def advance (r : Router ξ) : Nat → Run ξ → World ξ → Run ξ × World ξ
  | 0, run, w => (run, w)
  | n + 1, run, w =>
    let (run, w) := run.step r w
    advance r n run w

/-- Steps of a run until it rests or is over, but no more than so many. -/
def settle (r : Router ξ) : Nat → Run ξ → World ξ → Run ξ × World ξ
  | 0, run, w => (run, w)
  | n + 1, run, w =>
    let (run, w) := run.step r w
    if run.isQuiet then (run, w) else settle r n run w

end Run

/-! ## Closing -/

namespace Router

variable {ξ : Type}

/-- Asks a router to close: its run ends as soon as the message at hand is settled. -/
def askToClose (w : World ξ) : World ξ := { w with control := { w.control with closing := true } }

/-- How many steps a run takes to its end once closing was asked for. -/
def stepsToClose : Nat := 3

/-- Closes a router: waits for its run to end, then closes the subscriber. -/
def close (r : Router ξ) (run : Option (Run ξ)) (w : World ξ) :
    (Outcome RouterError Unit × Option (Run ξ)) × World ξ :=
  let w := askToClose w
  let (run, w) := match run with
    | none => (none, w)
    | some run =>
      let (run, w) := run.advance r stepsToClose w
      (some run, w)
  let (outcome, w) := r.subscriber.close w
  ((outcome.mapError .close, run), w)

end Router

end SymbolRelay
