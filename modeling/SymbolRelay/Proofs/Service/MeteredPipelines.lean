import SymbolRelay.Proofs.Delivery.MeterReadings
import SymbolRelay.Proofs.Handling.MirroredRuns
import SymbolRelay.Proofs.Service.MirroredCalls
import SymbolRelay.Service.Pipeline
import SymbolRelay.Standin.Compact
import SymbolRelay.Standin.NumberedIds
import SymbolRelay.Standin.RetryLoop

/-!
# Measured pipelines

With the publishers and the subscriber of a pipeline measured, the same happens as without, in whatever
order the steps of the calls, those of the router's run and what others do come: to the store, to the queue,
to what handlers keep, and to everybody who asked.

## Results

* `play_mirrors` — pipelines that are alike do the same, whatever the moves;
* `Pipeline.metered_mirrors` — a measured pipeline is alike to the one that is not;
* `metering_transparent` — measuring changes no call, no answer and no run, and a recorder that counts
  shows the calls and how they ended.
-/

set_option autoImplicit false

namespace SymbolRelay

open SymbolRelay.Action

variable {ξ κ τ : Type}

/-- The move in worlds with a record, which it knows nothing of. -/
def PipelineMove.unseen : PipelineMove ξ → PipelineMove (ξ × List κ)
  | call ctx what => call ctx what
  | step k => step k
  | get ctx id => get ctx id
  | list ctx query => list ctx query
  | run ctx => run ctx
  | turn => turn
  | close => close
  | others change => others fun w => (change w.bare).withRecord w.record

namespace Pipeline

/-- A pipeline that does among records what another one does without them. -/
structure Mirrors (p' : Pipeline (ξ × List κ) τ) (p : Pipeline ξ τ) : Prop where
  service : p'.service.Mirrors p.service
  router : p'.router.Mirrors p.router

end Pipeline

/-- The same state among records: the same world but for the record, the same writes and answers, and a
run that stands at the same point. -/
structure PipelineState.Mirrors (s' : PipelineState (ξ × List κ) τ) (s : PipelineState ξ τ) : Prop where
  world : s'.world.bare = s.world
  calls : s'.calls = s.calls
  run : Option.Rel Run.Mirrors s'.run s.run
  answers : s'.answers = s.answers

namespace Pipeline

variable {p' : Pipeline (ξ × List κ) τ} {p : Pipeline ξ τ} {s' : PipelineState (ξ × List κ) τ}
  {s : PipelineState ξ τ}

/-- **A move among records changes what it changes without them.** -/
theorem move_mirrors [BinaryFormat] [RetryLoop] (hp : p'.Mirrors p) (h : s'.Mirrors s) (m : PipelineMove ξ) :
    (p'.move s' m.unseen).Mirrors (p.move s m) := by
  obtain ⟨hworld, hcalls, hrun, hanswers⟩ := h
  obtain ⟨w', calls', run', answers'⟩ := s'
  obtain ⟨w, calls, run, answers⟩ := s
  subst hworld hcalls hanswers
  cases m with
  | call ctx what =>
    have hstart := SymbolService.start_mirrors hp.service what
    exact ⟨rfl, by simp only [move, PipelineMove.unseen, hstart], hrun, rfl⟩
  | step k =>
    simp only [move, PipelineMove.unseen]
    cases calls'[k]? with
    | none => exact ⟨rfl, rfl, hrun, rfl⟩
    | some found =>
      obtain ⟨hcall, hworld⟩ := SymbolService.step_mirrors hp.service found.1 found.2 w'
      exact ⟨hworld, by simp only [hcall], hrun, rfl⟩
  | get ctx id =>
    have hget := SymbolService.get_mirrors hp.service ctx id
    exact ⟨hget.world w', rfl, hrun, by simp only [move, PipelineMove.unseen, hget.outcome w']⟩
  | list ctx query =>
    have hlist := SymbolService.list_mirrors hp.service ctx query
    exact ⟨hlist.world w', rfl, hrun, by simp only [move, PipelineMove.unseen, hlist.outcome w']⟩
  | run ctx =>
    obtain ⟨hbegun, hworld⟩ := Run.start_mirrors hp.router ctx w'
    refine ⟨hworld, rfl, ?_, by simp only [move, PipelineMove.unseen, hbegun.outcome]⟩
    cases hrun with
    | none => exact .some hbegun
    | some h => exact .some h
  | turn =>
    cases hrun with
    | none => exact ⟨rfl, rfl, .none, rfl⟩
    | some h =>
      obtain ⟨hrun, hworld⟩ := Run.step_mirrors hp.router h w'
      exact ⟨hworld, rfl, .some hrun, rfl⟩
  | close =>
    obtain ⟨houtcome, hrun, hworld⟩ := Router.close_mirrors hp.router hrun w'
    exact ⟨hworld, rfl, hrun, by simp only [move, PipelineMove.unseen, houtcome]⟩
  | others change => exact ⟨rfl, rfl, hrun, rfl⟩

/-- **Whatever the moves, pipelines that are alike do the same.** -/
theorem play_mirrors [BinaryFormat] [RetryLoop] (hp : p'.Mirrors p) (h : s'.Mirrors s)
    (moves : List (PipelineMove ξ)) :
    (p'.play s' (moves.map PipelineMove.unseen)).Mirrors (p.play s moves) := by
  induction moves generalizing s' s with
  | nil => exact h
  | cons m rest ih => exact ih (move_mirrors hp h m)

/-- **A measured pipeline does what it does without being measured.** -/
theorem metered_mirrors (recorder : Recorder (List κ)) (hp : p'.Mirrors p) :
    (p'.metered recorder.beside).Mirrors p where
  service := SymbolService.metered_mirrors recorder hp.service
  router := Router.metered_mirrors recorder hp.router

/-- The pipeline for worlds with a record, with the counterparts of the router's middleware. -/
def unseen (p : Pipeline ξ τ) (middleware : List (Middleware (ξ × List κ))) :
    Pipeline (ξ × List κ) τ where
  service := p.service.unseen
  router := p.router.unseen middleware

theorem unseen_mirrors {p : Pipeline ξ τ} {middleware : List (Middleware (ξ × List κ))}
    (h : List.Forall₂ Middleware.Mirrors middleware p.router.middleware) :
    (p.unseen middleware).Mirrors p where
  service := p.service.unseen_mirrors
  router := Router.unseen_mirrors h

end Pipeline

/-! ## Measuring changes nothing -/

/-- Calls of a measured publisher and subscriber are answered as without measuring, leave the same world,
and reach the inside as without measuring: one by one, each payload as a message. -/
theorem DeliveryCall.makeAll_metered (recorder : Recorder (List κ)) (publisher : Publisher ξ)
    (subscriber : Subscriber ξ) (calls : List DeliveryCall)
    (w : World ((ξ × List DeliveryCall) × List κ)) :
    let plain := makeAll publisher subscriber calls w.bare.bare
    let spied := makeAll publisher.spied subscriber.spied calls w.bare
    let measured := makeAll (publisher.spied.unseen.metered recorder.beside)
      (subscriber.spied.unseen.metered recorder.beside) calls w
    measured.1 = plain.1.map (fun answer => answer.unseen.unseen) ∧
      measured.2.bare.bare = plain.2 ∧
      measured.2.bare.record = spied.2.record ∧
      spied.2.record = w.bare.record ++ calls.map inner := by
  obtain ⟨hmeasured, hworld⟩ := makeAll_mirrors
    (Publisher.metered_mirrors recorder publisher.spied.unseen_mirrors)
    (Subscriber.metered_mirrors recorder subscriber.spied.unseen_mirrors) calls w
  obtain ⟨hspied, hbare⟩ := makeAll_mirrors publisher.spied_mirrors subscriber.spied_mirrors calls w.bare
  refine ⟨?_, ?_, ?_, record_makeAll_spied publisher subscriber calls w.bare⟩
  · rw [hmeasured, hspied, List.map_map]
    rfl
  · rw [hworld, hbare]
  · rw [hworld]

/-- **Measuring changes no call, no answer and no run, and what is counted is the calls and how they
ended.** Whatever the recorder does, and whether it panics or not: calls of a measured publisher and
subscriber are answered as without measuring, leave the same world, and reach the inside as without
measuring, one by one, each payload as a message; and a pipeline whose publishers and subscriber are
measured goes, whatever the moves, as one whose are not. With a recorder that counts and never panics, the
readings of each kind of call on each topic grow by the calls, the good answers, the errors and the calls
that returned; if all of them returned, attempts are successes and errors together, and durations. -/
theorem metering_transparent [BinaryFormat] [RetryLoop] (recorder : Recorder (List κ))
    (publisher : Publisher ξ) (subscriber : Subscriber ξ) {p' : Pipeline (ξ × List κ) τ} {p : Pipeline ξ τ}
    (hp : p'.Mirrors p) :
    (∀ calls (w : World ((ξ × List DeliveryCall) × List κ)),
      let plain := DeliveryCall.makeAll publisher subscriber calls w.bare.bare
      let spied := DeliveryCall.makeAll publisher.spied subscriber.spied calls w.bare
      let measured := DeliveryCall.makeAll (publisher.spied.unseen.metered recorder.beside)
        (subscriber.spied.unseen.metered recorder.beside) calls w
      measured.1 = plain.1.map (fun answer => answer.unseen.unseen) ∧
        measured.2.bare.bare = plain.2 ∧
        measured.2.bare.record = spied.2.record ∧
        spied.2.record = w.bare.record ++ calls.map DeliveryCall.inner) ∧
    (∀ (moves : List (PipelineMove ξ)) (w : World (ξ × List κ)),
      let plain := p.play { world := w.bare } moves
      let measured := (p'.metered recorder.beside).play { world := w } (moves.map PipelineMove.unseen)
      measured.world.bare = plain.world ∧ measured.calls = plain.calls ∧
        measured.run.bind Run.outcome? = plain.run.bind Run.outcome? ∧
        measured.answers = plain.answers) ∧
    (∀ (meter : Meter κ) (names : MetricNames), names ∈ measuredNames →
      ∀ topic calls (w : World (ξ × List κ)),
        let measured := DeliveryCall.makeAll (publisher.unseen.metered meter.recorder.beside)
          (subscriber.unseen.metered meter.recorder.beside) calls w
        meter.Tallied names topic measured.1 w.record measured.2.record ∧
          ((∀ answer ∈ measured.1, answer.isOf names topic = true → answer.ending ≠ .panicked) →
            meter.Balanced names topic w.record → meter.Balanced names topic measured.2.record)) := by
  refine ⟨DeliveryCall.makeAll_metered recorder publisher subscriber, fun moves w => ?_,
    fun meter names hnames topic calls w => ?_⟩
  · obtain ⟨hworld, hcalls, hrun, hanswers⟩ := Pipeline.play_mirrors
      (Pipeline.metered_mirrors recorder hp) (⟨rfl, rfl, .none, rfl⟩ :
        ({ world := w } : PipelineState (ξ × List κ) τ).Mirrors { world := w.bare }) moves
    exact ⟨hworld, hcalls, Run.outcome_mirrors hrun, hanswers⟩
  · have htallied := DeliveryCall.tallied_makeAll meter topic publisher subscriber hnames calls w
    exact ⟨htallied, fun hreturned hbefore => htallied.balanced hbefore hreturned⟩

/-- New symbols are welcomed: what is told of them is told once more, on a topic of its own. -/
def welcoming : Pipeline Unit Transaction where
  service := { storage := .ofStore, publisher := .ofBroker .ofQueue }
  router :=
    { subscriber := .ofBroker .ofQueue
      publisher := some (.ofBroker .ofQueue)
      registrations :=
        [{ topic := EventKind.created.topic, outputTopic := some "welcomes"
           handler := fun m => Pure.pure [{ payload := m.payload }] }]
      middleware := [Handler.recovering false] }

/-- A symbol is created while the router runs, and the router is closed once it was welcomed. -/
def welcome : List (PipelineMove Unit) :=
  [.run { scope := 1 }, .call { scope := 2 } (.create ⟨0, "Bitcoin", "BTC", "", .epoch, .epoch⟩),
    .step 0, .step 0, .step 0, .step 0, .step 0, .turn, .turn, .turn, .close,
    .get { scope := 3 } 1]

/-- A recorder that panics at every other thing it is told. -/
def forgetful : Recorder (List MeterNote) :=
  .keeping fun told => if told % 2 = 1 then some (.because "meter lost") else none

/-- An order that is taken, and one that comes after the broker was closed. -/
def orders : List DeliveryCall :=
  [.publish { scope := 1 } "orders" [], .close, .publish { scope := 1 } "orders" []]

/-- **The symbol is stored, told of and welcomed**, though the recorder panics after each time. -/
theorem welcome_measured :
    let around : List (Middleware (Unit × List MeterNote)) := [Handler.recovering false]
    let plain := welcoming.play { world := { extra := () } } welcome
    let measured := ((welcoming.unseen around).metered forgetful.beside).play
      { world := { extra := ((), []) } } (welcome.map PipelineMove.unseen)
    let broker : Broker Unit := .ofQueue
    let taken := DeliveryCall.makeAll
      ((Publisher.ofBroker broker).unseen.metered Meter.ledger.recorder.beside)
      ((Subscriber.ofBroker broker).unseen.metered Meter.ledger.recorder.beside)
      orders { extra := ((), []) }
    (welcoming.unseen around).Mirrors welcoming ∧
      measured.world.bare = plain.world ∧ measured.answers = plain.answers ∧
      plain.world.store.committed = 1 ∧ plain.world.queue.acked.length = 1 ∧
      plain.world.queue.log.map (·.1) = ["symbol.created", "welcomes"] ∧
      measured.world.record.length = 6 ∧
      Meter.ledger.Balanced publishMetrics "orders" taken.2.record ∧
      Meter.ledger.counter publishMetrics.errors "orders" taken.2.record = 1 := by
  intro around plain measured broker taken
  have alike : (welcoming.unseen around).Mirrors welcoming :=
    Pipeline.unseen_mirrors (.cons (fun _ _ h m => Handler.recovering_mirrors false (h m)) .nil)
  obtain ⟨-, runs, counts⟩ := metering_transparent forgetful (.ofBroker broker) (.ofBroker broker) alike
  obtain ⟨world, -, -, answers⟩ := runs welcome { extra := ((), []) }
  obtain ⟨-, balanced⟩ :=
    counts Meter.ledger publishMetrics (by decide) "orders" orders { extra := ((), []) }
  refine ⟨alike, world, answers, by decide +kernel, by decide +kernel, by decide +kernel,
    by decide +kernel, balanced (by decide +kernel) ⟨rfl, rfl⟩, by decide +kernel⟩

end SymbolRelay
