import SymbolRelay.Proofs.Service.Attending
import SymbolRelay.Standin.RetryLoop

/-!
# A worker stops cleanly

A worker is started around a router over the queue, and then stopped. Others spare the queue, closing takes
less than the time that is granted, and nothing goes wrong with what the run subscribes to. Still the stop
does not go well in every order of turns: closing may be asked for before the run looks whether it was. Then
the run is refused, and the stop tells so. In every other order it goes well.

```text
look, ask to close      Ok
ask to close, look      Err(Run(Closed))
```

## Results

* `Attended.looked_split` — a run that has looked did so before closing was asked for, or after it;
* `Attended.clean`, `Attended.refused` — what becomes of the stop in either order;
* `follows_stop` — if nobody comes in between, turns make up starting and stopping a worker;
* `stops_cleanly` — all of it.
-/

set_option autoImplicit false

namespace SymbolRelay

variable {ξ : Type}

namespace Attendance

section Orders

variable {r : Router ξ} {ctx : Context} {d : Deadline} {a : Attendance ξ} {turns : List (StopTurn ξ)}
  {outcome : Except WorkerError Unit}

/-! ## Which comes first -/

/-- The run has looked before closing was asked for. -/
def LooksFirst [RetryLoop] (r : Router ξ) (ctx : Context) (d : Deadline) (a : Attendance ξ)
    (turns : List (StopTurn ξ)) : Prop :=
  ∃ before after, turns = before ++ after ∧ (play r ctx d a before).router.Looked ∧
    (play r ctx d a before).router.world.control.closing = false

/-- Closing was asked for before the run has looked. -/
def AskedFirst [RetryLoop] (r : Router ξ) (ctx : Context) (d : Deadline) (a : Attendance ξ)
    (turns : List (StopTurn ξ)) : Prop :=
  ∃ before after, turns = before ++ after ∧ ¬(play r ctx d a before).router.Looked ∧
    (play r ctx d a before).router.world.control.closing = true

/-- **A run that has looked** did so in one turn, which left alone what it looked at. -/
theorem Attended.looked_split [RetryLoop] (hr : r.OnQueue) (h : Attended r a) (hm : Along r ctx d a turns)
    (hnot : ¬a.router.Looked) (hlooked : (Attendance.play r ctx d a turns).router.Looked) :
    LooksFirst r ctx d a turns ∨ AskedFirst r ctx d a turns := by
  induction turns generalizing a with
  | nil => exact absurd hlooked hnot
  | cons t turns ih =>
    by_cases hnext : (a.turn r ctx d t).router.Looked
    · have hsame : (a.turn r ctx d t).router.world.control.closing = a.router.world.control.closing :=
        kept_turn (P := fun l => l.Looked → l.world.control.closing = a.router.world.control.closing)
          (fun m hm' => h.heading.looks hr (hm.1 m hm') hnot) (fun _ => rfl) hnext
      cases hclosing : a.router.world.control.closing with
      | false => exact .inl ⟨[t], turns, rfl, hnext, hsame.trans hclosing⟩
      | true => exact .inr ⟨[], t :: turns, rfl, hnot, hclosing⟩
    · rcases ih (h.turn hr hm.1) hm.2 hnext hlooked with
        ⟨before, after, rfl, hthen⟩ | ⟨before, after, rfl, hthen⟩
      · exact .inl ⟨t :: before, after, rfl, hthen⟩
      · exact .inr ⟨t :: before, after, rfl, hthen⟩

/-! ## What becomes of the stop -/

/-- **If the run has looked first**, it is on its way since, and returns well. -/
theorem Attended.clean [RetryLoop] (hr : r.OnQueue) (h : Attended r a) (hm : Along r ctx d a turns)
    (hfirst : LooksFirst r ctx d a turns)
    (hstopped : (Attendance.play r ctx d a turns).point = .stopped outcome) :
    outcome = .ok () := by
  obtain ⟨before, after, rfl, hlooked, hopen⟩ := hfirst
  obtain ⟨hbefore, hafter⟩ := along_append.mp hm
  have hthen := h.play hr hbefore
  rw [play_append] at hstopped
  obtain ⟨ran, hran, rfl⟩ := (hthen.play hr hafter).stopped outcome hstopped
  obtain ⟨c, hunharmed, hsound⟩ := kept_play
    (P := fun l => ∃ c, Lifecycle.Unharmed r l c ∧ c.stage.Sound)
    (fun _ _ hclean ⟨_, hunharmed, hsound⟩ => hunharmed.sound_move hr hsound hclean)
    hafter (hthen.heading.sound_of_open hlooked hopen)
  rw [hunharmed.steady.returned_of_outcome hran] at hsound
  obtain rfl : ran = .ok () := hsound
  rfl

/-- **If closing was asked for first**, the run is refused, and the stop tells so. -/
theorem Attended.refused [RetryLoop] (hr : r.OnQueue) (h : Attended r a) (hm : Along r ctx d a turns)
    (hfirst : AskedFirst r ctx d a turns)
    (hstopped : (Attendance.play r ctx d a turns).point = .stopped outcome) :
    outcome = .error (.run .closed) := by
  obtain ⟨before, after, rfl, hnot, hclosing⟩ := hfirst
  obtain ⟨hbefore, hafter⟩ := along_append.mp hm
  have hthen := h.play hr hbefore
  rw [play_append] at hstopped
  obtain ⟨ran, hran, rfl⟩ := (hthen.play hr hafter).stopped outcome hstopped
  have hshut : Lifecycle.Shut (Attendance.play r ctx d (Attendance.play r ctx d a before) after).router :=
    kept_play (P := Lifecycle.Shut) (fun _ _ hclean hshut => hshut.move hr.handsOut hclean.sparing.free)
      hafter (hthen.heading.shut_of_closing hnot hclosing)
  obtain rfl := hshut.outcome hran
  rfl

/-- A worker that has stopped found the run over, so it had looked. -/
theorem Attended.looked (h : Attended r a) (hstopped : a.point = .stopped outcome) : a.router.Looked := by
  obtain ⟨ran, hran, _⟩ := h.stopped outcome hstopped
  cases hcourse : a.router.course with
  | none => simp [Lifecycle.outcome?, hcourse] at hran
  | some c =>
    refine ⟨c, hcourse, fun hadmitted => ?_⟩
    simp [(h.heading.unharmed hcourse).steady.returned_of_outcome hran] at hadmitted

end Orders

/-! ## With nobody in between -/

section Undisturbed

variable {r : Router ξ} {ctx : Context} {d : Deadline} {l : Lifecycle ξ} {p : StopPoint}

/-- The acts of a run do not change how far closing has come. -/
theorem closers_advances [RetryLoop] (l : Lifecycle ξ) (n : Nat) :
    (l.play r (List.replicate n .advance)).closers = l.closers := by
  induction n generalizing l with
  | zero => rfl
  | succ n ih =>
    refine (ih (l.advance r)).trans ?_
    simp only [Lifecycle.advance]
    split <;> rfl

/-- A call to close does not go away. -/
theorem closeOn_closers (hclosers : l.closers ≠ []) : (l.closeOn r 0).closers ≠ [] := by
  simp only [Lifecycle.closeOn]
  split <;> simp [hclosers]

/-- Who waits for the end of a run is released by a run that returns. -/
theorem unreleased_advances [RetryLoop]
    (hunreleased : l.released = true → ∃ outcome, l.outcome? = some outcome) (n : Nat) :
    (l.play r (List.replicate n .advance)).released = true →
      ∃ outcome, (l.play r (List.replicate n .advance)).outcome? = some outcome := by
  induction n generalizing l with
  | zero => exact hunreleased
  | succ n ih =>
    refine ih (l := l.advance r) ?_
    cases hcourse : l.course with
    | none =>
      have hsame : l.advance r = l := by simp only [Lifecycle.advance, hcourse]
      rwa [hsame]
    | some c =>
      obtain ⟨ctx, stage⟩ := c
      cases stage with
      | releasing outcome | returned outcome =>
        refine fun _ => ⟨outcome, ?_⟩
        rw [Lifecycle.advance_of_some hcourse]
        rfl
      | _ =>
        intro hreleased
        rw [Lifecycle.advance_of_some hcourse] at hreleased
        obtain ⟨outcome, hover⟩ := hunreleased (by simpa [Course.releases] using hreleased)
        simp [Lifecycle.outcome?, hcourse, Course.outcome?] at hover

/-- Turns of who runs the router, one after the other. -/
theorem play_runner [RetryLoop] (hpoint : p ≠ .idle) (hcourse : l.course ≠ none) (n : Nat) :
    play r ctx d ⟨l, p⟩ (List.replicate n .runner) = ⟨l.play r (List.replicate n .advance), p⟩ := by
  induction n generalizing l with
  | zero => rfl
  | succ n ih =>
    obtain ⟨c, hc⟩ := Option.ne_none_iff_exists'.mp hcourse
    have hturn : turn r ctx d ⟨l, p⟩ .runner = ⟨l.advance r, p⟩ := by
      rw [turn_of_some (move?_runner ctx hpoint)]
      simp only [Lifecycle.runner, hc]
      rfl
    exact (congrArg (play r ctx d · (List.replicate n .runner)) hturn).trans
      (ih (Lifecycle.course_move hcourse .advance))

/-- Two turns of who closes the router, once it has asked for it. -/
theorem play_closer [RetryLoop] (hpoint : p ≠ .idle ∧ p ≠ .started) (hclosers : l.closers ≠ []) :
    play r ctx d ⟨l, p⟩ [.closer, .closer] = ⟨l.play r [.closer 0, .closer 0], p⟩ := by
  have hturn : ∀ l : Lifecycle ξ, l.closers ≠ [] → turn r ctx d ⟨l, p⟩ .closer = ⟨l.closeOn r 0, p⟩ := by
    intro l hclosers
    rw [turn_of_some (move?_closer ctx hpoint)]
    simp only [List.isEmpty_iff, hclosers, if_false]
    rfl
  simp only [play, List.foldl_cons, List.foldl_nil, hturn l hclosers, hturn _ (closeOn_closers hclosers)]
  rfl

/-- Who closes the router asks for it, the run acts, and then the subscriber is closed. -/
theorem play_closing [RetryLoop] (ctx : Context) (hpoint : p ≠ .idle ∧ p ≠ .started)
    (hclosers : l.closers = []) (hcourse : l.course ≠ none) (n : Nat) :
    play r ctx d ⟨l, p⟩ ([.closer, .closer, .closer] ++ List.replicate n .runner ++ [.closer, .closer]) =
      ⟨l.play r ([.close, .closer 0, .closer 0] ++ List.replicate n .advance ++ [.closer 0, .closer 0]),
        p⟩ := by
  have hasked : turn r ctx d ⟨l, p⟩ .closer = ⟨l.close, p⟩ := by
    rw [turn_of_some (move?_closer ctx hpoint)]
    simp only [List.isEmpty_iff, hclosers, if_true]
    rfl
  have hthere : l.close.closers ≠ [] := by simp [Lifecycle.close]
  have hwaits : play r ctx d ⟨l, p⟩ [.closer, .closer, .closer] =
      ⟨l.play r [.close, .closer 0, .closer 0], p⟩ :=
    (congrArg (play r ctx d · [.closer, .closer]) hasked).trans (play_closer hpoint hthere)
  have hstill : (l.play r [.close, .closer 0, .closer 0]).closers ≠ [] :=
    closeOn_closers (closeOn_closers hthere)
  have hbegun : (l.play r [.close, .closer 0, .closer 0]).course ≠ none :=
    Lifecycle.course_move (Lifecycle.course_move (Lifecycle.course_move hcourse .close) (.closer 0))
      (.closer 0)
  rw [play_append, play_append, hwaits, play_runner hpoint.1 hbegun, play_closer hpoint,
    Lifecycle.play_append, Lifecycle.play_append]
  rwa [closers_advances]

/-- A run that is over stays where it is. -/
theorem advance_ended {run : Run ξ} {outcome : Outcome RouterError Unit} (h : run.point = .ended outcome)
    (n : Nat) (w : World ξ) : run.advance r n w = (run, w) := by
  obtain ⟨ctx, point⟩ := run
  obtain rfl : point = .ended outcome := h
  induction n with
  | zero => rfl
  | succ n ih => exact ih

/-- What a run over the queue comes to by itself keeps what it has. -/
theorem steady_advances [RetryLoop] (hr : r.OnQueue) {c : Course ξ} (h : Lifecycle.Steady r l c) (n : Nat) :
    ∃ c', Lifecycle.Steady r (l.play r (List.replicate n .advance)) c' := by
  induction n generalizing l c with
  | zero => exact ⟨c, h⟩
  | succ n ih => exact ih (h.advance hr).1

/-- **If nobody comes in between**, a router that is called to run comes to where its run begins. -/
theorem fresh_advances [RetryLoop] (hr : r.OnQueue) (h : Lifecycle.Fresh l) (hclosers : l.closers = [])
    (hongoing : ∀ outcome, (Run.start r ctx l.world).1.point ≠ .ended outcome) :
    ∃ n, let begun := (l.run ctx).play r (List.replicate n .advance)
      Lifecycle.Steady r begun (.ofRun (Run.start r ctx l.world).1) ∧
        begun.world = (Run.start r ctx l.world).2 ∧ begun.closers = [] ∧ begun.released = false := by
  have hadmitted := h.run (r := r) ctx
  have hrun := h.unbegun.run_eq ctx
  have hunreleased : (l.run ctx).released = false := by
    rw [hrun]
    exact h.released
  have hbegins : Course.Reaches r (l.run ctx).rung (⟨ctx, .admitted⟩, (l.run ctx).world)
      (.ofRun (Run.start r ctx l.world).1, (Run.start r ctx l.world).2) := by
    rw [hrun]
    exact Course.follows_start h.unbegun.started
  obtain ⟨n, hcourse, hworld, hstill, _⟩ :=
    Lifecycle.play_advances hbegins hadmitted.begun.course rfl rfl nofun
  obtain ⟨c, hsteady⟩ := steady_advances hr hadmitted n
  obtain rfl : .ofRun (Run.start r ctx l.world).1 = c :=
    Option.some.inj (hcourse.symm.trans hsteady.begun.course)
  have hnobody : (l.run ctx).closers = [] := by
    rw [hrun]
    exact hclosers
  refine ⟨n, hsteady, hworld, hstill.trans hnobody, Bool.eq_false_iff.mpr fun hreleased => ?_⟩
  obtain ⟨outcome, hover⟩ := unreleased_advances (by simp [hunreleased]) n hreleased
  have hreturned := hsteady.returned_of_outcome hover
  generalize Run.start r ctx l.world = started at hongoing hreturned
  obtain ⟨⟨ctx, point⟩, w⟩ := started
  cases point with
  | ended ran => exact hongoing ran rfl
  | _ => cases hreturned

/-- What a worker tells that is stopped while its router runs. -/
theorem stopWithin_of_close [RetryLoop] (ctx : Context) (worker : Worker) (hrunning : worker.running = true)
    (hfirst : worker.outcome = none) (htook : d.took = ⟨0⟩) {w w' : World ξ} {run run' : Run ξ}
    {closed ran : Outcome RouterError Unit} (hclose : r.close (some run) w = ((closed, some run'), w'))
    (hended : run'.point = .ended ran) :
    (Worker.stopWithin (Runnable.ofRouter r ctx) d.timeout worker ⟨w, some run⟩).1 = verdict d closed ran ∧
      (Worker.stopWithin (Runnable.ofRouter r ctx) d.timeout worker ⟨w, some run⟩).2.2.world = w' := by
  have hcloses : (Runnable.ofRouter r ctx).close ⟨w, some run⟩ = ((⟨0⟩, closed), ⟨w', some run'⟩) := by
    simp only [Runnable.ofRouter, hclose]
  have hjoined : Worker.joinRun (Runnable.ofRouter r ctx) true ⟨w', some run'⟩ =
      (Worker.runResult ran, ⟨w', some run'⟩) := by
    simp only [Worker.joinRun, if_true, Runnable.ofRouter, advance_ended hended, Run.outcome?, hended,
      Option.getD_some]
  cases hintime : Worker.closeResult d.timeout ⟨0⟩ closed with
  | ok _ =>
    simp [Worker.stopWithin, Worker.forbidStart, hfirst, Worker.shutdown, hcloses, hrunning, hjoined, verdict,
      htook, hintime]
  | error e =>
    simp [Worker.stopWithin, Worker.forbidStart, hfirst, Worker.shutdown, hcloses, hrunning, hjoined, verdict,
      htook, hintime]

/-- A run over the queue is over when its router was closed. -/
theorem close_ended [RetryLoop] {run : Run ξ} {w : World ξ}
    (hbroker : ∀ route ∈ (Course.ofRun run).stage.routes, route.subscription.broker = Broker.ofQueue) :
    ∃ closed run' w' ran, r.close (some run) w = ((closed, some run'), w') ∧ run'.point = .ended ran := by
  have hcloses : run.Closes (Router.askToClose w) := ⟨rfl, hbroker⟩
  have hleft := (hcloses.advance (r := r) false Router.stepsToClose).2
  have hfew := run.stepsLeft_le
  obtain ⟨ran, hended⟩ := Run.ended_of_stepsLeft
    (run.advance r Router.stepsToClose (Router.askToClose w)).1 (by omega)
  exact ⟨_, _, _, ran, rfl, hended⟩

/-- If nobody comes in between, turns make up stopping a worker whose router runs. -/
theorem stop_follows [RetryLoop] {run : Run ξ} (hcourse : l.course = some (.ofRun run))
    (hstarted : l.world.control.started = true) (hunreleased : l.released = false)
    (hclosers : l.closers = []) (hongoing : ∀ outcome, run.point ≠ .ended outcome)
    (hbroker : ∀ route ∈ (Course.ofRun run).stage.routes, route.subscription.broker = Broker.ofQueue)
    (htook : d.took = ⟨0⟩) (ctx : Context) (worker : Worker) (hrunning : worker.running = true)
    (hfirst : worker.outcome = none) :
    ∃ turns, let a := play r ctx d ⟨l, .started⟩ turns
      let stopped := Worker.stopWithin (Runnable.ofRouter r ctx) d.timeout worker ⟨l.world, some run⟩
      (∀ world, .meanwhile world ∉ turns) ∧ a.point = .stopped stopped.1 ∧
        a.router.world = stopped.2.2.world := by
  obtain ⟨closed, run', w', ran, hclose, hended⟩ := close_ended (r := r) (w := l.world) hbroker
  obtain ⟨htold, hleft⟩ := stopWithin_of_close ctx worker hrunning hfirst htook hclose hended
  obtain ⟨n, hclosed⟩ := Lifecycle.follows_close (r := r) hcourse hstarted hunreleased hongoing hbroker
  simp only [hclosers, List.length_nil, hclose, Option.map_some] at hclosed
  have hplay := play_closing (r := r) (d := d) ctx (p := .closing) ⟨nofun, nofun⟩ hclosers
    (by simp [hcourse]) n
  generalize l.play r
    ([.close, .closer 0, .closer 0] ++ List.replicate n .advance ++ [.closer 0, .closer 0]) = l'
    at hplay hclosed
  obtain ⟨hworld, hover, hreported⟩ := hclosed
  refine ⟨[.caller] ++ ([.closer, .closer, .closer] ++ List.replicate n .runner ++ [.closer, .closer]) ++
    [.caller, .caller], ?_, ?_⟩
  · simp [List.mem_replicate]
  · have hasked : play r ctx d ⟨l, .started⟩ [.caller] = ⟨l, .closing⟩ := rfl
    have hreport : (⟨l', .closing⟩ : Attendance ξ).report? = some closed := by
      cases hl : l'.closers with
      | nil => simp [hl] at hreported
      | cons p rest =>
        obtain rfl : p = .returned closed := by simpa [hl] using hreported
        simp [report?, hl]
    have hran : l'.outcome? = some ran := by
      simp [Lifecycle.outcome?, hover, Course.outcome?, Course.ofRun, hended, Stage.ofPoint]
    rw [play_append, play_append, hasked, hplay, htold, hleft]
    simp [play, turn, callerOn, hreport, hran, hworld]

/-- **If nobody comes in between, turns make up starting and stopping a worker.** The run sets out and
subscribes; then the router is closed, and the run returns. -/
theorem follows_stop [RetryLoop] (hr : r.OnQueue) {w : World ξ} (hnew : w.control = {}) (hq : w.queue.Reached)
    (htook : d.took = ⟨0⟩) (hongoing : ∀ outcome, (Run.start r ctx w).1.point ≠ .ended outcome) :
    ∃ turns, let a := play r ctx d { router := { world := w } } turns
      let started := Worker.start (Runnable.ofRouter r ctx) {} { world := w }
      let stopped := Worker.stopWithin (Runnable.ofRouter r ctx) d.timeout started.1 started.2
      (∀ world, .meanwhile world ∉ turns) ∧ a.point = .stopped stopped.1 ∧
        a.router.world = stopped.2.2.world := by
  have hfresh : Lifecycle.Fresh { world := w } := .new hnew hq
  have hbegin : Worker.start (Runnable.ofRouter r ctx) {} { world := w } =
      ({ started := true, running := true }, ⟨(Run.start r ctx w).2, some (Run.start r ctx w).1⟩) := rfl
  obtain ⟨n, hsteady, hworld, hclosers, hunreleased⟩ := fresh_advances hr hfresh rfl hongoing
  have hplay : play r ctx d { router := { world := w } } ([.caller, .runner] ++ List.replicate n .runner) =
      ⟨(Lifecycle.run ctx { world := w }).play r (List.replicate n .advance), .started⟩ := by
    have hcalled : play r ctx d { router := { world := w } } [.caller, .runner] =
        ⟨Lifecycle.run ctx { world := w }, .started⟩ := rfl
    rw [play_append, hcalled]
    refine play_runner (p := .started) nofun ?_ n
    simp [hfresh.unbegun.run_eq]
  obtain ⟨turns, hnone, hstopped, hlast⟩ := stop_follows hsteady.begun.course hsteady.begun.started
    hunreleased hclosers hongoing (fun route hroute => (hsteady.owned route hroute).broker) htook ctx
    { started := true, running := true } rfl rfl
  refine ⟨([.caller, .runner] ++ List.replicate n .runner) ++ turns, ?_⟩
  rw [play_append, hplay, hbegin, ← hworld]
  refine ⟨fun world hmem => ?_, hstopped, hlast⟩
  rcases List.mem_append.mp hmem with hmem | hmem
  · simp [List.mem_replicate] at hmem
  · exact hnone world hmem

end Undisturbed

/-- **A worker stops cleanly**, unless closing comes before the run. It is started around a router over the
queue and then stopped, closing takes less than the time that is granted, and the turns of the caller, of the
thread that runs the router, of the one that closes it and of others come in any order. All along, others
spare the queue, and the run gets what it subscribes to. Then:

* a stop goes well if the run looks whether closing was asked for before it is;
* in the other orders closing was asked for first; the run is refused by its own look, and the stop tells that
  the router was closed. The run need not even have been scheduled by then;
* there is an outcome in any order once everybody had enough turns. -/
theorem stops_cleanly [RetryLoop] {r : Router ξ} (hr : r.OnQueue) {w : World ξ} (hnew : w.control = {})
    (hq : w.queue.Reached) (ctx : Context) (d : Deadline) {turns : List (StopTurn ξ)}
    (hm : Along r ctx d { router := { world := w } } turns) :
    let new : Attendance ξ := { router := { world := w } }
    (∀ outcome, (play r ctx d new turns).point = .stopped outcome →
      (LooksFirst r ctx d new turns → outcome = .ok ()) ∧
      (¬LooksFirst r ctx d new turns → AskedFirst r ctx d new turns ∧ outcome = .error (.run .closed))) ∧
    (Rounds (2 * r.registrations.length + 24) turns →
      ∃ outcome, (play r ctx d new turns).point = .stopped outcome) := by
  intro new
  have hattended : Attended r new := .new hnew hq
  refine ⟨fun outcome hstopped => ⟨fun hfirst => hattended.clean hr hm hfirst hstopped, fun hlate => ?_⟩, ?_⟩
  · have hnot : ¬new.router.Looked := fun ⟨_, hcourse, _⟩ => nomatch hcourse
    have hlooked := (hattended.play hr hm).looked hstopped
    have hasked := (hattended.looked_split hr hm hnot hlooked).resolve_left hlate
    exact ⟨hasked, hattended.refused hr hm hasked hstopped⟩
  · intro hrounds
    have hleft : left r new ≤ 2 * r.registrations.length + 24 := by
      have htoGo := hattended.heading.toGo_le
      simp only [left, callerLeft, closerLeft, new] at htoGo ⊢
      omega
    exact hattended.stops hr hm hrounds hleft

/-! ## Two orders -/

section Sparing

variable {r : Router ξ} {ctx : Context} {a : Attendance ξ}

theorem caller_clean : ∀ m, a.move? ctx .caller = some m → a.router.Clean r m := by
  intro m hm
  cases hm

/-- Who closes the router spares the queue until the run is over. -/
theorem closer_clean : ∀ m, a.move? ctx .closer = some m → a.router.Clean r m := by
  intro m hm
  rcases move?_cases hm with ⟨ht, _⟩ | ⟨_, _, rfl⟩ | ⟨world, ht, _⟩
  · cases ht
  · cases a.router.closers.isEmpty <;> exact ⟨trivial, nofun⟩
  · cases ht

/-- A run that judges no message next spares the queue. -/
theorem runner_clean (hserved : a.router.Served r) (hidle : a.router.course.bind (·.stage.judged?) = none) :
    ∀ m, a.move? ctx .runner = some m → a.router.Clean r m := by
  intro m hm
  rcases move?_cases hm with ⟨_, _, rfl⟩ | ⟨ht, _⟩ | ⟨world, ht, _⟩
  · refine ⟨?_, fun _ => hserved⟩
    cases hcourse : a.router.course with
    | none =>
      simp only [Lifecycle.runner, hcourse]
      trivial
    | some c =>
      have hadvance : a.router.runner ctx = .advance := by simp only [Lifecycle.runner, hcourse]
      rw [hadvance]
      simp only [Lifecycle.Sparing, hidle]
  · cases ht
  · cases ht

end Sparing

/-- As much time as is granted unless told otherwise. Closing takes none to speak of. -/
def usualStop : Deadline := ⟨defaultStopTimeout, ⟨0⟩, by decide⟩

/-- A router whose letters are handled at the first attempt, before its worker is started. -/
def lettersAttended : Attendance Bool := { router := { world := { extra := true } } }

/-- The run looks, then the router is closed, and the run goes on until it has returned. -/
def lookedInTime : List (StopTurn Bool) :=
  [.caller, .runner, .runner, .caller, .closer, .closer, .closer] ++ List.replicate 12 .runner ++
    [.closer, .closer, .caller, .caller]

theorem lookedInTime_along :
    Along Lifecycle.letterRouter { scope := 9 } usualStop lettersAttended lookedInTime := by
  refine along_append.mpr ⟨along_append.mpr ⟨?_, ?_⟩, ?_⟩
  · refine ⟨caller_clean, runner_clean ?_ rfl, runner_clean ?_ rfl, caller_clean, closer_clean, closer_clean,
      closer_clean, True.intro⟩
    · exact fun _ _ _ _ hcourse => by cases hcourse
    · exact fun _ _ _ _ hcourse => by cases hcourse
  · -- It subscribes to letters, and then to nothing more.
    refine ⟨runner_clean ?_ rfl, ?_⟩
    · intro _ _ _ _ hcourse
      cases hcourse
      exact ⟨rfl, _, _, rfl⟩
    · iterate 11 refine ⟨runner_clean (fun _ _ _ _ hcourse => by cases hcourse) rfl, ?_⟩
      exact True.intro
  · exact ⟨closer_clean, closer_clean, caller_clean, caller_clean, True.intro⟩

/-- **A run that looks first** lets the stop go well, though it subscribes only once closing was asked for. -/
theorem letters_stop_cleanly :
    Lifecycle.letterRouter.OnQueue ∧
      Along Lifecycle.letterRouter { scope := 9 } usualStop lettersAttended lookedInTime ∧
      LooksFirst Lifecycle.letterRouter { scope := 9 } usualStop lettersAttended lookedInTime ∧
      (play Lifecycle.letterRouter { scope := 9 } usualStop lettersAttended lookedInTime).point =
        .stopped (.ok ()) := by
  have hlooked : (play Lifecycle.letterRouter { scope := 9 } usualStop lettersAttended
      [.caller, .runner, .runner]).router.Looked := ⟨_, rfl, nofun⟩
  have hfirst : LooksFirst Lifecycle.letterRouter { scope := 9 } usualStop lettersAttended lookedInTime :=
    ⟨[.caller, .runner, .runner], _, rfl, hlooked, rfl⟩
  have hover : ∃ outcome, (play Lifecycle.letterRouter { scope := 9 } usualStop lettersAttended
      lookedInTime).point = .stopped outcome := ⟨_, rfl⟩
  obtain ⟨outcome, hstopped⟩ := hover
  obtain rfl := ((stops_cleanly Lifecycle.letterRouter_onQueue rfl .empty { scope := 9 } usualStop
    lookedInTime_along).1 outcome hstopped).1 hfirst
  exact ⟨Lifecycle.letterRouter_onQueue, lookedInTime_along, hfirst, hstopped⟩

/-- The router is closed before the thread that runs it is scheduled. -/
def scheduledLate : List (StopTurn Bool) :=
  [.caller, .caller, .closer, .closer, .closer, .closer] ++ List.replicate 4 .runner ++ [.caller, .caller]

/-- **A run that is scheduled late** is refused, though nothing went wrong. -/
theorem letters_refused :
    Lifecycle.letterRouter.OnQueue ∧ lettersAttended.router.world.control = {} ∧
      lettersAttended.router.world.queue.Reached ∧
      Along Lifecycle.letterRouter { scope := 9 } usualStop lettersAttended scheduledLate ∧
      (play Lifecycle.letterRouter { scope := 9 } usualStop lettersAttended scheduledLate).point =
        .stopped (.error (.run .closed)) := by
  refine ⟨Lifecycle.letterRouter_onQueue, rfl, .empty, ?_, rfl⟩
  refine along_append.mpr ⟨along_append.mpr ⟨?_, ?_⟩, ?_⟩
  · exact ⟨caller_clean, caller_clean, closer_clean, closer_clean, closer_clean, closer_clean, True.intro⟩
  · iterate 4 refine ⟨runner_clean (fun _ _ _ _ hcourse => by cases hcourse) rfl, ?_⟩
    exact True.intro
  · exact ⟨caller_clean, caller_clean, True.intro⟩

end Attendance

end SymbolRelay
