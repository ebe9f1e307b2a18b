import SymbolRelay.Rehearsal.ToyRunnable
import SymbolRelay.Service.Tenure

/-!
# One life of a worker

Any number of callers start and stop a worker, each at its own pace: a call to stop first forbids every later
start, and is answered some time after. What the worker runs is told to begin, to close, and to end, which is
kept on record; it may do so in whatever way, and its state may change at any time in between.

```text
nobody answered:   []  or  [begun]
from then on:      [closed took c]  or  [begun, closed took c, ended e]
```

## Results

* `Tenure.stop_settle` — a call to stop that is answered at once is the worker's own;
* `stopWithin_verdict` — the one shutdown gives the verdict on its closing and on its run;
* `Open.move`, `Over.move` — what each call keeps before and after the shutdown;
* `one_run_one_close_one_outcome` — all of it.
-/

set_option autoImplicit false

namespace SymbolRelay

variable {σ : Type}

/-! ## What is run, on record -/

/-- What something to run was told to do, and how it did. -/
inductive Errand where
  | begun
  | closed (took : Duration) (outcome : Outcome RouterError Unit)
  | ended (outcome : Outcome RouterError Unit)
  deriving DecidableEq

namespace Errand

/-- Whether it was told to begin. -/
def isBegun : Errand → Bool
  | .begun => true
  | _ => false

/-- Whether it was told to close. -/
def isClosed : Errand → Bool
  | .closed .. => true
  | _ => false

end Errand

/-- What is run, with an entry on record for each thing that it is told. -/
def Runnable.recorded (r : Runnable σ) : Runnable (σ × List Errand) where
  begin s := (r.begin s.1, s.2 ++ [.begun])
  close s := ((r.close s.1).1, (r.close s.1).2, s.2 ++ [.closed (r.close s.1).1.1 (r.close s.1).1.2])
  join s := ((r.join s.1).1, (r.join s.1).2, s.2 ++ [.ended (r.join s.1).1])

/-! ## Calls, on record -/

/-- The same of something that is on record. -/
def WorkerMove.unseen : WorkerMove σ → WorkerMove (σ × List Errand)
  | .start => .start
  | .stop timeout => .stop timeout
  | .settle call => .settle call
  | .meanwhile act => .meanwhile fun s => (act s.1, s.2)

/-- The time that a move asks to stop within. -/
def WorkerMove.timeout? : WorkerMove σ → Option Duration
  | .stop timeout => some timeout
  | _ => none

namespace Tenure

/-- What was told so far. -/
def errands (t : Tenure (σ × List Errand)) : List Errand := t.state.2

/-- The worker without the record. -/
def bare (t : Tenure (σ × List Errand)) : Tenure σ := { t with state := t.state.1 }

/-- How often the run was told to begin. -/
def begun (t : Tenure (σ × List Errand)) : Nat := t.errands.countP Errand.isBegun

/-- How often what is run was told to close. -/
def closed (t : Tenure (σ × List Errand)) : Nat := t.errands.countP Errand.isClosed

/-- A worker that is new, with a record of what comes of some moves. -/
def watched (r : Runnable σ) (s : σ) (moves : List (WorkerMove σ)) : Tenure (σ × List Errand) :=
  play r.recorded { state := (s, []) } (moves.map WorkerMove.unseen)

variable {r : Runnable σ} {t : Tenure σ} {call : Nat} {timeout : Duration}

theorem play_append (r : Runnable σ) (t : Tenure σ) (before after : List (WorkerMove σ)) :
    play r t (before ++ after) = play r (play r t before) after := List.foldl_append

theorem move_settle (h : t.stops[call]? = some ⟨timeout, none⟩) :
    t.move r (.settle call) =
      { worker := (Worker.stopWithin r timeout t.worker t.state).2.1
        state := (Worker.stopWithin r timeout t.worker t.state).2.2
        stops := t.stops.set call ⟨timeout, some (Worker.stopWithin r timeout t.worker t.state).1⟩ } := by
  simp only [move, h]

theorem move_idle (h : ∀ timeout, t.stops[call]? ≠ some ⟨timeout, none⟩) : t.move r (.settle call) = t := by
  simp only [move]

/-- A call that was made gets an answer, unless it has one. -/
theorem settle_answers (r : Runnable σ) {stop : StopCall} (h : t.stops[call]? = some stop) :
    ∃ outcome, (t.move r (.settle call)).stops[call]? = some ⟨stop.timeout, some outcome⟩ := by
  obtain ⟨timeout, answer⟩ := stop
  cases answer with
  | none =>
    obtain ⟨hlt, _⟩ := List.getElem?_eq_some_iff.mp h
    exact ⟨_, by rw [move_settle h, List.getElem?_set_self hlt]⟩
  | some outcome => exact ⟨outcome, by rw [move_idle (by simp [h]), h]⟩

/-- **A call to stop that is answered at once** does what the worker does to stop. -/
theorem stop_settle (r : Runnable σ) (t : Tenure σ) (timeout : Duration) :
    let answer := Worker.stopWithin r timeout t.worker t.state
    play r t [.stop timeout, .settle t.stops.length] =
      { worker := answer.2.1, state := answer.2.2, stops := t.stops ++ [⟨timeout, some answer.1⟩] } := by
  have hcall : (t.move r (.stop timeout)).stops[t.stops.length]? = some ⟨timeout, none⟩ :=
    List.getElem?_concat_length
  have hsame : Worker.stopWithin r timeout t.worker.forbidStart t.state =
      Worker.stopWithin r timeout t.worker t.state := rfl
  show (t.move r (.stop timeout)).move r (.settle t.stops.length) = _
  rw [move_settle hcall]
  simp only [move, hsame, List.set_append_right, Nat.le_refl, Nat.sub_self, List.set_cons_zero]

end Tenure

/-! ## The verdict on a shutdown -/

/-- What comes of closing, which took some time, and of the run, if there is one: a timeout counts for more
than how closing ended, and that for more than how the run did. -/
inductive Verdict (timeout took : Duration) : Outcome RouterError Unit → Option (Outcome RouterError Unit) →
    Except WorkerError Unit → Prop
  | late {closed : Outcome RouterError Unit} {ran : Option (Outcome RouterError Unit)}
      (h : timeout.nanos ≤ took.nanos) : Verdict timeout took closed ran (.error (.stopTimeout timeout))
  | closePanicked {cause : Panic} {ran : Option (Outcome RouterError Unit)} (h : took.nanos < timeout.nanos) :
      Verdict timeout took (.panic cause) ran (.error .panicked)
  | closeFailed {cause : RouterError} {ran : Option (Outcome RouterError Unit)}
      (h : took.nanos < timeout.nanos) : Verdict timeout took (.error cause) ran (.error (.close cause))
  | runPanicked {cause : Panic} (h : took.nanos < timeout.nanos) :
      Verdict timeout took (.ok ()) (some (.panic cause)) (.error .panicked)
  | runFailed {cause : RouterError} (h : took.nanos < timeout.nanos) :
      Verdict timeout took (.ok ()) (some (.error cause)) (.error (.run cause))
  | well (h : took.nanos < timeout.nanos) : Verdict timeout took (.ok ()) (some (.ok ())) (.ok ())
  | neverRan (h : took.nanos < timeout.nanos) : Verdict timeout took (.ok ()) none (.ok ())

/-- What is on record once a worker has stopped, and the outcome: what was run was closed, and then it
ended, if it ever began. -/
inductive Proceeded (timeout : Duration) : List Errand → Except WorkerError Unit → Prop
  | unrun {took : Duration} {closed : Outcome RouterError Unit} {outcome : Except WorkerError Unit}
      (h : Verdict timeout took closed none outcome) : Proceeded timeout [.closed took closed] outcome
  | ran {took : Duration} {closed ran : Outcome RouterError Unit} {outcome : Except WorkerError Unit}
      (h : Verdict timeout took closed (some ran) outcome) :
      Proceeded timeout [.begun, .closed took closed, .ended ran] outcome

theorem Proceeded.closed_once {timeout : Duration} {record : List Errand}
    {outcome : Except WorkerError Unit} (h : Proceeded timeout record outcome) :
    record.countP Errand.isClosed = 1 ∧ record.countP Errand.isBegun ≤ 1 ∧
      (0 < record.countP Errand.isBegun → ∃ ran, .ended ran ∈ record) := by
  cases h with
  | unrun _ => exact ⟨rfl, Nat.zero_le _, fun h => absurd h (Nat.lt_irrefl 0)⟩
  | @ran took closed ran outcome _ => exact ⟨rfl, Nat.le_refl _, fun _ => ⟨ran, by simp⟩⟩

/-- **The verdict on a closing and a run**, as the worker comes to it. -/
theorem shutdown_verdict (timeout took : Duration) (closed : Outcome RouterError Unit)
    (ran : Option (Outcome RouterError Unit)) :
    Verdict timeout took closed ran
      (match Worker.closeResult timeout took closed with
        | .ok () => (ran.map Worker.runResult).getD (.ok ())
        | .error e => .error e) := by
  by_cases hlate : timeout.nanos ≤ took.nanos
  · simp only [Worker.closeResult, if_pos hlate]
    exact .late hlate
  · have hintime := Nat.lt_of_not_le hlate
    simp only [Worker.closeResult, if_neg hlate]
    cases closed with
    | error cause => exact .closeFailed hintime
    | panic cause => exact .closePanicked hintime
    | ok _ =>
      cases ran with
      | none => exact .neverRan hintime
      | some ran =>
        cases ran with
        | ok _ => exact .well hintime
        | error cause => exact .runFailed hintime
        | panic cause => exact .runPanicked hintime

/-- **The one shutdown**, on record. -/
theorem stopWithin_verdict (r : Runnable σ) (timeout : Duration) {worker : Worker} {s : σ × List Errand}
    (hfirst : worker.outcome = none) (hrecord : s.2 = if worker.running then [.begun] else []) :
    let answer := Worker.stopWithin r.recorded timeout worker s
    Proceeded timeout answer.2.2.2 answer.1 ∧ answer.2.1.outcome = some answer.1 ∧
      answer.2.1.stopping = true := by
  obtain ⟨state, record⟩ := s
  have hverdict := shutdown_verdict timeout (r.close state).1.1 (r.close state).1.2
  cases hrunning : worker.running with
  | false =>
    obtain rfl : record = [] := by simpa [hrunning] using hrecord
    simp only [Worker.stopWithin, Worker.forbidStart, hfirst, Worker.shutdown, Worker.joinRun, hrunning,
      Runnable.recorded, Option.getD_some]
    exact ⟨.unrun (hverdict none), trivial, trivial⟩
  | true =>
    obtain rfl : record = [.begun] := by simpa [hrunning] using hrecord
    simp only [Worker.stopWithin, Worker.forbidStart, hfirst, Worker.shutdown, Worker.joinRun, hrunning,
      Runnable.recorded, Option.getD_some]
    exact ⟨.ran (hverdict (some _)), trivial, trivial⟩

namespace Tenure

variable {r : Runnable σ} {t : Tenure (σ × List Errand)}

/-! ## The record is only looked at -/

theorem start_bare (r : Runnable σ) (worker : Worker) (s : σ × List Errand) :
    (Worker.start r.recorded worker s).1 = (Worker.start r worker s.1).1 ∧
      (Worker.start r.recorded worker s).2.1 = (Worker.start r worker s.1).2 := by
  simp only [Worker.start]
  split
  · exact ⟨rfl, rfl⟩
  · split <;> exact ⟨rfl, rfl⟩

theorem stopWithin_bare (r : Runnable σ) (timeout : Duration) (worker : Worker) (s : σ × List Errand) :
    (Worker.stopWithin r.recorded timeout worker s).1 = (Worker.stopWithin r timeout worker s.1).1 ∧
      (Worker.stopWithin r.recorded timeout worker s).2.1 = (Worker.stopWithin r timeout worker s.1).2.1 ∧
      (Worker.stopWithin r.recorded timeout worker s).2.2.1 =
        (Worker.stopWithin r timeout worker s.1).2.2 := by
  simp only [Worker.stopWithin]
  cases worker.forbidStart.outcome with
  | some outcome => exact ⟨rfl, rfl, rfl⟩
  | none =>
    simp only [Worker.shutdown, Worker.joinRun]
    cases worker.forbidStart.running <;> exact ⟨rfl, rfl, rfl⟩

theorem move_bare (r : Runnable σ) (t : Tenure (σ × List Errand)) (m : WorkerMove σ) :
    (t.move r.recorded m.unseen).bare = t.bare.move r m := by
  cases m with
  | start =>
    obtain ⟨hworker, hstate⟩ := start_bare r t.worker t.state
    simp only [move, WorkerMove.unseen, bare, hworker, hstate]
  | stop timeout => rfl
  | meanwhile act => rfl
  | settle call =>
    by_cases hcall : ∃ timeout, t.stops[call]? = some ⟨timeout, none⟩
    · obtain ⟨timeout, hcall⟩ := hcall
      have hbare : t.bare.stops[call]? = some ⟨timeout, none⟩ := hcall
      obtain ⟨hanswer, hworker, hstate⟩ := stopWithin_bare r timeout t.worker t.state
      rw [move_settle hbare, WorkerMove.unseen, move_settle hcall]
      simp only [bare, hanswer, hworker, hstate]
    · have hidle := not_exists.mp hcall
      have hbare : ∀ timeout, t.bare.stops[call]? ≠ some ⟨timeout, none⟩ := hidle
      rw [move_idle hbare, WorkerMove.unseen, move_idle hidle]

theorem play_bare (r : Runnable σ) (t : Tenure (σ × List Errand)) (moves : List (WorkerMove σ)) :
    (play r.recorded t (moves.map WorkerMove.unseen)).bare = play r t.bare moves := by
  induction moves generalizing t with
  | nil => rfl
  | cons m moves ih => exact (ih _).trans (congrArg (play r · moves) (move_bare r t m))

/-! ## What one move adds to the record -/

theorem start_errands (r : Runnable σ) (worker : Worker) (s : σ × List Errand) :
    ∃ more, (Worker.start r.recorded worker s).2.2 = s.2 ++ more ∧
      (worker.stopping = true → more.countP Errand.isBegun = 0) := by
  by_cases hidle : worker.started = true ∨ worker.stopping = true
  · refine ⟨[], ?_, fun _ => rfl⟩
    simp only [Worker.start, List.append_nil]
    split
    · rfl
    · rw [if_pos (hidle.resolve_left ‹_›)]
  · obtain ⟨hstarted, hstopping⟩ := not_or.mp hidle
    refine ⟨[.begun], ?_, fun h => absurd h hstopping⟩
    simp only [Worker.start, if_neg hstarted, if_neg hstopping, Runnable.recorded]

theorem stopWithin_errands (r : Runnable σ) (timeout : Duration) (worker : Worker) (s : σ × List Errand) :
    ∃ more, (Worker.stopWithin r.recorded timeout worker s).2.2.2 = s.2 ++ more ∧
      more.countP Errand.isBegun = 0 := by
  simp only [Worker.stopWithin]
  cases worker.forbidStart.outcome with
  | some outcome => exact ⟨[], (List.append_nil _).symm, rfl⟩
  | none =>
    simp only [Worker.shutdown, Worker.joinRun]
    cases worker.forbidStart.running with
    | false => exact ⟨[_], rfl, rfl⟩
    | true => exact ⟨[_, _], List.append_assoc .., rfl⟩

/-- **A move adds to the record**, and once stopping was asked for it adds no beginning. -/
theorem move_errands (r : Runnable σ) (t : Tenure (σ × List Errand)) (m : WorkerMove σ) :
    ∃ more, (t.move r.recorded m.unseen).errands = t.errands ++ more ∧
      (t.worker.stopping = true → more.countP Errand.isBegun = 0) := by
  cases m with
  | start => exact start_errands r t.worker t.state
  | stop timeout => exact ⟨[], (List.append_nil _).symm, fun _ => rfl⟩
  | meanwhile act => exact ⟨[], (List.append_nil _).symm, fun _ => rfl⟩
  | settle call =>
    by_cases hcall : ∃ timeout, t.stops[call]? = some ⟨timeout, none⟩
    · obtain ⟨timeout, hcall⟩ := hcall
      obtain ⟨more, hmore, hnone⟩ := stopWithin_errands r timeout t.worker t.state
      exact ⟨more, by rw [WorkerMove.unseen, move_settle hcall]; exact hmore, fun _ => hnone⟩
    · exact ⟨[], by rw [WorkerMove.unseen, move_idle (not_exists.mp hcall), List.append_nil], fun _ => rfl⟩

theorem move_begun_le (r : Runnable σ) (t : Tenure (σ × List Errand)) (m : WorkerMove σ) :
    t.begun ≤ (t.move r.recorded m.unseen).begun := by
  obtain ⟨more, hmore, _⟩ := move_errands r t m
  rw [begun, begun, hmore, List.countP_append]
  exact Nat.le_add_right _ _

theorem play_begun_le (r : Runnable σ) (t : Tenure (σ × List Errand)) (moves : List (WorkerMove σ)) :
    t.begun ≤ (play r.recorded t (moves.map WorkerMove.unseen)).begun := by
  induction moves generalizing t with
  | nil => exact Nat.le_refl _
  | cons m moves ih => exact Nat.le_trans (move_begun_le r t m) (ih _)

/-- Stopping is never called off. -/
theorem move_stopping (m : WorkerMove σ) (h : t.worker.stopping = true) :
    (t.move r.recorded m.unseen).worker.stopping = true := by
  cases m with
  | start =>
    simp only [WorkerMove.unseen, move, Worker.start, h, if_true]
    split
    · exact h
    · rfl
  | stop timeout => rfl
  | meanwhile act => exact h
  | settle call =>
    by_cases hcall : ∃ timeout, t.stops[call]? = some ⟨timeout, none⟩
    · obtain ⟨timeout, hcall⟩ := hcall
      rw [WorkerMove.unseen, move_settle hcall]
      simp only [Worker.stopWithin]
      split <;> rfl
    · rwa [WorkerMove.unseen, move_idle (not_exists.mp hcall)]

/-- **Nothing begins once stopping was asked for.** -/
theorem play_begun_of_stopping (moves : List (WorkerMove σ)) (h : t.worker.stopping = true) :
    (play r.recorded t (moves.map WorkerMove.unseen)).begun = t.begun := by
  induction moves generalizing t with
  | nil => rfl
  | cons m moves ih =>
    obtain ⟨more, hmore, hnone⟩ := move_errands r t m
    refine (ih (move_stopping m h)).trans ?_
    rw [begun, begun, hmore, List.countP_append, hnone h, Nat.add_zero]

/-! ## Before and after the shutdown -/

/-- Nobody was answered yet. -/
structure Open (t : Tenure (σ × List Errand)) : Prop where
  outcome : t.worker.outcome = none
  waiting : ∀ stop ∈ t.stops, stop.answer = none
  asked : t.worker.stopping = true ↔ t.stops ≠ []
  started : t.worker.running = true → t.worker.started = true
  running : t.worker.started = true → t.worker.running = true ∨ t.worker.stopping = true
  record : t.errands = if t.worker.running then [.begun] else []

/-- The worker has stopped, and whoever was answered was told what came of it. -/
structure Over (timeout : Duration) (verdict : Except WorkerError Unit) (t : Tenure (σ × List Errand)) :
    Prop where
  outcome : t.worker.outcome = some verdict
  stopping : t.worker.stopping = true
  asked : t.stops ≠ []
  answers : ∀ stop ∈ t.stops, ∀ answer, stop.answer = some answer → answer = verdict
  proceeded : Proceeded timeout t.errands verdict

theorem Open.new (s : σ) : Open ({ state := (s, []) } : Tenure (σ × List Errand)) where
  outcome := rfl
  waiting := nofun
  asked := by simp
  started := id
  running := nofun
  record := rfl

/-- A start lets the run begin, if nothing speaks against it. -/
theorem Open.start (h : Open t) : Open (t.move r.recorded .start) ∧
    (t.stops = [] → (t.move r.recorded .start).worker.running = true) := by
  have hcalm : t.stops = [] → t.worker.stopping = false := fun hnone =>
    Bool.eq_false_iff.mpr fun hstopping => h.asked.mp hstopping hnone
  by_cases hstarted : t.worker.started = true
  · have hsame : t.move r.recorded .start = t := by simp only [move, Worker.start, hstarted, if_true]
    rw [hsame]
    refine ⟨h, fun hnone => (h.running hstarted).resolve_right ?_⟩
    simp [hcalm hnone]
  · have hidle : t.worker.running = false := Bool.eq_false_iff.mpr fun hrunning =>
      hstarted (h.started hrunning)
    have hrecord : t.errands = [] := by simpa [hidle] using h.record
    cases hstopping : t.worker.stopping with
    | true =>
      simp only [move, Worker.start, if_neg hstarted, hstopping, if_true]
      refine ⟨⟨h.outcome, h.waiting, by simpa [hstopping] using h.asked, fun _ => rfl,
        fun _ => .inr rfl, h.record⟩, fun hnone => ?_⟩
      simp [hcalm hnone] at hstopping
    | false =>
      simp only [move, Worker.start, if_neg hstarted, hstopping, Bool.false_eq_true, if_false]
      refine ⟨⟨h.outcome, h.waiting, by simpa [hstopping] using h.asked, fun _ => rfl, fun _ => .inl rfl,
        ?_⟩, fun _ => trivial⟩
      have hempty : t.state.2 = [] := hrecord
      simp [errands, Runnable.recorded, hempty]

/-- **A move before the shutdown** is either not the shutdown, or a call is answered with what comes
of it. -/
theorem Open.move (h : Open t) (m : WorkerMove σ) :
    Open (t.move r.recorded m.unseen) ∨
      ∃ call timeout outcome, m = .settle call ∧ t.stops[call]? = some ⟨timeout, none⟩ ∧
        Over timeout outcome (t.move r.recorded m.unseen) := by
  cases m with
  | start => exact .inl h.start.1
  | stop timeout =>
    refine .inl ⟨h.outcome, ?_, ?_, h.started, fun _ => .inr rfl, h.record⟩
    · intro stop hstop
      rcases List.mem_append.mp hstop with hold | hnew
      · exact h.waiting stop hold
      · rw [List.mem_singleton.mp hnew]
    · simp [WorkerMove.unseen, Tenure.move, Worker.forbidStart]
  | meanwhile act => exact .inl ⟨h.outcome, h.waiting, h.asked, h.started, h.running, h.record⟩
  | settle call =>
    by_cases hcall : ∃ timeout, t.stops[call]? = some ⟨timeout, none⟩
    · obtain ⟨timeout, hcall⟩ := hcall
      obtain ⟨hproceeded, houtcome, hstopping⟩ := stopWithin_verdict r timeout h.outcome h.record
      refine .inr ⟨call, timeout, (Worker.stopWithin r.recorded timeout t.worker t.state).1, rfl, hcall, ?_⟩
      rw [WorkerMove.unseen, move_settle hcall]
      refine ⟨houtcome, hstopping, ?_, ?_, hproceeded⟩
      · have hne : t.stops ≠ [] := fun hnone => by simp [hnone] at hcall
        simpa using hne
      · intro stop hstop answer hanswer
        rcases List.mem_or_eq_of_mem_set hstop with hold | hnew
        · rw [h.waiting stop hold] at hanswer
          cases hanswer
        · subst hnew
          exact (Option.some.inj hanswer).symm
    · rw [WorkerMove.unseen, move_idle (not_exists.mp hcall)]
      exact .inl h

/-- **A move after the shutdown** tells nobody anything else. -/
theorem Over.move {timeout : Duration} {outcome : Except WorkerError Unit} (h : Over timeout outcome t)
    (m : WorkerMove σ) : Over timeout outcome (t.move r.recorded m.unseen) := by
  cases m with
  | start =>
    simp only [WorkerMove.unseen, Tenure.move, Worker.start, h.stopping, if_true]
    split
    · exact ⟨h.outcome, h.stopping, h.asked, h.answers, h.proceeded⟩
    · exact ⟨h.outcome, rfl, h.asked, h.answers, h.proceeded⟩
  | stop limit =>
    refine ⟨h.outcome, rfl, by simp [WorkerMove.unseen, Tenure.move], ?_, h.proceeded⟩
    intro stop hstop answer hanswer
    rcases List.mem_append.mp hstop with hold | hnew
    · exact h.answers stop hold answer hanswer
    · obtain rfl := List.mem_singleton.mp hnew
      cases hanswer
  | meanwhile act => exact ⟨h.outcome, h.stopping, h.asked, h.answers, h.proceeded⟩
  | settle call =>
    by_cases hcall : ∃ limit, t.stops[call]? = some ⟨limit, none⟩
    · obtain ⟨limit, hcall⟩ := hcall
      rw [WorkerMove.unseen, move_settle hcall,
        Worker.stopWithin_of_outcome r.recorded limit t.state h.outcome]
      refine ⟨h.outcome, rfl, by simpa using h.asked, ?_, h.proceeded⟩
      intro stop hstop answer hanswer
      rcases List.mem_or_eq_of_mem_set hstop with hold | hnew
      · exact h.answers stop hold answer hanswer
      · subst hnew
        exact (Option.some.inj hanswer).symm
    · rwa [WorkerMove.unseen, move_idle (not_exists.mp hcall)]

theorem Over.play {timeout : Duration} {outcome : Except WorkerError Unit} (h : Over timeout outcome t)
    (moves : List (WorkerMove σ)) :
    Over timeout outcome (play r.recorded t (moves.map WorkerMove.unseen)) := by
  induction moves generalizing t with
  | nil => exact h
  | cons m moves ih => exact ih (h.move m)

/-- **The shutdown is one of the moves**, or has not come yet. -/
theorem Open.play (h : Open t) (moves : List (WorkerMove σ)) :
    Open (play r.recorded t (moves.map WorkerMove.unseen)) ∨
      ∃ before call after timeout outcome, moves = before ++ .settle call :: after ∧
        Open (Tenure.play r.recorded t (before.map WorkerMove.unseen)) ∧
        (Tenure.play r.recorded t (before.map WorkerMove.unseen)).stops[call]? = some ⟨timeout, none⟩ ∧
        Over timeout outcome (play r.recorded t (moves.map WorkerMove.unseen)) := by
  induction moves generalizing t with
  | nil => exact .inl h
  | cons m moves ih =>
    rcases h.move (r := r) m with hopen | ⟨call, timeout, outcome, rfl, hcall, hover⟩
    · rcases ih hopen with hlater | ⟨before, call, after, timeout, outcome, rfl, hbefore, hcall, hover⟩
      · exact .inl hlater
      · exact .inr ⟨m :: before, call, after, timeout, outcome, rfl, hbefore, hcall, hover⟩
    · exact .inr ⟨[], call, moves, timeout, outcome, rfl, h, hcall, hover.play moves⟩

/-- The run began once at most, and nothing was told to close. -/
theorem Open.told (h : Open t) : t.begun ≤ 1 ∧ t.closed = 0 := by
  rw [begun, closed, h.record]
  cases t.worker.running <;> decide

theorem watched_append (r : Runnable σ) (s : σ) (before after : List (WorkerMove σ)) :
    watched r s (before ++ after) =
      play r.recorded (watched r s before) (after.map WorkerMove.unseen) := by
  rw [watched, List.map_append, play_append]
  rfl

/-- The shutdown of a new worker. -/
theorem watched_cases (r : Runnable σ) (s : σ) (moves : List (WorkerMove σ)) :
    Open (watched r s moves) ∨
      ∃ before call after timeout outcome, moves = before ++ .settle call :: after ∧
        Open (watched r s before) ∧ (watched r s before).stops[call]? = some ⟨timeout, none⟩ ∧
        Over timeout outcome (watched r s moves) := (Open.new s).play moves

/-- A worker that somebody asked to stop is stopping. -/
theorem watched_stopping {s : σ} {moves : List (WorkerMove σ)} (hasked : (watched r s moves).stops ≠ []) :
    (watched r s moves).worker.stopping = true := by
  rcases watched_cases r s moves with hopen | ⟨_, _, _, _, _, _, _, _, hover⟩
  · exact hopen.asked.mpr hasked
  · exact hover.stopping

/-- A worker that nobody asked to stop has not stopped. -/
theorem watched_open {s : σ} {moves : List (WorkerMove σ)} (hnone : (watched r s moves).stops = []) :
    Open (watched r s moves) := by
  rcases watched_cases r s moves with hopen | ⟨_, _, _, _, _, _, _, _, hover⟩
  · exact hopen
  · exact absurd hnone hover.asked

/-- A start that comes before every call to stop lets the run begin. -/
theorem begun_of_start {s : σ} {before : List (WorkerMove σ)} (after : List (WorkerMove σ))
    (hnone : (watched r s before).stops = []) : 1 ≤ (watched r s (before ++ .start :: after)).begun := by
  obtain ⟨hopen, hrunning⟩ := (watched_open hnone).start (r := r)
  have hbegun : ((watched r s before).move r.recorded .start).begun = 1 := by
    rw [begun, hopen.record, if_pos (hrunning hnone)]
    rfl
  rw [watched_append, ← hbegun]
  exact play_begun_le r _ after

/-- The calls to stop are those that were made, with the times that were asked for. -/
theorem stops_asked (r : Runnable σ) (t : Tenure σ) (moves : List (WorkerMove σ)) :
    (play r t moves).stops.map StopCall.timeout =
      t.stops.map StopCall.timeout ++ moves.filterMap WorkerMove.timeout? := by
  induction moves generalizing t with
  | nil => exact (List.append_nil _).symm
  | cons m moves ih =>
    refine (ih (t.move r m)).trans ?_
    cases m with
    | start => rfl
    | stop timeout => simp [move, WorkerMove.timeout?]
    | meanwhile act => rfl
    | settle call =>
      by_cases hcall : ∃ timeout, t.stops[call]? = some ⟨timeout, none⟩
      · obtain ⟨timeout, hcall⟩ := hcall
        obtain ⟨hlt, hget⟩ := List.getElem?_eq_some_iff.mp hcall
        have hsame : (t.stops.map StopCall.timeout).set call timeout = t.stops.map StopCall.timeout := by
          have hmapped : (t.stops.map StopCall.timeout).get ⟨call, by rwa [List.length_map]⟩ = timeout := by
            simp [hget]
          rw [← hmapped]
          exact List.set_getElem_self _
        rw [move_settle hcall, List.map_set, hsame]
        rfl
      · rw [move_idle (not_exists.mp hcall)]
        rfl

/-- **A worker runs once and closes once, and all who stop it are told the same.** Whatever is run, and
however the calls of any number of callers and their answers follow one another:

* the run begins at most once, does so at a start that comes before every call to stop, and never after one;
* what is run is closed at most once, and every call to stop that was made is answered when its turn comes;
* once a call has been answered, what is run was closed exactly once, and a run that began has ended; the
  verdict is that on the call which was answered first, within its time, and whoever is answered is told
  it. -/
theorem one_run_one_close_one_outcome (r : Runnable σ) (s : σ) (moves : List (WorkerMove σ)) :
    let t := watched r s moves
    t.bare = play r { state := s } moves ∧
    t.stops.map StopCall.timeout = moves.filterMap WorkerMove.timeout? ∧
    t.begun ≤ 1 ∧ t.closed ≤ 1 ∧
    (∀ before after, moves = before ++ .start :: after → (watched r s before).stops = [] → t.begun = 1) ∧
    (∀ before after, moves = before ++ after → (watched r s before).stops ≠ [] →
      t.begun = (watched r s before).begun) ∧
    (∀ call stop, t.stops[call]? = some stop → ∃ outcome,
      (watched r s (moves ++ [.settle call])).stops[call]? = some ⟨stop.timeout, some outcome⟩) ∧
    ((∃ stop ∈ t.stops, stop.answer ≠ none) →
      t.closed = 1 ∧ (t.begun = 1 → ∃ ran, .ended ran ∈ t.errands) ∧
      ∃ before call after timeout outcome, moves = before ++ .settle call :: after ∧
        (∀ stop ∈ (watched r s before).stops, stop.answer = none) ∧
        (watched r s before).stops[call]? = some ⟨timeout, none⟩ ∧
        Proceeded timeout t.errands outcome ∧
        ∀ stop ∈ t.stops, ∀ answer, stop.answer = some answer → answer = outcome) := by
  intro t
  have hcases : Open t ∨ _ := watched_cases r s moves
  have htold : t.begun ≤ 1 ∧ t.closed ≤ 1 := by
    rcases hcases with hopen | ⟨_, _, _, _, _, _, _, _, hover⟩
    · exact ⟨hopen.told.1, Nat.le_trans (Nat.le_of_eq hopen.told.2) (Nat.zero_le 1)⟩
    · obtain ⟨hclosed, hbegun, _⟩ := hover.proceeded.closed_once
      exact ⟨hbegun, Nat.le_of_eq hclosed⟩
  have hbare : t.bare = play r { state := s } moves := play_bare r _ moves
  refine ⟨hbare, ?_, htold.1, htold.2, ?_, ?_, ?_, ?_⟩
  · have hstops : t.stops = (play r { state := s } moves).stops := congrArg Tenure.stops hbare
    rw [hstops]
    exact stops_asked r { state := s } moves
  · rintro before after hmoves hnone
    have hbegun := begun_of_start after hnone
    rw [← hmoves] at hbegun
    exact Nat.le_antisymm htold.1 hbegun
  · rintro before after hmoves hasked
    show (watched r s moves).begun = _
    rw [hmoves, watched_append]
    exact play_begun_of_stopping after (watched_stopping hasked)
  · intro call stop hstop
    rw [watched_append]
    exact settle_answers r.recorded hstop
  · rintro ⟨stop, hstop, hanswered⟩
    rcases hcases with hopen | ⟨before, call, after, timeout, outcome, hmoves, hbefore, hcall, hover⟩
    · exact absurd (hopen.waiting stop hstop) hanswered
    · obtain ⟨hclosed, _, hended⟩ := hover.proceeded.closed_once
      exact ⟨hclosed, fun hbegun => hended (Nat.lt_of_lt_of_eq Nat.zero_lt_one hbegun.symm), before, call,
        after, timeout, outcome, hmoves, hbefore.waiting, hcall, hover.proceeded, hover.answers⟩

end Tenure

/-! ## A crowd -/

/-- A toy that takes ten milliseconds to close. -/
def slowToy : Runnable Toy := Toy.runnable { closeDelay := .ofMillis 10 }

/-- Two callers stop it. The one who came second, and has less time, is answered first; somebody starts it
before, meanwhile and afterwards. -/
def crowd : List (WorkerMove Toy) :=
  [.start, .stop (.ofMillis 50), .start, .stop (.ofMillis 5), .settle 1, .start, .settle 0]

/-- What the two are told: closing took too long for the one who was answered first. -/
def tooLate : Except WorkerError Unit := .error (.stopTimeout (.ofMillis 5))

/-- **Both are told that it took too long**, though the first one had time enough. -/
theorem crowd_told_the_same :
    (Tenure.watched slowToy {} crowd).stops =
        [⟨.ofMillis 50, some tooLate⟩, ⟨.ofMillis 5, some tooLate⟩] ∧
      (Tenure.watched slowToy {} crowd).errands =
        [.begun, .closed (.ofMillis 10) (.ok ()), .ended (.ok ())] ∧
      (Tenure.watched slowToy {} crowd).closed = 1 ∧
      ∃ before call after timeout outcome, crowd = before ++ .settle call :: after ∧
        Proceeded timeout (Tenure.watched slowToy {} crowd).errands outcome ∧
        ∀ stop ∈ (Tenure.watched slowToy {} crowd).stops, ∀ answer, stop.answer = some answer →
          answer = outcome := by
  obtain ⟨_, _, _, _, _, _, _, hanswered⟩ := Tenure.one_run_one_close_one_outcome slowToy {} crowd
  obtain ⟨hclosed, _, before, call, after, timeout, outcome, hmoves, _, _, hproceeded, hsame⟩ :=
    hanswered ⟨⟨.ofMillis 50, some tooLate⟩, List.mem_cons_self, by simp⟩
  exact ⟨rfl, rfl, hclosed, before, call, after, timeout, outcome, hmoves, hproceeded, hsame⟩

end SymbolRelay
