import SymbolRelay.Proofs.Handling.SettingOut
import SymbolRelay.Service.Attendance

/-!
# A worker that is told to stop does

Of the three who share a router two wait at times: who starts and stops the worker waits for the report of
the closing and for the end of the run, and who closes the router waits for the end of the run. They never
wait for one another in a circle. Until the worker has stopped somebody can go on, and whoever goes on
brings that nearer.

## Results

* `Attended.turn`, `Attended.play` — what holds at any time;
* `Attended.some_ready`, `Attended.ready_kept` — somebody can go on, and still can after the turns of others;
* `Attended.left_turn`, `Attended.round` — what is left falls when they do;
* `Attended.stops` — so the worker stops once everybody had enough turns.
-/

set_option autoImplicit false

namespace SymbolRelay

variable {ξ : Type}

namespace Attendance

/-- All along, others spare what the run subscribed to, and the run gets what it subscribes to. -/
def Along [RetryLoop] (r : Router ξ) (ctx : Context) (d : Deadline) : Attendance ξ → List (StopTurn ξ) → Prop
  | _, [] => True
  | a, t :: turns =>
    (∀ m, a.move? ctx t = some m → a.router.Clean r m) ∧ Along r ctx d (a.turn r ctx d t) turns

/-- What holds of a router that somebody attends to. -/
structure Attended (r : Router ξ) (a : Attendance ξ) : Prop where
  heading : a.router.Heading r
  unasked : a.point = .idle ∨ a.point = .started → a.router.closers = []
  alone : a.router.closers.length ≤ 1
  awaited : .waiting ∈ a.router.closers → a.router.course ≠ none
  reports : ∀ outcome, .returned outcome ∈ a.router.closers → outcome = .ok ()
  joining : ∀ closed, a.point = .joining closed → closed = .ok () ∧ a.router.closers ≠ []
  stopped : ∀ outcome, a.point = .stopped outcome →
    ∃ ran, a.router.outcome? = some ran ∧ outcome = Worker.runResult ran

section Turns

variable {r : Router ξ} {ctx : Context} {d : Deadline} {a : Attendance ξ} {t : StopTurn ξ}
  {m : Lifecycle.Move ξ}

theorem play_append [RetryLoop] (before after : List (StopTurn ξ)) :
    play r ctx d a (before ++ after) = play r ctx d (play r ctx d a before) after := List.foldl_append

theorem along_append [RetryLoop] {before after : List (StopTurn ξ)} :
    Along r ctx d a (before ++ after) ↔
      Along r ctx d a before ∧ Along r ctx d (play r ctx d a before) after := by
  induction before generalizing a with
  | nil => exact ⟨fun h => ⟨trivial, h⟩, fun h => h.2⟩
  | cons t before ih =>
    rw [List.cons_append, Along, Along, ih, and_assoc]
    rfl

/-- A turn that is not the caller's is what the one does to the router whose turn it is. -/
theorem turn_of_some [RetryLoop] (hm : a.move? ctx t = some m) :
    a.turn r ctx d t = { a with router := a.router.move r m } := by
  cases t with
  | caller => cases hm
  | _ => simp only [turn, hm, Option.map_some, Option.getD_some]

/-- A thread that is not there yet does nothing. -/
theorem turn_of_none [RetryLoop] (hm : a.move? ctx t = none) (ht : t ≠ .caller) : a.turn r ctx d t = a := by
  cases t with
  | caller => exact absurd rfl ht
  | _ => simp only [turn, hm, Option.map_none, Option.getD_none]

/-- The thread that runs the router is there once the worker was started. -/
theorem move?_runner (ctx : Context) (hpoint : a.point ≠ .idle) :
    a.move? ctx .runner = some (a.router.runner ctx) := by
  cases hp : a.point with
  | idle => exact absurd hp hpoint
  | _ => simp only [move?, hp]

/-- The thread that closes it is there once stopping was asked for. -/
theorem move?_closer (ctx : Context) (hpoint : a.point ≠ .idle ∧ a.point ≠ .started) :
    a.move? ctx .closer = some (if a.router.closers.isEmpty then .close else .closer 0) := by
  cases hp : a.point with
  | idle => exact absurd hp hpoint.1
  | started => exact absurd hp hpoint.2
  | _ => simp only [move?, hp]

/-- The timeout does not expire. -/
theorem verdict_ok (d : Deadline) (ran : Outcome RouterError Unit) :
    verdict d (.ok ()) ran = Worker.runResult ran := by
  simp only [verdict, Worker.closeResult, if_neg (Nat.not_le_of_lt d.met)]

/-- Whose move it is. -/
theorem move?_cases (hm : a.move? ctx t = some m) :
    t = .runner ∧ a.point ≠ .idle ∧ m = a.router.runner ctx ∨
      t = .closer ∧ (a.point ≠ .idle ∧ a.point ≠ .started) ∧
        m = (if a.router.closers.isEmpty then .close else .closer 0) ∨
      ∃ world, t = .meanwhile world ∧ m = .meanwhile world := by
  cases t with
  | caller => cases hm
  | meanwhile world => exact .inr (.inr ⟨world, rfl, (Option.some.inj hm).symm⟩)
  | runner =>
    refine .inl ⟨rfl, ?_⟩
    cases hpoint : a.point <;> simp only [move?, hpoint] at hm
    · cases hm
    all_goals exact ⟨nofun, (Option.some.inj hm).symm⟩
  | closer =>
    refine .inr (.inl ⟨rfl, ?_⟩)
    cases hpoint : a.point <;> simp only [move?, hpoint] at hm
    · cases hm
    · cases hm
    all_goals exact ⟨⟨nofun, nofun⟩, (Option.some.inj hm).symm⟩

/-! ## Who closes the router -/

/-- Only who closes the router changes how far that has come. -/
theorem closers_move [RetryLoop] (l : Lifecycle ξ) (hm : a.move? ctx t = some m) (ht : t ≠ .closer) :
    (l.move r m).closers = l.closers := by
  rcases move?_cases hm with ⟨_, _, rfl⟩ | ⟨rfl, _⟩ | ⟨world, _, rfl⟩
  · simp only [Lifecycle.runner]
    split
    · simp only [Lifecycle.move, Lifecycle.run]
      split <;> rfl
    · simp only [Lifecycle.move, Lifecycle.advance]
      split <;> rfl
  · exact absurd rfl ht
  · rfl

/-- The next act of who closes the router. -/
def closeNext (r : Router ξ) (l : Lifecycle ξ) : ClosePoint → ClosePoint
  | .ringing => .looking
  | .looking => if l.world.control.started then .waiting else .shutting
  | .waiting => if l.released then .shutting else .waiting
  | .shutting => .returned ((r.subscriber.close l.world).1.mapError .close)
  | .returned outcome => .returned outcome

theorem closeOn_alone {l : Lifecycle ξ} {p : ClosePoint} (h : l.closers = [p]) :
    (l.closeOn r 0).closers = [closeNext r l p] := by
  cases p <;> simp [Lifecycle.closeOn, closeNext, h]

/-- At most one closes the router. -/
theorem Attended.only (h : Attended r a) {p : ClosePoint} (hp : p ∈ a.router.closers) :
    a.router.closers = [p] := by
  have halone := h.alone
  cases hclosers : a.router.closers with
  | nil => simp [hclosers] at hp
  | cons q rest =>
    rw [hclosers] at halone hp
    obtain rfl : rest = [] := List.eq_nil_of_length_eq_zero (by simpa using halone)
    rw [List.mem_singleton.mp hp]

/-- The report is that of who closes the router. -/
theorem mem_of_report {outcome : Outcome RouterError Unit} (hreport : a.report? = some outcome) :
    .returned outcome ∈ a.router.closers := by
  simp only [report?] at hreport
  split at hreport
  · rename_i o rest hclosers
    obtain rfl := Option.some.inj hreport
    exact hclosers ▸ List.mem_cons_self
  · cases hreport

/-- Where who closes the router is after its next act. -/
theorem Attended.closer_next [RetryLoop] (h : Attended r a)
    (hm : m = (if a.router.closers.isEmpty then .close else .closer 0)) :
    a.router.closers = [] ∧ (∃ p, (a.router.move r m).closers = [p] ∧ (p = .ringing ∨ p = .looking)) ∨
      ∃ p, a.router.closers = [p] ∧ (a.router.move r m).closers = [closeNext r a.router p] := by
  cases hclosers : a.router.closers with
  | nil =>
    rw [hclosers] at hm
    obtain rfl := hm
    refine .inl ⟨rfl, ?_⟩
    simp only [Lifecycle.move, Lifecycle.close, hclosers]
    cases a.router.world.control.closing
    · exact ⟨_, rfl, .inl rfl⟩
    · exact ⟨_, rfl, .inr rfl⟩
  | cons p rest =>
    have honly := h.only (hclosers ▸ List.mem_cons_self)
    rw [hclosers] at hm
    obtain rfl := hm
    exact .inr ⟨p, hclosers.symm.trans honly, closeOn_alone honly⟩

/-! ## What holds at any time -/

theorem Attended.new {w : World ξ} (hnew : w.control = {}) (hq : w.queue.Reached) :
    Attended r { router := { world := w } } where
  heading := .fresh (.new hnew hq) (.new w)
  unasked _ := rfl
  alone := Nat.zero_le 1
  awaited := nofun
  reports := nofun
  joining := nofun
  stopped := nofun

/-- What the caller comes to, it comes to beside the router. -/
theorem Attended.come_to (h : Attended r a) {p : StopPoint}
    (hunasked : p = .idle ∨ p = .started → a.router.closers = [])
    (hjoining : ∀ closed, p = .joining closed → closed = .ok () ∧ a.router.closers ≠ [])
    (hstopped : ∀ outcome, p = .stopped outcome →
      ∃ ran, a.router.outcome? = some ran ∧ outcome = Worker.runResult ran) :
    Attended r { a with point := p } :=
  ⟨h.heading, hunasked, h.alone, h.awaited, h.reports, hjoining, hstopped⟩

/-- The caller's turn. -/
theorem Attended.caller (h : Attended r a) (d : Deadline) : Attended r { a with point := a.callerOn d } := by
  cases hpoint : a.point with
  | idle =>
    simp only [callerOn, hpoint]
    exact h.come_to (fun _ => h.unasked (.inl hpoint)) (by simp) (by simp)
  | started =>
    simp only [callerOn, hpoint]
    exact h.come_to (by simp) (by simp) (by simp)
  | closing =>
    cases hreport : a.report? with
    | none =>
      simp only [callerOn, hpoint, hreport, Option.map_none, Option.getD_none]
      exact h.come_to (by simp) (by simp) (by simp)
    | some outcome =>
      have hreturned := mem_of_report hreport
      simp only [callerOn, hpoint, hreport, Option.map_some, Option.getD_some]
      refine h.come_to (by simp) (fun closed hclosed => ?_) (by simp)
      obtain rfl := StopPoint.joining.inj hclosed
      exact ⟨h.reports outcome hreturned, List.ne_nil_of_mem hreturned⟩
  | joining closed =>
    cases hran : a.router.outcome? with
    | none =>
      simp only [callerOn, hpoint, hran, Option.map_none, Option.getD_none]
      refine h.come_to (by simp) (fun other hother => ?_) (by simp)
      obtain rfl := StopPoint.joining.inj hother
      exact h.joining closed hpoint
    | some ran =>
      simp only [callerOn, hpoint, hran, Option.map_some, Option.getD_some]
      refine h.come_to (by simp) (by simp) (fun outcome houtcome => ⟨ran, hran, ?_⟩)
      rw [← StopPoint.stopped.inj houtcome, (h.joining closed hpoint).1, verdict_ok]
  | stopped outcome =>
    have hsame : a.callerOn d = a.point := by simp only [callerOn, hpoint]
    rwa [hsame]

/-- What a stop was told stays true. -/
theorem Attended.told [RetryLoop] (h : Attended r a) (m : Lifecycle.Move ξ) :
    ∀ outcome, a.point = .stopped outcome →
    ∃ ran, (a.router.move r m).outcome? = some ran ∧ outcome = Worker.runResult ran := by
  intro outcome hpoint
  obtain ⟨ran, hran, hverdict⟩ := h.stopped outcome hpoint
  exact ⟨ran, h.heading.outcome_move hran, hverdict⟩

/-- What a turn does to the router that leaves alone who closes it. -/
theorem Attended.move [RetryLoop] (hr : r.OnQueue) (h : Attended r a) (hclean : a.router.Clean r m)
    (hclosers : (a.router.move r m).closers = a.router.closers) :
    Attended r { a with router := a.router.move r m } where
  heading := h.heading.move hr hclean
  unasked hpoint := hclosers.trans (h.unasked hpoint)
  alone := hclosers ▸ h.alone
  awaited hwaiting := Lifecycle.course_move (h.awaited (hclosers ▸ hwaiting)) m
  reports outcome hreturned := h.reports outcome (hclosers ▸ hreturned)
  joining closed hpoint := hclosers ▸ h.joining closed hpoint
  stopped := h.told m

/-- Who closes the router waits for a run only if there is one, and reports that closing went well. -/
theorem Attended.closeNext_cases (hr : r.OnQueue) (h : Attended r a) {p : ClosePoint}
    (hp : p ∈ a.router.closers) :
    (closeNext r a.router p = .waiting → a.router.course ≠ none) ∧
      ∀ outcome, closeNext r a.router p = .returned outcome → outcome = .ok () := by
  cases p with
  | ringing => simp [closeNext]
  | looking =>
    simp only [closeNext]
    cases hstarted : a.router.world.control.started with
    | true => exact ⟨fun _ => h.heading.begun_of_started hstarted, by simp⟩
    | false => simp
  | waiting =>
    simp only [closeNext]
    cases a.router.released with
    | true => simp
    | false => exact ⟨fun _ => h.awaited hp, by simp⟩
  | shutting =>
    simp only [closeNext, hr.subscriber, Subscriber.close_apply]
    exact ⟨by simp, fun outcome hreturned => (ClosePoint.returned.inj hreturned).symm⟩
  | returned o =>
    simp only [closeNext]
    refine ⟨by simp, fun outcome hreturned => ?_⟩
    exact (ClosePoint.returned.inj hreturned) ▸ h.reports o hp

/-- The turn of who closes the router. -/
theorem Attended.closer [RetryLoop] (hr : r.OnQueue) (h : Attended r a) (hclean : a.router.Clean r m)
    (hthere : a.point ≠ .idle ∧ a.point ≠ .started)
    (hm : m = (if a.router.closers.isEmpty then .close else .closer 0)) :
    Attended r { a with router := a.router.move r m } := by
  have hcomes : ∃ q, (a.router.move r m).closers = [q] ∧ (q = .waiting → a.router.course ≠ none) ∧
      ∀ outcome, q = .returned outcome → outcome = .ok () := by
    rcases h.closer_next hm with ⟨_, p, hnext, rfl | rfl⟩ | ⟨p, hclosers, hnext⟩
    · exact ⟨_, hnext, by simp, by simp⟩
    · exact ⟨_, hnext, by simp, by simp⟩
    · exact ⟨_, hnext, h.closeNext_cases hr (by simp [hclosers])⟩
  obtain ⟨q, hnext, hwaiting, hreports⟩ := hcomes
  refine ⟨h.heading.move hr hclean, fun hpoint => (hpoint.elim hthere.1 hthere.2).elim, by simp [hnext],
    ?_, ?_, ?_, h.told m⟩
  · intro hq
    rw [hnext, List.mem_singleton] at hq
    exact Lifecycle.course_move (hwaiting hq.symm) m
  · intro outcome hq
    rw [hnext, List.mem_singleton] at hq
    exact hreports outcome hq.symm
  · intro closed hpoint
    exact ⟨(h.joining closed hpoint).1, by simp [hnext]⟩

/-- **Whoever has its turn**, what holds goes on to hold. -/
theorem Attended.turn [RetryLoop] (hr : r.OnQueue) (h : Attended r a)
    (hclean : ∀ m, a.move? ctx t = some m → a.router.Clean r m) : Attended r (a.turn r ctx d t) := by
  by_cases hcaller : t = .caller
  · subst hcaller
    exact h.caller d
  · cases hm : a.move? ctx t with
    | none => rwa [turn_of_none hm hcaller]
    | some m =>
      rw [turn_of_some hm]
      rcases move?_cases hm with ⟨ht, _⟩ | ⟨_, hthere, hcloser⟩ | ⟨world, ht, _⟩
      · exact h.move hr (hclean m hm) (closers_move a.router hm (by simp [ht]))
      · exact h.closer hr (hclean m hm) hthere hcloser
      · exact h.move hr (hclean m hm) (closers_move a.router hm (by simp [ht]))

theorem Attended.play [RetryLoop] (hr : r.OnQueue) (h : Attended r a) {turns : List (StopTurn ξ)}
    (hm : Along r ctx d a turns) : Attended r (play r ctx d a turns) := by
  induction turns generalizing a with
  | nil => exact h
  | cons t turns ih => exact ih (h.turn hr hm.1) hm.2

/-! ## Who can go on -/

/-- How many acts the caller has left. -/
def callerLeft : StopPoint → Nat
  | .idle => 4
  | .started => 3
  | .closing => 2
  | .joining _ => 1
  | .stopped _ => 0

/-- How many acts are left to who closes the router. -/
def closerLeft : List ClosePoint → Nat
  | [] => 5
  | .ringing :: _ => 4
  | .looking :: _ => 3
  | .waiting :: _ => 2
  | .shutting :: _ => 1
  | .returned _ :: _ => 0

/-- How many acts are left at most until the worker has stopped. -/
def left (r : Router ξ) (a : Attendance ξ) : Nat :=
  callerLeft a.point + closerLeft a.router.closers + a.router.toGo r

/-- Whoever can go on in its next turn, so that less is left. -/
def Ready (a : Attendance ξ) : StopTurn ξ → Prop
  | .caller =>
    match a.point with
    | .idle | .started => True
    | .closing => a.report? ≠ none
    | .joining _ => a.router.outcome? ≠ none
    | .stopped _ => False
  | .runner => a.point ≠ .idle ∧ a.router.world.control.closing = true ∧ a.router.outcome? = none
  | .closer => (a.point ≠ .idle ∧ a.point ≠ .started) ∧ (∀ outcome, a.router.closers ≠ [.returned outcome]) ∧
      (a.router.closers = [.waiting] → a.router.released = true)
  | .meanwhile _ => False

/-- Once closing was asked for, a run that is not over can go on. -/
theorem Attended.runner_ready (h : Attended r a) (hpoint : a.point ≠ .idle) (hasked : a.router.closers ≠ [])
    (hgoing : a.router.outcome? = none) : a.Ready .runner :=
  ⟨hpoint, h.heading.guarded.asked hasked, hgoing⟩

/-- **Until the worker has stopped, somebody can go on.** -/
theorem Attended.some_ready (h : Attended r a) (hpoint : ∀ outcome, a.point ≠ .stopped outcome) :
    a.Ready .caller ∨ a.Ready .runner ∨ a.Ready .closer := by
  cases hp : a.point with
  | idle | started => exact .inl (by simp only [Ready, hp])
  | stopped outcome => exact absurd hp (hpoint outcome)
  | joining closed =>
    cases hran : a.router.outcome? with
    | none => exact .inr (.inl (h.runner_ready (by simp [hp]) (h.joining closed hp).2 hran))
    | some ran => exact .inl (by simp [Ready, hp, hran])
  | closing =>
    have hthere : a.point ≠ .idle ∧ a.point ≠ .started := by simp [hp]
    cases hlist : a.router.closers with
    | nil => exact .inr (.inr ⟨hthere, by simp [hlist]⟩)
    | cons p rest =>
      have hclosers := h.only (hlist ▸ List.mem_cons_self)
      cases p with
      | returned outcome => exact .inl (by simp [Ready, hp, report?, hclosers])
      | waiting =>
        -- It waits for the end of the run, unless it was released.
        cases hreleased : a.router.released with
        | true => exact .inr (.inr ⟨hthere, by simp [hclosers], fun _ => hreleased⟩)
        | false =>
          refine .inr (.inl (h.runner_ready (by simp [hp]) (by simp [hclosers]) ?_))
          cases hran : a.router.outcome? with
          | none => rfl
          | some ran =>
            cases hcourse : a.router.course with
            | none => simp [Lifecycle.outcome?, hcourse] at hran
            | some c =>
              have hbegun := h.heading.unharmed hcourse
              have hover := hbegun.steady.begun.released ran (hbegun.steady.returned_of_outcome hran)
              simp [hreleased] at hover
      | _ => exact .inr (.inr ⟨hthere, by simp [hclosers], by simp [hclosers]⟩)

/-! ## What is left -/

/-- No act of who closes the router undoes what it did. -/
theorem closerLeft_next (r : Router ξ) (l : Lifecycle ξ) (p : ClosePoint) :
    closerLeft [closeNext r l p] ≤ closerLeft [p] ∧
      ((∀ outcome, p ≠ .returned outcome) → (p = .waiting → l.released = true) →
        closerLeft [closeNext r l p] < closerLeft [p]) := by
  cases p with
  | looking => cases hstarted : l.world.control.started <;> simp [closeNext, hstarted, closerLeft]
  | waiting => cases hreleased : l.released <;> simp [closeNext, hreleased, closerLeft]
  | _ => simp [closeNext, closerLeft]

theorem Attended.closerLeft_le [RetryLoop] (h : Attended r a)
    (hm : m = (if a.router.closers.isEmpty then .close else .closer 0)) :
    closerLeft (a.router.move r m).closers ≤ closerLeft a.router.closers ∧
      (a.Ready .closer → closerLeft (a.router.move r m).closers < closerLeft a.router.closers) := by
  rcases h.closer_next hm with ⟨hnone, p, hnext, rfl | rfl⟩ | ⟨p, hclosers, hnext⟩
  · simp [hnone, hnext, closerLeft]
  · simp [hnone, hnext, closerLeft]
  · rw [hclosers, hnext]
    obtain ⟨hle, hlt⟩ := closerLeft_next r a.router p
    refine ⟨hle, fun ⟨_, hreturned, hwaiting⟩ => hlt ?_ ?_⟩
    · rintro outcome rfl
      exact hreturned outcome hclosers
    · rintro rfl
      exact hwaiting hclosers

/-- The caller's next act. -/
theorem callerLeft_le (a : Attendance ξ) (d : Deadline) : callerLeft (a.callerOn d) ≤ callerLeft a.point ∧
    (a.Ready .caller → callerLeft (a.callerOn d) < callerLeft a.point) := by
  cases hpoint : a.point with
  | closing => cases hreport : a.report? <;> simp [callerOn, hpoint, hreport, callerLeft, Ready]
  | joining closed => cases hran : a.router.outcome? <;> simp [callerOn, hpoint, hran, callerLeft, Ready]
  | _ => simp [callerOn, hpoint, callerLeft, Ready]

/-- **Whoever goes on** leaves less to do, and nobody leaves more. -/
theorem Attended.left_turn [RetryLoop] (hr : r.OnQueue) (h : Attended r a)
    (hclean : ∀ m, a.move? ctx t = some m → a.router.Clean r m) :
    left r (a.turn r ctx d t) ≤ left r a ∧ (a.Ready t → left r (a.turn r ctx d t) < left r a) := by
  cases t with
  | caller =>
    obtain ⟨hle, hlt⟩ := callerLeft_le a d
    simp only [left, Attendance.turn]
    exact ⟨by omega, fun hready => by have := hlt hready; omega⟩
  | meanwhile world =>
    have hle := h.heading.toGo_move hr (hclean _ rfl)
    have hclosers : (a.router.move r (.meanwhile world)).closers = a.router.closers := rfl
    rw [turn_of_some rfl]
    simp only [left, hclosers]
    exact ⟨by omega, nofun⟩
  | runner =>
    by_cases hidle : a.point = .idle
    · have hm : a.move? ctx .runner = none := by simp only [move?, hidle]
      rw [turn_of_none hm nofun]
      exact ⟨Nat.le_refl _, fun hready => absurd hidle hready.1⟩
    · have hm := move?_runner ctx hidle
      have hle := h.heading.toGo_move hr (hclean _ hm)
      rw [turn_of_some hm]
      simp only [left, closers_move (r := r) a.router hm nofun]
      refine ⟨by omega, fun ⟨_, hclosing, hgoing⟩ => ?_⟩
      have hnearer := h.heading.toGo_runner hr (hclean _ hm) hclosing
      have hpos := h.heading.toGo_pos hclosing hgoing
      omega
  | closer =>
    by_cases hthere : a.point ≠ .idle ∧ a.point ≠ .started
    · have hm := move?_closer ctx hthere
      have hle := h.heading.toGo_move hr (hclean _ hm)
      obtain ⟨hclosers, hlt⟩ := h.closerLeft_le rfl
      rw [turn_of_some hm]
      simp only [left]
      refine ⟨by omega, fun hready => ?_⟩
      have hfewer := hlt hready
      omega
    · have hm : a.move? ctx .closer = none := by
        cases hpoint : a.point with
        | idle | started => simp only [move?, hpoint]
        | _ => simp [hpoint] at hthere
      rw [turn_of_none hm nofun]
      exact ⟨Nat.le_refl _, fun hready => absurd hready.1 hthere⟩

/-! ## Rounds -/

/-- What the moves of a turn keep of the router, the turn keeps. -/
theorem kept_turn [RetryLoop] {P : Lifecycle ξ → Prop}
    (hmove : ∀ m, a.move? ctx t = some m → P (a.router.move r m)) (h : P a.router) :
    P (a.turn r ctx d t).router := by
  by_cases hcaller : t = .caller
  · subst hcaller
    exact h
  · cases hm : a.move? ctx t with
    | none => rwa [turn_of_none hm hcaller]
    | some m =>
      rw [turn_of_some hm]
      exact hmove m hm

/-- What every move keeps of the router holds all along. -/
theorem kept_play [RetryLoop] {P : Lifecycle ξ → Prop} (hmove : ∀ l m, l.Clean r m → P l → P (l.move r m))
    {turns : List (StopTurn ξ)} (hm : Along r ctx d a turns) (h : P a.router) :
    P (play r ctx d a turns).router := by
  induction turns generalizing a with
  | nil => exact h
  | cons t turns ih => exact ih hm.2 (kept_turn (fun m hm' => hmove _ _ (hm.1 m hm') h) h)

/-- Nobody but the caller brings the caller anywhere. -/
theorem point_turn [RetryLoop] (ht : t ≠ .caller) : (a.turn r ctx d t).point = a.point := by
  cases hm : a.move? ctx t with
  | none => rw [turn_of_none hm ht]
  | some m => rw [turn_of_some hm]

theorem stopped_turn [RetryLoop] {outcome : Except WorkerError Unit} (h : a.point = .stopped outcome) :
    (a.turn r ctx d t).point = .stopped outcome := by
  by_cases hcaller : t = .caller
  · subst hcaller
    simp only [turn, callerOn, h]
  · rw [point_turn hcaller, h]

/-- **A worker that has stopped** stays so. -/
theorem stopped_play [RetryLoop] {outcome : Except WorkerError Unit} (h : a.point = .stopped outcome)
    (turns : List (StopTurn ξ)) : (play r ctx d a turns).point = .stopped outcome := by
  induction turns generalizing a with
  | nil => exact h
  | cons t turns ih => exact ih (stopped_turn h)

/-- The caller does not go back. -/
theorem callerLeft_turn [RetryLoop] (r : Router ξ) (ctx : Context) (d : Deadline) (a : Attendance ξ)
    (t : StopTurn ξ) :
    callerLeft (a.turn r ctx d t).point ≤ callerLeft a.point := by
  by_cases hcaller : t = .caller
  · subst hcaller
    exact (callerLeft_le a d).1
  · exact Nat.le_of_eq (congrArg callerLeft (point_turn hcaller))

theorem started_iff : a.point ≠ .idle ↔ callerLeft a.point ≤ 3 := by
  cases a.point <;> simp [callerLeft]

theorem asked_iff : (a.point ≠ .idle ∧ a.point ≠ .started) ↔ callerLeft a.point ≤ 2 := by
  cases a.point <;> simp [callerLeft]

theorem closers_turn [RetryLoop] (ht : t ≠ .closer) : (a.turn r ctx d t).router.closers = a.router.closers :=
  kept_turn (P := fun l => l.closers = a.router.closers) (fun _ hm => closers_move a.router hm ht) rfl

/-- A report is not taken back. -/
theorem Attended.report_turn [RetryLoop] (h : Attended r a) (hreport : a.report? ≠ none) :
    (a.turn r ctx d t).report? ≠ none := by
  obtain ⟨outcome, hsome⟩ := Option.ne_none_iff_exists'.mp hreport
  have hclosers := h.only (mem_of_report hsome)
  have hstill : (a.turn r ctx d t).router.closers = [.returned outcome] := by
    by_cases ht : t = .closer
    · subst ht
      refine kept_turn (P := fun l => l.closers = [.returned outcome]) (fun m hm => ?_) hclosers
      rcases move?_cases hm with ⟨hrunner, _⟩ | ⟨_, _, rfl⟩ | ⟨world, hmeanwhile, _⟩
      · cases hrunner
      · simp only [hclosers, List.isEmpty_cons, Bool.false_eq_true, if_false]
        exact closeOn_alone hclosers
      · cases hmeanwhile
    · rw [closers_turn ht, hclosers]
  simp [report?, hstill]

/-- **Who can go on still can** after the turn of another. -/
theorem Attended.ready_kept [RetryLoop] (hr : r.OnQueue) (h : Attended r a)
    (hclean : ∀ m, a.move? ctx t = some m → a.router.Clean r m) {u : StopTurn ξ} (hother : t ≠ u)
    (hready : a.Ready u) : (a.turn r ctx d t).Ready u := by
  have hcaller := callerLeft_turn r ctx d a t
  cases u with
  | meanwhile world => exact hready.elim
  | caller =>
    simp only [Ready, point_turn hother] at hready ⊢
    cases hpoint : a.point with
    | idle | started => trivial
    | stopped outcome => simp [hpoint] at hready
    | closing =>
      rw [hpoint] at hready
      exact h.report_turn hready
    | joining closed =>
      rw [hpoint] at hready
      obtain ⟨ran, hran⟩ := Option.ne_none_iff_exists'.mp hready
      have hstill : (a.turn r ctx d t).router.outcome? = some ran :=
        kept_turn (P := fun l => l.outcome? = some ran) (fun m _ => h.heading.outcome_move hran) hran
      simp [hstill]
  | runner =>
    obtain ⟨hpoint, hclosing, hgoing⟩ := hready
    refine ⟨started_iff.mpr (Nat.le_trans hcaller (started_iff.mp hpoint)), ?_, ?_⟩
    · exact kept_turn (P := fun l => l.world.control.closing = true)
        (fun m hm => h.heading.closing_move hr (hclean m hm) hclosing) hclosing
    · refine kept_turn (P := fun l => l.outcome? = none) (fun m hm => ?_) hgoing
      refine h.heading.outcome_still ?_ hgoing
      rcases move?_cases hm with ⟨ht, _⟩ | ⟨_, _, rfl⟩ | ⟨world, _, rfl⟩
      · exact absurd ht hother
      · split <;> exact nofun
      · exact nofun
  | closer =>
    obtain ⟨hpoint, hreturned, hwaiting⟩ := hready
    refine ⟨asked_iff.mpr (Nat.le_trans hcaller (asked_iff.mp hpoint)), ?_, ?_⟩
    · rwa [closers_turn hother]
    · rw [closers_turn hother]
      exact fun hclosers => kept_turn (P := fun l => l.released = true)
        (fun m _ => Lifecycle.released_move r (hwaiting hclosers) m) (hwaiting hclosers)

theorem Attended.left_play [RetryLoop] (hr : r.OnQueue) (h : Attended r a) {turns : List (StopTurn ξ)}
    (hm : Along r ctx d a turns) : left r (Attendance.play r ctx d a turns) ≤ left r a := by
  induction turns generalizing a with
  | nil => exact Nat.le_refl _
  | cons t turns ih => exact Nat.le_trans (ih (h.turn hr hm.1) hm.2) (h.left_turn hr hm.1).1

/-- **Less is left once somebody had a turn who could go on.** -/
theorem Attended.round [RetryLoop] (hr : r.OnQueue) (h : Attended r a) {turns : List (StopTurn ξ)}
    (hm : Along r ctx d a turns) {u : StopTurn ξ} (hready : a.Ready u) (hturn : u ∈ turns) :
    left r (Attendance.play r ctx d a turns) < left r a := by
  induction turns generalizing a with
  | nil => cases hturn
  | cons t turns ih =>
    have hnext := h.turn (d := d) hr hm.1
    obtain ⟨hle, hlt⟩ := h.left_turn (d := d) hr hm.1
    by_cases htu : t = u
    · subst htu
      exact Nat.lt_of_le_of_lt (hnext.left_play hr hm.2) (hlt hready)
    · have hlater : u ∈ turns := (List.mem_cons.mp hturn).resolve_left (Ne.symm htu)
      exact Nat.lt_of_lt_of_le (ih hnext hm.2 (h.ready_kept hr hm.1 htu hready) hlater) hle

/-- So many times over, everybody has a turn. -/
def Rounds : Nat → List (StopTurn ξ) → Prop
  | 0, _ => True
  | n + 1, turns => ∃ round rest, turns = round ++ rest ∧
      (.caller ∈ round ∧ .runner ∈ round ∧ .closer ∈ round) ∧ Rounds n rest

/-- **The worker stops** once everybody had as many turns as there are acts left. -/
theorem Attended.stops [RetryLoop] (hr : r.OnQueue) (h : Attended r a) {turns : List (StopTurn ξ)}
    (hm : Along r ctx d a turns) {n : Nat} (hrounds : Rounds n turns) (hleft : left r a ≤ n) :
    ∃ outcome, (Attendance.play r ctx d a turns).point = .stopped outcome := by
  induction n generalizing a turns with
  | zero =>
    cases hpoint : a.point with
    | stopped outcome => exact ⟨outcome, stopped_play hpoint turns⟩
    | _ => simp [left, hpoint, callerLeft] at hleft
  | succ n ih =>
    by_cases hover : ∃ outcome, a.point = .stopped outcome
    · obtain ⟨outcome, hpoint⟩ := hover
      exact ⟨outcome, stopped_play hpoint turns⟩
    · obtain ⟨round, rest, rfl, ⟨hcaller, hrunner, hcloser⟩, hrest⟩ := hrounds
      obtain ⟨hround, hafter⟩ := along_append.mp hm
      have hless : left r (Attendance.play r ctx d a round) < left r a := by
        rcases h.some_ready (not_exists.mp hover) with hready | hready | hready
        · exact h.round hr hround hready hcaller
        · exact h.round hr hround hready hrunner
        · exact h.round hr hround hready hcloser
      rw [play_append]
      exact ih (h.play hr hround) hafter hrest (by omega)

end Turns

end Attendance

end SymbolRelay
