import SymbolRelay.Handling.Course
import SymbolRelay.Proofs.Handling.Keeping

/-!
# Acts and steps

A run goes in steps, or in the single acts that others can come between. A step is some acts: those of a
turn, of the end of a round, of the way out. If nobody comes in between, they come to the same.

## Results

* `follows_start`, `follows_run` — if nobody comes in between, a run in single acts is the run in steps.
-/

set_option autoImplicit false

namespace SymbolRelay

variable {ξ : Type}

theorem Run.giveBack_cons (route : Route ξ) (rest : List (Route ξ)) (w : World ξ) :
    giveBack (route :: rest) w =
      (((route.subscription.discard (ε := Empty) w).1.panic?).or
        (giveBack rest (route.subscription.discard (ε := Empty) w).2).1,
        (giveBack rest (route.subscription.discard (ε := Empty) w).2).2) := by
  simp only [giveBack]
  cases (route.subscription.discard (ε := Empty) w).1 with
  | ok v => rfl
  | error e => exact e.elim
  | panic p => rfl

namespace Course

/-! ## Undisturbed -/

/-- One act after the other, with nobody in between. -/
inductive Reaches [RetryLoop] (r : Router ξ) (rung : Bool) :
    Course ξ × World ξ → Course ξ × World ξ → Prop where
  | refl (s : Course ξ × World ξ) : Reaches r rung s s
  | head {s s' : Course ξ × World ξ} (h : Reaches r rung (s.1.step r rung s.2) s') : Reaches r rung s s'

section Undisturbed

variable {r : Router ξ} {rung : Bool} {s s' s'' : Course ξ × World ξ} {ctx : Context} {w : World ξ}

theorem Reaches.trans [RetryLoop] (h : Reaches r rung s s') (h' : Reaches r rung s' s'') :
    Reaches r rung s s'' := by
  induction h with
  | refl s => exact h'
  | head _ ih => exact .head (ih h')

/-- Subscriptions are given back until none is left. -/
theorem reaches_giving [RetryLoop] (r : Router ξ) (rung : Bool) (ctx : Context)
    (outcome : Outcome RouterError Unit) (left : List (Route ξ)) (w : World ξ) :
    Reaches r rung (⟨ctx, .giving outcome left⟩, w)
      (⟨ctx, .returned (outcome.orPanic (Run.giveBack left w).1)⟩,
        Run.setPhase .stopped (Run.giveBack left w).2) := by
  induction left generalizing outcome w with
  | nil => exact .head (.head (.refl _))
  | cons route left ih =>
    have hrest := ih (outcome.orPanic (route.subscription.discard (ε := Empty) w).1.panic?)
      (route.subscription.discard (ε := Empty) w).2
    rw [Outcome.orPanic_or] at hrest
    rw [Run.giveBack_cons]
    exact .head hrest

/-- Routes that ended are given up until none of them is left. -/
theorem reaches_parted [RetryLoop] (lost : List (Route ξ)) (panic : Option Panic) (kept : List (Route ξ))
    (idle : Bool) (w : World ξ) :
    Reaches r rung (⟨ctx, .parting lost panic kept idle⟩, w)
      (⟨ctx, .parting [] (panic.or (Run.giveBack lost w).1) kept idle⟩, (Run.giveBack lost w).2) := by
  induction lost generalizing panic w with
  | nil =>
    rw [Run.giveBack, Option.or_none]
    exact .refl _
  | cons route lost ih =>
    have hrest := ih (panic.or (route.subscription.discard (ε := Empty) w).1.panic?)
      (route.subscription.discard (ε := Empty) w).2
    rw [Option.or_assoc] at hrest
    rw [Run.giveBack_cons]
    exact .head hrest

theorem ofRun_again (kept : List (Route ξ)) (idle : Bool) :
    ofRun ⟨ctx, if idle then .resting kept else .top kept⟩ = ⟨ctx, .again kept idle⟩ := by
  cases idle <;> rfl

/-- The end of a round. -/
theorem reaches_sweep [RetryLoop] (passed : List (Route ξ × Bool)) (ahead : List (Route ξ)) (idle : Bool)
    (w : World ξ) :
    Reaches r rung (⟨ctx, .sweep passed ahead idle⟩, w)
      (ofRun ⟨ctx, (Run.sweep passed ahead idle w).1⟩, (Run.sweep passed ahead idle w).2) := by
  simp only [Stage.sweep, Run.sweep]
  generalize (passed.filter (·.2)).map (·.1) = lost
  generalize (passed.filter fun e => !e.2).map (·.1) ++ ahead = kept
  cases lost with
  | nil =>
    simp only [List.isEmpty_nil, if_true, ofRun_again]
    exact .refl _
  | cons route lost =>
    simp only [List.isEmpty_cons, Bool.false_eq_true, if_false]
    refine (reaches_parted (route :: lost) none kept idle w).trans ?_
    rw [Option.none_or]
    cases Run.giveBack (route :: lost) w with
    | mk panic w' =>
      cases panic with
      | some p =>
        refine .head ?_
        have hgiven := reaches_giving r rung ctx (.panic p) kept w'
        have hpanic : ∀ later, (Outcome.panic p : Outcome RouterError Unit).orPanic later = .panic p := by
          intro later
          cases later <;> rfl
        rwa [hpanic] at hgiven
      | none =>
        refine .head ?_
        cases kept with
        | nil => exact .refl _
        | cons route kept =>
          simp only [List.isEmpty_cons, Bool.false_eq_true, if_false, ofRun_again]
          exact .refl _

/-- The turn of one route. -/
theorem reaches_turn [RetryLoop] (passed : List (Route ξ × Bool)) (route : Route ξ) (ahead : List (Route ξ))
    (idle : Bool) (w : World ξ) :
    Reaches r rung (⟨ctx, .checking passed route ahead idle⟩, w)
      (ofRun ⟨ctx, (Run.turn r passed route ahead idle w).1⟩,
        (Run.turn r passed route ahead idle w).2) := by
  cases hclosed : route.subscription.closed with
  | true =>
    refine .head ?_
    simp only [step, act, check, hclosed, if_true, Run.turn,
      Subscription.tryReceive_of_closed hclosed]
    exact .refl _
  | false =>
    cases hcancelled : route.subscription.ctx.isCancelled w.scopes with
    | true =>
      refine .head ?_
      simp only [step, act, check, hclosed, hcancelled, Bool.false_eq_true, if_false, if_true, Run.turn,
        Subscription.tryReceive_of_cancelled hclosed hcancelled]
      exact .refl _
    | false =>
      refine .head ?_
      simp only [step, act, check, hclosed, hcancelled, Bool.false_eq_true, if_false, Run.turn,
        Subscription.tryReceive]
      refine .head ?_
      simp only [step, act, receive]
      cases w.queue.receive route.subscription.feed with
      | mk received queue =>
        cases received with
        | error e => exact .refl _
        | ok waiting =>
          cases waiting with
          | none => exact .refl _
          | some m =>
            obtain ⟨verdict, w', hjudge⟩ := r.judge_returns route m { w with queue }
            refine .head (.head ?_)
            simp only [step, act, judge, hjudge, conclude, Router.processSafely, Router.process_eq,
              Action.bind_ok hjudge]
            exact .refl _

/-- **If nobody comes in between, single acts make up the step of a run.** A ring means that the router
was asked to close. -/
theorem follows_run [RetryLoop] (hrung : rung = true → w.control.closing = true) (run : Run ξ) :
    Reaches r rung (ofRun run, w) (ofRun (run.step r w).1, (run.step r w).2) := by
  obtain ⟨ctx, point⟩ := run
  have hround : ∀ routes, Reaches r rung (⟨ctx, .top routes⟩, w)
      (ofRun ⟨ctx, Run.beginRound ctx routes w⟩, w) := by
    intro routes
    refine .head ?_
    simp only [step, act, Run.beginRound]
    split <;> exact .refl _
  cases point with
  | top routes => exact hround routes
  | resting routes =>
    cases rung with
    | false => exact .head (hround routes)
    | true =>
      refine .head ?_
      simp only [step, Run.step, Run.stepPoint, Run.beginRound, hrung rfl, Bool.true_or, if_true]
      exact .refl _
  | round passed ahead idle =>
    cases ahead with
    | nil => exact .head (reaches_sweep passed [] idle w)
    | cons route ahead =>
      refine .head ?_
      simp only [step, act, ofRun, Stage.ofPoint, Run.step, Run.stepPoint]
      cases w.control.closing with
      | true => exact reaches_sweep passed (route :: ahead) idle w
      | false => exact reaches_turn passed route ahead idle w
  | leaving result routes =>
    have hgiven := reaches_giving r rung ctx (.ofExcept result) routes (Run.setPhase .draining w)
    refine .head ?_
    simp only [Run.step, Run.stepPoint, Run.endWith]
    cases hback : Run.giveBack routes (Run.setPhase .draining w) with
    | mk panic w' =>
      rw [hback] at hgiven
      cases panic with
      | none => exact hgiven
      | some p =>
        cases result <;> exact hgiven
  | ended outcome => exact .refl _

/-- Subscribing, and what comes after it. -/
theorem reaches_opened [RetryLoop] (ahead : List (Registration ξ)) (opened : List (Route ξ)) (w : World ξ) :
    Reaches r rung (⟨ctx, .subscribing ahead opened⟩, w)
      (match Run.openRoutes r ctx ahead opened w with
        | ((.ok (), routes), w) => (⟨ctx, .subscribing [] routes⟩, w)
        | ((outcome, routes), w) => (⟨ctx, .giving outcome routes⟩, w)) := by
  induction ahead generalizing opened w with
  | nil => exact .refl _
  | cons registration ahead ih =>
    refine .head ?_
    simp only [step, act, subscribe, Run.openRoutes]
    split
    · exact .refl _
    · cases r.subscriber.subscribe ctx registration.topic w with
      | mk o w' =>
        cases o with
        | ok subscription => exact ih _ w'
        | error e => exact .refl _
        | panic p => exact .refl _

/-- **If nobody comes in between, single acts make up the beginning of a run.** -/
theorem follows_start [RetryLoop] (hfirst : w.control.started = false) :
    Reaches r rung (⟨ctx, .admitted⟩, { w with control := { w.control with started := true } })
      (ofRun (Run.start r ctx w).1, (Run.start r ctx w).2) := by
  simp only [Run.start, hfirst, Bool.false_eq_true, if_false]
  refine .head ?_
  simp only [step, setOut]
  cases w.control.closing with
  | true => exact .head (.head (.refl _))
  | false =>
    simp only [Bool.false_eq_true, if_false, Run.open?]
    refine (reaches_opened r.registrations [] _).trans ?_
    cases Run.openRoutes r (ctx.child w.scopes).1 r.registrations [] _ with
    | mk opened w' =>
      obtain ⟨outcome, routes⟩ := opened
      have hgiven := reaches_giving r rung (ctx.child w.scopes).1 outcome routes w'
      cases outcome with
      | ok v => exact .head (.refl _)
      | error e =>
        simp only [Run.endWith]
        cases hback : Run.giveBack routes w' with
        | mk panic w'' =>
          rw [hback] at hgiven
          cases panic <;> exact hgiven
      | panic p =>
        simp only [Run.endWith]
        cases hback : Run.giveBack routes w' with
        | mk panic w'' =>
          rw [hback] at hgiven
          cases panic <;> exact hgiven

end Undisturbed

end Course

end SymbolRelay
