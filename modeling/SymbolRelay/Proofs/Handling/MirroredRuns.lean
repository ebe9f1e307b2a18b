import Mathlib.Data.List.Forall2
import SymbolRelay.Proofs.Delivery.Metered

/-!
# Routers among records

Two routers are alike if one does among records what the other does without them: its subscriber, its
publisher, its handlers and what is put around them. Then so does every step of a run, from the first
subscription to the last one that is given back.

## Results

* `chain_mirrors_of` — what a router puts around a handler goes as without records;
* `openRoutes_mirrors`, `giveBack_mirrors` — subscriptions are opened and given back alike;
* `step_mirrors`, `advance_mirrors` — a run takes the same steps;
* `start_mirrors`, `close_mirrors` — and is begun and closed alike;
* `Router.metered_mirrors` — a router whose publisher and subscriber are measured is alike to the one
  whose are not.
-/

set_option autoImplicit false

namespace SymbolRelay

open SymbolRelay.Action

variable {ξ κ ε α : Type}

/-! ## Handlers and middleware -/

/-- A handler that does among records what another one does without them. -/
def Handler.Mirrors (next' : Handler (ξ × List κ)) (next : Handler ξ) : Prop :=
  ∀ m, Action.Mirrors (next' m) (next m)

/-- A middleware that makes of handlers that are alike handlers that are alike. -/
def Middleware.Mirrors (around' : Middleware (ξ × List κ)) (around : Middleware ξ) : Prop :=
  ∀ (next' : Handler (ξ × List κ)) (next : Handler ξ), Handler.Mirrors next' next →
    Handler.Mirrors (around' next') (around next)

/-- A registration with the same topics and a handler that is alike. -/
structure Registration.Mirrors (g' : Registration (ξ × List κ)) (g : Registration ξ) : Prop where
  topic : g'.topic = g.topic
  outputTopic : g'.outputTopic = g.outputTopic
  handler : Handler.Mirrors g'.handler g.handler

/-- A router that does among records what another one does without them. -/
structure Router.Mirrors (r' : Router (ξ × List κ)) (r : Router ξ) : Prop where
  subscriber : r'.subscriber.Mirrors r.subscriber
  publisher : Option.Rel Publisher.Mirrors r'.publisher r.publisher
  config : r'.config = r.config
  registrations : List.Forall₂ Registration.Mirrors r'.registrations r.registrations
  middleware : List.Forall₂ Middleware.Mirrors r'.middleware r.middleware

/-- The registration for worlds with a record, which its handler knows nothing of. -/
def Registration.unseen (g : Registration ξ) : Registration (ξ × List κ) :=
  { g with handler := fun m => (g.handler m).unseen }

/-- The router for worlds with a record. A middleware makes handlers of handlers, so what is around the
handlers of such worlds has to be given. -/
def Router.unseen (r : Router ξ) (middleware : List (Middleware (ξ × List κ))) :
    Router (ξ × List κ) where
  subscriber := r.subscriber.unseen
  publisher := r.publisher.map Publisher.unseen
  config := r.config
  registrations := r.registrations.map Registration.unseen
  middleware

theorem Router.unseen_mirrors {r : Router ξ} {middleware : List (Middleware (ξ × List κ))}
    (h : List.Forall₂ Middleware.Mirrors middleware r.middleware) :
    (r.unseen middleware).Mirrors r where
  subscriber := r.subscriber.unseen_mirrors
  publisher := by
    simp only [Router.unseen]
    cases r.publisher with
    | none => exact .none
    | some p => exact .some p.unseen_mirrors
  config := rfl
  registrations := List.forall₂_map_left_iff.mpr <|
    List.forall₂_same.mpr fun _ _ => ⟨rfl, rfl, fun _ => Action.unseen_mirrors _⟩
  middleware := h

/-- A route over the same feed with a handler that is alike. -/
structure Route.Mirrors (route' : Route (ξ × List κ)) (route : Route ξ) : Prop where
  subscription : route'.subscription = route.subscription.unseen
  outputTopic : route'.outputTopic = route.outputTopic
  handler : Handler.Mirrors route'.handler route.handler

namespace Router

variable {r' : Router (ξ × List κ)} {r : Router ξ}

/-- What a router puts around a handler goes as without records. -/
theorem chain_mirrors_of [RetryLoop] (hr : r'.Mirrors r) {next' : Handler (ξ × List κ)} {next : Handler ξ}
    (h : Handler.Mirrors next' next) : Handler.Mirrors (r'.chain next') (r.chain next) := by
  have hinner : Handler.Mirrors
      (Handler.correlating (Handler.retrying r'.config.backoff (Handler.recovering true next')))
      (Handler.correlating (Handler.retrying r.config.backoff (Handler.recovering true next))) := by
    intro m
    rw [hr.config]
    exact Handler.correlating_mirrors <|
      Handler.attempts_mirrors _ (Handler.recovering_mirrors true (h m)) _ _
  unfold chain
  have haround := hr.middleware
  generalize r'.middleware = around' at haround
  generalize r.middleware = around at haround
  induction haround with
  | nil => exact hinner
  | cons hfirst _ ih => exact hfirst _ _ ih

end Router

/-! ## Subscriptions -/

namespace Subscription

variable (s : Subscription ξ)

theorem tryReceive_mirrors :
    Mirrors (s.unseen.tryReceive : Action (World (ξ × List κ)) SubscribeError (Option Message))
      s.tryReceive := by
  intro w
  have hclosed : (s.unseen : Subscription (ξ × List κ)).closed = s.closed := rfl
  have hcancelled : (s.unseen : Subscription (ξ × List κ)).ctx.isCancelled w.scopes =
    s.ctx.isCancelled w.bare.scopes := rfl
  cases hc : s.closed with
  | true => rw [tryReceive_of_closed (hclosed.trans hc), tryReceive_of_closed hc]
  | false =>
    cases hx : s.ctx.isCancelled w.bare.scopes with
    | true =>
      rw [tryReceive_of_cancelled (hclosed.trans hc) (hcancelled.trans hx), tryReceive_of_cancelled hc hx]
    | false =>
      simp only [tryReceive, hclosed, hcancelled, hc, hx, Bool.false_eq_true, if_false]
      have hqueue : w.queue.receive (s.unseen : Subscription (ξ × List κ)).feed =
        w.bare.queue.receive s.feed := rfl
      rw [hqueue]
      cases w.bare.queue.receive s.feed with
      | mk received queue => cases received <;> rfl

theorem ack_mirrors (m : Message) :
    Mirrors (s.unseen.ack m : Action (World (ξ × List κ)) SubscribeError Unit) (s.ack m) :=
  (unseen_mirrors _).mapError _

theorem nack_mirrors (m : Message) (reason : String) :
    Mirrors (s.unseen.nack m reason : Action (World (ξ × List κ)) SubscribeError Unit)
      (s.nack m reason) :=
  (unseen_mirrors _).mapError _

theorem release_mirrors :
    Mirrors (s.unseen.release : Action (World (ξ × List κ)) ε Unit) s.release := by
  unfold release
  have hclosed : (s.unseen : Subscription (ξ × List κ)).closed = s.closed := rfl
  rw [hclosed]
  split
  · exact ofOutcome_mirrors (.ok ())
  · refine Mirrors.bind (unseen_mirrors _).attempt fun o => ?_
    cases o with
    | panic p => exact ofOutcome_mirrors (.panic p)
    | _ => exact ofOutcome_mirrors (.ok ())

theorem discard_mirrors :
    Mirrors (s.unseen.discard : Action (World (ξ × List κ)) ε Unit) s.discard :=
  Mirrors.bind s.release_mirrors.attempt fun o =>
    Mirrors.bind (modify_mirrors fun _ => rfl) fun _ => ofOutcome_mirrors o

end Subscription

/-! ## One message -/

namespace Router

variable {r' : Router (ξ × List κ)} {r : Router ξ} {route' : Route (ξ × List κ)} {route : Route ξ}

/-- A message is processed among records as without them. -/
theorem processSafely_mirrors_of (hr : r'.Mirrors r) (h : route'.Mirrors route) (m : Message)
    (w : World (ξ × List κ)) :
    (r'.processSafely route' m w).bare = r.processSafely route m w.bare := by
  refine processSafely_mirrors ?_ w
  have hhandle := handle_mirrors hr.publisher h.outputTopic (h.handler m)
  have htopic : route'.subscription.topic = route.subscription.topic := by rw [h.subscription]; rfl
  rw [process_eq, process_eq]
  refine Mirrors.bind (judge_mirrors hr.publisher hr.config htopic hhandle) fun verdict => ?_
  refine conclude_mirrors_of ?_ (fun reason => ?_) verdict
  · rw [h.subscription]
    exact route.subscription.ack_mirrors m
  · rw [h.subscription]
    exact route.subscription.nack_mirrors m reason

end Router

/-! ## Runs -/

namespace Run

variable {r' : Router (ξ × List κ)} {r : Router ξ}

theorem giveBack_mirrors {routes' : List (Route (ξ × List κ))} {routes : List (Route ξ)}
    (h : List.Forall₂ Route.Mirrors routes' routes) (w : World (ξ × List κ)) :
    (giveBack routes' w).1 = (giveBack routes w.bare).1 ∧
      (giveBack routes' w).2.bare = (giveBack routes w.bare).2 := by
  induction h generalizing w with
  | nil => exact ⟨rfl, rfl⟩
  | @cons route' route rest' rest hroute _ ih =>
    have hdiscard := route.subscription.discard_mirrors (ε := Empty) w
    cases hgiven : (route.subscription.unseen.discard w : Outcome Empty Unit × World (ξ × List κ)) with
    | mk o w' =>
      rw [hgiven] at hdiscard
      obtain ⟨hlater, hrest⟩ := ih w'
      simp only [giveBack, hroute.subscription, hgiven, ← hdiscard]
      cases o with
      | panic p => exact ⟨rfl, hrest⟩
      | _ => exact ⟨hlater, hrest⟩

theorem openRoutes_mirrors [RetryLoop] (hr : r'.Mirrors r) (ctx : Context)
    {registrations' : List (Registration (ξ × List κ))} {registrations : List (Registration ξ)}
    (h : List.Forall₂ Registration.Mirrors registrations' registrations)
    {opened' : List (Route (ξ × List κ))} {opened : List (Route ξ)}
    (hopened : List.Forall₂ Route.Mirrors opened' opened) (w : World (ξ × List κ)) :
    (openRoutes r' ctx registrations' opened' w).1.1 = (openRoutes r ctx registrations opened w.bare).1.1 ∧
      List.Forall₂ Route.Mirrors (openRoutes r' ctx registrations' opened' w).1.2
        (openRoutes r ctx registrations opened w.bare).1.2 ∧
      (openRoutes r' ctx registrations' opened' w).2.bare =
        (openRoutes r ctx registrations opened w.bare).2 := by
  induction h generalizing opened' opened w with
  | nil => exact ⟨rfl, hopened, rfl⟩
  | @cons registration' registration rest' rest hfirst _ ih =>
    have hnone : r'.publisher.isNone = r.publisher.isNone := by
      have hpublisher := hr.publisher
      generalize r'.publisher = publisher' at hpublisher
      generalize r.publisher = publisher at hpublisher
      cases hpublisher <;> rfl
    have hsubscribed := hr.subscriber.subscribed ctx registration.topic w
    cases hasked : r.subscriber.subscribe ctx registration.topic w.bare with
    | mk o v =>
      rw [hasked] at hsubscribed
      obtain ⟨houtcome, hworld⟩ := hsubscribed
      have hasked' : r'.subscriber.subscribe ctx registration.topic w =
          (o.map Subscription.unseen, (r'.subscriber.subscribe ctx registration.topic w).2) :=
        Prod.ext houtcome rfl
      simp only [openRoutes, hfirst.topic, hfirst.outputTopic, hnone, hasked]
      rw [hasked']
      split
      · exact ⟨rfl, hopened, rfl⟩
      · cases o with
        | error e => exact ⟨rfl, hopened, hworld⟩
        | panic p => exact ⟨rfl, hopened, hworld⟩
        | ok subscription =>
          have hroute : Route.Mirrors
              ⟨subscription.unseen, registration.outputTopic, r'.chain registration'.handler⟩
              ⟨subscription, registration.outputTopic, r.chain registration.handler⟩ :=
            ⟨rfl, rfl, Router.chain_mirrors_of hr hfirst.handler⟩
          have hnext := ih (List.rel_append hopened (.cons hroute .nil))
            (r'.subscriber.subscribe ctx registration.topic w).2
          rw [hworld] at hnext
          exact hnext

/-! ### Where a run stands -/

/-- A run that stands where another one stands, among records. -/
inductive PointMirrors : RunPoint (ξ × List κ) → RunPoint ξ → Prop where
  | top {routes' : List (Route (ξ × List κ))} {routes : List (Route ξ)}
      (h : List.Forall₂ Route.Mirrors routes' routes) : PointMirrors (.top routes') (.top routes)
  | round {passed' : List (Route (ξ × List κ) × Bool)} {passed : List (Route ξ × Bool)}
      {ahead' : List (Route (ξ × List κ))} {ahead : List (Route ξ)} (idle : Bool)
      (hpassed : List.Forall₂ (fun e' e => e'.1.Mirrors e.1 ∧ e'.2 = e.2) passed' passed)
      (hahead : List.Forall₂ Route.Mirrors ahead' ahead) :
      PointMirrors (.round passed' ahead' idle) (.round passed ahead idle)
  | resting {routes' : List (Route (ξ × List κ))} {routes : List (Route ξ)}
      (h : List.Forall₂ Route.Mirrors routes' routes) : PointMirrors (.resting routes') (.resting routes)
  | leaving (result : Except RouterError Unit) {routes' : List (Route (ξ × List κ))}
      {routes : List (Route ξ)} (h : List.Forall₂ Route.Mirrors routes' routes) :
      PointMirrors (.leaving result routes') (.leaving result routes)
  | ended (outcome : Outcome RouterError Unit) : PointMirrors (.ended outcome) (.ended outcome)

/-- A run that watches the same context and stands at the same point. -/
structure Mirrors (run' : Run (ξ × List κ)) (run : Run ξ) : Prop where
  ctx : run'.ctx = run.ctx
  point : PointMirrors run'.point run.point

/-- What comes of a step among records: the same point, and the same world but for the records. -/
structure StepMirrors (x' : RunPoint (ξ × List κ) × World (ξ × List κ)) (x : RunPoint ξ × World ξ) :
    Prop where
  point : PointMirrors x'.1 x.1
  world : x'.2.bare = x.2

theorem endWith_mirrors (outcome : Outcome RouterError Unit) (panic : Option Panic)
    (w : World (ξ × List κ)) : StepMirrors (endWith outcome panic w) (endWith outcome panic w.bare) :=
  ⟨.ended _, rfl⟩

theorem open_mirrors [RetryLoop] (hr : r'.Mirrors r) (ctx : Context) (w : World (ξ × List κ)) :
    StepMirrors (open? r' ctx w) (open? r ctx w.bare) := by
  have hopened := openRoutes_mirrors hr ctx hr.registrations .nil w
  unfold open?
  generalize openRoutes r' ctx r'.registrations [] w = found' at hopened ⊢
  generalize openRoutes r ctx r.registrations [] w.bare = found at hopened ⊢
  obtain ⟨⟨outcome', routes'⟩, w'⟩ := found'
  obtain ⟨⟨outcome, routes⟩, v⟩ := found
  obtain ⟨rfl, hroutes, rfl⟩ := hopened
  obtain ⟨hpanic, hgiven⟩ := giveBack_mirrors hroutes w'
  cases outcome' with
  | ok _ => exact ⟨.top hroutes, rfl⟩
  | panic p =>
    simp only
    rw [← hgiven]
    exact endWith_mirrors _ _ _
  | error e =>
    simp only
    rw [hpanic, ← hgiven]
    exact endWith_mirrors _ _ _

theorem beginRound_mirrors (ctx : Context) {routes' : List (Route (ξ × List κ))}
    {routes : List (Route ξ)} (h : List.Forall₂ Route.Mirrors routes' routes) (w : World (ξ × List κ)) :
    PointMirrors (beginRound ctx routes' w) (beginRound ctx routes w.bare) := by
  have hleaves : (w.control.closing || ctx.isCancelled w.scopes) =
      (w.bare.control.closing || ctx.isCancelled w.bare.scopes) := rfl
  unfold beginRound
  rw [hleaves]
  split
  · exact .leaving _ h
  · exact .round true .nil h

theorem picked_mirrors {passed' : List (Route (ξ × List κ) × Bool)} {passed : List (Route ξ × Bool)}
    (h : List.Forall₂ (fun e' e => e'.1.Mirrors e.1 ∧ e'.2 = e.2) passed' passed) (pick : Bool → Bool) :
    List.Forall₂ Route.Mirrors ((passed'.filter fun e => pick e.2).map (·.1))
      ((passed.filter fun e => pick e.2).map (·.1)) := by
  induction h with
  | nil => exact .nil
  | cons hfirst _ ih =>
    simp only [List.filter_cons, hfirst.2]
    split
    · exact .cons hfirst.1 ih
    · exact ih

theorem isEmpty_mirrors {routes' : List (Route (ξ × List κ))} {routes : List (Route ξ)}
    (h : List.Forall₂ Route.Mirrors routes' routes) : routes'.isEmpty = routes.isEmpty := by
  cases h <;> rfl

theorem again_mirrors {routes' : List (Route (ξ × List κ))} {routes : List (Route ξ)}
    (h : List.Forall₂ Route.Mirrors routes' routes) (idle : Bool) (w : World (ξ × List κ)) :
    StepMirrors (if idle then .resting routes' else .top routes', w)
      (if idle then .resting routes else .top routes, w.bare) := by
  cases idle with
  | true => exact ⟨.resting h, rfl⟩
  | false => exact ⟨.top h, rfl⟩

theorem sweep_mirrors {passed' : List (Route (ξ × List κ) × Bool)} {passed : List (Route ξ × Bool)}
    {ahead' : List (Route (ξ × List κ))} {ahead : List (Route ξ)}
    (hpassed : List.Forall₂ (fun e' e => e'.1.Mirrors e.1 ∧ e'.2 = e.2) passed' passed)
    (hahead : List.Forall₂ Route.Mirrors ahead' ahead) (idle : Bool) (w : World (ξ × List κ)) :
    StepMirrors (sweep passed' ahead' idle w) (sweep passed ahead idle w.bare) := by
  have hlost : List.Forall₂ Route.Mirrors ((passed'.filter (·.2)).map (·.1))
      ((passed.filter (·.2)).map (·.1)) := picked_mirrors hpassed id
  have hkept : List.Forall₂ Route.Mirrors ((passed'.filter fun e => !e.2).map (·.1) ++ ahead')
      ((passed.filter fun e => !e.2).map (·.1) ++ ahead) :=
    List.rel_append (picked_mirrors hpassed not) hahead
  simp only [sweep, isEmpty_mirrors hlost, isEmpty_mirrors hkept]
  generalize (passed'.filter (·.2)).map (·.1) = lost' at hlost ⊢
  generalize (passed.filter (·.2)).map (·.1) = lost at hlost ⊢
  generalize (passed'.filter fun e => !e.2).map (·.1) ++ ahead' = kept' at hkept ⊢
  generalize (passed.filter fun e => !e.2).map (·.1) ++ ahead = kept at hkept ⊢
  split
  · exact again_mirrors hkept idle w
  · have hgiven := giveBack_mirrors hlost w
    generalize giveBack lost' w = given' at hgiven ⊢
    generalize giveBack lost w.bare = given at hgiven ⊢
    obtain ⟨panic', w'⟩ := given'
    obtain ⟨panic, v⟩ := given
    obtain ⟨rfl, rfl⟩ := hgiven
    cases panic' with
    | some p =>
      simp only
      rw [← (giveBack_mirrors hkept w').2]
      exact endWith_mirrors _ _ _
    | none =>
      simp only
      split
      · exact ⟨.leaving _ .nil, rfl⟩
      · exact again_mirrors hkept idle w'

theorem turn_mirrors (hr : r'.Mirrors r) {passed' : List (Route (ξ × List κ) × Bool)}
    {passed : List (Route ξ × Bool)} {route' : Route (ξ × List κ)} {route : Route ξ}
    {ahead' : List (Route (ξ × List κ))} {ahead : List (Route ξ)}
    (hpassed : List.Forall₂ (fun e' e => e'.1.Mirrors e.1 ∧ e'.2 = e.2) passed' passed)
    (hroute : route'.Mirrors route) (hahead : List.Forall₂ Route.Mirrors ahead' ahead) (idle : Bool)
    (w : World (ξ × List κ)) :
    StepMirrors (turn r' passed' route' ahead' idle w) (turn r passed route ahead idle w.bare) := by
  have hreceived := route.subscription.tryReceive_mirrors w
  have hafter (ended : Bool) : List.Forall₂ (fun e' e => Route.Mirrors e'.1 e.1 ∧ e'.2 = e.2)
      (passed' ++ [(route', ended)]) (passed ++ [(route, ended)]) :=
    List.rel_append hpassed (.cons ⟨hroute, rfl⟩ .nil)
  have hleft : List.Forall₂ Route.Mirrors (passed'.map (·.1) ++ route' :: ahead')
      (passed.map (·.1) ++ route :: ahead) :=
    List.rel_append (List.rel_map (fun _ _ he => he.1) hpassed) (.cons hroute hahead)
  unfold turn
  rw [hroute.subscription]
  generalize route.subscription.unseen.tryReceive w = received' at hreceived ⊢
  obtain ⟨o, w'⟩ := received'
  rw [← hreceived]
  cases o with
  | ok found =>
    cases found with
    | none => exact ⟨.round idle (hafter false) hahead, rfl⟩
    | some m =>
      exact ⟨.round false (hafter false) hahead, Router.processSafely_mirrors_of hr hroute m w'⟩
  | panic p => exact ⟨.round idle (hafter true) hahead, rfl⟩
  | error e =>
    cases e with
    | cancelled => exact ⟨.leaving _ hleft, rfl⟩
    | broker _ _ | ack _ _ | closed => exact ⟨.round idle (hafter true) hahead, rfl⟩

/-- **One step of a run among records is the step without them.** -/
theorem stepPoint_mirrors (hr : r'.Mirrors r) (ctx : Context) {point' : RunPoint (ξ × List κ)}
    {point : RunPoint ξ} (h : PointMirrors point' point) (w : World (ξ × List κ)) :
    StepMirrors (stepPoint r' ctx point' w) (stepPoint r ctx point w.bare) := by
  cases h with
  | top h => exact ⟨beginRound_mirrors ctx h w, rfl⟩
  | resting h => exact ⟨beginRound_mirrors ctx h w, rfl⟩
  | round idle hpassed hahead =>
    cases hahead with
    | nil => exact sweep_mirrors hpassed .nil idle w
    | cons hroute hrest =>
      have hclosing : w.bare.control.closing = w.control.closing := rfl
      simp only [stepPoint, hclosing]
      split
      · exact sweep_mirrors hpassed (.cons hroute hrest) idle w
      · exact turn_mirrors hr hpassed hroute hrest idle w
  | leaving result h =>
    obtain ⟨hpanic, hgiven⟩ := giveBack_mirrors h (setPhase .draining w)
    simp only [stepPoint]
    rw [hpanic]
    have hbare : (setPhase .draining w).bare = setPhase .draining w.bare := rfl
    rw [hbare] at hgiven ⊢
    rw [← hgiven]
    exact endWith_mirrors _ _ _
  | ended outcome => exact ⟨.ended outcome, rfl⟩

section Steps

variable {run' : Run (ξ × List κ)} {run : Run ξ}

theorem step_mirrors (hr : r'.Mirrors r) (h : run'.Mirrors run) (w : World (ξ × List κ)) :
    (run'.step r' w).1.Mirrors (run.step r w.bare).1 ∧
      (run'.step r' w).2.bare = (run.step r w.bare).2 := by
  have hpoint := stepPoint_mirrors hr run.ctx h.point w
  simp only [step, h.ctx]
  exact ⟨⟨rfl, hpoint.point⟩, hpoint.world⟩

/-- **So many steps of a run among records are the steps without them.** -/
theorem advance_mirrors (hr : r'.Mirrors r) (n : Nat) (h : run'.Mirrors run) (w : World (ξ × List κ)) :
    (run'.advance r' n w).1.Mirrors (run.advance r n w.bare).1 ∧
      (run'.advance r' n w).2.bare = (run.advance r n w.bare).2 := by
  induction n generalizing run' run w with
  | zero => exact ⟨h, rfl⟩
  | succ n ih =>
    obtain ⟨hstep, hworld⟩ := step_mirrors hr h w
    have hrest := ih hstep (run'.step r' w).2
    rw [hworld] at hrest
    exact hrest

theorem start_mirrors [RetryLoop] (hr : r'.Mirrors r) (ctx : Context) (w : World (ξ × List κ)) :
    (start r' ctx w).1.Mirrors (start r ctx w.bare).1 ∧
      (start r' ctx w).2.bare = (start r ctx w.bare).2 := by
  have hcontrol : w.bare.control = w.control := rfl
  simp only [start, hcontrol]
  split
  · exact ⟨⟨rfl, .ended _⟩, rfl⟩
  · split
    · exact ⟨⟨rfl, .ended _⟩, rfl⟩
    · have hopen := open_mirrors hr (ctx.child w.scopes).1
        { w with scopes := (ctx.child w.scopes).2, control := { w.control with started := true } }
      exact ⟨⟨rfl, hopen.point⟩, hopen.world⟩

theorem Mirrors.outcome (h : run'.Mirrors run) : run'.outcome? = run.outcome? := by
  obtain ⟨ctx', point'⟩ := run'
  obtain ⟨ctx, point⟩ := run
  obtain ⟨-, hpoint⟩ := h
  cases hpoint <;> rfl

theorem outcome_mirrors {run' : Option (Run (ξ × List κ))} {run : Option (Run ξ)}
    (h : Option.Rel Run.Mirrors run' run) : run'.bind outcome? = run.bind outcome? := by
  cases h with
  | none => rfl
  | some h => exact h.outcome

end Steps

end Run

namespace Router

variable {r' : Router (ξ × List κ)} {r : Router ξ}

/-- **A router is closed among records as without them.** -/
theorem close_mirrors (hr : r'.Mirrors r) {run' : Option (Run (ξ × List κ))} {run : Option (Run ξ)}
    (h : Option.Rel Run.Mirrors run' run) (w : World (ξ × List κ)) :
    (r'.close run' w).1.1 = (r.close run w.bare).1.1 ∧
      Option.Rel Run.Mirrors (r'.close run' w).1.2 (r.close run w.bare).1.2 ∧
      (r'.close run' w).2.bare = (r.close run w.bare).2 := by
  have hclose := hr.subscriber.close
  cases h with
  | none =>
    have houtcome := hclose.outcome (askToClose w)
    exact ⟨congrArg (Outcome.mapError RouterError.close) houtcome, .none, hclose.world (askToClose w)⟩
  | @some run' run h =>
    obtain ⟨hrun, hadvanced⟩ := Run.advance_mirrors hr stepsToClose h (askToClose w)
    have houtcome := hclose.outcome (run'.advance r' stepsToClose (askToClose w)).2
    have hworld := hclose.world (run'.advance r' stepsToClose (askToClose w)).2
    rw [hadvanced] at houtcome hworld
    exact ⟨congrArg (Outcome.mapError RouterError.close) houtcome, .some hrun, hworld⟩

/-! ## Routers that are measured -/

/-- **A measured router does what it does without being measured.** -/
theorem metered_mirrors (recorder : Recorder (List κ)) (h : r'.Mirrors r) :
    (r'.metered recorder.beside).Mirrors r where
  subscriber := Subscriber.metered_mirrors recorder h.subscriber
  publisher := by
    have hpublisher := h.publisher
    simp only [metered]
    generalize r'.publisher = publisher' at hpublisher
    generalize r.publisher = publisher at hpublisher
    cases hpublisher with
    | none => exact .none
    | some hp => exact .some (Publisher.metered_mirrors recorder hp)
  config := h.config
  registrations := h.registrations
  middleware := h.middleware

end Router

end SymbolRelay
