import SymbolRelay.Handling.CatalogRoutes
import SymbolRelay.Proofs.Handling.RoundOrder
import SymbolRelay.Proofs.Handling.Settling
import SymbolRelay.Proofs.Symbol.Redelivery

/-!
# A catalog takes in a backlog

A router that does nothing but feed a catalog runs over a queue on which nobody publishes any more. Every
message there is an event, so every message is applied and acknowledged, and nothing is added to the log.
Hence the run keeps to the order of rounds: a round takes five steps, which begin it, give each of the
three topics a turn, and end it.

## Results

* `processSafely_consumed` — what becomes of a message that its consumer takes in;
* `CatchingUp.step` — one step of such a run;
* `catchingUp_steps` — what was applied after any number of steps is the beginning of the order of rounds;
* `settles_backlog` — a run that nothing prevents settles everything.
-/

set_option autoImplicit false

namespace SymbolRelay

variable {ξ : Type}

/-! ## Messages that are taken in -/

section Consuming

variable {r : Router ξ} {route : Route ξ} {next : Handler ξ} {m : Message} {w w' : World ξ}

/-- A consumer that takes a message in is called once, for all that a router puts around it. -/
theorem chain_consumed [RetryLoop] (hm : r.middleware = []) (hnext : next m w = (.ok [], w')) :
    r.chain next m w = (.ok [], w') := by
  have hrecovering : Handler.recovering true next m w = (.ok [], w') := by
    simp only [Handler.recovering, Action.bind_attempt, hnext]
    rfl
  have hretrying : Handler.retrying r.config.backoff (Handler.recovering true next) m w =
      (.ok [], w') := by
    rw [Handler.retrying_of_ok _ _ _ (congrArg Prod.fst hrecovering), hrecovering]
  simp only [Router.chain, hm, List.foldr_nil, Handler.correlating]
  rw [Action.bind_ok hretrying]
  rfl

/-- **A message that its consumer takes in is acknowledged and counted**, and that is all. -/
theorem processSafely_consumed [RetryLoop] (hm : r.middleware = []) (hh : route.handler = r.chain next)
    (hb : route.subscription.broker = Broker.ofQueue) (hnext : next m w = (.ok [], w')) :
    r.processSafely route m w =
      { w' with
        queue := w'.queue.ack m.uuid
        stats := { w'.stats with handled := w'.stats.handled + 1 } } := by
  have hchain := chain_consumed hm hnext
  have hhandle : r.handle route m w = (.ok (), w') := by
    have hwhole : (route.handler m >>= fun produced => r.forward m route.outputTopic produced :
        Action (World ξ) HandlerError Unit) w = (.ok (), w') := by
      rw [hh, Action.bind_ok hchain]
      exact Router.forward_nil r m route.outputTopic w'
    simp only [Router.handle, Action.bind_attempt, hwhole]
    rfl
  simp only [Router.processSafely, Router.process, Action.bind_attempt, hhandle, Router.settleWith,
    Subscription.ack, hb, Broker.ofQueue]
  rfl

theorem Catalog.consumer_of_ok [BinaryFormat] {part : ξ → Catalog} (put : Catalog → ξ → ξ) {c : Catalog}
    (w : World ξ) (h : (part w.extra).apply m = .ok c) :
    Catalog.consumer part put m w = (.ok [], { w with extra := put c w.extra }) := by
  simp [Catalog.consumer, Handler.ofConsumer, bind, Action.bind, h, pure, Action.pure]

end Consuming

/-- Only a subscription whose context is cancelled says so. -/
theorem Subscription.isCancelled_of_tryReceive {s : Subscription ξ} {w : World ξ}
    (h : (s.tryReceive w).1 = .error .cancelled) : s.ctx.isCancelled w.scopes = true := by
  unfold tryReceive at h
  split at h
  · cases h
  · split at h
    · assumption
    · revert h
      cases w.queue.receive s.feed with
      | mk received queue => cases received <;> exact nofun

/-- A catalog refuses no message that holds an event. -/
theorem Catalog.exists_apply [BinaryFormat] {m : Message} {event : Event} (h : Event.decode m = .ok event)
    (c : Catalog) : ∃ after, c.apply m = .ok after := by
  simp only [apply, h]
  split
  · exact ⟨_, rfl⟩
  · split
    · exact ⟨_, rfl⟩
    · exact ⟨_, rfl⟩

/-! ## The router -/

theorem symbolTopics_nodup : symbolTopics.Nodup := by decide

/-- A router over the queue without consumers and middleware so far. -/
structure Router.Blank (base : Router ξ) : Prop where
  subscriber : base.subscriber = Subscriber.ofBroker Broker.ofQueue
  publisher : ∀ p, base.publisher = some p → p.Growing
  registrations : base.registrations = []
  middleware : base.middleware = []

theorem Router.Blank.ofQueue : ({ subscriber := .ofBroker .ofQueue } : Router ξ).Blank where
  subscriber := rfl
  publisher := nofun
  registrations := rfl
  middleware := rfl

section Feed

variable (part : ξ → Catalog) (put : Catalog → ξ → ξ)

/-- The router with the consumers of a catalog and no others. -/
def Router.feed [BinaryFormat] (base : Router ξ) : Router ξ :=
  { base with
    registrations := symbolTopics.map fun topic => { topic, handler := Catalog.consumer part put } }

variable {part put} {base : Router ξ}

/-- A catalog can be registered with a router that has no consumers yet. -/
theorem Router.registerCatalog_blank [BinaryFormat] (h : base.registrations = []) :
    base.registerCatalog part put = (.ok (), base.feed part put) := by
  simp [registerCatalog, symbolTopics, EventKind.all, EventKind.topic, registerAll, register, h, feed]

theorem Router.feed_topics [BinaryFormat] (base : Router ξ) :
    (base.feed part put).registrations.map (·.topic) = symbolTopics := by
  rw [feed, List.map_map]
  exact List.map_id _

theorem Router.feed_registration [BinaryFormat] {registration : Registration ξ}
    (h : registration ∈ (base.feed part put).registrations) :
    registration.handler = Catalog.consumer part put ∧ registration.outputTopic = none := by
  obtain ⟨topic, _, rfl⟩ := List.mem_map.mp h
  exact ⟨rfl, rfl⟩

theorem Catalog.consumer_growing [BinaryFormat] : (Catalog.consumer part put).Growing := by
  intro m
  refine Action.Growing.bind (fun w => ?_) fun _ => .pure _
  cases h : (part w.extra).apply m with
  | ok c =>
    simp only [h]
    exact ⟨.refl, rfl, rfl⟩
  | error e =>
    simp only [h]
    exact .refl w

theorem Router.Blank.overQueue [BinaryFormat] (h : base.Blank) : (base.feed part put).OverQueue where
  subscriber := h.subscriber
  topics := feed_topics base ▸ symbolTopics_nodup
  handlers := fun _ hreg => (feed_registration hreg).1 ▸ Catalog.consumer_growing
  middleware := by simp [feed, h.middleware]
  publisher := h.publisher

end Feed

/-! ## In the middle of it -/

/-- A world in which subscriptions can be opened under a context. -/
structure Admits (ctx : Context) (w : World ξ) : Prop where
  subscriber : w.subscriberClosed = false
  queue : w.queue.closed = false
  running : ctx.isCancelled w.scopes = false
  fresh : ∀ n ∈ w.scopes.cancelled, n < w.scopes.next

/-- A world in which nothing prevents a run: none was begun, and it was not asked to close. -/
structure Ready (ctx : Context) (w : World ξ) : Prop extends Admits ctx w where
  started : w.control.started = false
  closing : w.control.closing = false

/-- The routes of a catalog, one for each of its topics, over a queue that is open. -/
structure Feeding [RetryLoop] (r : Router ξ) (next : Handler ξ) (w : World ξ) (routes : List (Route ξ)) :
    Prop where
  topics : routes.map (·.subscription.topic) = symbolTopics
  handlers : ∀ route ∈ routes, route.handler = r.chain next
  closing : w.control.closing = false
  queue : w.queue.closed = false

/-- Neither a run nor any of its routes is cancelled. -/
def Uncancelled (ctx : Context) (w : World ξ) (routes : List (Route ξ)) : Prop :=
  ctx.isCancelled w.scopes = false ∧
    ∀ route ∈ routes, route.subscription.ctx.isCancelled w.scopes = false

/-- Where a run is after `n` steps, if it is not over: so many rounds and turns are behind it. Nothing
but what prevented it ends it; `ready` says that there was nothing. -/
def Placed [RetryLoop] (r : Router ξ) (next : Handler ξ) (ready : Prop) (log : List (String × Message))
    (settled : List Settlement) (ctx : Context) (w : World ξ) (n : Nat) : RunPoint ξ → Prop
  | .top routes | .resting routes =>
    Feeding r next w routes ∧ (ready → Uncancelled ctx w routes) ∧
      ∃ k, n = 5 * k ∧ InRound log settled k [] symbolTopics
  | .round passed ahead _ =>
    Feeding r next w (passed.map (·.1) ++ ahead) ∧
      (ready → Uncancelled ctx w (passed.map (·.1) ++ ahead)) ∧ (∀ e ∈ passed, e.2 = false) ∧
      ∃ k, n = 5 * k + 1 + passed.length ∧
        InRound log settled k (passed.map (·.1.subscription.topic)) (ahead.map (·.subscription.topic))
  | .leaving _ _ | .ended _ => ¬ ready ∧ settled.map (·.message) <+: roundOrder symbolTopics log

/-- A run over a log that stands still: what was settled so far was applied to the catalog, in the order
of rounds. -/
structure CatchingUp [BinaryFormat] [RetryLoop] (r : Router ξ) (part : ξ → Catalog) (put : Catalog → ξ → ξ)
    (window : Nat) (ready : Prop) (log : List (String × Message)) (n : Nat) (s : Watch ξ) : Prop where
  still : s.world.queue.log = log
  applied : (Catalog.withWindow window).applyAll (s.settled.map (·.message)) = .ok (part s.world.extra)
  place : Placed r (Catalog.consumer part put) ready log s.settled s.run.ctx s.world n s.run.point

section Steps

variable {r : Router ξ} {next : Handler ξ} {part : ξ → Catalog} {put : Catalog → ξ → ξ}
  {window n : Nat} {ready : Prop} {log : List (String × Message)} {settled : List Settlement}
  {ctx : Context} {w w' : World ξ} {routes : List (Route ξ)}

theorem Feeding.congr [RetryLoop] (h : Feeding r next w routes) (control : w'.control = w.control)
    (queue : w'.queue.closed = w.queue.closed) : Feeding r next w' routes where
  topics := h.topics
  handlers := h.handlers
  closing := control ▸ h.closing
  queue := queue.trans h.queue

theorem Uncancelled.congr (h : Uncancelled ctx w routes) (scopes : w'.scopes = w.scopes) :
    Uncancelled ctx w' routes := by
  rw [Uncancelled, scopes]
  exact h

/-- What was settled is the beginning of the order of rounds, wherever the run is. -/
theorem Placed.settled_prefix [RetryLoop] {point : RunPoint ξ}
    (h : Placed r next ready log settled ctx w n point) :
    settled.map (·.message) <+: roundOrder symbolTopics log := by
  cases point with
  | top routes | resting routes =>
    obtain ⟨_, _, _, _, hround⟩ := h
    exact hround.settled_prefix
  | round passed ahead idle =>
    obtain ⟨hfeeding, _, _, _, _, hround⟩ := h
    have hprefix := hround.settled_prefix
    have htopics := hfeeding.topics
    rw [List.map_append, List.map_map] at htopics
    rw [← htopics]
    exact hprefix
  | leaving result routes | ended outcome => exact h.2

/-- A round begins, unless the run is cancelled. -/
theorem Placed.beginRound [RetryLoop] (h : Placed r next ready log settled ctx w n (.top routes)) :
    Placed r next ready log settled ctx w (n + 1) (Run.beginRound ctx routes w) := by
  have hprefix := h.settled_prefix
  obtain ⟨hfeeding, huncancelled, k, hk, hround⟩ := h
  unfold Run.beginRound
  split
  · rename_i hend
    rw [hfeeding.closing, Bool.false_or] at hend
    refine ⟨fun hready => ?_, hprefix⟩
    rw [(huncancelled hready).1] at hend
    cases hend
  · exact ⟨hfeeding, huncancelled, by simp, k, by simpa using hk, hfeeding.topics ▸ hround⟩

/-- A round ends, and all routes go on. -/
theorem Placed.sweep [RetryLoop] {passed : List (Route ξ × Bool)} {idle : Bool}
    (h : Placed r next ready log settled ctx w n (.round passed [] idle)) :
    Placed r next ready log settled ctx w (n + 1) (Run.sweep passed [] idle w).1 ∧
      (Run.sweep passed [] idle w).2 = w := by
  obtain ⟨hfeeding, huncancelled, hkept, k, hk, hround⟩ := h
  rw [List.append_nil] at hfeeding huncancelled
  have htopics := hfeeding.topics
  rw [List.map_map] at htopics
  have hlength : passed.length = 3 := by
    have hlen := congrArg List.length htopics
    rwa [List.length_map] at hlen
  have hover := InRound.ended hround
  rw [show passed.map (·.1.subscription.topic) = symbolTopics from htopics] at hover
  have hlost : (passed.filter (·.2)).map (·.1) = [] := by
    rw [List.map_eq_nil_iff, List.filter_eq_nil_iff]
    intro e he
    simp [hkept e he]
  have hall : (passed.filter fun e => !e.2).map (·.1) ++ [] = passed.map (·.1) := by
    rw [List.append_nil, List.filter_eq_self.mpr]
    intro e he
    simp [hkept e he]
  simp only [Run.sweep, hlost, hall, List.isEmpty_nil, if_true]
  refine ⟨?_, trivial⟩
  cases idle with
  | true => exact ⟨hfeeding, huncancelled, k + 1, by omega, hover⟩
  | false => exact ⟨hfeeding, huncancelled, k + 1, by omega, hover⟩

/-- The turn of a route is over. -/
theorem Placed.turn [RetryLoop] {passed : List (Route ξ × Bool)} {route : Route ξ} {ahead : List (Route ξ)}
    {idle idle' : Bool} (h : Placed r next ready log settled ctx w n (.round passed (route :: ahead) idle))
    {settled' : List Settlement} (control : w'.control = w.control)
    (closed : w'.queue.closed = w.queue.closed) (scopes : w'.scopes = w.scopes)
    (turned : ∀ k, InRound log settled k (passed.map (·.1.subscription.topic))
        (route.subscription.topic :: ahead.map (·.subscription.topic)) →
      InRound log settled' k (passed.map (·.1.subscription.topic) ++ [route.subscription.topic])
        (ahead.map (·.subscription.topic))) :
    Placed r next ready log settled' ctx w' (n + 1) (.round (passed ++ [(route, false)]) ahead idle') := by
  obtain ⟨hfeeding, huncancelled, hkept, k, hk, hround⟩ := h
  have hroutes : (passed ++ [(route, false)]).map (·.1) ++ ahead =
      passed.map (·.1) ++ route :: ahead := by
    simp
  refine ⟨?_, fun hready => ?_, ?_, k, ?_, ?_⟩
  · rw [hroutes]
    exact hfeeding.congr control closed
  · rw [hroutes]
    exact (huncancelled hready).congr scopes
  · intro e he
    rcases List.mem_append.mp he with he | he
    · exact hkept e he
    · rw [List.mem_singleton.mp he]
  · rw [List.length_append, List.length_singleton]
    omega
  · rw [List.map_append]
    exact turned k hround

/-- A step that takes no message. -/
theorem CatchingUp.quiet [BinaryFormat] [RetryLoop] {s : Watch ξ}
    (h : CatchingUp r part put window ready log n s)
    (none : s.run.next? s.world = none) (still : (s.step r).world.queue.log = s.world.queue.log)
    (extra : (s.step r).world.extra = s.world.extra)
    (place : Placed r (Catalog.consumer part put) ready log s.settled (s.step r).run.ctx (s.step r).world
      (n + 1) (s.step r).run.point) :
    CatchingUp r part put window ready log (n + 1) (s.step r) := by
  have hsettled := Watch.step_settled_of_none (r := r) none
  exact ⟨still.trans h.still, by rw [hsettled, extra]; exact h.applied, hsettled.symm ▸ place⟩

section Run

variable [BinaryFormat] [RetryLoop] {start : World ξ} {passLog : List (String × Message)}
    (hm : r.middleware = [])
  (lens : ∀ c extra, part (put c extra) = c)
  (decodable : ∀ e ∈ log, ∃ event, Event.decode e.2 = .ok event)

include hm lens decodable

/-- The turn of a route: the next message of its topic, if there is one, is applied. -/
theorem CatchingUp.turn {passed : List (Route ξ × Bool)} {route : Route ξ} {ahead : List (Route ξ)}
    {idle : Bool}
    (hstands : Stands r start settled passLog (.round passed (route :: ahead) idle) w)
    (h : CatchingUp r part put window ready log n
      ⟨⟨ctx, .round passed (route :: ahead) idle⟩, w, settled, passLog⟩) :
    CatchingUp r part put window ready log (n + 1)
      (Watch.step r ⟨⟨ctx, .round passed (route :: ahead) idle⟩, w, settled, passLog⟩) := by
  obtain ⟨hstill, happlied, hplace⟩ := h
  simp only at hstill happlied hplace
  have hprefix := hplace.settled_prefix
  have hmem : route ∈ passed.map (·.1) ++ route :: ahead := by simp
  have hserving := hstands.sound.1
  have hwired := hserving.wired route hmem
  have hfeeding := hplace.1
  have hreceived := received hwired.opened (hserving.serves route hmem)
  rw [Watch.step_turn ctx passed route ahead idle settled passLog hfeeding.closing]
  simp only [Run.turn]
  have hcancelled := route.subscription.isCancelled_of_tryReceive (w := w)
  generalize route.subscription.tryReceive w = result at hreceived hcancelled
  obtain ⟨o, w₁⟩ := result
  cases hreceived with
  | cancelled =>
    simp only [List.append_nil]
    refine ⟨hstill, happlied, fun hready => ?_, hprefix⟩
    have hlive := (hplace.2.1 hready).2 route hmem
    exact absurd (hlive.symm.trans (hcancelled rfl)) Bool.false_ne_true
  | nothing hall =>
    simp only [List.append_nil]
    refine ⟨hstill, happlied, hplace.turn rfl rfl rfl fun k hround => hround.passedBy ?_⟩
    rw [← hstill]
    exact hall
  | ended he => exact absurd (hfeeding.queue.symm.trans he.1) Bool.false_ne_true
  | @message m rest hserves =>
    have hnext : settledOn settled route.subscription.topic ++ [m] <+:
        loggedOn log route.subscription.topic := by
      rw [← hstill]
      exact hserves.prefix
    have hlogged : (route.subscription.topic, m) ∈ log :=
      mem_loggedOn.mp (hnext.subset (List.mem_append_right _ List.mem_cons_self))
    obtain ⟨event, hevent⟩ := decodable _ hlogged
    obtain ⟨after, hafter⟩ := Catalog.exists_apply hevent (part w.extra)
    have hconsumed := processSafely_consumed hm (hfeeding.handlers route hmem) hwired.broker
      (Catalog.consumer_of_ok put { w with
        queue := w.queue.updateFeed route.subscription.feed fun f => { f with waiting := rest } } hafter)
    simp only [hconsumed]
    refine ⟨hstill, ?_, hplace.turn rfl rfl rfl fun k hround => ?_⟩
    · rw [List.map_append, List.map_singleton, Catalog.applyAll_snoc _ happlied, lens]
      exact hafter
    · have htopics := hserving.topics
      rw [List.map_append, List.map_map, List.map_cons] at htopics
      exact hround.took htopics rfl hnext

/-- **One step of a run over a log that stands still.** -/
theorem CatchingUp.step {s : Watch ξ}
    (hstands : Stands r start s.settled s.passLog s.run.point s.world)
    (h : CatchingUp r part put window ready log n s) :
    CatchingUp r part put window ready log (n + 1) (s.step r) := by
  have hplace := h.place
  obtain ⟨⟨ctx, point⟩, w, settled, passLog⟩ := s
  cases point with
  | top routes | resting routes => exact h.quiet rfl rfl rfl hplace.beginRound
  | ended outcome => exact h.quiet rfl rfl rfl hplace
  | leaving result routes =>
    obtain ⟨queue, hback, hspares⟩ := giveBack_spares (Serving.wired hstands.sound)
      (Run.setPhase .draining w)
    have hstep : Run.stepPoint r ctx (.leaving result routes) w =
        Run.endWith (.ofExcept result) none { Run.setPhase .draining w with queue } := by
      simp only [Run.stepPoint, hback]
    refine h.quiet rfl ?_ ?_ ?_ <;> simp only [Watch.step, Run.step, hstep]
    · exact hspares.log
    · rfl
    · exact hplace
  | round passed ahead idle =>
    cases ahead with
    | nil =>
      obtain ⟨hswept, hsame⟩ := hplace.sweep
      refine h.quiet rfl ?_ ?_ ?_ <;> simp only [Watch.step, Run.step, Run.stepPoint, hsame]
      exact hswept
    | cons route ahead => exact CatchingUp.turn hm lens decodable hstands h

end Run

end Steps

/-! ## From the beginning -/

section Beginning

variable {r : Router ξ} {ctx : Context} {w : World ξ}

theorem Context.isCancelled_congr (ctx : Context) {scopes scopes' : Scopes}
    (h : scopes'.cancelled = scopes.cancelled) : ctx.isCancelled scopes' = ctx.isCancelled scopes := by
  rw [isCancelled, h, isCancelled]

theorem Queue.subscribe_still (q : Queue) (topic : String) :
    (q.subscribe topic).2.log = q.log ∧ (q.subscribe topic).2.closed = q.closed := by
  unfold Queue.subscribe
  split <;> exact ⟨rfl, rfl⟩

/-- What subscribing to topics makes of the world, and when it goes well. -/
structure Opening [RetryLoop] (r : Router ξ) (ctx : Context) (w : World ξ) (rest : List (Registration ξ))
    (opened : List (Route ξ)) (outcome : Outcome RouterError Unit) (routes : List (Route ξ))
    (w' : World ξ) : Prop where
  world : ∃ queue scopes, w' = { w with queue, scopes }
  still : w'.queue.log = w.queue.log
  cancelled : w'.scopes.cancelled = w.scopes.cancelled
  handlers : ∀ route ∈ routes, route ∈ opened ∨
    ∃ registration ∈ rest, route.handler = r.chain registration.handler
  queue : outcome = .ok () → rest ≠ [] ∨ w.queue.closed = false → w'.queue.closed = false
  ready : Admits ctx w → (∀ registration ∈ rest, registration.outputTopic = none) →
    outcome = .ok () ∧ ∀ route ∈ routes, route ∈ opened ∨
      route.subscription.ctx.isCancelled w.scopes = false

/-- A topic that is not subscribed to leaves everything as it is. -/
theorem Opening.refused [RetryLoop] {rest : List (Registration ξ)} {opened : List (Route ξ)} {e : RouterError}
    (h : Admits ctx w → ∃ registration ∈ rest, registration.outputTopic ≠ none) :
    Opening r ctx w rest opened (.error e) opened w where
  world := ⟨w.queue, w.scopes, rfl⟩
  still := rfl
  cancelled := rfl
  handlers := fun _ hr => .inl hr
  queue := nofun
  ready := fun hadmits hnone => by
    obtain ⟨registration, hreg, hsome⟩ := h hadmits
    exact absurd (hnone registration hreg) hsome

/-- A topic that is subscribed to gets a route, and then come the others. -/
theorem Opening.opened [RetryLoop] {registration : Registration ξ} {rest : List (Registration ξ)}
    {opened routes : List (Route ξ)} {outcome : Outcome RouterError Unit} {w' : World ξ} {topic : String}
    (hq : w.queue.closed = false) (route : Route ξ)
    (handler : route.handler = r.chain registration.handler)
    (hctx : route.subscription.ctx = (ctx.child w.scopes).1)
    (h : Opening r ctx
      { w with queue := (w.queue.subscribe topic).2, scopes := (ctx.child w.scopes).2 } rest
      (opened ++ [route]) outcome routes w') :
    Opening r ctx w (registration :: rest) opened outcome routes w' := by
  obtain ⟨hlog, hclosed⟩ := w.queue.subscribe_still topic
  have hrunning : ∀ other : Context,
      other.isCancelled (ctx.child w.scopes).2 = other.isCancelled w.scopes :=
    fun other => other.isCancelled_congr rfl
  refine ⟨?_, h.still.trans hlog, h.cancelled, fun other ho => ?_, fun hok _ => ?_,
    fun hadmits hnone => ?_⟩
  · obtain ⟨queue, scopes, rfl⟩ := h.world
    exact ⟨queue, scopes, rfl⟩
  · rcases h.handlers other ho with hopened | ⟨registration', hreg, hhandler⟩
    · rcases List.mem_append.mp hopened with hopened | hnew
      · exact .inl hopened
      · exact .inr ⟨registration, List.mem_cons_self, List.mem_singleton.mp hnew ▸ handler⟩
    · exact .inr ⟨registration', List.mem_cons_of_mem _ hreg, hhandler⟩
  · exact h.queue hok (.inr (hclosed.trans hq))
  · have hlater : Admits ctx
        { w with queue := (w.queue.subscribe topic).2, scopes := (ctx.child w.scopes).2 } :=
      ⟨hadmits.subscriber, hclosed.trans hq, (hrunning ctx).trans hadmits.running,
        fun n hn => Nat.lt_succ_of_lt (hadmits.fresh n hn)⟩
    obtain ⟨hok, hroutes⟩ := h.ready hlater fun other ho => hnone other (List.mem_cons_of_mem _ ho)
    refine ⟨hok, fun other ho => ?_⟩
    rcases hroutes other ho with hopened | hlive
    · rcases List.mem_append.mp hopened with hopened | hnew
      · exact .inl hopened
      · have hfresh : w.scopes.next ∉ w.scopes.cancelled := fun hn =>
          Nat.lt_irrefl _ (hadmits.fresh _ hn)
        rw [List.mem_singleton.mp hnew, hctx, ← hrunning, Context.isCancelled_child ctx w.scopes hfresh]
        exact .inr hadmits.running
    · exact .inr ((hrunning _).symm.trans hlive)

theorem openRoutes_opening [RetryLoop] (hs : r.subscriber = Subscriber.ofBroker Broker.ofQueue)
    (ctx : Context) (rest : List (Registration ξ)) (opened : List (Route ξ)) (w : World ξ) :
    Opening r ctx w rest opened (Run.openRoutes r ctx rest opened w).1.1
      (Run.openRoutes r ctx rest opened w).1.2 (Run.openRoutes r ctx rest opened w).2 := by
  induction rest generalizing opened w with
  | nil =>
    exact ⟨⟨w.queue, w.scopes, rfl⟩, rfl, rfl, fun _ hr => .inl hr,
      fun _ h => h.resolve_left (absurd rfl), fun _ _ => ⟨rfl, fun _ hr => .inl hr⟩⟩
  | cons registration rest ih =>
    unfold Run.openRoutes
    split
    · rename_i hout
      refine .refused fun _ => ⟨registration, List.mem_cons_self, fun hnone => ?_⟩
      simp [hnone] at hout
    · rw [hs, subscribe_apply]
      by_cases hc : w.subscriberClosed = true
      · rw [if_pos hc]
        exact .refused fun h => absurd (h.subscriber.symm.trans hc) Bool.false_ne_true
      · rw [if_neg hc]
        by_cases hctx : ctx.isCancelled w.scopes = true
        · rw [if_pos hctx]
          exact .refused fun h => absurd (h.running.symm.trans hctx) Bool.false_ne_true
        · rw [if_neg hctx]
          by_cases hq : w.queue.closed = true
          · rw [if_pos hq]
            exact .refused fun h => absurd (h.queue.symm.trans hq) Bool.false_ne_true
          · rw [if_neg hq]
            exact (ih _ _).opened (Bool.not_eq_true _ ▸ hq) _ rfl rfl

/-- The context of a run is cancelled exactly when the one it was made from is. -/
theorem Ready.admits (h : Ready ctx w) (control : Control) :
    Admits (ctx.child w.scopes).1 { w with control, scopes := (ctx.child w.scopes).2 } where
  subscriber := h.subscriber
  queue := h.queue
  running := by
    rw [Context.isCancelled_child ctx w.scopes fun hn => Nat.lt_irrefl _ (h.fresh _ hn)]
    exact h.running
  fresh := fun n hn => Nat.lt_succ_of_lt (h.fresh n hn)

end Beginning

section Feed

variable {part : ξ → Catalog} {put : Catalog → ξ → ξ} {base : Router ξ} {window : Nat} {start : World ξ}

/-- A run that is over before it took a message. -/
theorem catchingUp_over [BinaryFormat] [RetryLoop] {r : Router ξ} {ready : Prop}
    {log : List (String × Message)} {w : World ξ} (hno : ¬ ready) (still : w.queue.log = log)
    (fresh : part w.extra = .withWindow window) (ctx : Context) (outcome : Outcome RouterError Unit) :
    CatchingUp r part put window ready log 0 ⟨⟨ctx, .ended outcome⟩, w, [], []⟩ :=
  ⟨still, congrArg Except.ok fresh.symm, hno, List.nil_prefix⟩

/-- A run whose routes are all opened is at the top of its first round. -/
theorem Opening.placed [BinaryFormat] [RetryLoop] {ctx : Context} {w w' : World ξ} {routes : List (Route ξ)}
    {ready : Prop}
    (h : Opening (base.feed part put) ctx w (base.feed part put).registrations [] (.ok ()) routes w')
    (topics : routes.map (·.subscription.topic) = symbolTopics) (hready : ready → Admits ctx w)
    (closing : w.control.closing = false) :
    Placed (base.feed part put) (Catalog.consumer part put) ready w.queue.log [] ctx
      (Run.setPhase .running w') 0 (.top routes) := by
  refine ⟨⟨topics, fun route hr => ?_, ?_, h.queue rfl (.inl ?_)⟩, fun hr => ⟨?_, fun route hmem => ?_⟩,
    0, rfl, .start _ _⟩
  · rcases h.handlers route hr with hnil | ⟨registration, hreg, hhandler⟩
    · cases hnil
    · rw [hhandler, (Router.feed_registration hreg).1]
  · obtain ⟨queue, scopes, rfl⟩ := h.world
    exact closing
  · simp [Router.feed, symbolTopics, EventKind.all]
  · exact (ctx.isCancelled_congr h.cancelled).trans (hready hr).running
  · rcases (h.ready (hready hr) fun _ hreg => (Router.feed_registration hreg).2).2 route hmem with
      hnil | hlive
    · cases hnil
    · exact (route.subscription.ctx.isCancelled_congr h.cancelled).trans hlive

/-- A run whose routes are opened, or not. -/
theorem catchingUp_open [BinaryFormat] [RetryLoop] (h : base.Blank) {ctx : Context} {w : World ξ}
    {ready : Prop} (hready : ready → Admits ctx w) (hclosing : w.control.closing = false)
    (reached : w.queue.Reached) (fresh : part w.extra = .withWindow window) :
    CatchingUp (base.feed part put) part put window ready w.queue.log 0
      ⟨⟨ctx, (Run.open? (base.feed part put) ctx w).1⟩, (Run.open? (base.feed part put) ctx w).2,
        [], []⟩ := by
  have hopening := openRoutes_opening (r := base.feed part put) h.subscriber ctx
    (base.feed part put).registrations [] w
  obtain ⟨-, hserving, htopics⟩ := openRoutes_serving h.overQueue ctx
    (base.feed part put).registrations (fun _ hreg => hreg) []
    (by rw [List.map_nil, List.nil_append]; exact h.overQueue.topics) reached (.nil w.queue [])
  unfold Run.open?
  generalize Run.openRoutes (base.feed part put) ctx (base.feed part put).registrations [] w = result
    at hopening hserving htopics
  obtain ⟨⟨outcome, routes⟩, w'⟩ := result
  obtain ⟨queue, scopes, rfl⟩ := hopening.world
  obtain ⟨given, hback, hspares⟩ := giveBack_spares hserving.wired { w with queue, scopes }
  cases outcome with
  | error _ | panic _ =>
    have hfailed : ¬ ready := fun hr => by
      have hok := (hopening.ready (hready hr) fun _ hreg => (Router.feed_registration hreg).2).1
      cases hok
    simp only [hback]
    exact catchingUp_over (w := Run.setPhase .stopped { w with queue := given, scopes })
      hfailed (hspares.log.trans hopening.still) fresh _ _
  | ok v =>
    have htopic := (htopics rfl).trans (Router.feed_topics base)
    exact ⟨hopening.still, congrArg Except.ok fresh.symm, hopening.placed htopic hready hclosing⟩

/-- A run that begins. -/
theorem catchingUp_begin [BinaryFormat] [RetryLoop] (h : base.Blank) (ctx : Context)
    (reached : start.queue.Reached) (fresh : part start.extra = .withWindow window) :
    CatchingUp (base.feed part put) part put window (Ready ctx start) start.queue.log 0
      (Watch.begin (base.feed part put) ctx start) := by
  simp only [Watch.begin, Run.start]
  split
  · rename_i hstarted
    refine catchingUp_over (fun hr => ?_) rfl fresh _ _
    exact absurd (hr.started.symm.trans hstarted) Bool.false_ne_true
  · split
    · rename_i hclosing
      refine catchingUp_over (w := Run.setPhase .stopped { start with
        control := { start.control with started := true } }) (fun hr => ?_) rfl fresh _ _
      exact absurd (hr.closing.symm.trans hclosing) Bool.false_ne_true
    · rename_i hclosing
      exact catchingUp_open h (w := { start with
          control := { start.control with started := true }
          scopes := (ctx.child start.scopes).2 })
        (fun hr => hr.admits _) (Bool.not_eq_true _ ▸ hclosing) reached fresh

theorem Watch.steps_succ (r : Router ξ) (s : Watch ξ) (n : Nat) :
    s.steps r (n + 1) = (s.steps r n).step r := by
  induction n generalizing s with
  | zero => rfl
  | succ n ih => exact ih (s.step r)

/-- **What a run over a log that stands still has settled and applied**, after any number of steps. -/
theorem catchingUp_steps [BinaryFormat] [RetryLoop] (start : World ξ) (h : base.Blank)
    (lens : ∀ c extra, part (put c extra) = c) (ctx : Context) (reached : start.queue.Reached)
    (fresh : part start.extra = .withWindow window)
    (decodable : ∀ e ∈ start.queue.log, ∃ event, Event.decode e.2 = .ok event) (n : Nat) :
    CatchingUp (base.feed part put) part put window (Ready ctx start) start.queue.log n
      ((Watch.begin (base.feed part put) ctx start).steps (base.feed part put) n) := by
  have hm : (base.feed part put).middleware = [] := h.middleware
  have hrun : ∀ n, let s := (Watch.begin (base.feed part put) ctx start).steps (base.feed part put) n
      Stands (base.feed part put) start s.settled s.passLog s.run.point s.world ∧
        CatchingUp (base.feed part put) part put window (Ready ctx start) start.queue.log n s := by
    intro n
    induction n with
    | zero => exact ⟨Watch.begin_stands h.overQueue ctx reached, catchingUp_begin h ctx reached fresh⟩
    | succ n ih =>
      rw [Watch.steps_succ]
      exact ⟨Watch.step_stands h.overQueue ih.1, ih.2.step hm lens decodable ih.1⟩
  exact (hrun n).2

/-- **A run that nothing prevents settles everything**: as many rounds as there are messages are enough. -/
theorem settles_backlog [BinaryFormat] [RetryLoop] (h : base.Blank)
    (lens : ∀ c extra, part (put c extra) = c) {ctx : Context} (ready : Ready ctx start)
    (reached : start.queue.Reached) (fresh : part start.extra = .withWindow window)
    (decodable : ∀ e ∈ start.queue.log, ∃ event, Event.decode e.2 = .ok event)
    (topics : ∀ e ∈ start.queue.log, e.1 ∈ symbolTopics) :
    AllSettled start.queue.log ((Watch.begin (base.feed part put) ctx start).steps
      (base.feed part put) (5 * start.queue.log.length)).settled := by
  intro e he
  have hplace :=
    (catchingUp_steps start h lens ctx reached fresh decodable (5 * start.queue.log.length)).place
  generalize (Watch.begin (base.feed part put) ctx start).steps (base.feed part put)
    (5 * start.queue.log.length) = s at hplace
  cases hpoint : s.run.point with
  | top routes | resting routes =>
    rw [hpoint] at hplace
    obtain ⟨_, _, k, hk, hround⟩ := hplace
    exact hround.all_settled (by omega) (topics e he) he
  | round passed ahead idle =>
    rw [hpoint] at hplace
    -- after whole rounds a run is not in the middle of one
    obtain ⟨hfeeding, _, _, k, hk, _⟩ := hplace
    have hlength := congrArg List.length hfeeding.topics
    rw [List.length_map, List.length_append, List.length_map] at hlength
    have hthree : symbolTopics.length = 3 := rfl
    omega
  | leaving result routes | ended outcome =>
    rw [hpoint] at hplace
    exact absurd ready hplace.1

end Feed

end SymbolRelay
