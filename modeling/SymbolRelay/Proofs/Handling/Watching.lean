import Mathlib.Data.List.Nodup
import SymbolRelay.Handling.Watch
import SymbolRelay.Proofs.Handling.Growing

/-!
# What a watched run is seen to do

A router runs over the queue while others publish, and its run is watched: which message each step takes,
what that step acks and nacks, and what the log held when the present pass of the loop began. What is
published while a step is at its message may as well be the handler's doing, which publishes whatever it
likes.

## Results

* `Tally.grows`, `Serving.grows`, `PointSound.grows` — what others publish does no harm to what was
  settled, to the routes that are served, and to the invariant of a run;
* `Tally.snoc` — one more message may be settled;
* `giveBack_spares` — giving up some routes leaves the others served.
-/

set_option autoImplicit false

namespace SymbolRelay

variable {ξ : Type}

/-! ## Others in between -/

/-- The message was acked once, or it was nacked once. -/
def Settlement.Once (t : Settlement) : Prop :=
  (t.acked = [t.message.uuid] ∧ t.nacked = []) ∨
    (t.acked = [] ∧ ∃ reason, t.nacked = [(t.message.uuid, reason)])

/-- The messages of a topic that were settled, in the order in which they were. -/
def settledOn (settled : List Settlement) (topic : String) : List Message :=
  (settled.filter (·.topic = topic)).map (·.message)

/-- The messages of a topic in a log. -/
def loggedOn (log : List (String × Message)) (topic : String) : List Message :=
  (log.filter (·.1 = topic)).map (·.2)

namespace Watch

/-- A run that is watched, with others who publish in between. -/
inductive Dispatches [RetryLoop] (r : Router ξ) (ctx : Context) (w : World ξ) : Watch ξ → Prop where
  | begin : Dispatches r ctx w (begin r ctx w)
  | step {s : Watch ξ} (h : Dispatches r ctx w s) : Dispatches r ctx w (s.step r)
  | meanwhile {s : Watch ξ} (h : Dispatches r ctx w s) {world : World ξ}
      (hg : s.world.Grows world) : Dispatches r ctx w { s with world }

theorem Dispatches.steps [RetryLoop] {r : Router ξ} {ctx : Context} {w : World ξ} {s : Watch ξ}
    (h : Dispatches r ctx w s) (n : Nat) : Dispatches r ctx w (s.steps r n) := by
  induction n generalizing s with
  | zero => exact h
  | succ n ih => exact ih h.step

end Watch

/-- A router over the queue, with distinct topics. Its handlers, its middleware and its publisher do
whatever they like, but settling messages is not their business. -/
structure Router.OverQueue (r : Router ξ) : Prop where
  subscriber : r.subscriber = Subscriber.ofBroker Broker.ofQueue
  topics : (r.registrations.map (·.topic)).Nodup
  handlers : ∀ registration ∈ r.registrations, registration.handler.Growing
  middleware : ∀ middleware ∈ r.middleware, middleware.Growing
  publisher : ∀ p, r.publisher = some p → p.Growing

/-! ## What is settled -/

theorem settledOn_snoc_self (settled : List Settlement) (t : Settlement) :
    settledOn (settled ++ [t]) t.topic = settledOn settled t.topic ++ [t.message] := by
  simp [settledOn]

theorem settledOn_snoc_of_ne (settled : List Settlement) {t : Settlement} {topic : String}
    (h : t.topic ≠ topic) : settledOn (settled ++ [t]) topic = settledOn settled topic := by
  simp [settledOn, h]

theorem loggedOn_prefix {log log' : List (String × Message)} (h : log <+: log') (topic : String) :
    loggedOn log topic <+: loggedOn log' topic := by
  obtain ⟨more, rfl⟩ := h
  refine ⟨loggedOn more topic, ?_⟩
  simp [loggedOn]

/-- What was settled so far: everything once, in the order of publication, and counted. -/
structure Tally (start w : World ξ) (settled : List Settlement) : Prop where
  once : ∀ t ∈ settled, t.Once
  inOrder : ∀ topic, settledOn settled topic <+: w.queue.publishedOn topic
  acked : w.queue.acked = start.queue.acked ++ settled.flatMap (·.acked)
  nacked : w.queue.nacked = start.queue.nacked ++ settled.flatMap (·.nacked)
  handled : w.stats.handled = start.stats.handled + (settled.flatMap (·.acked)).length
  failed : w.stats.failed = start.stats.failed + (settled.flatMap (·.nacked)).length

namespace Tally

variable {start w w' : World ξ} {settled : List Settlement}

theorem begin (h : start.Grows w) : Tally start w [] where
  once := by simp
  inOrder := fun _ => List.nil_prefix
  acked := by
    rw [h.queue.settled_eq.1]
    simp
  nacked := by
    rw [h.queue.settled_eq.2]
    simp
  handled := h.handled
  failed := h.failed

theorem grows (h : Tally start w settled) (hg : w.Grows w') : Tally start w' settled where
  once := h.once
  inOrder := fun topic =>
    (h.inOrder topic).trans (Queue.publishedOn_prefix hg.queue.log_prefix topic)
  acked := hg.queue.settled_eq.1.trans h.acked
  nacked := hg.queue.settled_eq.2.trans h.nacked
  handled := hg.handled.trans h.handled
  failed := hg.failed.trans h.failed

/-- One more message is settled. -/
theorem snoc (h : Tally start w settled) {t : Settlement} (honce : t.Once)
    (hinOrder : ∀ topic, settledOn (settled ++ [t]) topic <+: w'.queue.publishedOn topic)
    (hacked : w'.queue.acked = w.queue.acked ++ t.acked)
    (hnacked : w'.queue.nacked = w.queue.nacked ++ t.nacked)
    (hhandled : w'.stats.handled = w.stats.handled + t.acked.length)
    (hfailed : w'.stats.failed = w.stats.failed + t.nacked.length) :
    Tally start w' (settled ++ [t]) where
  once := fun t' ht' => by
    rcases List.mem_append.mp ht' with ht' | ht'
    · exact h.once t' ht'
    · rw [List.mem_singleton] at ht'
      rw [ht']
      exact honce
  inOrder := hinOrder
  acked := by
    rw [hacked, h.acked]
    simp
  nacked := by
    rw [hnacked, h.nacked]
    simp
  handled := by
    rw [hhandled, h.handled]
    simp [Nat.add_assoc]
  failed := by
    rw [hfailed, h.failed]
    simp [Nat.add_assoc]

end Tally

/-! ## Routes -/

/-- A route that settles its messages with the queue. -/
structure Wired (route : Route ξ) : Prop where
  broker : route.subscription.broker = Broker.ofQueue
  opened : route.subscription.closed = false
  handler : route.handler.Growing

/-- What was taken off the feeds of routes was settled, and the rest of what was published waits. -/
structure Serving (q : Queue) (settled : List Settlement) (routes : List (Route ξ)) : Prop where
  wired : ∀ route ∈ routes, Wired route
  topics : (routes.map (·.subscription.topic)).Nodup
  feeds : (routes.map (·.subscription.feed)).Nodup
  serves : ∀ route ∈ routes, q.Serves route.subscription.feed route.subscription.topic
    (settledOn settled route.subscription.topic)

namespace Serving

variable {q q' : Queue} {settled : List Settlement} {routes kept : List (Route ξ)}

theorem nil (q : Queue) (settled : List Settlement) : Serving q settled ([] : List (Route ξ)) where
  wired := by simp
  topics := by simp
  feeds := by simp
  serves := by simp

theorem grows (h : Serving q settled routes) (hg : q.Grows q') : Serving q' settled routes where
  wired := h.wired
  topics := h.topics
  feeds := h.feeds
  serves := fun route hr => (h.serves route hr).grows hg

theorem sublist (h : Serving q settled routes) (hs : kept.Sublist routes) :
    Serving q settled kept where
  wired := fun route hr => h.wired route (hs.subset hr)
  topics := h.topics.sublist (hs.map _)
  feeds := h.feeds.sublist (hs.map _)
  serves := fun route hr => h.serves route (hs.subset hr)

end Serving

/-- Every registered topic has a route, or nothing is published on it any more and all was settled. -/
def Covers (r : Router ξ) (q : Queue) (settled : List Settlement) (routes : List (Route ξ)) : Prop :=
  ∀ registration ∈ r.registrations,
    (∃ route ∈ routes, route.subscription.topic = registration.topic) ∨
      q.Exhausted registration.topic (settledOn settled registration.topic)

/-- The invariant of a run at a point. -/
def PointSound (r : Router ξ) (q : Queue) (settled : List Settlement)
    (passLog : List (String × Message)) : RunPoint ξ → Prop
  | .top routes | .resting routes => Serving q settled routes ∧ Covers r q settled routes
  | .round passed ahead idle =>
    Serving q settled (passed.map (·.1) ++ ahead) ∧
      Covers r q settled (passed.map (·.1) ++ ahead) ∧
      (∀ e ∈ passed, e.2 = true → q.Exhausted e.1.subscription.topic
        (settledOn settled e.1.subscription.topic)) ∧
      (idle = true → ∀ e ∈ passed, loggedOn passLog e.1.subscription.topic <+:
        settledOn settled e.1.subscription.topic)
  | .leaving _ routes => Serving q settled routes
  | .ended _ => True

/-- The invariant outlasts what others publish. -/
theorem PointSound.grows {r : Router ξ} {q q' : Queue} {settled : List Settlement}
    {passLog : List (String × Message)} {point : RunPoint ξ}
    (h : PointSound r q settled passLog point) (hg : q.Grows q') :
    PointSound r q' settled passLog point := by
  have hcovers : ∀ routes : List (Route ξ), Covers r q settled routes →
      Covers r q' settled routes := by
    intro routes hc registration hreg
    rcases hc registration hreg with hroute | he
    · exact .inl hroute
    · exact .inr (he.grows hg)
  cases point with
  | top routes | resting routes => exact ⟨h.1.grows hg, hcovers _ h.2⟩
  | round passed ahead idle =>
    obtain ⟨hserving, hc, hended, hidle⟩ := h
    exact ⟨hserving.grows hg, hcovers _ hc, fun e he hf => (hended e he hf).grows hg, hidle⟩
  | leaving result routes => exact Serving.grows h hg
  | ended outcome => trivial

/-! ## Giving routes up -/

/-- Nothing but feeds among these changed in a queue. -/
structure Spares (feeds : List Nat) (q q' : Queue) : Prop where
  log : q'.log = q.log
  closed : q'.closed = q.closed
  acked : q'.acked = q.acked
  nacked : q'.nacked = q.nacked
  serves : ∀ id topic taken, id ∉ feeds → q.Serves id topic taken → q'.Serves id topic taken

theorem discard_apply {ε : Type} {route : Route ξ} (hw : Wired route) (w : World ξ) :
    route.subscription.discard (ε := ε) w =
      (.ok (), { w with queue := (w.queue.unsubscribe route.subscription.topic
        route.subscription.feed).dropReceiver route.subscription.feed }) := by
  simp only [Subscription.discard, Subscription.release, hw.opened, hw.broker, Broker.ofQueue]
  rfl

/-- Giving up routes never fails, and leaves the other ones served. -/
theorem giveBack_spares {routes : List (Route ξ)} (hw : ∀ route ∈ routes, Wired route)
    (w : World ξ) :
    ∃ queue, Run.giveBack routes w = (none, { w with queue }) ∧
      Spares (routes.map (·.subscription.feed)) w.queue queue := by
  induction routes generalizing w with
  | nil => exact ⟨w.queue, rfl, rfl, rfl, rfl, rfl, fun _ _ _ _ h => h⟩
  | cons route rest ih =>
    have hroute := hw route List.mem_cons_self
    generalize hq : (w.queue.unsubscribe route.subscription.topic
      route.subscription.feed).dropReceiver route.subscription.feed = q
    obtain ⟨queue, hback, hspares⟩ := ih (fun other ho => hw other (List.mem_cons_of_mem _ ho))
      { w with queue := q }
    refine ⟨queue, ?_, ?_⟩
    · simp only [Run.giveBack, discard_apply hroute, hq, hback]
    · have hlog : q.log = w.queue.log := by
        rw [← hq]
        rfl
      have hclosed : q.closed = w.queue.closed := by
        rw [← hq]
        rfl
      have hacked : q.acked = w.queue.acked := by
        rw [← hq]
        rfl
      have hnacked : q.nacked = w.queue.nacked := by
        rw [← hq]
        rfl
      refine ⟨hspares.log.trans hlog, hspares.closed.trans hclosed, hspares.acked.trans hacked,
        hspares.nacked.trans hnacked, ?_⟩
      intro id topic taken hid hserves
      rw [List.map_cons, List.mem_cons, not_or] at hid
      refine hspares.serves id topic taken hid.2 ?_
      rw [← hq]
      have hunsubscribed := hserves.updateFeed_of_ne hid.1
        (g := fun f => if f.topic = route.subscription.topic then { f with live := false } else f)
        (fun f => by split <;> rfl)
      exact hunsubscribed.updateFeed_of_ne hid.1 (fun _ => rfl)

namespace Spares

variable {feeds : List Nat} {q q' : Queue} {settled : List Settlement} {r : Router ξ}
  {routes kept : List (Route ξ)}

theorem exhausted (h : Spares feeds q q') {topic : String} {taken : List Message}
    (he : q.Exhausted topic taken) : q'.Exhausted topic taken := by
  refine ⟨h.closed.trans he.1, ?_⟩
  have hsame : q'.publishedOn topic = q.publishedOn topic := by
    simp only [Queue.publishedOn, h.log]
  exact hsame.trans he.2

theorem serving (h : Spares feeds q q') (hs : Serving q settled routes)
    (hne : ∀ route ∈ routes, route.subscription.feed ∉ feeds) : Serving q' settled routes where
  wired := hs.wired
  topics := hs.topics
  feeds := hs.feeds
  serves := fun route hr => h.serves _ _ _ (hne route hr) (hs.serves route hr)

end Spares

theorem Tally.spares {start w : World ξ} {settled : List Settlement} (h : Tally start w settled)
    {feeds : List Nat} {queue : Queue} (hs : Spares feeds w.queue queue) :
    Tally start { w with queue } settled where
  once := h.once
  inOrder := fun topic => by
    have hsame : queue.publishedOn topic = w.queue.publishedOn topic := by
      simp only [Queue.publishedOn, hs.log]
    show settledOn settled topic <+: queue.publishedOn topic
    rw [hsame]
    exact h.inOrder topic
  acked := hs.acked.trans h.acked
  nacked := hs.nacked.trans h.nacked
  handled := h.handled
  failed := h.failed

namespace Router.Settled

variable {m : Message} {w w' : World ξ} {id : Nat} {topic : String} {taken : List Message}

theorem log_prefix (h : Settled m w w') : w.queue.log <+: w'.queue.log := by
  cases h with
  | acked hg => exact hg.queue.log_prefix
  | nacked hg reason => exact hg.queue.log_prefix

theorem serves (h : Settled m w w') (hs : w.queue.Serves id topic taken) :
    w'.queue.Serves id topic taken := by
  cases h with
  | acked hg =>
    have hgrown := hs.grows hg.queue
    exact hgrown
  | nacked hg reason =>
    have hgrown := hs.grows hg.queue
    exact hgrown

theorem exhausted (h : Settled m w w') (he : w.queue.Exhausted topic taken) :
    w'.queue.Exhausted topic taken := by
  cases h with
  | acked hg =>
    have hgrown := he.grows hg.queue
    exact hgrown
  | nacked hg reason =>
    have hgrown := he.grows hg.queue
    exact hgrown

end Router.Settled

end SymbolRelay
