import SymbolRelay.Proofs.Delivery.Subscriptions
import SymbolRelay.Proofs.Handling.Watching
import SymbolRelay.Standin.RetryLoop

/-!
# Every message is settled once, in order

A step of a run settles at most one message, the next one of its topic. So the messages of a topic are
settled in the order in which they were published, and a pass of the loop that receives nothing leaves
nothing that was there before it.

## Results

* `turn_stands`, `sweep_stands`, `step_stands` — one step of a run keeps the invariant of its routes;
* `openRoutes_serving` — what a run opens is served;
* `settles_once_in_order` — at every point of every run, each topic's messages were settled in the order
  of their publication and each of them once; and after a pass that received nothing, everything that
  was published before it is settled.
-/

set_option autoImplicit false

namespace SymbolRelay

variable {ξ : Type}

/-! ## One step -/

/-- What holds of a run at a point: what was settled so far, and how its routes are served. -/
structure Stands (r : Router ξ) (start : World ξ) (settled : List Settlement)
    (passLog : List (String × Message)) (point : RunPoint ξ) (w : World ξ) : Prop where
  tally : Tally start w settled
  logged : passLog <+: w.queue.log
  sound : PointSound r w.queue settled passLog point

section Steps

variable {r : Router ξ} {start w : World ξ} {settled : List Settlement}
  {passLog : List (String × Message)}

theorem endWith_stands (ht : Tally start w settled) (hlog : passLog <+: w.queue.log)
    (outcome : Outcome RouterError Unit) (panic : Option Panic) :
    Stands r start settled passLog (Run.endWith outcome panic w).1
      (Run.endWith outcome panic w).2 where
  tally := ht.grows ⟨.refl, rfl, rfl⟩
  logged := hlog
  sound := trivial

/-- Routes that ended share no feed with those that go on. -/
theorem feed_not_lost {passed : List (Route ξ × Bool)} {ahead : List (Route ξ)}
    (h : ((passed.map (·.1) ++ ahead).map (·.subscription.feed)).Nodup) (route : Route ξ)
    (hr : route ∈ (passed.filter fun e => !e.2).map (·.1) ++ ahead) :
    route.subscription.feed ∉ ((passed.filter (·.2)).map (·.1)).map (·.subscription.feed) := by
  rw [List.map_append, List.map_map, List.nodup_append] at h
  obtain ⟨hpassed, _, hapart⟩ := h
  intro hfeed
  simp only [List.map_map, List.mem_map, List.mem_filter] at hfeed
  obtain ⟨lost, ⟨hlost, hflag⟩, hsame⟩ := hfeed
  rcases List.mem_append.mp hr with hr | hr
  · obtain ⟨e, he, rfl⟩ := List.mem_map.mp hr
    obtain ⟨he, hkept⟩ := List.mem_filter.mp he
    have heq : lost = e := List.inj_on_of_nodup_map hpassed hlost he hsame
    rw [heq] at hflag
    simp [hflag] at hkept
  · refine hapart _ (List.mem_map_of_mem hlost) _ (List.mem_map_of_mem hr) ?_
    exact hsame

/-- A topic loses its route only once nothing is left of it. -/
theorem covers_kept {q : Queue} {passed : List (Route ξ × Bool)} {ahead : List (Route ξ)}
    (h : Covers r q settled (passed.map (·.1) ++ ahead))
    (hlost : ∀ e ∈ passed, e.2 = true → q.Exhausted e.1.subscription.topic
      (settledOn settled e.1.subscription.topic)) :
    Covers r q settled ((passed.filter fun e => !e.2).map (·.1) ++ ahead) := by
  intro registration hreg
  rcases h registration hreg with ⟨route, hroute, htopic⟩ | hexhausted
  · rcases List.mem_append.mp hroute with hroute | hroute
    · obtain ⟨e, he, rfl⟩ := List.mem_map.mp hroute
      cases hflag : e.2 with
      | true =>
        rw [← htopic]
        exact .inr (hlost e he hflag)
      | false =>
        refine .inl ⟨e.1, List.mem_append_left _ (List.mem_map_of_mem ?_), htopic⟩
        exact List.mem_filter.mpr ⟨he, by simp [hflag]⟩
    · exact .inl ⟨route, List.mem_append_right _ hroute, htopic⟩
  · exact .inr hexhausted

/-- **What a pass leaves to the next one**: routes that ended are given up, and the others go on. -/
theorem sweep_stands {passed : List (Route ξ × Bool)} {ahead : List (Route ξ)} {idle : Bool}
    (h : Stands r start settled passLog (.round passed ahead idle) w) :
    Stands r start settled passLog (Run.sweep passed ahead idle w).1
      (Run.sweep passed ahead idle w).2 := by
  obtain ⟨ht, hlog, hserving, hcovers, hlost, _⟩ := h
  have hfeeds := feed_not_lost hserving.feeds
  have hcovers' := covers_kept hcovers hlost
  have hsub : ((passed.filter fun e => !e.2).map (·.1) ++ ahead).Sublist
      (passed.map (·.1) ++ ahead) := (List.filter_sublist.map _).append_right ahead
  have hkept := hserving.sublist hsub
  have hwired : ∀ route ∈ (passed.filter (·.2)).map (·.1), Wired route := by
    intro route hr
    obtain ⟨e, he, rfl⟩ := List.mem_map.mp hr
    have hmem := (List.mem_filter.mp he).1
    exact hserving.wired e.1 (List.mem_append_left _ (List.mem_map_of_mem hmem))
  obtain ⟨queue, hback, hspares⟩ := giveBack_spares hwired w
  simp only [Run.sweep]
  generalize (passed.filter (·.2)).map (·.1) = lost at hback hfeeds hspares
  generalize (passed.filter fun e => !e.2).map (·.1) ++ ahead = kept at hkept hcovers' hfeeds
  have hgoOn : ∀ q, Serving q settled kept → Covers r q settled kept →
      PointSound r q settled passLog (if idle then .resting kept else .top kept) := by
    intro q hs hc
    cases idle with
    | true => exact ⟨hs, hc⟩
    | false => exact ⟨hs, hc⟩
  split
  · exact ⟨ht, hlog, hgoOn _ hkept hcovers'⟩
  · rw [hback]
    have ht' := ht.spares hspares
    have hlog' : passLog <+: queue.log := hspares.log ▸ hlog
    have hkept' := hspares.serving hkept hfeeds
    simp only
    split
    · exact ⟨ht', hlog', .nil _ _⟩
    · refine ⟨ht', hlog', hgoOn _ hkept' ?_⟩
      intro registration hreg
      rcases hcovers' registration hreg with hroute | hexhausted
      · exact .inl hroute
      · exact .inr (hspares.exhausted hexhausted)

/-- A message that was settled after it was taken off its feed is seen to have been settled once, and
was counted. -/
theorem Tally.settle {w' : World ξ} (h : Tally start w settled) (queue : Queue) {m : Message}
    (hlog : queue.log = w.queue.log) (hacked : queue.acked = w.queue.acked)
    (hnacked : queue.nacked = w.queue.nacked) (hm : Router.Settled m { w with queue } w')
    {topic : String} (horder : settledOn settled topic ++ [m] <+: w'.queue.publishedOn topic) :
    Tally start w' (settled ++ [.ofStep topic m w w']) := by
  have hprefix : w.queue.log <+: w'.queue.log := hlog ▸ hm.log_prefix
  have hinOrder : ∀ other, settledOn (settled ++ [Settlement.ofStep topic m w w']) other <+:
      w'.queue.publishedOn other := by
    intro other
    by_cases ht : topic = other
    · subst ht
      have hself := settledOn_snoc_self settled (.ofStep topic m w w')
      simp only [Settlement.ofStep] at hself ⊢
      rw [hself]
      exact horder
    · rw [settledOn_snoc_of_ne settled (by simpa [Settlement.ofStep] using ht)]
      exact (h.inOrder other).trans (Queue.publishedOn_prefix hprefix other)
  cases hm with
  | @acked w₁ hg =>
    have hacks : w₁.queue.acked = w.queue.acked := hg.queue.settled_eq.1.trans hacked
    have hnacks : w₁.queue.nacked = w.queue.nacked := hg.queue.settled_eq.2.trans hnacked
    have hhandled : w₁.stats.handled = w.stats.handled := hg.handled
    have hfailed : w₁.stats.failed = w.stats.failed := hg.failed
    refine h.snoc (.inl ?_) hinOrder ?_ ?_ ?_ ?_
    · simp [Settlement.ofStep, Queue.ack, hacks, hnacks]
    · simp [Settlement.ofStep, Queue.ack, hacks]
    · simp [Settlement.ofStep, Queue.ack, hnacks]
    · simp [Settlement.ofStep, Queue.ack, hacks, hhandled]
    · simp [Settlement.ofStep, Queue.ack, hnacks, hfailed]
  | @nacked w₁ hg reason =>
    have hacks : w₁.queue.acked = w.queue.acked := hg.queue.settled_eq.1.trans hacked
    have hnacks : w₁.queue.nacked = w.queue.nacked := hg.queue.settled_eq.2.trans hnacked
    have hhandled : w₁.stats.handled = w.stats.handled := hg.handled
    have hfailed : w₁.stats.failed = w.stats.failed := hg.failed
    refine h.snoc (.inr ⟨?_, reason, ?_⟩) hinOrder ?_ ?_ ?_ ?_
    · simp [Settlement.ofStep, Queue.nack, hacks]
    · simp [Settlement.ofStep, Queue.nack, hnacks]
    · simp [Settlement.ofStep, Queue.nack, hacks]
    · simp [Settlement.ofStep, Queue.nack, hnacks]
    · simp [Settlement.ofStep, Queue.nack, hacks, hhandled]
    · simp [Settlement.ofStep, Queue.nack, hnacks, hfailed]

/-- Routes stay served when a message of one of them is settled. -/
theorem Serving.settle {q q' : Queue} {routes : List (Route ξ)} (h : Serving q settled routes)
    {route : Route ξ} (hmem : route ∈ routes) {t : Settlement}
    (ht : t.topic = route.subscription.topic)
    (hroute : q'.Serves route.subscription.feed route.subscription.topic
      (settledOn settled route.subscription.topic ++ [t.message]))
    (hothers : ∀ id topic taken, id ≠ route.subscription.feed → q.Serves id topic taken →
      q'.Serves id topic taken) : Serving q' (settled ++ [t]) routes := by
  refine ⟨h.wired, h.topics, h.feeds, ?_⟩
  intro other ho
  by_cases hsame : other = route
  · rw [hsame, ← ht, settledOn_snoc_self, ht]
    exact hroute
  · have hfeed : other.subscription.feed ≠ route.subscription.feed := fun he =>
      hsame (List.inj_on_of_nodup_map h.feeds ho hmem he)
    have htopic : t.topic ≠ other.subscription.topic := fun he =>
      hsame (List.inj_on_of_nodup_map h.topics ho hmem (he.symm.trans ht))
    rw [settledOn_snoc_of_ne settled htopic]
    exact hothers _ _ _ hfeed (h.serves other ho)

/-- What the next receive of a served route gives. -/
inductive Received (route : Route ξ) (settled : List Settlement) (w : World ξ) :
    Outcome SubscribeError (Option Message) → World ξ → Prop where
  | cancelled : Received route settled w (.error .cancelled) w
  | nothing (h : w.queue.publishedOn route.subscription.topic =
      settledOn settled route.subscription.topic) : Received route settled w (.ok none) w
  | ended (h : w.queue.Exhausted route.subscription.topic
      (settledOn settled route.subscription.topic)) : Received route settled w (.error .closed) w
  | message {m : Message} {rest : List Message}
      (h : (w.queue.updateFeed route.subscription.feed fun f => { f with waiting := rest }).Serves
        route.subscription.feed route.subscription.topic
        (settledOn settled route.subscription.topic ++ [m])) :
    Received route settled w (.ok (some m)) { w with
      queue := w.queue.updateFeed route.subscription.feed fun f => { f with waiting := rest } }

theorem received {route : Route ξ} (hopened : route.subscription.closed = false)
    (hs : w.queue.Serves route.subscription.feed route.subscription.topic
      (settledOn settled route.subscription.topic)) :
    Received route settled w (route.subscription.tryReceive w).1
      (route.subscription.tryReceive w).2 := by
  have hreception := hs.reception
  cases hc : route.subscription.ctx.isCancelled w.scopes with
  | true =>
    rw [Subscription.tryReceive_of_cancelled hopened hc]
    exact .cancelled
  | false =>
    simp only [Subscription.tryReceive, hopened, hc, Bool.false_eq_true, if_false]
    generalize w.queue.receive route.subscription.feed = result at hreception ⊢
    obtain ⟨o, queue⟩ := result
    cases hreception with
    | message h => exact .message h
    | nothing h => exact .nothing h
    | ended h => exact .ended h

/-- A route is passed that gave nothing: it goes on if nothing waits, and ends if nothing will. -/
theorem passed_stands {passed : List (Route ξ × Bool)} {route : Route ξ} {ahead : List (Route ξ)}
    {idle : Bool} (h : Stands r start settled passLog (.round passed (route :: ahead) idle) w)
    (lost : Bool)
    (hall : w.queue.publishedOn route.subscription.topic =
      settledOn settled route.subscription.topic)
    (hlost : lost = true → w.queue.closed = true) :
    Stands r start settled passLog (.round (passed ++ [(route, lost)]) ahead idle) w := by
  obtain ⟨ht, hlog, hserving, hcovers, hended, hidle⟩ := h
  have hroutes : (passed ++ [(route, lost)]).map (·.1) ++ ahead =
      passed.map (·.1) ++ route :: ahead := by
    simp
  refine ⟨ht, hlog, ?_, ?_, ?_, ?_⟩
  · rw [hroutes]
    exact hserving
  · rw [hroutes]
    exact hcovers
  · intro e he hflag
    rcases List.mem_append.mp he with he | he
    · exact hended e he hflag
    · rw [List.mem_singleton] at he
      subst he
      exact ⟨hlost hflag, hall⟩
  · intro hi e he
    rcases List.mem_append.mp he with he | he
    · exact hidle hi e he
    · rw [List.mem_singleton] at he
      subst he
      rw [← hall]
      exact loggedOn_prefix hlog route.subscription.topic

/-- The message of a route is settled. -/
theorem message_stands {passed : List (Route ξ × Bool)} {route : Route ξ} {ahead : List (Route ξ)}
    {idle : Bool} (h : Stands r start settled passLog (.round passed (route :: ahead) idle) w)
    {m : Message} {rest : List Message} {w' : World ξ}
    (hserves : (w.queue.updateFeed route.subscription.feed fun f => { f with waiting := rest }).Serves
      route.subscription.feed route.subscription.topic
      (settledOn settled route.subscription.topic ++ [m]))
    (hm : Router.Settled m { w with
      queue := w.queue.updateFeed route.subscription.feed fun f => { f with waiting := rest } } w') :
    Stands r start (settled ++ [.ofStep route.subscription.topic m w w']) passLog
      (.round (passed ++ [(route, false)]) ahead false) w' := by
  obtain ⟨ht, hlog, hserving, hcovers, hended, _⟩ := h
  have hroutes : (passed ++ [(route, false)]).map (·.1) ++ ahead =
      passed.map (·.1) ++ route :: ahead := by
    simp
  have hmem : route ∈ passed.map (·.1) ++ route :: ahead := by simp
  have hown := hm.serves hserves
  have hserving' : Serving w'.queue (settled ++ [Settlement.ofStep route.subscription.topic m w w'])
      (passed.map (·.1) ++ route :: ahead) := by
    refine hserving.settle hmem rfl hown ?_
    intro id topic taken hid hs
    exact hm.serves (hs.updateFeed_of_ne hid (fun _ => rfl))
  have hexhausted : ∀ topic, route.subscription.topic ≠ topic →
      w.queue.Exhausted topic (settledOn settled topic) →
      w'.queue.Exhausted topic (settledOn
        (settled ++ [Settlement.ofStep route.subscription.topic m w w']) topic) := by
    intro topic hne he
    rw [settledOn_snoc_of_ne settled hne]
    exact hm.exhausted he
  refine ⟨ht.settle _ (by rfl) (by rfl) (by rfl) hm hown.prefix, hlog.trans hm.log_prefix, ?_, ?_,
    ?_, nofun⟩
  · rw [hroutes]
    exact hserving'
  · rw [hroutes]
    intro registration hreg
    by_cases htopic : route.subscription.topic = registration.topic
    · exact .inl ⟨route, hmem, htopic⟩
    · rcases hcovers registration hreg with hroute | he
      · exact .inl hroute
      · exact .inr (hexhausted _ htopic he)
  · intro e he hflag
    rcases List.mem_append.mp he with he | he
    · have hne : route.subscription.topic ≠ e.1.subscription.topic := by
        have htopics := hserving.topics
        rw [List.map_append, List.map_map, List.nodup_append] at htopics
        have hapart := htopics.2.2 _ (List.mem_map_of_mem he) route.subscription.topic (by simp)
        exact fun heq => hapart heq.symm
      exact hexhausted _ hne (hended e he hflag)
    · rw [List.mem_singleton] at he
      subst he
      cases hflag

/-- **The turn of a route**: what it takes is settled, and seen to be. -/
theorem turn_stands (hr : r.OverQueue) {passed : List (Route ξ × Bool)} {route : Route ξ}
    {ahead : List (Route ξ)} {idle : Bool}
    (h : Stands r start settled passLog (.round passed (route :: ahead) idle) w) :
    Stands r start
      (settled ++ (match (route.subscription.tryReceive w).1 with
        | .ok (some m) => [.ofStep route.subscription.topic m w
            (Run.turn r passed route ahead idle w).2]
        | _ => []))
      passLog (Run.turn r passed route ahead idle w).1 (Run.turn r passed route ahead idle w).2 := by
  have hmem : route ∈ passed.map (·.1) ++ route :: ahead := by simp
  have hserving := h.sound.1
  have hwired := hserving.wired route hmem
  have hreceived := received hwired.opened (hserving.serves route hmem)
  simp only [Run.turn]
  generalize route.subscription.tryReceive w = result at hreceived
  obtain ⟨o, w₁⟩ := result
  cases hreceived with
  | cancelled =>
    simp only [List.append_nil]
    exact ⟨h.tally, h.logged, hserving⟩
  | nothing hall =>
    simp only [List.append_nil]
    exact passed_stands h false hall nofun
  | ended he =>
    simp only [List.append_nil]
    exact passed_stands h true he.2 fun _ => he.1
  | @message m rest hserves =>
    have hm := Router.processSafely_settles hr.publisher hwired.handler hwired.broker m { w with
      queue := w.queue.updateFeed route.subscription.feed fun f => { f with waiting := rest } }
    exact message_stands h hserves hm

/-- A round begins, or the run is to end. -/
theorem beginRound_stands {routes : List (Route ξ)} (ctx : Context) (ht : Tally start w settled)
    (hserving : Serving w.queue settled routes) (hcovers : Covers r w.queue settled routes) :
    Stands r start settled w.queue.log (Run.beginRound ctx routes w) w := by
  refine ⟨ht, List.prefix_refl _, ?_⟩
  unfold Run.beginRound
  split
  · exact hserving
  · exact ⟨hserving, hcovers, by simp, by simp⟩

/-- The routes are given back at the end of a run. -/
theorem leave_stands (ctx : Context) {routes : List (Route ξ)} {result : Except RouterError Unit}
    (h : Stands r start settled passLog (.leaving result routes) w) :
    Stands r start settled passLog (Run.stepPoint r ctx (.leaving result routes) w).1
      (Run.stepPoint r ctx (.leaving result routes) w).2 := by
  obtain ⟨ht, hlog, hserving⟩ := h
  have ht' : Tally start (Run.setPhase .draining w) settled := ht.grows ⟨.refl, rfl, rfl⟩
  obtain ⟨queue, hback, hspares⟩ := giveBack_spares hserving.wired (Run.setPhase .draining w)
  have hlog' : passLog <+: queue.log := hspares.log ▸ hlog
  simp only [Run.stepPoint, hback]
  exact endWith_stands (ht'.spares hspares) hlog' _ none

/-- A step that takes no message changes nothing of what is seen to be settled. -/
theorem Watch.step_settled_of_none {s : Watch ξ} (h : s.run.next? s.world = none) :
    (s.step r).settled = s.settled := by
  simp [Watch.step, h]

/-- The turn of a route, seen from outside: what it takes is settled. -/
theorem Watch.step_turn (ctx : Context) (passed : List (Route ξ × Bool)) (route : Route ξ)
    (ahead : List (Route ξ)) (idle : Bool) (settled : List Settlement)
    (passLog : List (String × Message)) (hc : w.control.closing = false) :
    Watch.step r ⟨⟨ctx, .round passed (route :: ahead) idle⟩, w, settled, passLog⟩ =
      ⟨⟨ctx, (Run.turn r passed route ahead idle w).1⟩, (Run.turn r passed route ahead idle w).2,
        settled ++ (match (route.subscription.tryReceive w).1 with
          | .ok (some m) => [.ofStep route.subscription.topic m w
              (Run.turn r passed route ahead idle w).2]
          | _ => []),
        passLog⟩ := by
  have hstep : Run.stepPoint r ctx (.round passed (route :: ahead) idle) w =
      Run.turn r passed route ahead idle w := by
    simp [Run.stepPoint, hc]
  generalize hafter : Run.turn r passed route ahead idle w = after at hstep
  have htaken : ((Run.next? ⟨ctx, .round passed (route :: ahead) idle⟩ w).toList.map fun taken =>
      Settlement.ofStep taken.1 taken.2 w after.2) =
        match (route.subscription.tryReceive w).1 with
        | .ok (some m) => [.ofStep route.subscription.topic m w after.2]
        | _ => [] := by
    simp only [Run.next?, hc]
    cases (route.subscription.tryReceive w).1 with
    | ok received => cases received <;> rfl
    | error e => rfl
    | panic p => rfl
  simp only [Watch.step, Run.step, hstep, htaken]
  rfl

/-- **One step of a run that is watched.** -/
theorem Watch.step_stands (hr : r.OverQueue) {s : Watch ξ}
    (h : Stands r start s.settled s.passLog s.run.point s.world) :
    Stands r start (s.step r).settled (s.step r).passLog (s.step r).run.point (s.step r).world := by
  obtain ⟨⟨ctx, point⟩, w, settled, passLog⟩ := s
  simp only at h
  cases point with
  | top routes | resting routes =>
    rw [Watch.step_settled_of_none rfl]
    exact beginRound_stands ctx h.tally h.sound.1 h.sound.2
  | leaving result routes =>
    rw [Watch.step_settled_of_none rfl]
    exact leave_stands ctx h
  | ended outcome =>
    rw [Watch.step_settled_of_none rfl]
    exact h
  | round passed ahead idle =>
    cases ahead with
    | nil =>
      rw [Watch.step_settled_of_none rfl]
      exact sweep_stands h
    | cons route ahead =>
      cases hc : w.control.closing with
      | true =>
        have hnone : Run.next? ⟨ctx, .round passed (route :: ahead) idle⟩ w = none := by
          simp [Run.next?, hc]
        have hstep : Run.stepPoint r ctx (.round passed (route :: ahead) idle) w =
            Run.sweep passed (route :: ahead) idle w := by
          simp [Run.stepPoint, hc]
        rw [Watch.step_settled_of_none hnone]
        simp only [Watch.step, Run.step, hstep]
        exact sweep_stands h
      | false =>
        rw [Watch.step_turn ctx passed route ahead idle settled passLog hc]
        exact turn_stands hr h

end Steps

/-! ## Beginning -/

section Beginning

variable {r : Router ξ} {w : World ξ}

/-- What subscribing to a topic gives, and where it leaves the world: a subscription that settles with
the queue, or an error. -/
inductive Subscribed (topic : String) (w : World ξ) :
    Outcome SubscribeError (Subscription ξ) → World ξ → Prop where
  | opened {s : Subscription ξ} {w' : World ξ} (ht : s.topic = topic)
      (hb : s.broker = Broker.ofQueue) (ho : s.closed = false) (hg : w.Grows w')
      (hf : (w.queue.subscribe topic).1 = .ok s.feed)
      (hq : w'.queue = (w.queue.subscribe topic).2) : Subscribed topic w (.ok s) w'
  | refused {e : SubscribeError} {w' : World ξ} (hg : w.Grows w') : Subscribed topic w (.error e) w'

theorem subscribed (ctx : Context) (topic : String) (w : World ξ) :
    Subscribed topic w ((Subscriber.ofBroker Broker.ofQueue).subscribe ctx topic w).1
      ((Subscriber.ofBroker Broker.ofQueue).subscribe ctx topic w).2 := by
  rw [subscribe_apply]
  cases w.subscriberClosed with
  | true => exact .refused (.refl w)
  | false =>
    cases ctx.isCancelled w.scopes with
    | true => exact .refused (.refl w)
    | false =>
      cases hq : w.queue.closed with
      | true => exact .refused (.refl w)
      | false =>
        refine .opened rfl rfl rfl ⟨.subscribe .refl topic, rfl, rfl⟩ ?_ rfl
        simp [Queue.subscribe, hq]

/-- The feed of a served route was given out. -/
theorem Serving.feed_lt {q : Queue} {settled : List Settlement} {routes : List (Route ξ)}
    (h : Serving q settled routes) (hreached : q.Reached) {route : Route ξ} (hmem : route ∈ routes) :
    route.subscription.feed < q.nextFeed := by
  obtain ⟨f, hf, _⟩ := h.serves route hmem
  have hlt := hreached.lt_nextFeed f (List.mem_of_find?_eq_some hf)
  rw [Queue.id_of_feed? hf] at hlt
  exact hlt

/-- One more route is opened. -/
theorem Serving.snoc {opened : List (Route ξ)} (h : Serving w.queue [] opened)
    (hreached : w.queue.Reached) (route : Route ξ) {queue : Queue} (hw : Wired route)
    (hf : (w.queue.subscribe route.subscription.topic).1 = .ok route.subscription.feed)
    (hq : queue = (w.queue.subscribe route.subscription.topic).2)
    (htopics : ((opened ++ [route]).map (·.subscription.topic)).Nodup) :
    Serving queue [] (opened ++ [route]) := by
  obtain ⟨hnext, hnew⟩ := Queue.serves_subscribe hreached.lt_nextFeed hf
  refine ⟨?_, htopics, ?_, ?_⟩
  · intro other ho
    rcases List.mem_append.mp ho with ho | ho
    · exact h.wired other ho
    · rw [List.mem_singleton] at ho
      rw [ho]
      exact hw
  · rw [List.map_append, List.nodup_append]
    refine ⟨h.feeds, by simp, ?_⟩
    intro feed hfeed feed' hfeed'
    obtain ⟨other, ho, rfl⟩ := List.mem_map.mp hfeed
    have hlt := h.feed_lt hreached ho
    simp only [List.map_cons, List.map_nil, List.mem_singleton] at hfeed'
    omega
  · intro other ho
    rw [hq]
    rcases List.mem_append.mp ho with ho | ho
    · exact (h.serves other ho).subscribe route.subscription.topic
    · rw [List.mem_singleton] at ho
      rw [ho]
      exact hnew

/-- Topics are subscribed to one after the other: what is opened so far is served. -/
theorem openRoutes_serving [RetryLoop] (hr : r.OverQueue) (ctx : Context) (rest : List (Registration ξ))
    (hrest : ∀ registration ∈ rest, registration ∈ r.registrations) (opened : List (Route ξ))
    (hdistinct : (opened.map (·.subscription.topic) ++ rest.map (·.topic)).Nodup)
    (hreached : w.queue.Reached) (hserving : Serving w.queue [] opened) :
    w.Grows (Run.openRoutes r ctx rest opened w).2 ∧
      Serving (Run.openRoutes r ctx rest opened w).2.queue [] (Run.openRoutes r ctx rest opened w).1.2 ∧
      ((Run.openRoutes r ctx rest opened w).1.1 = .ok () →
        (Run.openRoutes r ctx rest opened w).1.2.map (·.subscription.topic) =
          opened.map (·.subscription.topic) ++ rest.map (·.topic)) := by
  induction rest generalizing opened w with
  | nil => exact ⟨.refl w, hserving, fun _ => by simp [Run.openRoutes]⟩
  | cons registration rest ih =>
    unfold Run.openRoutes
    split
    · exact ⟨.refl w, hserving, nofun⟩
    · have hsub := subscribed ctx registration.topic w
      rw [hr.subscriber]
      cases hresult : (Subscriber.ofBroker Broker.ofQueue).subscribe ctx registration.topic w with
      | mk o w' =>
        rw [hresult] at hsub
        cases hsub with
        | refused hg => exact ⟨hg, hserving.grows hg.queue, nofun⟩
        | @opened subscription _ ht hb ho hg hf hq =>
          have hmem := hrest registration List.mem_cons_self
          have hhandler := Router.chain_growing hr.middleware (hr.handlers registration hmem)
          have hdistinct' : ((opened ++ [(⟨subscription, registration.outputTopic,
              r.chain registration.handler⟩ : Route ξ)]).map (·.subscription.topic) ++
                rest.map (·.topic)).Nodup := by
            simpa [ht] using hdistinct
          have hserving' := hserving.snoc hreached ⟨subscription, registration.outputTopic,
            r.chain registration.handler⟩ ⟨hb, ho, hhandler⟩ (ht ▸ hf) (ht ▸ hq)
            hdistinct'.of_append_left
          have hreached' : w'.queue.Reached := hq ▸ hreached.subscribe registration.topic
          obtain ⟨hgrown, hserved, htopics⟩ :=
            ih (fun other hother => hrest other (List.mem_cons_of_mem _ hother)) _ hdistinct' hreached'
              hserving'
          refine ⟨hg.trans hgrown, hserved, fun hok => ?_⟩
          rw [htopics hok]
          simp [ht]

/-- A run that is opened serves every registered topic, or it is over at once. -/
theorem open_stands [RetryLoop] {start : World ξ} (hr : r.OverQueue) (ctx : Context) (hg : start.Grows w)
    (hreached : w.queue.Reached) :
    Stands r start [] [] (Run.open? r ctx w).1 (Run.open? r ctx w).2 := by
  obtain ⟨hopened, hserving, htopics⟩ := openRoutes_serving hr ctx r.registrations (fun _ h => h) []
    (by simpa using hr.topics) hreached (.nil _ _)
  unfold Run.open?
  generalize Run.openRoutes r ctx r.registrations [] w = result at hopened hserving htopics
  obtain ⟨⟨outcome, routes⟩, w'⟩ := result
  have ht : Tally start w' [] := .begin (hg.trans hopened)
  obtain ⟨queue, hback, hspares⟩ := giveBack_spares hserving.wired w'
  cases outcome with
  | ok v =>
    refine ⟨ht.grows ⟨.refl, rfl, rfl⟩, List.nil_prefix, hserving, ?_⟩
    intro registration hreg
    have hmem : registration.topic ∈ routes.map (·.subscription.topic) := by
      rw [htopics rfl]
      exact List.mem_map_of_mem hreg
    obtain ⟨route, hroute, htopic⟩ := List.mem_map.mp hmem
    exact .inl ⟨route, hroute, htopic⟩
  | error e =>
    simp only [hback]
    exact endWith_stands (ht.spares hspares) List.nil_prefix _ _
  | panic p =>
    simp only [hback]
    exact endWith_stands (ht.spares hspares) List.nil_prefix _ _

theorem Watch.begin_stands [RetryLoop] (hr : r.OverQueue) (ctx : Context) (hreached : w.queue.Reached) :
    Stands r w [] [] (Watch.begin r ctx w).run.point (Watch.begin r ctx w).world := by
  have hsame : ∀ scopes control, w.Grows { w with scopes, control } :=
    fun _ _ => ⟨.refl, rfl, rfl⟩
  simp only [Watch.begin, Run.start]
  split
  · exact ⟨.begin (.refl w), List.nil_prefix, trivial⟩
  · split
    · have hended := endWith_stands (r := r)
        (.begin (hsame w.scopes { w.control with started := true })) List.nil_prefix
        (.error .closed) none
      exact hended
    · exact open_stands hr _ (hsame _ _) hreached

end Beginning

/-! ## Every run -/

/-- What holds of a run that is watched: messages are settled once and in order, and counted, and a
pass that received nothing leaves nothing from before it. -/
structure Watch.InOrder (r : Router ξ) (start : World ξ) (s : Watch ξ) : Prop extends
    Tally start s.world s.settled where
  drained : ∀ passed, s.run.point = .round passed [] true →
    ∀ registration ∈ r.registrations, ∀ m, (registration.topic, m) ∈ s.passLog →
      m ∈ settledOn s.settled registration.topic

/-- After a pass that received nothing, everything from before it is settled. -/
theorem Stands.drained {r : Router ξ} {start w : World ξ} {settled : List Settlement}
    {passLog : List (String × Message)} {passed : List (Route ξ × Bool)}
    (h : Stands r start settled passLog (.round passed [] true) w) {registration : Registration ξ}
    (hreg : registration ∈ r.registrations) {m : Message} (hm : (registration.topic, m) ∈ passLog) :
    m ∈ settledOn settled registration.topic := by
  obtain ⟨_, hcovers, _, hidle⟩ := h.sound
  have hlogged : m ∈ loggedOn passLog registration.topic := by
    simp only [loggedOn, List.mem_map, List.mem_filter]
    exact ⟨_, ⟨hm, by simp⟩, rfl⟩
  rcases hcovers registration hreg with ⟨route, hroute, htopic⟩ | he
  · rw [List.append_nil] at hroute
    obtain ⟨e, he, rfl⟩ := List.mem_map.mp hroute
    have hprefix := hidle rfl e he
    rw [htopic] at hprefix
    exact hprefix.subset hlogged
  · have hprefix := loggedOn_prefix h.logged registration.topic
    rw [← he.2]
    exact hprefix.subset hlogged

/-- **Every message is settled once, in the order of publication**: at every point of every run, whatever
handlers, middleware and publishers do, and whatever others publish meanwhile. -/
theorem settles_once_in_order [RetryLoop] {r : Router ξ} (hr : r.OverQueue) {start : World ξ}
    (reached : start.queue.Reached) (ctx : Context) {s : Watch ξ} (h : Watch.Dispatches r ctx start s) :
    s.InOrder r start := by
  have hstands : Stands r start s.settled s.passLog s.run.point s.world := by
    induction h with
    | begin => exact Watch.begin_stands hr ctx reached
    | step _ ih => exact Watch.step_stands hr ih
    | meanwhile _ hg ih =>
      exact ⟨ih.tally.grows hg, ih.logged.trans hg.queue.log_prefix, ih.sound.grows hg.queue⟩
  refine ⟨hstands.tally, ?_⟩
  intro passed hpoint registration hreg m hm
  rw [hpoint] at hstands
  exact hstands.drained hreg hm

/-- A router with one handler, which is content with everything. -/
def contentRouter : Router Unit where
  subscriber := .ofBroker .ofQueue
  registrations := [{ topic := "symbol.created", handler := fun _ => pure [] }]

theorem contentRouter_overQueue : contentRouter.OverQueue where
  subscriber := rfl
  topics := by decide
  handlers := by
    intro registration hreg
    have heq : registration = { topic := "symbol.created", handler := fun _ => pure [] } := by
      simpa [contentRouter] using hreg
    rw [heq]
    exact fun _ => Action.Growing.pure []
  middleware := by simp [contentRouter]
  publisher := by simp [contentRouter]

/-- A world in whose queue one message waits. -/
def oneWaiting : World Unit :=
  { queue := (({} : Queue).publish "symbol.created" { uuid := "m1", payload := [] }).2, extra := () }

/-- The run of that router, after its first message and the pass that follows it. -/
def secondPass : Watch Unit :=
  (Watch.begin contentRouter { scope := 9 } oneWaiting).steps contentRouter 5

/-- The message is settled, and the second pass receives nothing. -/
theorem secondPass_inOrder :
    oneWaiting.queue.Reached ∧ secondPass.InOrder contentRouter oneWaiting ∧
      secondPass.settled.map (·.acked) = [["m1"]] ∧
      secondPass.passLog.map (·.1) = ["symbol.created"] := by
  have reached : oneWaiting.queue.Reached := .publish .empty _ _
  refine ⟨reached, ?_, by decide +kernel, by decide +kernel⟩
  exact settles_once_in_order contentRouter_overQueue reached { scope := 9 }
    (Watch.Dispatches.begin.steps 5)

end SymbolRelay
