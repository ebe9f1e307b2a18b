import SymbolRelay.Proofs.Delivery.Openings
import SymbolRelay.Proofs.Handling.Shutdown

/-!
# Nothing that was sent is dropped

While a router runs over the queue, others publish, close the queue, clear its log, and even unsubscribe the
feeds of the run; what they cannot do is take messages out of these feeds, or drop their receivers. The run
gives a route back in its rounds only when the feed of the route is over and nothing waits in it. So for each
registered topic, at any time:

```text
awaited ∪ held ∪ gone = registered       held:  settled ++ in hand ++ waiting = due
                                         gone:  settled = due
```

## Results

* `act_asks` — what the run asks the queue for by itself;
* `Account.act` — an act of a run keeps the account of what it was sent, unless the run ends otherwise than
  by losing its subscriptions;
* `Accounted.move`, `Accounted.play` — one move keeps it, and so does a whole life.
-/

set_option autoImplicit false

namespace SymbolRelay

variable {ξ : Type}

/-- Where the subscriber over the queue opens nothing, nothing happens. -/
theorem Subscriber.eq_of_unopened {ctx : Context} {topic : String} {w w' : World ξ}
    {o : Outcome SubscribeError (Subscription ξ)}
    (h : (Subscriber.ofBroker Broker.ofQueue).subscribe ctx topic w = (o, w')) (ho : ∀ s, o ≠ .ok s) :
    w' = w := by
  rw [subscribe_apply] at h
  split at h
  · exact (Prod.mk.inj h).2.symm
  · split at h
    · exact (Prod.mk.inj h).2.symm
    · split at h
      · exact (Prod.mk.inj h).2.symm
      · exact absurd (Prod.mk.inj h).1.symm (ho _)

/-! ## What a run asks for -/

namespace Course

/-- What the next act of a run asks the queue for by itself. What the queue is asked for while a message is
judged is not its own doing. -/
def asks (r : Router ξ) (c : Course ξ) (w : World ξ) : List Queue.Request :=
  match c.stage with
  | .subscribing (registration :: _) _ =>
    (c.opens? r w).toList.map fun _ => .subscribe registration.topic
  | .receiving _ route _ _ => [.receive route.subscription.feed]
  | .settling _ _ m none _ => [.ack m.uuid]
  | .settling _ _ m (some e) _ => [.nack m.uuid e.message]
  | .parting (route :: _) _ _ _ | .giving _ (route :: _) => route.subscription.farewell
  | _ => []

/-- **What a run asks the queue for by itself.** -/
theorem act_asks [RetryLoop] {r : Router ξ} (hr : r.subscriber = Subscriber.ofBroker Broker.ofQueue)
    (rung : Bool) {ctx : Context} {stage : Stage ξ} {w : World ξ}
    (howned : ∀ route ∈ stage.routes, Owned ctx route) (hown : stage.judged? = none) :
    (act r rung ctx stage w).2.queue = w.queue.after (asks r ⟨ctx, stage⟩ w) := by
  cases stage with
  | handling passed route m ahead => simp [Stage.judged?] at hown
  | subscribing ahead opened =>
    cases ahead with
    | nil => rfl
    | cons registration ahead =>
      simp only [act, subscribe, asks, opens?]
      split
      · rfl
      · cases hs : r.subscriber.subscribe ctx registration.topic w with
        | mk o w' =>
          cases o with
          | ok s =>
            rw [hr] at hs
            simp [Queue.after, (Subscriber.subscribe_eq_ok hs).1]
          | error e | panic p =>
            rw [hr] at hs
            obtain rfl := Subscriber.eq_of_unopened hs fun s hok => by cases hok
            rfl
  | receiving passed route ahead idle =>
    have hserved : (w.queue.receive route.subscription.feed).2 =
        w.queue.after [.receive route.subscription.feed] := (Queue.serve_receive_state _ _).symm
    simp only [act, receive, asks, ← hserved]
    split <;> rfl
  | settling passed route m verdict ahead =>
    have hbroker := (howned route (by simp [Stage.routes])).broker
    simp only [act, conclude, Router.conclude_ofQueue hbroker]
    cases verdict <;> rfl
  | parting lost panic kept idle =>
    cases lost with
    | nil => rfl
    | cons route lost =>
      have hbroker := (howned route (by simp [Stage.routes])).broker
      simp only [act, asks, Subscription.discard_ofQueue hbroker]
  | giving outcome left =>
    cases left with
    | nil => rfl
    | cons route left =>
      have hbroker := (howned route (by simp [Stage.routes])).broker
      simp only [act, asks, Subscription.discard_ofQueue hbroker]
  | asking passed ahead idle => cases ahead <;> rfl
  | _ => rfl

end Course

namespace Stage

/-- Others leave the feeds of a run to it: they take nothing out of them, and do not drop their receivers. -/
def Leaves (stage : Stage ξ) (requests : List Queue.Request) : Prop :=
  ∀ route ∈ stage.routes,
    .receive route.subscription.feed ∉ requests ∧ .dropReceiver route.subscription.feed ∉ requests

end Stage

/-- What the queue is asked for while a run takes its next act: what the run asks for itself, or, while a
message is judged, what others ask for. -/
structure Course.Hears (r : Router ξ) (c : Course ξ) (w : World ξ) (requests : List Queue.Request) : Prop where
  own : c.stage.judged? = none → requests = c.asks r w
  others : c.stage.judged? ≠ none → c.stage.Leaves requests

/-! ## Routes that ended -/

namespace Stage

/-- The routes that were found ended, and are still held. -/
def ended : Stage ξ → List (Route ξ)
  | .asking passed _ _ | .checking passed _ _ _ | .receiving passed _ _ _ | .handling passed _ _ _
  | .settling passed _ _ _ _ => (passed.filter (·.2)).map (·.1)
  | .parting lost _ _ _ => lost
  | _ => []

/-- A run that gave nothing back yet but what had ended; if it is over, all of it had. -/
def Faithful : Stage ξ → Prop
  | .admitted => False
  | .leaving result routes => result = .error .subscriptionsLost → routes = []
  | .giving outcome left => outcome = .error .subscriptionsLost ∧ left = []
  | .releasing outcome | .returned outcome => outcome = .error .subscriptionsLost
  | _ => True

/-- A run that ends otherwise than by losing its subscriptions. -/
def Elsewhere : Stage ξ → Prop
  | .giving outcome _ | .releasing outcome | .returned outcome => outcome ≠ .error .subscriptionsLost
  | _ => False

/-- A run that was asked to end. -/
theorem faithful_asked (routes : List (Route ξ)) : (Stage.leaving (.ok ()) routes).Faithful := nofun

theorem faithful_again (kept : List (Route ξ)) (idle : Bool) : (again kept idle).Faithful := by
  cases idle <;> trivial

@[simp] theorem ended_again (kept : List (Route ξ)) (idle : Bool) : (again kept idle).ended = [] := by
  cases idle <;> rfl

theorem ended_snoc (passed : List (Route ξ × Bool)) (route : Route ξ) (lost : Bool) :
    ((passed ++ [(route, lost)]).filter (·.2)).map (·.1) =
      (passed.filter (·.2)).map (·.1) ++ if lost then [route] else [] := by
  cases lost <;> simp

theorem faithful_sweep (passed : List (Route ξ × Bool)) (ahead : List (Route ξ)) (idle : Bool) :
    (sweep passed ahead idle).Faithful := by
  simp only [sweep]
  split
  · exact faithful_again _ _
  · trivial

theorem awaited_sweep (passed : List (Route ξ × Bool)) (ahead : List (Route ξ)) (idle : Bool) :
    (sweep passed ahead idle).awaited = [] := by
  simp only [sweep]
  split
  · exact awaited_again _ _
  · rfl

theorem inHand_sweep (passed : List (Route ξ × Bool)) (ahead : List (Route ξ)) (idle : Bool) :
    (sweep passed ahead idle).inHand = [] := by
  simp only [sweep]
  split
  · exact inHand_again _ _
  · rfl

/-- The end of a round gives up the routes that were found ended, and no others. -/
theorem mem_ended_sweep {passed : List (Route ξ × Bool)} {ahead : List (Route ξ)} {idle : Bool}
    {route : Route ξ} (h : route ∈ (sweep passed ahead idle).ended) :
    route ∈ (passed.filter (·.2)).map (·.1) := by
  simp only [sweep] at h
  split at h
  · simp at h
  · exact h

/-- The end of a round gives no route away. -/
theorem routes_sweep_perm (passed : List (Route ξ × Bool)) (ahead : List (Route ξ)) (idle : Bool) :
    (sweep passed ahead idle).routes.Perm (passed.map (·.1) ++ ahead) := by
  have hsplit : ((passed.filter (·.2)).map (·.1) ++ (passed.filter fun e => !e.2).map (·.1)).Perm
      (passed.map (·.1)) := by
    rw [← List.map_append]
    exact (List.filter_append_perm (·.2) passed).map _
  simp only [sweep]
  split
  · rename_i hnone
    rw [List.isEmpty_iff.mp hnone, List.nil_append] at hsplit
    rw [routes_again]
    exact hsplit.append_right ahead
  · rw [routes, ← List.append_assoc]
    exact hsplit.append_right ahead

end Stage

/-! ## The account of a run -/

/-- The account of a run that began with a queue, after what the queue was asked for since and what the run
settled: the topics that are registered are awaited, or held by a route, or gone. What was taken off the feed
of a route was settled, or is in hand. What is gone got all that it was due. -/
structure Account (r : Router ξ) (q : Queue) (requests : List Queue.Request) (settled : List Settlement)
    (gone : List String) (stage : Stage ξ) : Prop where
  faithful : stage.Faithful
  topics : (gone ++ stage.routes.map (·.subscription.topic) ++ stage.awaited.map (·.topic)).Perm
    (r.registrations.map (·.topic))
  unsettled : stage.awaited ≠ [] → settled = []
  tracked : ∀ route ∈ stage.routes,
    q.Tracked requests route.subscription.topic route.subscription.feed
      (settledOn settled route.subscription.topic ++ loggedOn stage.inHand route.subscription.topic)
  spent : ∀ topic ∈ gone, q.Spent requests topic (settledOn settled topic)
  ended : ∀ route ∈ stage.ended, (q.after requests).Dry route.subscription.feed

namespace Account

variable {r : Router ξ} {q : Queue} {requests : List Queue.Request} {settled : List Settlement}
  {gone : List String} {stage stage' : Stage ξ}

theorem nodup (htopics : (r.registrations.map (·.topic)).Nodup) (h : Account r q requests settled gone stage) :
    (gone ++ stage.routes.map (·.subscription.topic) ++ stage.awaited.map (·.topic)).Nodup :=
  h.topics.nodup_iff.mpr htopics

/-- No two routes have the same topic. -/
theorem eq_of_topic (htopics : (r.registrations.map (·.topic)).Nodup)
    (h : Account r q requests settled gone stage) {route other : Route ξ} (hroute : route ∈ stage.routes)
    (hother : other ∈ stage.routes) (heq : other.subscription.topic = route.subscription.topic) :
    other = route := by
  have hheld := ((List.nodup_append.mp (h.nodup htopics)).1 |> List.nodup_append.mp).2.1
  exact List.inj_on_of_nodup_map hheld hother hroute heq

/-- What is gone is not held. -/
theorem ne_of_gone (htopics : (r.registrations.map (·.topic)).Nodup)
    (h : Account r q requests settled gone stage) {route : Route ξ} (hroute : route ∈ stage.routes)
    {topic : String} (htopic : topic ∈ gone) : route.subscription.topic ≠ topic := by
  have hapart := ((List.nodup_append.mp (h.nodup htopics)).1 |> List.nodup_append.mp).2.2
  exact fun heq => hapart topic htopic _ (List.mem_map_of_mem hroute) heq.symm

/-- Routes of different topics have different feeds. -/
theorem feed_ne (hq : q.Reached) (h : Account r q requests settled gone stage) {route other : Route ξ}
    (hroute : route ∈ stage.routes) (hother : other ∈ stage.routes)
    (hne : other.subscription.topic ≠ route.subscription.topic) :
    other.subscription.feed ≠ route.subscription.feed :=
  (h.tracked other hother).ne hq (h.tracked route hroute) hne

/-- What a held topic is due was settled, is in hand, or waits. -/
theorem balance (hq : q.Reached) (h : Account r q requests settled gone stage) {route : Route ξ}
    (hroute : route ∈ stage.routes) :
    ∃ early late,
      q.Opening requests route.subscription.topic route.subscription.feed early late ∧
      settledOn settled route.subscription.topic ++ loggedOn stage.inHand route.subscription.topic ++
          (q.after requests).waitingIn route.subscription.feed =
        q.due route.subscription.topic route.subscription.feed early late := by
  obtain ⟨early, late, hopening, hlate, htaken⟩ := h.tracked route hroute
  exact ⟨early, late, hopening, by rw [← htaken, hopening.balance hq hlate]⟩

/-- A stage at which nothing was asked for, nothing was settled, and no route came or went. -/
theorem quiet (h : Account r q requests settled gone stage) (hfaithful : stage'.Faithful)
    (hroutes : stage'.routes.Perm stage.routes) (hawaited : stage'.awaited = stage.awaited)
    (hhand : stage'.inHand = stage.inHand) (hended : ∀ route ∈ stage'.ended, route ∈ stage.ended) :
    Account r q requests settled gone stage' where
  faithful := hfaithful
  topics := by
    rw [hawaited]
    exact (((hroutes.map _).append_left gone).append_right _).trans h.topics
  unsettled := hawaited ▸ h.unsettled
  tracked route hroute := hhand ▸ h.tracked route (hroutes.mem_iff.mp hroute)
  spent := h.spent
  ended route hroute := h.ended route (hended route hroute)

/-- Others ask for something, and leave the run its feeds. -/
theorem leaves (h : Account r q requests settled gone stage) {more : List Queue.Request}
    (hmore : stage.Leaves more) : Account r q (requests ++ more) settled gone stage where
  faithful := h.faithful
  topics := h.topics
  unsettled := h.unsettled
  tracked route hroute := (h.tracked route hroute).append (hmore route hroute).1 (hmore route hroute).2
  spent topic htopic := (h.spent topic htopic).append more
  ended route hroute := by
    rw [Queue.after_append]
    exact (h.ended route hroute).after more

/-- One more topic is subscribed to. -/
theorem subscribed {registration : Registration ξ} {ahead : List (Registration ξ)} {opened : List (Route ξ)}
    (h : Account r q requests settled gone (.subscribing (registration :: ahead) opened)) {route : Route ξ}
    (htopic : route.subscription.topic = registration.topic)
    (hserved : ((q.after requests).serve (.subscribe registration.topic)).1 =
      .opened route.subscription.feed) :
    Account r q (requests ++ [.subscribe registration.topic]) settled gone
      (.subscribing ahead (opened ++ [route])) := by
  have hkept : Account r q (requests ++ [.subscribe registration.topic]) settled gone
      (.subscribing (registration :: ahead) opened) := h.leaves fun _ _ => by simp
  have hsettled : settled = [] := h.unsettled (List.cons_ne_nil _ _)
  refine ⟨trivial, ?_, fun _ => hsettled, ?_, hkept.spent, hkept.ended⟩
  · have htopics := h.topics
    simpa [Stage.routes, Stage.awaited, htopic] using htopics
  · intro other hother
    rcases List.mem_append.mp hother with hother | hother
    · exact hkept.tracked other hother
    · obtain rfl := List.mem_singleton.mp hother
      rw [hsettled, htopic]
      exact Queue.tracked_subscribe hserved

/-- The next message of a route is taken, if one waits. -/
theorem received (hq : q.Reached) (htopics : (r.registrations.map (·.topic)).Nodup)
    {passed : List (Route ξ × Bool)} {route : Route ξ} {ahead : List (Route ξ)} {idle : Bool}
    (h : Account r q requests settled gone (.receiving passed route ahead idle))
    {stage' : Stage ξ} (hfaithful : stage'.Faithful)
    (hroutes : stage'.routes = passed.map (·.1) ++ route :: ahead) (hawaited : stage'.awaited = [])
    (hhand : stage'.inHand = (Queue.taken? route.subscription.feed (.receive route.subscription.feed,
      ((q.after requests).serve (.receive route.subscription.feed)).1)).toList.map
        fun m => (route.subscription.topic, m))
    (hended : ∀ other ∈ stage'.ended, other ∈ (passed.filter (·.2)).map (·.1) ∨
      other = route ∧ (q.after (requests ++ [.receive route.subscription.feed])).Dry
        route.subscription.feed) :
    Account r q (requests ++ [.receive route.subscription.feed]) settled gone stage' where
  faithful := hfaithful
  topics := by
    rw [hroutes, hawaited]
    exact h.topics
  unsettled hne := absurd hawaited hne
  tracked other hother := by
    rw [hroutes] at hother
    have hroute : route ∈ passed.map (·.1) ++ route :: ahead := by simp
    by_cases heq : other.subscription.topic = route.subscription.topic
    · obtain rfl := h.eq_of_topic htopics hroute hother heq
      have htracked := (h.tracked other hroute).receive
      simp only [Stage.inHand, loggedOn, List.filter_nil, List.map_nil, List.append_nil] at htracked
      simpa [hhand, loggedOn, List.filter_map, Function.comp_def] using htracked
    · have hnot : .receive other.subscription.feed ∉ [Queue.Request.receive route.subscription.feed] := by
        simpa using h.feed_ne hq hroute hother heq
      have hkept := (h.tracked other hother).append hnot (by simp)
      have hnone : loggedOn stage'.inHand other.subscription.topic = [] := by
        rw [hhand, loggedOn, List.filter_eq_nil_iff.mpr, List.map_nil]
        intro e he
        obtain ⟨m, _, rfl⟩ := List.mem_map.mp he
        simpa using Ne.symm heq
      rw [hnone]
      exact hkept
  spent topic htopic := (h.spent topic htopic).append _
  ended other hother := by
    rcases hended other hother with hother | ⟨rfl, hdry⟩
    · rw [Queue.after_append]
      exact (h.ended other hother).after _
    · exact hdry

/-- The message in hand is settled. -/
theorem concluded (htopics : (r.registrations.map (·.topic)).Nodup) {passed : List (Route ξ × Bool)}
    {route : Route ξ} {m : Message} {verdict : Option HandlerError} {ahead : List (Route ξ)}
    (h : Account r q requests settled gone (.settling passed route m verdict ahead)) {t : Settlement}
    (htopic : t.topic = route.subscription.topic) (hmessage : t.message = m) :
    Account r q requests (settled ++ [t]) gone (.asking (passed ++ [(route, false)]) ahead false) := by
  have hroutes : (Stage.asking (passed ++ [(route, false)]) ahead false).routes =
      passed.map (·.1) ++ route :: ahead := by simp [Stage.routes]
  have hroute : route ∈ passed.map (·.1) ++ route :: ahead := by simp
  refine ⟨trivial, ?_, fun hne => absurd rfl hne, ?_, ?_, ?_⟩
  · rw [hroutes]
    exact h.topics
  · intro other hother
    rw [hroutes] at hother
    have htracked := h.tracked other hother
    by_cases heq : other.subscription.topic = route.subscription.topic
    · have hsettled := settledOn_snoc_self settled t
      rw [htopic, hmessage] at hsettled
      rw [heq] at htracked ⊢
      simpa [Stage.inHand, loggedOn, hsettled] using htracked
    · have hne : t.topic ≠ other.subscription.topic := htopic ▸ Ne.symm heq
      rw [settledOn_snoc_of_ne settled hne]
      simpa [Stage.inHand, loggedOn, Ne.symm heq] using htracked
  · intro topic hgone
    have hne : t.topic ≠ topic := htopic ▸ h.ne_of_gone htopics hroute hgone
    rw [settledOn_snoc_of_ne settled hne]
    exact h.spent topic hgone
  · intro other hother
    simp only [Stage.ended, Stage.ended_snoc, Bool.false_eq_true, if_false, List.append_nil] at hother
    exact h.ended other hother

/-- **A route that ended is given back**: its topic got all that it was due. -/
theorem parted (hq : q.Reached) (htopics : (r.registrations.map (·.topic)).Nodup) {route : Route ξ}
    {lost kept : List (Route ξ)} {panic : Option Panic} {idle : Bool}
    (h : Account r q requests settled gone (.parting (route :: lost) panic kept idle))
    (hopened : route.subscription.closed = false) :
    Account r q (requests ++ route.subscription.farewell) settled (route.subscription.topic :: gone)
      (.parting lost panic kept idle) := by
  have hfarewell : route.subscription.farewell =
      [.unsubscribe route.subscription.topic route.subscription.feed,
        .dropReceiver route.subscription.feed] := by simp [Subscription.farewell, hopened]
  have hroute : route ∈ (Stage.parting (route :: lost) panic kept idle).routes := List.mem_cons_self
  have hmem : ∀ other ∈ lost ++ kept, other ∈ (Stage.parting (route :: lost) panic kept idle).routes :=
    fun other hother => List.mem_cons_of_mem _ hother
  have htopic : ∀ other ∈ lost ++ kept, other.subscription.topic ≠ route.subscription.topic := by
    intro other hother heq
    have hheld := ((List.nodup_append.mp (h.nodup htopics)).1 |> List.nodup_append.mp).2.1
    have hfirst := (List.nodup_cons.mp hheld).1
    exact hfirst (List.mem_map.mpr ⟨other, hother, heq⟩)
  refine ⟨trivial, ?_, fun hne => absurd rfl hne, ?_, ?_, ?_⟩
  · refine List.Perm.trans ?_ h.topics
    simp only [Stage.routes, Stage.awaited, List.map_nil, List.append_nil, List.cons_append, List.map_cons]
    exact List.perm_middle.symm
  · intro other hother
    have hne := h.feed_ne hq hroute (hmem other hother) (htopic other hother)
    exact (h.tracked other (hmem other hother)).append (by simp [hfarewell]) (by simpa [hfarewell] using hne)
  · intro topic hgone
    rcases List.mem_cons.mp hgone with rfl | hgone
    · have hempty := Queue.waitingIn_of_dry (h.ended route List.mem_cons_self)
      have htracked := h.tracked route hroute
      simp only [Stage.inHand, loggedOn, List.filter_nil, List.map_nil, List.append_nil] at htracked
      rw [hfarewell]
      exact htracked.spend hq hempty (by simp [Queue.Request.givesUp]) _
    · exact (h.spent topic hgone).append _
  · intro other hother
    rw [Queue.after_append]
    exact (h.ended other (List.mem_cons_of_mem _ hother)).after _

/-- A run that leaves its rounds lost its subscriptions, or ends otherwise. -/
theorem left {result : Except RouterError Unit} {routes : List (Route ξ)}
    (h : Account r q requests settled gone (.leaving result routes)) :
    (Stage.giving (.ofExcept result) routes).Elsewhere ∨
      Account r q requests settled gone (.giving (.ofExcept result) routes) := by
  by_cases hlost : result = .error .subscriptionsLost
  · have hnone : routes = [] := h.faithful hlost
    subst hlost hnone
    exact .inr (h.quiet ⟨rfl, rfl⟩ .rfl rfl rfl fun _ hmem => hmem)
  · refine .inl fun hsame => hlost ?_
    cases result with
    | ok v => cases hsame
    | error e =>
      cases hsame
      rfl

/-- **An act of a run keeps its account**, unless the run ends otherwise than by losing its
subscriptions. -/
theorem act [RetryLoop] (hr : r.subscriber = Subscriber.ofBroker Broker.ofQueue) (hq : q.Reached)
    (htopics : (r.registrations.map (·.topic)).Nodup) {ctx : Context} {w : World ξ} (rung : Bool)
    (hqueue : w.queue = q.after requests) (hcalm : stage.Calm)
    (howned : ∀ route ∈ stage.routes, Owned ctx route) (h : Account r q requests settled gone stage)
    {more : List Queue.Request} (hmore : Course.Hears r ⟨ctx, stage⟩ w more) :
    (Course.act r rung ctx stage w).1.Elsewhere ∨
      ∃ gone, Account r q (requests ++ more)
        (settled ++ (Course.settles? ⟨ctx, stage⟩ w (Course.act r rung ctx stage w).2).toList) gone
        (Course.act r rung ctx stage w).1 := by
  -- Most acts ask for nothing and settle nothing.
  have hquiet : ∀ {stage' : Stage ξ}, stage.judged? = none → Course.asks r ⟨ctx, stage⟩ w = [] →
      Account r q requests settled gone stage' →
      ∃ gone, Account r q (requests ++ more) (settled ++ ([] : List Settlement)) gone stage' := by
    intro stage' hown hasks hnext
    rw [hmore.own hown, hasks, List.append_nil, List.append_nil]
    exact ⟨gone, hnext⟩
  cases stage with
  | admitted => exact h.faithful.elim
  | subscribing ahead opened =>
    cases ahead with
    | nil => exact .inr (hquiet rfl rfl (h.quiet trivial .rfl rfl rfl fun _ hmem => hmem))
    | cons registration ahead =>
      have hasks := hmore.own rfl
      simp only [Course.asks, Course.opens?] at hasks
      simp only [Course.act, Course.subscribe, Course.settles?, Option.toList_none, List.append_nil]
      split
      · exact .inl fun hsame => by cases hsame
      · rename_i hpublisher
        rw [if_neg hpublisher] at hasks
        cases hs : r.subscriber.subscribe ctx registration.topic w with
        | mk o w' =>
          rw [hs] at hasks
          cases o with
          | error e => exact .inl fun hsame => by cases hsame
          | panic p => exact .inl fun hsame => by cases hsame
          | ok s =>
            rw [hr] at hs
            obtain ⟨hserved, hsub⟩ := Subscriber.subscribe_eq_ok hs
            rw [hqueue] at hserved
            have hmore : more = [.subscribe registration.topic] := hasks
            subst hmore
            exact .inr ⟨gone, h.subscribed (by rw [hsub]) (congrArg Prod.fst hserved)⟩
  | top routes =>
    simp only [Course.act]
    split
    · exact .inr (hquiet rfl rfl (h.quiet (Stage.faithful_asked _) .rfl rfl rfl (List.forall_mem_nil _)))
    · exact .inr (hquiet rfl rfl (h.quiet trivial .rfl rfl rfl (List.forall_mem_nil _)))
  | asking passed ahead idle =>
    have hswept : Account r q requests settled gone (.sweep passed ahead idle) :=
      h.quiet (Stage.faithful_sweep _ _ _) (Stage.routes_sweep_perm _ _ _) (Stage.awaited_sweep _ _ _)
        (Stage.inHand_sweep _ _ _) fun _ hmem => Stage.mem_ended_sweep hmem
    cases ahead with
    | nil => exact .inr (hquiet rfl rfl hswept)
    | cons route ahead =>
      simp only [Course.act]
      split
      · exact .inr (hquiet rfl rfl hswept)
      · exact .inr (hquiet rfl rfl (h.quiet trivial .rfl rfl rfl fun _ hmem => hmem))
  | checking passed route ahead idle =>
    have hopened := (howned route (by simp [Stage.routes])).opened
    simp only [Course.act, Course.check, hopened, Bool.false_eq_true, if_false]
    split
    · exact .inr (hquiet rfl rfl (h.quiet (Stage.faithful_asked _) .rfl rfl rfl (List.forall_mem_nil _)))
    · exact .inr (hquiet rfl rfl (h.quiet trivial .rfl rfl rfl fun _ hmem => hmem))
  | receiving passed route ahead idle =>
    have hroute : route ∈ (Stage.receiving passed route ahead idle).routes := by simp [Stage.routes]
    obtain ⟨f, hf, _⟩ := (h.tracked route hroute).feed hq
    obtain rfl : more = [.receive route.subscription.feed] := hmore.own rfl
    simp only [Course.act, Course.receive, Course.settles?, Option.toList_none, List.append_nil, hqueue]
    cases hreceive : (q.after requests).receive route.subscription.feed with
    | mk received queue =>
      cases received with
      | error e =>
        have hdry := Subscription.dry_of_receive ⟨f, hf⟩ hreceive
        have hlast : q.after (requests ++ [.receive route.subscription.feed]) = queue := by
          rw [Queue.after_append, Queue.after, List.foldl_cons, List.foldl_nil, Queue.serve_receive_state,
            hreceive]
        refine .inr ⟨gone, h.received hq htopics trivial (by simp [Stage.routes]) rfl ?_ ?_⟩
        · simp [Stage.inHand, Queue.serve, hreceive, Queue.taken?]
        · intro other hother
          simp only [Stage.ended, Stage.ended_snoc, if_true, List.mem_append, List.mem_singleton] at hother
          exact hother.imp_right fun hsame => ⟨hsame, hlast ▸ hdry⟩
      | ok waiting =>
        cases waiting with
        | none =>
          refine .inr ⟨gone, h.received hq htopics trivial (by simp [Stage.routes]) rfl ?_ ?_⟩
          · simp [Stage.inHand, Queue.serve, hreceive, Queue.taken?]
          · intro other hother
            simp only [Stage.ended, Stage.ended_snoc, Bool.false_eq_true, if_false, List.append_nil] at hother
            exact .inl hother
        | some m =>
          refine .inr ⟨gone, h.received hq htopics trivial rfl rfl ?_ fun other hother => .inl hother⟩
          simp [Stage.inHand, Queue.serve, hreceive, Queue.taken?]
  | handling passed route m ahead =>
    obtain ⟨verdict, w', hjudge⟩ := r.judge_returns route m w
    have hleft := h.leaves (hmore.others (by simp [Stage.judged?]))
    simp only [Course.act, Course.judge, hjudge, Course.settles?, Option.toList_none, List.append_nil]
    exact .inr ⟨gone, hleft.quiet trivial .rfl rfl rfl fun _ hmem => hmem⟩
  | settling passed route m verdict ahead =>
    have hleft : Account r q (requests ++ more) settled gone (.settling passed route m verdict ahead) := by
      refine h.leaves fun other _ => ?_
      rw [hmore.own rfl]
      cases verdict <;> simp [Course.asks]
    exact .inr ⟨gone, hleft.concluded htopics rfl rfl⟩
  | parting lost panic kept idle =>
    have hnone : panic = none := hcalm
    subst hnone
    cases lost with
    | cons route lost =>
      have hroute := howned route (by simp [Stage.routes])
      obtain rfl : more = route.subscription.farewell := hmore.own rfl
      simp only [Course.act, Subscription.discard_ofQueue hroute.broker, Outcome.panic?, Option.or_none,
        Course.settles?, Option.toList_none, List.append_nil]
      exact .inr ⟨_, h.parted hq htopics hroute.opened⟩
    | nil =>
      simp only [Course.act, Course.goOn]
      cases kept with
      | nil => exact .inr (hquiet rfl rfl (h.quiet (fun _ => rfl) .rfl rfl rfl (List.forall_mem_nil _)))
      | cons route kept =>
        have hroutes : (Stage.again (route :: kept) idle).routes.Perm (route :: kept) := by
          rw [Stage.routes_again]
        exact .inr (hquiet rfl rfl (h.quiet (Stage.faithful_again _ _) hroutes (Stage.awaited_again _ _)
          (Stage.inHand_again _ _) (by simp)))
  | resting routes =>
    simp only [Course.act]
    split
    · exact .inr (hquiet rfl rfl (h.quiet (Stage.faithful_asked _) .rfl rfl rfl (List.forall_mem_nil _)))
    · exact .inr (hquiet rfl rfl (h.quiet trivial .rfl rfl rfl (List.forall_mem_nil _)))
  | leaving result routes => exact h.left.imp_right (hquiet rfl rfl)
  | giving outcome left =>
    obtain ⟨rfl, rfl⟩ := h.faithful
    exact .inr (hquiet rfl rfl (h.quiet rfl .rfl rfl rfl (List.forall_mem_nil _)))
  | releasing outcome => exact .inr (hquiet rfl rfl (h.quiet h.faithful .rfl rfl rfl (List.forall_mem_nil _)))
  | returned outcome => exact .inr (hquiet rfl rfl (h.quiet h.faithful .rfl rfl rfl (List.forall_mem_nil _)))

end Account

/-- A run that ends otherwise does not change its mind. -/
theorem Stage.Elsewhere.goes {ctx : Context} {w : World ξ} {stage stage' : Stage ξ} (h : stage.Elsewhere)
    (hgoes : Course.Goes ctx w stage stage') : stage'.Elsewhere := by
  cases hgoes with
  | gives | given | releases | rests => exact h
  | _ => exact h.elim

namespace Lifecycle

/-! ## A life with what is asked for -/

/-- What the queue is asked for by a move. What the run asks for by its own acts is known, and others leave
its feeds to it. -/
structure Hears [RetryLoop] (r : Router ξ) (l : Lifecycle ξ) (m : Move ξ) (requests : List Queue.Request) :
    Prop where
  free : l.Free m
  queue : (l.move r m).world.queue = l.world.queue.after requests
  own : m = .advance → ∀ c, l.course = some c → c.Hears r l.world requests
  others : m ≠ .advance → ∀ c, l.course = some c → c.stage.Leaves requests

/-- Moves, each with what the queue is asked for by it. -/
def Scripted [RetryLoop] (r : Router ξ) : Lifecycle ξ → List (Move ξ × List Queue.Request) → Prop
  | _, [] => True
  | l, e :: script => Hears r l e.1 e.2 ∧ Scripted r (l.move r e.1) script

/-- The account of a router that began with a queue, after what the queue was asked for since. -/
structure Accounted (r : Router ξ) (q : Queue) (requests : List Queue.Request) (l : Lifecycle ξ) : Prop where
  queue : l.world.queue = q.after requests
  run : Fresh l ∨ ∃ c, Steady r l c ∧
    (c.stage = .admitted ∧ l.settled = [] ∨ c.stage.Elsewhere ∨
      ∃ gone, Account r q requests l.settled gone c.stage)

section Lives

variable {r : Router ξ} {q : Queue} {requests more : List Queue.Request} {l : Lifecycle ξ}
  {script : List (Move ξ × List Queue.Request)}

theorem Scripted.along [RetryLoop] (h : Scripted r l script) : Along r Free l (script.map (·.1)) := by
  induction script generalizing l with
  | nil => trivial
  | cons e script ih => exact ⟨h.1.free, ih h.2⟩

theorem scripted_append [RetryLoop] {after : List (Move ξ × List Queue.Request)} :
    Scripted r l (script ++ after) ↔ Scripted r l script ∧ Scripted r (play r l (script.map (·.1))) after := by
  induction script generalizing l with
  | nil => exact ⟨fun h => ⟨trivial, h⟩, fun h => h.2⟩
  | cons e script ih =>
    rw [List.cons_append, Scripted, Scripted, ih, and_assoc]
    rfl

/-- The next act of a run keeps its account. -/
theorem Accounted.advance [RetryLoop] (hr : r.OnQueue) (hq : q.Reached)
    (htopics : (r.registrations.map (·.topic)).Nodup)
    {c : Course ξ} (hsteady : Steady r l c) (hqueue : l.world.queue = q.after requests)
    (hmore : c.Hears r l.world more)
    (h : c.stage = .admitted ∧ l.settled = [] ∨ c.stage.Elsewhere ∨
      ∃ gone, Account r q requests l.settled gone c.stage) :
    ∃ c', Steady r (l.advance r) c' ∧ (c'.stage.Elsewhere ∨
      ∃ gone, Account r q (requests ++ more) (l.advance r).settled gone c'.stage) := by
  obtain ⟨hnext, hgoes⟩ := hsteady.advance hr
  refine ⟨_, hnext, ?_⟩
  obtain ⟨ctx, stage⟩ := c
  by_cases hadmitted : stage = .admitted
  · subst hadmitted
    obtain ⟨_, hnone⟩ | helsewhere | ⟨gone, haccount⟩ := h
    · obtain rfl : more = [] := hmore.own rfl
      rw [advance_of_some hsteady.begun.course]
      simp only [Course.step, Course.setOut, Course.settles?, Option.toList_none, List.append_nil, hnone]
      split
      · exact .inl fun hsame => by cases hsame
      · refine .inr ⟨[], trivial, ?_, fun _ => rfl, List.forall_mem_nil _, List.forall_mem_nil _,
          List.forall_mem_nil _⟩
        exact .rfl
    · exact helsewhere.elim
    · exact haccount.faithful.elim
  · have hgoes := hgoes hadmitted
    rw [advance_of_some hsteady.begun.course]
    rw [Course.step_of_ne r l.rung ctx hadmitted] at hgoes ⊢
    obtain ⟨hsame, _⟩ | helsewhere | ⟨gone, haccount⟩ := h
    · exact absurd hsame hadmitted
    · exact .inl (helsewhere.goes hgoes)
    · exact haccount.act hr.subscriber hq htopics l.rung hqueue hsteady.calm hsteady.owned hmore

/-- **One move keeps the account of a router.** -/
theorem Accounted.move [RetryLoop] (hr : r.OnQueue) (hq : q.Reached)
    (htopics : (r.registrations.map (·.topic)).Nodup) (h : Accounted r q requests l) {m : Move ξ}
    (hm : l.Hears r m more) :
    Accounted r q (requests ++ more) (l.move r m) where
  queue := by rw [hm.queue, h.queue, Queue.after_append]
  run := by
    rcases h.run with hfresh | ⟨c, hsteady, haccount⟩
    · rcases move_cases hr.handsOut hm.free with ⟨ctx, rfl⟩ | rfl | ⟨_, ha⟩
      · have hnone : (l.run ctx).settled = [] := by rw [hfresh.unbegun.run_eq, hfresh.settled]
        exact .inr ⟨_, hfresh.run ctx, .inl ⟨rfl, hnone⟩⟩
      · simp only [Lifecycle.move, hfresh.advance]
        exact .inl hfresh
      · exact .inl (hfresh.apart ha)
    · have hcourse := hsteady.begun.course
      have hkept : m ≠ .advance → (c.stage = .admitted ∧ l.settled = [] ∨ c.stage.Elsewhere ∨
          ∃ gone, Account r q (requests ++ more) l.settled gone c.stage) := by
        intro hne
        refine haccount.imp_right (.imp_right ?_)
        rintro ⟨gone, hbefore⟩
        exact ⟨gone, hbefore.leaves (hm.others hne c hcourse)⟩
      rcases move_cases hr.handsOut hm.free with ⟨ctx, rfl⟩ | rfl | ⟨hnone, ha⟩
      · simp only [Lifecycle.move, hsteady.begun.run ctx]
        exact .inr ⟨c, hsteady.answers _, hkept (by simp)⟩
      · obtain ⟨c', hnext, hafter⟩ :=
          Accounted.advance hr hq htopics hsteady h.queue (hm.own rfl c hcourse) haccount
        exact .inr ⟨c', hnext, .inr hafter⟩
      · refine .inr ⟨c, hsteady.apart ha, ?_⟩
        rw [ha.settled]
        refine hkept ?_
        rintro rfl
        simp [acts] at hnone

/-- **A whole life keeps the account of a router.** -/
theorem Accounted.play [RetryLoop] (hr : r.OnQueue) (hq : q.Reached)
    (htopics : (r.registrations.map (·.topic)).Nodup) (h : Accounted r q requests l)
    (hscript : Scripted r l script) :
    Accounted r q (requests ++ script.flatMap (·.2)) (play r l (script.map (·.1))) := by
  induction script generalizing requests l with
  | nil =>
    rw [List.flatMap_nil, List.append_nil]
    exact h
  | cons e script ih =>
    rw [List.flatMap_cons, ← List.append_assoc]
    exact ih (h.move hr hq htopics hscript.1) hscript.2

/-- A run that lost its subscriptions settled all that its topics were due. -/
theorem Accounted.spent (h : Accounted r q requests l)
    (ho : l.outcome? = some (.error .subscriptionsLost)) :
    ∀ registration ∈ r.registrations, q.Spent requests registration.topic
      (settledOn l.settled registration.topic) := by
  rcases h.run with hfresh | ⟨c, hsteady, haccount⟩
  · simp [outcome?, hfresh.unbegun.course] at ho
  · have hreturned := hsteady.returned_of_outcome ho
    rw [hreturned] at haccount
    obtain ⟨hadmitted, _⟩ | helsewhere | ⟨gone, haccount⟩ := haccount
    · cases hadmitted
    · exact absurd rfl helsewhere
    · intro registration hreg
      have htopics := haccount.topics
      simp only [Stage.routes, Stage.awaited, List.map_nil, List.append_nil] at htopics
      exact haccount.spent _ (htopics.mem_iff.mpr (List.mem_map_of_mem hreg))

/-- A run in its rounds dropped nothing of what its routes were due, and what it gives back got all of it. -/
theorem Accounted.serving (h : Accounted r q requests l) (hq : q.Reached) {c : Course ξ}
    (hcourse : l.course = some c) (hserving : c.stage.Serving) :
    (∀ route ∈ c.stage.routes, ∃ early late,
      q.Opening requests route.subscription.topic route.subscription.feed early late ∧
      settledOn l.settled route.subscription.topic ++ loggedOn c.stage.inHand route.subscription.topic ++
          l.world.queue.waitingIn route.subscription.feed =
        q.due route.subscription.topic route.subscription.feed early late) ∧
    ∀ route ∈ c.stage.ended, l.world.queue.waitingIn route.subscription.feed = [] := by
  rcases h.run with hfresh | ⟨c', hsteady, haccount⟩
  · simp [hfresh.unbegun.course] at hcourse
  · obtain rfl : c' = c := by simpa [hsteady.begun.course] using hcourse
    obtain ⟨hadmitted, _⟩ | helsewhere | ⟨gone, haccount⟩ := haccount
    · rw [hadmitted] at hserving
      exact hserving.elim
    · cases hstage : c'.stage <;> rw [hstage] at hserving helsewhere <;>
        first | exact hserving.elim | exact helsewhere.elim
    · rw [h.queue]
      exact ⟨fun route hroute => haccount.balance hq hroute,
        fun route hroute => Queue.waitingIn_of_dry (haccount.ended route hroute)⟩

end Lives

end Lifecycle

end SymbolRelay
