import SymbolRelay.Delivery.Subscription
import SymbolRelay.Proofs.Actions
import SymbolRelay.Proofs.Delivery.Deliveries

/-!
# What a subscription gets

A subscription takes messages off its feed one at a time. It may wait for one, and while it waits others
go on: they ask the queue for whatever they like, and they cancel contexts. It may be closed. Once it was
told that there is no more, it is told so for ever.

## Results

* `use_queue` — using a subscription asks the queue for something;
* `Over.use`, `Over.refuses`, `over_of_error` — a subscription that is over stays over, and tells so;
* `takeAll_waiting` — as long as it is neither closed nor cancelled, all that waits can be received;
* `queue_delivers_all` — what a queue delivers, and what a subscription gets of it, whatever was asked
  for before and whatever is asked for in between.
-/

set_option autoImplicit false

namespace SymbolRelay

variable {ξ : Type}

namespace Subscription

/-- A subscription of the queue, whose feed is there. -/
structure Attached (s : Subscription ξ) (w : World ξ) : Prop where
  broker : s.broker = Broker.ofQueue
  feed : ∃ f, w.queue.feed? s.feed = some f

/-- A subscription that gives nothing any more: it is closed, or its context is cancelled, or its feed is
empty for good. -/
def Over (s : Subscription ξ) (w : World ξ) : Prop :=
  s.closed = true ∨ s.ctx.isCancelled w.scopes = true ∨ w.queue.Dry s.feed

variable {s : Subscription ξ} {w : World ξ}

/-! ## What using a subscription does to the queue -/

theorem pass_queue (w : World ξ) (happenings : List Happening) :
    ∃ requests, (w.pass happenings).queue = w.queue.after requests := by
  induction happenings generalizing w with
  | nil => exact ⟨[], rfl⟩
  | cons h happenings ih =>
    obtain ⟨requests, hrest⟩ := ih (w.happen h)
    cases h with
    | request r => exact ⟨r :: requests, hrest⟩
    | cancel ctx => exact ⟨requests, hrest⟩
    | child ctx => exact ⟨requests, hrest⟩

/-- The queue is asked for what happens meanwhile, and then for a message. -/
theorem receiveWithin_queue (s : Subscription ξ) (meanwhile : List Happening) (w : World ξ) :
    ∃ requests, (s.receiveWithin meanwhile w).2.queue = w.queue.after requests := by
  unfold receiveWithin
  split
  · exact ⟨[], rfl⟩
  · split
    · exact ⟨[], rfl⟩
    · obtain ⟨requests, hpass⟩ := pass_queue w meanwhile
      refine ⟨requests ++ [.receive s.feed], ?_⟩
      have hlast : ((w.pass meanwhile).queue.serve (.receive s.feed)).2 =
          ((w.pass meanwhile).queue.receive s.feed).2 := Queue.serve_receive_state _ _
      simp only [Queue.after, List.foldl_append, List.foldl_cons, List.foldl_nil] at hpass ⊢
      rw [← hpass, hlast]
      rcases (w.pass meanwhile).queue.receive s.feed with ⟨_ | _, _⟩ <;> rfl

theorem release_ofQueue (hb : s.broker = Broker.ofQueue) (w : World ξ) :
    ((s.release : Action (World ξ) SubscribeError Unit) w).2 =
      if s.closed then w else { w with queue := w.queue.unsubscribe s.topic s.feed } := by
  cases hc : s.closed with
  | true =>
    simp [release, hc]
    rfl
  | false =>
    simp [release, hc, hb]
    rfl

/-- **Whatever is done with a subscription, the queue is asked for something.** -/
theorem use_queue (hb : s.broker = Broker.ofQueue) (w : World ξ) (u : Use) :
    ∃ requests, (s.use w u).2.queue = w.queue.after requests := by
  cases u with
  | receive meanwhile => exact receiveWithin_queue s meanwhile w
  | close =>
    simp only [use, release_ofQueue hb]
    split
    · exact ⟨[], rfl⟩
    · exact ⟨[.unsubscribe s.topic s.feed], rfl⟩
  | apart h => exact pass_queue w [h]

/-! ## A subscription that is over -/

theorem use_feed (s : Subscription ξ) (w : World ξ) (u : Use) : (s.use w u).1.feed = s.feed := by
  cases u <;> rfl

theorem Attached.use (h : s.Attached w) (u : Use) : (s.use w u).1.Attached (s.use w u).2 := by
  obtain ⟨requests, hqueue⟩ := use_queue h.broker w u
  have hbroker : (s.use w u).1.broker = s.broker := by cases u <;> rfl
  refine ⟨hbroker.trans h.broker, ?_⟩
  rw [hqueue, use_feed]
  exact Queue.exists_feed?_after h.feed requests

theorem useAll_feed (s : Subscription ξ) (w : World ξ) (uses : List Use) :
    (s.useAll w uses).1.feed = s.feed := by
  induction uses generalizing s w with
  | nil => rfl
  | cons u uses ih => exact (ih (s.use w u).1 (s.use w u).2).trans (use_feed s w u)

/-- Cancelled is cancelled. -/
theorem isCancelled_happen {ctx : Context} (hc : ctx.isCancelled w.scopes = true) (h : Happening) :
    ctx.isCancelled (w.happen h).scopes = true := by
  cases h with
  | request r => exact hc
  | cancel other => simp [World.happen, Context.isCancelled_cancel, hc]
  | child other => exact hc

theorem isCancelled_pass {ctx : Context} (hc : ctx.isCancelled w.scopes = true)
    (happenings : List Happening) : ctx.isCancelled (w.pass happenings).scopes = true := by
  induction happenings generalizing w with
  | nil => exact hc
  | cons h happenings ih => exact ih (isCancelled_happen hc h)

/-- Nor is a cancelled context revived by what is done with the subscription. -/
theorem isCancelled_use {ctx : Context} (hc : ctx.isCancelled w.scopes = true)
    (hb : s.broker = Broker.ofQueue) (u : Use) : ctx.isCancelled (s.use w u).2.scopes = true := by
  cases u with
  | apart happening => exact isCancelled_happen hc happening
  | close =>
    simp only [use, release_ofQueue hb]
    split <;> exact hc
  | receive meanwhile =>
    simp only [use, receiveWithin]
    split
    · exact hc
    · split
      · exact hc
      · have hlater := isCancelled_pass hc meanwhile
        rcases (w.pass meanwhile).queue.receive s.feed with ⟨_ | _, _⟩ <;> exact hlater

/-- **A subscription that is over stays over.** -/
theorem Over.use (h : s.Over w) (hb : s.broker = Broker.ofQueue) (u : Use) :
    (s.use w u).1.Over (s.use w u).2 := by
  have hctx : (s.use w u).1.ctx = s.ctx := by cases u <;> rfl
  rcases h with hclosed | hcancelled | hdry
  · have hkept : (s.use w u).1.closed = true := by
      cases u with
      | close => rfl
      | receive meanwhile => exact hclosed
      | apart happening => exact hclosed
    exact .inl hkept
  · refine .inr (.inl ?_)
    rw [hctx]
    exact isCancelled_use hcancelled hb u
  · obtain ⟨requests, hqueue⟩ := use_queue hb w u
    refine .inr (.inr ?_)
    rw [hqueue, use_feed]
    exact hdry.after requests

theorem Over.useAll (h : s.Over w) (ha : s.Attached w) (uses : List Use) :
    (s.useAll w uses).1.Over (s.useAll w uses).2 := by
  induction uses generalizing s w with
  | nil => exact h
  | cons u uses ih => exact ih (h.use ha.broker u) (ha.use u)

theorem Attached.useAll (h : s.Attached w) (uses : List Use) :
    (s.useAll w uses).1.Attached (s.useAll w uses).2 := by
  induction uses generalizing s w with
  | nil => exact h
  | cons u uses ih => exact ih (h.use u)

/-- An empty feed that is not live gives an error. -/
theorem receive_of_dry {q : Queue} {id : Nat} (h : q.Dry id) : q.receive id = (.error (), q) := by
  obtain ⟨f, hf, hwaiting, hdead⟩ := h
  have hfind : q.feeds.find? (·.id = id) = some f := hf
  simp [Queue.receive, hfind, hwaiting, hdead]

/-- A feed that gives an error is empty, and not live. -/
theorem dry_of_receive {q q' : Queue} {id : Nat} (hfeed : ∃ f, q.feed? id = some f)
    (h : q.receive id = (.error (), q')) : q'.Dry id := by
  obtain ⟨f, hf⟩ := hfeed
  have hfind : q.feeds.find? (·.id = id) = some f := hf
  simp only [Queue.receive, hfind] at h
  cases hw : f.waiting with
  | cons m rest => simp [hw] at h
  | nil =>
    cases hl : f.live with
    | true => simp [hw, hl] at h
    | false =>
      simp only [hw, hl, Prod.mk.injEq] at h
      obtain ⟨_, rfl⟩ := h
      exact ⟨f, hf, hw, hl⟩

/-- A subscription that is over gives an error, however long one waits. -/
theorem Over.refuses (h : s.Over w) (meanwhile : List Happening) :
    ∃ e, (s.receiveWithin meanwhile w).1 = .error e := by
  cases hclosed : s.closed with
  | true => exact ⟨.closed, by simp [receiveWithin, hclosed]⟩
  | false =>
    cases hcancelled : s.ctx.isCancelled w.scopes with
    | true => exact ⟨.cancelled, by simp [receiveWithin, hclosed, hcancelled]⟩
    | false =>
      have hdry : w.queue.Dry s.feed := by simpa [Over, hclosed, hcancelled] using h
      obtain ⟨requests, hqueue⟩ := pass_queue w meanwhile
      have hafter := receive_of_dry (hqueue ▸ hdry.after requests)
      exact ⟨.closed, by simp [receiveWithin, hclosed, hcancelled, hafter]⟩

/-- **A subscription gives an error only when it is over.** -/
theorem over_of_error (ha : s.Attached w) {meanwhile : List Happening} {e : SubscribeError}
    (h : (s.receiveWithin meanwhile w).1 = .error e) : s.Over (s.receiveWithin meanwhile w).2 := by
  cases hclosed : s.closed with
  | true => exact .inl hclosed
  | false =>
    cases hcancelled : s.ctx.isCancelled w.scopes with
    | true =>
      refine .inr (.inl ?_)
      simp [receiveWithin, hclosed, hcancelled]
    | false =>
      simp only [receiveWithin, hclosed, hcancelled, Bool.false_eq_true, if_false] at h ⊢
      cases hr : (w.pass meanwhile).queue.receive s.feed with
      | mk outcome q =>
        cases outcome with
        | ok m => simp [hr] at h
        | error u =>
          obtain ⟨requests, hqueue⟩ := pass_queue w meanwhile
          have hfeed := Queue.exists_feed?_after ha.feed requests
          rw [← hqueue] at hfeed
          exact .inr (.inr (dry_of_receive hfeed hr))

/-! ## What waits can be received -/

/-- What a subscription receives is what the queue hands out of its feed. -/
theorem serve_receive_of_ok {meanwhile : List Happening} {m : Option Message}
    (h : (s.receiveWithin meanwhile w).1 = .ok m) :
    (w.pass meanwhile).queue.serve (.receive s.feed) =
      (.received m, (s.receiveWithin meanwhile w).2.queue) := by
  unfold receiveWithin at h ⊢
  split at h
  · simp at h
  · split at h
    · simp at h
    · rename_i hopen huncancelled
      simp only [if_neg hopen, if_neg huncancelled, Queue.serve]
      cases hr : (w.pass meanwhile).queue.receive s.feed with
      | mk outcome q =>
        cases outcome with
        | ok m' =>
          have hm : m' = m := by simpa [hr] using h
          simp [hm]
        | error u => simp [hr] at h

/-- Taking a message that waits leaves the rest. -/
theorem tryReceive_message (hopen : s.closed = false) (huncancelled : s.ctx.isCancelled w.scopes = false)
    {f : Feed} {m : Message} {rest : List Message} (hf : w.queue.feed? s.feed = some f)
    (hw : f.waiting = m :: rest) : s.tryReceive w = (.ok (some m),
      { w with queue := w.queue.updateFeed s.feed fun f => { f with waiting := rest } }) := by
  have hfind : w.queue.feeds.find? (·.id = s.feed) = some f := hf
  simp [tryReceive, hopen, huncancelled, Queue.receive, hfind, hw]

/-- When nothing waits, there is nothing to take. -/
theorem tryReceive_nothing (hopen : s.closed = false) (huncancelled : s.ctx.isCancelled w.scopes = false)
    {f : Feed} (hf : w.queue.feed? s.feed = some f) (hw : f.waiting = []) :
    s.tryReceive w = (if f.live then .ok none else .error .closed, w) := by
  have hfind : w.queue.feeds.find? (·.id = s.feed) = some f := hf
  cases hl : f.live <;> simp [tryReceive, hopen, huncancelled, Queue.receive, hfind, hw, hl]

/-- **As long as it is neither closed nor cancelled, a subscription gives what waits in its feed.** -/
theorem takeAll_waiting (ha : s.Attached w) (hopen : s.closed = false)
    (huncancelled : s.ctx.isCancelled w.scopes = false) (n : Nat) :
    ((s.takeAll n : Action (World ξ) SubscribeError (List Message)) w).1 =
      .ok ((w.queue.waitingIn s.feed).take n) := by
  induction n generalizing w with
  | zero => rfl
  | succ n ih =>
    obtain ⟨f, hf⟩ := ha.feed
    simp only [Queue.waitingIn, hf, Option.map_some, Option.getD_some]
    unfold takeAll
    rw [Action.bind_attempt]
    cases hw : f.waiting with
    | nil =>
      rw [tryReceive_nothing hopen huncancelled hf hw]
      cases f.live <;> rfl
    | cons m rest =>
      rw [tryReceive_message hopen huncancelled hf hw]
      have hleft := Queue.feed?_updateFeed_self hf (g := fun f => { f with waiting := rest }) fun _ => rfl
      let later := { w with queue := w.queue.updateFeed s.feed fun f => { f with waiting := rest } }
      have htaken := @ih later ⟨ha.broker, ⟨_, hleft⟩⟩ huncancelled
      have hwaiting : later.queue.waitingIn s.feed = rest := by
        simp [later, Queue.waitingIn, hleft]
      rw [hwaiting] at htaken
      have hall : (s.takeAll n : Action (World ξ) SubscribeError (List Message)) later =
          (.ok (rest.take n), (s.takeAll n later).2) := Prod.ext htaken rfl
      show ((s.takeAll n >>= fun ms => pure (m :: ms) :
        Action (World ξ) SubscribeError (List Message)) later).1 = _
      rw [Action.bind_ok hall]
      rfl

end Subscription

/-! ## Opening a subscription -/

/-- A subscription is opened unless the subscriber or the queue is closed or the context cancelled, and
then nothing happens. -/
theorem subscribe_apply (ctx : Context) (topic : String) (w : World ξ) :
    (Subscriber.ofBroker Broker.ofQueue).subscribe ctx topic w =
      if w.subscriberClosed then (.error .closed, w)
      else if ctx.isCancelled w.scopes then (.error .cancelled, w)
      else if w.queue.closed then (.error (.broker topic .closed), w)
      else
        (.ok { topic, feed := w.queue.nextFeed, broker := Broker.ofQueue, ctx := (ctx.child w.scopes).1 },
          { w with queue := (w.queue.subscribe topic).2, scopes := (ctx.child w.scopes).2 }) := by
  cases hc : w.subscriberClosed with
  | true => simp [Subscriber.ofBroker, bind, Action.bind, Action.get, hc, Action.fail]
  | false =>
    cases hctx : ctx.isCancelled w.scopes with
    | true => simp [Subscriber.ofBroker, bind, Action.bind, Action.get, hc, hctx, Action.fail]
    | false =>
      cases hq : w.queue.closed with
      | true =>
        simp [Subscriber.ofBroker, bind, Action.bind, Action.get, hc, hctx, Broker.ofQueue,
          World.onQueue, Action.mapError, Outcome.mapError, Outcome.ofExcept, Queue.subscribe, hq]
        rw [← hc]
      | false =>
        simp [Subscriber.ofBroker, bind, Action.bind, Action.get, hc, hctx, Broker.ofQueue,
          World.onQueue, World.onScopes, Action.mapError, Outcome.mapError, Outcome.ofExcept,
          Queue.subscribe, hq, pure, Action.pure]

/-- A subscription that is opened takes its messages off the feed that the queue opened for it. -/
theorem Subscription.of_subscribe {w w' : World ξ} {ctx : Context} {topic : String} {s : Subscription ξ}
    (h : (Subscriber.ofBroker Broker.ofQueue).subscribe ctx topic w = (.ok s, w')) :
    w.queue.serve (.subscribe topic) = (.opened s.feed, w'.queue) ∧ s.broker = Broker.ofQueue := by
  rw [subscribe_apply] at h
  split at h
  · simp at h
  · split at h
    · simp at h
    · split at h
      · simp at h
      · rename_i hopen
        simp only [Prod.mk.injEq, Outcome.ok.injEq] at h
        obtain ⟨rfl, rfl⟩ := h
        simp [Queue.serve, Queue.subscribe, hopen]

/-! ## All of it -/

/-- **What a queue delivers, and what its subscriptions get.** Whatever a queue was asked for before:

* a feed that is opened gets what was logged of its topic, and then all that is accepted for it, as long as
  it is not given up;
* a publish that is refused changes neither the log nor any feed;
* once the queue was closed, it accepts nothing, opens nothing, and has no live feed; until then it opens
  every feed, and accepts what it was not told to refuse;
* a subscription takes its messages off the feed that was opened for it, gives all that waits there unless
  it was closed or cancelled, and after an error gives nothing but errors, whatever is done with it or
  around it. -/
theorem queue_delivers_all (before : List Queue.Request) :
    let q := ({} : Queue).after before
    (∀ topic id later, (q.serve (.subscribe topic)).1 = .opened id →
      (∀ r ∈ later, r.givesUp topic id = false) →
      let opened := (q.serve (.subscribe topic)).2
      (opened.transcript later).filterMap (Queue.taken? id) ++ (opened.after later).waitingIn id =
        q.publishedOn topic ++ (opened.transcript later).filterMap (Queue.accepted? topic)) ∧
    (∀ topic m e, (q.serve (.publish topic m)).1 = .refused e →
      (q.serve (.publish topic m)).2.log = q.log ∧ (q.serve (.publish topic m)).2.feeds = q.feeds) ∧
    (.close ∈ before →
      (∀ topic m, q.serve (.publish topic m) = (.refused .closed, q)) ∧
      (∀ topic, q.serve (.subscribe topic) = (.refused .closed, q)) ∧
      (∀ f ∈ q.feeds, f.live = false) ∧ ∀ topic, q.subscriberCount topic = 0) ∧
    (.close ∉ before →
      (∀ topic, (q.serve (.subscribe topic)).1 = .opened q.nextFeed) ∧
      ∀ topic m, q.rejecting = 0 → (q.serve (.publish topic m)).1 = .done) ∧
    ∀ (w w' : World ξ) ctx topic s, w.queue = q →
      (Subscriber.ofBroker Broker.ofQueue).subscribe ctx topic w = (.ok s, w') →
      q.serve (.subscribe topic) = (.opened s.feed, w'.queue) ∧
      ∀ uses, let (t, v) := s.useAll w' uses
        (t.closed = false → t.ctx.isCancelled v.scopes = false → ∀ n,
          ((t.takeAll n : Action (World ξ) SubscribeError (List Message)) v).1 =
            .ok ((v.queue.waitingIn s.feed).take n)) ∧
        (∀ meanwhile m, (t.receiveWithin meanwhile v).1 = .ok m →
          (v.pass meanwhile).queue.serve (.receive s.feed) =
            (.received m, (t.receiveWithin meanwhile v).2.queue)) ∧
        ∀ meanwhile e, (t.receiveWithin meanwhile v).1 = .error e →
          ∀ more again, let (t, v) := t.useAll v (.receive meanwhile :: more)
            ∃ e', (t.receiveWithin again v).1 = .error e' := by
  intro q
  have hreached : q.Reached := Queue.Reached.empty.after before
  have hclosed : q.closed = true ↔ .close ∈ before := by simpa using Queue.closed_after_iff {} before
  refine ⟨?delivered, ?refused, ?closed, ?opened, ?subscription⟩
  case delivered =>
    intro topic id later hs hkept opened
    have howes := (Queue.owes_subscribe hreached hs).after hkept
    exact howes.waitingIn
  case refused =>
    intro topic m e h
    exact Queue.publish_refused h
  case closed =>
    intro hclose
    have hdead := hreached.dead_of_closed (hclosed.mpr hclose)
    have hrefuses := Queue.refuses_of_closed (hclosed.mpr hclose)
    exact ⟨fun topic m => (hrefuses topic m).1, fun topic => (hrefuses topic default).2, hdead,
      Queue.subscriberCount_of_dead hdead⟩
  case opened =>
    intro hclose
    have hopen : q.closed = false := Bool.eq_false_iff.mpr (mt hclosed.mp hclose)
    exact ⟨fun topic => (Queue.accepts_of_open hopen topic default).1,
      fun topic m => (Queue.accepts_of_open hopen topic m).2⟩
  case subscription =>
    intro w w' ctx topic s hw hs
    obtain ⟨hfeed, hbroker⟩ := Subscription.of_subscribe hs
    rw [hw] at hfeed
    refine ⟨hfeed, fun uses => ?_⟩
    have hopened : (q.serve (.subscribe topic)).1 = .opened s.feed := by rw [hfeed]
    obtain ⟨f, hf, _⟩ := Queue.owes_subscribe hreached hopened
    rw [hfeed] at hf
    have hattached : s.Attached w' := ⟨hbroker, ⟨f, hf⟩⟩
    have hthen := hattached.useAll uses
    have hkept : (s.useAll w' uses).1.feed = s.feed := Subscription.useAll_feed s w' uses
    refine ⟨?_, ?_, ?_⟩
    · intro hopen huncancelled n
      rw [← hkept]
      exact Subscription.takeAll_waiting hthen hopen huncancelled n
    · intro meanwhile m hm
      rw [← hkept]
      exact Subscription.serve_receive_of_ok hm
    · intro meanwhile e herror more again
      have hover := Subscription.over_of_error hthen herror
      exact (hover.useAll (hthen.use (.receive meanwhile)) more).refuses again

/-- An order and a bill. The next publish is refused. -/
def orderAndBill : List Queue.Request :=
  [.publish "orders" { uuid := "a" }, .publish "bills" { uuid := "b" }, .reject 1]

/-- One more order, and no more after it. -/
def lastOrder : List Queue.Request :=
  [.reject 0, .publish "orders" { uuid := "c" }, .clear, .receive 0, .close]

/-- A world with the order and the bill in its queue. -/
def orderWorld : World Unit := { queue := ({} : Queue).after orderAndBill, extra := () }

/-- Its queue when a feed of the orders was opened. -/
def orderQueue : Queue := (orderWorld.queue.serve (.subscribe "orders")).2

/-- The subscription whose feed that is. -/
def orderSubscription : Subscription Unit where
  topic := "orders"
  feed := 0
  broker := Broker.ofQueue
  ctx := ⟨Table.empty, 0, [1], false⟩

/-- The world in which it was opened. -/
def openedWorld : World Unit := { orderWorld with queue := orderQueue, scopes := { next := 1 } }

/-- The subscription and its world after it was used. -/
def usedOrders (uses : List Subscription.Use) : Subscription Unit × World Unit :=
  orderSubscription.useAll openedWorld (.apart (.request .close) :: uses)

/-- The order that was there is taken, and the one that follows waits. The bill is not for that feed, and
a refused order changes nothing. A subscription gives the order after the close, and then errors. -/
theorem orders_delivered_past_close :
    ((orderQueue.transcript lastOrder).filterMap (Queue.taken? 0) ++
        (orderQueue.after lastOrder).waitingIn 0 = [({ uuid := "a" } : Message), { uuid := "c" }]) ∧
    (orderWorld.queue.serve (.publish "orders" default)).2.log = orderWorld.queue.log ∧
    (∀ topic, (({} : Queue).after (orderAndBill ++ [.close])).subscriberCount topic = 0) ∧
    (((usedOrders []).1.takeAll 2 : Action (World Unit) SubscribeError (List Message))
      (usedOrders []).2).1 = .ok [{ uuid := "a" }] ∧
    ∀ again, ∃ e, ((usedOrders [.receive [], .receive []]).1.receiveWithin again
      (usedOrders [.receive [], .receive []]).2).1 = .error e := by
  have ⟨hdelivered, hrefused, _, hopened, hsubscription⟩ := queue_delivers_all (ξ := Unit) orderAndBill
  have ⟨_, _, hclosed, _⟩ := queue_delivers_all (ξ := Unit) (orderAndBill ++ [.close])
  have ⟨_, hused⟩ := hsubscription orderWorld openedWorld ⟨Table.empty, 1, [], false⟩ "orders"
    orderSubscription rfl rfl
  refine ⟨?_, ?_, ?_, ?_, ?_⟩
  · have hfeed := (hopened (by decide)).1 "orders"
    exact (hdelivered "orders" 0 lastOrder hfeed (by decide)).trans (by decide)
  · exact (hrefused "orders" default _ rfl).1
  · exact (hclosed (by decide)).2.2.2
  · exact ((hused [.apart (.request .close)]).1 rfl rfl 2).trans rfl
  · exact (hused [.apart (.request .close), .receive []]).2.2 [] .closed rfl []

end SymbolRelay
