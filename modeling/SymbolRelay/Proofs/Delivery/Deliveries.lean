import SymbolRelay.Delivery.Requests
import SymbolRelay.Proofs.Delivery.QueueGrowth

/-!
# What is delivered

A queue is asked to publish, to open feeds and to give them up, to hand out what waits in them, to refuse
publishes, to close and to forget its log, in any order. Whatever else is asked, a feed that is not given
up gets what the log held of its topic when it was opened, and then all that is accepted for its topic:

```text
taken so far ++ still waiting = logged when it was opened ++ accepted since
```

## Results

* `feed?_serve` — what a request does to a feed;
* `Owes.serve`, `Owes.after` — what a feed owes its receiver, for one request and for many;
* `Dry.after` — a feed that is empty and not live stays so;
* `Reached.dead_of_closed` — no feed of a closed queue is live.
-/

set_option autoImplicit false

namespace SymbolRelay

namespace Queue

/-- The message that was accepted for a topic, if one was. -/
def accepted? (topic : String) : Request × Answer → Option Message
  | (.publish other m, .done) => if other = topic then some m else none
  | _ => none

/-- The message that was taken off a feed, if one was. -/
def taken? (id : Nat) : Request × Answer → Option Message
  | (.receive other, .received m) => if other = id then m else none
  | _ => none

/-- What waits in a feed. -/
def waitingIn (q : Queue) (id : Nat) : List Message := ((q.feed? id).map (·.waiting)).getD []

/-- Whether a request gives up a feed of a topic. -/
def Request.givesUp (topic : String) (id : Nat) : Request → Bool
  | .unsubscribe other feed => other = topic ∧ feed = id
  | .dropReceiver feed => feed = id
  | _ => false

variable {q : Queue} {id : Nat} {topic : String} {f : Feed}

/-- What is read off a transcript is read off its first entry, and then off the others. -/
theorem filterMap_transcript_cons {β : Type} (g : Request × Answer → Option β) (q : Queue) (r : Request)
    (requests : List Request) :
    (q.transcript (r :: requests)).filterMap g =
      (g (r, (q.serve r).1)).toList ++ ((q.serve r).2.transcript requests).filterMap g := by
  rw [transcript, List.filterMap_cons]
  cases g (r, (q.serve r).1) <;> rfl

theorem after_append (q : Queue) (requests more : List Request) :
    q.after (requests ++ more) = (q.after requests).after more := List.foldl_append

theorem transcript_append (q : Queue) (requests more : List Request) :
    q.transcript (requests ++ more) = q.transcript requests ++ (q.after requests).transcript more := by
  induction requests generalizing q with
  | nil => rfl
  | cons r requests ih =>
    rw [List.cons_append, transcript, ih, transcript, List.cons_append]
    rfl

/-- What every request keeps is kept by all of them. -/
theorem after_keeps {P : Queue → Prop} (hserve : ∀ q r, P q → P (q.serve r).2) (h : P q)
    (requests : List Request) : P (q.after requests) := by
  induction requests generalizing q with
  | nil => exact h
  | cons r requests ih => exact ih (hserve q r h)

/-! ## What a request does to a feed -/

/-- A feed after a request to its queue. -/
def feedAfter (q : Queue) (f : Feed) : Request → Feed
  | .publish topic m => if (q.serve (.publish topic m)).1 = .done then f.deliver topic m else f
  | .unsubscribe topic id => if f.id = id ∧ f.topic = topic then { f with live := false } else f
  | .receive id => if f.id = id then { f with waiting := f.waiting.tail } else f
  | .dropReceiver id => if f.id = id then { f with held := false, waiting := [] } else f
  | .close => if q.closed then f else { f with live := false }
  | _ => f

theorem serve_publish (q : Queue) (topic : String) (m : Message) :
    (∃ e rejecting, q.serve (.publish topic m) = (.refused e, { q with rejecting })) ∨
      q.closed = false ∧ q.serve (.publish topic m) = (.done, { q with
        feeds := q.feeds.map fun f => f.deliver topic m
        log := q.log ++ [(topic, m)] }) := by
  rcases q.publish_cases topic m with ⟨e, rejecting, h⟩ | ⟨hopen, h⟩
  · exact .inl ⟨e, rejecting, by simp only [serve, h]⟩
  · exact .inr ⟨hopen, by simp only [serve, h]⟩

/-- Receiving takes the first message that waits in a feed. An empty feed gives none, and tells whether one
may follow. -/
theorem serve_receive_self (h : q.feed? id = some f) :
    q.serve (.receive id) = match f.waiting with
      | m :: rest => (.received (some m), q.updateFeed id fun f => { f with waiting := rest })
      | [] => (if f.live then .received none else .ended, q) := by
  have hfind : q.feeds.find? (·.id = id) = some f := h
  simp only [serve, Queue.receive, hfind]
  cases f.waiting with
  | cons m rest => rfl
  | nil => cases f.live <;> rfl

theorem serve_receive_state (q : Queue) (id : Nat) : (q.serve (.receive id)).2 = (q.receive id).2 := by
  simp only [serve]
  rcases q.receive id with ⟨_ | _, _⟩ <;> rfl

theorem feed?_serve_receive_of_ne {other : Nat} (hne : id ≠ other) :
    (q.serve (.receive other)).2.feed? id = q.feed? id := by
  rw [serve_receive_state]
  rcases q.receive_state other with hr | ⟨rest, hr⟩
  · rw [hr]
  · rw [hr]
    exact feed?_updateFeed_of_ne hne (g := fun f => { f with waiting := rest }) fun _ => rfl

/-- **What a request does to a feed.** -/
theorem feed?_serve (h : q.feed? id = some f) (r : Request) :
    (q.serve r).2.feed? id = some (q.feedAfter f r) := by
  have hid := id_of_feed? h
  cases r with
  | ack | nack | reject | clear => exact h
  | publish topic m =>
    simp only [feedAfter]
    rcases q.serve_publish topic m with ⟨e, rejecting, hp⟩ | ⟨_, hp⟩
    · rw [hp]
      exact h
    · rw [hp]
      exact feed?_of_map (g := (·.deliver topic m)) h (id_deliver topic m) rfl
  | subscribe topic =>
    simp only [serve, Queue.subscribe]
    cases q.closed with
    | true => exact h
    | false => exact feed?_of_append h rfl
  | unsubscribe topic feed =>
    simp only [serve, Queue.unsubscribe, feedAfter]
    have hkeep : ∀ f : Feed, (if f.topic = topic then { f with live := false } else f).id = f.id := by
      intro f
      split <;> rfl
    by_cases hfeed : id = feed
    · subst hfeed
      rw [feed?_updateFeed_self h hkeep]
      simp [hid]
    · rw [feed?_updateFeed_of_ne hfeed hkeep, h]
      simp [hid, hfeed]
  | receive feed =>
    by_cases hfeed : id = feed
    · subst hfeed
      rw [serve_receive_self h]
      simp only [feedAfter, if_pos hid]
      obtain ⟨feed, topic, waiting, live, held⟩ := f
      cases waiting with
      | nil => exact h
      | cons m rest => exact feed?_updateFeed_self h (g := fun f => { f with waiting := rest }) fun _ => rfl
    · rw [feed?_serve_receive_of_ne hfeed, h]
      simp [feedAfter, hid, hfeed]
  | dropReceiver feed =>
    simp only [serve, Queue.dropReceiver, feedAfter]
    by_cases hfeed : id = feed
    · subst hfeed
      rw [feed?_updateFeed_self h (g := fun f => { f with held := false, waiting := [] }) fun _ => rfl]
      simp [hid]
    · rw [feed?_updateFeed_of_ne hfeed (g := fun f => { f with held := false, waiting := [] }) fun _ => rfl,
        h]
      simp [hid, hfeed]
  | close =>
    simp only [serve, Queue.close, feedAfter]
    cases hc : q.closed with
    | true => exact h
    | false => exact feed?_of_map (g := fun f => { f with live := false }) h (fun _ => rfl) rfl

/-! ## What a feed owes its receiver -/

/-- A feed of a topic is there for its receiver: what was taken off it and what waits in it are these
messages. It is live unless the queue is closed. -/
def Owes (q : Queue) (id : Nat) (topic : String) (taken all : List Message) : Prop :=
  ∃ f, q.feed? id = some f ∧ f.topic = topic ∧ f.held = true ∧ (f.live = true ∨ q.closed = true) ∧
    taken ++ f.waiting = all

variable {taken all : List Message}

theorem Serves.owes (h : q.Serves id topic taken) : q.Owes id topic taken (q.publishedOn topic) := by
  obtain ⟨f, hf, ht, hheld, hlive, hpublished⟩ := h
  exact ⟨f, hf, ht, hheld, hlive, hpublished.symm⟩

/-- A feed that is opened owes what was published. -/
theorem owes_subscribe (h : q.Reached) (hs : (q.serve (.subscribe topic)).1 = .opened id) :
    (q.serve (.subscribe topic)).2.Owes id topic [] (q.publishedOn topic) := by
  simp only [serve] at hs ⊢
  cases hr : q.subscribe topic with
  | mk outcome q' =>
    cases outcome with
    | error e => simp [hr] at hs
    | ok feed =>
      simp only [hr, Answer.opened.injEq] at hs ⊢
      subst hs
      have hok : (q.subscribe topic).1 = .ok feed := by rw [hr]
      have hstart := (serves_subscribe h.lt_nextFeed hok).2.owes
      have hlog : (q.subscribe topic).2.publishedOn topic = q.publishedOn topic := by
        unfold Queue.subscribe
        split <;> rfl
      rwa [hlog, hr] at hstart

theorem Owes.waitingIn (h : q.Owes id topic taken all) : taken ++ q.waitingIn id = all := by
  obtain ⟨f, hf, _, _, _, hall⟩ := h
  simpa [Queue.waitingIn, hf] using hall

/-- A queue is closed by being asked to, and never opened again. -/
theorem closed_serve_iff (q : Queue) (r : Request) :
    (q.serve r).2.closed = true ↔ q.closed = true ∨ r = .close := by
  cases r with
  | publish topic m =>
    rcases q.serve_publish topic m with ⟨e, rejecting, hp⟩ | ⟨_, hp⟩ <;> simp [hp]
  | subscribe topic =>
    simp only [serve, Queue.subscribe]
    cases hc : q.closed <;> simp [hc]
  | receive id =>
    rw [serve_receive_state]
    rcases q.receive_state id with hr | ⟨rest, hr⟩
    · simp [hr]
    · simp [hr, updateFeed]
  | close =>
    simp only [serve, Queue.close]
    cases hc : q.closed <;> simp [hc]
  | unsubscribe topic id => simp [serve, Queue.unsubscribe, updateFeed]
  | dropReceiver id => simp [serve, Queue.dropReceiver, updateFeed]
  | ack messageId => simp [serve, Queue.ack]
  | nack messageId reason => simp [serve, Queue.nack]
  | reject count => simp [serve]
  | clear => simp [serve, Queue.clear]

theorem closed_serve (h : q.closed = true) (r : Request) : (q.serve r).2.closed = true :=
  (closed_serve_iff q r).mpr (.inl h)

/-- **What is asked for and does not give a feed up leaves it owing what it owed**, and what was accepted
for its topic besides. -/
theorem Owes.serve (h : q.Owes id topic taken all) {r : Request} (hr : r.givesUp topic id = false) :
    (q.serve r).2.Owes id topic (taken ++ (taken? id (r, (q.serve r).1)).toList)
      (all ++ (accepted? topic (r, (q.serve r).1)).toList) := by
  obtain ⟨f, hf, rfl, hheld, hlive, rfl⟩ := h
  have hid := id_of_feed? hf
  have hafter := feed?_serve hf r
  have hlater : f.live = true ∨ (q.serve r).2.closed = true := hlive.imp_right fun h => closed_serve h r
  refine ⟨q.feedAfter f r, hafter, ?_⟩
  cases r with
  | ack | nack | reject | clear | subscribe =>
    exact ⟨rfl, hheld, hlater, by simp [feedAfter, taken?, accepted?]⟩
  | publish other m =>
    rcases q.serve_publish other m with ⟨e, rejecting, hp⟩ | ⟨hopen, hp⟩
    · have hsame : q.feedAfter f (.publish other m) = f := by simp [feedAfter, hp]
      rw [hsame]
      exact ⟨rfl, hheld, hlater, by simp [hp, taken?, accepted?]⟩
    · have hflive : f.live = true := by simpa [hopen] using hlive
      simp only [feedAfter, hp, if_true]
      by_cases hother : f.topic = other
      · simp [Feed.deliver, hother, hflive, hheld, taken?, accepted?]
      · simp [Feed.deliver, hother, hflive, hheld, taken?, accepted?, Ne.symm hother]
  | unsubscribe other feed =>
    have hapart : ¬(f.id = feed ∧ f.topic = other) := by
      rintro ⟨rfl, rfl⟩
      simp [Request.givesUp, hid] at hr
    have hsame : q.feedAfter f (.unsubscribe other feed) = f := if_neg hapart
    rw [hsame]
    exact ⟨rfl, hheld, hlater, by simp [taken?, accepted?]⟩
  | receive feed =>
    simp only [feedAfter]
    by_cases hfeed : feed = id
    · subst hfeed
      rw [if_pos hid]
      refine ⟨rfl, hheld, hlater, ?_⟩
      rw [serve_receive_self hf]
      cases f.waiting with
      | cons m rest => simp [taken?, accepted?]
      | nil => cases f.live <;> simp [taken?, accepted?]
    · rw [if_neg (hid ▸ Ne.symm hfeed)]
      refine ⟨rfl, hheld, hlater, ?_⟩
      cases (q.serve (.receive feed)).1 <;> simp [taken?, accepted?, hfeed]
  | dropReceiver feed =>
    have hapart : f.id ≠ feed := by
      rintro rfl
      simp [Request.givesUp, hid] at hr
    have hsame : q.feedAfter f (.dropReceiver feed) = f := if_neg hapart
    rw [hsame]
    exact ⟨rfl, hheld, hlater, by simp [taken?, accepted?]⟩
  | close =>
    have hclosed := (closed_serve_iff q .close).mpr (.inr rfl)
    simp only [feedAfter]
    split
    · exact ⟨rfl, hheld, .inr hclosed, by simp [taken?, accepted?]⟩
    · exact ⟨rfl, hheld, .inr hclosed, by simp [taken?, accepted?]⟩

/-- What a feed owes after one request after the other, none of which gives it up. -/
theorem Owes.after (h : q.Owes id topic taken all) {requests : List Request}
    (hr : ∀ r ∈ requests, r.givesUp topic id = false) :
    (q.after requests).Owes id topic (taken ++ (q.transcript requests).filterMap (taken? id))
      (all ++ (q.transcript requests).filterMap (accepted? topic)) := by
  induction requests generalizing q taken all with
  | nil => simpa [Queue.after, transcript] using h
  | cons r requests ih =>
    have hserved := h.serve (hr r List.mem_cons_self)
    have hrest := ih hserved fun r' hr' => hr r' (List.mem_cons_of_mem _ hr')
    rw [filterMap_transcript_cons, filterMap_transcript_cons, ← List.append_assoc, ← List.append_assoc]
    exact hrest

/-! ## What can be reached -/

/-- A queue that was asked for something is as it can be. -/
theorem Reached.serve (h : q.Reached) (r : Request) : (q.serve r).2.Reached := by
  cases r with
  | publish topic m =>
    have hr := h.publish topic m
    have hstate : (q.serve (.publish topic m)).2 = (q.publish topic m).2 := by
      simp only [Queue.serve]
      rcases q.publish topic m with ⟨_ | _, _⟩ <;> rfl
    rwa [hstate]
  | subscribe topic =>
    have hr := h.subscribe topic
    have hstate : (q.serve (.subscribe topic)).2 = (q.subscribe topic).2 := by
      simp only [Queue.serve]
      rcases q.subscribe topic with ⟨_ | _, _⟩ <;> rfl
    rwa [hstate]
  | receive id =>
    rw [serve_receive_state]
    exact h.receive id
  | unsubscribe topic id => exact h.unsubscribe topic id
  | dropReceiver id => exact h.dropReceiver id
  | ack messageId => exact h.ack messageId
  | nack messageId reason => exact h.nack messageId reason
  | reject count => exact h.reject count
  | close => exact h.close
  | clear => exact h.clear

theorem Reached.after (h : q.Reached) (requests : List Request) : (q.after requests).Reached :=
  after_keeps (fun _ r hreached => hreached.serve r) h requests

theorem dead_of_map {feeds : List Feed} (h : ∀ f ∈ feeds, f.live = false) {g : Feed → Feed}
    (hg : ∀ f : Feed, f.live = false → (g f).live = false) : ∀ f ∈ feeds.map g, f.live = false := by
  intro f hf
  obtain ⟨f, hmem, rfl⟩ := List.mem_map.mp hf
  exact hg f (h f hmem)

/-- No feed of a closed queue is live. -/
theorem Reached.dead_of_closed (h : q.Reached) (hc : q.closed = true) : ∀ f ∈ q.feeds, f.live = false := by
  induction h with
  | empty => simp
  | ack _ _ ih | nack _ _ _ ih | reject _ _ ih | clear _ ih => exact ih hc
  | @publish q _ topic m ih =>
    rcases q.publish_cases topic m with ⟨e, rejecting, hp⟩ | ⟨hopen, hp⟩
    · rw [hp] at hc ⊢
      exact ih hc
    · rw [hp] at hc
      simp [hopen] at hc
  | @subscribe q _ topic ih =>
    cases hclosed : q.closed with
    | true =>
      simp only [Queue.subscribe, hclosed]
      exact ih hclosed
    | false => simp [Queue.subscribe, hclosed] at hc
  | unsubscribe _ topic id ih =>
    refine dead_of_map (ih hc) fun f hf => ?_
    dsimp only
    split
    · split
      · rfl
      · exact hf
    · exact hf
  | dropReceiver _ id ih =>
    refine dead_of_map (ih hc) fun f hf => ?_
    split <;> exact hf
  | @receive q _ id ih =>
    rcases q.receive_state id with hr | ⟨rest, hr⟩
    · rw [hr] at hc ⊢
      exact ih hc
    · rw [hr] at hc ⊢
      refine dead_of_map (ih hc) fun f hf => ?_
      split <;> exact hf
  | @close q _ ih =>
    cases hclosed : q.closed with
    | true =>
      simp only [Queue.close, hclosed]
      exact ih hclosed
    | false => simp [Queue.close, hclosed]

/-! ## Feeds that are over -/

/-- A feed in which nothing waits, and nothing ever will. -/
def Dry (q : Queue) (id : Nat) : Prop :=
  ∃ f, q.feed? id = some f ∧ f.waiting = [] ∧ f.live = false

theorem Dry.serve (h : q.Dry id) (r : Request) : (q.serve r).2.Dry id := by
  obtain ⟨f, hf, hwaiting, hdead⟩ := h
  refine ⟨q.feedAfter f r, feed?_serve hf r, ?_⟩
  cases r with
  | ack | nack | reject | clear | subscribe => exact ⟨hwaiting, hdead⟩
  | publish topic m =>
    simp only [feedAfter]
    split
    · simp [Feed.deliver, hdead, hwaiting]
    · exact ⟨hwaiting, hdead⟩
  | unsubscribe topic feed =>
    simp only [feedAfter]
    split
    · exact ⟨hwaiting, rfl⟩
    · exact ⟨hwaiting, hdead⟩
  | receive feed =>
    simp only [feedAfter]
    split
    · simp [hwaiting, hdead]
    · exact ⟨hwaiting, hdead⟩
  | dropReceiver feed =>
    simp only [feedAfter]
    split
    · exact ⟨rfl, hdead⟩
    · exact ⟨hwaiting, hdead⟩
  | close =>
    simp only [feedAfter]
    split
    · exact ⟨hwaiting, hdead⟩
    · exact ⟨hwaiting, rfl⟩

theorem Dry.after (h : q.Dry id) (requests : List Request) : (q.after requests).Dry id :=
  after_keeps (P := fun q => q.Dry id) (fun _ r hdry => hdry.serve r) h requests

/-- Feeds are not forgotten. -/
theorem exists_feed?_after (h : ∃ f, q.feed? id = some f) (requests : List Request) :
    ∃ f, (q.after requests).feed? id = some f := by
  refine after_keeps (P := fun q => ∃ f, q.feed? id = some f) ?_ h requests
  rintro q r ⟨f, hf⟩
  exact ⟨_, feed?_serve hf r⟩

/-! ## Queues that were closed -/

theorem closed_after_iff (q : Queue) (requests : List Request) :
    (q.after requests).closed = true ↔ q.closed = true ∨ .close ∈ requests := by
  induction requests generalizing q with
  | nil => simp [Queue.after]
  | cons r requests ih =>
    have hrest := ih (q.serve r).2
    rw [closed_serve_iff, or_assoc] at hrest
    rw [List.mem_cons, @eq_comm _ Request.close r]
    exact hrest

/-- A closed queue accepts nothing, and opens nothing. -/
theorem refuses_of_closed (h : q.closed = true) (topic : String) (m : Message) :
    q.serve (.publish topic m) = (.refused .closed, q) ∧
      q.serve (.subscribe topic) = (.refused .closed, q) := by
  constructor
  · simp [serve, Queue.publish, h]
  · simp [serve, Queue.subscribe, h]

/-- A queue that is not closed opens what it is asked for, and accepts what it was not told to refuse. -/
theorem accepts_of_open (h : q.closed = false) (topic : String) (m : Message) :
    (q.serve (.subscribe topic)).1 = .opened q.nextFeed ∧
      (q.rejecting = 0 → (q.serve (.publish topic m)).1 = .done) := by
  constructor
  · simp [serve, Queue.subscribe, h]
  · intro hnone
    simp [serve, Queue.publish, h, hnone]

/-- A publish that is refused leaves the log and the feeds as they were. -/
theorem publish_refused {e : BrokerError} {m : Message}
    (h : (q.serve (.publish topic m)).1 = .refused e) :
    (q.serve (.publish topic m)).2.log = q.log ∧ (q.serve (.publish topic m)).2.feeds = q.feeds := by
  rcases q.serve_publish topic m with ⟨e', rejecting, hp⟩ | ⟨_, hp⟩
  · rw [hp]
    exact ⟨rfl, rfl⟩
  · simp [hp] at h

theorem subscriberCount_of_dead (h : ∀ f ∈ q.feeds, f.live = false) (topic : String) :
    q.subscriberCount topic = 0 := by
  rw [subscriberCount, List.length_eq_zero_iff, List.filter_eq_nil_iff]
  intro f hf
  simp [h f hf]

end Queue

end SymbolRelay
