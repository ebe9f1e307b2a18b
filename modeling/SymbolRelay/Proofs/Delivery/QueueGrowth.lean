import SymbolRelay.Delivery.Queue

/-!
# A feed of a growing queue

A queue grows while messages are published on it, others subscribe, publishes are made to fail, and once
it is closed. However it grows, a feed that was not given up holds just what was published on its topic
and not taken off it yet, in that order. Once the queue is closed, nothing is added to its log any more.

## Results

* `Reached.lt_nextFeed` — ids of feeds are not given out twice;
* `serves_subscribe` — a feed starts with all that was published;
* `Serves.grows` — what was taken off a feed and what waits in it are what was published;
* `Serves.reception` — what is received is the next message in the order of publication.
-/

set_option autoImplicit false

namespace SymbolRelay.Queue

variable {q q' : Queue} {id : Nat} {topic : String} {taken : List Message}

/-! ## Feeds by id -/

/-- The feed with an id. -/
def feed? (q : Queue) (id : Nat) : Option Feed := q.feeds.find? (·.id = id)

theorem id_of_feed? {f : Feed} (h : q.feed? id = some f) : f.id = id := by
  have hid := List.find?_some h
  simpa using hid

/-- Feeds that are changed keep their ids. -/
theorem find?_map_feeds (feeds : List Feed) {g : Feed → Feed} (hg : ∀ f, (g f).id = f.id) (id : Nat) :
    (feeds.map g).find? (·.id = id) = (feeds.find? (·.id = id)).map g := by
  induction feeds with
  | nil => rfl
  | cons f feeds ih =>
    rw [List.map_cons, List.find?_cons, List.find?_cons, hg, ih]
    cases decide (f.id = id) <;> rfl

theorem feed?_updateFeed_self {f : Feed} (h : q.feed? id = some f) {g : Feed → Feed}
    (hg : ∀ f, (g f).id = f.id) : (q.updateFeed id g).feed? id = some (g f) := by
  have hid := id_of_feed? h
  have hchanged : ∀ f, (if f.id = id then g f else f).id = f.id := by
    intro f
    split
    · exact hg f
    · rfl
  simp only [feed?] at h
  simp only [feed?, updateFeed, find?_map_feeds _ hchanged, h, Option.map_some, if_pos hid]

theorem feed?_updateFeed_of_ne {other : Nat} (hne : other ≠ id) {g : Feed → Feed}
    (hg : ∀ f, (g f).id = f.id) : (q.updateFeed id g).feed? other = q.feed? other := by
  have hchanged : ∀ f, (if f.id = id then g f else f).id = f.id := by
    intro f
    split
    · exact hg f
    · rfl
  simp only [feed?, updateFeed, find?_map_feeds _ hchanged]
  cases h : q.feeds.find? (·.id = other) with
  | none => rfl
  | some f =>
    have hid : f.id = other := id_of_feed? h
    have hother : f.id ≠ id := hid ▸ hne
    simp only [Option.map_some, if_neg hother]

/-- A queue whose feeds are those of another one, each of them changed. -/
theorem feed?_of_map {f : Feed} (h : q.feed? id = some f) {g : Feed → Feed} (hg : ∀ f, (g f).id = f.id)
    (hfeeds : q'.feeds = q.feeds.map g) : q'.feed? id = some (g f) := by
  simp only [feed?] at h
  simp only [feed?, hfeeds, find?_map_feeds _ hg, h, Option.map_some]

/-- A queue with more feeds than another one. -/
theorem feed?_of_append {f : Feed} (h : q.feed? id = some f) {more : List Feed}
    (hfeeds : q'.feeds = q.feeds ++ more) : q'.feed? id = some f := by
  simp only [feed?] at h
  simp only [feed?, hfeeds, List.find?_append, h, Option.some_or]

theorem id_deliver (topic : String) (m : Message) (f : Feed) : (f.deliver topic m).id = f.id := by
  unfold Feed.deliver
  split
  · split <;> rfl
  · rfl

/-- A publish is refused and changes nothing but how many more are, or it is accepted: the message is
logged and delivered. -/
theorem publish_cases (q : Queue) (topic : String) (m : Message) :
    (∃ e rejecting, q.publish topic m = (.error e, { q with rejecting })) ∨
      q.closed = false ∧ q.publish topic m = (.ok (), { q with
        feeds := q.feeds.map fun f => f.deliver topic m
        log := q.log ++ [(topic, m)] }) := by
  unfold publish
  split
  · exact .inl ⟨_, q.rejecting, rfl⟩
  · rename_i hclosed
    rw [Bool.not_eq_true] at hclosed
    split
    · exact .inl ⟨_, _, rfl⟩
    · exact .inr ⟨hclosed, rfl⟩

/-- Receiving changes at most what waits in one feed. -/
theorem receive_state (q : Queue) (id : Nat) :
    (q.receive id).2 = q ∨
      ∃ rest, (q.receive id).2 = q.updateFeed id fun f => { f with waiting := rest } := by
  unfold receive
  split
  · exact .inl rfl
  · split
    · exact .inr ⟨_, rfl⟩
    · exact .inl rfl

/-! ## Ids of feeds -/

/-- A queue as it can be. -/
inductive Reached : Queue → Prop where
  | empty : Reached {}
  | publish {q : Queue} (h : Reached q) (topic : String) (m : Message) : Reached (q.publish topic m).2
  | subscribe {q : Queue} (h : Reached q) (topic : String) : Reached (q.subscribe topic).2
  | unsubscribe {q : Queue} (h : Reached q) (topic : String) (id : Nat) :
    Reached (q.unsubscribe topic id)
  | dropReceiver {q : Queue} (h : Reached q) (id : Nat) : Reached (q.dropReceiver id)
  | receive {q : Queue} (h : Reached q) (id : Nat) : Reached (q.receive id).2
  | ack {q : Queue} (h : Reached q) (id : String) : Reached (q.ack id)
  | nack {q : Queue} (h : Reached q) (id reason : String) : Reached (q.nack id reason)
  | reject {q : Queue} (h : Reached q) (rejecting : Nat) : Reached { q with rejecting }
  | close {q : Queue} (h : Reached q) : Reached q.close
  | clear {q : Queue} (h : Reached q) : Reached q.clear

theorem lt_nextFeed_map (h : ∀ f ∈ q.feeds, f.id < q.nextFeed) {g : Feed → Feed}
    (hg : ∀ f, (g f).id = f.id) : ∀ f ∈ q.feeds.map g, f.id < q.nextFeed := by
  intro f hf
  obtain ⟨f, hmem, rfl⟩ := List.mem_map.mp hf
  rw [hg]
  exact h f hmem

/-- The ids of all feeds were given out. -/
theorem Reached.lt_nextFeed (h : q.Reached) : ∀ f ∈ q.feeds, f.id < q.nextFeed := by
  induction h with
  | empty => simp
  | ack _ _ ih | nack _ _ _ ih | reject _ _ ih | clear _ ih => exact ih
  | @publish q _ topic m ih =>
    rcases q.publish_cases topic m with ⟨e, rejecting, h⟩ | ⟨_, h⟩
    · rw [h]
      exact ih
    · rw [h]
      exact lt_nextFeed_map ih (id_deliver topic m)
  | @subscribe q _ topic ih =>
    simp only [Queue.subscribe]
    split
    · exact ih
    · intro f hf
      show f.id < q.nextFeed + 1
      rcases List.mem_append.mp hf with hf | hf
      · have hlt := ih f hf
        omega
      · rw [List.mem_singleton] at hf
        rw [hf]
        exact Nat.lt_succ_self _
  | unsubscribe _ topic id ih =>
    refine lt_nextFeed_map ih fun f => ?_
    dsimp only
    split
    · split <;> rfl
    · rfl
  | dropReceiver _ id ih =>
    refine lt_nextFeed_map ih fun f => ?_
    split <;> rfl
  | @receive q _ id ih =>
    rcases q.receive_state id with h | ⟨rest, h⟩
    · rw [h]
      exact ih
    · rw [h]
      refine lt_nextFeed_map ih fun f => ?_
      split <;> rfl
  | close _ ih =>
    simp only [Queue.close]
    split
    · exact ih
    · exact lt_nextFeed_map ih fun _ => rfl

/-! ## Growing -/

/-- A queue on which others published, to which they subscribed, or which they closed. Nothing was
settled, and nothing is forgotten. -/
inductive Grows (q : Queue) : Queue → Prop where
  | refl : Grows q q
  | publish {q' : Queue} (h : Grows q q') (topic : String) (m : Message) :
    Grows q (q'.publish topic m).2
  | subscribe {q' : Queue} (h : Grows q q') (topic : String) : Grows q (q'.subscribe topic).2
  | reject {q' : Queue} (h : Grows q q') (rejecting : Nat) : Grows q { q' with rejecting }
  | close {q' : Queue} (h : Grows q q') : Grows q q'.close

theorem Grows.trans {q'' : Queue} (h : q.Grows q') (h' : q'.Grows q'') : q.Grows q'' := by
  induction h' with
  | refl => exact h
  | publish _ topic m ih => exact ih.publish topic m
  | subscribe _ topic ih => exact ih.subscribe topic
  | reject _ rejecting ih => exact ih.reject rejecting
  | close _ ih => exact ih.close

/-- A property of queues that each way of growing keeps is kept by all growing. -/
theorem Grows.keeps {P : Queue → Prop} (h : q.Grows q') (hq : P q)
    (publish : ∀ q topic m, P q → P (q.publish topic m).2)
    (subscribe : ∀ q topic, P q → P (q.subscribe topic).2)
    (reject : ∀ q rejecting, P q → P { q with rejecting }) (close : ∀ q, P q → P q.close) : P q' := by
  induction h with
  | refl => exact hq
  | publish _ topic m ih => exact publish _ topic m ih
  | subscribe _ topic ih => exact subscribe _ topic ih
  | reject _ rejecting ih => exact reject _ rejecting ih
  | close _ ih => exact close _ ih

/-- A queue that grew is as it can be. -/
theorem Grows.reached (h : q.Grows q') (hq : q.Reached) : q'.Reached :=
  h.keeps hq (fun _ topic m hr => hr.publish topic m) (fun _ topic hr => hr.subscribe topic)
    (fun _ rejecting hr => hr.reject rejecting) fun _ hr => hr.close

theorem grows_of_publish {m : Message} {outcome : Except BrokerError Unit}
    (h : q.publish topic m = (outcome, q')) : q.Grows q' := by
  have published := Grows.publish (.refl : q.Grows q) topic m
  rwa [h] at published

theorem acked_publish (q : Queue) (topic : String) (m : Message) :
    (q.publish topic m).2.acked = q.acked ∧ (q.publish topic m).2.nacked = q.nacked := by
  rcases q.publish_cases topic m with ⟨e, rejecting, h⟩ | ⟨_, h⟩
  · rw [h]
    exact ⟨rfl, rfl⟩
  · rw [h]
    exact ⟨rfl, rfl⟩

/-- While a queue grows, nothing is settled. -/
theorem Grows.settled_eq (h : q.Grows q') : q'.acked = q.acked ∧ q'.nacked = q.nacked := by
  refine h.keeps (P := fun r => r.acked = q.acked ∧ r.nacked = q.nacked) ⟨rfl, rfl⟩ ?_ ?_ ?_ ?_
  · intro r topic m hr
    rw [(acked_publish r topic m).1, (acked_publish r topic m).2]
    exact hr
  · intro r topic hr
    unfold Queue.subscribe
    split <;> exact hr
  · intro r rejecting hr
    exact hr
  · intro r hr
    unfold Queue.close
    split <;> exact hr

theorem log_publish (q : Queue) (topic : String) (m : Message) :
    q.log <+: (q.publish topic m).2.log := by
  rcases q.publish_cases topic m with ⟨e, rejecting, h⟩ | ⟨_, h⟩
  · have hsame : (q.publish topic m).2.log = q.log := by rw [h]
    exact hsame ▸ List.prefix_refl _
  · rw [h]
    exact List.prefix_append _ _

/-- The log only grows. -/
theorem Grows.log_prefix (h : q.Grows q') : q.log <+: q'.log := by
  refine h.keeps (P := fun r => q.log <+: r.log) (List.prefix_refl _) ?_ ?_ ?_ ?_
  · intro r topic m hr
    exact hr.trans (log_publish r topic m)
  · intro r topic hr
    unfold Queue.subscribe
    split <;> exact hr
  · intro r rejecting hr
    exact hr
  · intro r hr
    unfold Queue.close
    split <;> exact hr

theorem publishedOn_prefix (h : q.log <+: q'.log) (topic : String) :
    q.publishedOn topic <+: q'.publishedOn topic := by
  obtain ⟨more, hmore⟩ := h
  refine ⟨(more.filter (·.1 = topic)).map (·.2), ?_⟩
  simp [publishedOn, ← hmore]

/-! ## A queue that is closed -/

/-- A queue that is closed and on whose topic just these messages were published. -/
def Exhausted (q : Queue) (topic : String) (taken : List Message) : Prop :=
  q.closed = true ∧ q.publishedOn topic = taken

/-- Nothing is published any more. -/
theorem Exhausted.grows (h : q.Exhausted topic taken) (hg : q.Grows q') :
    q'.Exhausted topic taken := by
  refine hg.keeps (P := fun r => r.Exhausted topic taken) h ?_ ?_ ?_ ?_
  · intro r other m hr
    have hsame : (r.publish other m).2 = r := by simp [publish, hr.1]
    rw [hsame]
    exact hr
  · intro r other hr
    have hsame : (r.subscribe other).2 = r := by simp [subscribe, hr.1]
    rw [hsame]
    exact hr
  · intro r rejecting hr
    exact hr
  · intro r hr
    have hsame : r.close = r := by simp [close, hr.1]
    rw [hsame]
    exact hr

/-! ## A feed that is served -/

/-- A feed of a topic is there for its receiver: off it these messages were taken, and the rest of what
was published waits in it. It is live unless the queue is closed. -/
def Serves (q : Queue) (id : Nat) (topic : String) (taken : List Message) : Prop :=
  ∃ f, q.feed? id = some f ∧ f.topic = topic ∧ f.held = true ∧ (f.live = true ∨ q.closed = true) ∧
    q.publishedOn topic = taken ++ f.waiting

theorem Serves.prefix (h : q.Serves id topic taken) : taken <+: q.publishedOn topic := by
  obtain ⟨f, _, _, _, _, hpublished⟩ := h
  exact ⟨f.waiting, hpublished.symm⟩

theorem Serves.publish (h : q.Serves id topic taken) (other : String) (m : Message) :
    (q.publish other m).2.Serves id topic taken := by
  obtain ⟨f, hf, rfl, hheld, hlive, hpublished⟩ := h
  rcases q.publish_cases other m with ⟨e, rejecting, h⟩ | ⟨hopen, h⟩
  · rw [h]
    exact ⟨f, hf, rfl, hheld, hlive, hpublished⟩
  · have hflive : f.live = true := by simpa [hopen] using hlive
    have hok : (q.publish other m).1 = .ok () := by rw [h]
    refine ⟨f.deliver other m, ?_, ?_⟩
    · rw [h]
      exact feed?_of_map (g := (·.deliver other m)) hf (id_deliver other m) rfl
    · rw [publishedOn_publish hok, hpublished]
      by_cases ht : f.topic = other
      · simp [Feed.deliver, ht, hflive, hheld]
      · simp [Feed.deliver, ht, hflive, hheld]

theorem Serves.subscribe (h : q.Serves id topic taken) (other : String) :
    (q.subscribe other).2.Serves id topic taken := by
  obtain ⟨f, hf, ht, hheld, hlive, hpublished⟩ := h
  simp only [Queue.subscribe]
  split
  · exact ⟨f, hf, ht, hheld, hlive, hpublished⟩
  · exact ⟨f, feed?_of_append hf rfl, ht, hheld, hlive, hpublished⟩

theorem Serves.close (h : q.Serves id topic taken) : q.close.Serves id topic taken := by
  obtain ⟨f, hf, ht, hheld, hlive, hpublished⟩ := h
  simp only [Queue.close]
  split
  · exact ⟨f, hf, ht, hheld, hlive, hpublished⟩
  · exact ⟨_, feed?_of_map (g := fun f => { f with live := false }) hf (fun _ => rfl) rfl, ht, hheld,
      .inr rfl, hpublished⟩

/-- **A feed stays served while the queue grows.** -/
theorem Serves.grows (h : q.Serves id topic taken) (hg : q.Grows q') : q'.Serves id topic taken :=
  hg.keeps (P := fun r => r.Serves id topic taken) h (fun _ other m hr => hr.publish other m)
    (fun _ other hr => hr.subscribe other) (fun _ _ hr => hr) (fun _ hr => hr.close)

/-- What is done to another feed does not matter. -/
theorem Serves.updateFeed_of_ne (h : q.Serves id topic taken) {other : Nat} (hne : id ≠ other)
    {g : Feed → Feed} (hg : ∀ f, (g f).id = f.id) : (q.updateFeed other g).Serves id topic taken := by
  obtain ⟨f, hf, hrest⟩ := h
  exact ⟨f, (feed?_updateFeed_of_ne hne hg).trans hf, hrest⟩

/-- A feed starts with all that was published. -/
theorem serves_subscribe (h : ∀ f ∈ q.feeds, f.id < q.nextFeed) {id : Nat}
    (hs : (q.subscribe topic).1 = .ok id) :
    id = q.nextFeed ∧ (q.subscribe topic).2.Serves id topic [] := by
  cases hc : q.closed with
  | true => simp [Queue.subscribe, hc] at hs
  | false =>
    have hid : q.nextFeed = id := by simpa [Queue.subscribe, hc] using hs
    subst hid
    have hafter : (q.subscribe topic).2 = { q with
        feeds := q.feeds ++ [⟨q.nextFeed, topic, q.publishedOn topic, true, true⟩]
        nextFeed := q.nextFeed + 1 } := by
      simp [Queue.subscribe, hc]
    rw [hafter]
    refine ⟨rfl, ⟨q.nextFeed, topic, q.publishedOn topic, true, true⟩, ?_, rfl, rfl, .inl rfl, rfl⟩
    have hnone : q.feeds.find? (·.id = q.nextFeed) = none := by
      rw [List.find?_eq_none]
      intro f hf
      have hlt := h f hf
      simp only [decide_eq_true_eq]
      omega
    simp [feed?, List.find?_append, hnone]

/-! ## Receiving -/

/-- What a served feed gives: the next message in the order of publication, nothing as long as all of
them were taken, or its end when none will follow. -/
inductive Reception (q : Queue) (id : Nat) (topic : String) (taken : List Message) :
    Except Unit (Option Message) → Queue → Prop where
  | message {m : Message} {rest : List Message}
      (h : (q.updateFeed id fun f => { f with waiting := rest }).Serves id topic (taken ++ [m])) :
    Reception q id topic taken (.ok (some m)) (q.updateFeed id fun f => { f with waiting := rest })
  | nothing (h : q.publishedOn topic = taken) : Reception q id topic taken (.ok none) q
  | ended (h : q.Exhausted topic taken) : Reception q id topic taken (.error ()) q

theorem Serves.reception (h : q.Serves id topic taken) :
    Reception q id topic taken (q.receive id).1 (q.receive id).2 := by
  obtain ⟨f, hf, ht, hheld, hlive, hpublished⟩ := h
  have hfind : q.feeds.find? (·.id = id) = some f := hf
  simp only [receive, hfind]
  cases hw : f.waiting with
  | cons m rest =>
    rw [hw] at hpublished
    refine .message ⟨{ f with waiting := rest }, feed?_updateFeed_self hf (fun _ => rfl), ht, hheld,
      hlive, ?_⟩
    rw [List.append_assoc]
    exact hpublished
  | nil =>
    rw [hw, List.append_nil] at hpublished
    cases hl : f.live with
    | true => exact .nothing hpublished
    | false =>
      have hclosed : q.closed = true := by simpa [hl] using hlive
      exact .ended ⟨hclosed, hpublished⟩

end SymbolRelay.Queue
