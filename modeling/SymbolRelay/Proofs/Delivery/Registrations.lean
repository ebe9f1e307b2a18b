import SymbolRelay.Proofs.Delivery.Deliveries

/-!
# Who is registered

A queue delivers to the feeds that are live: these are its registered subscribers. An id that was given
out for a feed is not given out again, so a feed that was given up once stays so, whatever else the queue
is asked for. And a feed that nobody gives up stays live until the queue is closed.

## Results

* `mem_serve` — where a feed comes from after a request;
* `Gone.serve`, `Gone.after` — who is not registered any more never is again;
* `gone_of_unsubscribe` — a feed that is unsubscribed under its own topic is gone;
* `Tended.after` — a feed that is spared stays live.
-/

set_option autoImplicit false

namespace SymbolRelay

/-- What can become of a feed: it keeps its id and its topic, and is not live again once it was not. -/
structure Feed.Precedes (f later : Feed) : Prop where
  id : later.id = f.id
  topic : later.topic = f.topic
  live : later.live = true → f.live = true

theorem Feed.Precedes.refl (f : Feed) : f.Precedes f := ⟨rfl, rfl, fun h => h⟩

theorem Feed.precedes_deliver (f : Feed) (topic : String) (m : Message) :
    f.Precedes (f.deliver topic m) := by
  unfold Feed.deliver
  split
  · split
    · exact ⟨rfl, rfl, fun h => h⟩
    · exact ⟨rfl, rfl, nofun⟩
  · exact .refl f

namespace Queue

variable {q : Queue} {id : Nat} {topic : String}

/-- A feed among those that were changed comes from one that was there. -/
theorem precedes_of_mem_map {feeds : List Feed} {g : Feed → Feed} (hg : ∀ f : Feed, f.Precedes (g f))
    {later : Feed} (h : later ∈ feeds.map g) : ∃ f ∈ feeds, f.Precedes later := by
  obtain ⟨f, hf, rfl⟩ := List.mem_map.mp h
  exact ⟨f, hf, hg f⟩

theorem precedes_update {g : Feed → Feed} (hg : ∀ f : Feed, f.Precedes (g f)) (id : Nat) (f : Feed) :
    f.Precedes (if f.id = id then g f else f) := by
  split
  · exact hg f
  · exact .refl f

theorem precedes_unsubscribe (topic : String) (f : Feed) :
    f.Precedes (if f.topic = topic then { f with live := false } else f) := by
  split
  · exact ⟨rfl, rfl, nofun⟩
  · exact .refl f

/-- **Where a feed comes from after a request**: it was there before, or it is opened under an id that was
not given out yet. -/
theorem mem_serve {r : Request} {later : Feed} (h : later ∈ (q.serve r).2.feeds) :
    (∃ f ∈ q.feeds, f.Precedes later) ∨ later.id = q.nextFeed := by
  cases r with
  | ack | nack | reject | clear => exact .inl ⟨later, h, .refl later⟩
  | publish topic m =>
    rcases q.serve_publish topic m with ⟨e, rejecting, hp⟩ | ⟨_, hp⟩
    · rw [hp] at h
      exact .inl ⟨later, h, .refl later⟩
    · rw [hp] at h
      exact .inl (precedes_of_mem_map (fun f => f.precedes_deliver topic m) h)
  | subscribe topic =>
    simp only [serve, Queue.subscribe] at h
    cases hc : q.closed with
    | true =>
      simp only [hc, if_true] at h
      exact .inl ⟨later, h, .refl later⟩
    | false =>
      simp only [hc, Bool.false_eq_true, if_false] at h
      rcases List.mem_append.mp h with h | h
      · exact .inl ⟨later, h, .refl later⟩
      · rw [List.mem_singleton.mp h]
        exact .inr rfl
  | unsubscribe topic id =>
    exact .inl (precedes_of_mem_map (precedes_update (precedes_unsubscribe topic) id) h)
  | dropReceiver id =>
    exact .inl (precedes_of_mem_map
      (precedes_update (g := fun f => { f with held := false, waiting := [] })
        (fun _ => ⟨rfl, rfl, fun hlive => hlive⟩) id) h)
  | receive id =>
    rw [serve_receive_state] at h
    rcases q.receive_state id with hr | ⟨rest, hr⟩
    · rw [hr] at h
      exact .inl ⟨later, h, .refl later⟩
    · rw [hr] at h
      exact .inl (precedes_of_mem_map (precedes_update (g := fun f => { f with waiting := rest })
        (fun _ => ⟨rfl, rfl, fun hlive => hlive⟩) id) h)
  | close =>
    simp only [serve, Queue.close] at h
    split at h
    · exact .inl ⟨later, h, .refl later⟩
    · exact .inl (precedes_of_mem_map (g := fun f => { f with live := false })
        (fun _ => ⟨rfl, rfl, fun hlive => absurd hlive Bool.false_ne_true⟩) h)

/-- Ids of feeds that were given out stay so. -/
theorem nextFeed_le_serve (q : Queue) (r : Request) : q.nextFeed ≤ (q.serve r).2.nextFeed := by
  cases r with
  | publish topic m =>
    rcases q.serve_publish topic m with ⟨e, rejecting, hp⟩ | ⟨_, hp⟩ <;> simp [hp]
  | subscribe topic =>
    simp only [serve, Queue.subscribe]
    cases q.closed with
    | true => exact Nat.le_refl _
    | false => exact Nat.le_succ _
  | receive id =>
    rw [serve_receive_state]
    rcases q.receive_state id with hr | ⟨rest, hr⟩ <;> simp [hr, updateFeed]
  | close =>
    simp only [serve, Queue.close]
    split <;> exact Nat.le_refl _
  | unsubscribe | dropReceiver | ack | nack | reject | clear => exact Nat.le_refl _

/-! ## Feeds that are gone -/

/-- A subscriber is registered under an id: the queue delivers to its feed. -/
def Registered (q : Queue) (id : Nat) : Prop := ∃ f ∈ q.feeds, f.id = id ∧ f.live = true

/-- An id that was given out, and under which nobody is registered any more. -/
structure Gone (q : Queue) (id : Nat) : Prop where
  given : id < q.nextFeed
  unregistered : ¬q.Registered id

/-- An id that was given out for a feed of a topic. -/
structure GivenFor (q : Queue) (id : Nat) (topic : String) : Prop where
  given : id < q.nextFeed
  topic : ∀ f ∈ q.feeds, f.id = id → f.topic = topic

theorem Gone.serve (h : q.Gone id) (r : Request) : (q.serve r).2.Gone id where
  given := Nat.lt_of_lt_of_le h.given (q.nextFeed_le_serve r)
  unregistered := by
    rintro ⟨later, hlater, rfl, hlive⟩
    rcases mem_serve hlater with ⟨f, hf, hprecedes⟩ | hnew
    · exact h.unregistered ⟨f, hf, hprecedes.id.symm, hprecedes.live hlive⟩
    · have hgiven := h.given
      omega

/-- **Who is not registered any more never is again.** -/
theorem Gone.after (h : q.Gone id) (requests : List Request) : (q.after requests).Gone id :=
  after_keeps (P := fun q => q.Gone id) (fun _ r hgone => hgone.serve r) h requests

theorem GivenFor.serve (h : q.GivenFor id topic) (r : Request) : (q.serve r).2.GivenFor id topic where
  given := Nat.lt_of_lt_of_le h.given (q.nextFeed_le_serve r)
  topic := by
    rintro later hlater rfl
    rcases mem_serve hlater with ⟨f, hf, hprecedes⟩ | hnew
    · exact hprecedes.topic.trans (h.topic f hf hprecedes.id.symm)
    · have hgiven := h.given
      omega

theorem GivenFor.after (h : q.GivenFor id topic) (requests : List Request) :
    (q.after requests).GivenFor id topic :=
  after_keeps (P := fun q => q.GivenFor id topic) (fun _ r hgiven => hgiven.serve r) h requests

/-- A feed that is unsubscribed under its own topic is gone. -/
theorem gone_of_unsubscribe (h : q.GivenFor id topic) : (q.serve (.unsubscribe topic id)).2.Gone id where
  given := h.given
  unregistered := by
    rintro ⟨later, hlater, hid, hlive⟩
    obtain ⟨f, hf, rfl⟩ := List.mem_map.mp hlater
    by_cases hfeed : f.id = id
    · simp [hfeed, h.topic f hf hfeed] at hlive
    · simp only [if_neg hfeed] at hid
      exact hfeed hid

/-- A feed that is opened is given out for its topic. -/
theorem givenFor_subscribe (h : q.Reached) (hs : (q.serve (.subscribe topic)).1 = .opened id) :
    (q.serve (.subscribe topic)).2.GivenFor id topic := by
  simp only [serve, Queue.subscribe] at hs ⊢
  cases hc : q.closed with
  | true => simp [hc] at hs
  | false =>
    simp only [hc, Bool.false_eq_true, if_false, Answer.opened.injEq] at hs ⊢
    subst hs
    refine ⟨Nat.lt_succ_self _, ?_⟩
    intro f hf hid
    rcases List.mem_append.mp hf with hf | hf
    · have hlt := h.lt_nextFeed f hf
      omega
    · rw [List.mem_singleton.mp hf]

/-! ## Feeds that are tended -/

/-- A feed of a topic is live, and its receiver is there. -/
def Tended (q : Queue) (id : Nat) (topic : String) : Prop :=
  ∃ f, q.feed? id = some f ∧ f.topic = topic ∧ f.live = true ∧ f.held = true

/-- A request that spares feeds: it neither gives up one of them nor closes the queue. -/
def Request.Spares (feeds : List (String × Nat)) (r : Request) : Prop :=
  r ≠ .close ∧ ∀ feed ∈ feeds, r.givesUp feed.1 feed.2 = false

theorem Tended.serve (h : q.Tended id topic) {r : Request} (hclose : r ≠ .close)
    (hr : r.givesUp topic id = false) : (q.serve r).2.Tended id topic := by
  obtain ⟨f, hf, rfl, hlive, hheld⟩ := h
  have hid := id_of_feed? hf
  refine ⟨q.feedAfter f r, feed?_serve hf r, ?_⟩
  cases r with
  | ack | nack | reject | clear | subscribe => exact ⟨rfl, hlive, hheld⟩
  | close => exact absurd rfl hclose
  | publish topic m =>
    simp only [feedAfter, Feed.deliver]
    split
    · split
      · simp [hheld, hlive]
      · exact ⟨rfl, hlive, hheld⟩
    · exact ⟨rfl, hlive, hheld⟩
  | receive feed =>
    simp only [feedAfter]
    split <;> exact ⟨rfl, hlive, hheld⟩
  | unsubscribe other feed =>
    have hapart : ¬(f.id = feed ∧ f.topic = other) := by
      rintro ⟨rfl, rfl⟩
      simp [Request.givesUp, hid] at hr
    have hsame : q.feedAfter f (.unsubscribe other feed) = f := if_neg hapart
    rw [hsame]
    exact ⟨rfl, hlive, hheld⟩
  | dropReceiver feed =>
    have hapart : f.id ≠ feed := by
      rintro rfl
      simp [Request.givesUp, hid] at hr
    have hsame : q.feedAfter f (.dropReceiver feed) = f := if_neg hapart
    rw [hsame]
    exact ⟨rfl, hlive, hheld⟩

/-- **A feed that is spared stays live.** -/
theorem Tended.after (h : q.Tended id topic) {feeds : List (String × Nat)} (hmem : (topic, id) ∈ feeds)
    {requests : List Request} (hr : ∀ r ∈ requests, r.Spares feeds) :
    (q.after requests).Tended id topic := by
  induction requests generalizing q with
  | nil => exact h
  | cons r requests ih =>
    have hfirst := hr r List.mem_cons_self
    exact ih (h.serve hfirst.1 (hfirst.2 _ hmem)) fun r' hr' => hr r' (List.mem_cons_of_mem _ hr')

/-- A feed that is opened is tended. -/
theorem tended_subscribe (h : q.Reached) (hs : (q.serve (.subscribe topic)).1 = .opened id) :
    (q.serve (.subscribe topic)).2.Tended id topic := by
  have hopen : q.closed = false := by
    cases hc : q.closed with
    | false => rfl
    | true => simp [serve, Queue.subscribe, hc] at hs
  obtain ⟨f, hf, htopic, hheld, hlive, _⟩ := owes_subscribe h hs
  have hstill : (q.serve (.subscribe topic)).2.closed = false := by
    simp [serve, Queue.subscribe, hopen]
  rw [hstill] at hlive
  exact ⟨f, hf, htopic, by simpa using hlive, hheld⟩

/-- A tended feed gives a message or nothing, and never its end. -/
theorem Tended.receive (h : q.Tended id topic) : ∃ m, (q.receive id).1 = .ok m := by
  obtain ⟨f, hf, _, hlive, _⟩ := h
  have hfind : q.feeds.find? (·.id = id) = some f := hf
  simp only [Queue.receive, hfind]
  cases f.waiting with
  | nil => exact ⟨none, by simp [hlive]⟩
  | cons m rest => exact ⟨some m, rfl⟩

end Queue

end SymbolRelay
