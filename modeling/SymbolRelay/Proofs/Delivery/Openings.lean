import SymbolRelay.Proofs.Delivery.Registrations

/-!
# What is sent to a feed

A queue opens a feed at some moment, and anybody may unsubscribe it at any time: from then on it is not
delivered to any more, but what waits in it stays there until it is taken. So the requests alone tell what
a feed is due, as long as its receiver is not dropped:

```text
taken so far ++ still waiting = logged when it was opened ++ accepted until it was given up
```

Once the queue is closed, it accepts nothing, and what waits anywhere does not grow.

## Results

* `Opening.balance` — what a feed is due was taken off it, or waits in it;
* `Tracked.append`, `Tracked.receive`, `Tracked.spend` — what is known of a feed as the queue is asked for
  more;
* `Opening.due_of_close` — a feed that is not given up before the queue closes is due all that was accepted;
* `waitingIn_after_le` — nothing is added to the feeds of a closed queue.
-/

set_option autoImplicit false

namespace SymbolRelay.Queue

variable {q : Queue} {id : Nat} {topic : String} {taken all : List Message}
  {requests early late : List Request}

/-! ## Feeds that are given up -/

/-- A feed that is not delivered to any more: what was taken off it and what waits in it are these
messages. -/
def Stopped (q : Queue) (id : Nat) (taken all : List Message) : Prop :=
  ∃ f, q.feed? id = some f ∧ f.live = false ∧ taken ++ f.waiting = all

theorem Stopped.serve (h : q.Stopped id taken all) {r : Request} (hr : r ≠ .dropReceiver id) :
    (q.serve r).2.Stopped id (taken ++ (taken? id (r, (q.serve r).1)).toList) all := by
  obtain ⟨f, hf, hdead, hall⟩ := h
  have hid := id_of_feed? hf
  refine ⟨q.feedAfter f r, feed?_serve hf r, ?_⟩
  cases r with
  | ack | nack | reject | clear | subscribe => exact ⟨hdead, by simp [feedAfter, taken?, hall]⟩
  | publish other m =>
    have hsame : q.feedAfter f (.publish other m) = f := by simp [feedAfter, Feed.deliver, hdead]
    rw [hsame]
    exact ⟨hdead, by simp [taken?, hall]⟩
  | unsubscribe other feed =>
    simp only [feedAfter]
    split
    · exact ⟨rfl, by simp [taken?, hall]⟩
    · exact ⟨hdead, by simp [taken?, hall]⟩
  | receive feed =>
    simp only [feedAfter]
    by_cases hfeed : feed = id
    · subst hfeed
      rw [if_pos hid, serve_receive_self hf]
      refine ⟨hdead, ?_⟩
      rw [← hall]
      cases f.waiting with
      | cons m rest => simp [taken?]
      | nil => simp [hdead, taken?]
    · rw [if_neg (hid ▸ Ne.symm hfeed)]
      refine ⟨hdead, ?_⟩
      cases (q.serve (.receive feed)).1 <;> simp [taken?, hfeed, hall]
  | dropReceiver feed =>
    have hother : f.id ≠ feed := by
      rintro rfl
      exact hr (by rw [hid])
    simp only [feedAfter, if_neg hother]
    exact ⟨hdead, by simp [taken?, hall]⟩
  | close =>
    simp only [feedAfter]
    split
    · exact ⟨hdead, by simp [taken?, hall]⟩
    · exact ⟨rfl, by simp [taken?, hall]⟩

theorem Stopped.after (h : q.Stopped id taken all) (hdrop : .dropReceiver id ∉ requests) :
    (q.after requests).Stopped id (taken ++ (q.transcript requests).filterMap (taken? id)) all := by
  induction requests generalizing q taken with
  | nil => simpa [Queue.after, transcript] using h
  | cons r requests ih =>
    obtain ⟨hr, hdrop⟩ := List.ne_and_not_mem_of_not_mem_cons hdrop
    rw [filterMap_transcript_cons, ← List.append_assoc]
    exact ih (h.serve hr.symm) hdrop

/-- A feed that is unsubscribed under its own topic is not delivered to any more. -/
theorem Owes.unsubscribe (h : q.Owes id topic taken all) :
    (q.serve (.unsubscribe topic id)).2.Stopped id taken all := by
  obtain ⟨f, hf, htopic, _, _, hall⟩ := h
  refine ⟨_, feed?_serve hf _, ?_⟩
  have hown : f.id = id ∧ f.topic = topic := ⟨id_of_feed? hf, htopic⟩
  rw [feedAfter, if_pos hown]
  exact ⟨rfl, hall⟩

/-! ## What is sent -/

/-- What is accepted for a topic until a feed of it is given up. -/
def sentTo (q : Queue) (topic : String) (id : Nat) : List Request → List Message
  | [] => []
  | r :: requests =>
    if r.givesUp topic id then []
    else (accepted? topic (r, (q.serve r).1)).toList ++ (q.serve r).2.sentTo topic id requests

/-- **What a feed owes, and what is sent to it, was taken off it or waits in it.** -/
theorem Owes.balance (h : q.Owes id topic taken all) (hdrop : .dropReceiver id ∉ requests) :
    taken ++ (q.transcript requests).filterMap (taken? id) ++ (q.after requests).waitingIn id =
      all ++ q.sentTo topic id requests := by
  induction requests generalizing q taken all with
  | nil => simpa [transcript, sentTo, Queue.after] using h.waitingIn
  | cons r requests ih =>
    obtain ⟨hr, hlater⟩ := List.ne_and_not_mem_of_not_mem_cons hdrop
    rw [filterMap_transcript_cons, sentTo]
    cases hgiven : r.givesUp topic id with
    | false =>
      rw [if_neg Bool.false_ne_true, ← List.append_assoc, ← List.append_assoc]
      exact ih (h.serve hgiven) hlater
    | true =>
      -- Its receiver is not dropped, so it is unsubscribed.
      have hunsubscribe : r = .unsubscribe topic id := by
        cases r with
        | unsubscribe other feed =>
          obtain ⟨rfl, rfl⟩ : other = topic ∧ feed = id := by simpa [Request.givesUp] using hgiven
          rfl
        | dropReceiver feed =>
          obtain rfl : feed = id := by simpa [Request.givesUp] using hgiven
          exact absurd rfl hr
        | _ => exact absurd hgiven Bool.false_ne_true
      subst hunsubscribe
      obtain ⟨f, hf, _, hall⟩ := h.unsubscribe.after hlater
      have hlast : (q.after (.unsubscribe topic id :: requests)).feed? id = some f := hf
      have hwaiting : (q.after (.unsubscribe topic id :: requests)).waitingIn id = f.waiting := by
        rw [Queue.waitingIn, hlast, Option.map_some, Option.getD_some]
      rw [hwaiting, if_pos rfl, List.append_nil]
      exact hall

/-- Once a feed is given up, nothing more is sent to it. -/
theorem sentTo_append_of_givenUp (hgiven : ∃ r ∈ requests, r.givesUp topic id = true) (more : List Request) :
    q.sentTo topic id (requests ++ more) = q.sentTo topic id requests := by
  induction requests generalizing q with
  | nil => simp at hgiven
  | cons r requests ih =>
    rw [List.cons_append, sentTo, sentTo]
    cases hr : r.givesUp topic id with
    | true => rfl
    | false =>
      obtain ⟨other, hmem, hother⟩ := hgiven
      rcases List.mem_cons.mp hmem with rfl | hmem
      · simp [hr] at hother
      · rw [ih ⟨other, hmem, hother⟩]

/-- Giving up a feed sends it nothing. -/
theorem sentTo_append_givingUp {r : Request} (hr : r.givesUp topic id = true) (more : List Request) :
    q.sentTo topic id (requests ++ r :: more) = q.sentTo topic id requests := by
  induction requests generalizing q with
  | nil => simp only [List.nil_append, sentTo, if_pos hr]
  | cons first requests ih => rw [List.cons_append, sentTo, sentTo, ih]

theorem sentTo_append_of_kept (hkept : ∀ r ∈ requests, r.givesUp topic id = false) (more : List Request) :
    q.sentTo topic id (requests ++ more) =
      (q.transcript requests).filterMap (accepted? topic) ++ (q.after requests).sentTo topic id more := by
  induction requests generalizing q with
  | nil => rfl
  | cons r requests ih =>
    have hr : ¬r.givesUp topic id = true := by simp [hkept r List.mem_cons_self]
    rw [List.cons_append, sentTo, if_neg hr, filterMap_transcript_cons, List.append_assoc,
      ih fun other hother => hkept other (List.mem_cons_of_mem _ hother)]
    rfl

/-- What is accepted for a topic is logged, unless the queue is closed. -/
theorem publishedOn_serve {r : Request} (hr : r ≠ .clear) (q : Queue) (topic : String) :
    (q.serve r).2.publishedOn topic =
      q.publishedOn topic ++ (accepted? topic (r, (q.serve r).1)).toList := by
  cases r with
  | clear => exact absurd rfl hr
  | publish other m =>
    rcases q.serve_publish other m with ⟨e, rejecting, hp⟩ | ⟨_, hp⟩
    · simp [hp, publishedOn, accepted?]
    · rw [hp]
      by_cases hother : other = topic <;> simp [publishedOn, accepted?, hother]
  | subscribe other =>
    simp only [serve, Queue.subscribe]
    cases q.closed <;> simp [publishedOn, accepted?]
  | receive feed =>
    rw [serve_receive_state]
    rcases q.receive_state feed with hr | ⟨rest, hr⟩ <;> simp [hr, publishedOn, accepted?, updateFeed]
  | close =>
    simp only [serve, Queue.close]
    cases q.closed <;> simp [publishedOn, accepted?]
  | unsubscribe | dropReceiver | ack | nack | reject =>
    simp [serve, publishedOn, accepted?, Queue.unsubscribe, Queue.dropReceiver, Queue.ack, Queue.nack,
      updateFeed]

theorem publishedOn_after (hclear : .clear ∉ requests) (q : Queue) (topic : String) :
    (q.after requests).publishedOn topic =
      q.publishedOn topic ++ (q.transcript requests).filterMap (accepted? topic) := by
  induction requests generalizing q with
  | nil => simp [Queue.after, transcript]
  | cons r requests ih =>
    obtain ⟨hr, hclear⟩ := List.ne_and_not_mem_of_not_mem_cons hclear
    have hrest := ih hclear (q.serve r).2
    rw [publishedOn_serve hr.symm] at hrest
    rw [filterMap_transcript_cons, ← List.append_assoc]
    exact hrest

/-- A closed queue accepts nothing. -/
theorem accepted?_of_closed (h : q.closed = true) (topic : String) (r : Request) :
    accepted? topic (r, (q.serve r).1) = none := by
  cases r with
  | publish other m => simp [(refuses_of_closed h other m).1, accepted?]
  | _ => rfl

theorem sentTo_of_closed (h : q.closed = true) (topic : String) (id : Nat) (requests : List Request) :
    q.sentTo topic id requests = [] := by
  induction requests generalizing q with
  | nil => rfl
  | cons r requests ih =>
    rw [sentTo, accepted?_of_closed h, ih (closed_serve h r)]
    simp

/-! ## Feeds along requests -/

/-- Along these requests a feed of a topic is opened: it is asked for early, and the others come late. -/
structure Opening (q : Queue) (requests : List Request) (topic : String) (id : Nat)
    (early late : List Request) : Prop where
  requests : requests = early ++ .subscribe topic :: late
  opened : ((q.after early).serve (.subscribe topic)).1 = .opened id

/-- The queue at the moment at which a feed was opened. -/
def atOpening (q : Queue) (topic : String) (early : List Request) : Queue :=
  ((q.after early).serve (.subscribe topic)).2

/-- What a feed is due: what the log held when it was opened, and what is sent to it. -/
def due (q : Queue) (topic : String) (id : Nat) (early late : List Request) : List Message :=
  (q.after early).publishedOn topic ++ (q.atOpening topic early).sentTo topic id late

namespace Opening

theorem append (h : q.Opening requests topic id early late) (more : List Request) :
    q.Opening (requests ++ more) topic id early (late ++ more) where
  requests := by rw [h.requests, List.append_assoc, List.cons_append]
  opened := h.opened

theorem after (h : q.Opening requests topic id early late) :
    q.after requests = (q.atOpening topic early).after late := by
  rw [h.requests, after_append]
  rfl

/-- **What a feed is due was taken off it, or waits in it.** -/
theorem balance (hq : q.Reached) (h : q.Opening requests topic id early late)
    (hdrop : .dropReceiver id ∉ late) :
    ((q.atOpening topic early).transcript late).filterMap (taken? id) ++ (q.after requests).waitingIn id =
      q.due topic id early late := by
  have howes : (q.atOpening topic early).Owes id topic [] ((q.after early).publishedOn topic) :=
    owes_subscribe (hq.after early) h.opened
  rw [h.after]
  exact howes.balance hdrop

/-- A feed that was opened is there, and is one of its topic. -/
theorem feed (hq : q.Reached) (h : q.Opening requests topic id early late) :
    ∃ f, (q.after requests).feed? id = some f ∧ f.topic = topic := by
  obtain ⟨f, hf, _⟩ := owes_subscribe (hq.after early) h.opened
  obtain ⟨later, hlater⟩ := exists_feed?_after ⟨f, hf⟩ late
  have hgiven := (givenFor_subscribe (hq.after early) h.opened).after late
  rw [h.after]
  exact ⟨later, hlater, hgiven.topic later (List.mem_of_find?_eq_some hlater) (id_of_feed? hlater)⟩

/-- A feed that is not given up before the queue closes is due all that is accepted for its topic until
then, if the log was not cleared before it was opened. -/
theorem due_of_close (h : q.Opening requests topic id early late) {before after : List Request}
    (hclose : requests = before ++ .close :: after) (hclear : .clear ∉ early)
    (hkept : ∀ r ∈ before, r.givesUp topic id = false) :
    q.due topic id early late = q.publishedOn topic ++ (q.transcript before).filterMap (accepted? topic) := by
  -- The queue was not closed yet when the feed was opened.
  have hopen : .close ∉ early := by
    intro hmem
    have hclosed := (closed_after_iff q early).mpr (.inr hmem)
    have hrefused := h.opened
    rw [(refuses_of_closed hclosed topic default).2] at hrefused
    cases hrefused
  have hsplit : ∃ between, before = early ++ .subscribe topic :: between ∧
      late = between ++ .close :: after := by
    have hboth : early ++ .subscribe topic :: late = before ++ .close :: after :=
      h.requests.symm.trans hclose
    rcases List.append_eq_append_iff.mp hboth with ⟨rest, hbefore, hrest⟩ | ⟨rest, hearly, hrest⟩
    · cases rest with
      | nil => cases hrest
      | cons r between =>
        rw [List.cons_append, List.cons.injEq] at hrest
        obtain ⟨rfl, rfl⟩ := hrest
        exact ⟨between, hbefore, rfl⟩
    · cases rest with
      | nil => cases hrest
      | cons r between =>
        rw [List.cons_append, List.cons.injEq] at hrest
        obtain ⟨rfl, _⟩ := hrest
        exact absurd (hearly ▸ List.mem_append_right _ List.mem_cons_self) hopen
  obtain ⟨between, rfl, rfl⟩ := hsplit
  have hbetween : ∀ r ∈ between, r.givesUp topic id = false := fun r hr =>
    hkept r (List.mem_append_right _ (List.mem_cons_of_mem _ hr))
  have hclosed : ∀ q : Queue, q.sentTo topic id (.close :: after) = [] := by
    intro q
    rw [sentTo, sentTo_of_closed ((closed_serve_iff q .close).mpr (.inr rfl))]
    simp [accepted?]
  rw [due, publishedOn_after hclear, sentTo_append_of_kept hbetween, hclosed, List.append_nil,
    transcript_append, List.filterMap_append, filterMap_transcript_cons, List.append_assoc]
  rfl

end Opening

/-- A feed was opened along these requests, its receiver was not dropped, and these messages were taken off
it. -/
def Tracked (q : Queue) (requests : List Request) (topic : String) (id : Nat) (taken : List Message) : Prop :=
  ∃ early late, q.Opening requests topic id early late ∧ .dropReceiver id ∉ late ∧
    ((q.atOpening topic early).transcript late).filterMap (taken? id) = taken

/-- A feed of a topic was opened along these requests and given up, and these messages are all that it was
due. -/
def Spent (q : Queue) (requests : List Request) (topic : String) (taken : List Message) : Prop :=
  ∃ id early late, q.Opening requests topic id early late ∧
    (∃ r ∈ late, r.givesUp topic id = true) ∧ taken = q.due topic id early late

theorem Tracked.feed (hq : q.Reached) (h : q.Tracked requests topic id taken) :
    ∃ f, (q.after requests).feed? id = some f ∧ f.topic = topic := by
  obtain ⟨early, late, hopening, _⟩ := h
  exact hopening.feed hq

/-- Feeds of different topics are different. -/
theorem Tracked.ne (hq : q.Reached) (h : q.Tracked requests topic id taken) {other : String} {feed : Nat}
    {others : List Message} (h' : q.Tracked requests other feed others) (hne : topic ≠ other) : id ≠ feed := by
  rintro rfl
  obtain ⟨f, hf, rfl⟩ := h.feed hq
  obtain ⟨f', hf', rfl⟩ := h'.feed hq
  rw [hf] at hf'
  cases hf'
  exact hne rfl

/-- A feed that is opened now. -/
theorem tracked_subscribe (h : ((q.after requests).serve (.subscribe topic)).1 = .opened id) :
    q.Tracked (requests ++ [.subscribe topic]) topic id [] :=
  ⟨requests, [], ⟨rfl, h⟩, List.not_mem_nil, rfl⟩

/-- A feed out of which nothing is taken, and whose receiver is not dropped. -/
theorem Tracked.append (h : q.Tracked requests topic id taken) {more : List Request}
    (hreceive : .receive id ∉ more) (hdrop : .dropReceiver id ∉ more) :
    q.Tracked (requests ++ more) topic id taken := by
  obtain ⟨early, late, hopening, hlate, htaken⟩ := h
  refine ⟨early, late ++ more, hopening.append more, ?_, ?_⟩
  · simp [hlate, hdrop]
  · have hnone : ∀ (more : List Request) (q : Queue), .receive id ∉ more →
        (q.transcript more).filterMap (taken? id) = [] := by
      intro more
      induction more with
      | nil => exact fun _ _ => rfl
      | cons r more ih =>
        intro q hmem
        obtain ⟨hr, hmem⟩ := List.ne_and_not_mem_of_not_mem_cons hmem
        rw [filterMap_transcript_cons, ih _ hmem, List.append_nil]
        cases r with
        | receive feed =>
          have hfeed : feed ≠ id := fun heq => hr (heq ▸ rfl)
          cases (q.serve (.receive feed)).1 <;> simp [taken?, hfeed]
        | _ => rfl
    rw [transcript_append, List.filterMap_append, htaken, hnone more _ hreceive, List.append_nil]

/-- The next message is taken off a feed, if one waits. -/
theorem Tracked.receive (h : q.Tracked requests topic id taken) :
    q.Tracked (requests ++ [.receive id]) topic id
      (taken ++ (taken? id (.receive id, ((q.after requests).serve (.receive id)).1)).toList) := by
  obtain ⟨early, late, hopening, hlate, htaken⟩ := h
  refine ⟨early, late ++ [.receive id], hopening.append _, by simpa using hlate, ?_⟩
  rw [transcript_append, List.filterMap_append, htaken, ← hopening.after, filterMap_transcript_cons,
    transcript, List.filterMap_nil, List.append_nil]

/-- **A feed that is given up when nothing waits in it** got all that it was due. -/
theorem Tracked.spend (hq : q.Reached) (h : q.Tracked requests topic id taken)
    (hempty : (q.after requests).waitingIn id = []) {r : Request} (hr : r.givesUp topic id = true)
    (more : List Request) : q.Spent (requests ++ r :: more) topic taken := by
  obtain ⟨early, late, hopening, hlate, rfl⟩ := h
  refine ⟨id, early, late ++ r :: more, hopening.append _, ⟨r, by simp, hr⟩, ?_⟩
  have hbalance := hopening.balance hq hlate
  rw [hempty, List.append_nil] at hbalance
  rw [hbalance, due, due, sentTo_append_givingUp hr]

theorem Spent.append (h : q.Spent requests topic taken) (more : List Request) :
    q.Spent (requests ++ more) topic taken := by
  obtain ⟨id, early, late, hopening, ⟨r, hmem, hr⟩, rfl⟩ := h
  refine ⟨id, early, late ++ more, hopening.append more, ⟨r, List.mem_append_left _ hmem, hr⟩, ?_⟩
  rw [due, due, sentTo_append_of_givenUp ⟨r, hmem, hr⟩]

/-- What waits when a message was taken. -/
theorem waitingIn_of_receive {q' : Queue} {m : Message} (h : q.receive id = (.ok (some m), q')) :
    q.waitingIn id = m :: q'.waitingIn id := by
  simp only [Queue.receive] at h
  split at h
  · cases h
  · rename_i f hfind
    have hf : q.feed? id = some f := hfind
    cases hwaiting : f.waiting with
    | nil =>
      rw [hwaiting] at h
      cases hlive : f.live <;> simp [hlive] at h
    | cons first rest =>
      rw [hwaiting] at h
      cases h
      have hleft := feed?_updateFeed_self hf (g := fun f => { f with waiting := rest }) fun _ => rfl
      simp [waitingIn, hf, hleft, hwaiting]

theorem waitingIn_of_dry (h : q.Dry id) : q.waitingIn id = [] := by
  obtain ⟨f, hf, hwaiting, _⟩ := h
  simp [waitingIn, hf, hwaiting]

/-! ## After the close -/

/-- A closed queue never lets a receiver wait for more. -/
theorem receive_of_closed {q' : Queue} (hq : q.Reached) (hclosed : q.closed = true) :
    q.receive id ≠ (.ok none, q') := by
  intro h
  simp only [Queue.receive] at h
  split at h
  · cases h
  · rename_i f hfind
    have hdead := hq.dead_of_closed hclosed f (List.mem_of_find?_eq_some hfind)
    cases hwaiting : f.waiting <;> simp [hwaiting, hdead] at h

/-- A closed queue opens no feed. -/
theorem feed?_serve_of_closed (h : q.closed = true) (r : Request) (id : Nat) :
    (q.serve r).2.feed? id = (q.feed? id).map fun f => q.feedAfter f r := by
  cases hf : q.feed? id with
  | some f => rw [feed?_serve hf r, Option.map_some]
  | none =>
    have hupdate : ∀ (feed : Nat) (g : Feed → Feed), (∀ f, (g f).id = f.id) →
        (q.updateFeed feed g).feed? id = none := by
      intro feed g hg
      have hchanged : ∀ f, (if f.id = feed then g f else f).id = f.id := by
        intro f
        split
        · exact hg f
        · rfl
      simp only [feed?] at hf
      simp only [feed?, updateFeed, find?_map_feeds _ hchanged, hf, Option.map_none]
    cases r with
    | ack | nack | reject | clear => exact hf
    | publish topic m => rw [(refuses_of_closed h topic m).1, hf, Option.map_none]
    | subscribe topic => rw [(refuses_of_closed h topic default).2, hf, Option.map_none]
    | unsubscribe topic feed => exact hupdate feed _ fun f => by split <;> rfl
    | dropReceiver feed => exact hupdate feed _ fun _ => rfl
    | receive feed =>
      rw [serve_receive_state]
      rcases q.receive_state feed with hr | ⟨rest, hr⟩
      · rw [hr, hf, Option.map_none]
      · rw [hr, Option.map_none]
        exact hupdate feed _ fun _ => rfl
    | close => simp [serve, Queue.close, h, hf]

/-- Nothing is added to a feed of a closed queue. -/
theorem waitingIn_serve_le (h : q.closed = true) (r : Request) (id : Nat) :
    ((q.serve r).2.waitingIn id).length ≤ (q.waitingIn id).length := by
  simp only [waitingIn, feed?_serve_of_closed h]
  cases q.feed? id with
  | none => exact Nat.le_refl _
  | some f =>
    simp only [Option.map_some, Option.getD_some]
    cases r with
    | ack | nack | reject | clear | subscribe => exact Nat.le_refl _
    | publish topic m => simp [feedAfter, (refuses_of_closed h topic m).1]
    | unsubscribe topic feed =>
      simp only [feedAfter]
      split <;> exact Nat.le_refl _
    | dropReceiver feed =>
      simp only [feedAfter]
      split <;> simp
    | receive feed =>
      simp only [feedAfter]
      split <;> simp
    | close => simp [feedAfter, h]

theorem waitingIn_after_le (h : q.closed = true) (requests : List Request) (id : Nat) :
    ((q.after requests).waitingIn id).length ≤ (q.waitingIn id).length := by
  induction requests generalizing q with
  | nil => exact Nat.le_refl _
  | cons r requests ih => exact Nat.le_trans (ih (closed_serve h r)) (waitingIn_serve_le h r id)

end SymbolRelay.Queue
