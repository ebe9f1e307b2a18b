import SymbolRelay.Proofs.Handling.Backlog
import SymbolRelay.Proofs.Handling.PanicCount
import SymbolRelay.Standin.Compact
import SymbolRelay.Standin.NumberedIds
import SymbolRelay.Standin.RetryLoop

/-!
# Messages that hold no event

A router that feeds a catalog gives it every message of the symbol topics. A message that holds no event is
refused at the first attempt, however many are allowed, and the catalog is left as it was: it does not even
remember the uuid. So what the catalog holds is told by the other messages alone.

```text
   holds no event:   called, refused ── (copy to the poison topic) ── nacked     catalog as it was
   holds an event:   called, taken in ── acked                                   one entry may change
```

## Results

* `chain_refused` — a handler that refuses a message for good is called once;
* `processed_undecodable`, `processed_decodable` — what becomes of a message of either kind;
* `FedBy.catalog_eq` — after any messages the catalog holds what those with an event say;
* `refused_without_trace` — all of it, for the topics that a catalog was registered for.
-/

set_option autoImplicit false

namespace SymbolRelay

variable {ξ ε α : Type}

/-! ## One attempt -/

section Once

variable {r : Router ξ} {route : Route ξ} {next : Handler ξ} {m : Message} {w w' : World ξ}
  {e : HandlerError}

/-- A handler that refuses a message for good is called once, for all that a router puts around it. -/
theorem chain_refused [RetryLoop] (hm : r.middleware = []) (hnext : next m w = (.error e, w'))
    (final : e.isRetryable = false) : r.chain next m w = (.error e, w') := by
  have hrecovering : Handler.recovering true next m w = (.error e, w') := by
    simp only [Handler.recovering, Action.bind_attempt, hnext]
    rfl
  have hretrying : Handler.retrying r.config.backoff (Handler.recovering true next) m w =
      (.error e, w') := by
    unfold Handler.retrying
    cases r.config.backoff.maxRetries with
    | zero =>
      rw [Handler.attempts_zero]
      exact hrecovering
    | succ left =>
      simp only [Handler.attempts_succ, Action.bind_attempt, hrecovering, final]
      rfl
  simp only [Router.chain, hm, List.foldr_nil, Handler.correlating]
  exact Action.bind_error hretrying

theorem handle_refused (r : Router ξ) (route : Route ξ) (h : route.handler m w = (.error e, w')) :
    r.handle route m w = (.error e, w') := by
  simp only [Router.handle, Action.bind_attempt, Action.bind_error h]
  rfl

theorem handle_consumed (r : Router ξ) (route : Route ξ) (h : route.handler m w = (.ok [], w')) :
    r.handle route m w = (.ok (), w') := by
  have hwhole : (route.handler m >>= fun produced => r.forward m route.outputTopic produced :
      Action (World ξ) HandlerError Unit) w = (.ok (), w') := by
    rw [Action.bind_ok h]
    exact Router.forward_nil r m route.outputTopic w'
  simp only [Router.handle, Action.bind_attempt, hwhole]
  rfl

theorem judge_refused (h : r.handle route m w = (.error e, w')) :
    r.judge route m w = (.ok (some e), (r.poison route.subscription.topic m e w').2) := by
  rcases r.judge_cases route m w with ⟨_, hhandle, _⟩ | ⟨_, _, w'', hhandle, hcopy, hjudge⟩
  · cases h.symm.trans hhandle
  · cases h.symm.trans hhandle
    rw [hjudge, hcopy]

theorem judge_accepted (h : r.handle route m w = (.ok (), w')) : r.judge route m w = (.ok none, w') := by
  rcases r.judge_cases route m w with ⟨_, hhandle, hjudge⟩ | ⟨_, _, _, hhandle, _⟩
  · cases h.symm.trans hhandle
    exact hjudge
  · cases h.symm.trans hhandle

/-- On record a copy is one entry, if there is a topic for it. -/
theorem poison_recorded (r : Router ξ) (topic : String) (m : Message) (e : HandlerError)
    (w : World (ξ × List DeliveryEvent)) :
    ∃ copies, Poisons (r.destination r.config.poisonTopic) topic m e copies ∧
      (r.recorded.poison topic m e w).2.record = w.record ++ copies := by
  have hconfig : r.recorded.config = r.config := rfl
  cases hpoison : r.config.poisonTopic with
  | none =>
    refine ⟨[], .nowhere (by simp [Router.destination]), ?_⟩
    rw [Router.poison, hconfig, hpoison, List.append_nil]
    rfl
  | some poisonTopic =>
    cases hpublisher : r.publisher with
    | none =>
      refine ⟨[], .nowhere (by simp [Router.destination, hpublisher]), ?_⟩
      have hnone : r.recorded.publisher = none := by rw [Router.recorded, hpublisher, Option.map_none]
      rw [Router.poison, hconfig, hpoison, hnone, List.append_nil]
      rfl
    | some publisher =>
      have hsome : r.recorded.publisher = some publisher.recorded := by
        rw [Router.recorded, hpublisher, Option.map_some]
      rw [Router.poison_to (r := r.recorded) hpoison hsome]
      exact ⟨_, .copied (by simp [Router.destination, hpublisher]) _, rfl⟩

end Once

/-! ## A catalog that is fed -/

/-- An action that leaves a part of the world alone. -/
def Action.Leaves {κ : Type} (part : ξ → κ) (a : Action (World ξ) ε α) : Prop :=
  ∀ w : World ξ, part (a w).2.extra = part w.extra

/-- A catalog of which nothing is changed by publishing, or by telling a broker of a message. -/
structure Catalog.Apart (part : ξ → Catalog) (put : Catalog → ξ → ξ) (r : Router ξ) (s : Subscription ξ) :
    Prop where
  lens : ∀ c extra, part (put c extra) = c
  publisher : ∀ p ∈ r.publisher, ∀ ctx topic out, (p.send ctx topic out).Leaves part
  ack : ∀ id, (s.broker.ack s.topic id).Leaves part
  nack : ∀ id reason, (s.broker.nack s.topic id reason).Leaves part

namespace Catalog

variable {part : ξ → Catalog} {put : Catalog → ξ → ξ} {r : Router ξ} {s : Subscription ξ} {m : Message}
  {target : Option String} {w w' : World ξ}

/-- An event changes no entry but that of its symbol. -/
theorem get?_applyEvent_of_ne (entries : Table Int64 CatalogEntry) (event : Event) {id : Int64}
    (h : id ≠ event.symbolId) : (applyEvent entries event).get? id = entries.get? id := by
  cases event with
  | created facts => exact Table.get?_insert_of_ne _ _ h
  | updated facts => exact Table.get?_insert_of_ne _ _ h
  | deleted _ _ _ _ => exact Table.get?_erase_of_ne _ h

theorem get?_apply_of_ne [BinaryFormat] {c after : Catalog} {event : Event}
    (hdecode : Event.decode m = .ok event) (h : c.apply m = .ok after) {id : Int64}
    (hid : id ≠ event.symbolId) :
    after.entries.get? id = c.entries.get? id := by
  simp only [apply, hdecode] at h
  split at h
  · cases h
    exact get?_applyEvent_of_ne _ event hid
  · split at h
    · cases h
      rfl
    · cases h
      exact get?_applyEvent_of_ne _ event hid

theorem Apart.poison (h : Apart part put r s) (topic : String) (m : Message) (e : HandlerError) :
    (r.poison topic m e).Leaves part := by
  intro w
  cases hpoison : r.config.poisonTopic with
  | none => rw [Router.poison, hpoison]; rfl
  | some poisonTopic =>
    cases hpublisher : r.publisher with
    | none => rw [Router.poison, hpoison, hpublisher]; rfl
    | some p =>
      rw [Router.poison_to hpoison hpublisher]
      exact h.publisher p hpublisher _ _ _ _

/-- After the verdict the catalog stays as it is. -/
theorem Apart.settled (h : Apart part put r s) {route : Route ξ} (hs : route.subscription = s)
    {refusal : Option HandlerError} (hjudge : r.judge route m w = (.ok refusal, w')) :
    part (r.processSafely route m w).extra = part w'.extra := by
  have htell : (s.tell m refusal).Leaves part := by
    cases refusal with
    | none => exact h.ack m.uuid
    | some e => exact h.nack m.uuid e.message
  rw [processSafely_judged hjudge, hs, ← htell w']
  cases s.tell m refusal w' with
  | mk o w'' => cases o <;> rfl

/-- A message that holds no event was processed: one call, which refused it, and then it was nacked. -/
structure RefusedOnce (part : ξ → Catalog) (r : Router ξ) (s : Subscription ξ) (m : Message)
    (e : Event.DecodeError) (record : List DeliveryEvent) (w w' : World ξ) : Prop where
  record : ∃ copies, Poisons (r.destination r.config.poisonTopic) s.topic m (.ofDecode e) copies ∧
    record = [.called m (.error (.ofDecode e))] ++ copies ++
      [.nacked s.topic m.uuid (HandlerError.ofDecode e).message]
  catalog : part w'.extra = part w.extra

/-- A message that holds an event was processed: one call, which took it in, and then it was acked. -/
structure TakenOnce [BinaryFormat] (part : ξ → Catalog) (s : Subscription ξ) (m : Message) (event : Event)
    (record : List DeliveryEvent) (w w' : World ξ) : Prop where
  record : record = [.called m (.ok []), .acked s.topic m.uuid]
  catalog : (part w.extra).apply m = .ok (part w'.extra)
  others : ∀ id, id ≠ event.symbolId →
    (part w'.extra).entries.get? id = (part w.extra).entries.get? id

section Processed

variable (hm : r.middleware = []) (apart : Apart part put r s)
include hm apart

/-- **A message that holds no event is refused once**, and the catalog is as it was. -/
theorem processed_undecodable [BinaryFormat] [RetryLoop] (target : Option String) (w : World ξ)
    {e : Event.DecodeError} (h : Event.decode m = .error e) :
    RefusedOnce part r s m e
      (r.recorded.processSafely (r.recorded.routeTo s.recorded target (consumer part put).recorded) m
        w.observed).record
      w (r.processSafely (r.routeTo s target (consumer part put)) m w) := by
  have hfinal := HandlerError.isRetryable_ofDecode e
  have hcalled : consumer part put m w = (.error (.ofDecode e), w) :=
    consumer_of_error (apply_of_undecodable h)
  have hrecorded : (consumer part put).recorded m w.observed = (.error (.ofDecode e),
      w.withRecord [.called m (.error (.ofDecode e))]) := by
    rw [Handler.recorded, Action.recorded_apply]
    simp only [show w.observed.bare = w from rfl, hcalled]
    rfl
  constructor
  · obtain ⟨copies, hpoisons, hcopied⟩ := poison_recorded r s.topic m (.ofDecode e)
      (w.withRecord [.called m (.error (.ofDecode e))])
    refine ⟨copies, hpoisons, ?_⟩
    have hjudge := judge_refused (handle_refused r.recorded
      (r.recorded.routeTo s.recorded target (consumer part put).recorded)
      (chain_refused rfl hrecorded hfinal))
    rw [processSafely_told (s := s) rfl hjudge]
    exact congrArg (· ++ _) hcopied
  · have hjudge := judge_refused (handle_refused r
      (r.routeTo s target (consumer part put)) (chain_refused hm hcalled hfinal))
    rw [apart.settled rfl hjudge]
    exact apart.poison s.topic m (.ofDecode e) w

/-- **A message that holds an event is taken in once.** -/
theorem processed_decodable [BinaryFormat] [RetryLoop] (target : Option String) (w : World ξ) {event : Event}
    (h : Event.decode m = .ok event) :
    TakenOnce part s m event
      (r.recorded.processSafely (r.recorded.routeTo s.recorded target (consumer part put).recorded) m
        w.observed).record
      w (r.processSafely (r.routeTo s target (consumer part put)) m w) := by
  obtain ⟨after, hafter⟩ := exists_apply h (part w.extra)
  have hcalled := consumer_of_ok put w hafter
  have hrecorded : (consumer part put).recorded m w.observed = (.ok [],
      World.withRecord { w with extra := put after w.extra } [.called m (.ok [])]) := by
    rw [Handler.recorded, Action.recorded_apply]
    simp only [show w.observed.bare = w from rfl, hcalled]
    rfl
  have hcatalog : part (r.processSafely (r.routeTo s target (consumer part put)) m w).extra = after := by
    have hjudge := judge_accepted (handle_consumed r (r.routeTo s target (consumer part put))
      (chain_consumed hm hcalled))
    rw [apart.settled rfl hjudge]
    exact apart.lens _ _
  refine ⟨?_, hcatalog ▸ hafter, fun id hid => ?_⟩
  · have hjudge := judge_accepted (handle_consumed r.recorded
      (r.recorded.routeTo s.recorded target (consumer part put).recorded)
      (chain_consumed rfl hrecorded))
    rw [processSafely_told (s := s) rfl hjudge]
    rfl
  · rw [hcatalog]
    exact get?_apply_of_ne h hafter hid

end Processed

end Catalog

/-! ## The topics of a catalog -/

namespace Router

variable {handler : Handler ξ} {base r : Router ξ}

/-- Registering a handler for topics adds its registrations, if none of the topics had one. -/
theorem registrations_of_registerAll {topics : List String} (h : registerAll handler topics base = (.ok (), r)) :
    (∀ g ∈ base.registrations, g.topic ∉ topics) ∧
      r = { base with
        registrations := base.registrations ++ topics.map fun topic => { topic, handler } } := by
  induction topics generalizing base with
  | nil =>
    cases h
    exact ⟨fun _ _ => List.not_mem_nil, by simp⟩
  | cons topic rest ih =>
    rw [registerAll] at h
    cases hregister : base.register { topic, handler } with
    | error e =>
      rw [hregister] at h
      cases h
    | ok next =>
      rw [hregister] at h
      obtain ⟨hfree, rfl⟩ := ih h
      rw [register] at hregister
      split at hregister
      · cases hregister
      · rename_i hnew
        cases hregister
        refine ⟨fun g hg => ?_, by simp⟩
        rw [List.mem_cons, not_or]
        refine ⟨fun he => hnew (List.any_eq_true.mpr ⟨g, hg, by simp [he]⟩), ?_⟩
        exact hfree g (List.mem_append_left _ hg)

/-- What is registered on the topics of a catalog is its consumer, which produces nothing. -/
theorem registerCatalog_spec [BinaryFormat] {part : ξ → Catalog} {put : Catalog → ξ → ξ}
    (h : base.registerCatalog part put = (.ok (), r)) :
    r.middleware = base.middleware ∧ ∀ g ∈ r.registrations, g.topic ∈ symbolTopics →
      g.handler = Catalog.consumer part put ∧ g.outputTopic = none := by
  obtain ⟨hfree, rfl⟩ := registrations_of_registerAll h
  refine ⟨rfl, fun g hg htopic => ?_⟩
  rcases List.mem_append.mp hg with hg | hg
  · exact absurd htopic (hfree g hg)
  · obtain ⟨topic, _, rfl⟩ := List.mem_map.mp hg
    exact ⟨rfl, rfl⟩

end Router

/-! ## Any number of messages -/

namespace Catalog

/-- Whether a message holds an event. -/
def holdsEvent [BinaryFormat] (m : Message) : Bool := (Event.decode m).toOption.isSome

/-- The catalog after a message, which leaves it as it is if it is refused. -/
def takeIn [BinaryFormat] (c : Catalog) (m : Message) : Catalog := (c.apply m).toOption.getD c

theorem takeIn_of_undecodable [BinaryFormat] (c : Catalog) {m : Message} (h : holdsEvent m = false) :
    c.takeIn m = c := by
  rw [holdsEvent] at h
  cases hdecode : Event.decode m with
  | ok event =>
    rw [hdecode] at h
    cases h
  | error e =>
    rw [takeIn, apply_of_undecodable hdecode]
    rfl

/-- Of messages one after the other, those that hold no event leave no trace. -/
theorem foldl_takeIn_filter [BinaryFormat] (c : Catalog) (ms : List Message) :
    ms.foldl takeIn c = (ms.filter holdsEvent).foldl takeIn c := by
  induction ms generalizing c with
  | nil => rfl
  | cons m rest ih =>
    rw [List.foldl_cons, List.filter_cons]
    cases h : holdsEvent m with
    | true => exact ih _
    | false =>
      rw [takeIn_of_undecodable c h]
      exact ih c

/-- A message that holds an event offers its uuid, if it has one, to what is remembered. -/
theorem recent_takeIn [BinaryFormat] (c : Catalog) (m : Message) :
    (c.takeIn m).recent =
      if holdsEvent m = true ∧ m.uuid ≠ "" then (c.recent.accept? m.uuid).getD c.recent else c.recent := by
  cases hdecode : Event.decode m with
  | error e =>
    have hevent : holdsEvent m = false := by rw [holdsEvent, hdecode]; rfl
    rw [takeIn_of_undecodable c hevent, if_neg (by simp [hevent])]
  | ok event =>
    have hevent : holdsEvent m = true := by rw [holdsEvent, hdecode]; rfl
    by_cases hempty : m.uuid = ""
    · rw [if_neg (fun h => h.2 hempty)]
      simp [takeIn, apply, hdecode, hempty, Except.toOption]
    · rw [if_pos ⟨hevent, hempty⟩]
      cases haccept : c.recent.accept? m.uuid with
      | none => simp [takeIn, apply, hdecode, hempty, haccept, Except.toOption]
      | some recent => simp [takeIn, apply, hdecode, hempty, haccept, Except.toOption]

/-- Only uuids of messages that hold an event come to be remembered. -/
theorem mem_recent_foldl_takeIn [BinaryFormat] {c : Catalog} {ms : List Message} {uuid : String}
    (h : uuid ∈ (ms.foldl takeIn c).recent.ids) :
    uuid ∈ c.recent.ids ∨ ∃ m ∈ ms, holdsEvent m = true ∧ m.uuid = uuid := by
  induction ms generalizing c with
  | nil => exact .inl h
  | cons m rest ih =>
    rcases ih h with h | ⟨m', hm', hfound⟩
    · rw [recent_takeIn] at h
      split at h
      · rename_i hoffered
        cases haccept : c.recent.accept? m.uuid with
        | none =>
          rw [haccept] at h
          exact .inl h
        | some recent =>
          rw [haccept] at h
          rcases RecentIds.eq_or_mem_of_accept haccept h with rfl | hold
          · exact .inr ⟨m, List.mem_cons_self, hoffered.1, rfl⟩
          · exact .inl hold
      · exact .inl h
    · exact .inr ⟨m', List.mem_cons_of_mem _ hm', hfound⟩

/-- A message that holds an event is applied if its uuid is not remembered. -/
theorem entries_of_apply [BinaryFormat] {c after : Catalog} {m : Message} {event : Event}
    (hdecode : Event.decode m = .ok event) (new : m.uuid = "" ∨ m.uuid ∉ c.recent.ids)
    (h : c.apply m = .ok after) : after.entries = applyEvent c.entries event := by
  by_cases hempty : m.uuid = ""
  · simp only [apply, hdecode, hempty, if_true] at h
    cases h
    rfl
  · obtain ⟨applied, happly, hentries, _⟩ := apply_of_new hdecode hempty (new.resolve_left hempty)
    cases h.symm.trans happly
    exact hentries

/-- Messages of the topics of a catalog that a router processed one after the other, over subscriptions of
whatever brokers, while others did what leaves the catalog alone. -/
inductive FedBy [RetryLoop] (part : ξ → Catalog) (put : Catalog → ξ → ξ) (r : Router ξ) (w : World ξ) :
    List Message → World ξ → Prop
  | start : FedBy part put r w [] w
  | meanwhile {ms : List Message} {w' w'' : World ξ} (h : FedBy part put r w ms w')
      (same : part w''.extra = part w'.extra) : FedBy part put r w ms w''
  | processed {ms : List Message} {w' : World ξ} (h : FedBy part put r w ms w') (g : Registration ξ)
      (registered : g ∈ r.registrations) (topic : g.topic ∈ symbolTopics) (s : Subscription ξ)
      (apart : Apart part put r s) (m : Message) :
      FedBy part put r w (ms ++ [m]) (r.processSafely (r.routeTo s g.outputTopic g.handler) m w')

section Fed

variable {part : ξ → Catalog} {put : Catalog → ξ → ξ} {r : Router ξ}

/-- One message more. -/
theorem takeIn_processed [BinaryFormat] [RetryLoop] (hm : r.middleware = []) {s : Subscription ξ}
    (apart : Apart part put r s) (target : Option String) (m : Message) (w : World ξ) :
    part (r.processSafely (r.routeTo s target (consumer part put)) m w).extra = (part w.extra).takeIn m := by
  rw [takeIn]
  cases hdecode : Event.decode m with
  | error e =>
    rw [(processed_undecodable hm apart target w hdecode).catalog, apply_of_undecodable hdecode]
    rfl
  | ok event =>
    rw [(processed_decodable hm apart target w hdecode).catalog]
    rfl

/-- **After any messages the catalog holds what those with an event say**, and remembers their uuids. -/
theorem FedBy.catalog_eq [BinaryFormat] [RetryLoop] (hm : r.middleware = [])
    (consumers : ∀ g ∈ r.registrations, g.topic ∈ symbolTopics → g.handler = consumer part put)
    {w w' : World ξ} {ms : List Message} (h : FedBy part put r w ms w') :
    part w'.extra = (ms.filter holdsEvent).foldl takeIn (part w.extra) := by
  rw [← foldl_takeIn_filter]
  induction h with
  | start => rfl
  | meanwhile _ same ih => rw [same, ih]
  | processed _ g registered topic s apart m ih =>
    rw [consumers g registered topic, takeIn_processed hm apart, ih, List.foldl_append]
    rfl

end Fed

/-- **Messages that hold no event leave no trace.** On every topic that a catalog was registered for, however
often a message may be tried, and whether or not there is a poison topic:

* a message that holds no event is given to the catalog once and then nacked; the catalog, with what it
  remembers, is as it was;
* a message that holds an event is given to it once and then acked; no entry but that of its symbol can have
  changed;
* after any messages the catalog is what those with an event make of it. So a message that holds an event is
  applied though one with its uuid was refused before: all that counts is which uuids were remembered at first
  and came with an event since. -/
theorem refused_without_trace [BinaryFormat] [RetryLoop] {part : ξ → Catalog} {put : Catalog → ξ → ξ}
    {base r : Router ξ} (registered : base.registerCatalog part put = (.ok (), r))
    (plain : base.middleware = []) {g : Registration ξ} (hg : g ∈ r.registrations)
    (topic : g.topic ∈ symbolTopics) {s : Subscription ξ} (apart : Apart part put r s) (m : Message)
    (w : World ξ) :
    let after := r.processSafely (r.routeTo s g.outputTopic g.handler) m w
    let watched := r.recorded.processSafely
      (r.recorded.routeTo s.recorded g.outputTopic g.handler.recorded) m w.observed
    watched.bare = after ∧
    (∀ e, Event.decode m = .error e → RefusedOnce part r s m e watched.record w after) ∧
    (∀ event, Event.decode m = .ok event → TakenOnce part s m event watched.record w after) ∧
    ∀ ms w', FedBy part put r w ms w' →
      part w'.extra = (ms.filter holdsEvent).foldl takeIn (part w.extra) ∧
      ∀ event, Event.decode m = .ok event →
        (m.uuid = "" ∨ m.uuid ∉ (part w.extra).recent.ids ∧
          ∀ earlier ∈ ms, holdsEvent earlier = true → earlier.uuid ≠ m.uuid) →
        (part (r.processSafely (r.routeTo s g.outputTopic g.handler) m w').extra).entries =
          applyEvent (part w'.extra).entries event := by
  obtain ⟨hm, consumers⟩ := Router.registerCatalog_spec registered
  rw [plain] at hm
  intro after watched
  have hbare : watched.bare = after := Router.processSafely_bare hm s g.outputTopic g.handler m w
  refine ⟨hbare, fun e h => ?_, fun event h => ?_, fun ms w' fed => ?_⟩
  · simp only [watched, after, (consumers g hg topic).1]
    exact processed_undecodable hm apart g.outputTopic w h
  · simp only [watched, after, (consumers g hg topic).1]
    exact processed_decodable hm apart g.outputTopic w h
  · have hcatalog := fed.catalog_eq hm fun g hg ht => (consumers g hg ht).1
    refine ⟨hcatalog, fun event h new => ?_⟩
    rw [(consumers g hg topic).1]
    refine entries_of_apply h (new.imp_right fun ⟨hold, hnew⟩ hmem => ?_)
      (processed_decodable hm apart g.outputTopic w' h).catalog
    rw [hcatalog, ← foldl_takeIn_filter] at hmem
    rcases mem_recent_foldl_takeIn hmem with hmem | ⟨earlier, hearlier, hevent, huuid⟩
    · exact hold hmem
    · exact hnew earlier hearlier hevent huuid

/-! ## A message that is mended -/

/-- A router over the queue that copies what it refuses, and tries everything else again. -/
def mendingRouter : Router Catalog where
  subscriber := .ofBroker .ofQueue
  publisher := some (.ofBroker .ofQueue)
  config := { maxRetries := 5, poisonTopic := some "poison" }

/-- The same with a catalog registered. -/
def mendingFeed : Router Catalog := (mendingRouter.registerCatalog id fun c _ => c).2

/-- A subscription of the queue. -/
def creations : Subscription Catalog where
  topic := "symbol.created"
  feed := 0
  broker := .ofQueue
  ctx := { scope := 9 }

theorem creations_apart : Apart id (fun c _ => c) mendingFeed creations where
  lens _ _ := rfl
  publisher p hp := by
    obtain rfl : Publisher.ofBroker Broker.ofQueue = p := by
      simpa [mendingFeed, mendingRouter, Router.registerCatalog, symbolTopics, EventKind.all, EventKind.topic,
        Router.registerAll, Router.register] using hp
    exact fun _ _ _ _ => rfl
  ack _ _ := rfl
  nack _ _ _ := rfl

/-- A message with a payload that no codec reads. -/
def garbled : Message where
  uuid := "a"
  payload := [7]
  metadata := Table.ofList [(Header.routingKey, "symbol.created")]

/-- The same message as it should have been. -/
def mended : Message := (Event.created ⟨1, "Bitcoin", "BTC", "", .epoch⟩).delivery "a"

/-- The garbled message is refused, and the mended one, of the same uuid, is taken in. -/
theorem mended_taken :
    let w : World Catalog := { extra := .withWindow 1 }
    let route := mendingFeed.routeTo creations none (consumer id fun c _ => c)
    let after := mendingFeed.processSafely route garbled w
    mendingRouter.registerCatalog id (fun c _ => c) = (.ok (), mendingFeed) ∧
      mendingRouter.middleware = [] ∧ Apart id (fun c _ => c) mendingFeed creations ∧
      garbled.uuid = mended.uuid ∧
      (∃ e record, Event.decode garbled = .error e ∧
        RefusedOnce id mendingFeed creations garbled e record w after) ∧
      (mendingFeed.processSafely route mended after).extra.entries.get? 1 =
        some ⟨"Bitcoin", "BTC", "", 1⟩ := by
  intro w route after
  have registered : mendingRouter.registerCatalog id (fun c _ => c) = (.ok (), mendingFeed) := by
    rw [Router.registerCatalog_blank rfl, mendingFeed, Router.registerCatalog_blank rfl]
  have hg : { topic := "symbol.created", handler := consumer id fun c _ => c } ∈ mendingFeed.registrations := by
    rw [mendingFeed, Router.registerCatalog_blank rfl, Router.feed]
    exact List.mem_map.mpr ⟨_, by decide, rfl⟩
  obtain ⟨e, he⟩ : ∃ e, Event.decode garbled = .error e := by
    cases h : Event.decode garbled with
    | error e => exact ⟨e, rfl⟩
    | ok event =>
      have hnone : (Event.decode garbled).toOption = none := by decide +kernel
      rw [h] at hnone
      cases hnone
  obtain ⟨_, hrefused, _, _⟩ :=
    refused_without_trace registered rfl hg (by decide) creations_apart garbled w
  obtain ⟨_, _, _, hfed⟩ := refused_without_trace registered rfl hg (by decide) creations_apart mended w
  obtain ⟨hcatalog, happlied⟩ := hfed [garbled] after (.processed .start _ hg (by decide) _ creations_apart _)
  have hentries := happlied _ (Event.decode_delivery _ _) (.inr ⟨by decide, by
    intro earlier hearlier hevent
    rw [List.mem_singleton.mp hearlier, holdsEvent, he] at hevent
    cases hevent⟩)
  refine ⟨registered, rfl, creations_apart, rfl, ⟨e, _, he, hrefused e he⟩, ?_⟩
  have hempty : after.extra = .withWindow 1 := by
    refine hcatalog.trans ?_
    rw [List.filter_cons, holdsEvent, he]
    rfl
  rw [id, id, hempty] at hentries
  rw [show (mendingFeed.processSafely route mended after).extra.entries = _ from hentries]
  decide +kernel

end Catalog

end SymbolRelay
