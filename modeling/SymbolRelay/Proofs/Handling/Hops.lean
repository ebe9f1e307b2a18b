import SymbolRelay.Proofs.Delivery.Handovers
import SymbolRelay.Proofs.Handling.OneMessage
import SymbolRelay.Standin.NumberedIds
import SymbolRelay.Standin.RetryLoop

/-!
# From hop to hop

A message is taken in by a handler, what the handler produces is published, and the next handler takes it
in. On every hop a value is handed on twice: the router gives what is produced the correlation and request
ids of the message it answers, and the publisher gives it everything else, but what describes one message
only. So a value that set out arrives, however many hops there are, unless a handler on the way sets one of
its own:

```text
m ──► handler ──► p₁, stamped ──► handler ──► p₂, stamped ──► …
```

## Results

* `Station.takeIn_seen` — what a station that takes a message in calls and what it gives its broker;
* `Station.Hop.stamped` — what leaves a station is what its handler produced, answering and stamped;
* `Travels.value` — the last value that was set is there after any number of hops;
* `values_survive_hops` — that, and what a hop makes of what describes one message only.
-/

set_option autoImplicit false

namespace SymbolRelay

open SymbolRelay.Action

variable {ξ ε α : Type}

/-! ## Stations -/

/-- An action that may make ids, and takes none back. -/
def Action.TakesIds (a : Action (World ξ) ε α) : Prop := ∀ w : World ξ, w.ids.used ≤ (a w).2.ids.used

/-- A handler behind a router, the broker of its publisher, and the topic for what it produces. -/
structure Station (ξ : Type) where
  subscription : Subscription ξ
  broker : Broker ξ
  config : RouterConfig := {}
  handler : Handler ξ
  outputTopic : String
  handlerTakes : ∀ m, (handler m).TakesIds
  brokerTakes : ∀ topic m, (broker.publish topic m).TakesIds

/-- What is seen of a station that takes a message in. -/
inductive HopEvent where
  /-- The handler was called, and ended like this. -/
  | called (outcome : Outcome HandlerError (List Message))
  /-- The broker was given a message to publish. -/
  | given (topic : String) (m : Message)
  deriving DecidableEq

/-- How a call of the handler ended. -/
def HopEvent.call? : HopEvent → Option (Outcome HandlerError (List Message))
  | .called outcome => some outcome
  | .given _ _ => none

/-- The message that the broker was given. -/
def HopEvent.given? : HopEvent → Option Message
  | .called _ => none
  | .given _ m => some m

theorem HopEvent.filterMap_call? (calls : List (Outcome HandlerError (List Message))) (topic : String)
    (given : List Message) :
    (calls.map HopEvent.called ++ given.map (HopEvent.given topic)).filterMap call? = calls := by
  have hnone : given.filterMap (call? ∘ HopEvent.given topic) = [] :=
    List.filterMap_eq_nil_iff.mpr fun _ _ => rfl
  rw [List.filterMap_append, List.filterMap_map, List.filterMap_map, hnone, List.append_nil]
  exact List.filterMap_some

theorem HopEvent.filterMap_given? (calls : List (Outcome HandlerError (List Message))) (topic : String)
    (given : List Message) :
    (calls.map HopEvent.called ++ given.map (HopEvent.given topic)).filterMap given? = given := by
  have hnone : calls.filterMap (given? ∘ HopEvent.called) = [] :=
    List.filterMap_eq_nil_iff.mpr fun _ _ => rfl
  rw [List.filterMap_append, List.filterMap_map, List.filterMap_map, hnone, List.nil_append]
  exact List.filterMap_some

/-- The handler with its calls on record. -/
def Handler.watched (next : Handler ξ) : Handler (ξ × List HopEvent) := fun m =>
  (next m).recorded fun _ o => .called o

namespace Station

/-- The router of a station. -/
def router [IdSource] (s : Station ξ) : Router ξ where
  subscriber := .ofBroker s.broker
  publisher := some (.ofBroker s.broker)
  config := s.config

/-- The route to its handler, with the usual around it. -/
def route [IdSource] [RetryLoop] (s : Station ξ) : Route ξ where
  subscription := s.subscription
  outputTopic := some s.outputTopic
  handler := s.router.chain s.handler

/-- The router among records. -/
def watchedRouter [IdSource] (s : Station ξ) : Router (ξ × List HopEvent) where
  subscriber := .ofBroker (s.broker.noted .given)
  publisher := some (.ofBroker (s.broker.noted .given))
  config := s.config

/-- The route to its handler among records. -/
def watchedRoute [IdSource] [RetryLoop] (s : Station ξ) : Route (ξ × List HopEvent) where
  subscription :=
    { topic := s.subscription.topic
      feed := s.subscription.feed
      broker := s.subscription.broker.noted .given
      ctx := s.subscription.ctx
      closed := s.subscription.closed }
  outputTopic := some s.outputTopic
  handler := s.watchedRouter.chain s.handler.watched

/-- How a station ends that takes a message in, and its world with what was seen. -/
def takeIn [IdSource] [RetryLoop] (s : Station ξ) (m : Message) (w : World ξ) :
    Outcome HandlerError Unit × World (ξ × List HopEvent) :=
  s.watchedRouter.handle s.watchedRoute m w.observed

/-- What the handler of a station produced when it was called for the last time. -/
def produced [IdSource] [RetryLoop] (s : Station ξ) (m : Message) (w : World ξ) : List Message :=
  match ((s.takeIn m w).2.record.filterMap HopEvent.call?).getLast? with
  | some (.ok produced) => produced
  | _ => []

/-- What a station gave its broker. -/
def given [IdSource] [RetryLoop] (s : Station ξ) (m : Message) (w : World ξ) : List Message :=
  (s.takeIn m w).2.record.filterMap HopEvent.given?

/-- A hop: the handler of a station answers a message with another one, which leaves the station like
this. -/
def Hop [IdSource] [RetryLoop] (s : Station ξ) (w : World ξ) (m p out : Message) : Prop :=
  ∃ i : Nat, (s.produced m w)[i]? = some p ∧ (s.given m w)[i]? = some out

/-- What is on record happens without it. -/
theorem takeIn_mirrors [IdSource] [RetryLoop] (s : Station ξ) (m : Message) (w : World ξ) :
    ((s.takeIn m w).1, (s.takeIn m w).2.bare) = s.router.handle s.route m w := by
  have hpublisher : (Publisher.ofBroker (s.broker.noted HopEvent.given)).Mirrors (.ofBroker s.broker) :=
    fun ctx topic m => Publisher.send_noted_mirrors s.broker HopEvent.given ctx topic m
  have hhandler : Mirrors (s.watchedRoute.handler m) (s.route.handler m) :=
    Router.chain_mirrors rfl rfl rfl (recorded_mirrors _ (s.handler m))
  exact Router.handle_mirrors (.some hpublisher) rfl hhandler w.observed

end Station

/-! ## What is seen -/

/-- What was seen between two worlds, between which no ids were taken back. -/
structure Seen (w : World (ξ × List HopEvent)) (events : List HopEvent)
    (w' : World (ξ × List HopEvent)) : Prop where
  record : w'.record = w.record ++ events
  ids : w.ids.used ≤ w'.ids.used

namespace Seen

variable {w w' w'' : World (ξ × List HopEvent)} {events more : List HopEvent}

theorem refl (w : World (ξ × List HopEvent)) : Seen w [] w := ⟨(List.append_nil _).symm, Nat.le_refl _⟩

theorem trans (h : Seen w events w') (h' : Seen w' more w'') : Seen w (events ++ more) w'' where
  record := by rw [h'.record, h.record, List.append_assoc]
  ids := Nat.le_trans h.ids h'.ids

end Seen

/-- The attempts at a message are seen. -/
theorem seen_tracks {next : Handler ξ} {m : Message} (hn : (next m).TakesIds) :
    Tracks next.watched m fun w attempts w' => Seen w (attempts.map .called) w' where
  one w := by
    have hseen : Seen w [.called (next.watched m w).1] (next.watched m w).2 := ⟨rfl, hn w.bare⟩
    simp only [Handler.recovering, Action.bind_attempt]
    generalize next.watched m w = result at hseen ⊢
    obtain ⟨o, w'⟩ := result
    cases o with
    | ok produced => exact hseen
    | error e => exact hseen
    | panic p => exact ⟨hseen.record, hseen.ids⟩
  notice _ h := ⟨h.record, h.ids⟩
  trans h h' := by
    rw [List.map_append]
    exact h.trans h'

section Publishing

variable {b : Broker ξ} {topic : String}

/-- A message that is sent is stamped and given to the broker. -/
theorem send_seen [IdSource] (hb : ∀ m, (b.publish topic m).TakesIds) (ctx : Context) (m : Message)
    (w : World (ξ × List HopEvent)) :
    Seen w [.given topic (stamp ctx topic m w.ids).1]
        ((Publisher.ofBroker (b.noted HopEvent.given)).send ctx topic m w).2 ∧
      (stamp ctx topic m w.ids).2.used ≤
        ((Publisher.ofBroker (b.noted HopEvent.given)).send ctx topic m w).2.ids.used := by
  have hids : (stamp ctx topic m w.ids).2.used ≤
      ((Publisher.ofBroker (b.noted HopEvent.given)).send ctx topic m w).2.ids.used :=
    hb _ { w.bare with ids := (stamp ctx topic m w.ids).2 }
  exact ⟨⟨Publisher.send_noted b HopEvent.given ctx topic m w,
    Nat.le_trans (used_le_stamp ctx topic m w.ids) hids⟩, hids⟩

/-- A message as it leaves between two worlds: it was stamped with what the supply of ids gave in
between. -/
def Leaves [IdSource] (w w' : World (ξ × List HopEvent)) (ctx : Context) (topic : String) (m out : Message) :
    Prop :=
  ∃ ids : Ids, w.ids.used ≤ ids.used ∧ (stamp ctx topic m ids).2.used ≤ w'.ids.used ∧
    out = (stamp ctx topic m ids).1

/-- Messages are stamped and given to the broker in order, and all of them if nothing goes wrong. -/
theorem publishAll_seen [IdSource] (hb : ∀ m, (b.publish topic m).TakesIds) (ctx : Context)
    (outs : List Message) (w : World (ξ × List HopEvent)) : ∃ given : List Message,
    Seen w (given.map (.given topic))
        (Router.publishAll (.ofBroker (b.noted HopEvent.given)) ctx topic outs w).2 ∧
      (∀ (i : Nat) out, given[i]? = some out → ∃ m, outs[i]? = some m ∧
        Leaves w (Router.publishAll (.ofBroker (b.noted HopEvent.given)) ctx topic outs w).2 ctx topic m
          out) ∧
      ((Router.publishAll (.ofBroker (b.noted HopEvent.given)) ctx topic outs w).1 = .ok () →
        given.length = outs.length) := by
  induction outs generalizing w with
  | nil => exact ⟨[], .refl w, by simp, fun _ => rfl⟩
  | cons m rest ih =>
    obtain ⟨hseen, hids⟩ := send_seen hb ctx m w
    have hfirst : ∀ w' : World (ξ × List HopEvent), (stamp ctx topic m w.ids).2.used ≤ w'.ids.used →
        Leaves w w' ctx topic m (stamp ctx topic m w.ids).1 :=
      fun w' hle => ⟨w.ids, Nat.le_refl _, hle, rfl⟩
    simp only [Router.publishAll]
    cases hsend : (Publisher.ofBroker (b.noted HopEvent.given)).send ctx topic m w with
    | mk o w' =>
      rw [hsend] at hseen hids
      have hmapped : ((Publisher.ofBroker (b.noted HopEvent.given)).send ctx topic m).mapError
          HandlerError.publish w = (o.mapError .publish, w') := by
        simp only [Action.mapError, hsend]
      have hstopped : ∀ (i : Nat) out, [(stamp ctx topic m w.ids).1][i]? = some out →
          ∃ m', (m :: rest)[i]? = some m' ∧ Leaves w w' ctx topic m' out := by
        intro i out hi
        cases i with
        | zero =>
          obtain rfl : (stamp ctx topic m w.ids).1 = out := by simpa using hi
          exact ⟨m, rfl, hfirst w' hids⟩
        | succ i => simp at hi
      cases o with
      | error e =>
        rw [Action.bind_error hmapped]
        exact ⟨[_], hseen, hstopped, by simp⟩
      | panic p =>
        rw [Action.bind_panic hmapped]
        exact ⟨[_], hseen, hstopped, by simp⟩
      | ok v =>
        rw [Action.bind_ok hmapped]
        obtain ⟨given, hrest, hall, hlength⟩ := ih w'
        refine ⟨(stamp ctx topic m w.ids).1 :: given, hseen.trans hrest, ?_, ?_⟩
        · intro i out hi
          cases i with
          | zero =>
            obtain rfl : (stamp ctx topic m w.ids).1 = out := by simpa using hi
            exact ⟨m, rfl, hfirst _ (Nat.le_trans hids hrest.ids)⟩
          | succ i =>
            obtain ⟨m', hm', ids, hle, hge, hout⟩ := hall i out (by simpa using hi)
            exact ⟨m', by simpa using hm', ids, Nat.le_trans hseen.ids hle, hge, hout⟩
        · intro hok
          simp [hlength hok]

end Publishing

/-! ## What leaves a station -/

/-- A message as the answer to another one: it has the ids of that one, unless it has ids of its own. -/
def Message.answering (inbound out : Message) : Message :=
  [Header.correlationId, Header.requestId].foldl (Handler.inherit inbound) out

theorem getElem?_answered (m : Message) (produced : List Message) (i : Nat) :
    (answered m produced)[i]? = produced[i]?.map m.answering := List.getElem?_map

namespace Station

variable (s : Station ξ) (m : Message)

/-- The attempts at a message, and what is produced in the end as answers to it. -/
theorem chain_seen [IdSource] [RetryLoop] (w : World (ξ × List HopEvent)) :
    ∃ earlier o, (s.watchedRoute.handler m w).1 = .ofExcept ((recovered o).map (answered m)) ∧
      Seen w ((earlier ++ [o]).map .called) (s.watchedRoute.handler m w).2 := by
  obtain ⟨_, o, htried, hresult, hseen⟩ :=
    attempts_tracked (seen_tracks (s.handlerTakes m)) s.config.backoff s.config.maxRetries 0 w
  obtain ⟨earlier, rfl, _⟩ := htried.ends
  refine ⟨earlier, o, ?_⟩
  have hchain : s.watchedRoute.handler m =
      (Handler.attempts s.config.backoff (Handler.recovering true s.handler.watched) m
        s.config.maxRetries 0 >>= fun produced => Pure.pure (answered m produced)) := rfl
  rw [hchain, Action.bind_pure_apply, hresult, Action.map_ofExcept]
  exact ⟨rfl, hseen⟩

/-- What is produced is published in a context with the metadata of the message that it answers. -/
theorem forward_seen [IdSource] (outs : List Message) (w : World (ξ × List HopEvent)) :
    ∃ (ctx : Context) (given : List Message), ctx.values = m.metadata ∧
      Seen w (given.map (.given s.outputTopic))
        (s.watchedRouter.forward m (some s.outputTopic) outs w).2 ∧
      (∀ (i : Nat) out, given[i]? = some out → ∃ p, outs[i]? = some p ∧
        Leaves w (s.watchedRouter.forward m (some s.outputTopic) outs w).2 ctx s.outputTopic p out) ∧
      ((s.watchedRouter.forward m (some s.outputTopic) outs w).1 = .ok () →
        given.length = outs.length) := by
  let ctx := (Context.ofMessage m w.scopes).1
  cases outs with
  | nil => exact ⟨ctx, [], rfl, .refl w, by simp, fun _ => rfl⟩
  | cons p rest =>
    let v : World (ξ × List HopEvent) := { w with scopes := (Context.ofMessage m w.scopes).2 }
    have hforward : s.watchedRouter.forward m (some s.outputTopic) (p :: rest) w =
        Router.publishAll (.ofBroker (s.broker.noted HopEvent.given)) ctx s.outputTopic (p :: rest) v := rfl
    obtain ⟨given, hseen, hall, hlength⟩ :=
      publishAll_seen (s.brokerTakes s.outputTopic) ctx (p :: rest) v
    rw [hforward]
    exact ⟨ctx, given, rfl, ⟨hseen.record, hseen.ids⟩, hall, hlength⟩

/-- What the attempts and the publication of what they produced leave, before a panic is caught. -/
theorem answer_seen [IdSource] [RetryLoop] (w : World (ξ × List HopEvent)) :
    ∃ earlier o, ∃ given : List Message,
      Seen w ((earlier ++ [o]).map .called ++ given.map (.given s.outputTopic))
        ((s.watchedRoute.handler m >>= s.watchedRouter.forward m (some s.outputTopic)) w).2 ∧
      (∀ (i : Nat) out, given[i]? = some out → ∃ produced p ctx, o = .ok produced ∧
        produced[i]? = some p ∧ ctx.values = m.metadata ∧
        Leaves w ((s.watchedRoute.handler m >>= s.watchedRouter.forward m (some s.outputTopic)) w).2 ctx
          s.outputTopic (m.answering p) out) ∧
      (((s.watchedRoute.handler m >>= s.watchedRouter.forward m (some s.outputTopic)) w).1 = .ok () →
        ∃ produced, o = .ok produced ∧ given.length = produced.length) := by
  obtain ⟨earlier, o, hresult, hcalled⟩ := chain_seen s m w
  cases hchain : s.watchedRoute.handler m w with
  | mk answer w' =>
    rw [hchain] at hresult hcalled
    cases ho : recovered o with
    | error e =>
      rw [ho] at hresult
      obtain rfl : answer = .error e := hresult
      rw [Action.bind_error hchain]
      exact ⟨earlier, o, [], by simpa using hcalled, by simp, by simp⟩
    | ok produced =>
      rw [ho] at hresult
      obtain rfl : answer = .ok (answered m produced) := hresult
      obtain rfl : o = .ok produced := recovered_eq_ok_iff.mp ho
      obtain ⟨ctx, given, hctx, hgiven, hall, hlength⟩ := forward_seen s m (answered m produced) w'
      rw [Action.bind_ok hchain]
      refine ⟨earlier, .ok produced, given, hcalled.trans hgiven, ?_, ?_⟩
      · intro i out hi
        obtain ⟨answer, hanswer, ids, hle, hge, hout⟩ := hall i out hi
        rw [getElem?_answered, Option.map_eq_some_iff] at hanswer
        obtain ⟨p, hp, rfl⟩ := hanswer
        exact ⟨produced, p, ctx, rfl, hp, hctx, ids, Nat.le_trans hcalled.ids hle, hge, hout⟩
      · intro hok
        exact ⟨produced, rfl, (hlength hok).trans (by simp [answered])⟩

/-- **What is seen of a station that takes a message in**: its handler is called, and what the last call
produced is given to the broker, answering and stamped, and all of it if nothing goes wrong. -/
theorem takeIn_seen [IdSource] [RetryLoop] (w : World ξ) :
    ∃ earlier o, ∃ given : List Message, Seen w.observed
        ((earlier ++ [o]).map .called ++ given.map (.given s.outputTopic)) (s.takeIn m w).2 ∧
      (∀ (i : Nat) out, given[i]? = some out → ∃ produced p ctx, o = .ok produced ∧
        produced[i]? = some p ∧ ctx.values = m.metadata ∧
        Leaves w.observed (s.takeIn m w).2 ctx s.outputTopic (m.answering p) out) ∧
      ((s.takeIn m w).1 = .ok () → ∃ produced, o = .ok produced ∧ given.length = produced.length) := by
  have hanswer := answer_seen s m w.observed
  simp only [takeIn, Router.handle, Action.bind_attempt]
  have hwhole : ((s.watchedRoute.handler m >>= fun produced =>
      s.watchedRouter.forward m s.watchedRoute.outputTopic produced) w.observed) =
      (s.watchedRoute.handler m >>= s.watchedRouter.forward m (some s.outputTopic)) w.observed := rfl
  rw [hwhole]
  generalize (s.watchedRoute.handler m >>= s.watchedRouter.forward m (some s.outputTopic)) w.observed =
    result at hanswer
  obtain ⟨verdict, w'⟩ := result
  cases verdict with
  | ok v => exact hanswer
  | error e => exact hanswer
  | panic p =>
    obtain ⟨earlier, o, given, hseen, hall, _⟩ := hanswer
    refine ⟨earlier, o, given, ⟨hseen.record, hseen.ids⟩, hall, ?_⟩
    intro hok
    cases hok

/-- What a station produced and what it gave its broker, read off its record. -/
theorem produced_and_given [IdSource] [RetryLoop] (w : World ξ) :
    (∀ (i : Nat) out, (s.given m w)[i]? = some out → ∃ p ctx, (s.produced m w)[i]? = some p ∧
        ctx.values = m.metadata ∧
        Leaves w.observed (s.takeIn m w).2 ctx s.outputTopic (m.answering p) out) ∧
      ((s.takeIn m w).1 = .ok () → (s.given m w).length = (s.produced m w).length) := by
  obtain ⟨earlier, o, given, hseen, hall, hlength⟩ := takeIn_seen s m w
  have hrecord : (s.takeIn m w).2.record =
      (earlier ++ [o]).map .called ++ given.map (.given s.outputTopic) := hseen.record
  have hcalls : (s.takeIn m w).2.record.filterMap HopEvent.call? = earlier ++ [o] := by
    rw [hrecord, HopEvent.filterMap_call?]
  have hgiven : s.given m w = given := by
    unfold Station.given
    rw [hrecord, HopEvent.filterMap_given?]
  have hproduced : ∀ produced, o = .ok produced → s.produced m w = produced := by
    rintro produced rfl
    simp [Station.produced, hcalls]
  rw [hgiven]
  constructor
  · intro i out hi
    obtain ⟨produced, p, ctx, ho, hp, hctx, hleaves⟩ := hall i out hi
    rw [hproduced produced ho]
    exact ⟨p, ctx, hp, hctx, hleaves⟩
  · intro hok
    obtain ⟨produced, ho, hlen⟩ := hlength hok
    rw [hproduced produced ho, hlen]

variable {s : Station ξ} {m : Message} {w : World ξ} {p out : Message}

/-- **What leaves a station** is what its handler produced, answering and stamped in a context with the
metadata of the message that it answers. -/
theorem Hop.stamped [IdSource] [RetryLoop] (h : s.Hop w m p out) :
    ∃ (ctx : Context) (ids : Ids), ctx.values = m.metadata ∧ w.ids.used ≤ ids.used ∧
    (stamp ctx s.outputTopic (m.answering p) ids).2.used ≤ (s.takeIn m w).2.ids.used ∧
    out = (stamp ctx s.outputTopic (m.answering p) ids).1 := by
  obtain ⟨i, hp, hout⟩ := h
  obtain ⟨p', ctx, hp', hctx, ids, hle, hge, rfl⟩ := (produced_and_given s m w).1 i out hout
  obtain rfl : p = p' := by simpa [hp] using hp'
  exact ⟨ctx, ids, hctx, hle, hge, rfl⟩

end Station

/-! ## What is handed on -/

theorem value?_inherit_or (m out : Message) (header key : String) :
    ((Handler.inherit m out header).value? key).or (m.value? key) =
      (out.value? key).or (m.value? key) := by
  unfold Handler.inherit
  split
  · rename_i value hvalue
    refine out.value?_setAbsent_or (Metadata.value?_ne_empty hvalue) ?_
    rintro rfl
    exact hvalue
  · rfl

theorem Message.value?_answering_or (m p : Message) (key : String) :
    ((m.answering p).value? key).or (m.value? key) = (p.value? key).or (m.value? key) := by
  simp only [Message.answering, List.foldl_cons, List.foldl_nil]
  rw [value?_inherit_or, value?_inherit_or]

theorem get?_inherit_of_ne (m out : Message) {header key : String} (h : key ≠ header) :
    (Handler.inherit m out header).metadata.get? key = out.metadata.get? key := by
  unfold Handler.inherit
  split
  · exact out.get?_setAbsent_of_ne _ h
  · rfl

theorem Message.get?_answering_of_scoped (m p : Message) {key : String}
    (own : Header.isMessageScoped key = true) :
    (m.answering p).metadata.get? key = p.metadata.get? key := by
  have hcorrelation : key ≠ Header.correlationId := by
    rintro rfl
    revert own
    decide
  have hrequest : key ≠ Header.requestId := by
    rintro rfl
    revert own
    decide
  simp only [Message.answering, List.foldl_cons, List.foldl_nil]
  rw [get?_inherit_of_ne _ _ hrequest, get?_inherit_of_ne _ _ hcorrelation]

theorem Message.uuid_answering (m p : Message) : (m.answering p).uuid = p.uuid := by
  have hinherit : ∀ (out : Message) header, (Handler.inherit m out header).uuid = out.uuid := by
    intro out header
    unfold Handler.inherit
    split
    · exact (setAbsent_payload out _ _).2
    · rfl
  simp only [Message.answering, List.foldl_cons, List.foldl_nil, hinherit]

/-- One hop hands on what the message that it answers has a value for, unless the answer has its own. -/
theorem Station.Hop.value [IdSource] [RetryLoop] {s : Station ξ} {w : World ξ} {m p out : Message}
    (h : s.Hop w m p out) {key value : String} (shared : Header.isMessageScoped key = false)
    (hvalue : (p.value? key).or (m.value? key) = some value) : out.value? key = some value := by
  obtain ⟨ctx, ids, hctx, _, _, rfl⟩ := h.stamped
  have hcontext : ctx.value? key = m.value? key := by
    unfold Context.value? Message.value?
    rw [hctx]
  refine value?_stamp_of_some ctx _ _ ids shared ?_
  rw [hcontext, Message.value?_answering_or]
  exact hvalue

/-! ## Many hops -/

/-- A message that arrives after some hops, and what the handlers on the way produced. -/
inductive Travels [IdSource] [RetryLoop] (ξ : Type) : Message → List Message → Message → Prop where
  | start (m : Message) : Travels ξ m [] m
  | hop {m m' p out : Message} {ps : List Message} (h : Travels ξ m ps m') (s : Station ξ) (w : World ξ)
      (hhop : s.Hop w m' p out) : Travels ξ m (ps ++ [p]) out

/-- The value that sets out, or the last one that was set on the way. -/
def lastSet (key : String) (m : Message) (ps : List Message) : Option String :=
  ps.foldl (fun value p => (p.value? key).or value) (m.value? key)

theorem lastSet_snoc (key : String) (m : Message) (ps : List Message) (p : Message) :
    lastSet key m (ps ++ [p]) = (p.value? key).or (lastSet key m ps) := by
  simp [lastSet]

theorem lastSet_append_of_none (key : String) (m : Message) (earlier : List Message) {later : List Message}
    (h : ∀ p ∈ later, p.value? key = none) : lastSet key m (earlier ++ later) = lastSet key m earlier := by
  induction later generalizing earlier with
  | nil => rw [List.append_nil]
  | cons p later ih =>
    have hrest := ih (earlier ++ [p]) fun p' hp' => h p' (List.mem_cons_of_mem _ hp')
    rw [List.append_assoc, List.singleton_append] at hrest
    rw [hrest, lastSet_snoc, h p List.mem_cons_self]
    rfl

/-- **The last value that was set arrives.** -/
theorem Travels.value [IdSource] [RetryLoop] {m m' : Message} {ps : List Message} (h : Travels ξ m ps m')
    {key value : String} (shared : Header.isMessageScoped key = false)
    (hvalue : lastSet key m ps = some value) :
    m'.value? key = some value := by
  induction h generalizing value with
  | start => exact hvalue
  | @hop m' p out ps h s w hhop ih =>
    rw [lastSet_snoc] at hvalue
    refine hhop.value shared ?_
    cases hp : p.value? key with
    | some v => simpa [hp] using hvalue
    | none =>
      rw [hp, Option.none_or] at hvalue
      rw [ih hvalue]
      rfl

/-! ## What is not handed on -/

/-- What describes one message only, when an answer leaves on a topic between two states of the supply of
ids: it is the answer's own, or made for it. Nothing of it is the answered message's. -/
structure DescribesItself [IdSource] (topic : String) (before after : Ids) (p out : Message) : Prop where
  uuid : p.uuid ≠ "" → out.uuid = p.uuid
  /-- A uuid that is made was not made before, and is not made again. -/
  fresh : p.uuid = "" → ∃ k, before.used ≤ k ∧ k < after.used ∧ out.uuid = IdSource.text k ∧
    ∀ j, IdSource.text j = out.uuid → j = k
  messageId : out.metadata.get? Header.messageId =
    if p.value? Header.messageId = none then some out.uuid else p.metadata.get? Header.messageId
  routingKey : out.metadata.get? Header.routingKey =
    if p.value? Header.routingKey = none then some topic else p.metadata.get? Header.routingKey
  others : ∀ key ∈ [Header.contentType, Header.poisonReason, Header.poisonedTopic],
    out.metadata.get? key = p.metadata.get? key

theorem Station.Hop.describesItself [IdSource] [RetryLoop] {s : Station ξ} {w : World ξ} {m p out : Message}
    (h : s.Hop w m p out) : DescribesItself s.outputTopic w.ids (s.takeIn m w).2.ids p out := by
  obtain ⟨ctx, ids, _, hle, hge, rfl⟩ := h.stamped
  have hown : ∀ {key : String}, Header.isMessageScoped key = true →
      (m.answering p).metadata.get? key = p.metadata.get? key :=
    fun own => Message.get?_answering_of_scoped m p own
  refine ⟨?uuid, ?fresh, ?messageId, ?routingKey, ?others⟩
  case uuid =>
    intro hne
    rw [stamp_uuid ctx _ _ ids (by rwa [Message.uuid_answering]), Message.uuid_answering]
  case fresh =>
    intro hempty
    have hanswer : (m.answering p).uuid = "" := (Message.uuid_answering m p).trans hempty
    have hlt := used_lt_stamp ctx s.outputTopic ids hanswer
    have huuid := stamp_uuid_of_empty ctx s.outputTopic ids hanswer
    refine ⟨ids.used, hle, Nat.lt_of_lt_of_le hlt hge, huuid, ?_⟩
    intro j hj
    exact IdSource.text_injective (hj.trans huuid)
  case messageId =>
    rw [get?_stamp_messageId, hown (by decide), Message.value?_congr (hown (by decide))]
  case routingKey =>
    rw [get?_stamp_routingKey, hown (by decide), Message.value?_congr (hown (by decide))]
  case others =>
    intro key hkey
    have hscoped : Header.isMessageScoped key = true ∧ key ≠ Header.messageId ∧
        key ≠ Header.routingKey := by
      revert key
      decide
    rw [get?_stamp_of_scoped ctx _ _ ids hscoped.1 hscoped.2.1 hscoped.2.2, hown hscoped.1]

/-- **What survives any number of hops, and what none hands on.**

* A value that set out arrives if no handler on the way set one, else the last one that a handler set.
* A station does what it does without a record; it gives its broker all that its handler produced, unless
  something goes wrong; and what describes one message only is never that of the message it answers. -/
theorem values_survive_hops [IdSource] [RetryLoop] (ξ : Type) :
    (∀ (m m' : Message) (ps : List Message), Travels ξ m ps m' →
      ∀ key value, Header.isMessageScoped key = false →
        (m.value? key = some value → (∀ p ∈ ps, p.value? key = none) → m'.value? key = some value) ∧
        ∀ earlier p later, ps = earlier ++ p :: later → p.value? key = some value →
          (∀ q ∈ later, q.value? key = none) → m'.value? key = some value) ∧
    ∀ (s : Station ξ) (m : Message) (w : World ξ),
      ((s.takeIn m w).1, (s.takeIn m w).2.bare) = s.router.handle s.route m w ∧
      ((s.takeIn m w).1 = .ok () → (s.given m w).length = (s.produced m w).length) ∧
      ∀ p out, s.Hop w m p out →
        DescribesItself s.outputTopic w.ids (s.takeIn m w).2.ids p out := by
  constructor
  · intro m m' ps h key value shared
    constructor
    · intro hvalue hnone
      have hkept := lastSet_append_of_none key m [] hnone
      rw [List.nil_append] at hkept
      exact h.value shared (hkept.trans hvalue)
    · rintro earlier p later rfl hvalue hnone
      have hsplit : earlier ++ p :: later = (earlier ++ [p]) ++ later := by simp
      refine h.value shared ?_
      rw [hsplit, lastSet_append_of_none key m _ hnone, lastSet_snoc, hvalue]
      rfl
  · intro s m w
    exact ⟨s.takeIn_mirrors m w, (s.produced_and_given m w).2, fun p out h => h.describesItself⟩

/-- A station over the queue whose handler answers every message with the same one. -/
def answeringWith (p : Message) : Station Unit where
  subscription := { topic := "in", feed := 0, broker := .ofQueue, ctx := { scope := 0 } }
  broker := .ofQueue
  handler := fun _ w => (.ok [p], w)
  outputTopic := "out"
  handlerTakes _ w := Nat.le_refl w.ids.used
  brokerTakes _ _ w := Nat.le_refl w.ids.used

/-- What leaves such a station when it takes a message in. -/
def answerTo [IdSource] [RetryLoop] (m p : Message) : Message :=
    (((answeringWith p).given m { extra := () })[0]?).getD default

/-- A message with a correlation id, a trace and a content type. -/
def traced : Message where
  uuid := "m"
  metadata := Table.ofList [("correlation_id", "c"), ("trace", "first"), ("content_type", "text")]

/-- An answer with a trace of its own. -/
def retraced : Message where
  metadata := Table.ofList [("trace", "second")]

/-- What leaves the first of three stations, which answers with an empty message. -/
def firstAnswer : Message := answerTo traced {}

/-- What leaves the second one, which sets a trace. -/
def secondAnswer : Message := answerTo firstAnswer retraced

/-- What leaves the third one, which answers with an empty message again. -/
def thirdAnswer : Message := answerTo secondAnswer {}

/-- The correlation id of a message is there after three hops, and so is the trace that the second of them
set. What the third sends has a topic of its own, and no content type. -/
theorem threeHops_correlated :
    thirdAnswer.value? "correlation_id" = some "c" ∧ thirdAnswer.value? "trace" = some "second" ∧
      thirdAnswer.metadata.get? "routing_key" = some "out" ∧
      thirdAnswer.metadata.get? "content_type" = none := by
  have hfirst : (answeringWith {}).Hop { extra := () } traced {} firstAnswer :=
    ⟨0, by decide +kernel, by decide +kernel⟩
  have hsecond : (answeringWith retraced).Hop { extra := () } firstAnswer retraced secondAnswer :=
    ⟨0, by decide +kernel, by decide +kernel⟩
  have hthird : (answeringWith {}).Hop { extra := () } secondAnswer {} thirdAnswer :=
    ⟨0, by decide +kernel, by decide +kernel⟩
  have htravels : Travels Unit traced [{}, retraced, {}] thirdAnswer :=
    .hop (.hop (.hop (.start traced) _ _ hfirst) _ _ hsecond) _ _ hthird
  have ⟨hvalues, hstations⟩ := values_survive_hops Unit
  have hlast := (hstations (answeringWith {}) secondAnswer { extra := () }).2.2 {} thirdAnswer hthird
  refine ⟨?_, ?_, ?_, ?_⟩
  · exact (hvalues _ _ _ htravels "correlation_id" "c" (by decide)).1 (by decide) (by decide)
  · exact (hvalues _ _ _ htravels "trace" "second" (by decide)).2 [{}] retraced [{}] rfl (by decide)
      (by decide)
  · exact hlast.routingKey.trans rfl
  · exact hlast.others "content_type" (by decide)

end SymbolRelay
