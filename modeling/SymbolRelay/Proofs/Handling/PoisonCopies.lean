import SymbolRelay.Proofs.Delivery.StampedValues
import SymbolRelay.Proofs.Handling.PanicCount
import SymbolRelay.Standin.NumberedIds
import SymbolRelay.Standin.RetryLoop

/-!
# Copies on the poison topic

A message that is refused in the end is copied to the poison topic before the broker is told. On its way
the copy is marked with the reason and with the topic it was consumed from, over whatever an earlier refusal
left there, and is stamped under a context that was made of the original message. Nothing leaks back from
that context:

| name | value of the copy |
|------|-------------------|
| `poison_reason` | the text with which the message is nacked |
| `poisoned_topic` | the topic it was consumed from |
| `message_id` | as it was; if absent, the uuid of the copy |
| `correlation_id` | as it was; if absent, a fresh id |
| `routing_key` | as it was; if absent, the poison topic |
| anything else | as it was |

What the publisher's broker is given is put on record, whoever handles the message and whatever is around
the handler.

## Results

* `faithfulCopy_stamp` — what a copy is when it leaves;
* `handle_overheard` — only what the handler produced is published before there is a verdict;
* `poison_copies_faithful` — one copy for each message that is refused, none for one that is not.
-/

set_option autoImplicit false

namespace SymbolRelay

variable {ξ : Type}

/-! ## The copy -/

/-- The copy that is published of a message of `topic`: the payload and every value are as they were, but
for the two marks, and three values that are filled in if they were absent. -/
structure FaithfulCopy [IdSource] (m : Message) (topic reason poisonTopic : String) (ids : Ids)
    (out : Message) :
    Prop where
  payload : out.payload = m.payload
  uuid : m.uuid ≠ "" → out.uuid = m.uuid
  named : out.uuid ≠ ""
  reason : out.metadata.get? Header.poisonReason = some reason
  origin : out.metadata.get? Header.poisonedTopic = some topic
  kept : ∀ key, key ≠ Header.poisonReason → key ≠ Header.poisonedTopic → m.value? key ≠ none →
    out.metadata.get? key = m.metadata.get? key
  untouched : ∀ key, key ∉ [Header.poisonReason, Header.poisonedTopic, Header.messageId,
    Header.correlationId, Header.routingKey] → out.metadata.get? key = m.metadata.get? key
  identified : m.value? Header.messageId = none → out.metadata.get? Header.messageId = some out.uuid
  correlated : m.value? Header.correlationId = none →
    ∃ id, ids.Unmade id ∧ out.metadata.get? Header.correlationId = some id
  routed : m.value? Header.routingKey = none → out.metadata.get? Header.routingKey = some poisonTopic

theorem unmade_identify [IdSource] (m : Message) (ids : Ids) :
    ids.Unmade (IdSource.text (identify m ids).2.used) := by
  refine ⟨_, ?_, rfl⟩
  rw [identify]
  split
  · exact Nat.le_succ _
  · exact Nat.le_refl _

section Marks

variable (m : Message) (topic : String) (e : HandlerError)

theorem get?_poisonCopy_reason :
    (Router.poisonCopy m topic e).metadata.get? Header.poisonReason = some e.message := by
  rw [Router.poisonCopy, Message.get?_setValue_of_ne _ _ (by decide)]
  exact Table.get?_insert_self _ _ _

theorem get?_poisonCopy_origin :
    (Router.poisonCopy m topic e).metadata.get? Header.poisonedTopic = some topic :=
  Table.get?_insert_self _ _ _

theorem get?_poisonCopy_of_ne {key : String} (hreason : key ≠ Header.poisonReason)
    (horigin : key ≠ Header.poisonedTopic) :
    (Router.poisonCopy m topic e).metadata.get? key = m.metadata.get? key := by
  rw [Router.poisonCopy, Message.get?_setValue_of_ne _ _ horigin, Message.get?_setValue_of_ne _ _ hreason]

/-- **What a copy is when it leaves**, under a context that was made of the message. -/
theorem faithfulCopy_stamp [IdSource] {ctx : Context} (hctx : ctx.values = m.metadata) (poisonTopic : String)
    (ids : Ids) :
    FaithfulCopy m topic e.message poisonTopic ids
      (stamp ctx poisonTopic (Router.poisonCopy m topic e) ids).1 := by
  have hfilled := filled_stamp ctx poisonTopic (Router.poisonCopy m topic e) ids
  have hsame : ∀ {key : String}, key ≠ Header.poisonReason → key ≠ Header.poisonedTopic →
      (Router.poisonCopy m topic e).value? key = m.value? key := fun hreason horigin =>
    Message.value?_congr (get?_poisonCopy_of_ne m topic e hreason horigin)
  have hvalue : ∀ key, ctx.value? key = m.value? key := fun key => by
    rw [Context.value?, hctx, Message.value?]
  refine ⟨stamp_payload .., fun h => stamp_uuid _ _ _ _ h, stamp_uuid_ne_empty _ _ _ _, ?_, ?_, ?_, ?_, ?_, ?_, ?_⟩
  · rw [get?_stamp_of_scoped _ _ _ _ (by decide) (by decide) (by decide), get?_poisonCopy_reason]
  · rw [get?_stamp_of_scoped _ _ _ _ (by decide) (by decide) (by decide), get?_poisonCopy_origin]
  · intro key hreason horigin hkey
    rw [hfilled.kept key (by rwa [hsame hreason horigin]), get?_poisonCopy_of_ne m topic e hreason horigin]
  · intro key hkey
    simp only [List.mem_cons, List.not_mem_nil, or_false, not_or] at hkey
    obtain ⟨hreason, horigin, hid, hcorrelation, hroute⟩ := hkey
    rw [← get?_poisonCopy_of_ne m topic e hreason horigin]
    by_cases hnone : (Router.poisonCopy m topic e).value? key = none
    · -- The context knows of nothing that the message lacks.
      have hoffer : stampOffer ctx poisonTopic
          (stamp ctx poisonTopic (Router.poisonCopy m topic e) ids).1.uuid
          (IdSource.text (identify (Router.poisonCopy m topic e) ids).2.used) key = none := by
        rw [stampOffer, if_neg hid, if_neg hroute, if_neg hcorrelation, hvalue, ← hsame hreason horigin, hnone,
          ite_self]
      rw [hfilled.offered key hnone, hoffer, Option.none_or]
    · exact hfilled.kept key hnone
  · intro hnone
    rw [get?_stamp_messageId, if_pos ((hsame (by decide) (by decide)).trans hnone)]
  · intro hnone
    refine ⟨_, unmade_identify (Router.poisonCopy m topic e) ids, ?_⟩
    rw [hfilled.offered _ ((hsame (by decide) (by decide)).trans hnone), stampOffer, if_neg (by decide),
      if_neg (by decide), if_pos rfl, hvalue, hnone]
    rfl
  · intro hnone
    rw [get?_stamp_routingKey, if_pos ((hsame (by decide) (by decide)).trans hnone)]

end Marks

/-! ## What the broker is given -/

/-- The broker with what it is given to publish on record, and what it is told of messages. -/
def Broker.overheard (b : Broker ξ) : Broker (ξ × List DeliveryEvent) :=
  { b.recorded with
    publish := fun topic m =>
      (b.publish topic m).recorded fun _ o => .sent topic m (o.mapError (.broker topic m.uuid)) }

theorem Publisher.overheard_mirrors [IdSource] (b : Broker ξ) :
    (Publisher.ofBroker b.overheard).Mirrors (Publisher.ofBroker b) := by
  intro ctx topic m
  refine Action.Mirrors.bind (fun _ => rfl) fun stamped => ?_
  have hpublish : Action.Mirrors (b.overheard.publish topic stamped) (b.publish topic stamped) :=
    Action.recorded_mirrors _ _
  exact hpublish.mapError _

/-- A publisher gives its broker the stamped message, and ends as that one does. -/
theorem Publisher.send_overheard [IdSource] (b : Broker ξ) (ctx : Context) (topic : String) (m : Message)
    (w : World (ξ × List DeliveryEvent)) :
    ((Publisher.ofBroker b.overheard).send ctx topic m w).2.record = w.record ++
      [.sent topic (stamp ctx topic m w.ids).1 ((Publisher.ofBroker b.overheard).send ctx topic m w).1] :=
  rfl

/-- The route with its broker on record. Its handler, with all that is around it, knows nothing of that. -/
def Route.overheard (route : Route ξ) : Route (ξ × List DeliveryEvent) where
  subscription := route.subscription.recorded
  outputTopic := route.outputTopic
  handler := fun m => (route.handler m).unseen

/-- The router that publishes over a broker whose part is on record. -/
def Router.overheard [IdSource] (r : Router ξ) (b : Broker ξ) : Router (ξ × List DeliveryEvent) where
  subscriber := r.subscriber.recorded
  publisher := some (.ofBroker b.overheard)
  config := r.config

/-- A message that a handler produced was published, stamped, on a topic. -/
def PublishedFrom [IdSource] (topic : String) (produced : List Message) (event : DeliveryEvent) : Prop :=
  ∃ out ctx ids o, out ∈ produced ∧ event = .sent topic (stamp ctx topic out ids).1 o

theorem publishAll_overheard [IdSource] (b : Broker ξ) (ctx : Context) (topic : String) (outs : List Message)
    (w : World (ξ × List DeliveryEvent)) :
    ∃ products, (∀ event ∈ products, PublishedFrom topic outs event) ∧
      (Router.publishAll (.ofBroker b.overheard) ctx topic outs w).2.record = w.record ++ products := by
  induction outs generalizing w with
  | nil => exact ⟨[], nofun, (List.append_nil _).symm⟩
  | cons out rest ih =>
    have hsent := Publisher.send_overheard b ctx topic out w
    cases hsend : (Publisher.ofBroker b.overheard).send ctx topic out w with
    | mk o w' =>
      rw [hsend] at hsent
      have hmapped : ((Publisher.ofBroker b.overheard).send ctx topic out).mapError HandlerError.publish w =
          (o.mapError .publish, w') := by
        simp only [Action.mapError, hsend]
      have hfirst : PublishedFrom topic (out :: rest) (.sent topic (stamp ctx topic out w.ids).1 o) :=
        ⟨out, ctx, w.ids, o, List.mem_cons_self, rfl⟩
      have hone : ∀ event ∈ [DeliveryEvent.sent topic (stamp ctx topic out w.ids).1 o],
          PublishedFrom topic (out :: rest) event := fun event hevent =>
        List.mem_singleton.mp hevent ▸ hfirst
      simp only [Router.publishAll]
      cases o with
      | error e => exact ⟨_, hone, by rw [Action.bind_error hmapped]; exact hsent⟩
      | panic p => exact ⟨_, hone, by rw [Action.bind_panic hmapped]; exact hsent⟩
      | ok v =>
        obtain ⟨products, hproducts, hrest⟩ := ih w'
        refine ⟨_ :: products, ?_, by rw [Action.bind_ok hmapped, hrest, hsent, List.append_assoc]; rfl⟩
        intro event hevent
        rcases List.mem_cons.mp hevent with rfl | hevent
        · exact hfirst
        · obtain ⟨other, ctx, ids, o, hother, rfl⟩ := hproducts event hevent
          exact ⟨other, ctx, ids, o, List.mem_cons_of_mem _ hother, rfl⟩

/-! ## Up to the verdict -/

/-- What was published before there is a verdict on a message: what its handler produced, on the output
topic. -/
def FromHandler [IdSource] (route : Route ξ) (m : Message) (w : World ξ) (event : DeliveryEvent) : Prop :=
  ∃ produced topic, (route.handler m w).1 = .ok produced ∧ route.outputTopic = some topic ∧
    PublishedFrom topic produced event

section Verdict

variable (r : Router ξ) (b : Broker ξ) (route : Route ξ) (m : Message)
  (w : World (ξ × List DeliveryEvent))

theorem forward_overheard [IdSource] (produced : List Message) :
    ∃ products, (∀ event ∈ products, ∃ topic, route.outputTopic = some topic ∧
        PublishedFrom topic produced event) ∧
      ((r.overheard b).forward m route.outputTopic produced w).2.record = w.record ++ products := by
  cases hproduced : produced with
  | nil => exact ⟨[], nofun, (List.append_nil _).symm⟩
  | cons out rest =>
    cases htarget : route.outputTopic with
    | none => exact ⟨[], nofun, (List.append_nil _).symm⟩
    | some topic =>
      obtain ⟨products, hproducts, hrecord⟩ := publishAll_overheard b (Context.ofMessage m w.scopes).1 topic
        (out :: rest) { w with scopes := (Context.ofMessage m w.scopes).2 }
      exact ⟨products, fun event hevent => ⟨topic, rfl, hproducts event hevent⟩, hrecord⟩

/-- **Before there is a verdict** only what the handler produced is published. -/
theorem handle_overheard [IdSource] :
    ∃ products, (∀ event ∈ products, FromHandler route m w.bare event) ∧
      ((r.overheard b).handle route.overheard m w).2.record = w.record ++ products := by
  have hhandler : route.overheard.handler m w = ((route.handler m w.bare).1,
      (route.handler m w.bare).2.withRecord w.record) := rfl
  have hwhole : ∃ products, (∀ event ∈ products, FromHandler route m w.bare event) ∧
      ((route.overheard.handler m >>= (r.overheard b).forward m route.overheard.outputTopic :
        Action (World (ξ × List DeliveryEvent)) HandlerError Unit) w).2.record = w.record ++ products := by
    cases hcalled : route.handler m w.bare with
    | mk o w' =>
      rw [hcalled] at hhandler
      cases o with
      | error e => exact ⟨[], nofun, by rw [Action.bind_error hhandler, List.append_nil]; rfl⟩
      | panic p => exact ⟨[], nofun, by rw [Action.bind_panic hhandler, List.append_nil]; rfl⟩
      | ok produced =>
        obtain ⟨products, hproducts, hrecord⟩ :=
          forward_overheard r b route m (w'.withRecord w.record) produced
        refine ⟨products, fun event hevent => ?_, by rw [Action.bind_ok hhandler]; exact hrecord⟩
        obtain ⟨topic, htarget, hfrom⟩ := hproducts event hevent
        exact ⟨produced, topic, by rw [hcalled], htarget, hfrom⟩
  obtain ⟨products, hproducts, hrecord⟩ := hwhole
  refine ⟨products, hproducts, ?_⟩
  simp only [Router.handle, Action.bind_attempt]
  rw [← hrecord]
  cases ((route.overheard.handler m >>= (r.overheard b).forward m route.overheard.outputTopic :
    Action (World (ξ × List DeliveryEvent)) HandlerError Unit) w).1 <;> rfl

variable {r} {b}

theorem publisher_overheard [IdSource] (hr : r.publisher = some (.ofBroker b)) :
    Option.Rel Publisher.Mirrors (r.overheard b).publisher r.publisher :=
  hr ▸ .some (Publisher.overheard_mirrors b)

theorem handle_overheard_mirrors [IdSource] (hr : r.publisher = some (.ofBroker b)) :
    Action.Mirrors ((r.overheard b).handle route.overheard m) (r.handle route m) :=
  Router.handle_mirrors (publisher_overheard hr) rfl (Action.unseen_mirrors _)

/-- What is on record changes nothing of what is left of the world. -/
theorem processSafely_overheard [IdSource] (hr : r.publisher = some (.ofBroker b)) :
    ((r.overheard b).processSafely route.overheard m w).bare = r.processSafely route m w.bare := by
  refine Router.processSafely_mirrors ?_ w
  rw [Router.process_eq, Router.process_eq]
  exact (Router.judge_mirrors (publisher_overheard hr) rfl rfl (handle_overheard_mirrors route m hr)).bind
    fun verdict => Router.conclude_mirrors rfl m verdict

/-- The copy of a refused message is one more entry on record, however the broker takes it. -/
theorem poison_overheard [IdSource] {poisonTopic : String} (hpoison : r.config.poisonTopic = some poisonTopic)
    (topic : String) (e : HandlerError) :
    ∃ out o, FaithfulCopy m topic e.message poisonTopic w.ids out ∧
      ((r.overheard b).poison topic m e w).2.record = w.record ++ [.sent poisonTopic out o] := by
  have hto := Router.poison_to (r := r.overheard b) hpoison rfl topic m e w
  have hctx : (Context.ofMessage m w.scopes).1.values = m.metadata := rfl
  have hsent := Publisher.send_overheard b (Context.ofMessage m w.scopes).1 poisonTopic
    (Router.poisonCopy m topic e) { w with scopes := (Context.ofMessage m w.scopes).2 }
  exact ⟨_, _, faithfulCopy_stamp m topic e hctx poisonTopic w.ids, by rw [hto]; exact hsent⟩

end Verdict

/-! ## The whole of it -/

/-- Whether something was published on a topic. -/
def DeliveryEvent.isSentTo (topic : String) : DeliveryEvent → Bool
  | .sent target _ _ => target == topic
  | _ => false

/-- What is on record of a message, with the verdict on it: what its handler produced, then the copy if the
message is refused, and then what the broker of its subscription was told. -/
inductive CopiedIfRefused [IdSource] (topic : String) (m : Message) (poisonTopic : String)
    (products : List DeliveryEvent) : Outcome HandlerError Unit → List DeliveryEvent → Prop
  | accepted : CopiedIfRefused topic m poisonTopic products (.ok ()) (products ++ [.acked topic m.uuid])
  | refused {e : HandlerError} {ids : Ids} {out : Message} (o : Outcome PublishError Unit)
      (faithful : FaithfulCopy m topic e.message poisonTopic ids out) :
      CopiedIfRefused topic m poisonTopic products (.error e)
        (products ++ [.sent poisonTopic out o, .nacked topic m.uuid e.message])

/-- Apart from what the handler produced, one message is published on the poison topic if the message is
refused, and none if it is not. -/
theorem CopiedIfRefused.countP [IdSource] {topic : String} {m : Message} {poisonTopic : String}
    {products events : List DeliveryEvent} {verdict : Outcome HandlerError Unit}
    (h : CopiedIfRefused topic m poisonTopic products verdict events) :
    events.countP (DeliveryEvent.isSentTo poisonTopic) =
      products.countP (DeliveryEvent.isSentTo poisonTopic) + if verdict = .ok () then 0 else 1 := by
  cases h <;> simp [List.countP_append, DeliveryEvent.isSentTo]

/-- **Copies on the poison topic are faithful.** Whatever the message says, whatever handles it and whatever
is around that: if it is refused in the end, one copy of it is published before it is nacked, with the same
payload, the same uuid if it has one, and the same values but for the two marks and for what is filled in;
the broker may take it, refuse it or panic, and the message is nacked all the same. Of a message that is not
refused no copy is published. -/
theorem poison_copies_faithful [IdSource] {r : Router ξ} {b : Broker ξ}
    (hr : r.publisher = some (.ofBroker b)) {poisonTopic : String}
    (hpoison : r.config.poisonTopic = some poisonTopic) (route : Route ξ) (m : Message) (w : World ξ) :
    let heard := (r.overheard b).processSafely route.overheard m w.observed
    heard.bare = r.processSafely route m w ∧
    ∃ products, (∀ event ∈ products, FromHandler route m w event) ∧
      CopiedIfRefused route.subscription.topic m poisonTopic products (r.handle route m w).1 heard.record ∧
      (route.outputTopic ≠ some poisonTopic →
        heard.record.countP (DeliveryEvent.isSentTo poisonTopic) =
          if (r.handle route m w).1 = .ok () then 0 else 1) := by
  intro heard
  obtain ⟨products, hproducts, hrecord⟩ := handle_overheard r b route m w.observed
  have hverdict : ((r.overheard b).handle route.overheard m w.observed).1 = (r.handle route m w).1 :=
    congrArg Prod.fst (handle_overheard_mirrors route m hr w.observed)
  have hcopied : CopiedIfRefused route.subscription.topic m poisonTopic products (r.handle route m w).1
      heard.record := by
    rcases (r.overheard b).judge_cases route.overheard m w.observed with
      ⟨w', hhandle, hjudge⟩ | ⟨e, w', w'', hhandle, hcopy, hjudge⟩
    · rw [hhandle] at hverdict hrecord
      have htold := processSafely_told (s := route.subscription) rfl hjudge
      rw [show w'.record = products from hrecord] at htold
      rw [← hverdict, show heard.record = _ from htold]
      exact .accepted
    · rw [hhandle] at hverdict hrecord
      obtain ⟨out, o, hfaithful, hsent⟩ :=
        poison_overheard (b := b) m w' hpoison route.subscription.topic e
      rw [show (r.overheard b).poison route.subscription.topic m e w' = _ from hcopy,
        show w'.record = products from hrecord] at hsent
      have htold := processSafely_told (s := route.subscription) rfl hjudge
      rw [show w''.record = _ from hsent, List.append_assoc] at htold
      rw [← hverdict, show heard.record = _ from htold]
      exact .refused o hfaithful
  refine ⟨processSafely_overheard route m w.observed hr, products, hproducts, hcopied, fun hapart => ?_⟩
  have hnone : products.countP (DeliveryEvent.isSentTo poisonTopic) = 0 := by
    rw [List.countP_eq_zero]
    intro event hevent
    obtain ⟨_, topic, _, htarget, _, _, _, _, _, rfl⟩ := hproducts event hevent
    have hne : topic ≠ poisonTopic := fun h => hapart (htarget.trans (congrArg some h))
    simp [DeliveryEvent.isSentTo, hne]
  rw [hcopied.countP, hnone, Nat.zero_add]

/-! ## A message that was refused before -/

/-- A router over the queue that copies what it refuses. -/
def copyingRouter : Router Nat where
  subscriber := .ofBroker .ofQueue
  publisher := some (.ofBroker .ofQueue)
  config := { maxRetries := 0, poisonTopic := some "poison" }

/-- Its only handler wants no messages. -/
def copyingRoute : Route Nat := copyingRouter.routeTo arrivals (some "out") unwilling

/-- A message with the marks of an earlier refusal, and with values that are empty. -/
def refusedBefore : Message where
  uuid := "m"
  payload := [7]
  metadata := Table.ofList [(Header.poisonReason, "handler panicked: long ago"),
    (Header.poisonedTopic, "elsewhere"), (Header.messageId, ""), (Header.routingKey, "symbol.created"),
    ("tenant", "t"), ("note", "")]

/-- Its new marks replace the old ones; it gets an id and a conversation; and nothing else is changed. -/
theorem refusedBefore_copied :
    let heard := (copyingRouter.overheard .ofQueue).processSafely copyingRoute.overheard refusedBefore
      (World.observed { extra := 0 })
    copyingRouter.publisher = some (.ofBroker .ofQueue) ∧
      copyingRouter.config.poisonTopic = some "poison" ∧
      (∃ products, CopiedIfRefused "in" refusedBefore "poison" products
        (.error (.rejected "no")) heard.record) ∧
      heard.record.countP (DeliveryEvent.isSentTo "poison") = 1 ∧
      heard.record = [.sent "poison" { refusedBefore with
          metadata := Table.ofList [(Header.poisonReason, "message rejected: no"),
            (Header.poisonedTopic, "in"), (Header.messageId, "m"), (Header.routingKey, "symbol.created"),
            (Header.correlationId, IdSource.text 0), ("tenant", "t"), ("note", "")] } (.ok ()),
        .nacked "in" "m" "message rejected: no"] := by
  intro heard
  have hverdict : (copyingRouter.handle copyingRoute refusedBefore { extra := 0 }).1 =
      .error (.rejected "no") := by decide +kernel
  obtain ⟨-, products, -, hcopied, hcount⟩ :=
    poison_copies_faithful (r := copyingRouter) rfl rfl copyingRoute refusedBefore { extra := 0 }
  rw [hverdict] at hcopied hcount
  exact ⟨rfl, rfl, ⟨products, hcopied⟩, hcount (by decide), by decide +kernel⟩

/-- A broker that takes nothing any more gets the same copy, and the message is nacked all the same. -/
example :
    ((copyingRouter.overheard .ofQueue).processSafely copyingRoute.overheard arrival
      (World.observed { queue := Queue.close {}, extra := 0 })).record =
      [.sent "poison" (stamp { scope := 0 } "poison" (Router.poisonCopy arrival "in" (.rejected "no")) {}).1
          (.error (.broker "poison" "m" .closed)),
        .nacked "in" "m" "message rejected: no"] := by decide +kernel

end SymbolRelay
