import SymbolRelay.Delivery.Calls
import SymbolRelay.Delivery.Metering
import SymbolRelay.Proofs.Handling.Recorded

/-!
# Calls that are measured

A recorder keeps its measurements in a part of the world that nobody else uses. Whatever it does there,
and whether or not it panics, a measured call is the call itself for everybody else: the same calls reach
the publisher and the subscriber inside, in the same order and with the same arguments, and they are
answered alike.

## Definitions

* `Recorder.beside` is a recorder over a list of measurements, put beside the rest of the world;
* `Subscriber.Mirrors` says that a subscriber among records does what another one does without them;
* `Publisher.spied`, `Subscriber.spied` put every call that reaches them on record.

## Results

* `observe_mirrors` — measuring a call changes nothing about it;
* `Publisher.metered_mirrors`, `Subscriber.metered_mirrors` — nor does it about a publisher or subscriber;
* `makeAll_mirrors` — calls made one after the other are answered alike, measured or not;
* `record_makeAll_spied` — the calls inside are the calls made, each payload as a message.
-/

set_option autoImplicit false

namespace SymbolRelay

open SymbolRelay.Action

variable {ξ κ ε α β : Type}

/-! ## A recorder of its own -/

/-- A recorder that keeps its measurements beside the rest. -/
def Recorder.beside (r : Recorder (List κ)) : Recorder (ξ × List κ) where
  increment metric topic := (r.increment metric topic).within (·.2) fun kept extra => (extra.1, kept)
  sample metric topic := (r.sample metric topic).within (·.2) fun kept extra => (extra.1, kept)

namespace Metering

/-- What a recorder does beside the rest goes unnoticed, even if it panics. -/
theorem bestEffort_mirrors {record : Action (ξ × List κ) Empty Unit}
    (h : ∀ extra, (record extra).2.1 = extra.1) :
    Mirrors (bestEffort record : Action (World (ξ × List κ)) ε Unit) (Pure.pure ()) := by
  intro w
  simp only [bestEffort, World.onExtra_snd, World.bare, h]
  rfl

variable (r : Recorder (List κ)) (names : MetricNames) (topic : String)

theorem recordEnd_mirrors (succeeded : Bool) :
    Mirrors (recordEnd r.beside names topic succeeded : Action (World (ξ × List κ)) ε Unit)
      (Pure.pure ()) := by
  refine bestEffort_mirrors fun extra => ?_
  cases hr : r.increment (if succeeded then names.success else names.errors) topic extra.2 with
  | mk o kept =>
    -- the sample is taken only if the recorder did not panic before
    cases o <;> simp only [Recorder.beside, Action.within, hr, Bind.bind, Action.bind]

/-- **Measuring a call changes nothing about it.** -/
theorem observe_mirrors {call' : Action (World (ξ × List κ)) ε α} {call : Action (World ξ) ε α}
    (h : Mirrors call' call) : Mirrors (observe r.beside names topic call') call := by
  intro w
  let attempted := (World.onExtra (r.beside.increment names.attempts topic) w).2
  have hattempt : (bestEffort (r.beside.increment names.attempts topic) :
      Action (World (ξ × List κ)) ε Unit) w = (.ok (), attempted) := rfl
  -- the call meets the world that it meets when it is not measured
  have hcall : ((call' attempted).1, (call' attempted).2.bare) = call w.bare := h attempted
  rw [observe, bind_ok hattempt, bind_attempt, ← hcall]
  cases (call' attempted).1 with
  | panic p => rfl
  | ok v =>
    exact Mirrors.bind (recordEnd_mirrors r names topic true) (fun _ => ofOutcome_mirrors (.ok v)) _
  | error e =>
    exact Mirrors.bind (recordEnd_mirrors r names topic false) (fun _ => ofOutcome_mirrors (.error e)) _

end Metering

/-! ## Publishers and subscribers among records -/

/-- The broker for worlds with a record, which it knows nothing of. -/
def Broker.unseen (b : Broker ξ) : Broker (ξ × List κ) where
  publish topic m := (b.publish topic m).unseen
  subscribe topic := (b.subscribe topic).unseen
  unsubscribe topic feed := (b.unsubscribe topic feed).unseen
  ack topic messageId := (b.ack topic messageId).unseen
  nack topic messageId reason := (b.nack topic messageId reason).unseen
  close := b.close.unseen

/-- The subscription for worlds with a record. -/
def Subscription.unseen (s : Subscription ξ) : Subscription (ξ × List κ) where
  topic := s.topic
  feed := s.feed
  broker := s.broker.unseen
  ctx := s.ctx
  closed := s.closed

/-- The publisher for worlds with a record. -/
def Publisher.unseen (p : Publisher ξ) : Publisher (ξ × List κ) where
  send ctx topic m := (p.send ctx topic m).unseen

/-- The subscriber for worlds with a record. -/
def Subscriber.unseen (s : Subscriber ξ) : Subscriber (ξ × List κ) where
  subscribe ctx topic := (s.subscribe ctx topic >>= fun opened => Pure.pure opened.unseen).unseen
  close := s.close.unseen

/-- A subscriber that does among records what another one does without them. -/
structure Subscriber.Mirrors (s' : Subscriber (ξ × List κ)) (s : Subscriber ξ) : Prop where
  subscribe : ∀ ctx topic, Action.Mirrors (s'.subscribe ctx topic)
    (s.subscribe ctx topic >>= fun opened => Pure.pure opened.unseen)
  close : Action.Mirrors s'.close s.close

/-- The same subscription is opened, but for the record that its broker knows nothing of. -/
theorem Subscriber.Mirrors.subscribed {s' : Subscriber (ξ × List κ)} {s : Subscriber ξ}
    (h : s'.Mirrors s) (ctx : Context) (topic : String) (w : World (ξ × List κ)) :
    (s'.subscribe ctx topic w).1 = (s.subscribe ctx topic w.bare).1.map Subscription.unseen ∧
      (s'.subscribe ctx topic w).2.bare = (s.subscribe ctx topic w.bare).2 := by
  have hsubscribe := h.subscribe ctx topic w
  rw [bind_pure_apply] at hsubscribe
  exact Prod.mk.inj hsubscribe

theorem Publisher.unseen_mirrors (p : Publisher ξ) :
    (p.unseen : Publisher (ξ × List κ)).Mirrors p := fun _ _ _ => Action.unseen_mirrors _

theorem Subscriber.unseen_mirrors (s : Subscriber ξ) :
    (s.unseen : Subscriber (ξ × List κ)).Mirrors s where
  subscribe _ _ := Action.unseen_mirrors _
  close := Action.unseen_mirrors _

/-- **A measured publisher does what it does without being measured.** -/
theorem Publisher.metered_mirrors (r : Recorder (List κ)) {p' : Publisher (ξ × List κ)}
    {p : Publisher ξ} (h : p'.Mirrors p) : (p'.metered r.beside).Mirrors p :=
  fun ctx topic m => Metering.observe_mirrors r publishMetrics topic (h ctx topic m)

/-- **A measured subscriber does what it does without being measured.** -/
theorem Subscriber.metered_mirrors (r : Recorder (List κ)) {s' : Subscriber (ξ × List κ)}
    {s : Subscriber ξ} (h : s'.Mirrors s) : (s'.metered r.beside).Mirrors s where
  subscribe ctx topic := Metering.observe_mirrors r subscribeMetrics topic (h.subscribe ctx topic)
  close := h.close

/-! ## Calls one after the other -/

/-- The answer in worlds with a record. -/
def DeliveryAnswer.unseen : DeliveryAnswer ξ → DeliveryAnswer (ξ × List κ)
  | .sent topic outcome => .sent topic outcome
  | .opened topic outcome => .opened topic (outcome.map Subscription.unseen)
  | .closed outcome => .closed outcome

namespace DeliveryCall

/-- The call that reaches a publisher or subscriber inside: a payload goes there as a message. -/
def inner : DeliveryCall → DeliveryCall
  | publish ctx topic payload => publishMessage ctx topic { payload }
  | call => call

section Mirroring

variable {p' : Publisher (ξ × List κ)} {p : Publisher ξ} {s' : Subscriber (ξ × List κ)}
  {s : Subscriber ξ}

theorem make_mirrors (hp : p'.Mirrors p) (hs : s'.Mirrors s) (call : DeliveryCall)
    (w : World (ξ × List κ)) :
    (call.make p' s' w).1 = (call.make p s w.bare).1.unseen ∧
      (call.make p' s' w).2.bare = (call.make p s w.bare).2 := by
  cases call with
  | publish ctx topic payload =>
    have hsend := hp ctx topic { payload }
    exact ⟨congrArg (DeliveryAnswer.sent topic) (hsend.outcome w), hsend.world w⟩
  | publishMessage ctx topic m =>
    have hsend := hp ctx topic m
    exact ⟨congrArg (DeliveryAnswer.sent topic) (hsend.outcome w), hsend.world w⟩
  | subscribe ctx topic =>
    obtain ⟨houtcome, hworld⟩ := hs.subscribed ctx topic w
    exact ⟨congrArg (DeliveryAnswer.opened topic) houtcome, hworld⟩
  | close => exact ⟨congrArg DeliveryAnswer.closed (hs.close.outcome w), hs.close.world w⟩

/-- **Calls made one after the other are answered among records as without them.** -/
theorem makeAll_mirrors (hp : p'.Mirrors p) (hs : s'.Mirrors s) (calls : List DeliveryCall)
    (w : World (ξ × List κ)) :
    (makeAll p' s' calls w).1 = (makeAll p s calls w.bare).1.map DeliveryAnswer.unseen ∧
      (makeAll p' s' calls w).2.bare = (makeAll p s calls w.bare).2 := by
  induction calls generalizing w with
  | nil => exact ⟨rfl, rfl⟩
  | cons call rest ih =>
    obtain ⟨hanswer, hworld⟩ := make_mirrors hp hs call w
    obtain ⟨hanswers, hrest⟩ := ih (call.make p' s' w).2
    rw [hworld] at hanswers hrest
    simp only [makeAll, List.map_cons, hanswer, hanswers, hrest]
    exact ⟨trivial, trivial⟩

end Mirroring

end DeliveryCall

/-! ## What reaches the publisher and the subscriber inside -/

/-- The publisher with every call that reaches it on record. -/
def Publisher.spied (p : Publisher ξ) : Publisher (ξ × List DeliveryCall) where
  send ctx topic m := (p.send ctx topic m).recorded fun _ _ => .publishMessage ctx topic m

/-- The subscriber with every call that reaches it on record. -/
def Subscriber.spied (s : Subscriber ξ) : Subscriber (ξ × List DeliveryCall) where
  subscribe ctx topic := (s.subscribe ctx topic >>= fun opened => Pure.pure opened.unseen).recorded
    fun _ _ => .subscribe ctx topic
  close := s.close.recorded fun _ _ => .close

theorem Publisher.spied_mirrors (p : Publisher ξ) : p.spied.Mirrors p :=
  fun _ _ _ => Action.recorded_mirrors _ _

theorem Subscriber.spied_mirrors (s : Subscriber ξ) : s.spied.Mirrors s where
  subscribe _ _ := Action.recorded_mirrors _ _
  close := Action.recorded_mirrors _ _

namespace DeliveryCall

theorem record_make_spied (p : Publisher ξ) (s : Subscriber ξ) (call : DeliveryCall)
    (w : World (ξ × List DeliveryCall)) :
    (call.make p.spied s.spied w).2.record = w.record ++ [call.inner] := by
  cases call <;> rfl

/-- The calls that reach the inside are the calls that are made, in their order. -/
theorem record_makeAll_spied (p : Publisher ξ) (s : Subscriber ξ) (calls : List DeliveryCall)
    (w : World (ξ × List DeliveryCall)) :
    (makeAll p.spied s.spied calls w).2.record = w.record ++ calls.map inner := by
  induction calls generalizing w with
  | nil => exact (List.append_nil _).symm
  | cons call rest ih =>
    simp only [makeAll, ih, record_make_spied, List.map_cons, List.append_assoc, List.singleton_append]

end DeliveryCall

end SymbolRelay
