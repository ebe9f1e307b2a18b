import SymbolRelay.Handling.Dispatch
import SymbolRelay.Proofs.Actions

/-!
# What handling a message may do

A router cannot know what handlers, middleware and publishers do to the world. What it does around them
itself adds little: it counts panics, tells of attempts that are made again, and opens scopes. So a
relation between the world before and the world after that they all keep, and that does not see these
additions, is kept by the handling of a message.

To process a message is to judge it first, which is where handlers have their say, and then to settle it
as it was judged.

## Results

* `chain_keeps`, `judge_keeps` — what handlers, middleware and the publisher keep is kept by all that
  comes before a message is settled;
* `process_eq` — processing is judging and then settling;
* `judge_returns` — judging always comes to a verdict;
* `conclude_ofQueue` — over the queue a message is acked once or nacked once.
-/

set_option autoImplicit false

namespace SymbolRelay

variable {ξ ε δ α β : Type}

/-! ## Relations between worlds -/

/-- Nothing changed that others go by. -/
structure World.Aside (w w' : World ξ) : Prop where
  queue : w'.queue = w.queue
  control : w'.control = w.control
  cancelled : w'.scopes.cancelled = w.scopes.cancelled
  handled : w'.stats.handled = w.stats.handled
  failed : w'.stats.failed = w.stats.failed

/-- A relation between a world and a later one that holds while nothing changes that others go by, and
from one change to the next. -/
structure World.Tolerant (R : World ξ → World ξ → Prop) : Prop where
  aside : ∀ {w w' : World ξ}, w.Aside w' → R w w'
  trans : ∀ {w w' w'' : World ξ}, R w w' → R w' w'' → R w w''

namespace World

variable {R : World ξ → World ξ → Prop}

theorem Aside.refl (w : World ξ) : w.Aside w := ⟨rfl, rfl, rfl, rfl, rfl⟩

theorem Tolerant.refl (hR : Tolerant R) (w : World ξ) : R w w := hR.aside (.refl w)

theorem aside_countPanic (w : World ξ) : w.Aside w.countPanic := ⟨rfl, rfl, rfl, rfl, rfl⟩

end World

/-! ## Actions -/

/-- An action that keeps a relation, however it ends. -/
def Action.Keeps (R : World ξ → World ξ → Prop) (a : Action (World ξ) ε α) : Prop :=
  ∀ w : World ξ, R w (a w).2

namespace Action.Keeps

variable {R : World ξ → World ξ → Prop} {a : Action (World ξ) ε α}

theorem ofOutcome (hR : World.Tolerant R) (o : Outcome ε α) :
    (Action.ofOutcome o : Action (World ξ) ε α).Keeps R := hR.refl

theorem pure (hR : World.Tolerant R) (v : α) : (Pure.pure v : Action (World ξ) ε α).Keeps R := hR.refl

theorem fail (hR : World.Tolerant R) (e : ε) : (Action.fail e : Action (World ξ) ε α).Keeps R := hR.refl

theorem raise (hR : World.Tolerant R) (p : Panic) :
    (Action.raise p : Action (World ξ) ε α).Keeps R := hR.refl

theorem modify {f : World ξ → World ξ} (h : ∀ w : World ξ, R w (f w)) :
    (Action.modify f : Action (World ξ) ε Unit).Keeps R := h

theorem bind (hR : World.Tolerant R) (h : a.Keeps R) {f : α → Action (World ξ) ε β}
    (hf : ∀ v, (f v).Keeps R) : (a >>= f).Keeps R := by
  intro w
  have ha := h w
  cases hr : a w with
  | mk o w' =>
    rw [hr] at ha
    cases o with
    | ok v =>
      rw [bind_ok hr]
      exact hR.trans ha (hf v w')
    | error e =>
      rw [bind_error hr]
      exact ha
    | panic p =>
      rw [bind_panic hr]
      exact ha

theorem attempt (h : a.Keeps R) : (Action.attempt a : Action (World ξ) δ (Outcome ε α)).Keeps R := h

theorem mapError (h : a.Keeps R) (f : ε → δ) : (a.mapError f).Keeps R := h

/-- Counting a panic and then failing. -/
theorem failAfterPanic (hR : World.Tolerant R) (e : ε) :
    (Action.modify World.countPanic >>= fun _ => Action.fail e : Action (World ξ) ε α).Keeps R :=
  (modify fun w => hR.aside w.aside_countPanic).bind hR fun _ => fail hR e

/-- Opening a scope for the context of a message. -/
theorem onMessageScope (hR : World.Tolerant R) (m : Message) :
    (World.onScopes (Context.ofMessage m) : Action (World ξ) ε Context).Keeps R :=
  fun _ => hR.aside ⟨rfl, rfl, rfl, rfl, rfl⟩

end Action.Keeps

/-! ## Handlers -/

namespace Handler

variable {R : World ξ → World ξ → Prop} {next : Handler ξ}

/-- A handler that keeps a relation, whatever the message. -/
def Keeps (R : World ξ → World ξ → Prop) (next : Handler ξ) : Prop := ∀ m, (next m).Keeps R

theorem Keeps.correlating (hR : World.Tolerant R) (h : next.Keeps R) : (correlating next).Keeps R :=
  fun m => (h m).bind hR fun _ => .pure hR _

theorem Keeps.recovering (hR : World.Tolerant R) (h : next.Keeps R) (counting : Bool) :
    (recovering counting next).Keeps R := by
  intro m
  refine (h m).attempt.bind hR fun o => ?_
  cases o with
  | ok produced => exact .ofOutcome hR _
  | error e => exact .ofOutcome hR _
  | panic p =>
    cases counting with
    | true => exact .failAfterPanic hR _
    | false => exact Action.Keeps.fail hR _

/-- Every attempt keeps what the handler keeps. -/
theorem Keeps.attempts [RetryLoop] (hR : World.Tolerant R) (h : next.Keeps R) (b : Backoff) (m : Message)
    (left made : Nat) : (Handler.attempts b next m left made).Keeps R := by
  induction left generalizing made with
  | zero =>
    rw [attempts_zero]
    exact h m
  | succ left ih =>
    rw [attempts_succ]
    refine (h m).attempt.bind hR fun o => ?_
    cases o with
    | ok produced => exact .pure hR _
    | panic p => exact .raise hR p
    | error e =>
      cases hr : e.isRetryable with
      | false =>
        simp only [hr]
        exact .fail hR e
      | true =>
        simp only [hr]
        refine (Action.Keeps.modify fun w => ?_).bind hR fun _ => ih (made + 1)
        exact hR.aside ⟨rfl, rfl, rfl, rfl, rfl⟩

theorem Keeps.retrying [RetryLoop] (hR : World.Tolerant R) (h : next.Keeps R) (b : Backoff) :
    (retrying b next).Keeps R := fun m => h.attempts hR b m b.maxRetries 0

end Handler

/-- A middleware that keeps a relation which the handler inside it keeps. -/
def Middleware.Keeps (R : World ξ → World ξ → Prop) (middleware : Middleware ξ) : Prop :=
  ∀ next : Handler ξ, next.Keeps R → (middleware next).Keeps R

/-- A publisher that keeps a relation. -/
def Publisher.Keeps (R : World ξ → World ξ → Prop) (p : Publisher ξ) : Prop :=
  ∀ ctx topic m, (p.send ctx topic m).Keeps R

/-- A router whose handlers, middleware and publisher keep a relation. -/
structure Router.Keeps (R : World ξ → World ξ → Prop) (r : Router ξ) : Prop where
  handlers : ∀ registration ∈ r.registrations, registration.handler.Keeps R
  middleware : ∀ middleware ∈ r.middleware, middleware.Keeps R
  publisher : ∀ p, r.publisher = some p → p.Keeps R

namespace Router

variable {R : World ξ → World ξ → Prop} {r : Router ξ} {handler : Handler ξ} {route : Route ξ}

/-- What the router puts around a handler keeps what the handler keeps. -/
theorem chain_keeps [RetryLoop] (hR : World.Tolerant R) (hm : ∀ middleware ∈ r.middleware, middleware.Keeps R)
    (h : handler.Keeps R) : (r.chain handler).Keeps R := by
  have hinner := ((h.recovering hR true).retrying hR r.config.backoff).correlating hR
  unfold chain
  generalize r.middleware = around at hm
  induction around with
  | nil => exact hinner
  | cons middleware rest ih =>
    have hrest := ih fun other ho => hm other (List.mem_cons_of_mem _ ho)
    exact hm middleware List.mem_cons_self _ hrest

theorem publishAll_keeps (hR : World.Tolerant R) {p : Publisher ξ} (hp : p.Keeps R) (ctx : Context)
    (topic : String) (ms : List Message) : (publishAll p ctx topic ms).Keeps R := by
  induction ms with
  | nil => exact .pure hR ()
  | cons m rest ih => exact ((hp ctx topic m).mapError _).bind hR fun _ => ih

theorem forward_keeps (hR : World.Tolerant R) (hp : ∀ p, r.publisher = some p → p.Keeps R)
    (inbound : Message) (outputTopic : Option String) (produced : List Message) :
    (r.forward inbound outputTopic produced).Keeps R := by
  unfold forward
  cases produced with
  | nil => exact .pure hR ()
  | cons m rest =>
    cases outputTopic with
    | none => exact .pure hR ()
    | some topic =>
      cases hr : r.publisher with
      | none => exact .pure hR ()
      | some p =>
        exact (Action.Keeps.onMessageScope hR inbound).bind hR fun ctx =>
          publishAll_keeps hR (hp p hr) ctx topic _

theorem poison_keeps (hR : World.Tolerant R) (hp : ∀ p, r.publisher = some p → p.Keeps R)
    (topic : String) (m : Message) (e : HandlerError) : (r.poison topic m e).Keeps R := by
  unfold poison
  cases r.config.poisonTopic with
  | none => exact .pure hR ()
  | some poisonTopic =>
    cases hr : r.publisher with
    | none => exact .pure hR ()
    | some p =>
      refine (Action.Keeps.onMessageScope hR m).bind hR fun ctx => ?_
      exact (hp p hr ctx poisonTopic _).attempt.bind hR fun _ => .pure hR ()

theorem handle_keeps (hR : World.Tolerant R) (hp : ∀ p, r.publisher = some p → p.Keeps R)
    (hr : route.handler.Keeps R) (m : Message) : (r.handle route m).Keeps R := by
  have hwhole := (hr m).bind hR fun produced => forward_keeps hR hp m route.outputTopic produced
  refine hwhole.attempt.bind hR fun o => ?_
  cases o with
  | ok v => exact .ofOutcome hR _
  | error e => exact .ofOutcome hR _
  | panic p => exact .failAfterPanic hR _

/-- Handling ends with a value or an error. -/
theorem handle_ne_panic (route : Route ξ) (m : Message) (w : World ξ) (p : Panic) :
    (r.handle route m w).1 ≠ .panic p := by
  simp only [handle, Action.bind_attempt]
  cases (((route.handler m >>= fun produced => r.forward m route.outputTopic produced) :
    Action (World ξ) HandlerError Unit) w).1 with
  | ok v => exact nofun
  | error e => exact nofun
  | panic q => exact nofun

/-- However the copy for the poison topic fares, the router goes on. -/
theorem poison_ok (topic : String) (m : Message) (e : HandlerError) (w : World ξ) :
    (r.poison topic m e w).1 = .ok () := by
  unfold poison
  cases r.config.poisonTopic with
  | none => rfl
  | some poisonTopic =>
    cases r.publisher with
    | none => rfl
    | some p => rfl

/-- The copy of a refused message goes to the poison topic. -/
theorem poison_to {p : Publisher ξ} {poisonTopic : String} (hconfig : r.config.poisonTopic = some poisonTopic)
    (hr : r.publisher = some p) (topic : String) (m : Message) (e : HandlerError) (w : World ξ) :
    r.poison topic m e w = (.ok (), (p.send (Context.ofMessage m w.scopes).1 poisonTopic
      (poisonCopy m topic e) { w with scopes := (Context.ofMessage m w.scopes).2 }).2) := by
  unfold poison
  rw [hconfig, hr]
  rfl

/-! ## Judging and settling -/

/-- How a message is judged: its handler did well, or it is refused and copied to the poison topic. -/
theorem judge_cases (r : Router ξ) (route : Route ξ) (m : Message) (w : World ξ) :
    (∃ w', r.handle route m w = (.ok (), w') ∧ r.judge route m w = (.ok none, w')) ∨
      ∃ e w' w'', r.handle route m w = (.error e, w') ∧
        r.poison route.subscription.topic m e w' = (.ok (), w'') ∧
        r.judge route m w = (.ok (some e), w'') := by
  have hpanic := handle_ne_panic (r := r) route m w
  simp only [judge, Action.bind_attempt]
  cases hresult : r.handle route m w with
  | mk o w' =>
    rw [hresult] at hpanic
    cases o with
    | ok v => exact .inl ⟨w', rfl, rfl⟩
    | panic p => exact absurd rfl (hpanic p)
    | error e =>
      have hcopied := poison_ok (r := r) route.subscription.topic m e w'
      cases hcopy : r.poison route.subscription.topic m e w' with
      | mk o w'' =>
        rw [hcopy] at hcopied
        simp only at hcopied
        rw [hcopied] at hcopy
        exact .inr ⟨e, w', w'', rfl, hcopy, Action.bind_ok hcopy⟩

/-- Whatever a handler does, there is a verdict. -/
theorem judge_returns (r : Router ξ) (route : Route ξ) (m : Message) (w : World ξ) :
    ∃ verdict w', r.judge route m w = (.ok verdict, w') := by
  rcases r.judge_cases route m w with ⟨w', _, hjudge⟩ | ⟨e, _, w', _, _, hjudge⟩
  · exact ⟨none, w', hjudge⟩
  · exact ⟨some e, w', hjudge⟩

/-- **Processing a message is judging it and then settling it.** -/
theorem process_eq (r : Router ξ) (route : Route ξ) (m : Message) :
    r.process route m = r.judge route m >>= conclude route m := by
  funext w
  simp only [process, Action.bind_attempt]
  rcases r.judge_cases route m w with ⟨w', hhandle, hjudge⟩ | ⟨e, w', w'', hhandle, hcopy, hjudge⟩
  · rw [Action.bind_ok hjudge, hhandle]
    rfl
  · rw [Action.bind_ok hjudge, hhandle]
    exact Action.bind_ok hcopy

/-- **Until a message is settled nothing is done but what its handler and the publisher do.** -/
theorem judge_keeps (hR : World.Tolerant R) (hp : ∀ p, r.publisher = some p → p.Keeps R)
    (hr : route.handler.Keeps R) (m : Message) : (r.judge route m).Keeps R := by
  refine (handle_keeps hR hp hr m).attempt.bind hR fun o => ?_
  cases o with
  | ok v => exact .pure hR _
  | error e => exact (poison_keeps hR hp _ m e).bind hR fun _ => .pure hR _
  | panic p => exact .raise hR p

/-- Over the queue, a message that was judged is acked once or nacked once. -/
theorem conclude_ofQueue (hb : route.subscription.broker = Broker.ofQueue) (m : Message)
    (verdict : Option HandlerError) (w : World ξ) :
    conclude route m verdict w = (.ok (), match verdict with
      | none => { w with
          queue := w.queue.ack m.uuid
          stats := { w.stats with handled := w.stats.handled + 1 } }
      | some e => { w with
          queue := w.queue.nack m.uuid e.message
          stats := { w.stats with failed := w.stats.failed + 1 } }) := by
  cases verdict with
  | none =>
    simp only [conclude, settleWith, Subscription.ack, hb, Broker.ofQueue]
    rfl
  | some e =>
    simp only [conclude, settleWith, Subscription.nack, hb, Broker.ofQueue]
    rfl

end Router

end SymbolRelay
