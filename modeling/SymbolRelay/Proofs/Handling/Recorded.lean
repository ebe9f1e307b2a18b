import SymbolRelay.Proofs.Handling.Keeping

/-!
# A router on record

A record shows what a router does with a message: each call of the handler and how it ended, each
message that was published and how that ended, and what the broker was told. The handler, the publisher
and the broker are what is recorded; the router between them is the same code on another state, and it
does the same.

## Results

* `chain_mirrors` — attempts at a handler among records go as without them;
* `handle_mirrors` — so does the publication of what it produces;
* `judge_mirrors`, `conclude_mirrors` — so do the verdict on a message and its settlement;
* `process_mirrors` — so does the whole of what is done with a message;
* `processSafely_bare` — and what is left of the world is the same.
-/

set_option autoImplicit false

namespace SymbolRelay

variable {ξ ε α : Type}

/-! ## What goes on record -/

/-- What the record of a message holds. -/
inductive DeliveryEvent where
  | called (m : Message) (outcome : Outcome HandlerError (List Message))
  | sent (topic : String) (m : Message) (outcome : Outcome PublishError Unit)
  | acked (topic messageId : String)
  | nacked (topic messageId reason : String)
  deriving DecidableEq

/-- The handler with its calls on record. -/
def Handler.recorded (next : Handler ξ) : Handler (ξ × List DeliveryEvent) := fun m =>
  (next m).recorded fun _ o => .called m o

/-- The publisher with what it publishes on record. -/
def Publisher.recorded (p : Publisher ξ) : Publisher (ξ × List DeliveryEvent) where
  send ctx topic m := (p.send ctx topic m).recorded fun _ o => .sent topic m o

/-- The broker with what it is told of messages on record. -/
def Broker.recorded (b : Broker ξ) : Broker (ξ × List DeliveryEvent) where
  publish topic m := (b.publish topic m).unseen
  subscribe topic := (b.subscribe topic).unseen
  unsubscribe topic feed := (b.unsubscribe topic feed).unseen
  ack topic messageId := (b.ack topic messageId).recorded fun _ _ => .acked topic messageId
  nack topic messageId reason :=
    (b.nack topic messageId reason).recorded fun _ _ => .nacked topic messageId reason
  close := b.close.unseen

/-- The subscription with its broker on record. -/
def Subscription.recorded (s : Subscription ξ) : Subscription (ξ × List DeliveryEvent) where
  topic := s.topic
  feed := s.feed
  broker := s.broker.recorded
  ctx := s.ctx
  closed := s.closed

/-- The subscriber that opens such subscriptions. -/
def Subscriber.recorded (s : Subscriber ξ) : Subscriber (ξ × List DeliveryEvent) where
  subscribe ctx topic := fun w =>
    let (o, w) := (s.subscribe ctx topic).unseen w
    (o.map Subscription.recorded, w)
  close := s.close.unseen

/-- The registration with its handler on record. -/
def Registration.recorded (g : Registration ξ) : Registration (ξ × List DeliveryEvent) where
  topic := g.topic
  outputTopic := g.outputTopic
  handler := g.handler.recorded

namespace Router

/-- The router among records, without middleware of its own. -/
def recorded (r : Router ξ) : Router (ξ × List DeliveryEvent) where
  subscriber := r.subscriber.recorded
  publisher := r.publisher.map Publisher.recorded
  config := r.config
  registrations := r.registrations.map Registration.recorded

/-- The route of a handler over a subscription. -/
def routeTo [RetryLoop] (r : Router ξ) (s : Subscription ξ) (outputTopic : Option String) (next : Handler ξ) :
    Route ξ where
  subscription := s
  outputTopic := outputTopic
  handler := r.chain next

end Router

/-! ## Attempts -/

namespace Handler

open SymbolRelay.Action

variable {κ : Type} {next' : Handler (ξ × List κ)} {next : Handler ξ} {m : Message}

theorem recovering_mirrors (counting : Bool) (h : Mirrors (next' m) (next m)) :
    Mirrors (recovering counting next' m) (recovering counting next m) := by
  refine Mirrors.bind h.attempt ?_
  intro o
  cases o with
  | ok produced => exact ofOutcome_mirrors (.ok produced)
  | error e => exact ofOutcome_mirrors (.error e)
  | panic p =>
    cases counting with
    | true =>
      exact Mirrors.bind (modify_mirrors fun _ => rfl) fun _ => fail_mirrors _
    | false => exact fail_mirrors _

theorem attempts_mirrors [RetryLoop] (b : Backoff) (h : Mirrors (next' m) (next m)) (left made : Nat) :
    Mirrors (attempts b next' m left made) (attempts b next m left made) := by
  induction left generalizing made with
  | zero =>
    rw [attempts_zero, attempts_zero]
    exact h
  | succ left ih =>
    rw [attempts_succ, attempts_succ]
    refine Mirrors.bind h.attempt ?_
    intro o
    cases o with
    | ok produced => exact ofOutcome_mirrors (.ok produced)
    | panic p => exact ofOutcome_mirrors (.panic p)
    | error e =>
      simp only
      split
      · exact Mirrors.bind (modify_mirrors fun _ => rfl) fun _ => ih _
      · exact fail_mirrors e

theorem correlating_mirrors (h : Mirrors (next' m) (next m)) :
    Mirrors (correlating next' m) (correlating next m) :=
  Mirrors.bind h fun _ => ofOutcome_mirrors (.ok _)

end Handler

/-- A publisher that does among records what another one does without them. -/
def Publisher.Mirrors {κ : Type} (p' : Publisher (ξ × List κ)) (p : Publisher ξ) : Prop :=
  ∀ ctx topic m, Action.Mirrors (p'.send ctx topic m) (p.send ctx topic m)

theorem Publisher.recorded_mirrors (p : Publisher ξ) : p.recorded.Mirrors p :=
  fun _ _ _ => Action.recorded_mirrors _ _

namespace Router

open SymbolRelay.Action

section Mirroring

variable {κ : Type} {r' : Router (ξ × List κ)} {r : Router ξ} {next' : Handler (ξ × List κ)}
  {next : Handler ξ} {m : Message}

/-- Attempts at a handler among records go as without them. -/
theorem chain_mirrors [RetryLoop] (hr' : r'.middleware = []) (hr : r.middleware = [])
    (hconfig : r'.config = r.config) (h : Mirrors (next' m) (next m)) :
    Mirrors (r'.chain next' m) (r.chain next m) := by
  simp only [chain, hr', hr, List.foldr_nil, hconfig]
  exact Handler.correlating_mirrors <| Handler.attempts_mirrors _ (Handler.recovering_mirrors true h) _ _

/-! ## What is done with a message -/

theorem publishAll_mirrors {p' : Publisher (ξ × List κ)} {p : Publisher ξ} (h : p'.Mirrors p)
    (ctx : Context) (topic : String) (outs : List Message) :
    Mirrors (publishAll p' ctx topic outs) (publishAll p ctx topic outs) := by
  induction outs with
  | nil => exact ofOutcome_mirrors (.ok ())
  | cons out rest ih =>
    exact Mirrors.bind ((h ctx topic out).mapError _) fun _ => ih

theorem onScopes_mirrors (f : Scopes → α × Scopes) :
    Mirrors (World.onScopes f : Action (World (ξ × List κ)) ε α) (World.onScopes f) :=
  fun _ => rfl

theorem forward_mirrors (hp : Option.Rel Publisher.Mirrors r'.publisher r.publisher) (m : Message)
    (target : Option String) (produced : List Message) :
    Mirrors (r'.forward m target produced) (r.forward m target produced) := by
  unfold forward
  generalize r'.publisher = publisher' at hp
  generalize r.publisher = publisher at hp
  cases hp with
  | none =>
    split
    · exact ofOutcome_mirrors (.ok ())
    · cases target <;> exact ofOutcome_mirrors (.ok ())
  | some h =>
    split
    · exact ofOutcome_mirrors (.ok ())
    · cases target with
      | none => exact ofOutcome_mirrors (.ok ())
      | some topic => exact Mirrors.bind (onScopes_mirrors _) fun _ => publishAll_mirrors h _ _ _

theorem handle_mirrors {route' : Route (ξ × List κ)} {route : Route ξ}
    (hp : Option.Rel Publisher.Mirrors r'.publisher r.publisher)
    (htarget : route'.outputTopic = route.outputTopic)
    (h : Mirrors (route'.handler m) (route.handler m)) :
    Mirrors (r'.handle route' m) (r.handle route m) := by
  have hwhole := Mirrors.bind h fun produced => forward_mirrors hp m route.outputTopic produced
  unfold handle
  rw [htarget]
  refine Mirrors.bind hwhole.attempt ?_
  intro o
  cases o with
  | ok v => exact ofOutcome_mirrors (.ok v)
  | error e => exact ofOutcome_mirrors (.error e)
  | panic p => exact Mirrors.bind (modify_mirrors fun _ => rfl) fun _ => fail_mirrors _

theorem poison_mirrors (hp : Option.Rel Publisher.Mirrors r'.publisher r.publisher)
    (hconfig : r'.config = r.config) (topic : String) (m : Message) (e : HandlerError) :
    Mirrors (r'.poison topic m e) (r.poison topic m e) := by
  unfold poison
  rw [hconfig]
  generalize r'.publisher = publisher' at hp
  generalize r.publisher = publisher at hp
  cases r.config.poisonTopic with
  | none => exact ofOutcome_mirrors (.ok ())
  | some poisonTopic =>
    cases hp with
    | none => exact ofOutcome_mirrors (.ok ())
    | some h =>
      refine Mirrors.bind (onScopes_mirrors _) fun ctx => ?_
      exact Mirrors.bind (h ctx poisonTopic _).attempt fun _ => ofOutcome_mirrors (.ok ())

/-- The verdict on a message among records is the verdict without them, if the message is handled alike. -/
theorem judge_mirrors {route' : Route (ξ × List κ)} {route : Route ξ}
    (hp : Option.Rel Publisher.Mirrors r'.publisher r.publisher) (hconfig : r'.config = r.config)
    (htopic : route'.subscription.topic = route.subscription.topic)
    (h : Mirrors (r'.handle route' m) (r.handle route m)) :
    Mirrors (r'.judge route' m) (r.judge route m) := by
  unfold judge
  rw [htopic]
  refine Mirrors.bind h.attempt ?_
  intro o
  cases o with
  | ok v => exact ofOutcome_mirrors (.ok none)
  | error e =>
    exact Mirrors.bind (poison_mirrors hp hconfig _ m e) fun _ => ofOutcome_mirrors (.ok (some e))
  | panic p => exact ofOutcome_mirrors (.panic p)

end Mirroring

variable {r : Router ξ}

theorem publisher_recorded (r : Router ξ) :
    Option.Rel Publisher.Mirrors r.recorded.publisher r.publisher := by
  simp only [recorded]
  cases r.publisher with
  | none => exact .none
  | some p => exact .some p.recorded_mirrors

section Settling

variable {κ : Type}

theorem settleWith_mirrors {a' : Action (World (ξ × List κ)) SubscribeError Unit}
    {a : Action (World ξ) SubscribeError Unit} (h : Mirrors a' a) :
    Mirrors (settleWith a' : Action (World (ξ × List κ)) ε Unit) (settleWith a) := by
  refine Mirrors.bind h.attempt ?_
  intro o
  cases o with
  | panic p => exact ofOutcome_mirrors (.panic p)
  | _ => exact ofOutcome_mirrors (.ok ())

/-- A message is settled among records as without them, if the broker is told of it alike. -/
theorem conclude_mirrors_of {route' : Route (ξ × List κ)} {route : Route ξ} {m : Message}
    (hack : Mirrors (route'.subscription.ack m) (route.subscription.ack m))
    (hnack : ∀ reason, Mirrors (route'.subscription.nack m reason) (route.subscription.nack m reason))
    (verdict : Option HandlerError) : Mirrors (conclude route' m verdict) (conclude route m verdict) := by
  unfold conclude
  cases verdict with
  | none => exact Mirrors.bind (settleWith_mirrors hack) fun _ => modify_mirrors fun _ => rfl
  | some e => exact Mirrors.bind (settleWith_mirrors (hnack e.message)) fun _ => modify_mirrors fun _ => rfl

/-- Processing a message leaves among records what it leaves without them. -/
theorem processSafely_mirrors {r' : Router (ξ × List κ)} {r : Router ξ} {route' : Route (ξ × List κ)}
    {route : Route ξ} {m : Message} (h : Mirrors (r'.process route' m) (r.process route m))
    (w : World (ξ × List κ)) :
    (r'.processSafely route' m w).bare = r.processSafely route m w.bare := by
  simp only [processSafely, ← h w]
  cases r'.process route' m w with
  | mk o w' => cases o <;> rfl

end Settling

/-- A message is settled among records as without them. -/
theorem conclude_mirrors {route' : Route (ξ × List DeliveryEvent)} {route : Route ξ}
    (h : route'.subscription = route.subscription.recorded) (m : Message) (verdict : Option HandlerError) :
    Mirrors (conclude route' m verdict) (conclude route m verdict) := by
  refine conclude_mirrors_of ?_ (fun reason => ?_) verdict
  · rw [h]
    exact (recorded_mirrors (fun _ _ => .acked route.subscription.topic m.uuid) _).mapError _
  · rw [h]
    exact (recorded_mirrors (fun _ _ => .nacked route.subscription.topic m.uuid reason) _).mapError _

/-- What is done with a message among records is what is done with it without them. -/
theorem process_mirrors [RetryLoop] (hr : r.middleware = []) (s : Subscription ξ) (target : Option String)
    (next : Handler ξ) (m : Message) :
    Mirrors (r.recorded.process (r.recorded.routeTo s.recorded target next.recorded) m)
      (r.process (r.routeTo s target next) m) := by
  have hchain : Mirrors (r.recorded.chain next.recorded m) (r.chain next m) :=
    chain_mirrors rfl hr rfl (recorded_mirrors _ (next m))
  have hhandle : Mirrors (r.recorded.handle (r.recorded.routeTo s.recorded target next.recorded) m)
      (r.handle (r.routeTo s target next) m) := handle_mirrors r.publisher_recorded rfl hchain
  rw [process_eq, process_eq]
  exact Mirrors.bind (judge_mirrors r.publisher_recorded rfl rfl hhandle) fun verdict =>
    conclude_mirrors rfl m verdict

/-- The record changes nothing of what is left of the world. -/
theorem processSafely_bare [RetryLoop] (hr : r.middleware = []) (s : Subscription ξ) (target : Option String)
    (next : Handler ξ) (m : Message) (w : World ξ) :
    (r.recorded.processSafely (r.recorded.routeTo s.recorded target next.recorded) m
      w.observed).bare = r.processSafely (r.routeTo s target next) m w :=
  processSafely_mirrors (process_mirrors hr s target next m) w.observed

end Router

end SymbolRelay
