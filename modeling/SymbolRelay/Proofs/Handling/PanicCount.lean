import SymbolRelay.Proofs.Handling.OneMessage
import SymbolRelay.Standin.RetryLoop

/-!
# Which panics are counted

While a message is processed something may panic in five places, and none of these panics goes further than
the router. What a handler raises is caught around each attempt, whatever middleware calls the handler, and
however often. What the middleware raises, or the publisher of what the handler produced, is caught around
both; what the publisher of the copy for the poison topic raises, around that copy; and what the broker
raises when it is told of the message, around everything.

| raised by | caught around | counted |
|-----------|---------------|---------|
| the handler | each attempt | yes |
| middleware, the publisher of products | the handling of the message | yes |
| the publisher of the copy | the copy | no |
| the broker | all of it | yes |

## Results

* `chain_attempted` — middleware and handlers leave calls on record, and count their panics;
* `Handled.raised` — the handling of a message ends with a panic that was raised in it, or without one;
* `judged_accounts`, `processSafely_judged` — what is on record, and what is counted, up to the verdict and
  after it;
* `panics_counted` — all of it: every panic is counted once, but one of the copy is not.
-/

set_option autoImplicit false

namespace SymbolRelay

variable {ξ ε α : Type}

/-! ## Panics on record -/

namespace DeliveryEvent

/-- Whether a handler was called. -/
def isCall : DeliveryEvent → Bool
  | .called .. => true
  | _ => false

/-- Whether the broker was told of a message. -/
def isVerdict : DeliveryEvent → Bool
  | .acked .. | .nacked .. => true
  | _ => false

/-- Whether something panicked. -/
def isPanic : DeliveryEvent → Bool
  | .called _ (.panic _) | .sent _ _ (.panic _) => true
  | _ => false

end DeliveryEvent

/-- One for a panic. -/
def Outcome.panics : Outcome ε α → Nat
  | .panic _ => 1
  | _ => 0

/-- How many panics are on record. -/
def raisedIn (events : List DeliveryEvent) : Nat := events.countP DeliveryEvent.isPanic

theorem raisedIn_append (events more : List DeliveryEvent) :
    raisedIn (events ++ more) = raisedIn events + raisedIn more := List.countP_append

/-- The calls of a handler and their panics. -/
theorem raisedIn_calls (m : Message) (attempts : List (Outcome HandlerError (List Message))) :
    raisedIn (attempts.map (.called m)) = panicsIn attempts := by
  rw [raisedIn, panicsIn, List.countP_map]
  refine List.countP_congr fun o _ => ?_
  cases o <;> simp [DeliveryEvent.isPanic]

/-- What was published. -/
theorem raisedIn_published (topic : String) (outs : List Message) :
    raisedIn (outs.map fun out => .sent topic out (.ok ())) = 0 := by
  rw [raisedIn, List.countP_map, List.countP_eq_zero]
  simp [DeliveryEvent.isPanic]

theorem Sends.raised {topic : String} {outs : List Message} {sends : List DeliveryEvent}
    {verdict : Outcome HandlerError Unit} (h : Sends topic outs sends verdict) :
    raisedIn sends = verdict.panics ∧ ∀ event ∈ sends, event.isVerdict = false := by
  cases h with
  | all => exact ⟨raisedIn_published topic outs, by simp [DeliveryEvent.isVerdict]⟩
  | refused done out rest e =>
    refine ⟨?_, by simp [DeliveryEvent.isVerdict, or_imp, forall_and]⟩
    rw [raisedIn_append, raisedIn_published]
    rfl
  | broken done out rest p =>
    refine ⟨?_, by simp [DeliveryEvent.isVerdict, or_imp, forall_and]⟩
    rw [raisedIn_append, raisedIn_published]
    rfl

/-- The handling of a message, after its middleware and its handlers came to an end: what is published of
what they produced, and how that ends. -/
inductive Handled (target : Option String) : Outcome HandlerError (List Message) → List DeliveryEvent →
    Outcome HandlerError Unit → Prop
  | failed (e : HandlerError) : Handled target (.error e) [] (.error e)
  | broken (p : Panic) : Handled target (.panic p) [] (.panic p)
  | forwarded {produced : List Message} {sends : List DeliveryEvent} {verdict : Outcome HandlerError Unit}
      (h : Forwards target produced sends verdict) : Handled target (.ok produced) sends verdict

/-- **The handling of a message ends with a panic** if the middleware raised one, or the publisher did. -/
theorem Handled.raised {target : Option String} {o : Outcome HandlerError (List Message)}
    {sends : List DeliveryEvent} {verdict : Outcome HandlerError Unit} (h : Handled target o sends verdict) :
    verdict.panics = o.panics + raisedIn sends ∧ ∀ event ∈ sends, event.isVerdict = false := by
  cases h with
  | failed e => exact ⟨rfl, nofun⟩
  | broken p => exact ⟨rfl, nofun⟩
  | forwarded h =>
    cases h with
    | nowhere _ => exact ⟨rfl, nofun⟩
    | published _ hsends =>
      obtain ⟨hraised, hnone⟩ := hsends.raised
      exact ⟨(hraised.symm.trans (Nat.zero_add _).symm), hnone⟩

/-! ## Middleware on record -/

/-- Between two worlds handlers were called, which is on record, and their panics were counted. -/
def Attempted (w w' : World (ξ × List DeliveryEvent)) : Prop :=
  ∃ calls : List DeliveryEvent, (∀ event ∈ calls, event.isCall = true) ∧ Passed w calls (raisedIn calls) w'

theorem Attempted.trans {w w' w'' : World (ξ × List DeliveryEvent)} (h : Attempted w w')
    (h' : Attempted w' w'') : Attempted w w'' := by
  obtain ⟨calls, hcalls, hpassed⟩ := h
  obtain ⟨more, hmore, hpassed'⟩ := h'
  refine ⟨calls ++ more, ?_, ?_⟩
  · intro event hevent
    exact (List.mem_append.mp hevent).elim (hcalls event) (hmore event)
  · rw [raisedIn_append]
    exact hpassed.trans hpassed'

/-- A middleware, and what it is among records: there it does the same, and neither puts anything on record
nor counts anything itself, though it may call what it is around as often as it likes, or not at all, with
whatever messages, and may panic. -/
structure WatchedMiddleware (ξ : Type) where
  plain : Middleware ξ
  watched : Middleware (ξ × List DeliveryEvent)
  mirrors : ∀ {next' : Handler (ξ × List DeliveryEvent)} {next : Handler ξ},
    (∀ m, Action.Mirrors (next' m) (next m)) → ∀ m, Action.Mirrors (watched next' m) (plain next m)
  attempted : watched.Keeps Attempted

namespace Router

/-- The router among records, with middleware of its own. -/
def watched (r : Router ξ) (around : List (WatchedMiddleware ξ)) : Router (ξ × List DeliveryEvent) :=
  { r.recorded with middleware := around.map WatchedMiddleware.watched }

end Router

/-- What surrounds a message: whatever middleware, a handler, a publisher and a broker, none of which counts
anything itself. -/
structure Surrounded (r : Router ξ) (around : List (WatchedMiddleware ξ)) (s : Subscription ξ)
    (next : Handler ξ) : Prop where
  middleware : r.middleware = around.map WatchedMiddleware.plain
  handler : ∀ m, (next m).Uncounted
  publisher : ∀ p ∈ r.publisher, ∀ ctx topic out, (p.send ctx topic out).Uncounted
  ack : ∀ id, (s.broker.ack s.topic id).Uncounted
  nack : ∀ id reason, (s.broker.nack s.topic id reason).Uncounted

section Surroundings

variable {r : Router ξ} {around : List (WatchedMiddleware ξ)} {s : Subscription ξ} {next : Handler ξ}

/-- **Middleware and handlers leave calls on record**, and the panics of these are counted. -/
theorem chain_attempted [RetryLoop] (h : Surrounded r around s next) :
    ((r.watched around).chain next.recorded).Keeps Attempted := by
  have hinner : (r.recorded.chain next.recorded).Keeps Attempted := by
    intro m w
    obtain ⟨attempts, _, _, _, hpassed⟩ := chain_passed (r := r) (h.handler m) w
    rw [← raisedIn_calls m] at hpassed
    exact ⟨_, by simp [DeliveryEvent.isCall], hpassed⟩
  have hchain : (r.watched around).chain next.recorded =
      (around.map WatchedMiddleware.watched).foldr (fun middleware next => middleware next)
        (r.recorded.chain next.recorded) := rfl
  rw [hchain]
  clear h hchain
  induction around with
  | nil => exact hinner
  | cons middleware rest ih => exact middleware.attempted _ ih

/-- Among records they do what they do without. -/
theorem chain_watched_mirrors [RetryLoop] (h : Surrounded r around s next) (m : Message) :
    Action.Mirrors ((r.watched around).chain next.recorded m) (r.chain next m) := by
  have hinner : ∀ m, Action.Mirrors (r.recorded.chain next.recorded m)
      (({ r with middleware := [] } : Router ξ).chain next m) := fun m =>
    Router.chain_mirrors rfl rfl rfl (Action.recorded_mirrors _ (next m))
  have hchain : (r.watched around).chain next.recorded =
      (around.map WatchedMiddleware.watched).foldr (fun middleware next => middleware next)
        (r.recorded.chain next.recorded) := rfl
  have hplain : r.chain next =
      (around.map WatchedMiddleware.plain).foldr (fun middleware next => middleware next)
        (({ r with middleware := [] } : Router ξ).chain next) := by
    rw [← h.middleware]
    rfl
  rw [hchain, hplain]
  clear h hchain hplain
  induction around generalizing m with
  | nil => exact hinner m
  | cons middleware rest ih => exact middleware.mirrors ih m

/-! ## The verdict on a message -/

/-- The error for which a message is refused, if it is. A panic is taken for an error. -/
def blame : Outcome HandlerError Unit → Option HandlerError
  | .ok () => none
  | .error e => some e
  | .panic p => some (.panicked p.reason)

/-- What is copied of a message once there is a verdict on it: nothing, unless it is refused. -/
inductive Copied (target : Option String) (topic : String) (m : Message) : Option HandlerError →
    List DeliveryEvent → Prop
  | accepted : Copied target topic m none []
  | refused {e : HandlerError} {copies : List DeliveryEvent} (h : Poisons target topic m e copies) :
      Copied target topic m (some e) copies

/-- A message that was judged: calls of the handler, what was published of what came out of them, with the
verdict on all that, and what was copied. -/
structure Judged (r : Router ξ) (s : Subscription ξ) (target : Option String) (m : Message)
    (o : Outcome HandlerError (List Message)) (calls sends copies : List DeliveryEvent)
    (verdict : Outcome HandlerError Unit) : Prop where
  calls : ∀ event ∈ calls, event.isCall = true
  handled : Handled (r.destination target) o sends verdict
  copied : Copied (r.destination r.config.poisonTopic) s.topic m (blame verdict) copies

theorem Copied.raised {target : Option String} {topic : String} {m : Message} {refusal : Option HandlerError}
    {copies : List DeliveryEvent} (h : Copied target topic m refusal copies) :
    raisedIn copies ≤ 1 ∧ ∀ event ∈ copies, event.isVerdict = false := by
  cases h with
  | accepted => exact ⟨Nat.zero_le _, nofun⟩
  | refused h =>
    cases h with
    | nowhere _ => exact ⟨Nat.zero_le _, nofun⟩
    | copied _ o => exact ⟨List.countP_le_length, by simp [DeliveryEvent.isVerdict]⟩

/-- Nothing on record says that the broker was told of the message. -/
theorem Judged.unsettled {target : Option String} {m : Message} {o : Outcome HandlerError (List Message)}
    {calls sends copies : List DeliveryEvent} {verdict : Outcome HandlerError Unit}
    (h : Judged r s target m o calls sends copies verdict) :
    (calls ++ sends ++ copies).filter DeliveryEvent.isVerdict = [] := by
  have hcalls : ∀ event ∈ calls, event.isVerdict = false := by
    intro event hevent
    have hcall := h.calls event hevent
    cases event with
    | called _ _ => rfl
    | _ => cases hcall
  rw [List.filter_eq_nil_iff]
  intro event hevent
  rcases List.mem_append.mp hevent with hevent | hevent
  · rcases List.mem_append.mp hevent with hevent | hevent
    · simp [hcalls event hevent]
    · simp [h.handled.raised.2 event hevent]
  · simp [h.copied.raised.2 event hevent]

/-- Middleware, handlers and the publication of what they produce, on record. -/
theorem whole_accounts [RetryLoop] (h : Surrounded r around s next) (target : Option String) (m : Message)
    (w : World (ξ × List DeliveryEvent)) :
    let whole := ((r.watched around).chain next.recorded m >>= (r.watched around).forward m target) w
    ∃ calls sends, (∀ event ∈ calls, event.isCall = true) ∧
      Handled (r.destination target) ((r.watched around).chain next.recorded m w).1 sends whole.1 ∧
      Passed w (calls ++ sends) (raisedIn calls) whole.2 := by
  obtain ⟨calls, hcalls, hpassed⟩ := chain_attempted h m w
  cases hchain : (r.watched around).chain next.recorded m w with
  | mk o w' =>
    rw [hchain] at hpassed
    cases o with
    | error e =>
      rw [Action.bind_error hchain]
      exact ⟨calls, [], hcalls, .failed e, by rwa [List.append_nil]⟩
    | panic p =>
      rw [Action.bind_panic hchain]
      exact ⟨calls, [], hcalls, .broken p, by rwa [List.append_nil]⟩
    | ok produced =>
      obtain ⟨sends, hforwards, hsent⟩ := forward_sends h.publisher m target produced w'
      rw [Action.bind_ok hchain]
      exact ⟨calls, sends, hcalls, .forwarded hforwards, hpassed.trans hsent⟩

/-- **What is on record and counted once there is a verdict.** A panic of the middleware or of the publisher
was caught, and counted; one of the copy was caught. -/
theorem judged_accounts [RetryLoop] (h : Surrounded r around s next) (target : Option String) (m : Message)
    (w : World (ξ × List DeliveryEvent)) :
    ∃ calls sends copies verdict w',
      Judged r s target m ((r.watched around).chain next.recorded m w).1 calls sends copies verdict ∧
      (r.watched around).judge ((r.watched around).routeTo s.recorded target next.recorded) m w =
        (.ok (blame verdict), w') ∧
      Passed w (calls ++ sends ++ copies) (raisedIn calls + verdict.panics) w' := by
  obtain ⟨calls, sends, hcalls, hhandled, hpassed⟩ := whole_accounts h target m w
  have hpoison : (r.watched around).poison = r.recorded.poison := rfl
  have hroute : ((r.watched around).routeTo s.recorded target next.recorded).handler =
      (r.watched around).chain next.recorded := rfl
  have htarget : ((r.watched around).routeTo s.recorded target next.recorded).outputTopic = target := rfl
  have htopic : ((r.watched around).routeTo s.recorded target next.recorded).subscription.topic =
      s.topic := rfl
  simp only [Router.judge, Router.handle, Action.bind_attempt, hroute, htarget, htopic, hpoison]
  generalize ((r.watched around).chain next.recorded m >>= (r.watched around).forward m target) w = whole
    at hhandled hpassed ⊢
  obtain ⟨verdict, w'⟩ := whole
  have hrefused : ∀ {e : HandlerError} {w' : World (ξ × List DeliveryEvent)}, blame verdict = some e →
      Passed w (calls ++ sends) (raisedIn calls + verdict.panics) w' →
      ∃ copies w'', Copied (r.destination r.config.poisonTopic) s.topic m (blame verdict) copies ∧
        r.recorded.poison s.topic m e w' = (.ok (), w'') ∧
        Passed w (calls ++ sends ++ copies) (raisedIn calls + verdict.panics) w'' := by
    intro e w' hblame hpassed
    obtain ⟨copies, w'', hpoisons, hcopied, hmore⟩ := poison_passed (m := m) h.publisher s.topic e w'
    refine ⟨copies, w'', ?_, hcopied, hpassed.trans hmore⟩
    rw [hblame]
    exact .refused hpoisons
  cases verdict with
  | ok v =>
    refine ⟨calls, sends, [], .ok v, w', ⟨hcalls, hhandled, .accepted⟩, rfl, ?_⟩
    rwa [List.append_nil]
  | error e =>
    obtain ⟨copies, w'', hcopies, hcopied, hmore⟩ := hrefused rfl hpassed
    exact ⟨calls, sends, copies, .error e, w'', ⟨hcalls, hhandled, hcopies⟩, Action.bind_ok hcopied, hmore⟩
  | panic p =>
    obtain ⟨copies, w'', hcopies, hcopied, hmore⟩ := hrefused rfl hpassed.countPanic
    exact ⟨calls, sends, copies, .panic p, w'', ⟨hcalls, hhandled, hcopies⟩, Action.bind_ok hcopied, hmore⟩

end Surroundings

/-! ## What the broker is told -/

namespace Subscription

/-- Tells the broker of the verdict on a message. -/
def tell (s : Subscription ξ) (m : Message) : Option HandlerError → Action (World ξ) SubscribeError Unit
  | none => s.ack m
  | some e => s.nack m e.message

/-- The same, as it goes on record. -/
def told (s : Subscription ξ) (m : Message) : Option HandlerError → DeliveryEvent
  | none => .acked s.topic m.uuid
  | some e => .nacked s.topic m.uuid e.message

theorem recorded_tell (s : Subscription ξ) (m : Message) (refusal : Option HandlerError)
    (w : World (ξ × List DeliveryEvent)) :
    s.recorded.tell m refusal w = ((s.tell m refusal w.bare).1,
      (s.tell m refusal w.bare).2.withRecord (w.record ++ [s.told m refusal])) := by
  cases refusal <;> rfl

end Subscription

/-- The world with one more message handled, or refused. -/
def World.settled (refusal : Option HandlerError) (w : World ξ) : World ξ :=
  { w with stats := match refusal with
      | none => { w.stats with handled := w.stats.handled + 1 }
      | some _ => { w.stats with failed := w.stats.failed + 1 } }

/-- What the broker answers does not matter, unless it panics. -/
theorem settleWith_apply (a : Action (World ξ) SubscribeError Unit) (w : World ξ) :
    (Router.settleWith a w : Outcome ε Unit × World ξ) =
      (match (a w).1 with
        | .panic p => .panic p
        | _ => .ok (), (a w).2) := by
  simp only [Router.settleWith, Action.bind_attempt]
  cases (a w).1 <;> rfl

/-- **After the verdict** the broker is told, and its panic is counted if it raises one. -/
theorem processSafely_judged {r : Router ξ} {route : Route ξ} {m : Message} {refusal : Option HandlerError}
    {w w' : World ξ} (hjudge : r.judge route m w = (.ok refusal, w')) :
    r.processSafely route m w =
      match route.subscription.tell m refusal w' with
      | (.panic _, w'') => w''.countPanic
      | (_, w'') => w''.settled refusal := by
  have hconclude : Router.conclude route m refusal =
      (Router.settleWith (route.subscription.tell m refusal) >>= fun _ =>
        Action.modify (World.settled refusal)) := by
    cases refusal <;> rfl
  have hsettle := settleWith_apply (ε := Empty) (route.subscription.tell m refusal) w'
  simp only [Router.processSafely, Router.process_eq, Action.bind_ok hjudge, hconclude]
  cases htell : route.subscription.tell m refusal w' with
  | mk o w'' =>
    rw [htell] at hsettle
    cases o with
    | ok v => rw [Action.bind_ok hsettle]; rfl
    | error e => rw [Action.bind_ok hsettle]; rfl
    | panic p => rw [Action.bind_panic hsettle]

/-- After the verdict there is one more entry on record: what the broker was told. -/
theorem processSafely_told {r' : Router (ξ × List DeliveryEvent)} {route' : Route (ξ × List DeliveryEvent)}
    {s : Subscription ξ} (hs : route'.subscription = s.recorded) {m : Message} {refusal : Option HandlerError}
    {w w' : World (ξ × List DeliveryEvent)} (hjudge : r'.judge route' m w = (.ok refusal, w')) :
    (r'.processSafely route' m w).record = w'.record ++ [s.told m refusal] := by
  simp only [processSafely_judged hjudge, hs, s.recorded_tell]
  cases (s.tell m refusal w'.bare).1 <;> cases refusal <;> rfl

/-! ## The whole of it -/

section Counting

variable {r : Router ξ} {around : List (WatchedMiddleware ξ)} {s : Subscription ξ} {next : Handler ξ}

theorem tell_uncounted (h : Surrounded r around s next) (m : Message) (refusal : Option HandlerError) :
    (s.tell m refusal).Uncounted := by
  cases refusal with
  | none => exact h.ack m.uuid
  | some e => exact h.nack m.uuid e.message

theorem judge_watched_mirrors [RetryLoop] (h : Surrounded r around s next) (target : Option String)
    (m : Message) :
    Action.Mirrors ((r.watched around).judge ((r.watched around).routeTo s.recorded target next.recorded) m)
      (r.judge (r.routeTo s target next) m) :=
  Router.judge_mirrors r.publisher_recorded rfl rfl
    (Router.handle_mirrors r.publisher_recorded rfl (chain_watched_mirrors h m))

/-- The record changes nothing of what is left of the world. -/
theorem processSafely_watched [RetryLoop] (h : Surrounded r around s next) (target : Option String)
    (m : Message) (w : World (ξ × List DeliveryEvent)) :
    ((r.watched around).processSafely ((r.watched around).routeTo s.recorded target next.recorded) m w).bare =
      r.processSafely (r.routeTo s target next) m w.bare := by
  refine Router.processSafely_mirrors ?_ w
  rw [Router.process_eq, Router.process_eq]
  exact (judge_watched_mirrors h target m).bind fun refusal => Router.conclude_mirrors rfl m refusal

/-- What is on record and counted after a verdict. -/
theorem settled_accounts [RetryLoop] (h : Surrounded r around s next) {target : Option String} {m : Message}
    {refusal : Option HandlerError} {w w' : World (ξ × List DeliveryEvent)}
    (hjudge : (r.watched around).judge ((r.watched around).routeTo s.recorded target next.recorded) m w =
      (.ok refusal, w')) :
    let after := (r.watched around).processSafely
      ((r.watched around).routeTo s.recorded target next.recorded) m w
    after.record = w'.record ++ [s.told m refusal] ∧
      after.stats.panics = w'.stats.panics + (s.tell m refusal w'.bare).1.panics := by
  have htold := s.recorded_tell m refusal w'
  have hstats := tell_uncounted h m refusal w'.bare
  have hroute : ((r.watched around).routeTo s.recorded target next.recorded).subscription = s.recorded := rfl
  refine ⟨processSafely_told hroute hjudge, ?_⟩
  simp only [processSafely_judged hjudge, hroute, htold]
  generalize s.tell m refusal w'.bare = answer at hstats
  obtain ⟨o, w''⟩ := answer
  have hpanics : w''.stats.panics = w'.stats.panics := congrArg Stats.panics hstats
  cases o with
  | panic p => exact congrArg (· + 1) hpanics
  | ok v => cases refusal <;> exact hpanics
  | error e => cases refusal <;> exact hpanics

/-- **Which panics are counted while a message is processed.** Whatever middleware is around the handler,
whatever they and the publisher do, and whether or not there is a poison topic:

* on record are the calls of the handler, what was published of what came out of them, the copy if there is
  one, and then, once, what the broker was told: that the message was handled, or that it was not if anything
  failed or panicked;
* the panics that were raised are those on record, that of the middleware if it raised one, and that of the
  broker. Each of them is counted once, but one that publishing the copy raised is not counted. So all of them
  are counted if and only if publishing the copy did not panic. -/
theorem panics_counted [RetryLoop] (h : Surrounded r around s next) (target : Option String) (m : Message)
    (w : World ξ) :
    let route := r.routeTo s target next
    let watched := (r.watched around).processSafely
      ((r.watched around).routeTo s.recorded target next.recorded) m w.observed
    watched.bare = r.processSafely route m w ∧
    ∃ calls sends copies verdict,
      Judged r s target m (r.chain next m w).1 calls sends copies verdict ∧
      watched.record = calls ++ sends ++ copies ++ [s.told m (blame verdict)] ∧
      watched.record.filter DeliveryEvent.isVerdict = [s.told m (blame verdict)] ∧
      let raised := raisedIn watched.record + (r.chain next m w).1.panics +
        (s.tell m (blame verdict) (r.judge route m w).2).1.panics
      (r.processSafely route m w).stats.panics + raisedIn copies = w.stats.panics + raised ∧
      raisedIn copies ≤ 1 ∧
      ((r.processSafely route m w).stats.panics = w.stats.panics + raised ↔ raisedIn copies = 0) := by
  intro route watched
  have hbare : watched.bare = r.processSafely route m w := processSafely_watched h target m w.observed
  obtain ⟨calls, sends, copies, verdict, w', hjudged, hjudge, hpassed⟩ :=
    judged_accounts h target m w.observed
  have hchain : ((r.watched around).chain next.recorded m w.observed).1 = (r.chain next m w).1 :=
    congrArg Prod.fst (chain_watched_mirrors h m w.observed)
  have hplain : (r.judge route m w).2 = w'.bare := by
    have hmirrors := congrArg Prod.snd (judge_watched_mirrors h target m w.observed)
    rw [hjudge] at hmirrors
    exact hmirrors.symm
  obtain ⟨hrecord, hcounted⟩ := settled_accounts h hjudge
  rw [hchain] at hjudged
  have hall : watched.record = calls ++ sends ++ copies ++ [s.told m (blame verdict)] := by
    rw [hrecord, hpassed.record]
    rfl
  have htold : raisedIn [s.told m (blame verdict)] = 0 ∧
      [s.told m (blame verdict)].filter DeliveryEvent.isVerdict = [s.told m (blame verdict)] := by
    cases blame verdict <;> exact ⟨rfl, rfl⟩
  have hpanics : (r.processSafely route m w).stats.panics = w'.stats.panics +
      (s.tell m (blame verdict) w'.bare).1.panics := by
    rw [← hbare]
    exact hcounted
  have hsofar : w'.stats.panics = w.stats.panics + (raisedIn calls + verdict.panics) := by
    rw [hpassed.stats]
    rfl
  refine ⟨hbare, calls, sends, copies, verdict, hjudged, hall, ?_, ?_⟩
  · rw [hall, List.filter_append, hjudged.unsettled, htold.2, List.nil_append]
  · have hverdict := hjudged.handled.raised.1
    have hcopies := hjudged.copied.raised.1
    simp only [hall, raisedIn_append, htold.1, hplain]
    omega

end Counting

/-! ## A publisher that breaks -/

/-- A middleware that lets a message be handled once more if that failed. -/
def insisting {ζ : Type} : Middleware ζ := fun next m => do
  match ← Action.attempt (next m) with
  | .ok produced => return produced
  | _ => next m

/-- The same on record. -/
def watchedInsisting : WatchedMiddleware ξ where
  plain := insisting
  watched := insisting
  mirrors h m := by
    refine Action.Mirrors.bind (h m).attempt fun o => ?_
    cases o with
    | ok produced => exact Action.ofOutcome_mirrors (.ok produced)
    | error e => exact h m
    | panic p => exact h m
  attempted next h m w := by
    have honce := h m w
    simp only [insisting, Action.bind_attempt]
    cases (next m w).1 with
    | ok produced => exact honce
    | error e => exact honce.trans (h m _)
    | panic p => exact honce.trans (h m _)

/-- A publisher that panics at the message `b`. -/
def brittle : Publisher Nat where
  send _ _ m := fun w => (if m.uuid = "b" then .panic (.because "broken") else .ok (), w)

/-- A router that does not try messages again itself, and copies what it refuses. -/
def brittleRouter : Router Nat where
  subscriber := .ofBroker .ofQueue
  publisher := some brittle
  config := { maxRetries := 0, poisonTopic := some "poison" }
  middleware := [insisting]

theorem brittle_surrounded (next : Handler Nat) (h : ∀ m, (next m).Uncounted) :
    Surrounded brittleRouter [watchedInsisting] arrivals next where
  middleware := rfl
  handler := h
  publisher p hp := by
    obtain rfl : brittle = p := by simpa [brittleRouter] using hp
    exact fun _ _ _ _ => rfl
  ack _ _ := rfl
  nack _ _ _ := rfl

/-- What becomes of a message, on record. -/
def brittleRecord [RetryLoop] (next : Handler Nat) (m : Message) : World (Nat × List DeliveryEvent) :=
  (brittleRouter.watched [watchedInsisting]).processSafely
    ((brittleRouter.watched [watchedInsisting]).routeTo arrivals.recorded (some "out") next.recorded) m
    (World.observed { extra := 0 })

/-- The handler panics, is called again by the middleware, and then the publisher panics at the second of its
products. **Both panics are counted**, and the copy is published. -/
theorem products_broken :
    Surrounded brittleRouter [watchedInsisting] arrivals wavering ∧
      (∃ calls sends copies verdict,
        Judged brittleRouter arrivals (some "out") arrival (brittleRouter.chain wavering arrival
          { extra := 0 }).1 calls sends copies verdict ∧
        (brittleRecord wavering arrival).record =
          calls ++ sends ++ copies ++ [arrivals.told arrival (blame verdict)]) ∧
      (brittleRecord wavering arrival).record =
        [.called arrival (.panic (.because "not ready")),
          .called arrival (.ok [{ uuid := "a" }, { uuid := "b" }]),
          .sent "out" { uuid := "a" } (.ok ()),
          .sent "out" { uuid := "b" } (.panic (.because "broken")),
          .sent "poison" (Router.poisonCopy arrival "in" (.panicked "broken")) (.ok ()),
          .nacked "in" "m" "handler panicked: broken"] ∧
      (brittleRecord wavering arrival).stats = { handled := 0, failed := 1, panics := 2 } := by
  have hsurrounded := brittle_surrounded wavering fun _ _ => rfl
  refine ⟨hsurrounded, ?_, by decide +kernel, by decide +kernel⟩
  obtain ⟨-, calls, sends, copies, verdict, hjudged, hrecord, -⟩ :=
    panics_counted hsurrounded (some "out") arrival { extra := 0 }
  exact ⟨calls, sends, copies, verdict, hjudged, hrecord⟩

/-- A handler that wants no messages. -/
def unwilling : Handler Nat := fun _ => Action.fail (.rejected "no")

/-- **The publisher of the copy panics, and that is not counted**: one panic is on record, and none is
counted. -/
theorem copy_broken :
    raisedIn (brittleRecord unwilling { uuid := "b" }).record = 1 ∧
      (brittleRecord unwilling { uuid := "b" }).record.getLast? =
        some (.nacked "in" "b" "message rejected: no") ∧
      (brittleRecord unwilling { uuid := "b" }).stats = { handled := 0, failed := 1, panics := 0 } := by
  decide +kernel

end SymbolRelay
