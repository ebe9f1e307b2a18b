import SymbolRelay.Proofs.Handling.Recorded
import SymbolRelay.Standin.RetryLoop

/-!
# The fate of one message

Without middleware of its own a router leaves one of these records of a message:

```text
called …, sent …, acked
called …, sent …, (sent to the poison topic), nacked
```

The handler is called until an attempt is decisive or none is left. What the last attempt produced is
published, up to the first message that is refused. The first record is that of a message all of whose
products, if any, were published or had nowhere to go; any other message is refused, for the last error
there was.

## Results

* `decisive_eq_false_iff` — which endings of an attempt lead to another one;
* `attempts_tracked` — the handler is called up to the first decisive attempt, or to the last one allowed;
* `publishAll_passed` — messages are published in order, up to the first that fails;
* `processed_once` — what becomes of a message, and what of it is counted.
-/

set_option autoImplicit false

namespace SymbolRelay

variable {ξ ε α : Type}

/-! ## What goes on record, and what is counted -/

/-- An action that leaves the counters of the router alone. -/
def Action.Uncounted (a : Action (World ξ) ε α) : Prop := ∀ w : World ξ, (a w).2.stats = w.stats

/-- What went on record between two worlds, and how many panics were counted. -/
structure Passed (w : World (ξ × List DeliveryEvent)) (events : List DeliveryEvent) (panics : Nat)
    (w' : World (ξ × List DeliveryEvent)) : Prop where
  record : w'.record = w.record ++ events
  stats : w'.stats = { w.stats with panics := w.stats.panics + panics }

namespace Passed

variable {w w' w'' : World (ξ × List DeliveryEvent)} {events more : List DeliveryEvent}
  {panics others : Nat}

theorem refl (w : World (ξ × List DeliveryEvent)) : Passed w [] 0 w :=
  ⟨(List.append_nil _).symm, rfl⟩

theorem trans (h : Passed w events panics w') (h' : Passed w' more others w'') :
    Passed w (events ++ more) (panics + others) w'' where
  record := by rw [h'.record, h.record, List.append_assoc]
  stats := by
    rw [h'.stats, h.stats]
    simp [Nat.add_assoc]

/-- Counting a panic, among other things that are not on record. -/
theorem countPanic (h : Passed w events panics w') : Passed w events (panics + 1) w'.countPanic where
  record := h.record
  stats := by
    simp only [World.countPanic, h.stats]
    rfl

end Passed

/-- A recorded action adds its entry. -/
theorem recorded_passed {a : Action (World ξ) ε α} (h : a.Uncounted)
    (entry : World ξ → Outcome ε α → DeliveryEvent) (w : World (ξ × List DeliveryEvent)) :
    Passed w [entry w.bare (a.recorded entry w).1] 0 (a.recorded entry w).2 where
  record := rfl
  stats := by
    rw [Action.recorded_apply]
    exact h w.bare

/-! ## Attempts -/

/-- Whether an attempt is the last one however many are left: it went well, or it failed for good. A
panic may pass. -/
def decisive : Outcome HandlerError (List Message) → Bool
  | .ok _ => true
  | .error (.decode _) | .error (.rejected _) => true
  | .error (.domain (.databaseOperation _)) => false
  | .error (.domain _) => true
  | .error (.panicked _) | .error (.publish _) | .error (.other _) => false
  | .panic _ => false

/-- What is left of an ending once a panic is taken for an error. -/
def recovered : Outcome HandlerError α → Except HandlerError α
  | .ok value => .ok value
  | .error e => .error e
  | .panic p => .error (.panicked p.reason)

theorem recovered_eq_ok_iff {o : Outcome HandlerError α} {value : α} :
    recovered o = .ok value ↔ o = .ok value := by
  cases o <;> simp [recovered]

/-- How many endings are panics. -/
def panicsIn (endings : List (Outcome HandlerError α)) : Nat :=
  endings.countP fun o => match o with
    | .panic _ => true
    | _ => false

/-- Exactly an error that may pass leads to another attempt. -/
theorem decisive_eq_false_iff (o : Outcome HandlerError (List Message)) :
    decisive o = false ↔ ∃ e, recovered o = .error e ∧ e.isRetryable = true := by
  cases o with
  | ok produced => simp [decisive, recovered]
  | panic p => simp [decisive, recovered, HandlerError.isRetryable]
  | error e =>
    cases e with
    | domain cause =>
      cases cause <;> simp [decisive, recovered, HandlerError.isRetryable, DomainError.isRetryable]
    | _ => simp [decisive, recovered, HandlerError.isRetryable]

/-- The attempts at a message that may be tried again `n` times: none but the last was decisive, and
the last one was or was the last one allowed. -/
structure Tried (n : Nat) (attempts : List (Outcome HandlerError (List Message)))
    (last : Outcome HandlerError (List Message)) : Prop where
  ends : ∃ earlier, attempts = earlier ++ [last] ∧ ∀ o ∈ earlier, decisive o = false
  bound : attempts.length ≤ n + 1
  final : decisive last = true ∨ attempts.length = n + 1

theorem Tried.once {n : Nat} {o : Outcome HandlerError (List Message)}
    (h : decisive o = true ∨ n = 0) : Tried n [o] o where
  ends := ⟨[], rfl, by simp⟩
  bound := by simp
  final := by
    rcases h with h | h
    · exact .inl h
    · exact .inr (by simp [h])

theorem Tried.again {n : Nat} {attempts : List (Outcome HandlerError (List Message))}
    {o last : Outcome HandlerError (List Message)} (ho : decisive o = false)
    (h : Tried n attempts last) : Tried (n + 1) (o :: attempts) last where
  ends := by
    obtain ⟨earlier, rfl, hall⟩ := h.ends
    refine ⟨o :: earlier, rfl, ?_⟩
    intro o' ho'
    rcases List.mem_cons.mp ho' with rfl | ho'
    · exact ho
    · exact hall o' ho'
  bound := by
    have hbound := h.bound
    simp only [List.length_cons]
    omega
  final := by
    rcases h.final with hlast | hlength
    · exact .inl hlast
    · exact .inr (by simp [hlength])

section Attempts

variable {ζ : Type} {next : Handler ζ} {m : Message}

/-- Something that is kept track of while a message is tried again and again: it is known of each attempt,
it does not depend on what is told of a retry, and it adds up. -/
structure Tracks (next : Handler ζ) (m : Message)
    (P : World ζ → List (Outcome HandlerError (List Message)) → World ζ → Prop) : Prop where
  one : ∀ w, P w [(next m w).1] (Handler.recovering true next m w).2
  notice : ∀ {w attempts w'} (notices : List RetryNotice), P w attempts w' →
    P w attempts { w' with notices }
  trans : ∀ {w attempts w' more w''}, P w attempts w' → P w' more w'' → P w (attempts ++ more) w''

/-- One attempt ends like the handler, but that a panic is an error. -/
theorem recovering_fst (w : World ζ) :
    (Handler.recovering true next m w).1 = .ofExcept (recovered (next m w).1) := by
  simp only [Handler.recovering, Action.bind_attempt]
  cases (next m w).1 <;> rfl

/-- **The attempts at a message**: the handler is called until an attempt is decisive, or until none is
left. -/
theorem attempts_tracked [RetryLoop]
    {P : World ζ → List (Outcome HandlerError (List Message)) → World ζ → Prop} (h : Tracks next m P)
    (b : Backoff) (left made : Nat) (w : World ζ) :
    ∃ attempts o, Tried left attempts o ∧
      (Handler.attempts b (Handler.recovering true next) m left made w).1 =
        .ofExcept (recovered o) ∧
      P w attempts (Handler.attempts b (Handler.recovering true next) m left made w).2 := by
  induction left generalizing made w with
  | zero =>
    rw [Handler.attempts_zero]
    exact ⟨[(next m w).1], _, .once (.inr rfl), recovering_fst w, h.one w⟩
  | succ left ih =>
    have hone := h.one w
    simp only [Handler.attempts_succ, Action.bind_attempt, recovering_fst w]
    generalize (next m w).1 = o at hone ⊢
    generalize (Handler.recovering true next m w).2 = w' at hone ⊢
    cases hd : decisive o with
    | true =>
      refine ⟨[o], o, .once (.inl hd), ?_⟩
      cases ho : recovered o with
      | ok produced => exact ⟨rfl, hone⟩
      | error e =>
        have hfinal : e.isRetryable = false := by
          cases hr : e.isRetryable with
          | false => rfl
          | true =>
            rw [(decisive_eq_false_iff o).mpr ⟨e, ho, hr⟩] at hd
            cases hd
        simp only [Outcome.ofExcept, hfinal]
        exact ⟨rfl, hone⟩
    | false =>
      obtain ⟨e, ho, hretry⟩ := (decisive_eq_false_iff o).mp hd
      simp only [ho, Outcome.ofExcept, hretry]
      -- the handler is called again in a world where the retry was told
      obtain ⟨attempts, o', htried, hresult, hmore⟩ := ih (made + 1)
        { w' with notices := w'.notices ++ [Handler.notice b m (made + 1) (RetryLoop.delay b made) e] }
      exact ⟨o :: attempts, o', htried.again hd, hresult, h.trans (h.notice _ hone) hmore⟩

theorem panicsIn_append (endings more : List (Outcome HandlerError α)) :
    panicsIn (endings ++ more) = panicsIn endings + panicsIn more := by
  simp only [panicsIn, List.countP_append]

/-- The attempts are on record, and their panics counted. -/
theorem passed_tracks {next : Handler ξ} (hn : (next m).Uncounted) :
    Tracks next.recorded m fun w attempts w' =>
      Passed w (attempts.map (.called m)) (panicsIn attempts) w' where
  one w := by
    have hpassed := recorded_passed hn (fun _ o => .called m o) w
    have hnext : next.recorded m = (next m).recorded fun _ o => .called m o := rfl
    simp only [Handler.recovering, Action.bind_attempt, hnext]
    generalize (next m).recorded (fun _ o => DeliveryEvent.called m o) w = result at hpassed ⊢
    obtain ⟨o, w'⟩ := result
    cases o with
    | ok produced => exact hpassed
    | error e => exact hpassed
    | panic p => exact hpassed.countPanic
  notice _ h := ⟨h.record, h.stats⟩
  trans h h' := by
    rw [List.map_append, panicsIn_append]
    exact h.trans h'

end Attempts

/-! ## Publishing -/

/-- How messages are published one after the other: all of them, or up to the first that is refused or
breaks the publisher. -/
inductive Sends (topic : String) :
    List Message → List DeliveryEvent → Outcome HandlerError Unit → Prop where
  | all (outs : List Message) : Sends topic outs (outs.map fun out => .sent topic out (.ok ())) (.ok ())
  | refused (done : List Message) (out : Message) (rest : List Message) (e : PublishError) :
    Sends topic (done ++ out :: rest)
      ((done.map fun out => .sent topic out (.ok ())) ++ [.sent topic out (.error e)])
      (.error (.publish e))
  | broken (done : List Message) (out : Message) (rest : List Message) (p : Panic) :
    Sends topic (done ++ out :: rest)
      ((done.map fun out => .sent topic out (.ok ())) ++ [.sent topic out (.panic p)]) (.panic p)

theorem Sends.cons {topic : String} {outs : List Message} {sends : List DeliveryEvent}
    {verdict : Outcome HandlerError Unit} (h : Sends topic outs sends verdict) (out : Message) :
    Sends topic (out :: outs) (.sent topic out (.ok ()) :: sends) verdict := by
  cases h with
  | all => exact .all (out :: outs)
  | refused done other rest e => exact .refused (out :: done) other rest e
  | broken done other rest p => exact .broken (out :: done) other rest p

theorem publishAll_passed {p : Publisher ξ} (hp : ∀ ctx topic m, (p.send ctx topic m).Uncounted)
    (ctx : Context) (topic : String) (outs : List Message) (w : World (ξ × List DeliveryEvent)) :
    ∃ sends, Sends topic outs sends (Router.publishAll p.recorded ctx topic outs w).1 ∧
      Passed w sends 0 (Router.publishAll p.recorded ctx topic outs w).2 := by
  induction outs generalizing w with
  | nil => exact ⟨[], .all [], .refl w⟩
  | cons out rest ih =>
    have hpassed := recorded_passed (hp ctx topic out) (fun _ o => .sent topic out o) w
    cases hsend : p.recorded.send ctx topic out w with
    | mk o w' =>
      have hrecorded : (p.send ctx topic out).recorded (fun _ o => .sent topic out o) w = (o, w') :=
        hsend
      rw [hrecorded] at hpassed
      have hmapped : (p.recorded.send ctx topic out).mapError HandlerError.publish w =
          (o.mapError .publish, w') := by
        simp only [Action.mapError, hsend]
      simp only [Router.publishAll]
      cases o with
      | ok v =>
        obtain ⟨sends, hsends, hrest⟩ := ih w'
        rw [Action.bind_ok hmapped]
        refine ⟨_, hsends.cons out, ?_⟩
        have hall := hpassed.trans hrest
        simpa using hall
      | error e =>
        rw [Action.bind_error hmapped]
        exact ⟨_, .refused [] out rest e, hpassed⟩
      | panic q =>
        rw [Action.bind_panic hmapped]
        exact ⟨_, .broken [] out rest q, hpassed⟩

/-! ## The whole of it -/

/-- What the messages that a handler produced are when they leave: they carry the ids of the message
that they answer. -/
def answered (m : Message) (produced : List Message) : List Message :=
  produced.map fun out => [Header.correlationId, Header.requestId].foldl (Handler.inherit m) out

/-- Where a router publishes what is meant for a topic, if anywhere. -/
def Router.destination (r : Router ξ) (topic? : Option String) : Option String :=
  r.publisher.bind fun _ => topic?

/-- What is published of messages that were produced, if there is anywhere to publish them, and how that
ends. -/
inductive Forwards (target : Option String) (outs : List Message) :
    List DeliveryEvent → Outcome HandlerError Unit → Prop where
  | nowhere (h : target = none) : Forwards target outs [] (.ok ())
  | published {topic : String} {sends : List DeliveryEvent} {verdict : Outcome HandlerError Unit}
    (h : target = some topic) (hsends : Sends topic outs sends verdict) : Forwards target outs sends verdict

/-- What follows the last attempt at a message: what is published of it, and how that ends. -/
inductive Follows (target : Option String) (m : Message) :
    Outcome HandlerError (List Message) → List DeliveryEvent → Outcome HandlerError Unit → Prop where
  | failed {last : Outcome HandlerError (List Message)} {e : HandlerError}
    (h : recovered last = .error e) : Follows target m last [] (.error e)
  | nowhere (produced : List Message) (h : target = none) : Follows target m (.ok produced) [] (.ok ())
  | published {produced : List Message} {topic : String} {sends : List DeliveryEvent}
    {verdict : Outcome HandlerError Unit} (h : target = some topic)
    (hsends : Sends topic (answered m produced) sends verdict) :
    Follows target m (.ok produced) sends verdict

/-- What is published of a refused message: a copy, if there is a topic for it, and however that ends. -/
inductive Poisons (target : Option String) (topic : String) (m : Message) (e : HandlerError) :
    List DeliveryEvent → Prop where
  | nowhere (h : target = none) : Poisons target topic m e []
  | copied {poisonTopic : String} (h : target = some poisonTopic) (o : Outcome PublishError Unit) :
    Poisons target topic m e [.sent poisonTopic (Router.poisonCopy m topic e) o]

/-- How a message of a topic is settled. -/
inductive Settles (poisonTarget : Option String) (topic : String) (m : Message) :
    Except HandlerError Unit → List DeliveryEvent → Prop where
  | acked : Settles poisonTarget topic m (.ok ()) [.acked topic m.uuid]
  | nacked {e : HandlerError} {poisons : List DeliveryEvent}
    (h : Poisons poisonTarget topic m e poisons) :
    Settles poisonTarget topic m (.error e) (poisons ++ [.nacked topic m.uuid e.message])

/-- The counters after a message that was settled, and so many panics on the way. -/
def Stats.counting (stats : Stats) (panics : Nat) : Except HandlerError Unit → Stats
  | .ok () => { stats with handled := stats.handled + 1, panics := stats.panics + panics }
  | .error _ => { stats with failed := stats.failed + 1, panics := stats.panics + panics }

section Whole

variable {r : Router ξ} {s : Subscription ξ} {next : Handler ξ} {m : Message}

/-- A handler with all that a router puts around it. -/
theorem chain_passed [RetryLoop] (hn : (next m).Uncounted) (w : World (ξ × List DeliveryEvent)) :
    ∃ attempts last, Tried r.config.maxRetries attempts last ∧
      (r.recorded.chain next.recorded m w).1 = .ofExcept ((recovered last).map (answered m)) ∧
      Passed w (attempts.map (.called m)) (panicsIn attempts)
        (r.recorded.chain next.recorded m w).2 := by
  obtain ⟨attempts, last, htried, hresult, hpassed⟩ :=
    attempts_tracked (passed_tracks hn) r.config.backoff r.config.maxRetries 0 w
  refine ⟨attempts, last, htried, ?_⟩
  have hchain : r.recorded.chain next.recorded m =
      (Handler.attempts r.config.backoff (Handler.recovering true next.recorded) m
        r.config.maxRetries 0 >>= fun produced => pure (answered m produced)) := rfl
  rw [hchain, Action.bind_pure_apply, hresult, Action.map_ofExcept]
  exact ⟨rfl, hpassed⟩

/-- Messages that were produced, published. -/
theorem forward_sends (hp : ∀ p ∈ r.publisher, ∀ ctx topic out, (p.send ctx topic out).Uncounted)
    (inbound : Message) (target : Option String) (outs : List Message) (w : World (ξ × List DeliveryEvent)) :
    ∃ sends, Forwards (r.destination target) outs sends (r.recorded.forward inbound target outs w).1 ∧
      Passed w sends 0 (r.recorded.forward inbound target outs w).2 := by
  cases hpublisher : r.publisher with
  | none =>
    have hnowhere : r.destination target = none := by simp [Router.destination, hpublisher]
    have hforward : r.recorded.forward inbound target outs w = (.ok (), w) := by
      simp only [Router.forward, Router.recorded, hpublisher, Option.map_none]
      split <;> rfl
    rw [hforward]
    exact ⟨[], .nowhere hnowhere, .refl w⟩
  | some publisher =>
    cases target with
    | none =>
      have hnowhere : r.destination none = none := by simp [Router.destination]
      have hforward : r.recorded.forward inbound none outs w = (.ok (), w) := by
        simp only [Router.forward]
        split <;> rfl
      rw [hforward]
      exact ⟨[], .nowhere hnowhere, .refl w⟩
    | some topic =>
      have hsomewhere : r.destination (some topic) = some topic := by
        simp [Router.destination, hpublisher]
      cases outs with
      | nil => exact ⟨[], .published hsomewhere (.all []), .refl w⟩
      | cons out rest =>
        have hforward : r.recorded.forward inbound (some topic) (out :: rest) w =
            Router.publishAll publisher.recorded (Context.ofMessage inbound w.scopes).1 topic (out :: rest)
              { w with scopes := (Context.ofMessage inbound w.scopes).2 } := by
          simp only [Router.forward, Router.recorded, hpublisher, Option.map_some, List.isEmpty_cons]
          rfl
        obtain ⟨sends, hsends, hpassed⟩ := publishAll_passed (hp publisher (by simp [hpublisher]))
          (Context.ofMessage inbound w.scopes).1 topic (out :: rest)
          { w with scopes := (Context.ofMessage inbound w.scopes).2 }
        rw [hforward]
        exact ⟨sends, .published hsomewhere hsends, hpassed.record, hpassed.stats⟩

/-- What a handler produced, published. -/
theorem forward_passed (hp : ∀ p ∈ r.publisher, ∀ ctx topic out, (p.send ctx topic out).Uncounted)
    (target : Option String) (produced : List Message) (w : World (ξ × List DeliveryEvent)) :
    ∃ sends, Follows (r.destination target) m (.ok produced) sends
        (r.recorded.forward m target (answered m produced) w).1 ∧
      Passed w sends 0 (r.recorded.forward m target (answered m produced) w).2 := by
  obtain ⟨sends, hforwards, hpassed⟩ := forward_sends hp m target (answered m produced) w
  generalize (r.recorded.forward m target (answered m produced) w).1 = verdict at hforwards ⊢
  refine ⟨sends, ?_, hpassed⟩
  cases hforwards with
  | nowhere h => exact .nowhere produced h
  | published h hsends => exact .published h hsends

/-- The copy of a refused message, published or not: a router goes on all the same. -/
theorem poison_passed (hp : ∀ p ∈ r.publisher, ∀ ctx topic out, (p.send ctx topic out).Uncounted)
    (topic : String) (e : HandlerError) (w : World (ξ × List DeliveryEvent)) :
    ∃ poisons w', Poisons (r.destination r.config.poisonTopic) topic m e poisons ∧
      r.recorded.poison topic m e w = (.ok (), w') ∧ Passed w poisons 0 w' := by
  have hconfig : r.recorded.config = r.config := rfl
  unfold Router.poison
  rw [hconfig]
  cases r.config.poisonTopic with
  | none => exact ⟨[], w, .nowhere (by simp [Router.destination]), rfl, .refl w⟩
  | some poisonTopic =>
    cases hpublisher : r.publisher with
    | none =>
      simp only [Router.recorded, hpublisher, Option.map_none]
      exact ⟨[], w, .nowhere (by simp [Router.destination, hpublisher]), rfl, .refl w⟩
    | some publisher =>
      simp only [Router.recorded, hpublisher, Option.map_some]
      have hsomewhere : r.destination (some poisonTopic) = some poisonTopic := by
        simp [Router.destination, hpublisher]
      have hpassed := recorded_passed
        (hp publisher (by simp [hpublisher]) (Context.ofMessage m w.scopes).1 poisonTopic
          (Router.poisonCopy m topic e))
        (fun _ o => .sent poisonTopic (Router.poisonCopy m topic e) o)
        { w with scopes := (Context.ofMessage m w.scopes).2 }
      exact ⟨_, _, .copied hsomewhere _, rfl, hpassed.record, hpassed.stats⟩

/-- How the attempts and the publication of what they produced end, before a panic of the publisher is
caught. -/
theorem answer_passed [RetryLoop] (hn : (next m).Uncounted)
    (hp : ∀ p ∈ r.publisher, ∀ ctx topic out, (p.send ctx topic out).Uncounted) (target : Option String)
    (w : World (ξ × List DeliveryEvent)) :
    ∃ attempts last sends, Tried r.config.maxRetries attempts last ∧
      Follows (r.destination target) m last sends
        ((r.recorded.chain next.recorded m >>= r.recorded.forward m target) w).1 ∧
      Passed w (attempts.map (.called m) ++ sends) (panicsIn attempts)
        ((r.recorded.chain next.recorded m >>= r.recorded.forward m target) w).2 := by
  obtain ⟨attempts, last, htried, hresult, hpassed⟩ := chain_passed (r := r) hn w
  cases hchain : r.recorded.chain next.recorded m w with
  | mk o w' =>
    rw [hchain] at hresult hpassed
    cases hlast : recovered last with
    | error e =>
      rw [hlast] at hresult
      obtain rfl : o = .error e := hresult
      rw [Action.bind_error hchain]
      refine ⟨attempts, last, [], htried, .failed hlast, ?_⟩
      rw [List.append_nil]
      exact hpassed
    | ok produced =>
      rw [hlast] at hresult
      obtain rfl : o = .ok (answered m produced) := hresult
      obtain rfl : last = .ok produced := recovered_eq_ok_iff.mp hlast
      obtain ⟨sends, hfollows, hsent⟩ := forward_passed hp target produced w'
      rw [Action.bind_ok hchain]
      exact ⟨attempts, .ok produced, sends, htried, hfollows, hpassed.trans hsent⟩

/-- What a handler and the publication of its products come to. -/
theorem handle_passed [RetryLoop] (hn : (next m).Uncounted)
    (hp : ∀ p ∈ r.publisher, ∀ ctx topic out, (p.send ctx topic out).Uncounted) (target : Option String)
    (w : World (ξ × List DeliveryEvent)) :
    ∃ attempts last sends verdict, Tried r.config.maxRetries attempts last ∧
      Follows (r.destination target) m last sends verdict ∧
      (r.recorded.handle (r.recorded.routeTo s.recorded target next.recorded) m w).1 =
        .ofExcept (recovered verdict) ∧
      Passed w (attempts.map (.called m) ++ sends) (panicsIn attempts + panicsIn [verdict])
        (r.recorded.handle (r.recorded.routeTo s.recorded target next.recorded) m w).2 := by
  obtain ⟨attempts, last, sends, htried, hfollows, hpassed⟩ := answer_passed hn hp target w
  refine ⟨attempts, last, sends, _, htried, hfollows, ?_⟩
  simp only [Router.handle, Router.routeTo, Action.bind_attempt]
  generalize (r.recorded.chain next.recorded m >>= r.recorded.forward m target) w = result at hpassed
  obtain ⟨verdict, w'⟩ := result
  cases verdict with
  | ok v => exact ⟨rfl, hpassed⟩
  | error e => exact ⟨rfl, hpassed⟩
  | panic p => exact ⟨rfl, hpassed.countPanic⟩

/-- Telling the broker about a message. -/
theorem settleWith_passed {a : Action (World ξ) BrokerError Unit} (h : a.Uncounted)
    (hreturns : a.Returns) (event : DeliveryEvent) (f : BrokerError → SubscribeError)
    (w : World (ξ × List DeliveryEvent)) :
    ∃ w', (Router.settleWith ((a.recorded fun _ _ => event).mapError f) w : Outcome ε Unit × _) =
        (.ok (), w') ∧
      Passed w [event] 0 w' := by
  have hpassed := recorded_passed h (fun _ _ => event) w
  rcases (hreturns.recorded fun _ _ => event).cases w with ⟨v, w', hw⟩ | ⟨e, w', hw⟩
  · rw [hw] at hpassed
    simp only [Router.settleWith, Action.bind_attempt, Action.mapError, hw]
    exact ⟨w', rfl, hpassed⟩
  · rw [hw] at hpassed
    simp only [Router.settleWith, Action.bind_attempt, Action.mapError, hw]
    exact ⟨w', rfl, hpassed⟩

end Whole

/-- What surrounds a message: there is no middleware but the router's own, nobody but the router counts,
and the broker does not panic when it is told of the message. -/
structure Undisturbed (r : Router ξ) (s : Subscription ξ) (next : Handler ξ) (m : Message) :
    Prop where
  plain : r.middleware = []
  handler : (next m).Uncounted
  publisher : ∀ p ∈ r.publisher, ∀ ctx topic out, (p.send ctx topic out).Uncounted
  ack : (s.broker.ack s.topic m.uuid).Uncounted ∧ (s.broker.ack s.topic m.uuid).Returns
  nack : ∀ reason, (s.broker.nack s.topic m.uuid reason).Uncounted ∧
    (s.broker.nack s.topic m.uuid reason).Returns

section Fate

variable {r : Router ξ} {s : Subscription ξ} {next : Handler ξ} {m : Message}

/-- A message is settled once its handler and the publication of its products came to an end. -/
theorem settle_passed [RetryLoop] (h : Undisturbed r s next m) (target : Option String)
    {w w' : World (ξ × List DeliveryEvent)} {verdict : Except HandlerError Unit}
    (hhandle : r.recorded.handle (r.recorded.routeTo s.recorded target next.recorded) m w =
      (.ofExcept verdict, w')) :
    ∃ settling w'', Settles (r.destination r.config.poisonTopic) s.topic m verdict settling ∧
      r.recorded.process (r.recorded.routeTo s.recorded target next.recorded) m w = (.ok (), w'') ∧
      w''.record = w'.record ++ settling ∧ w''.stats = w'.stats.counting 0 verdict := by
  simp only [Router.process, Action.bind_attempt, hhandle]
  cases verdict with
  | ok v =>
    obtain ⟨w₁, hack, hpassed⟩ := settleWith_passed (ε := Empty) h.ack.1 h.ack.2
      (.acked s.topic m.uuid) (fun cause => .ack m.uuid cause) w'
    refine ⟨_, _, .acked, Action.bind_ok hack, hpassed.record, ?_⟩
    show { w₁.stats with handled := w₁.stats.handled + 1 } = w'.stats.counting 0 (.ok ())
    rw [hpassed.stats]
    rfl
  | error e =>
    obtain ⟨poisons, w₁, hpoisons, hpoison, hcopied⟩ :=
      poison_passed (r := r) (m := m) h.publisher s.topic e w'
    obtain ⟨w₂, hnack, hnacked⟩ := settleWith_passed (ε := Empty) (h.nack e.message).1
      (h.nack e.message).2 (.nacked s.topic m.uuid e.message) (fun cause => .ack m.uuid cause) w₁
    refine ⟨_, _, .nacked hpoisons, (Action.bind_ok hpoison).trans (Action.bind_ok hnack), ?_, ?_⟩
    · exact (hcopied.trans hnacked).record
    · show { w₂.stats with failed := w₂.stats.failed + 1 } = w'.stats.counting 0 (.error e)
      rw [(hcopied.trans hnacked).stats]
      rfl

/-- **What becomes of a message.** The handler is called until an attempt is decisive or none is left;
what the last attempt produced is published, up to the first message that fails; the message is
acknowledged if nothing went wrong and refused otherwise, once, and counted as the one or the other. -/
theorem processed_once [RetryLoop] (h : Undisturbed r s next m) (target : Option String) (w : World ξ) :
    ∃ attempts last sends verdict settling, Tried r.config.maxRetries attempts last ∧
      Follows (r.destination target) m last sends verdict ∧
      Settles (r.destination r.config.poisonTopic) s.topic m (recovered verdict) settling ∧
      (r.recorded.processSafely (r.recorded.routeTo s.recorded target next.recorded) m
        w.observed).record = attempts.map (.called m) ++ sends ++ settling ∧
      (r.processSafely (r.routeTo s target next) m w).stats =
        w.stats.counting (panicsIn attempts + panicsIn [verdict]) (recovered verdict) ∧
      (r.recorded.processSafely (r.recorded.routeTo s.recorded target next.recorded) m
        w.observed).bare = r.processSafely (r.routeTo s target next) m w := by
  obtain ⟨attempts, last, sends, verdict, htried, hfollows, hresult, hpassed⟩ :=
    handle_passed (s := s) h.handler h.publisher target w.observed
  cases hhandle : r.recorded.handle (r.recorded.routeTo s.recorded target next.recorded) m
      w.observed with
  | mk o w' =>
    rw [hhandle] at hresult hpassed
    obtain rfl : o = .ofExcept (recovered verdict) := hresult
    obtain ⟨settling, w'', hsettles, hprocess, hrecord, hstats⟩ := settle_passed h target hhandle
    have hafter : r.recorded.processSafely (r.recorded.routeTo s.recorded target next.recorded) m
        w.observed = w'' := by
      simp only [Router.processSafely, hprocess]
    have hbare := Router.processSafely_bare h.plain s target next m w
    refine ⟨attempts, last, sends, verdict, settling, htried, hfollows, hsettles, ?_, ?_, hbare⟩
    · rw [hafter, hrecord, hpassed.record]
      rfl
    · rw [← hbare, hafter]
      show w''.stats = _
      rw [hstats, hpassed.stats]
      cases recovered verdict <;> rfl

end Fate

/-! ## A message that is refused in the end -/

/-- A handler that panics at the first message and produces two at any other. -/
def wavering : Handler Nat := fun _ => World.onExtra fun calls =>
  if calls = 0 then (.panic (.because "not ready"), calls + 1)
  else (.ok [{ uuid := "a" }, { uuid := "b" }], calls + 1)

/-- A publisher that refuses the message `b`. -/
def choosy : Publisher Nat where
  send _ topic m := fun w => (if m.uuid = "b" then .error (.missingEvent topic) else .ok (), w)

/-- A router that tries a message twice and copies what it refuses. -/
def waveringRouter : Router Nat where
  subscriber := .ofBroker .ofQueue
  publisher := some choosy
  config := { maxRetries := 1, poisonTopic := some "poison" }

/-- A subscription of the queue. -/
def arrivals : Subscription Nat where
  topic := "in"
  feed := 0
  broker := .ofQueue
  ctx := { scope := 9 }

/-- The message. -/
def arrival : Message := { uuid := "m" }

/-- What becomes of it, on record. -/
def refusal : World (Nat × List DeliveryEvent) :=
  waveringRouter.recorded.processSafely
    (waveringRouter.recorded.routeTo arrivals.recorded (some "out") wavering.recorded) arrival
    (World.observed { extra := 0 })

theorem arrival_undisturbed : Undisturbed waveringRouter arrivals wavering arrival where
  plain := rfl
  handler _ := rfl
  publisher p hp := by
    obtain rfl : choosy = p := by simpa [waveringRouter] using hp
    exact fun _ _ _ _ => rfl
  ack := ⟨fun _ => rfl, fun _ _ => nofun⟩
  nack _ := ⟨fun _ => rfl, fun _ _ => nofun⟩

/-- The second attempt goes well, but one of its two messages is not published: the message is refused. -/
theorem arrival_refused :
    Undisturbed waveringRouter arrivals wavering arrival ∧
      (∃ attempts last sends verdict settling, Tried 1 attempts last ∧
        Follows (some "out") arrival last sends verdict ∧
        Settles (some "poison") "in" arrival (recovered verdict) settling ∧
        refusal.record = attempts.map (.called arrival) ++ sends ++ settling ∧
        (waveringRouter.processSafely (waveringRouter.routeTo arrivals (some "out") wavering) arrival
          { extra := 0 }).stats =
          Stats.counting {} (panicsIn attempts + panicsIn [verdict]) (recovered verdict)) ∧
      refusal.record =
        [.called arrival (.panic (.because "not ready")),
          .called arrival (.ok [{ uuid := "a" }, { uuid := "b" }]),
          .sent "out" { uuid := "a" } (.ok ()),
          .sent "out" { uuid := "b" } (.error (.missingEvent "out")),
          .sent "poison" (Router.poisonCopy arrival "in" (.publish (.missingEvent "out"))) (.ok ()),
          .nacked "in" "m" "cannot publish out: no event given"] ∧
      refusal.stats = { handled := 0, failed := 1, panics := 1 } := by
  refine ⟨arrival_undisturbed, ?_, by decide +kernel, by decide +kernel⟩
  obtain ⟨attempts, last, sends, verdict, settling, htried, hfollows, hsettles, hrecord, hstats, -⟩ :=
    processed_once arrival_undisturbed (some "out") { extra := 0 }
  exact ⟨attempts, last, sends, verdict, settling, htried, hfollows, hsettles, hrecord, hstats⟩

end SymbolRelay
