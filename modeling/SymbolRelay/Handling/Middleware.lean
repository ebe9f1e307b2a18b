import SymbolRelay.Handling.Backoff
import SymbolRelay.Handling.HandlerError
import SymbolRelay.World

/-!
# Handlers and what is wrapped around them

A handler looks at a message and gives the messages that it produces. A middleware wraps a handler
into another one. Three of them are around every handler, outermost first:

```text
correlating ─► retrying ─► recovering ─► handler
```

## Results

* `recovering_ne_panic` — a recovered handler never panics;
* `attempts_zero`, `attempts_succ` — what the attempts at a message do;
* `retrying_of_ok` — an attempt that goes well is the last.
-/

set_option autoImplicit false

namespace SymbolRelay

/-- What handles messages. -/
abbrev Handler (ξ : Type) : Type := Message → Action (World ξ) HandlerError (List Message)

/-- What makes a handler out of another. -/
abbrev Middleware (ξ : Type) : Type := Handler ξ → Handler ξ

namespace Handler

variable {ξ : Type}

/-- The handler that only consumes. -/
def ofConsumer (f : Message → Action (World ξ) HandlerError Unit) : Handler ξ := fun m => do
  f m
  return []

/-- Gives a produced message a value of the message it answers, unless it has one of its own. -/
def inherit (inbound : Message) (produced : Message) (key : String) : Message :=
  match inbound.value? key with
  | some value => produced.setAbsent key value
  | none => produced

/-- Hands the correlation and request ids on to what is produced. -/
def correlating : Middleware ξ := fun next m => do
  let produced ← next m
  return produced.map fun out => [Header.correlationId, Header.requestId].foldl (inherit m) out

/-- Turns a panic into an error, and counts it if asked to. -/
def recovering (counting : Bool) : Middleware ξ := fun next m => do
  match ← Action.attempt (next m) with
  | .panic p =>
    if counting then Action.modify World.countPanic
    Action.fail (.panicked p.reason)
  | outcome => Action.ofOutcome outcome

/-- What is told before a message is tried again. -/
def notice (b : Backoff) (m : Message) (attempt : Nat) (delay : Duration) (e : HandlerError) :
    RetryNotice where
  messageId := m.uuid
  attempt
  maxRetries := b.maxRetries
  delayMillis := delay.millis % 2 ^ 64
  error := e.message

/-- Tries a message again so many times, as long as that may help. `made` attempts were made before; a
count of them is kept beside the world, for the notices. -/
def attempts [RetryLoop] (b : Backoff) (next : Handler ξ) (m : Message) (left made : Nat) :
    Action (World ξ) HandlerError (List Message) := fun w =>
  let (o, (w, _)) :=
    RetryLoop.retry left (fun n => RetryLoop.delay b (made + n)) HandlerError.isRetryable
      (fun e delay (w, made) => ({ w with notices := w.notices ++ [notice b m made delay e] }, made))
      (next m).counted (w, made)
  (o, w)

/-- Tries a message again as a policy says. -/
def retrying [RetryLoop] (b : Backoff) : Middleware ξ := fun next m => attempts b next m b.maxRetries 0

theorem recovering_ne_panic (counting : Bool) (next : Handler ξ) (m : Message) (w : World ξ)
    (p : Panic) : (recovering counting next m w).1 ≠ .panic p := by
  simp only [recovering, bind, Action.bind, Action.attempt]
  cases h : (next m w).1 <;> simp only [Action.ofOutcome]
  · exact nofun
  · exact nofun
  · cases counting <;> exact nofun

/-- The last attempt decides. -/
@[simp] theorem attempts_zero [RetryLoop] (b : Backoff) (next : Handler ξ) (m : Message) (made : Nat) :
    attempts b next m 0 made = next m := by
  funext w
  simp only [attempts, RetryLoop.retry_zero, Action.counted]

/-- An attempt before the last decides unless it fails with an error that may pass; then the next one is
told of, and made. -/
theorem attempts_succ [RetryLoop] (b : Backoff) (next : Handler ξ) (m : Message) (left made : Nat) :
    attempts b next m (left + 1) made = (do
      match ← Action.attempt (next m) with
      | .ok produced => return produced
      | .panic p => Action.raise p
      | .error e =>
        if e.isRetryable then
          Action.modify fun w =>
            { w with notices := w.notices ++ [notice b m (made + 1) (RetryLoop.delay b made) e] }
          attempts b next m left (made + 1)
        else Action.fail e) := by
  funext w
  have later : (fun n => RetryLoop.delay b (made + (n + 1))) =
      fun n => RetryLoop.delay b (made + 1 + n) := by
    funext n
    rw [Nat.add_right_comm, Nat.add_assoc]
  simp only [attempts, RetryLoop.retry_succ, later, bind, Action.bind, Action.attempt, Action.counted]
  cases h : (next m w).1 with
  | ok produced => rfl
  | panic p => rfl
  | error e =>
    by_cases he : e.isRetryable = true
    · simp only [if_pos he]
      rfl
    · simp only [if_neg he]
      rfl

theorem retrying_of_ok [RetryLoop] (b : Backoff) (next : Handler ξ) (m : Message) {w : World ξ}
    {produced : List Message} (h : (next m w).1 = .ok produced) :
    retrying b next m w = next m w := by
  unfold retrying
  cases b.maxRetries with
  | zero => rw [attempts_zero]
  | succ left =>
    simp only [attempts_succ, bind, Action.bind, Action.attempt, h]
    exact Prod.ext h.symm rfl

end Handler

end SymbolRelay
