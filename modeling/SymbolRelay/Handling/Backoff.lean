import SymbolRelay.Action
import SymbolRelay.Duration

/-!
# Backoff

How often something is tried again, and how long to wait before that. The delays of a policy and the
loop that keeps to them are backon's; the program only says what is called, which errors are worth
another call, and what is told before it.

## Definitions

* `Backoff` — a policy;
* `RetryLoop` — what is relied on of backon.
-/

set_option autoImplicit false

namespace SymbolRelay

/-- How often and with what delays something is tried again. -/
structure Backoff where
  maxRetries : Nat
  initial : Duration
  multiplier : Float32
  greatest : Duration
  deriving BEq, Repr

/-- The policy with so many retries and this initial delay: delays double up to a second. -/
def Backoff.doubling (maxRetries : Nat) (initial : Duration) : Backoff where
  maxRetries
  initial
  multiplier := 2
  greatest := Duration.ofSecs 1

/-- The library backon, which is no part of the program: its delays, of which nothing is relied on, and
its loop as documented. A call that fails with an error worth it is made again, up to so many times; what
notices that is told the error and the delay first. Sleeping through the delay changes nothing. -/
class RetryLoop : Type 1 where
  /-- The delay before a retry of a policy, the first one at 0. -/
  delay : Backoff → Nat → Duration
  /-- Calls, and calls again up to so many times. -/
  retry {σ ε α : Type} (times : Nat) (delay : Nat → Duration) (worthIt : ε → Bool)
    (notify : ε → Duration → σ → σ) (call : Action σ ε α) : Action σ ε α
  /-- Without a retry left, the call is made once and decides. -/
  retry_zero {σ ε α : Type} (delay : Nat → Duration) (worthIt : ε → Bool)
    (notify : ε → Duration → σ → σ) (call : Action σ ε α) :
    retry 0 delay worthIt notify call = call
  /-- With a retry left, an error worth it leads to the rest of the loop. -/
  retry_succ {σ ε α : Type} (times : Nat) (delay : Nat → Duration) (worthIt : ε → Bool)
    (notify : ε → Duration → σ → σ) (call : Action σ ε α) :
    retry (times + 1) delay worthIt notify call = do
      match ← Action.attempt call with
      | .ok value => return value
      | .panic p => Action.raise p
      | .error e =>
        if worthIt e then
          Action.modify (notify e (delay 0))
          retry times (fun n => delay (n + 1)) worthIt notify call
        else Action.fail e

end SymbolRelay
