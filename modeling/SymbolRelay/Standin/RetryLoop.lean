import SymbolRelay.Handling.Backoff

/-!
# A retry loop that runs

Stands for backon. The first delay of a policy is the initial one; each later one is the delay before
times the multiplier, up to the greatest. The loop does not sleep.

## Results

* `Backoff.delay_succ_le` — no delay but the first exceeds the greatest.
-/

set_option autoImplicit false

namespace SymbolRelay

namespace Backoff

/-- The delay after another one. -/
def delayAfter (b : Backoff) (last : Duration) : Duration :=
  Duration.min (if last.nanos < b.greatest.nanos then last.scale b.multiplier else last) b.greatest

/-- The delay before a retry, the first one at 0. -/
def delay (b : Backoff) : Nat → Duration
  | 0 => b.initial
  | n + 1 => b.delayAfter (b.delay n)

theorem delay_succ_le (b : Backoff) (n : Nat) : (b.delay (n + 1)).nanos ≤ b.greatest.nanos :=
  Duration.min_nanos_le_right _ _

end Backoff

/-- Makes a call, and makes it again up to so many times. -/
def retryUpTo {σ ε α : Type} (worthIt : ε → Bool) (notify : ε → Duration → σ → σ)
    (call : Action σ ε α) : Nat → (Nat → Duration) → Action σ ε α
  | 0, _ => call
  | times + 1, delay => do
    match ← Action.attempt call with
    | .ok value => return value
    | .panic p => Action.raise p
    | .error e =>
      if worthIt e then
        Action.modify (notify e (delay 0))
        retryUpTo worthIt notify call times fun n => delay (n + 1)
      else Action.fail e

instance : RetryLoop where
  delay := Backoff.delay
  retry times delay worthIt notify call := retryUpTo worthIt notify call times delay
  retry_zero _ _ _ _ := rfl
  retry_succ _ _ _ _ _ := rfl

end SymbolRelay
