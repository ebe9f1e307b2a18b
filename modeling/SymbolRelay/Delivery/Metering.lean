import SymbolRelay.Delivery.Subscription

/-!
# Metered publishers and subscribers

A metered publisher or subscriber counts, topic by topic, its calls and how they end. Counting is best
effort: a recorder that panics changes nothing about the call.

## Definitions

* `Metering.observe` — a call that is measured;
* `Publisher.metered`, `Subscriber.metered` — publishers and subscribers whose calls are.
-/

set_option autoImplicit false

namespace SymbolRelay

/-- What takes the measurements; it sees nothing but the extra part of the world. -/
structure Recorder (ξ : Type) where
  increment (metric topic : String) : Action ξ Empty Unit
  sample (metric topic : String) : Action ξ Empty Unit

/-- The recorder that keeps nothing. -/
def Recorder.silent {ξ : Type} : Recorder ξ := ⟨fun _ _ => pure (), fun _ _ => pure ()⟩

/-- The names under which one kind of call is measured. -/
structure MetricNames where
  attempts : String
  success : String
  errors : String
  duration : String
  deriving DecidableEq, Repr

/-- The names for publishing. -/
def publishMetrics : MetricNames where
  attempts := "txpublish_publish_attempts_total"
  success := "txpublish_publish_success_total"
  errors := "txpublish_publish_errors_total"
  duration := "txpublish_publish_duration_seconds"

/-- The names for subscribing. -/
def subscribeMetrics : MetricNames where
  attempts := "txpublish_subscribe_attempts_total"
  success := "txpublish_subscribe_success_total"
  errors := "txpublish_subscribe_errors_total"
  duration := "txpublish_subscribe_duration_seconds"

/-- All names. -/
def metricNames : List String :=
  [publishMetrics, subscribeMetrics].flatMap fun n => [n.attempts, n.success, n.errors, n.duration]

namespace Metering

variable {ξ ε α : Type}

/-- Records something and forgets how that ended. -/
def bestEffort (record : Action ξ Empty Unit) : Action (World ξ) ε Unit := fun w =>
  (.ok (), (World.onExtra record w).2)

/-- Records how a call ended, with its duration. A recorder that panics at the first does not get to
the second. -/
def recordEnd (r : Recorder ξ) (names : MetricNames) (topic : String) (succeeded : Bool) :
    Action (World ξ) ε Unit :=
  bestEffort do
    r.increment (if succeeded then names.success else names.errors) topic
    r.sample names.duration topic

/-- Measures a call. One that panics leaves the attempt only. -/
def observe (r : Recorder ξ) (names : MetricNames) (topic : String) (call : Action (World ξ) ε α) :
    Action (World ξ) ε α := do
  bestEffort (r.increment names.attempts topic)
  match ← Action.attempt call with
  | .panic p => Action.raise p
  | outcome =>
    recordEnd r names topic outcome.isOk
    Action.ofOutcome outcome

end Metering

/-- A publisher whose calls are measured. -/
def Publisher.metered {ξ : Type} (r : Recorder ξ) (p : Publisher ξ) : Publisher ξ where
  send ctx topic m := Metering.observe r publishMetrics topic (p.send ctx topic m)

/-- A subscriber whose subscribe calls are measured. -/
def Subscriber.metered {ξ : Type} (r : Recorder ξ) (s : Subscriber ξ) : Subscriber ξ where
  subscribe ctx topic := Metering.observe r subscribeMetrics topic (s.subscribe ctx topic)
  close := s.close

end SymbolRelay
