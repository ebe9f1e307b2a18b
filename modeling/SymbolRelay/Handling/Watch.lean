import SymbolRelay.Handling.Dispatch

/-!
# Runs under watch

A run of a router is watched from outside: which message each step takes, and what that step acks and
nacks. Watching adds nothing to a run, it only reads what the run does.

## Definitions

* `Run.next?` — the message that the next step takes;
* `Settlement.ofStep` — what a step is seen to have done with it;
* `Watch.step`, `Watch.steps` — a run that is watched, step by step.
-/

set_option autoImplicit false

namespace SymbolRelay

variable {ξ : Type}

/-- What was seen of a step that took a message: its topic, the message, and what the step acked and
nacked. -/
structure Settlement where
  topic : String
  message : Message
  acked : List String
  nacked : List (String × String)

/-- What a step that took a message is seen to have done. -/
def Settlement.ofStep (topic : String) (m : Message) (w w' : World ξ) : Settlement where
  topic
  message := m
  acked := w'.queue.acked.drop w.queue.acked.length
  nacked := w'.queue.nacked.drop w.queue.nacked.length

/-- The message that the next step of a run takes, with its topic. -/
def Run.next? (run : Run ξ) (w : World ξ) : Option (String × Message) :=
  match run.point with
  | .round _ (route :: _) _ =>
    if w.control.closing then none
    else
      match (route.subscription.tryReceive w).1 with
      | .ok (some m) => some (route.subscription.topic, m)
      | _ => none
  | _ => none

/-- Whether the next step of a run begins a pass. -/
def Run.beginsPass (run : Run ξ) : Bool :=
  match run.point with
  | .top _ | .resting _ => true
  | _ => false

/-- A run that is watched, in its world: what was settled so far, and the log of the queue when the
present pass began. -/
structure Watch (ξ : Type) where
  run : Run ξ
  world : World ξ
  settled : List Settlement := []
  passLog : List (String × Message) := []

namespace Watch

/-- A run that begins. -/
def begin [RetryLoop] (r : Router ξ) (ctx : Context) (w : World ξ) : Watch ξ where
  run := (Run.start r ctx w).1
  world := (Run.start r ctx w).2

/-- The next step of the run. -/
def step (r : Router ξ) (s : Watch ξ) : Watch ξ where
  run := (s.run.step r s.world).1
  world := (s.run.step r s.world).2
  settled := s.settled ++ (s.run.next? s.world).toList.map fun taken =>
    .ofStep taken.1 taken.2 s.world (s.run.step r s.world).2
  passLog := if s.run.beginsPass then s.world.queue.log else s.passLog

/-- So many steps of the run. -/
def steps (s : Watch ξ) (r : Router ξ) : Nat → Watch ξ
  | 0 => s
  | n + 1 => (s.step r).steps r n

end Watch

end SymbolRelay
