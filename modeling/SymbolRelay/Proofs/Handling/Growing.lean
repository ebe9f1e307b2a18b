import SymbolRelay.Proofs.Delivery.QueueGrowth
import SymbolRelay.Proofs.Handling.Keeping

/-!
# What happens while a message is processed

Handlers, middleware and publishers may do anything to the world but settle messages: as far as they are
concerned the queue only grows. What the router puts around a handler is no different, so that exactly
one thing settles the message at hand: the router itself, at the very end.

## Results

* `chain_growing` — a handler with everything around it settles nothing;
* `processSafely_settles` — a message that is processed is acked once or nacked once, and counted.
-/

set_option autoImplicit false

namespace SymbolRelay

variable {ξ ε δ α β : Type}

/-- The queue grew, and the router counted no message. -/
structure World.Grows (w w' : World ξ) : Prop where
  queue : w.queue.Grows w'.queue
  handled : w'.stats.handled = w.stats.handled
  failed : w'.stats.failed = w.stats.failed

namespace World.Grows

variable {w w' w'' : World ξ}

theorem refl (w : World ξ) : w.Grows w := ⟨.refl, rfl, rfl⟩

theorem trans (h : w.Grows w') (h' : w'.Grows w'') : w.Grows w'' :=
  ⟨h.queue.trans h'.queue, h'.handled.trans h.handled, h'.failed.trans h.failed⟩

theorem tolerant : World.Tolerant (World.Grows : World ξ → World ξ → Prop) where
  aside h := ⟨h.queue ▸ .refl, h.handled, h.failed⟩
  trans := trans

end World.Grows

/-! ## Actions that settle nothing -/

/-- An action under which the queue only grows, however the action ends. -/
def Action.Growing (a : Action (World ξ) ε α) : Prop := ∀ w : World ξ, w.Grows (a w).2

namespace Action.Growing

variable {a : Action (World ξ) ε α}

theorem pure (v : α) : (Pure.pure v : Action (World ξ) ε α).Growing := Keeps.pure World.Grows.tolerant v

theorem bind (h : a.Growing) {f : α → Action (World ξ) ε β} (hf : ∀ v, (f v).Growing) :
    (a >>= f).Growing := Keeps.bind World.Grows.tolerant h hf

end Action.Growing

/-- A handler that settles nothing. -/
def Handler.Growing (next : Handler ξ) : Prop := ∀ m, (next m).Growing

/-- A middleware that settles nothing by itself. -/
def Middleware.Growing (middleware : Middleware ξ) : Prop :=
  ∀ next : Handler ξ, next.Growing → (middleware next).Growing

/-- A publisher that settles nothing. -/
def Publisher.Growing (p : Publisher ξ) : Prop := ∀ ctx topic m, (p.send ctx topic m).Growing

/-- The publisher over the queue is one. -/
theorem Publisher.growing_ofQueue [IdSource] : (Publisher.ofBroker (Broker.ofQueue (ξ := ξ))).Growing := by
  intro ctx topic m w
  have hqueue : ∀ (w : World ξ) (m : Message),
      w.Grows ((Broker.ofQueue.publish topic m : Action (World ξ) BrokerError Unit) w).2 :=
    fun w m => ⟨.publish .refl topic m, rfl, rfl⟩
  have hstamped : w.Grows { w with ids := (stamp ctx topic m w.ids).2 } := ⟨.refl, rfl, rfl⟩
  exact hstamped.trans (hqueue _ _)

namespace Router

variable {r : Router ξ} {handler : Handler ξ}

/-- What the router puts around a handler settles nothing. -/
theorem chain_growing [RetryLoop] (hm : ∀ middleware ∈ r.middleware, middleware.Growing)
    (h : handler.Growing) :
    (r.chain handler).Growing := chain_keeps World.Grows.tolerant hm h

/-! ## Settling -/

/-- A message was settled, after the queue had grown: acked once and counted as handled, or nacked once
and counted as failed. -/
inductive Settled (m : Message) (w : World ξ) : World ξ → Prop where
  | acked {w₁ : World ξ} (h : w.Grows w₁) :
    Settled m w { w₁ with
      queue := w₁.queue.ack m.uuid
      stats := { w₁.stats with handled := w₁.stats.handled + 1 } }
  | nacked {w₁ : World ξ} (h : w.Grows w₁) (reason : String) :
    Settled m w { w₁ with
      queue := w₁.queue.nack m.uuid reason
      stats := { w₁.stats with failed := w₁.stats.failed + 1 } }

/-- **A message that is processed is settled once.** -/
theorem processSafely_settles (hp : ∀ p, r.publisher = some p → p.Growing) {route : Route ξ}
    (hr : route.handler.Growing) (hb : route.subscription.broker = Broker.ofQueue) (m : Message)
    (w : World ξ) : Settled m w (r.processSafely route m w) := by
  have hgrown := judge_keeps World.Grows.tolerant hp hr m w
  obtain ⟨verdict, w', hjudge⟩ := r.judge_returns route m w
  rw [hjudge] at hgrown
  simp only [processSafely, process_eq, Action.bind_ok hjudge, conclude_ofQueue hb]
  cases verdict with
  | none => exact .acked hgrown
  | some e => exact .nacked hgrown e.message

end Router

end SymbolRelay
