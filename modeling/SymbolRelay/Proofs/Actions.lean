import SymbolRelay.World

/-!
# Actions, one after the other and on the record

A sequence of actions is taken apart by how its first action ended. To say what was called, in which
order and how it ended, a world keeps a record beside its extra part: an action made for a world without
a record runs in one all the same and leaves the record alone, and a recorded action adds one entry.

## Results

* `bind_ok`, `bind_error`, `bind_panic` — a sequence goes on exactly after a value;
* `Returns.cases` — an action that returns has a value or an error;
* `unseen_mirrors`, `recorded_mirrors` — an action among records does what it does without them;
* `Mirrors.bind`, `Mirrors.attempt`, `Mirrors.mapError` — and so does what is made of such actions.
-/

set_option autoImplicit false

namespace SymbolRelay

namespace Action

variable {σ ε δ α β : Type} {a : Action σ ε α} {f : α → Action σ ε β} {s s' : σ}

theorem bind_ok {v : α} (h : a s = (.ok v, s')) : (a >>= f) s = f v s' := by
  simp only [Bind.bind, Action.bind, h]

theorem bind_error {e : ε} (h : a s = (.error e, s')) : (a >>= f) s = (.error e, s') := by
  simp only [Bind.bind, Action.bind, h]

theorem bind_panic {p : Panic} (h : a s = (.panic p, s')) : (a >>= f) s = (.panic p, s') := by
  simp only [Bind.bind, Action.bind, h]

theorem bind_attempt {f : Outcome ε α → Action σ δ β} :
    ((attempt a : Action σ δ (Outcome ε α)) >>= f) s = f (a s).1 (a s).2 := rfl

/-- Changing the value of an action changes nothing else. -/
theorem bind_pure_apply (a : Action σ ε α) (g : α → β) (s : σ) :
    (a >>= fun v => Pure.pure (g v)) s = ((a s).1.map g, (a s).2) := by
  cases hr : a s with
  | mk o s' =>
    cases o with
    | ok v => exact bind_ok hr
    | error e => exact bind_error hr
    | panic p => exact bind_panic hr

theorem map_ofExcept (x : Except ε α) (g : α → β) :
    (Outcome.ofExcept x).map g = .ofExcept (x.map g) := by
  cases x <;> rfl

/-- An action that returns, well or with an error. -/
def Returns (a : Action σ ε α) : Prop := ∀ s p, (a s).1 ≠ .panic p

/-- An action that returns has a value or an error. -/
theorem Returns.cases (h : a.Returns) (s : σ) :
    (∃ v s', a s = (.ok v, s')) ∨ ∃ e s', a s = (.error e, s') := by
  cases hr : a s with
  | mk o s' =>
    cases o with
    | ok v => exact .inl ⟨v, s', rfl⟩
    | error e => exact .inr ⟨e, s', rfl⟩
    | panic p => exact absurd (by rw [hr]) (h s p)

end Action

/-! ## Keeping a record -/

variable {ξ κ ε α : Type}

namespace World

/-- The world with an empty record. -/
def observed (w : World ξ) : World (ξ × List κ) := { w with extra := (w.extra, []) }

/-- What was recorded so far. -/
def record (w : World (ξ × List κ)) : List κ := w.extra.2

/-- The world without its record. -/
def bare (w : World (ξ × List κ)) : World ξ := { w with extra := w.extra.1 }

/-- The world with a record. -/
def withRecord (w : World ξ) (record : List κ) : World (ξ × List κ) :=
  { w with extra := (w.extra, record) }

end World

namespace Action

/-- An action that knows nothing of the record. -/
def unseen (a : Action (World ξ) ε α) : Action (World (ξ × List κ)) ε α := fun w =>
  let (o, v) := a w.bare
  (o, v.withRecord w.record)

/-- An action with an entry for it in the record, written from the world that it met and from how it
ended. -/
def recorded (entry : World ξ → Outcome ε α → κ) (a : Action (World ξ) ε α) :
    Action (World (ξ × List κ)) ε α := fun w =>
  let (o, v) := a w.bare
  (o, v.withRecord (w.record ++ [entry w.bare o]))

theorem recorded_apply (entry : World ξ → Outcome ε α → κ) (a : Action (World ξ) ε α)
    (w : World (ξ × List κ)) :
    a.recorded entry w =
      ((a w.bare).1, (a w.bare).2.withRecord (w.record ++ [entry w.bare (a w.bare).1])) := rfl

theorem Returns.recorded {a : Action (World ξ) ε α} (h : a.Returns)
    (entry : World ξ → Outcome ε α → κ) : (a.recorded entry).Returns := fun w p => h w.bare p

/-! ## Doing the same without records -/

/-- An action that does among records what another one does without them. -/
def Mirrors (a' : Action (World (ξ × List κ)) ε α) (a : Action (World ξ) ε α) : Prop :=
  ∀ w, ((a' w).1, (a' w).2.bare) = a w.bare

theorem unseen_mirrors (a : Action (World ξ) ε α) :
    Mirrors (a.unseen : Action (World (ξ × List κ)) ε α) a := fun _ => rfl

theorem recorded_mirrors (entry : World ξ → Outcome ε α → κ) (a : Action (World ξ) ε α) :
    Mirrors (a.recorded entry) a := fun _ => rfl

theorem ofOutcome_mirrors (o : Outcome ε α) :
    Mirrors (ofOutcome o : Action (World (ξ × List κ)) ε α) (ofOutcome o) := fun _ => rfl

theorem fail_mirrors (e : ε) :
    Mirrors (fail e : Action (World (ξ × List κ)) ε α) (fail e) := ofOutcome_mirrors (.error e)

theorem modify_mirrors {f' : World (ξ × List κ) → World (ξ × List κ)} {f : World ξ → World ξ}
    (h : ∀ w, (f' w).bare = f w.bare) :
    Mirrors (modify f' : Action (World (ξ × List κ)) ε Unit) (modify f) := fun w =>
  congrArg (Prod.mk _) (h w)

namespace Mirrors

variable {δ β : Type} {a' : Action (World (ξ × List κ)) ε α} {a : Action (World ξ) ε α}

theorem outcome (ha : Mirrors a' a) (w : World (ξ × List κ)) : (a' w).1 = (a w.bare).1 := by
  rw [← ha w]

theorem world (ha : Mirrors a' a) (w : World (ξ × List κ)) : (a' w).2.bare = (a w.bare).2 := by
  rw [← ha w]

theorem bind {f' : α → Action (World (ξ × List κ)) ε β} {f : α → Action (World ξ) ε β}
    (ha : Mirrors a' a) (hf : ∀ v, Mirrors (f' v) (f v)) : Mirrors (a' >>= f') (a >>= f) := by
  intro w
  have h := ha w
  cases hr : a' w with
  | mk o w' =>
    rw [hr] at h
    cases o with
    | ok v =>
      rw [bind_ok hr, bind_ok h.symm]
      exact hf v w'
    | error e => rw [bind_error hr, bind_error h.symm]
    | panic p => rw [bind_panic hr, bind_panic h.symm]

theorem attempt (ha : Mirrors a' a) :
    Mirrors (Action.attempt a' : Action (World (ξ × List κ)) δ (Outcome ε α)) (Action.attempt a) := by
  intro w
  simp only [Action.attempt, ← ha w]

theorem mapError (f : ε → δ) (ha : Mirrors a' a) : Mirrors (a'.mapError f) (a.mapError f) := by
  intro w
  simp only [Action.mapError, ← ha w]

end Mirrors

end Action

end SymbolRelay
