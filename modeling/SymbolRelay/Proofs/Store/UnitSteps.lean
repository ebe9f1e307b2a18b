import SymbolRelay.Proofs.Actions
import SymbolRelay.Store.UnitBody

/-!
# What a unit of work does

Every function of a unit of work as a relation with one constructor for each way it can go: how the unit
is entered, how a vote is taken, how the unit is left. They speak of a transactor whose calls return,
with whatever result; a unit itself never panics then unless its body does.

## Results

* `ofStore_returns` — the calls of the store return;
* `entry`, `poll`, `exit` — these are all the ways;
* `run_of_refused`, `run_of_opened` — a run is its entry, its body and its exit;
* `UnitBody.perform_vote` — a body goes on after a vote in one of two ways: it was granted, or refused.
-/

set_option autoImplicit false

namespace SymbolRelay

variable {ξ τ ε α ρ : Type}

/-- A transactor whose calls return. -/
structure Transactor.Returns (t : Transactor ξ τ) : Prop where
  begin : ∀ ctx, (t.begin ctx).Returns
  prepare : ∀ tx, (t.prepare tx).Returns
  commit : ∀ tx, (t.commit tx).Returns
  rollback : ∀ tx, (t.rollback tx).Returns

/-! ## The store as a transactor -/

namespace Storage

variable {w w' : World ξ} {tx tx' : Transaction}

theorem ofStore_begin (ctx : Context) (w : World ξ) :
    ofStore.begin ctx w = (.ok w.store.begin.1, { w with store := w.store.begin.2 }) := rfl

theorem ofStore_prepare_eq_ok_iff :
    ofStore.prepare tx w = (.ok tx', w') ↔
      ∃ store, w.store.prepare tx = .ok (tx', store) ∧ w' = { w with store } := by
  simp only [ofStore, World.onStore]
  cases w.store.prepare tx with
  | error e => simp
  | ok r => simp [Prod.ext_iff, eq_comm, and_assoc]

theorem ofStore_prepare_eq_error_iff {e : DataError} :
    ofStore.prepare tx w = (.error e, w') ↔ w.store.prepare tx = .error e ∧ w' = w := by
  simp only [ofStore, World.onStore]
  cases w.store.prepare tx with
  | error e => simp [eq_comm]
  | ok r => simp

theorem ofStore_commit_of_prepared (h : tx.prepared = true) (w : World ξ) :
    ofStore.commit tx w = (.ok (), { w with store := w.store.apply tx }) := by
  simp [ofStore, World.onStore, Store.commit, h, Except.map]

theorem ofStore_rollback (tx : Transaction) (w : World ξ) :
    ofStore.rollback tx w = (.ok (), { w with store := w.store.rollback tx }) := rfl

/-- Every call of the store returns. -/
theorem ofStore_returns : (ofStore : Storage ξ Transaction).toTransactor.Returns := by
  have honStore : ∀ {β : Type} (f : Store → Except DataError (β × Store)),
      (World.onStore f : Action (World ξ) DataError β).Returns := by
    intro β f w p
    simp only [World.onStore]
    cases f w.store with
    | error e => simp
    | ok r => simp
  constructor
  · exact fun _ => honStore _
  · exact fun _ => honStore _
  · exact fun _ => honStore _
  · exact fun _ => honStore _

end Storage

namespace UnitOfWork

variable {t : Transactor ξ τ} {lift : DataError → ε} {ctx : Context} {u : UnitOfWork τ} {w : World ξ}

/-! ## Entering -/

/-- The world in which a transaction is opened: the unit has its own scope. -/
def boundWorld (ctx : Context) (w : World ξ) : World ξ :=
  { w with scopes := (ctx.bindTransaction w.scopes).2 }

/-- How a unit is entered. -/
inductive Entry (t : Transactor ξ τ) (ctx : Context) (w : World ξ) :
    Outcome DataError (UnitOfWork τ) → World ξ → Prop where
  | bound (h : ctx.inTransaction = true) :
    Entry t ctx w (.error (.transactionFailed "unit of work cannot be reentered")) w
  | cancelled (h : ctx.inTransaction = false) (hc : ctx.isCancelled w.scopes = true) :
    Entry t ctx w (.error (.transactionFailed "context cancelled")) w
  | opened {tx : τ} {w' : World ξ} (h : ctx.inTransaction = false)
      (hc : ctx.isCancelled w.scopes = false)
      (hb : t.begin (ctx.bindTransaction w.scopes).1 (boundWorld ctx w) = (.ok tx, w')) :
    Entry t ctx w (.ok { ctx := (ctx.bindTransaction w.scopes).1, tx }) w'
  | unopened {e : DataError} {w' : World ξ} (h : ctx.inTransaction = false)
      (hc : ctx.isCancelled w.scopes = false)
      (hb : t.begin (ctx.bindTransaction w.scopes).1 (boundWorld ctx w) = (.error e, w')) :
    Entry t ctx w (.error e) w'

theorem entry (returns : t.Returns) (ctx : Context) (w : World ξ) :
    Entry t ctx w (enter t ctx w).1 (enter t ctx w).2 := by
  cases h : ctx.inTransaction with
  | true =>
    rw [enter_of_inTransaction t w h]
    exact .bound h
  | false =>
    cases hc : ctx.isCancelled w.scopes with
    | true =>
      rw [enter_of_cancelled t h hc]
      exact .cancelled h hc
    | false =>
      have heq : enter t ctx w =
          (t.begin (ctx.bindTransaction w.scopes).1 >>= fun tx =>
            pure { ctx := (ctx.bindTransaction w.scopes).1, tx }) (boundWorld ctx w) := by
        simp [enter, h, hc, World.isCancelled, World.onScopes, bind, Action.bind, boundWorld]
      obtain ⟨tx, w', hb⟩ | ⟨e, w', hb⟩ :=
        (returns.begin (ctx.bindTransaction w.scopes).1).cases (boundWorld ctx w)
      · rw [heq, Action.bind_ok hb]
        exact .opened h hc hb
      · rw [heq, Action.bind_error hb]
        exact .unopened h hc hb

/-! ## Voting -/

/-- How the vote on a unit goes. -/
inductive Poll (t : Transactor ξ τ) (u : UnitOfWork τ) (w : World ξ) :
    Outcome DataError (UnitOfWork τ) → World ξ → Prop where
  | kept (h : u.prepared = true) : Poll t u w (.ok u) w
  | cancelled (h : u.prepared = false) (hc : u.ctx.isCancelled w.scopes = true) :
    Poll t u w (.error (.transactionFailed "context cancelled")) w
  | granted {tx : τ} {w' : World ξ} (h : u.prepared = false)
      (hc : u.ctx.isCancelled w.scopes = false) (hv : t.prepare u.tx w = (.ok tx, w')) :
    Poll t u w (.ok { u with tx, prepared := true }) w'
  | refused {e : DataError} {w' : World ξ} (h : u.prepared = false)
      (hc : u.ctx.isCancelled w.scopes = false) (hv : t.prepare u.tx w = (.error e, w')) :
    Poll t u w (.error e) w'

theorem poll (returns : t.Returns) (u : UnitOfWork τ) (w : World ξ) :
    Poll t u w (prepared? t u w).1 (prepared? t u w).2 := by
  cases h : u.prepared with
  | true =>
    rw [vote_of_prepared t w h]
    exact .kept h
  | false =>
    cases hc : u.ctx.isCancelled w.scopes with
    | true =>
      have heq : prepared? t u w = (.error (.transactionFailed "context cancelled"), w) := by
        simp [prepared?, h, hc, World.isCancelled, bind, Action.bind, Action.fail]
      rw [heq]
      exact .cancelled h hc
    | false =>
      have heq : prepared? t u w =
          (t.prepare u.tx >>= fun tx => pure { u with tx, prepared := true }) w := by
        simp [prepared?, h, hc, World.isCancelled, bind, Action.bind]
      obtain ⟨tx, w', hv⟩ | ⟨e, w', hv⟩ := (returns.prepare u.tx).cases w
      · rw [heq, Action.bind_ok hv]
        exact .granted h hc hv
      · rw [heq, Action.bind_error hv]
        exact .refused h hc hv

/-- A vote from inside the unit is the vote on the unit. -/
theorem vote_apply (t : Transactor ξ τ) (w : World ξ) (u : UnitOfWork τ) :
    vote t (w, u) =
      match prepared? t u w with
      | (.ok u', w') => (.ok (), w', u')
      | (.error e, w') => (.error e, w', u)
      | (.panic p, w') => (.panic p, w', u) := by
  simp only [vote, current, inWorld, bind, Action.bind, Action.within, Action.modify]
  cases prepared? t u w with
  | mk o w' => cases o <;> rfl

/-! ## Leaving -/

/-- How a unit is left, given how its body ended. -/
inductive Exit (t : Transactor ξ τ) (lift : DataError → ε) (u : UnitOfWork τ) (w : World ξ) :
    Outcome ε α → Outcome ε α → World ξ → Prop where
  | failed {e : ε} : Exit t lift u w (.error e) (.error e) (t.rollback u.tx w).2
  | panicked {p : Panic} : Exit t lift u w (.panic p) (.panic p) w
  | unvoted {v : α} {e : DataError} {w' : World ξ} (hp : Poll t u w (.error e) w') :
    Exit t lift u w (.ok v) (.error (lift e)) (t.rollback u.tx w').2
  | committed {v : α} {u' : UnitOfWork τ} {w' w'' : World ξ} (hp : Poll t u w (.ok u') w')
      (hc : t.commit u'.tx w' = (.ok (), w'')) : Exit t lift u w (.ok v) (.ok v) w''
  | uncommitted {v : α} {u' : UnitOfWork τ} {w' w'' : World ξ} {e : DataError}
      (hp : Poll t u w (.ok u') w') (hc : t.commit u'.tx w' = (.error e, w'')) :
    Exit t lift u w (.ok v) (.error (lift (commitError e))) w''

theorem abandon_apply (returns : t.Returns) (u : UnitOfWork τ) (e : ε) (w : World ξ) :
    (abandon t u e w : Outcome ε α × World ξ) = (.error e, (t.rollback u.tx w).2) := by
  simp only [abandon, Action.bind_attempt]
  obtain ⟨v, w', hr⟩ | ⟨e', w', hr⟩ := (returns.rollback u.tx).cases w
  · simp only [hr, Action.fail]
  · simp only [hr, Action.fail]

theorem exit (returns : t.Returns) (lift : DataError → ε) (u : UnitOfWork τ) (ended : Outcome ε α)
    (w : World ξ) :
    Exit t lift u w ended (leave t lift u ended w).1 (leave t lift u ended w).2 := by
  cases ended with
  | panic p => exact .panicked
  | error e =>
    simp only [leave]
    rw [abandon_apply returns]
    exact .failed
  | ok v =>
    have hpoll := poll returns u w
    simp only [leave, conclude, Action.bind_attempt]
    cases hv : prepared? t u w with
    | mk o w' =>
      rw [hv] at hpoll
      cases o with
      | panic p => cases hpoll
      | error e =>
        simp only [abandon_apply returns]
        exact .unvoted hpoll
      | ok u' =>
        obtain ⟨⟨⟩, w'', hc⟩ | ⟨e, w'', hc⟩ := (returns.commit u'.tx).cases w'
        · have hmap : (t.commit u'.tx).mapError (fun e => lift (commitError e)) w' =
              (.ok (), w'') := by
            simp [Action.mapError, Outcome.mapError, hc]
          simp only [Action.bind_ok hmap]
          exact .committed hpoll hc
        · have hmap : (t.commit u'.tx).mapError (fun e => lift (commitError e)) w' =
              (.error (lift (commitError e)), w'') := by
            simp [Action.mapError, Outcome.mapError, hc]
          simp only [Action.bind_error hmap]
          exact .uncommitted hpoll hc

/-! ## The whole run -/

theorem run_of_refused {e : DataError} {w' : World ξ} (h : enter t ctx w = (.error e, w'))
    (body : UnitAction ξ τ ε α) : run t lift ctx body w = (.error (lift e), w') := by
  simp [run, bind, Action.bind, Action.mapError, Outcome.mapError, h]

/-- A run of a unit that was entered: the body, then the exit as the body ended. -/
theorem run_of_opened {w' : World ξ} (h : enter t ctx w = (.ok u, w')) (body : UnitAction ξ τ ε α) :
    run t lift ctx body w =
      leave t lift (body (w', u)).2.2 (body (w', u)).1 (body (w', u)).2.1 := by
  simp [run, bind, Action.bind, Action.mapError, Outcome.mapError, h]

end UnitOfWork

/-- How a body goes on after a vote. -/
theorem UnitBody.perform_vote {allowed : UnitChange ξ τ → Prop} {t : Transactor ξ τ}
    (returns : t.Returns) (finish : ρ → UnitAction ξ τ ε α)
    (next : Except DataError Unit → UnitBody allowed ρ) (w : World ξ) (u : UnitOfWork τ) :
    (∃ u' w', UnitOfWork.Poll t u w (.ok u') w' ∧
      (vote next).perform t finish (w, u) = (next (.ok ())).perform t finish (w', u')) ∨
    (∃ e w', UnitOfWork.Poll t u w (.error e) w' ∧
      (vote next).perform t finish (w, u) = (next (.error e)).perform t finish (w', u)) := by
  have hpoll := UnitOfWork.poll returns u w
  simp only [perform, UnitOfWork.vote_apply]
  cases hv : UnitOfWork.prepared? t u w with
  | mk o w' =>
    rw [hv] at hpoll
    cases o with
    | ok u' => exact .inl ⟨u', w', hpoll, rfl⟩
    | error e => exact .inr ⟨e, w', hpoll, rfl⟩
    | panic p => cases hpoll

end SymbolRelay
