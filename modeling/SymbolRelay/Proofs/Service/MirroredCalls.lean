import SymbolRelay.Proofs.Delivery.Metered
import SymbolRelay.Service.SymbolService

/-!
# The symbol service among records

Two services are alike if one does among records what the other does without them: its storage and its
publisher, with the same codec and the same rules for symbols. Then their calls take the same steps.

## Results

* `enter_mirrors`, `prepared_mirrors`, `leave_mirrors` — units of work are opened, voted on and left alike;
* `announce_mirrors` — events leave alike;
* `step_mirrors` — a call takes the same next step;
* `write_mirrors`, `get_mirrors`, `list_mirrors` — and is answered alike;
* `SymbolService.metered_mirrors` — a service whose publisher is measured is alike to the one whose is
  not.
-/

set_option autoImplicit false

namespace SymbolRelay

open SymbolRelay.Action

variable {ξ κ τ ε α β : Type}

/-! ## Storages and units of work -/

/-- A transactor that does among records what another one does without them. -/
structure Transactor.Mirrors (t' : Transactor (ξ × List κ) τ) (t : Transactor ξ τ) : Prop where
  begin : ∀ ctx, Action.Mirrors (t'.begin ctx) (t.begin ctx)
  prepare : ∀ tx, Action.Mirrors (t'.prepare tx) (t.prepare tx)
  commit : ∀ tx, Action.Mirrors (t'.commit tx) (t.commit tx)
  rollback : ∀ tx, Action.Mirrors (t'.rollback tx) (t.rollback tx)

/-- A storage that does among records what another one does without them. -/
structure Storage.Mirrors (s' : Storage (ξ × List κ) τ) (s : Storage ξ τ) : Prop where
  transactor : s'.toTransactor.Mirrors s.toTransactor
  create : ∀ tx symbol, Action.Mirrors (s'.create tx symbol) (s.create tx symbol)
  update : ∀ tx symbol, Action.Mirrors (s'.update tx symbol) (s.update tx symbol)
  delete : ∀ tx id, Action.Mirrors (s'.delete tx id) (s.delete tx id)
  find : ∀ ctx id, Action.Mirrors (s'.find ctx id) (s.find ctx id)
  list : ∀ ctx query, Action.Mirrors (s'.list ctx query) (s.list ctx query)

/-- The storage for worlds with a record, which it knows nothing of. -/
def Storage.unseen (s : Storage ξ τ) : Storage (ξ × List κ) τ where
  begin ctx := (s.begin ctx).unseen
  prepare tx := (s.prepare tx).unseen
  commit tx := (s.commit tx).unseen
  rollback tx := (s.rollback tx).unseen
  create tx symbol := (s.create tx symbol).unseen
  update tx symbol := (s.update tx symbol).unseen
  delete tx id := (s.delete tx id).unseen
  find ctx id := (s.find ctx id).unseen
  list ctx query := (s.list ctx query).unseen

theorem Storage.unseen_mirrors (s : Storage ξ τ) :
    (s.unseen : Storage (ξ × List κ) τ).Mirrors s where
  transactor :=
    { begin := fun _ => Action.unseen_mirrors _
      prepare := fun _ => Action.unseen_mirrors _
      commit := fun _ => Action.unseen_mirrors _
      rollback := fun _ => Action.unseen_mirrors _ }
  create _ _ := Action.unseen_mirrors _
  update _ _ := Action.unseen_mirrors _
  delete _ _ := Action.unseen_mirrors _
  find _ _ := Action.unseen_mirrors _
  list _ _ := Action.unseen_mirrors _

/-- What does inside a unit of work among records what something else does without them. -/
def UnitAction.Mirrors (a' : UnitAction (ξ × List κ) τ ε α) (a : UnitAction ξ τ ε α) : Prop :=
  ∀ w u, ((a' (w, u)).1, (a' (w, u)).2.1.bare, (a' (w, u)).2.2) = a (w.bare, u)

namespace UnitOfWork

theorem inWorld_mirrors {a' : Action (World (ξ × List κ)) ε α} {a : Action (World ξ) ε α}
    (h : Mirrors a' a) :
    UnitAction.Mirrors (inWorld a' : UnitAction (ξ × List κ) τ ε α) (inWorld a) := by
  intro w u
  simp only [inWorld, within, ← h w]

theorem bind_mirrors {a' : UnitAction (ξ × List κ) τ ε α} {a : UnitAction ξ τ ε α}
    {f' : α → UnitAction (ξ × List κ) τ ε β} {f : α → UnitAction ξ τ ε β}
    (ha : UnitAction.Mirrors a' a)
    (hf : ∀ v, UnitAction.Mirrors (f' v) (f v)) : UnitAction.Mirrors (a' >>= f') (a >>= f) := by
  intro w u
  have h := ha w u
  cases hr : a' (w, u) with
  | mk o s' =>
    rw [hr] at h
    cases o with
    | ok v =>
      rw [bind_ok hr, bind_ok h.symm]
      exact hf v s'.1 s'.2
    | error e => rw [bind_error hr, bind_error h.symm]
    | panic p => rw [bind_panic hr, bind_panic h.symm]

theorem mapError_mirrors {δ : Type} {a' : UnitAction (ξ × List κ) τ ε α} {a : UnitAction ξ τ ε α}
    (f : ε → δ) (ha : UnitAction.Mirrors a' a) :
    UnitAction.Mirrors (a'.mapError f) (a.mapError f) := by
  intro w u
  simp only [Action.mapError, ← ha w u]

theorem stage_mirrors {write' : τ → Action (World (ξ × List κ)) ε (α × τ)}
    {write : τ → Action (World ξ) ε (α × τ)} (h : ∀ tx, Mirrors (write' tx) (write tx)) :
    UnitAction.Mirrors (stage write') (stage write) := by
  refine bind_mirrors (fun _ _ => rfl) fun u => ?_
  refine bind_mirrors (inWorld_mirrors (h u.tx)) fun written => ?_
  exact bind_mirrors (fun _ _ => rfl) fun _ _ _ => rfl

section Transactors

variable {t' : Transactor (ξ × List κ) τ} {t : Transactor ξ τ}

theorem isCancelled_mirrors (ctx : Context) :
    Mirrors (World.isCancelled ctx : Action (World (ξ × List κ)) ε Bool) (World.isCancelled ctx) :=
  fun _ => rfl

/-- A unit of work is opened among records as without them. -/
theorem enter_mirrors (h : t'.Mirrors t) (ctx : Context) : Mirrors (enter t' ctx) (enter t ctx) := by
  unfold enter
  split
  · exact fail_mirrors _
  · refine Mirrors.bind (isCancelled_mirrors ctx) fun cancelled => ?_
    cases cancelled with
    | true => exact fail_mirrors _
    | false =>
      refine Mirrors.bind (Router.onScopes_mirrors _) fun bound => ?_
      exact Mirrors.bind (h.begin bound) fun tx => ofOutcome_mirrors (.ok _)

theorem prepared_mirrors (h : t'.Mirrors t) (u : UnitOfWork τ) :
    Mirrors (prepared? t' u) (prepared? t u) := by
  unfold prepared?
  split
  · exact ofOutcome_mirrors (.ok u)
  · refine Mirrors.bind (isCancelled_mirrors u.ctx) fun cancelled => ?_
    cases cancelled with
    | true => exact fail_mirrors _
    | false => exact Mirrors.bind (h.prepare u.tx) fun tx => ofOutcome_mirrors (.ok _)

theorem vote_mirrors (h : t'.Mirrors t) : UnitAction.Mirrors (vote t') (vote t) := by
  refine bind_mirrors (fun _ _ => rfl) fun u => ?_
  exact bind_mirrors (inWorld_mirrors (prepared_mirrors h u)) fun _ _ _ => rfl

theorem abandon_mirrors (h : t'.Mirrors t) (u : UnitOfWork τ) (e : ε) :
    Mirrors (abandon t' u e : Action (World (ξ × List κ)) ε α) (abandon t u e) := by
  refine Mirrors.bind (h.rollback u.tx).attempt fun o => ?_
  cases o with
  | panic p => exact ofOutcome_mirrors (.panic p)
  | ok _ => exact fail_mirrors e
  | error _ => exact fail_mirrors e

theorem conclude_mirrors (h : t'.Mirrors t) (lift : DataError → ε) (u : UnitOfWork τ) (value : α) :
    Mirrors (conclude t' lift u value) (conclude t lift u value) := by
  refine Mirrors.bind (prepared_mirrors h u).attempt fun o => ?_
  cases o with
  | panic p => exact ofOutcome_mirrors (.panic p)
  | error e => exact abandon_mirrors h u (lift e)
  | ok u => exact Mirrors.bind ((h.commit u.tx).mapError _) fun _ => ofOutcome_mirrors (.ok value)

/-- A unit of work is left among records as without them. -/
theorem leave_mirrors (h : t'.Mirrors t) (lift : DataError → ε) (u : UnitOfWork τ)
    (outcome : Outcome ε α) : Mirrors (leave t' lift u outcome) (leave t lift u outcome) := by
  cases outcome with
  | ok value => exact conclude_mirrors h lift u value
  | error e => exact abandon_mirrors h u e
  | panic p => exact ofOutcome_mirrors (.panic p)

end Transactors

end UnitOfWork

/-! ## The service -/

/-- A service that does among records what another one does without them. -/
structure SymbolService.Mirrors (s' : SymbolService (ξ × List κ) τ) (s : SymbolService ξ τ) : Prop where
  storage : s'.storage.Mirrors s.storage
  publisher : s'.publisher.Mirrors s.publisher
  codec : s'.codec = s.codec
  validator : s'.validator = s.validator

/-- The service for worlds with a record, which it knows nothing of. -/
def SymbolService.unseen (s : SymbolService ξ τ) : SymbolService (ξ × List κ) τ where
  storage := s.storage.unseen
  publisher := s.publisher.unseen
  codec := s.codec
  validator := s.validator

theorem SymbolService.unseen_mirrors (s : SymbolService ξ τ) :
    (s.unseen : SymbolService (ξ × List κ) τ).Mirrors s where
  storage := s.storage.unseen_mirrors
  publisher := s.publisher.unseen_mirrors
  codec := rfl
  validator := rfl

namespace SymbolService

variable {s' : SymbolService (ξ × List κ) τ} {s : SymbolService ξ τ}

/-- An event leaves among records as without them. -/
theorem announce_mirrors [BinaryFormat] (hs : s'.Mirrors s) (kind : EventKind) (ctx : Context)
    (symbol : Option Symbol) :
    Action.Mirrors (s'.announce kind ctx symbol) (s.announce kind ctx symbol) := by
  cases symbol with
  | none => exact fail_mirrors _
  | some symbol =>
    simp only [announce, hs.codec]
    exact Action.Mirrors.bind (fun _ => rfl) fun now => hs.publisher ctx kind.topic _

theorem stageChange_mirrors (hs : s'.Mirrors s) (change : Change) :
    UnitAction.Mirrors (s'.stageChange change) (s.stageChange change) := by
  cases change with
  | create symbol => exact UnitOfWork.stage_mirrors fun tx => hs.storage.create tx symbol
  | update symbol => exact UnitOfWork.stage_mirrors fun tx => hs.storage.update tx symbol
  | delete id existing =>
    exact UnitOfWork.stage_mirrors fun tx =>
      Action.Mirrors.bind (hs.storage.delete tx id) fun tx => ofOutcome_mirrors (.ok (existing, tx))

theorem inUnit_mirrors {a' : UnitAction (ξ × List κ) τ WriteFailure α}
    {a : UnitAction ξ τ WriteFailure α} (h : UnitAction.Mirrors a' a)
    (next : α → UnitOfWork τ → Call τ) (u : UnitOfWork τ) (w : World (ξ × List κ)) :
    (inUnit a' next u w).1 = (inUnit a next u w.bare).1 ∧
      (inUnit a' next u w).2.bare = (inUnit a next u w.bare).2 := by
  simp only [inUnit, ← h w u]
  obtain ⟨o, w', u'⟩ := a' (w, u)
  cases o <;> exact ⟨rfl, rfl⟩

theorem outside_mirrors {a' : Action (World (ξ × List κ)) DomainError α}
    {a : Action (World ξ) DomainError α} (h : Action.Mirrors a' a) (next : α → Call τ)
    (w : World (ξ × List κ)) :
    (outside a' next w).1 = (outside a next w.bare).1 ∧
      (outside a' next w).2.bare = (outside a next w.bare).2 := by
  simp only [outside, ← h w]
  obtain ⟨o, w'⟩ := a' w
  cases o <;> exact ⟨rfl, rfl⟩

/-- **The next step of a call among records is the step without them.** -/
theorem step_mirrors [BinaryFormat] (hs : s'.Mirrors s) (ctx : Context) (c : Call τ)
    (w : World (ξ × List κ)) :
    (s'.step ctx c w).1 = (s.step ctx c w.bare).1 ∧
      (s'.step ctx c w).2.bare = (s.step ctx c w.bare).2 := by
  cases c with
  | lookup id => exact outside_mirrors ((hs.storage.find ctx id).mapError _) _ w
  | begin change =>
    exact outside_mirrors ((UnitOfWork.enter_mirrors hs.storage.transactor ctx).mapError _) _ w
  | stage change u =>
    exact inUnit_mirrors (UnitOfWork.mapError_mirrors _ (stageChange_mirrors hs change)) _ u w
  | prepare kind written u =>
    exact inUnit_mirrors
      (UnitOfWork.mapError_mirrors _ (UnitOfWork.vote_mirrors hs.storage.transactor)) _ u w
  | publish kind written u =>
    exact inUnit_mirrors (UnitOfWork.inWorld_mirrors
      ((announce_mirrors hs kind u.ctx (some written)).mapError _)) _ u w
  | leave outcome u =>
    exact outside_mirrors
      ((UnitOfWork.leave_mirrors hs.storage.transactor _ u outcome).mapError _) _ w
  | ended outcome => exact ⟨rfl, rfl⟩

theorem start_mirrors (hs : s'.Mirrors s) (what : Write) : s'.start what = s.start what := by
  have hcheck : s'.check = s.check := by
    funext symbol
    rw [check, check, hs.validator]
  cases what <;> simp only [start, hcheck]

/-- A call that takes its steps in one go among records ends as without them. -/
theorem finish_mirrors [BinaryFormat] (hs : s'.Mirrors s) (ctx : Context) (c : Call τ)
    (w : World (ξ × List κ)) :
    ((s'.finish ctx c w).1, (s'.finish ctx c w).2.bare) = s.finish ctx c w.bare := by
  by_cases h : 0 < c.rank
  · obtain ⟨hcall, hworld⟩ := step_mirrors hs ctx c w
    rw [← finish_step s' ctx c w, ← finish_step s ctx c w.bare, ← hcall, ← hworld]
    exact finish_mirrors hs ctx (s'.step ctx c w).1 (s'.step ctx c w).2
  · cases c with
    | ended outcome => rw [finish_ended, finish_ended]
    | _ => exact absurd (by simp [Call.rank]) h
termination_by c.rank
decreasing_by exact rank_step_lt s' ctx c w h

theorem write_mirrors [BinaryFormat] (hs : s'.Mirrors s) (ctx : Context) (what : Write) :
    Action.Mirrors (s'.write ctx what) (s.write ctx what) := by
  intro w
  rw [write, write, start_mirrors hs]
  exact finish_mirrors hs ctx _ w

theorem get_mirrors (hs : s'.Mirrors s) (ctx : Context) (id : Int64) :
    Action.Mirrors (s'.get ctx id) (s.get ctx id) :=
  Action.Mirrors.bind (ofOutcome_mirrors _) fun _ => (hs.storage.find ctx id).mapError _

theorem list_mirrors (hs : s'.Mirrors s) (ctx : Context) (query : Query) :
    Action.Mirrors (s'.list ctx query) (s.list ctx query) :=
  (hs.storage.list ctx query.normalized).mapError _

/-! ## Services that are measured -/

/-- **A measured service does what it does without being measured.** -/
theorem metered_mirrors (recorder : Recorder (List κ)) (hs : s'.Mirrors s) :
    (s'.metered recorder.beside).Mirrors s where
  storage := hs.storage
  publisher := Publisher.metered_mirrors recorder hs.publisher
  codec := hs.codec
  validator := hs.validator

end SymbolService

end SymbolRelay
