import SymbolRelay.Proofs.Store.Lookups
import SymbolRelay.Service.SymbolService

/-!
# The steps of a call

What one step of a call does when the service stands on the store and the queue: how far the call comes
and what becomes of the world. A call that is ready never panics and ends its unit of work only after
the vote.

## Results

* `stepsTo` — every step of a call that is ready is one of those listed by `StepsTo`.
-/

set_option autoImplicit false

namespace SymbolRelay

/-- Whether a call is where the steps before it may have brought it: a unit is voted for once, is left
only after the vote unless something went wrong, and nothing panics. -/
def Call.Ready : Call Transaction → Prop
  | .prepare _ _ u => u.prepared = false
  | .leave (.ok _) u => u.prepared = true ∧ u.tx.prepared = true
  | .leave (.panic _) _ => False
  | _ => True

namespace SymbolService

variable {ξ : Type}

/-- Stages a change in a transaction of the store; what its event tells about comes first. -/
def carryOut (s : Store) (tx : Transaction) (now : Time) :
    Change → Except DataError (Symbol × Transaction × Store)
  | .create symbol => s.create tx symbol now
  | .update symbol => (s.update tx symbol now).map fun (updated, tx) => (updated, tx, s)
  | .delete id existing => (s.delete tx id).map fun tx => (existing, tx, s)

/-- The message that tells about a symbol. -/
def messageOf [BinaryFormat] [IdSource] (codec : Codec) (ctx : Context) (kind : EventKind) (written : Symbol)
    (now : Time) (ids : Ids) : Message × Ids :=
  stamp ctx kind.topic ((Event.ofSymbol kind written now).encode codec) ids

/-- What one step makes of a call and of the world. -/
inductive StepsTo [BinaryFormat] [IdSource] (codec : Codec) (ctx : Context) :
    Call Transaction → World ξ → Call Transaction → World ξ → Prop
  | found {id : Int64} {existing : Symbol} {w : World ξ} (h : w.store.rows.get? id = some existing) :
    StepsTo codec ctx (.lookup id) w (.begin (.delete id existing)) w
  | missing {id : Int64} {w : World ξ} (h : w.store.rows.get? id = none) :
    StepsTo codec ctx (.lookup id) w (.ended (.error .notFound)) w
  | barred {change : Change} {w : World ξ} (reason : String)
    (h : ctx.inTransaction = true ∨ ctx.isCancelled w.scopes = true) :
    StepsTo codec ctx (.begin change) w
      (.ended (.error (.databaseOperation (.data (.transactionFailed reason))))) w
  | opened {change : Change} {w : World ξ} (h : ctx.inTransaction = false)
    (hc : ctx.isCancelled w.scopes = false) :
    StepsTo codec ctx (.begin change) w
      (.stage change { ctx := (ctx.bindTransaction w.scopes).1, tx := w.store.begin.1 })
      { w with scopes := (ctx.bindTransaction w.scopes).2, store := w.store.begin.2 }
  | staged {change : Change} {u : UnitOfWork Transaction} {w : World ξ} {written : Symbol}
    {tx : Transaction} {store : Store} (clock : Clock)
    (h : carryOut w.store u.tx w.clock.now change = .ok (written, tx, store)) :
    StepsTo codec ctx (.stage change u) w (.prepare change.kind written { u with tx })
      { w with store, clock }
  | unstaged {change : Change} {u : UnitOfWork Transaction} {w : World ξ} {e : DataError}
    (h : carryOut w.store u.tx w.clock.now change = .error e) :
    StepsTo codec ctx (.stage change u) w (.leave (.error (.data e)) u) w
  | dropped {kind : EventKind} {written : Symbol} {u : UnitOfWork Transaction} {w : World ξ}
    (reason : String) (h : u.ctx.isCancelled w.scopes = true) :
    StepsTo codec ctx (.prepare kind written u) w
      (.leave (.error (.data (.transactionFailed reason))) u) w
  | refused {kind : EventKind} {written : Symbol} {u : UnitOfWork Transaction} {w : World ξ}
    {e : DataError} (h : w.store.prepare u.tx = .error e) :
    StepsTo codec ctx (.prepare kind written u) w (.leave (.error (.data e)) u) w
  | voted {kind : EventKind} {written : Symbol} {u : UnitOfWork Transaction} {w : World ξ}
    (href : w.store.refusing = false) (hc : w.store.conflict u.tx = none) :
    StepsTo codec ctx (.prepare kind written u) w
      (.publish kind written { u with tx := { u.tx with prepared := true }, prepared := true })
      { w with store := w.store.voted u.tx }
  | told {kind : EventKind} {written : Symbol} {u : UnitOfWork Transaction} {w : World ξ} {queue : Queue}
    (h : w.queue.publish kind.topic (messageOf codec u.ctx kind written w.clock.now w.ids).1 =
      (.ok (), queue)) :
    StepsTo codec ctx (.publish kind written u) w (.leave (.ok written) u)
      { w with
        clock := w.clock.read.2
        ids := (messageOf codec u.ctx kind written w.clock.now w.ids).2
        queue }
  | untold {kind : EventKind} {written : Symbol} {u : UnitOfWork Transaction} {w : World ξ}
    {queue : Queue} {e : BrokerError} (cause : PublishError)
    (h : w.queue.publish kind.topic (messageOf codec u.ctx kind written w.clock.now w.ids).1 =
      (.error e, queue)) :
    StepsTo codec ctx (.publish kind written u) w (.leave (.error (.publish cause)) u)
      { w with
        clock := w.clock.read.2
        ids := (messageOf codec u.ctx kind written w.clock.now w.ids).2
        queue }
  | committed {written : Symbol} {u : UnitOfWork Transaction} {w : World ξ}
    (hp : u.tx.prepared = true) :
    StepsTo codec ctx (.leave (.ok written) u) w (.ended (.ok written))
      { w with store := w.store.apply u.tx }
  | rolledBack {e : WriteFailure} {u : UnitOfWork Transaction} {w : World ξ} :
    StepsTo codec ctx (.leave (.error e) u) w (.ended (.error e.toDomain))
      { w with store := w.store.rollback u.tx }
  | rested {outcome : Outcome DomainError Symbol} {w : World ξ} :
    StepsTo codec ctx (.ended outcome) w (.ended outcome) w

variable {codec : Codec} {validator : Symbol → Except ValidationError Unit} {ctx : Context}

theorem stepsTo_lookup [BinaryFormat] [IdSource] (id : Int64) (w : World ξ) :
    StepsTo codec ctx (.lookup id) w ((direct codec validator).step ctx (.lookup id) w).1
      ((direct codec validator).step ctx (.lookup id) w).2 := by
  cases h : w.store.rows.get? id with
  | none =>
    have hs : (direct codec validator).step ctx (.lookup id) w = (.ended (.error .notFound), w) := by
      simp [step, outside, direct, Storage.ofStore, World.onStore, Action.mapError, Store.find, h,
        Except.map, Outcome.mapError, DomainError.ofData]
    rw [hs]
    exact .missing h
  | some existing =>
    have hs : (direct codec validator).step ctx (.lookup id) w =
        (.begin (.delete id existing), w) := by
      simp [step, outside, direct, Storage.ofStore, World.onStore, Action.mapError, Store.find, h,
        Except.map, Outcome.mapError]
    rw [hs]
    exact .found h

theorem stepsTo_begin [BinaryFormat] [IdSource] (change : Change) (w : World ξ) :
    StepsTo codec ctx (.begin change) w ((direct codec validator).step ctx (.begin change) w).1
      ((direct codec validator).step ctx (.begin change) w).2 := by
  cases hin : ctx.inTransaction with
  | true =>
    have hs := UnitOfWork.enter_of_inTransaction (direct codec validator).storage.toTransactor w hin
    simp only [step, outside, Action.mapError, hs, Outcome.mapError]
    exact .barred _ (.inl hin)
  | false =>
    cases hc : ctx.isCancelled w.scopes with
    | true =>
      have hs := UnitOfWork.enter_of_cancelled (direct codec validator).storage.toTransactor hin hc
      simp only [step, outside, Action.mapError, hs, Outcome.mapError]
      exact .barred _ (.inr hc)
    | false =>
      have hs : UnitOfWork.enter (direct codec validator).storage.toTransactor ctx w =
          (.ok { ctx := (ctx.bindTransaction w.scopes).1, tx := w.store.begin.1 },
            { w with scopes := (ctx.bindTransaction w.scopes).2, store := w.store.begin.2 }) := by
        simp [UnitOfWork.enter, hin, World.isCancelled, bind, Action.bind, hc, World.onScopes, direct,
          Storage.ofStore, World.onStore, pure, Action.pure]
      simp only [step, outside, Action.mapError, hs, Outcome.mapError]
      exact .opened hin hc

/-- The clock after a change was staged; a removal does not read it. -/
def clockAfter (c : Clock) : Change → Clock
  | .create _ | .update _ => c.read.2
  | .delete _ _ => c

/-- Staging a change asks the store, and takes its answer into the unit of work. -/
theorem stageChange_apply [IdSource] (codec : Codec) (validator : Symbol → Except ValidationError Unit)
    (change : Change) (u : UnitOfWork Transaction) (w : World ξ) :
    (direct codec validator).stageChange change (w, u) =
      match carryOut w.store u.tx w.clock.now change with
      | .error e => (.error e, w, u)
      | .ok (written, tx, store) =>
        (.ok written, { w with store, clock := clockAfter w.clock change }, { u with tx }) := by
  cases change with
  | create symbol =>
    simp only [stageChange, direct, UnitOfWork.stage, UnitOfWork.current, UnitOfWork.inWorld,
      UnitOfWork.putTx, Action.modify, Action.within, Storage.ofStore, World.onStoreNow, bind,
      Action.bind, pure, Action.pure, carryOut]
    cases w.store.create u.tx symbol w.clock.now <;> rfl
  | update symbol =>
    simp only [stageChange, direct, UnitOfWork.stage, UnitOfWork.current, UnitOfWork.inWorld,
      UnitOfWork.putTx, Action.modify, Action.within, Storage.ofStore, World.onStoreNow, bind,
      Action.bind, pure, Action.pure, carryOut]
    cases w.store.update u.tx symbol w.clock.now <;> rfl
  | delete id existing =>
    simp only [stageChange, direct, UnitOfWork.stage, UnitOfWork.current, UnitOfWork.inWorld,
      UnitOfWork.putTx, Action.modify, Action.within, Storage.ofStore, World.onStore, bind,
      Action.bind, pure, Action.pure, carryOut]
    cases w.store.delete u.tx id <;> rfl

theorem stepsTo_stage [BinaryFormat] [IdSource] (change : Change) (u : UnitOfWork Transaction) (w : World ξ) :
    StepsTo codec ctx (.stage change u) w ((direct codec validator).step ctx (.stage change u) w).1
      ((direct codec validator).step ctx (.stage change u) w).2 := by
  have hrun := stageChange_apply codec validator change u w
  cases h : carryOut w.store u.tx w.clock.now change with
  | error e =>
    rw [h] at hrun
    have hs : (direct codec validator).step ctx (.stage change u) w =
        (.leave (.error (.data e)) u, w) := by
      simp only [step, inUnit, Action.mapError, hrun, Outcome.mapError]
    rw [hs]
    exact .unstaged h
  | ok r =>
    obtain ⟨written, tx, store⟩ := r
    rw [h] at hrun
    have hs : (direct codec validator).step ctx (.stage change u) w =
        (.prepare change.kind written { u with tx },
          { w with store, clock := clockAfter w.clock change }) := by
      simp only [step, inUnit, Action.mapError, hrun, Outcome.mapError]
    rw [hs]
    exact .staged _ h

theorem stepsTo_prepare [BinaryFormat] [IdSource] (kind : EventKind) (written : Symbol)
    {u : UnitOfWork Transaction} (hu : u.prepared = false) (w : World ξ) :
    StepsTo codec ctx (.prepare kind written u) w
      ((direct codec validator).step ctx (.prepare kind written u) w).1
      ((direct codec validator).step ctx (.prepare kind written u) w).2 := by
  cases hc : u.ctx.isCancelled w.scopes with
  | true =>
    have hs : (direct codec validator).step ctx (.prepare kind written u) w =
        (.leave (.error (.data (.transactionFailed "context cancelled"))) u, w) := by
      simp [step, inUnit, UnitOfWork.vote, UnitOfWork.current, UnitOfWork.inWorld, UnitOfWork.prepared?,
        Action.within, Action.mapError, bind, Action.bind, hu, World.isCancelled, hc, Action.fail,
        Outcome.mapError]
    rw [hs]
    exact .dropped _ hc
  | false =>
    cases hp : w.store.prepare u.tx with
    | error e =>
      have hs : (direct codec validator).step ctx (.prepare kind written u) w =
          (.leave (.error (.data e)) u, w) := by
        simp [step, inUnit, UnitOfWork.vote, UnitOfWork.current, UnitOfWork.inWorld, UnitOfWork.prepared?,
          Action.within, Action.mapError, bind, Action.bind, hu, World.isCancelled, hc, direct,
          Storage.ofStore, World.onStore, hp, Outcome.mapError]
      rw [hs]
      exact .refused hp
    | ok r =>
      obtain ⟨href, hconf, rfl⟩ := (Store.prepare_eq_ok_iff _ _ _).mp hp
      have hs : (direct codec validator).step ctx (.prepare kind written u) w =
          (.publish kind written { u with tx := { u.tx with prepared := true }, prepared := true },
            { w with store := w.store.voted u.tx }) := by
        simp [step, inUnit, UnitOfWork.vote, UnitOfWork.current, UnitOfWork.inWorld, UnitOfWork.prepared?,
          Action.within, Action.modify, Action.mapError, bind, Action.bind, pure, Action.pure, hu,
          World.isCancelled, hc, direct, Storage.ofStore, World.onStore, hp, Outcome.mapError]
      rw [hs]
      exact .voted href hconf

theorem stepsTo_publish [BinaryFormat] [IdSource] (kind : EventKind) (written : Symbol)
    (u : UnitOfWork Transaction) (w : World ξ) :
    StepsTo codec ctx (.publish kind written u) w
      ((direct codec validator).step ctx (.publish kind written u) w).1
      ((direct codec validator).step ctx (.publish kind written u) w).2 := by
  obtain ⟨outcome, queue, hq⟩ : ∃ outcome queue, w.queue.publish kind.topic
      (messageOf codec u.ctx kind written w.clock.now w.ids).1 = (outcome, queue) := ⟨_, _, rfl⟩
  have hq' := hq
  rw [messageOf] at hq'
  cases outcome with
  | error e =>
    have hs : ∃ cause, (direct codec validator).step ctx (.publish kind written u) w =
        (.leave (.error (.publish cause)) u,
          { w with
            clock := w.clock.read.2
            ids := (messageOf codec u.ctx kind written w.clock.now w.ids).2
            queue }) := by
      refine ⟨.broker kind.topic (messageOf codec u.ctx kind written w.clock.now w.ids).1.uuid e, ?_⟩
      simp [step, inUnit, UnitOfWork.inWorld, Action.within, Action.mapError, announce, bind, Action.bind,
        Action.update, direct, Publisher.ofBroker, Broker.ofQueue, World.onQueue, messageOf, hq',
        Outcome.ofExcept, Outcome.mapError]
    obtain ⟨cause, hs⟩ := hs
    rw [hs]
    exact .untold cause hq
  | ok v =>
    have hs : (direct codec validator).step ctx (.publish kind written u) w =
        (.leave (.ok written) u,
          { w with
            clock := w.clock.read.2
            ids := (messageOf codec u.ctx kind written w.clock.now w.ids).2
            queue }) := by
      simp [step, inUnit, UnitOfWork.inWorld, Action.within, Action.mapError, announce, bind, Action.bind,
        Action.update, direct, Publisher.ofBroker, Broker.ofQueue, World.onQueue, messageOf, hq',
        Outcome.ofExcept, Outcome.mapError]
    rw [hs]
    exact .told hq

theorem stepsTo_leave [BinaryFormat] [IdSource] (outcome : Outcome WriteFailure Symbol)
    (u : UnitOfWork Transaction) (h : Call.Ready (.leave outcome u)) (w : World ξ) :
    StepsTo codec ctx (.leave outcome u) w ((direct codec validator).step ctx (.leave outcome u) w).1
      ((direct codec validator).step ctx (.leave outcome u) w).2 := by
  cases outcome with
  | panic p => exact False.elim h
  | error e =>
    have hs : (direct codec validator).step ctx (.leave (.error e) u) w =
        (.ended (.error e.toDomain), { w with store := w.store.rollback u.tx }) := by
      simp [step, outside, UnitOfWork.leave, UnitOfWork.abandon, Action.attempt, Action.mapError, bind,
        Action.bind, direct, Storage.ofStore, World.onStore, Action.fail, Outcome.mapError]
    rw [hs]
    exact .rolledBack
  | ok written =>
    obtain ⟨hu, htx⟩ : u.prepared = true ∧ u.tx.prepared = true := h
    have hc : w.store.commit u.tx = .ok (w.store.apply u.tx) :=
      (Store.commit_eq_ok_iff _ _ _).mpr (.inl ⟨htx, rfl⟩)
    have hs : (direct codec validator).step ctx (.leave (.ok written) u) w =
        (.ended (.ok written), { w with store := w.store.apply u.tx }) := by
      simp [step, outside, UnitOfWork.leave, UnitOfWork.conclude, UnitOfWork.prepared?, Action.attempt,
        Action.mapError, bind, Action.bind, pure, Action.pure, direct, Storage.ofStore, World.onStore, hu,
        hc, Except.map, Outcome.mapError]
    rw [hs]
    exact .committed htx

/-- **Every step of a call that is ready is one of these.** -/
theorem stepsTo [BinaryFormat] [IdSource] (codec : Codec) (validator : Symbol → Except ValidationError Unit)
    (ctx : Context) {c : Call Transaction} (h : c.Ready) (w : World ξ) :
    StepsTo codec ctx c w ((direct codec validator).step ctx c w).1
      ((direct codec validator).step ctx c w).2 := by
  cases c with
  | lookup id => exact stepsTo_lookup id w
  | begin change => exact stepsTo_begin change w
  | stage change u => exact stepsTo_stage change u w
  | prepare kind written u => exact stepsTo_prepare kind written h w
  | publish kind written u => exact stepsTo_publish kind written u w
  | leave outcome u => exact stepsTo_leave outcome u h w
  | ended outcome => exact .rested

end SymbolService

end SymbolRelay
