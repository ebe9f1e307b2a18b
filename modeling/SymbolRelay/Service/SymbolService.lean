import SymbolRelay.Delivery.Metering
import SymbolRelay.Service.DomainError
import SymbolRelay.Store.UnitOfWork
import SymbolRelay.Symbol.Event

/-!
# The symbol service

The service creates, updates, deletes and reads symbols. A write and the event that tells about it go
together: the event leaves once the store has voted for the write, and the write is committed once the
event has left. A call proceeds in steps, between which other calls may have theirs:

```text
check ─► (lookup) ─► begin ─► stage ─► prepare ─► publish ─► leave
```

## Results

* `rank_step_lt` — every step brings a call nearer to its end;
* `finish_step` — a call made in one go is its steps, one after the other.
-/

set_option autoImplicit false

namespace SymbolRelay

/-- Where the service stores symbols, how it tells about them, and what it takes for valid. -/
structure SymbolService (ξ τ : Type) where
  storage : Storage ξ τ
  publisher : Publisher ξ
  codec : Codec := .default
  validator : Symbol → Except ValidationError Unit := Symbol.validate

/-- A write that the service is asked for. -/
inductive Write where
  | create (symbol : Symbol)
  | update (symbol : Symbol)
  | delete (id : Int64)
  deriving DecidableEq

/-- The kind of event that tells about a write. -/
def Write.kind : Write → EventKind
  | .create _ => .created
  | .update _ => .updated
  | .delete _ => .deleted

/-- A write that can be staged: what is to be deleted is known. -/
inductive Change where
  | create (symbol : Symbol)
  | update (symbol : Symbol)
  | delete (id : Int64) (existing : Symbol)
  deriving DecidableEq

/-- The kind of event that tells about a change. -/
def Change.kind : Change → EventKind
  | .create _ => .created
  | .update _ => .updated
  | .delete _ _ => .deleted

/-- What can end a unit of work. -/
inductive WriteFailure where
  | data (cause : DataError)
  | publish (cause : PublishError)
  deriving DecidableEq, Repr

/-- What a failed unit of work means for the caller. -/
def WriteFailure.toDomain : WriteFailure → DomainError
  | .data cause => .ofData cause
  | .publish cause => .databaseOperation (.publish cause)

/-- How far a call has come, and what it needs to go on. -/
inductive Call (τ : Type) where
  /-- The symbol to delete is looked up next. -/
  | lookup (id : Int64)
  | begin (change : Change)
  | stage (change : Change) (u : UnitOfWork τ)
  | prepare (kind : EventKind) (written : Symbol) (u : UnitOfWork τ)
  | publish (kind : EventKind) (written : Symbol) (u : UnitOfWork τ)
  /-- The unit of work is left next, as its body ended. -/
  | leave (outcome : Outcome WriteFailure Symbol) (u : UnitOfWork τ)
  | ended (outcome : Outcome DomainError Symbol)

/-- How many steps a call may still take. -/
def Call.rank {τ : Type} : Call τ → Nat
  | .lookup _ => 6
  | .begin _ => 5
  | .stage _ _ => 4
  | .prepare _ _ _ => 3
  | .publish _ _ _ => 2
  | .leave _ _ => 1
  | .ended _ => 0

/-- The outcome of a call that takes no more steps. -/
def Call.outcome {τ : Type} : (c : Call τ) → ¬ 0 < c.rank → Outcome DomainError Symbol
  | .ended outcome, _ => outcome
  | .lookup _, h | .begin _, h | .stage _ _, h | .prepare _ _ _, h | .publish _ _ _, h
  | .leave _ _, h => absurd (Nat.succ_pos _) h

namespace SymbolService

variable {ξ τ : Type}

/-- The service on the store and the queue, with nothing between. -/
def direct [IdSource] (codec : Codec) (validator : Symbol → Except ValidationError Unit) :
    SymbolService ξ Transaction where
  storage := .ofStore
  publisher := .ofBroker .ofQueue
  codec := codec
  validator := validator

/-- The service with its publisher measured. -/
def metered (recorder : Recorder ξ) (s : SymbolService ξ τ) : SymbolService ξ τ :=
  { s with publisher := s.publisher.metered recorder }

/-! ## Telling about symbols -/

/-- Publishes the event of a kind about a symbol. There must be one. -/
def announce [BinaryFormat] (s : SymbolService ξ τ) (kind : EventKind) (ctx : Context) :
    Option Symbol → Action (World ξ) PublishError Unit
  | none => Action.fail (.missingEvent kind.topic)
  | some symbol => do
    let now ← Action.update fun w => (w.clock.now, { w with clock := w.clock.read.2 })
    s.publisher.send ctx kind.topic ((Event.ofSymbol kind symbol now).encode s.codec)

/-! ## Writing -/

/-- An id that a stored symbol can have. -/
def checkId (id : Int64) : Except DomainError Unit :=
  if id ≤ 0 then .error (.invalidId id) else .ok ()

/-- Checks a symbol as the service does. -/
def check (s : SymbolService ξ τ) (symbol : Symbol) : Except DomainError Unit :=
  (s.validator symbol).mapError .validationFailed

/-- A call after its checks. -/
def Call.ofCheck (checked : Except DomainError Unit) (next : Call τ) : Call τ :=
  match checked with
  | .ok () => next
  | .error e => .ended (.error e)

/-- A call at its beginning. -/
def start (s : SymbolService ξ τ) : Write → Call τ
  | .create symbol => Call.ofCheck (s.check symbol) (.begin (.create symbol))
  | .update symbol =>
    Call.ofCheck ((checkId symbol.id).bind fun _ => s.check symbol) (.begin (.update symbol))
  | .delete id => Call.ofCheck (checkId id) (.lookup id)

/-- Stages a change, and gives the symbol that its event tells about. -/
def stageChange (s : SymbolService ξ τ) : Change → UnitAction ξ τ DataError Symbol
  | .create symbol => UnitOfWork.stage (s.storage.create · symbol)
  | .update symbol => UnitOfWork.stage (s.storage.update · symbol)
  | .delete id existing => UnitOfWork.stage fun tx => do
    let tx ← s.storage.delete tx id
    return (existing, tx)

/-- Goes on with a call inside its unit of work. -/
def inUnit {α : Type} (a : UnitAction ξ τ WriteFailure α) (next : α → UnitOfWork τ → Call τ)
    (u : UnitOfWork τ) (w : World ξ) : Call τ × World ξ :=
  match a (w, u) with
  | (.ok v, w, u) => (next v u, w)
  | (.error e, w, u) => (.leave (.error e) u, w)
  | (.panic p, w, u) => (.leave (.panic p) u, w)

/-- Goes on with a call outside its unit of work. -/
def outside {α : Type} (a : Action (World ξ) DomainError α) (next : α → Call τ) (w : World ξ) :
    Call τ × World ξ :=
  match a w with
  | (.ok v, w) => (next v, w)
  | (.error e, w) => (.ended (.error e), w)
  | (.panic p, w) => (.ended (.panic p), w)

/-- The next step of a call. -/
def step [BinaryFormat] (s : SymbolService ξ τ) (ctx : Context) : Call τ → World ξ → Call τ × World ξ
  | .lookup id =>
    outside ((s.storage.find ctx id).mapError .ofData) fun existing => .begin (.delete id existing)
  | .begin change =>
    outside ((UnitOfWork.enter s.storage.toTransactor ctx).mapError .ofData) (.stage change)
  | .stage change u =>
    inUnit ((s.stageChange change).mapError .data) (.prepare change.kind) u
  | .prepare kind written u =>
    inUnit ((UnitOfWork.vote s.storage.toTransactor).mapError .data)
      (fun _ => .publish kind written) u
  | .publish kind written u =>
    inUnit (UnitOfWork.inWorld ((s.announce kind u.ctx (some written)).mapError .publish))
      (fun _ => .leave (.ok written)) u
  | .leave outcome u =>
    outside ((UnitOfWork.leave s.storage.toTransactor .data u outcome).mapError
      WriteFailure.toDomain) fun written => .ended (.ok written)
  | .ended outcome => fun w => (.ended outcome, w)

theorem rank_inUnit_lt {α : Type} (a : UnitAction ξ τ WriteFailure α)
    (next : α → UnitOfWork τ → Call τ) (u : UnitOfWork τ) (w : World ξ) (n : Nat) (hn : 1 < n)
    (h : ∀ v u, (next v u).rank < n) : (inUnit a next u w).1.rank < n := by
  unfold inUnit
  split
  · exact h _ _
  · exact hn
  · exact hn

theorem rank_outside_lt {α : Type} (a : Action (World ξ) DomainError α) (next : α → Call τ)
    (w : World ξ) (n : Nat) (hn : 0 < n) (h : ∀ v, (next v).rank < n) :
    (outside a next w).1.rank < n := by
  unfold outside
  split
  · exact h _
  · exact hn
  · exact hn

/-- Every step brings a call nearer to its end. -/
theorem rank_step_lt [BinaryFormat] (s : SymbolService ξ τ) (ctx : Context) (c : Call τ) (w : World ξ)
    (h : 0 < c.rank) : (s.step ctx c w).1.rank < c.rank := by
  cases c with
  | lookup id => exact rank_outside_lt _ _ _ _ (by decide : 0 < 6) fun _ => Nat.lt_succ_self 5
  | begin change => exact rank_outside_lt _ _ _ _ (by decide : 0 < 5) fun _ => Nat.lt_succ_self 4
  | stage change u => exact rank_inUnit_lt _ _ _ _ _ (by decide : 1 < 4) fun _ _ => Nat.lt_succ_self 3
  | prepare kind written u =>
    exact rank_inUnit_lt _ _ _ _ _ (by decide : 1 < 3) fun _ _ => Nat.lt_succ_self 2
  | publish kind written u =>
    exact rank_inUnit_lt _ _ _ _ _ (by decide : 1 < 2) fun _ _ => Nat.lt_succ_self 1
  | leave outcome u => exact rank_outside_lt _ _ _ _ (by decide : 0 < 1) fun _ => Nat.lt_succ_self 0
  | ended outcome => cases h

/-- Takes the steps of a call to its end. -/
def finish [BinaryFormat] (s : SymbolService ξ τ) (ctx : Context) (c : Call τ) (w : World ξ) :
    Outcome DomainError Symbol × World ξ :=
  if h : 0 < c.rank then
    s.finish ctx (s.step ctx c w).1 (s.step ctx c w).2
  else (c.outcome h, w)
termination_by c.rank
decreasing_by exact rank_step_lt s ctx c w h

/-- Makes a write and tells about it. -/
def write [BinaryFormat] (s : SymbolService ξ τ) (ctx : Context) (what : Write) :
    Action (World ξ) DomainError Symbol :=
  s.finish ctx (s.start what)

theorem finish_ended [BinaryFormat] (s : SymbolService ξ τ) (ctx : Context)
    (outcome : Outcome DomainError Symbol) (w : World ξ) :
    s.finish ctx (.ended outcome) w = (outcome, w) := by
  have h : ¬ 0 < (Call.ended outcome : Call τ).rank := Nat.lt_irrefl 0
  rw [finish, dif_neg h, Call.outcome]

theorem finish_step [BinaryFormat] (s : SymbolService ξ τ) (ctx : Context) (c : Call τ) (w : World ξ) :
    s.finish ctx (s.step ctx c w).1 (s.step ctx c w).2 = s.finish ctx c w := by
  by_cases h : 0 < c.rank
  · rw [finish.eq_def s ctx c, dif_pos h]
  · cases c with
    | ended outcome => rfl
    | _ => exact absurd (by simp [Call.rank]) h

/-! ## Reading -/

/-- The stored symbol with an id. -/
def get (s : SymbolService ξ τ) (ctx : Context) (id : Int64) :
    Action (World ξ) DomainError Symbol := do
  Action.ofExcept (checkId id)
  (s.storage.find ctx id).mapError .ofData

/-- The page of stored symbols that a query asks for. -/
def list (s : SymbolService ξ τ) (ctx : Context) (query : Query) :
    Action (World ξ) DomainError (List Symbol) :=
  (s.storage.list ctx query.normalized).mapError .ofData

end SymbolService

end SymbolRelay
