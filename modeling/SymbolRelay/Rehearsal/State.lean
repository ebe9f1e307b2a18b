import SymbolRelay.Delivery.Metering
import SymbolRelay.Standin.Compact
import SymbolRelay.Standin.NumberedIds
import SymbolRelay.Standin.RetryLoop
import SymbolRelay.Store.Storage
import SymbolRelay.Symbol.Catalog

/-!
# Rehearsals

A rehearsal runs the service with parts that misbehave on demand and keeps a record of what happened:
which calls of the broker and of the store fail, what was measured, and what handlers and middleware
went through.

## Definitions

* `Rehearsal` — what a rehearsal is told, and what it has on record;
* `Broker.withFaults`, `Storage.withFaults` — parts that go wrong on demand;
* `Recorder.capturing`, `Recorder.panicking` — what takes the measurements.
-/

set_option autoImplicit false

namespace SymbolRelay

/-- How a call of a broker goes wrong. -/
inductive BrokerFault where
  | error (cause : BrokerError)
  | panic
  deriving DecidableEq, Repr

/-- What is noted of handlers and middleware. `ok` tells whether a handler succeeded. -/
inductive TraceEntry where
  | handler (topic uuid : String) (call : Nat)
  | entered (middleware uuid : String)
  | left (middleware uuid : String) (ok : Bool)
  deriving DecidableEq, Repr

/-- What is known of a unit of work from inside. -/
structure UnitFacts where
  transaction : Transaction
  prepared : Bool
  inTransaction : Bool
  /-- Whether a child of the unit's context is inside it as well. -/
  childInTransaction : Bool
  cancelled : Bool
  requestId : Option String
  deriving DecidableEq

/-- Why a step of a unit of work fails. -/
inductive UnitError where
  | data (cause : DataError)
  | own (text : String)
  deriving DecidableEq, Repr

/-- How a step of a unit of work ends. -/
inductive UnitReply where
  | done
  | symbol (symbol : Symbol)
  | facts (facts : UnitFacts)
  | failed (cause : UnitError)
  deriving DecidableEq

/-- What a rehearsal keeps: the calls that go wrong, by name, and its record. -/
structure Rehearsal where
  brokerFaults : Table String BrokerFault := Table.empty
  storeFaults : Table String DataError := Table.empty
  /-- Metrics with the topics they were recorded for, oldest first. -/
  measured : List (String × String) := []
  trace : List TraceEntry := []
  /-- How the steps of units of work ended, oldest first. -/
  replies : List UnitReply := []
  catalog : Catalog := .withWindow defaultDedupeWindow

namespace Rehearsal

variable {α : Type}

/-- The world in which a rehearsal begins. Its clock stands at the beginning of the year 2100. -/
def world (store : Store) (r : Rehearsal) : World Rehearsal where
  clock := ⟨(Time.ofMillis? 4102444800000).getD Time.epoch⟩
  store
  extra := r

/-- Notes something. -/
def note {ε : Type} (entry : TraceEntry) : Action (World Rehearsal) ε Unit :=
  Action.modify fun w => { w with extra := { w.extra with trace := w.extra.trace ++ [entry] } }

/-- Replaces the faults of the broker. -/
def setBrokerFaults {ε : Type} (faults : Table String BrokerFault) :
    Action (World Rehearsal) ε Unit :=
  Action.modify fun w => { w with extra := { w.extra with brokerFaults := faults } }

/-- Replaces the faults of the storage. -/
def setStoreFaults {ε : Type} (faults : Table String DataError) : Action (World Rehearsal) ε Unit :=
  Action.modify fun w => { w with extra := { w.extra with storeFaults := faults } }

/-- Lets the queue refuse so many publishes. -/
def setRejecting {ε : Type} (count : Nat) : Action (World Rehearsal) ε Unit :=
  World.modifyQueue fun q => { q with rejecting := count }

/-- Lets the store refuse commits, or no longer. -/
def setRefusing {ε : Type} (refusing : Bool) : Action (World Rehearsal) ε Unit :=
  Action.modify fun w => { w with store := { w.store with refusing } }

/-! ## Faults -/

/-- A call of a broker, unless it is to go wrong. -/
def brokerCall (operation : String) (call : Action (World Rehearsal) BrokerError α) :
    Action (World Rehearsal) BrokerError α := fun w =>
  match w.extra.brokerFaults.get? operation with
  | none => call w
  | some (.error e) => (.error e, w)
  | some .panic => (.panic (.because (operation ++ " panicked")), w)

/-- A call of a storage, unless it is to go wrong. -/
def storeCall (operation : String) (call : Action (World Rehearsal) DataError α) :
    Action (World Rehearsal) DataError α := fun w =>
  match w.extra.storeFaults.get? operation with
  | none => call w
  | some e => (.error e, w)

end Rehearsal

/-- A broker whose calls go wrong as the rehearsal says. -/
def Broker.withFaults (b : Broker Rehearsal) : Broker Rehearsal where
  publish topic m := Rehearsal.brokerCall "publish" (b.publish topic m)
  subscribe topic := Rehearsal.brokerCall "subscribe" (b.subscribe topic)
  unsubscribe topic feed := Rehearsal.brokerCall "unsubscribe" (b.unsubscribe topic feed)
  ack topic messageId := Rehearsal.brokerCall "ack" (b.ack topic messageId)
  nack topic messageId reason := Rehearsal.brokerCall "nack" (b.nack topic messageId reason)
  close := Rehearsal.brokerCall "close" b.close

/-- A storage whose calls go wrong as the rehearsal says. -/
def Storage.withFaults {τ : Type} (s : Storage Rehearsal τ) : Storage Rehearsal τ where
  begin ctx := Rehearsal.storeCall "begin" (s.begin ctx)
  prepare tx := Rehearsal.storeCall "prepare" (s.prepare tx)
  commit tx := Rehearsal.storeCall "commit" (s.commit tx)
  rollback tx := Rehearsal.storeCall "rollback" (s.rollback tx)
  create tx symbol := Rehearsal.storeCall "create" (s.create tx symbol)
  update tx symbol := Rehearsal.storeCall "update" (s.update tx symbol)
  delete tx id := Rehearsal.storeCall "delete" (s.delete tx id)
  find ctx id := Rehearsal.storeCall "find" (s.find ctx id)
  list ctx query := Rehearsal.storeCall "list" (s.list ctx query)

/-! ## Measurements -/

/-- A recorder that keeps what is measured. -/
def Recorder.capturing : Recorder Rehearsal where
  increment metric topic :=
    Action.modify fun r => { r with measured := r.measured ++ [(metric, topic)] }
  sample metric topic :=
    Action.modify fun r => { r with measured := r.measured ++ [(metric, topic)] }

/-- A recorder that panics. -/
def Recorder.panicking {ξ : Type} : Recorder ξ where
  increment _ _ := Action.raise (.because "recorder panicked")
  sample _ _ := Action.raise (.because "recorder panicked")

/-- Whether one measurement comes before another: by metric, then by topic. -/
def Rehearsal.measurementLe (a b : String × String) : Bool :=
  match compare a.1 b.1 with
  | .lt => true
  | .gt => false
  | .eq => compare a.2 b.2 != .gt

/-- How often each metric was recorded for each topic, by metric and topic. -/
def Rehearsal.measurements (r : Rehearsal) : List ((String × String) × Nat) :=
  (r.measured.eraseDups.mergeSort measurementLe).map fun e => (e, r.measured.count e)

end SymbolRelay
