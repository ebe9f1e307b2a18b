import SymbolRelay.Handling.CatalogRoutes
import SymbolRelay.Rehearsal.RouterBench
import SymbolRelay.Service.SymbolService

/-!
# A bench for the symbol service

A bench runs the service over a store whose calls go wrong on demand and over a queue, next to other
transactions that it holds open, and perhaps with a worker that keeps a catalog up to date.

## Definitions

* `ServicePlan` — which calls go wrong, and whether a worker listens;
* `ServiceBench.serve` — one request at the bench.
-/

set_option autoImplicit false

namespace SymbolRelay

/-- A service under rehearsal. -/
structure ServicePlan where
  codec : Codec := .default
  /-- Whether every symbol is taken for valid. -/
  lenient : Bool := false
  recorder : Option (Recorder Rehearsal) := none
  /-- How messages of the worker are tried again. -/
  maxRetries : Nat := 1
  poisonTopic : Option String := none

namespace ServicePlan

/-- The service. -/
def service (plan : ServicePlan) : SymbolService Rehearsal Transaction where
  storage := Storage.ofStore.withFaults
  publisher :=
    let publisher := Publisher.ofBroker Broker.ofQueue
    match plan.recorder with
    | some r => publisher.metered r
    | none => publisher
  codec := plan.codec
  validator := if plan.lenient then fun _ => .ok () else Symbol.validate

/-- The router of the worker before the catalog is registered. -/
def bareRouter (plan : ServicePlan) : Router Rehearsal where
  subscriber := Subscriber.ofBroker Broker.ofQueue
  publisher := some (Publisher.ofBroker Broker.ofQueue)
  config :=
    { maxRetries := plan.maxRetries, initialBackoff := ⟨0⟩, maxBackoff := ⟨0⟩,
      pollInterval := .ofMillis 1, poisonTopic := plan.poisonTopic }

/-- The router of the worker after so many attempts to register the catalog, and how each ended. -/
def router (plan : ServicePlan) : Nat → List (Except RouterError Unit) × Router Rehearsal
  | 0 => ([], plan.bareRouter)
  | n + 1 =>
    let (results, r) := router plan n
    let (result, r) := r.registerCatalog Rehearsal.catalog fun catalog e => { e with catalog }
    (results ++ [result], r)

end ServicePlan

/-- A call of the service. -/
inductive ServiceCall where
  | write (what : Write)
  | get (id : Int64)
  | list (query : Query)
  | announce (kind : EventKind) (about : Option Symbol)

/-- How a call of the service ends. -/
inductive CallReply where
  | written (what : Write) (outcome : Outcome DomainError Symbol)
  | found (outcome : Outcome DomainError Symbol)
  | listed (outcome : Outcome DomainError (List Symbol))
  | announced (outcome : Outcome PublishError Unit)

/-- The symbol that a call created. -/
def CallReply.created? : CallReply → Option Symbol
  | .written (.create _) (.ok created) => some created
  | _ => none

/-- What is asked of a bench. `tx` names a transaction that is held open. -/
inductive ServiceRequest where
  | call (ctx : Context) (what : ServiceCall)
  /-- A call from inside a unit of work. -/
  | nested (ctx : Context) (what : ServiceCall)
  | setFaults (faults : Table String DataError)
  | refuseCommits (refusing : Bool)
  | reject (count : Nat)
  | closeQueue
  | hold (ctx : Context) (tx : String) (symbol : Symbol) (prepared : Bool)
  | release (tx : String) (commit : Bool)
  | redeliver (index : Nat)
  | inject (topic : String) (m : Message)
  | stop

/-- What a bench answers. -/
inductive ServiceReply where
  | called (reply : CallReply)
  /-- How the call ended, if it was made, and how the unit around it ended. -/
  | nested (inner : Option CallReply) (outer : Outcome DataError Unit)
  | data (outcome : Outcome DataError Unit)
  | broker (outcome : Outcome BrokerError Unit)
  | stopped (outcome : Except WorkerError Unit)
  | unpublished
  /-- Nothing goes by that name. -/
  | unknown

/-- The symbol that a request created. -/
def ServiceReply.created? : ServiceReply → Option Symbol
  | .called reply => reply.created?
  | .nested inner _ => inner.bind CallReply.created?
  | _ => none

/-- A service under rehearsal, with its worker and the transactions that are held open. -/
structure ServiceBench where
  host : RouterHost Rehearsal
  worker : Worker := {}
  held : Table String Transaction := Table.empty

namespace ServiceBench

/-- Does something in the world. -/
def inWorld {ε α : Type} (a : Action (World Rehearsal) ε α) (b : ServiceBench) :
    Outcome ε α × ServiceBench :=
  let (o, world) := a b.host.world
  (o, { b with host := { b.host with world } })

/-- Does something in the world that does not fail. -/
def change (a : Action (World Rehearsal) Empty Unit) (b : ServiceBench) : ServiceReply × ServiceBench :=
  (.data (.ok ()), (inWorld a b).2)

/-- Makes a call of the service. -/
def call (s : SymbolService Rehearsal Transaction) (ctx : Context) (b : ServiceBench) :
    ServiceCall → CallReply × ServiceBench
  | .write what =>
    let (o, b) := inWorld (s.write ctx what) b
    (.written what o, b)
  | .get id =>
    let (o, b) := inWorld (s.get ctx id) b
    (.found o, b)
  | .list query =>
    let (o, b) := inWorld (s.list ctx query) b
    (.listed o, b)
  | .announce kind about =>
    let (o, b) := inWorld (s.announce kind ctx about) b
    (.announced o, b)

/-- Makes a call of the service under the context of an open unit of work. -/
def nestedCall (s : SymbolService Rehearsal Transaction) (ctx : Context) (what : ServiceCall)
    (b : ServiceBench) : ServiceReply × ServiceBench :=
  let t := s.storage.toTransactor
  match inWorld (UnitOfWork.enter t ctx) b with
  | (.ok u, b) =>
    let (inner, b) := call s u.ctx b what
    let (outer, b) := inWorld (UnitOfWork.leave t id u (.ok ())) b
    (.nested (some inner) outer, b)
  | (o, b) => (.nested none (o.map fun _ => ()), b)

/-- Lets another transaction create a symbol and keeps it open. -/
def hold (ctx : Context) (name : String) (symbol : Symbol) (prepared : Bool) (b : ServiceBench) :
    ServiceReply × ServiceBench :=
  let store : Storage Rehearsal Transaction := Storage.ofStore
  let held : Action (World Rehearsal) DataError Transaction := do
    let tx ← store.begin ctx
    let (_, tx) ← store.create tx symbol
    if prepared then store.prepare tx else return tx
  match inWorld held b with
  | (.ok tx, b) => (.data (.ok ()), { b with held := b.held.insert name tx })
  | (o, b) => (.data (o.map fun _ => ()), b)

/-- Ends a transaction that was held open. -/
def release (name : String) (commit : Bool) (b : ServiceBench) : ServiceReply × ServiceBench :=
  match b.held.get? name with
  | none => (.unknown, b)
  | some tx =>
    let store : Storage Rehearsal Transaction := Storage.ofStore
    let (o, b) := inWorld (if commit then store.commit tx else store.rollback tx) b
    (.data o, { b with held := b.held.erase name })

/-- Publishes a message past the service. -/
def inject (topic : String) (m : Message) (b : ServiceBench) : ServiceReply × ServiceBench :=
  let (o, b) := inWorld (Broker.ofQueue.publish topic m) b
  (.broker o, b)

/-- Lets the run of the worker, if there is one, come to rest. -/
def settle (r : Router Rehearsal) (b : ServiceBench) : ServiceBench :=
  { b with host := b.host.settle r RouterBench.patience }

/-- Starts the worker and lets its run come to rest. -/
def start (r : Router Rehearsal) (ctx : Context) (b : ServiceBench) : ServiceBench :=
  let (worker, host) := Worker.start (Runnable.ofRouter r ctx) b.worker b.host
  settle r { b with worker, host }

/-- Stops the worker. -/
def stop (r : Router Rehearsal) (ctx : Context) (b : ServiceBench) :
    Except WorkerError Unit × ServiceBench :=
  let (o, worker, host) :=
    Worker.stopWithin (Runnable.ofRouter r ctx) defaultStopTimeout b.worker b.host
  (o, { b with worker, host })

/-- Serves a request; `outer` is the context of the worker. -/
def serve (s : SymbolService Rehearsal Transaction) (r : Router Rehearsal) (outer : Context) :
    ServiceRequest → ServiceBench → ServiceReply × ServiceBench
  | .call ctx what, b =>
    let (reply, b) := call s ctx b what
    (.called reply, b)
  | .nested ctx what, b => nestedCall s ctx what b
  | .setFaults faults, b => change (Rehearsal.setStoreFaults faults) b
  | .refuseCommits refusing, b => change (Rehearsal.setRefusing refusing) b
  | .reject count, b => change (Rehearsal.setRejecting count) b
  | .closeQueue, b => change (World.modifyQueue Queue.close) b
  | .hold ctx tx symbol prepared, b => hold ctx tx symbol prepared b
  | .release tx commit, b => release tx commit b
  | .redeliver index, b =>
    match b.host.world.queue.log[index]? with
    | none => (.unpublished, b)
    | some (topic, m) => inject topic m b
  | .inject topic m, b => inject topic m b
  | .stop, b =>
    let (o, b) := b.stop r outer
    (.stopped o, b)

end ServiceBench

end SymbolRelay
