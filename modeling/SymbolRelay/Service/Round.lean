import SymbolRelay.Delivery.Metering
import SymbolRelay.Handling.CatalogRoutes
import SymbolRelay.Service.Settings
import SymbolRelay.Service.SymbolService
import SymbolRelay.Service.Worker

/-!
# A round of the worker

A round shows the whole at work: a service writes some symbols, one of them with a code that is taken,
while a worker keeps a catalog of them from the events that leave; then the worker is stopped.

## Definitions

* `Round.run` — what a round comes to;
* `Round.text` — what is told of it.
-/

set_option autoImplicit false

namespace SymbolRelay

/-- What a round shows. -/
structure Round where
  /-- Why the write with a taken code was refused, if it was. -/
  refused : Option DomainError
  stored : List Symbol
  catalog : Catalog
  stats : Stats
  stopped : Except WorkerError Unit

namespace Round

/-- The router of a round before the catalog is registered. -/
def bareRouter [IdSource] (s : Settings) : Router Catalog where
  subscriber := (Subscriber.ofBroker Broker.ofQueue).metered Recorder.silent
  publisher := some (Publisher.ofBroker Broker.ofQueue)
  config := s.routerConfig

/-- The router of a round. -/
def router [BinaryFormat] [IdSource] (s : Settings) : Router Catalog :=
  ((bareRouter s).registerCatalog id fun catalog _ => catalog).2

/-- The service of a round. -/
def service [IdSource] (s : Settings) : SymbolService Catalog Transaction where
  storage := Storage.ofStore
  publisher := (Publisher.ofBroker Broker.ofQueue).metered Recorder.silent
  codec := s.eventCodec

/-- A symbol that was never stored. -/
def draft (name code : String) : Symbol :=
  { id := 0, name, code, createdAt := Time.epoch, updatedAt := Time.epoch }

/-- The error that an action ended with, if it did. -/
def errorOf {ε α : Type} : Outcome ε α → Option ε
  | .error e => some e
  | _ => none

/-- How many steps the worker is given after every call: more than the event of one call takes. -/
def patience : Nat := 1000

/-- Does something in the world, and gives the worker time for what leaves. -/
def attended [BinaryFormat] [IdSource] {ε α : Type} (s : Settings) (a : Action (World Catalog) ε α) :
    Action (RouterHost Catalog) ε α := fun host =>
  let (o, world) := a host.world
  (o, RouterHost.settle (router s) patience { host with world })

/-- The calls of a round: why the last write was refused, and what is stored at the end. -/
def calls [BinaryFormat] [IdSource] (s : Settings) (ctx : Context) :
    Action (RouterHost Catalog) DomainError (Option DomainError × List Symbol) := do
  let write := fun what => attended s ((service s).write ctx what)
  let bitcoin ← write (.create (draft "Bitcoin" "BTC-USD"))
  let ether ← write (.create (draft "Ether" "ETH-USD"))
  let _ ← write (.update { bitcoin with description := "spot bitcoin" })
  let _ ← write (.delete ether.id)
  let again ← Action.attempt (write (.create (draft "Bitcoin again" "BTC-USD")))
  let stored ← attended s ((service s).list ctx {})
  return (errorOf again, stored)

/-- The world in which a round begins, with the context of its worker and the context of its calls. -/
def opening : Context × Context × World Catalog :=
  let (worker, scopes) := Context.ofValues Table.empty {}
  let (request, scopes) := Context.ofValues (Table.ofList [(Header.requestId, "demo-1")]) scopes
  (worker, request, { scopes, extra := .withWindow defaultDedupeWindow })

/-- A round. -/
def run [BinaryFormat] [IdSource] [RetryLoop] (s : Settings) : Outcome DomainError Round :=
  let (ctx, request, world) := opening
  let runnable := Runnable.ofRouter (router s) ctx
  let (worker, host) := Worker.start runnable {} { world }
  match calls s request host with
  | (.ok (refused, stored), host) =>
    let (stopped, _, host) := Worker.stopWithin runnable s.stopTimeout worker host
    .ok ⟨refused, stored, host.world.extra, host.world.stats, stopped⟩
  | (.error e, _) => .error e
  | (.panic p, _) => .panic p

/-- What a round tells. -/
def text (r : Round) : String :=
  (match r.refused with
    | none => ""
    | some e =>
      "duplicate rejected as expected: " ++ e.message ++ " (status " ++ toString e.statusCode ++ ")\n")
    ++ "round finished: " ++ toString r.stored.length ++ " stored, " ++
      toString r.catalog.entries.size ++ " in the catalog, " ++ toString r.stats.handled ++
      " handled, " ++ toString r.stats.failed ++ " failed, " ++ toString r.stats.panics ++ " panics"

end Round

end SymbolRelay
