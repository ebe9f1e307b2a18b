import SymbolRelay.Handling.Router
import SymbolRelay.Symbol.Catalog

/-!
# Feeding a catalog

A catalog is kept up to date by a consumer on each of the symbol topics.

## Results

* `consumer_of_error` — a message that the catalog refuses leaves everything as it is.
-/

set_option autoImplicit false

namespace SymbolRelay

variable {ξ : Type}

/-- The handler that applies messages to a catalog kept in the extra part of the world. -/
def Catalog.consumer [BinaryFormat] (part : ξ → Catalog) (put : Catalog → ξ → ξ) : Handler ξ :=
  Handler.ofConsumer fun m w =>
    match (part w.extra).apply m with
    | .ok catalog => (.ok (), { w with extra := put catalog w.extra })
    | .error e => (.error e, w)

namespace Router

/-- Registers a handler for topics, one after the other, up to the first that has one already. The
topics before it stay registered. -/
def registerAll (handler : Handler ξ) : List String → Router ξ → Except RouterError Unit × Router ξ
  | [], r => (.ok (), r)
  | topic :: rest, r =>
    match r.register { topic, handler } with
    | .error e => (.error e, r)
    | .ok r => registerAll handler rest r

/-- Registers a catalog for the symbol topics. -/
def registerCatalog [BinaryFormat] (part : ξ → Catalog) (put : Catalog → ξ → ξ) (r : Router ξ) :
    Except RouterError Unit × Router ξ :=
  registerAll (Catalog.consumer part put) symbolTopics r

end Router

theorem Catalog.consumer_of_error [BinaryFormat] {part : ξ → Catalog} {put : Catalog → ξ → ξ} {m : Message}
    {w : World ξ} {e : HandlerError} (h : (part w.extra).apply m = .error e) :
    Catalog.consumer part put m w = (.error e, w) := by
  simp [Catalog.consumer, Handler.ofConsumer, bind, Action.bind, h]

end SymbolRelay
