import SymbolRelay.Handling.Router
import SymbolRelay.Rehearsal.State

/-!
# Scripted parts

Handlers, middleware, publishers and subscribers that do what a script says. A script lists outcomes:
the first call for a message takes the first, the next call the next, and the last one repeats.

## Definitions

* `outcomeAt` — what a script says of a call;
* `scripted` — the handler that follows a script;
* `Tag.middleware` — middleware that leaves a trace.
-/

set_option autoImplicit false

namespace SymbolRelay

/-- What a scripted handler does on the side. -/
inductive Effect where
  /-- Cancels the context of the router. -/
  | cancel
  | closeQueue
  | reject (count : Nat)
  | setFaults (faults : Table String BrokerFault)
  | publish (topic : String) (m : Message)
  | unsubscribe (topic : String) (feed : Nat)

/-- How a scripted handler ends. -/
inductive Ending where
  /-- Nothing is produced. -/
  | ok
  | produce (messages : List Message)
  /-- The message itself is produced. -/
  | echo
  /-- A new message with the same payload is produced. -/
  | copy
  | error (cause : HandlerError)
  | panic (cause : Panic)

/-- One call of a scripted handler: what it does on the side, and then how it ends. -/
structure Turn where
  effects : List Effect := []
  ending : Ending := .ok

/-- The turns for each message uuid; those under a star are for all others. -/
abbrev Script : Type := Table String (List Turn)

/-- The turn that a call takes; calls are counted from 1. -/
def outcomeAt (turns : List Turn) (call : Nat) : Turn :=
  match turns[call - 1]? with
  | some turn => turn
  | none => turns.getLast?.getD {}

/-- The turns for a message. -/
def Script.turns (s : Script) (uuid : String) : List Turn :=
  match s.get? uuid with
  | some turns => turns
  | none => (s.get? "*").getD []

namespace Rehearsal

/-- Does something on the side. -/
def perform (broker : Broker Rehearsal) (ctx : Context) :
    Effect → Action (World Rehearsal) HandlerError Unit
  | .cancel => World.cancel ctx
  | .closeQueue => World.modifyQueue Queue.close
  | .reject count => setRejecting count
  | .setFaults faults => setBrokerFaults faults
  | .publish topic m => World.modifyQueue fun q => (q.publish topic m).2
  | .unsubscribe topic feed => Router.settleWith
      ((broker.unsubscribe topic feed).mapError fun cause => .broker topic cause)

/-- Does everything on the side. -/
def performAll (broker : Broker Rehearsal) (ctx : Context) :
    List Effect → Action (World Rehearsal) HandlerError Unit
  | [] => pure ()
  | effect :: rest => do
    perform broker ctx effect
    performAll broker ctx rest

/-- Ends a call. -/
def endCall (m : Message) : Ending → Action (World Rehearsal) HandlerError (List Message)
  | .ok => pure []
  | .produce messages => pure messages
  | .echo => pure [m]
  | .copy => pure [{ payload := m.payload }]
  | .error cause => Action.fail cause
  | .panic cause => Action.raise cause

/-- How often a handler was called for a message. -/
def callsOf (trace : List TraceEntry) (topic uuid : String) : Nat :=
  trace.countP fun entry =>
    match entry with
    | .handler t u _ => t == topic && u == uuid
    | _ => false

/-- The handler of a topic that follows a script. -/
def scripted (broker : Broker Rehearsal) (ctx : Context) (topic : String) (script : Script) :
    Handler Rehearsal := fun m => do
  let w ← Action.get
  let call := callsOf w.extra.trace topic m.uuid + 1
  note (.handler topic m.uuid call)
  let turn := outcomeAt (script.turns m.uuid) call
  performAll broker ctx turn.effects
  endCall m turn.ending

/-- A handler that produces nothing, whatever another one produces. -/
def consuming (handler : Handler Rehearsal) : Handler Rehearsal :=
  Handler.ofConsumer fun m => do
    let _ ← handler m
    return ()

/-- A publisher that is never given an event. -/
def brokenPublisher : Publisher Rehearsal where
  send _ _ _ := Action.fail (.missingEvent "broken")

/-- A publisher that panics. -/
def panickingPublisher : Publisher Rehearsal where
  send _ topic _ := Action.raise (.because ("publisher panicked on " ++ topic))

/-- The subscriber that panics when it is to subscribe. -/
def panickingSubscriber (s : Subscriber Rehearsal) : Subscriber Rehearsal :=
  { s with subscribe := fun _ _ => Action.raise (.because "subscriber panicked") }

end Rehearsal

/-- A middleware with a name that shows itself: it panics on one message, and changes what is
produced. -/
structure Tag where
  name : String
  /-- The uuid on which it panics. -/
  explode : Option String := none
  /-- Whether it drops what is produced. -/
  strip : Bool := false
  /-- A message that it adds. -/
  add : Option Message := none
  /-- A value that it sets under its name. -/
  stamp : Option String := none

/-- What a tag makes of produced messages. -/
def Tag.change (tag : Tag) (produced : List Message) : List Message :=
  let produced := if tag.strip then [] else produced
  let produced := produced ++ tag.add.toList
  match tag.stamp with
  | some value => produced.map fun m => m.setValue tag.name value
  | none => produced

/-- The middleware of a tag. -/
def Tag.middleware (tag : Tag) : Middleware Rehearsal := fun next m => do
  Rehearsal.note (.entered tag.name m.uuid)
  if tag.explode = some m.uuid then
    Action.raise (.because (tag.name ++ " exploded on " ++ m.uuid))
  else
    match ← Action.attempt (next m) with
    | .panic p => Action.raise p
    | .error e =>
      Rehearsal.note (.left tag.name m.uuid false)
      Action.fail e
    | .ok produced =>
      Rehearsal.note (.left tag.name m.uuid true)
      return tag.change produced

end SymbolRelay
