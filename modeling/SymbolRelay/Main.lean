import SymbolRelay.Service.Round
import SymbolRelay.Service.Startup
import SymbolRelay.Standin.Compact
import SymbolRelay.Standin.NumberedIds
import SymbolRelay.Standin.RetryLoop

/-!
# The symbol worker

The program: reads the command line and the environment, makes one round, and tells what came of it.
-/

set_option autoImplicit false

namespace SymbolRelay.Program

/-- The variables of the environment that set something. -/
def readEnvironment : IO (Table String String) := do
  let mut environment := Table.empty
  for setting in Setting.all do
    if let some value ← IO.getEnv setting.variable_ then
      environment := environment.insert setting.variable_ value
  return environment

/-- Complains, and gives the exit code of a program that failed. -/
def failWith (complaint : String) : IO UInt32 := do
  IO.eprint complaint
  return 1

/-- Makes a round and tells what came of it. -/
def work (s : Settings) : IO UInt32 := do
  match Round.run s with
  | .error e => failWith ("Error: " ++ e.message ++ "\n")
  | .panic p => failWith ("Error: " ++ p.reason ++ "\n")
  | .ok round =>
    IO.println round.text
    match round.stopped with
    | .ok () => return 0
    | .error e => failWith (Startup.complaint "worker did not stop cleanly" e.message)

/-- Does what a start leads to. -/
def begin : Startup → IO UInt32
  | .exit code complaint => do
    IO.eprint (complaint.getD "")
    return code.toUInt32
  | .work s => work s

end SymbolRelay.Program

def main (args : List String) : IO UInt32 := do
  let environment ← SymbolRelay.Program.readEnvironment
  SymbolRelay.Program.begin (SymbolRelay.Startup.of args environment)
