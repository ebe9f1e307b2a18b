import SymbolRelay.Service.Arguments
import SymbolRelay.Service.LogFilter

/-!
# Starting the worker

What the command line and the environment lead to: work, or an exit with a code and a complaint.

## Definitions

* `Startup.of` — what comes of arguments and environment.
-/

set_option autoImplicit false

namespace SymbolRelay

/-- What a start leads to. -/
inductive Startup where
  | exit (code : Nat) (complaint : Option String)
  | work (settings : Settings)

namespace Startup

/-- A complaint with what caused it. -/
def complaint (what cause : String) : String :=
  "Error: " ++ what ++ "\n\nCaused by:\n    " ++ cause ++ "\n"

/-- Whether a fault of the command line is in truth a question that was answered. -/
def isQuestion : ArgumentFault → Bool
  | .displayHelp | .displayVersion => true
  | _ => false

/-- What settings lead to. -/
def ofSettings (s : Settings) : Startup :=
  match s.validate with
  | .error e => .exit 1 (some (complaint "invalid configuration" e.message))
  | .ok () =>
    match LogFilter.parse s.logLevel with
    | .error e => .exit 1 (some (complaint "failed to set up logging" e.message))
    | .ok _ => .work s

/-- What arguments and environment lead to. -/
def of (args : List String) (environment : Table String String) : Startup :=
  match Arguments.read args environment with
  | .error fault => .exit (if isQuestion fault then 0 else 2) none
  | .ok s => ofSettings s

end Startup

end SymbolRelay
