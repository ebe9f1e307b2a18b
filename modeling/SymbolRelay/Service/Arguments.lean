import SymbolRelay.Service.Settings

/-!
# The command line of the worker

Settings are read from the arguments and then, where no argument sets them, from the environment, by
the rules of clap. A flag takes its value from behind an equals sign or from the next argument; a value
of its own stays undecided until the next flag or the end of the line, so that a word that makes no
sense anywhere is found before it.

```text
--max-retries 5 --json-logs --poison-topic=late
```

## Definitions

* `Arguments.readWord`, `readVariable` — one word of the line, one variable;
* `Arguments.read` — the settings, or why there are none.
-/

set_option autoImplicit false

namespace SymbolRelay

/-- Why a command line is not one, or asks for something else than work. -/
inductive ArgumentFault where
  | unknownArgument
  /-- A value is missing, or a switch is neither on nor off. -/
  | invalidValue
  | valueValidation
  | argumentConflict
  /-- A flag that takes no value has one. -/
  | tooManyValues
  | displayHelp
  | displayVersion
  deriving DecidableEq, Repr

/-- What was read of a command line: the settings, those that were given, and a flag that waits for its
value or for its turn. -/
structure ArgumentState where
  settings : Settings := {}
  given : List Setting := []
  pending : Option (Setting × Option String) := none
  /-- Flags are over. -/
  trailing : Bool := false

namespace Arguments

/-- What an argument looks like. -/
inductive Word where
  | endOfFlags
  | long (name : String) (value : Option String)
  | short (first : Char)
  | plain (text : String)
  deriving DecidableEq, Repr

/-- A text before its first equals sign, and after it. -/
def splitAtEquals (cs : List Char) : String × Option String :=
  (String.ofList (cs.takeWhile (· ≠ '=')),
    match cs.dropWhile (· ≠ '=') with
    | [] => none
    | _ :: value => some (String.ofList value))

/-- What an argument looks like. -/
def Word.ofText (text : String) : Word :=
  match text.toList with
  | ['-', '-'] => .endOfFlags
  | '-' :: '-' :: rest => .long (splitAtEquals rest).1 (splitAtEquals rest).2
  | '-' :: c :: _ => .short c
  | _ => .plain text

/-- Sets a setting that was not given before. -/
def assign (st : ArgumentState) (setting : Setting) (value : String) :
    Except ArgumentFault ArgumentState :=
  if setting ∈ st.given then .error .argumentConflict
  else
    match setting.assign? value st.settings with
    | some settings => .ok { st with settings, given := setting :: st.given }
    | none => .error .valueValidation

/-- Decides what is pending. -/
def flush (st : ArgumentState) : Except ArgumentFault ArgumentState :=
  match st.pending with
  | none => .ok st
  | some (_, none) => .error .invalidValue
  | some (setting, some value) => assign { st with pending := none } setting value

/-- Decides what is pending, and then asks for something else than work. -/
def ask (st : ArgumentState) (fault : ArgumentFault) : Except ArgumentFault ArgumentState :=
  (flush st).bind fun _ => .error fault

/-- Reads the flag of a setting. -/
def readSetting (st : ArgumentState) (setting : Setting) :
    Option String → Except ArgumentFault ArgumentState
  | some value =>
    if setting.isSwitch then .error .tooManyValues
    else (flush st).bind fun st => assign st setting value
  | none =>
    (flush st).bind fun st =>
      if setting.isSwitch then assign st setting "true"
      else .ok { st with pending := some (setting, none) }

/-- Reads a flag with its whole name. -/
def readLong (st : ArgumentState) (name : String) (value : Option String) :
    Except ArgumentFault ArgumentState :=
  if name = "help" then if value.isSome then .error .tooManyValues else ask st .displayHelp
  else if name = "version" then
    if value.isSome then .error .tooManyValues else ask st .displayVersion
  else
    match Setting.ofFlag? name with
    | some setting => readSetting st setting value
    | none => .error .unknownArgument

/-- Reads one argument. -/
def readWord (st : ArgumentState) (word : Word) : Except ArgumentFault ArgumentState :=
  match word with
  | .endOfFlags => .ok { st with trailing := true }
  | .long name value => readLong st name value
  | .short first =>
    if first = 'h' then ask st .displayHelp
    else if first = 'V' then ask st .displayVersion
    else .error .unknownArgument
  | .plain text =>
    match st.pending with
    | some (setting, none) => .ok { st with pending := some (setting, some text) }
    | _ => .error .unknownArgument

/-- Reads arguments. Nothing may follow the end of the flags. -/
def readAll (st : ArgumentState) : List String → Except ArgumentFault ArgumentState
  | [] => flush st
  | arg :: rest =>
    if st.trailing then .error .unknownArgument
    else (readWord st (Word.ofText arg)).bind fun st => readAll st rest

/-- Reads the variable of one setting, unless the setting was given. A switch that is neither on nor
off is not even a value. -/
def readVariable (environment : Table String String) (st : ArgumentState) (setting : Setting) :
    Except ArgumentFault ArgumentState :=
  if setting ∈ st.given then .ok st
  else
    match environment.get? setting.variable_ with
    | none => .ok st
    | some value =>
      (assign st setting value).mapError fun fault =>
        if setting.isSwitch then .invalidValue else fault

/-- The settings that arguments and environment give. -/
def read (args : List String) (environment : Table String String) :
    Except ArgumentFault Settings := do
  let st ← readAll {} args
  let st ← Setting.all.foldlM (readVariable environment) st
  return st.settings

end Arguments

end SymbolRelay
