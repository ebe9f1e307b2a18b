import SymbolRelay.Decimal.Reader
import SymbolRelay.Text.Alphanumeric
import SymbolRelay.Text.Blank
import SymbolRelay.Text.Pattern
import SymbolRelay.Text.Quoted

/-!
# Log filters

Which texts tracing-subscriber takes for a log filter; what a filter lets through is not looked at. A log
filter is a list of directives between commas. A directive names a level, a target, or both, and may
confine itself to spans with a name and fields:

```text
info
relay=debug,warn
relay[request{id}]=trace
```

## Results

* `message_eq` — the text of an error shows the whole filter.
-/

set_option autoImplicit false

namespace SymbolRelay

open SymbolRelay.Text SymbolRelay.Decimal

/-- How much is logged. -/
inductive LogLevel where
  | off
  | error
  | warn
  | info
  | debug
  | trace
  deriving DecidableEq, Repr

namespace LogLevel

/-- The level with a number. -/
def ofNumber? : Nat → Option LogLevel
  | 0 => some .off
  | 1 => some .error
  | 2 => some .warn
  | 3 => some .info
  | 4 => some .debug
  | 5 => some .trace
  | _ => none

/-- The level with a name, in any case. -/
def ofName? (text : String) : Option LogLevel :=
  match String.ofList (text.toList.map Char.toLower) with
  | "error" => some .error
  | "warn" => some .warn
  | "info" => some .info
  | "debug" => some .debug
  | "trace" => some .trace
  | "off" => some .off
  | _ => none

/-- The level that a text says, by number or name. -/
def ofText? (text : String) : Option LogLevel :=
  match (readUnsigned? (2 ^ 64 - 1) text).bind ofNumber? with
  | some level => some level
  | none => ofName? text

end LogLevel

/-- What is logged at which level. -/
structure LogDirective where
  level : LogLevel := .trace
  target : Option String := none
  span : Option String := none
  fields : List String := []
  deriving DecidableEq, Repr

namespace LogDirective

/-- How far a directive was read. Each number is the place where the part at hand began. -/
inductive Reading where
  | start
  | levelOrTarget (begun : Nat)
  | span (begun : Nat)
  | field (begun : Nat)
  | fields
  | target
  | level (begun : Nat)
  deriving DecidableEq, Repr

/-- Whether a directive may begin with a character. -/
def canBegin (c : Char) : Bool := c == '-' || c == ':' || c == '_' || isAlphanumeric c

/-- The octets of a text between two places, as text. -/
def slice (bytes : Octets) (start stop : Nat) : Option String :=
  if start ≤ stop then text? ((bytes.take stop).drop start) else none

/-- The value of a field, behind the first equals sign. -/
def fieldValue? (field : String) : Option String :=
  match field.toList.dropWhile (· ≠ '=') with
  | [] => none
  | _ :: value => some (String.ofList (value.takeWhile (· ≠ '=')))

/-- Whether a field can be matched: its value, if it has one, is a switch, a number or a pattern. -/
def isField (field : String) : Bool :=
  field != "" &&
    match fieldValue? field with
    | none => true
    | some value => (readFloat? value).isSome || isPattern value

/-- The level behind an equals sign; nothing stands for the greatest. -/
def levelOf? (text : String) : Option LogLevel :=
  if text = "" then some .trace else LogLevel.ofText? text

/-- Adds a field. -/
def addField (d : LogDirective) (field : String) : Option LogDirective :=
  if isField field then some { d with fields := d.fields ++ [field] } else none

/-- Reads the character at a place. -/
def readChar (bytes : Octets) (reading : Reading) (d : LogDirective) (place : Nat) (c : Char) :
    Option (Reading × LogDirective) :=
  match reading with
  | .start =>
    if c = '[' then some (.span (place + 1), d)
    else if canBegin c then some (.levelOrTarget place, d)
    else none
  | .levelOrTarget begun =>
    if c = '=' then do
      let target ← slice bytes begun place
      return (.level (place + 1), { d with target := some target })
    else if c = '[' then do
      let target ← slice bytes begun place
      return (.span (place + 1), { d with target := some target })
    else some (reading, d)
  | .span begun =>
    if c = ']' then do
      let span ← slice bytes begun place
      return (.target, { d with span := some span })
    else if c = '\x7b' then do
      let span ← slice bytes begun place
      return (.field (place + 1), { d with span := if span = "" then none else some span })
    else some (reading, d)
  | .field begun =>
    if c = '\x7d' then do
      let field ← slice bytes begun place
      let d ← addField d field
      return (.fields, d)
    else some (reading, d)
  | .fields => if c = ']' then some (.target, d) else none
  | .target => if c = '=' then some (.level (place + 1), d) else none
  | .level _ => some (reading, d)

/-- Ends a directive where its text ends. -/
def finish (bytes : Octets) (reading : Reading) (d : LogDirective) : Option LogDirective :=
  match reading with
  | .levelOrTarget begun => do
    let text ← slice bytes begun bytes.length
    match LogLevel.ofText? text with
    | some level => return { d with level, target := none }
    | none => return { d with level := .trace, target := some text }
  | .level begun => do
    let level ← (slice bytes begun bytes.length).bind levelOf?
    return { d with level }
  | .target => some d
  | _ => none

/-- Reads the characters from a place on. -/
def readChars (bytes : Octets) (reading : Reading) (d : LogDirective) (place : Nat) :
    List Char → Option LogDirective
  | [] => finish bytes reading d
  | c :: rest =>
    match readChar bytes reading d place c with
    | some (reading, d) => readChars bytes reading d (place + c.utf8Size) rest
    | none => none

/-- The characters of a text without white space at its ends. -/
def trimmed (s : String) : List Char :=
  ((s.toList.dropWhile isWhite).reverse.dropWhile isWhite).reverse

/-- Reads a directive. Places count from the first character that is not white space, but in the text
as it stands. -/
def parse? (s : String) : Option LogDirective := readChars (octets s) .start {} 0 (trimmed s)

end LogDirective

/-- A text that is no log filter. -/
structure LogFilterError where
  filter : String
  deriving DecidableEq, Repr

/-- The text of the error. -/
def LogFilterError.message (e : LogFilterError) : String := "invalid log filter " ++ quoted e.filter

namespace LogFilter

/-- The parts of a text between commas. -/
def splitAtCommas : List Char → List (List Char)
  | [] => [[]]
  | c :: rest =>
    match splitAtCommas rest with
    | [] => [[c]]
    | part :: parts => if c = ',' then [] :: part :: parts else (c :: part) :: parts

/-- The directives of a log filter. Nothing between two commas is no directive. -/
def parse (filter : String) : Except LogFilterError (List LogDirective) :=
  let parts := (splitAtCommas filter.toList).filter fun part => !part.isEmpty
  match parts.mapM fun part => LogDirective.parse? (String.ofList part) with
  | some directives => .ok directives
  | none => .error ⟨filter⟩

theorem message_eq {filter : String} {e : LogFilterError} (h : parse filter = .error e) :
    e.message = "invalid log filter " ++ quoted filter := by
  simp only [parse] at h
  split at h
  · cases h
  · cases h
    rfl

end LogFilter

end SymbolRelay
