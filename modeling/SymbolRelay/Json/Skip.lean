import SymbolRelay.Json.Lexeme

/-!
# Skipping JSON values

The value of a member that nobody asked for is skipped: it must be well-formed, but may be nested as
deeply as it likes, so the brackets that are open are kept in a list and not in the reader's calls.

## Definitions

* `skipStep` — one step of skipping, with the brackets that are open;
* `skipValue` — a whole value.
-/

set_option autoImplicit false

namespace SymbolRelay.Json

open SymbolRelay.Text

/-- An open bracket. -/
inductive Bracket where
  | list
  | object
  deriving DecidableEq, Repr

/-- The octet that closes a bracket. -/
def Bracket.closing : Bracket → UInt8
  | .list => 0x5D
  | .object => 0x7D

/-- Where the skipping of a value stands. -/
inductive SkipPoint where
  /-- A value comes next; these brackets are open, the innermost first. -/
  | value (brackets : List Bracket)
  /-- A bracket was just opened. -/
  | opened (inner : Bracket) (outer : List Bracket)
  /-- A value inside these brackets was just skipped. -/
  | after (brackets : List Bracket)
  deriving DecidableEq, Repr

/-- What is open once the innermost bracket closes. -/
def closeBracket (outer : List Bracket) : SkipPoint := .after outer

/-- Skips a member's name and the colon after it. -/
def skipName (bytes : Octets) : Except Fault (Unit × Octets) :=
  match skipSpace bytes with
  | [] => .error .truncated
  | b :: rest =>
    if b = 0x22 then do
      let ((), rest) ← skipQuoted (rest.length + 1) rest
      match skipSpace rest with
      | [] => throw .truncated
      | c :: rest => if c = 0x3A then return ((), rest) else throw .malformed
    else .error .malformed

/-- Starts the next item inside a bracket: in an object, its name is skipped first. -/
def startItem (inner : Bracket) (outer : List Bracket) (bytes : Octets) :
    Except Fault (SkipPoint × Octets) :=
  match inner with
  | .list => .ok (.value (inner :: outer), bytes)
  | .object => (skipName bytes).map fun ((), rest) => (.value (inner :: outer), rest)

/-- Skips the front of a value: a whole one, or the bracket that opens it. -/
def skipFront (brackets : List Bracket) (bytes : Octets) : Except Fault (SkipPoint × Octets) :=
  let done := fun (r : Unit × Octets) => (SkipPoint.after brackets, r.2)
  match bytes with
  | [] => .error .truncated
  | b :: rest =>
    if b = 0x6E then (readWord [0x75, 0x6C, 0x6C] rest).map done
    else if b = 0x74 then (readWord [0x72, 0x75, 0x65] rest).map done
    else if b = 0x66 then (readWord [0x61, 0x6C, 0x73, 0x65] rest).map done
    else if b = 0x2D then (skipNumber rest).map done
    else if isDigit b then (skipNumber (b :: rest)).map done
    else if b = 0x22 then (skipQuoted (rest.length + 1) rest).map done
    else if b = 0x5B then .ok (.opened .list brackets, rest)
    else if b = 0x7B then .ok (.opened .object brackets, rest)
    else .error .malformed

/-- One step of skipping; `none` once the outermost value is skipped. -/
def skipStep (point : SkipPoint) (bytes : Octets) :
    Except Fault (Option SkipPoint × Octets) :=
  match point with
  | .value brackets => (skipFront brackets (skipSpace bytes)).map fun (p, rest) => (some p, rest)
  | .opened inner outer =>
    match skipSpace bytes with
    | [] => .error .truncated
    | b :: rest =>
      if b = inner.closing then .ok (some (closeBracket outer), rest)
      else (startItem inner outer (b :: rest)).map fun (p, rest) => (some p, rest)
  | .after [] => .ok (none, bytes)
  | .after (inner :: outer) =>
    match skipSpace bytes with
    | [] => .error .truncated
    | b :: rest =>
      if b = 0x2C then (startItem inner outer rest).map fun (p, rest) => (some p, rest)
      else if b = inner.closing then .ok (some (closeBracket outer), rest)
      else .error .malformed

/-- Skips step by step, in at most so many steps. -/
def skipSteps : Nat → SkipPoint → Octets → Except Fault (Unit × Octets)
  | 0, _, _ => .error .truncated
  | steps + 1, point, bytes => do
    match ← skipStep point bytes with
    | (none, rest) => return ((), rest)
    | (some point, rest) => skipSteps steps point rest

/-- Skips a value. Two steps are enough for each octet. -/
def skipValue (bytes : Octets) : Except Fault (Unit × Octets) :=
  skipSteps (2 * bytes.length + 2) (.value []) bytes

end SymbolRelay.Json
