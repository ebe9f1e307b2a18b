import SymbolRelay.Json.Skip
import SymbolRelay.Table
import SymbolRelay.Time

/-!
# JSON records

The format that serde_json reads and writes for records whose members are declared. A record is a JSON
object with known members, each of a known shape. It may also be written as a list of its members in
order. Members of an object come in any order; unknown ones are skipped, a repeated or a missing one is
a mismatch. A record is written as an object with its members in order, without spaces; of the
characters only the quote, the backslash and the control characters are escaped.

## Results

* `Slots.close_filled` — a record whose members were all read is complete.
-/

set_option autoImplicit false

namespace SymbolRelay.Json

open SymbolRelay.Text

/-- What a member of a record holds. -/
inductive Shape where
  | integer
  | time
  | text
  | octets
  | texts
  deriving DecidableEq, Repr

/-- The values of a shape. -/
abbrev Shape.Carrier : Shape → Type
  | .integer => Int64
  | .time => Time
  | .text => String
  | .octets => Octets
  | .texts => Table String String

/-- A member of a record: its name, its shape, and whether it may be left out when the shape has an
empty value. -/
structure Member where
  name : String
  shape : Shape
  optional : Bool := false
  deriving DecidableEq, Repr

/-- The value of a member that was left out. -/
def Member.absent? (m : Member) : Option m.shape.Carrier :=
  if m.optional then
    match m.shape with
    | .octets => some []
    | .texts => some Table.empty
    | _ => none
  else none

/-- The values of a record's members, in order. -/
abbrev Fields : List Member → Type
  | [] => Unit
  | m :: ms => m.shape.Carrier × Fields ms

/-! ## Values -/

/-- The fault of meeting another value than the one asked for. A string, number or word is read to
its end first, and its own faults go before. -/
def wrongValue (bytes : Octets) : Fault :=
  let after := fun {α : Type} (r : Except Fault (α × Octets)) =>
    match r with
    | .ok _ => Fault.mismatched
    | .error fault => fault
  match readNumber? bytes with
  | some r => after r
  | none =>
    match bytes with
    | [] => .truncated
    | b :: rest =>
      if b = 0x6E then after (readWord [0x75, 0x6C, 0x6C] rest)
      else if b = 0x74 then after (readWord [0x72, 0x75, 0x65] rest)
      else if b = 0x66 then after (readWord [0x61, 0x6C, 0x73, 0x65] rest)
      else if b = 0x22 then after (readQuoted rest)
      else if b = 0x5B ∨ b = 0x7B then .mismatched
      else .malformed

/-- Reads a whole number. -/
def readInteger (bytes : Octets) : Except Fault (Int × Octets) :=
  let bytes := skipSpace bytes
  match readNumber? bytes with
  | some r => do
    match ← r with
    | (.natural n, rest) => return (Int.ofNat n, rest)
    | (.negative n, rest) => return (- Int.ofNat n, rest)
    | (.fraction, _) => throw .mismatched
  | none => .error (wrongValue bytes)

/-- Reads a whole number of 64 bits with a sign. -/
def readInt64 (bytes : Octets) : Except Fault (Int64 × Octets) := do
  let (n, rest) ← readInteger bytes
  if Int64.minValue.toInt ≤ n ∧ n ≤ Int64.maxValue.toInt then return (Int64.ofInt n, rest)
  else throw .mismatched

/-- Reads a whole number of eight bits. -/
def readOctet (bytes : Octets) : Except Fault (UInt8 × Octets) := do
  let (n, rest) ← readInteger bytes
  if 0 ≤ n ∧ n < 256 then return (UInt8.ofNat n.toNat, rest) else throw .mismatched

/-- Reads a time, in milliseconds. -/
def readTime (bytes : Octets) : Except Fault (Time × Octets) := do
  let (n, rest) ← readInteger bytes
  match Time.ofMillis? n with
  | some t => return (t, rest)
  | none => throw .mismatched

/-- Reads a string. -/
def readString (bytes : Octets) : Except Fault (String × Octets) :=
  match skipSpace bytes with
  | [] => .error .truncated
  | b :: rest => if b = 0x22 then readQuoted rest else .error (wrongValue (b :: rest))

/-- Whether another item of a list follows; if so, the comma before it is taken. -/
def moreItems (first : Bool) (bytes : Octets) : Except Fault (Bool × Octets) :=
  match skipSpace bytes with
  | [] => .error .truncated
  | b :: rest =>
    if b = 0x5D then .ok (false, b :: rest)
    else if first then .ok (true, b :: rest)
    else if b = 0x2C then
      match skipSpace rest with
      | [] => .error .truncated
      | c :: rest => if c = 0x5D then .error .malformed else .ok (true, c :: rest)
    else .error .malformed

/-- Whether another member of an object follows; if so, the comma before it and the quote that opens
its name are taken. -/
def moreMembers (first : Bool) (bytes : Octets) : Except Fault (Bool × Octets) :=
  match skipSpace bytes with
  | [] => .error .truncated
  | b :: rest =>
    if b = 0x7D then .ok (false, b :: rest)
    else if first then
      if b = 0x22 then .ok (true, rest) else .error .malformed
    else if b = 0x2C then
      match skipSpace rest with
      | [] => .error .truncated
      | c :: rest => if c = 0x22 then .ok (true, rest) else .error .malformed
    else .error .malformed

/-- Takes the colon between a name and its value. -/
def readColon (bytes : Octets) : Except Fault (Unit × Octets) :=
  match skipSpace bytes with
  | [] => .error .truncated
  | b :: rest => if b = 0x3A then .ok ((), rest) else .error .malformed

/-- Takes the bracket that closes a list or an object. -/
def readClosing (bracket : Bracket) (bytes : Octets) : Except Fault (Unit × Octets) :=
  match skipSpace bytes with
  | [] => .error .truncated
  | b :: rest => if b = bracket.closing then .ok ((), rest) else .error .malformed

/-- Reads the octets of a list whose bracket was opened, in at most so many steps. -/
def readOctetItems : Nat → Bool → Octets → Except Fault (Octets × Octets)
  | 0, _, _ => .error .truncated
  | steps + 1, first, bytes => do
    match ← moreItems first bytes with
    | (false, rest) => return ([], rest)
    | (true, rest) =>
      let (b, rest) ← readOctet rest
      let (bs, rest) ← readOctetItems steps false rest
      return (b :: bs, rest)

/-- Reads a list of octets. -/
def readOctets (bytes : Octets) : Except Fault (Octets × Octets) :=
  match skipSpace bytes with
  | [] => .error .truncated
  | b :: rest =>
    if b = 0x5B then do
      let (bs, rest) ← readOctetItems (rest.length + 1) true rest
      let ((), rest) ← readClosing .list rest
      return (bs, rest)
    else .error (wrongValue (b :: rest))

/-- Reads the members of an object of strings whose bracket was opened, in at most so many steps. Of
two members with one name the later counts. -/
def readTextItems : Nat → Bool → Table String String → Octets →
    Except Fault (Table String String × Octets)
  | 0, _, _, _ => .error .truncated
  | steps + 1, first, table, bytes => do
    match ← moreMembers first bytes with
    | (false, rest) => return (table, rest)
    | (true, rest) =>
      let (name, rest) ← readQuoted rest
      let ((), rest) ← readColon rest
      let (value, rest) ← readString rest
      readTextItems steps false (table.insert name value) rest

/-- Reads an object of strings. -/
def readTexts (bytes : Octets) : Except Fault (Table String String × Octets) :=
  match skipSpace bytes with
  | [] => .error .truncated
  | b :: rest =>
    if b = 0x7B then do
      let (table, rest) ← readTextItems (rest.length + 1) true Table.empty rest
      let ((), rest) ← readClosing .object rest
      return (table, rest)
    else .error (wrongValue (b :: rest))

/-- Reads a value of a shape. -/
def Shape.read : (s : Shape) → Octets → Except Fault (s.Carrier × Octets)
  | .integer => readInt64
  | .time => readTime
  | .text => readString
  | .octets => readOctets
  | .texts => readTexts

/-! ## Records -/

/-- The members of a record as far as they were read. -/
abbrev Slots : List Member → Type
  | [] => Unit
  | m :: ms => Option m.shape.Carrier × Slots ms

/-- A record of which nothing was read. -/
def Slots.none : (ms : List Member) → Slots ms
  | [] => ()
  | _ :: ms => (Option.none, Slots.none ms)

/-- A record of which everything was read. -/
def Slots.filled : (ms : List Member) → Fields ms → Slots ms
  | [], () => ()
  | _ :: ms, (v, vs) => (some v, Slots.filled ms vs)

/-- Completes a record; a member that may be left out gets its empty value. -/
def Slots.close : (ms : List Member) → Slots ms → Option (Fields ms)
  | [], () => some ()
  | m :: ms, (v, vs) => do
    let v ← v.or m.absent?
    let vs ← Slots.close ms vs
    return (v, vs)

theorem Slots.close_filled : ∀ (ms : List Member) (vs : Fields ms),
    Slots.close ms (Slots.filled ms vs) = some vs
  | [], () => rfl
  | _ :: ms, (v, vs) => by simp [Slots.close, Slots.filled, Slots.close_filled ms vs]

/-- Reads the member with a name, whose colon comes next. A member that was read before is a
mismatch, noticed before the colon; one that is not asked for is skipped. -/
def Slots.readMember (name : String) : (ms : List Member) → Slots ms → Octets →
    Except Fault (Slots ms × Octets)
  | [], (), bytes => do
    let ((), rest) ← readColon bytes
    let ((), rest) ← skipValue rest
    return ((), rest)
  | m :: ms, (v, vs), bytes =>
    if m.name = name then
      match v with
      | some _ => .error .mismatched
      | Option.none => do
        let ((), rest) ← readColon bytes
        let (value, rest) ← m.shape.read rest
        return ((some value, vs), rest)
    else (Slots.readMember name ms vs bytes).map fun (vs, rest) => ((v, vs), rest)

/-- Reads the members of an object whose bracket was opened, in at most so many steps. -/
def readMembers (ms : List Member) : Nat → Bool → Slots ms → Octets →
    Except Fault (Slots ms × Octets)
  | 0, _, _, _ => .error .truncated
  | steps + 1, first, slots, bytes => do
    match ← moreMembers first bytes with
    | (false, rest) => return (slots, rest)
    | (true, rest) =>
      let (name, rest) ← readQuoted rest
      let (slots, rest) ← slots.readMember name ms rest
      readMembers ms steps false slots rest

/-- Reads the members of a list whose bracket was opened, in order. -/
def readItems : (ms : List Member) → Bool → Octets → Except Fault (Slots ms × Octets)
  | [], _, bytes => .ok ((), bytes)
  | m :: ms, first, bytes => do
    match ← moreItems first bytes with
    | (false, rest) =>
      if m.absent?.isSome then
        let (vs, rest) ← readItems ms first rest
        return ((Option.none, vs), rest)
      else throw .mismatched
    | (true, rest) =>
      let (v, rest) ← m.shape.read rest
      let (vs, rest) ← readItems ms false rest
      return ((some v, vs), rest)

/-- Completes a record, or finds a member missing. -/
def complete (ms : List Member) (slots : Slots ms) : Except Fault (Fields ms) :=
  match Slots.close ms slots with
  | some fields => .ok fields
  | Option.none => .error .mismatched

/-- Reads a record. -/
def readRecord (ms : List Member) (bytes : Octets) : Except Fault (Fields ms × Octets) :=
  match skipSpace bytes with
  | [] => .error .truncated
  | b :: rest =>
    if b = 0x7B then do
      let (slots, rest) ← readMembers ms (rest.length + 1) true (Slots.none ms) rest
      let fields ← complete ms slots
      let ((), rest) ← readClosing .object rest
      return (fields, rest)
    else if b = 0x5B then do
      let (slots, rest) ← readItems ms true rest
      let fields ← complete ms slots
      let ((), rest) ← readClosing .list rest
      return (fields, rest)
    else .error (wrongValue (b :: rest))

/-- Reads a record that is the whole text, white space apart. -/
def parseRecord (ms : List Member) (bytes : Octets) : Except Fault (Fields ms) := do
  let (fields, rest) ← readRecord ms bytes
  if (skipSpace rest).isEmpty then return fields else throw .malformed

/-! ## Writing -/

/-- The characters that stand for one character of a string. -/
def escapeChar (c : Char) : List Char :=
  if c = '"' then ['\\', '"']
  else if c = '\\' then ['\\', '\\']
  else if c = '\x08' then ['\\', 'b']
  else if c = '\x0c' then ['\\', 'f']
  else if c = '\n' then ['\\', 'n']
  else if c = '\r' then ['\\', 'r']
  else if c = '\t' then ['\\', 't']
  else if c.toNat < 0x20 then
    ['\\', 'u', '0', '0', hexDigit (c.toNat / 16), hexDigit c.toNat]
  else [c]

/-- A string in quotes. -/
def writeString (s : String) : List Char := '"' :: s.toList.flatMap escapeChar ++ ['"']

/-- A whole number. -/
def writeInteger (n : Int) : List Char :=
  if n < 0 then '-' :: Nat.toDigits 10 n.natAbs else Nat.toDigits 10 n.natAbs

/-- Items with commas between them. -/
def withCommas : List (List Char) → List Char
  | [] => []
  | [item] => item
  | item :: items => item ++ ',' :: withCommas items

/-- A name and a value as a member of an object. -/
def writeMember (name : String) (value : List Char) : List Char := writeString name ++ ':' :: value

/-- Writes a value of a shape. -/
def Shape.write : (s : Shape) → s.Carrier → List Char
  | .integer, n => writeInteger n.toInt
  | .time, t => writeInteger t.millis
  | .text, s => writeString s
  | .octets, bs => '[' :: withCommas (bs.map fun b => Nat.toDigits 10 b.toNat) ++ [']']
  | .texts, t =>
    '\x7b' :: withCommas (t.entries.map fun e => writeMember e.1 (writeString e.2)) ++ ['\x7d']

/-- The members of a record, each with its name. -/
def writeFields : (ms : List Member) → Fields ms → List (List Char)
  | [], () => []
  | m :: ms, (v, vs) => writeMember m.name (m.shape.write v) :: writeFields ms vs

/-- Writes a record as an object with its members in order. -/
def writeRecord (ms : List Member) (fields : Fields ms) : String :=
  String.ofList ('\x7b' :: withCommas (writeFields ms fields) ++ ['\x7d'])

end SymbolRelay.Json
