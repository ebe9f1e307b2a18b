import SymbolRelay.Text.Octets

/-!
# JSON strings, numbers and words

Reading goes from left to right over octets and stops at the first problem, which is of one of three
kinds: the text is malformed, it ends too early, or it is well-formed so far but not what is asked
for. A string is read into the text it spells; its octets must be UTF-8, which is noticed at its
closing quote.

## Results

* `skipSpace_of_not_space` — what does not start with white space is left alone.
-/

set_option autoImplicit false

namespace SymbolRelay.Json

open SymbolRelay.Text

/-- What can be wrong with a JSON text. -/
inductive Fault where
  /-- No JSON text starts like this. -/
  | malformed
  /-- The text ends before the value does. -/
  | truncated
  /-- The value is not of the kind asked for. -/
  | mismatched
  deriving DecidableEq, Repr

/-- A reader takes a value off the front of the octets. -/
abbrev Reader (α : Type) := Octets → Except Fault (α × Octets)

/-- Whether an octet is JSON white space. -/
def isSpace (b : UInt8) : Bool := b == 0x20 || b == 0x0A || b == 0x0D || b == 0x09

/-- The octets without white space in front. -/
def skipSpace (bytes : Octets) : Octets := bytes.dropWhile isSpace

theorem skipSpace_of_not_space {b : UInt8} {rest : Octets} (h : isSpace b = false) :
    skipSpace (b :: rest) = b :: rest := by
  simp [skipSpace, h]

/-! ## Words -/

/-- Takes the rest of a word such as `null` off the front. -/
def readWord : Octets → Reader Unit
  | [], bytes => .ok ((), bytes)
  | _ :: _, [] => .error .truncated
  | w :: word, b :: rest => if b = w then readWord word rest else .error .malformed

/-! ## Strings -/

/-- The value of an octet as a hexadecimal digit. -/
def hexOctet? (b : UInt8) : Option Nat := hexValue? (Char.ofNat b.toNat)

/-- Reads four hexadecimal digits. -/
def readHexFour : Reader Nat
  | a :: b :: c :: d :: rest =>
    match hexOctet? a, hexOctet? b, hexOctet? c, hexOctet? d with
    | some a, some b, some c, some d => .ok (((a * 16 + b) * 16 + c) * 16 + d, rest)
    | _, _, _, _ => .error .malformed
  | _ => .error .truncated

/-- Whether a number is the first half of a surrogate pair. -/
def isHighSurrogate (n : Nat) : Bool := 0xD800 ≤ n && n ≤ 0xDBFF

/-- Whether a number is the second half of a surrogate pair. -/
def isLowSurrogate (n : Nat) : Bool := 0xDC00 ≤ n && n ≤ 0xDFFF

/-- Reads the second half of a surrogate pair, whose first half was `high`. -/
def readLowSurrogate (high : Nat) : Reader Char
  | [] => .error .truncated
  | 0x5C :: [] => .error .truncated
  | 0x5C :: 0x75 :: rest => do
    let (low, rest) ← readHexFour rest
    if isLowSurrogate low then
      return (Char.ofNat ((high - 0xD800) * 0x400 + (low - 0xDC00) + 0x10000), rest)
    else throw .malformed
  | _ => .error .malformed

/-- Reads what follows `\u`: a character, or the first half of a pair and then the second. -/
def readUnicode (bytes : Octets) : Except Fault (Char × Octets) := do
  let (n, rest) ← readHexFour bytes
  if isLowSurrogate n then throw .malformed
  else if isHighSurrogate n then readLowSurrogate n rest
  else return (Char.ofNat n, rest)

/-- The octet that a one-letter escape stands for. -/
def shortEscape? (b : UInt8) : Option UInt8 :=
  if b = 0x22 then some 0x22
  else if b = 0x5C then some 0x5C
  else if b = 0x2F then some 0x2F
  else if b = 0x62 then some 0x08
  else if b = 0x66 then some 0x0C
  else if b = 0x6E then some 0x0A
  else if b = 0x72 then some 0x0D
  else if b = 0x74 then some 0x09
  else none

/-- Reads what follows a backslash into the octets that it stands for. -/
def readEscape : Reader Octets
  | [] => .error .truncated
  | b :: rest =>
    if b = 0x75 then (readUnicode rest).map fun (c, rest) => (String.utf8EncodeChar c, rest)
    else match shortEscape? b with
      | some octet => .ok ([octet], rest)
      | none => .error .malformed

/-- Reads the octets of a string up to its closing quote, in at most so many steps. -/
def readRawText : Nat → Octets → Except Fault (Octets × Octets)
  | 0, _ => .error .truncated
  | _ + 1, [] => .error .truncated
  | steps + 1, b :: rest =>
    if b = 0x22 then .ok ([], rest)
    else if b = 0x5C then do
      let (front, rest) ← readEscape rest
      let (back, rest) ← readRawText steps rest
      return (front ++ back, rest)
    else if b < 0x20 then .error .malformed
    else do
      let (back, rest) ← readRawText steps rest
      return (b :: back, rest)

/-- Reads a string whose opening quote was taken. -/
def readQuoted (bytes : Octets) : Except Fault (String × Octets) := do
  let (raw, rest) ← readRawText (bytes.length + 1) bytes
  match text? raw with
  | some s => return (s, rest)
  | none => throw .malformed

/-- Skips what follows a backslash; halves of surrogate pairs may stand alone here. -/
def skipEscape : Reader Unit
  | [] => .error .truncated
  | b :: rest =>
    if b = 0x75 then (readHexFour rest).map fun (_, rest) => ((), rest)
    else match shortEscape? b with
      | some _ => .ok ((), rest)
      | none => .error .malformed

/-- Skips a string whose opening quote was taken, in at most so many steps. Its octets need not be
UTF-8. -/
def skipQuoted : Nat → Octets → Except Fault (Unit × Octets)
  | 0, _ => .error .truncated
  | _ + 1, [] => .error .truncated
  | steps + 1, b :: rest =>
    if b = 0x22 then .ok ((), rest)
    else if b = 0x5C then do
      let ((), rest) ← skipEscape rest
      skipQuoted steps rest
    else if b < 0x20 then .error .malformed
    else skipQuoted steps rest

/-! ## Numbers -/

/-- A number literal: a whole one within 64 bits, or any other. -/
inductive Literal where
  | natural (n : Nat)
  | negative (n : Nat)
  | fraction
  deriving DecidableEq, Repr

/-- Whether an octet is a decimal digit. -/
def isDigit (b : UInt8) : Bool := 0x30 ≤ b && b ≤ 0x39

/-- The value of a decimal digit. -/
def digitValue (b : UInt8) : Nat := b.toNat - 0x30

/-- The leading digits of a literal as a number of 64 bits, and the power of ten that they lack. -/
structure Leading where
  digits : Nat := 0
  power : Int := 0
  full : Bool := false

/-- Adds a digit before the point. Once a digit did not fit, all others only count. -/
def Leading.addWhole (l : Leading) (b : UInt8) : Leading :=
  let n := 10 * l.digits + digitValue b
  if l.full || 2 ^ 64 ≤ n then { l with power := l.power + 1, full := true }
  else { l with digits := n }

/-- Adds a digit after the point. Once a digit did not fit, all others are left out. -/
def Leading.addFraction (l : Leading × Bool) (b : UInt8) : Leading × Bool :=
  let n := 10 * l.1.digits + digitValue b
  if l.2 || 2 ^ 64 ≤ n then (l.1, true)
  else ({ l.1 with digits := n, power := l.1.power - 1 }, false)

/-- Whether the literal is beyond double precision: the leading digits times the power of ten. -/
def Leading.overflows (l : Leading) (exponent : Int) : Bool :=
  let power := l.power + exponent
  l.digits != 0 && 0 ≤ power &&
    (308 < power ||
      ((UInt64.ofNat l.digits).toFloat * Float.ofScientific 1 false power.toNat).isInf)

/-- Ends a literal that is no whole number. -/
def endFraction (l : Leading) (exponent : Int) (rest : Octets) : Except Fault (Literal × Octets) :=
  if l.overflows exponent then .error .malformed else .ok (.fraction, rest)

/-- Whether an octet starts an exponent. -/
def isExponentMark (b : UInt8) : Bool := b == 0x65 || b == 0x45

/-- The number that digits spell. -/
def digitsValue (ds : Octets) : Nat := ds.foldl (fun n b => 10 * n + digitValue b) 0

/-- Reads an exponent whose mark was taken. -/
def readExponent (l : Leading) (bytes : Octets) : Except Fault (Literal × Octets) :=
  let (negative, body) := match bytes with
    | 0x2D :: rest => (true, rest)
    | 0x2B :: rest => (false, rest)
    | _ => (false, bytes)
  match body with
  | [] => .error .truncated
  | b :: _ =>
    if isDigit b then
      let n := Int.ofNat (digitsValue (body.takeWhile isDigit))
      endFraction l (if negative then -n else n) (body.dropWhile isDigit)
    else .error .malformed

/-- Reads what follows the point of a literal. -/
def readFraction (l : Leading) (bytes : Octets) : Except Fault (Literal × Octets) :=
  let digits := bytes.takeWhile isDigit
  let rest := bytes.dropWhile isDigit
  if digits.isEmpty then .error (if rest.isEmpty then .truncated else .malformed)
  else
    let l := (digits.foldl Leading.addFraction (l, false)).1
    match rest with
    | b :: after => if isExponentMark b then readExponent l after else endFraction l 0 rest
    | [] => endFraction l 0 []

/-- Ends a literal without point and exponent. -/
def endWhole (negative : Bool) (l : Leading) (rest : Octets) : Except Fault (Literal × Octets) :=
  if l.full then endFraction l 0 rest
  else if !negative then .ok (.natural l.digits, rest)
  else if l.digits = 0 ∨ 2 ^ 63 < l.digits then .ok (.fraction, rest)
  else .ok (.negative l.digits, rest)

/-- Reads what follows the digits before the point. -/
def readAfterWhole (negative : Bool) (l : Leading) (bytes : Octets) :
    Except Fault (Literal × Octets) :=
  match bytes with
  | [] => endWhole negative l []
  | b :: rest =>
    if b = 0x2E then readFraction l rest
    else if isExponentMark b then readExponent l rest
    else endWhole negative l bytes

/-- Reads a number whose sign was taken. A zero in front of another digit is refused. -/
def readDigits (negative : Bool) (bytes : Octets) : Except Fault (Literal × Octets) :=
  match bytes with
  | [] => .error .truncated
  | b :: rest =>
    if b = 0x30 then
      match rest with
      | c :: _ => if isDigit c then .error .malformed else readAfterWhole negative {} rest
      | [] => readAfterWhole negative {} []
    else if isDigit b then
      readAfterWhole negative ((bytes.takeWhile isDigit).foldl Leading.addWhole {})
        (bytes.dropWhile isDigit)
    else .error .malformed

/-- Reads a number; `none` if there is none at the front. -/
def readNumber? : Octets → Option (Except Fault (Literal × Octets))
  | 0x2D :: rest => some (readDigits true rest)
  | b :: rest => if isDigit b then some (readDigits false (b :: rest)) else none
  | [] => none

/-! ## Skipping numbers -/

/-- Skips the digits of an exponent or a fraction, of which there must be one. -/
def skipSomeDigits (bytes : Octets) : Except Fault (Unit × Octets) :=
  match bytes with
  | b :: _ => if isDigit b then .ok ((), bytes.dropWhile isDigit) else .error .malformed
  | [] => .error .malformed

/-- Skips an exponent whose mark was taken. -/
def skipExponent (bytes : Octets) : Except Fault (Unit × Octets) :=
  match bytes with
  | 0x2D :: rest => skipSomeDigits rest
  | 0x2B :: rest => skipSomeDigits rest
  | _ => skipSomeDigits bytes

/-- Skips an exponent, if one follows. -/
def skipOptionalExponent (bytes : Octets) : Except Fault (Unit × Octets) :=
  match bytes with
  | b :: rest => if isExponentMark b then skipExponent rest else .ok ((), bytes)
  | [] => .ok ((), [])

/-- Skips what follows the digits before the point. -/
def skipAfterWhole (bytes : Octets) : Except Fault (Unit × Octets) :=
  match bytes with
  | 0x2E :: rest => do
    let ((), rest) ← skipSomeDigits rest
    skipOptionalExponent rest
  | _ => skipOptionalExponent bytes

/-- Skips a number whose sign was taken. Its size does not matter, and it may not end early. -/
def skipNumber (bytes : Octets) : Except Fault (Unit × Octets) :=
  match bytes with
  | [] => .error .malformed
  | b :: rest =>
    if b = 0x30 then
      match rest with
      | c :: _ => if isDigit c then .error .malformed else skipAfterWhole rest
      | [] => .ok ((), [])
    else if isDigit b then skipAfterWhole (bytes.dropWhile isDigit)
    else .error .malformed

end SymbolRelay.Json
