import SymbolRelay.Decimal.Binary32

/-!
# Reading numbers

Unsigned whole numbers within a bound, and decimal fractions as 32-bit numbers. A sign may stand in
front of both. A fraction needs a digit before or after its point, may have an exponent, and may be
`inf`, `infinity` or `nan` in any case; it is rounded once, to the nearest number.

## Results

* `readUnsigned?_bound` — a number that is read is within its bound.
-/

set_option autoImplicit false

namespace SymbolRelay.Decimal

/-- The number that decimal digits spell. -/
def ofDigits (ds : List Char) : Nat := ds.foldl (fun n c => 10 * n + (c.toNat - '0'.toNat)) 0

/-- The digits at the start of a text and what follows them. -/
def spanDigits (cs : List Char) : List Char × List Char :=
  (cs.takeWhile Char.isDigit, cs.dropWhile Char.isDigit)

/-- A text without the plus sign that it may start with. -/
def dropPlus : List Char → List Char
  | '+' :: rest => rest
  | cs => cs

/-- Reads an optional plus sign and at least one digit, up to a bound. -/
def readUnsigned? (bound : Nat) (s : String) : Option Nat :=
  let body := dropPlus s.toList
  if body.isEmpty || !body.all Char.isDigit then none
  else if ofDigits body ≤ bound then some (ofDigits body) else none

theorem readUnsigned?_bound {bound n : Nat} {s : String} (h : readUnsigned? bound s = some n) :
    n ≤ bound := by
  simp only [readUnsigned?] at h
  split at h
  · cases h
  · split at h
    · cases h; assumption
    · cases h

/-- A sign in front of a text, and the rest. -/
def splitSign : List Char → Bool × List Char
  | '-' :: rest => (true, rest)
  | '+' :: rest => (false, rest)
  | cs => (false, cs)

/-- Reads the exponent of a fraction: nothing, or an `e` with a whole number. -/
def readExponent? : List Char → Option Int
  | [] => some 0
  | c :: rest =>
    if c = 'e' ∨ c = 'E' then
      let (negative, ds) := splitSign rest
      if ds.isEmpty || !ds.all Char.isDigit then none
      else some (if negative then - Int.ofNat (ofDigits ds) else Int.ofNat (ofDigits ds))
    else none

/-- Reads the digits of a fraction: their number and the power of ten of the last. -/
def readFraction? (cs : List Char) : Option (Nat × Int) :=
  let (whole, rest) := spanDigits cs
  let (fraction, rest) := match rest with
    | '.' :: after => spanDigits after
    | _ => ([], rest)
  if whole.isEmpty && fraction.isEmpty then none
  else (readExponent? rest).map fun e =>
    (ofDigits (whole ++ fraction), e - Int.ofNat fraction.length)

/-- The 32-bit number nearest to `digits · 10 ^ power`. Powers so great or small that the result is
infinite or zero are not computed. -/
def nearest (negative : Bool) (digits : Nat) (power : Int) : Float32 :=
  let top := Int.ofNat (Nat.toDigits 10 digits).length + power
  if digits = 0 ∨ top < -60 then ofRatio negative 0 1
  else if 60 < top then ofRatio negative (10 ^ 60) 1
  else ofRatio negative (digits * 10 ^ power.toNat) (10 ^ (-power).toNat)

/-- Reads the names of the numbers that are no fractions. -/
def readSpecial? (negative : Bool) (cs : List Char) : Option Float32 :=
  let name := String.ofList (cs.map Char.toLower)
  if name = "inf" ∨ name = "infinity" then some (ofRatio negative (10 ^ 60) 1)
  else if name = "nan" then some (Float32.ofBits 0x7fc00000)
  else none

/-- Reads a 32-bit number. -/
def readFloat? (s : String) : Option Float32 :=
  let (negative, body) := splitSign s.toList
  match readFraction? body with
  | some (digits, power) => some (nearest negative digits power)
  | none => readSpecial? negative body

end SymbolRelay.Decimal
