import SymbolRelay.Decimal.Rounding

/-!
# Numbers of 32 bits in binary floating point

The value of a finite number as `significand · 2 ^ exponent`, and the nearest number to a quotient
of natural numbers.

## Definitions

* `Binary32.ofFloat` — a number taken apart;
* `ofRatio` — the number nearest to a quotient.
-/

set_option autoImplicit false

namespace SymbolRelay.Decimal

/-- What a number of 32 bits stands for. -/
inductive Binary32 where
  | nan
  | infinite (negative : Bool)
  | finite (negative : Bool) (significand : Nat) (exponent : Int)
  deriving DecidableEq, Repr

/-- The least exponent of a finite number. -/
def leastExponent : Int := -149

/-- The greatest exponent of a finite number. -/
def greatestExponent : Int := 104

/-- The significand from which on a number has its full precision. -/
def fullSignificand : Nat := 2 ^ 23

/-- Reads the parts of a number from its bits. -/
def Binary32.ofFloat (x : Float32) : Binary32 :=
  let bits := x.toBits.toNat
  let negative := bits / 2 ^ 31 == 1
  let field := bits / 2 ^ 23 % 2 ^ 8
  let fraction := bits % 2 ^ 23
  if field = 255 then (if fraction = 0 then .infinite negative else .nan)
  else if field = 0 then .finite negative fraction leastExponent
  else .finite negative (fullSignificand + fraction) (leastExponent + Int.ofNat (field - 1))

/-- The bits, sign apart, of the number nearest to a quotient, a tie going to the even significand.
A quotient beyond the greatest finite number gives infinity. -/
def bitsOfRatio (num den : Nat) : Nat :=
  if num = 0 then 0
  else
    let exponent := max (floorLogTwo num den - 23) leastExponent
    let significand := roundScaled num den (-exponent)
    let carried := significand = 2 * fullSignificand
    let significand := if carried then fullSignificand else significand
    let exponent := if carried then exponent + 1 else exponent
    if greatestExponent < exponent then 255 * fullSignificand
    else if significand < fullSignificand then significand
    else (exponent - leastExponent + 1).toNat * fullSignificand + (significand - fullSignificand)

/-- The number with this sign nearest to a quotient of natural numbers. -/
def ofRatio (negative : Bool) (num den : Nat) : Float32 :=
  Float32.ofBits (UInt32.ofNat ((if negative then 2 ^ 31 else 0) + bitsOfRatio num den))

end SymbolRelay.Decimal
