import SymbolRelay.Decimal.Binary32

/-!
# Shortest decimal text of a number

The text of a 32-bit number: the fewest digits that read back as the number, of those the nearest to
it, always without an exponent.

## Definitions

* `shortest` — the fewest digits, and the power of ten that goes with them;
* `Binary32.text`, `floatText` — the text of a number.
-/

set_option autoImplicit false

namespace SymbolRelay.Decimal

/-- The numbers that round to one number: those between two bounds, which belong to them or not. All
three are multiples of `unit = unitNum / unitDen`. -/
structure Neighbourhood where
  low : Nat
  mid : Nat
  high : Nat
  closed : Bool
  unitNum : Nat
  unitDen : Nat

/-- What rounds to `significand · 2 ^ exponent`. Below a full significand with room to shrink, the
neighbour is only half as far away. -/
def Neighbourhood.of (significand : Nat) (exponent : Int) : Neighbourhood where
  low := if significand = fullSignificand ∧ leastExponent < exponent then 4 * significand - 1
    else 4 * significand - 2
  mid := 4 * significand
  high := 4 * significand + 2
  closed := significand % 2 == 0
  unitNum := 2 ^ (exponent - 2).toNat
  unitDen := 2 ^ (2 - exponent).toNat

/-- Whether `digits · 10 ^ power` lies in a neighbourhood. -/
def Neighbourhood.holds (n : Neighbourhood) (digits : Nat) (power : Int) : Bool :=
  let x := digits * 10 ^ power.toNat * n.unitDen
  let low := n.low * n.unitNum * 10 ^ (-power).toNat
  let high := n.high * n.unitNum * 10 ^ (-power).toNat
  if n.closed then low ≤ x && x ≤ high else low < x && x < high

/-- The digits on the grid of a power of ten that lie in the neighbourhood, nearest first. -/
def Neighbourhood.onGrid (n : Neighbourhood) (power : Int) : Option Nat :=
  let num := n.mid * n.unitNum * 10 ^ (-power).toNat
  let den := n.unitDen * 10 ^ power.toNat
  let below := num / den
  let nearest := roundQuotient num den
  let other := if nearest = below then below + 1 else below
  if n.holds nearest power then some nearest
  else if n.holds other power then some other
  else none

/-- Tries grids with more and more digits. -/
def Neighbourhood.search (n : Neighbourhood) (top : Int) : Nat → Nat → Nat × Int
  | 0, count => (n.mid * n.unitNum / n.unitDen, top - Int.ofNat count)
  | tries + 1, count =>
    let power := top - Int.ofNat count
    match n.onGrid power with
    | some digits => (digits, power)
    | none => n.search top tries (count + 1)

/-- The fewest digits, and the power of ten of the last, that read back as the number. -/
def shortest (significand : Nat) (exponent : Int) : Nat × Int :=
  let n := Neighbourhood.of significand exponent
  n.search (floorLogTen (n.mid * n.unitNum) n.unitDen) 12 0

/-- A fraction's digits without the zeros at their end. -/
def trimZeros (cs : List Char) : List Char := (cs.reverse.dropWhile (· == '0')).reverse

/-- A whole part and the digits of a fraction, which may be none. -/
def withFraction (whole fraction : List Char) : List Char :=
  match trimZeros fraction with
  | [] => whole
  | ds => whole ++ '.' :: ds

/-- `digits · 10 ^ power` in positional notation. -/
def positional (digits : Nat) (power : Int) : List Char :=
  let ds := Nat.toDigits 10 digits
  let places := (-power).toNat
  if places = 0 then ds ++ List.replicate power.toNat '0'
  else if places < ds.length then
    withFraction (ds.take (ds.length - places)) (ds.drop (ds.length - places))
  else withFraction ['0'] (List.replicate (places - ds.length) '0' ++ ds)

/-- The text of a number: the fewest digits that read back, without an exponent; `inf` and `NaN`
for the numbers that are none. -/
def Binary32.text : Binary32 → String
  | .nan => "NaN"
  | .infinite negative => if negative then "-inf" else "inf"
  | .finite negative significand exponent =>
    let magnitude :=
      if significand = 0 then ['0']
      else
        let (digits, power) := shortest significand exponent
        positional digits power
    String.ofList (if negative then '-' :: magnitude else magnitude)

/-- The text of a 32-bit number. -/
def floatText (x : Float32) : String := (Binary32.ofFloat x).text

end SymbolRelay.Decimal
