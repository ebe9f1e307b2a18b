import SymbolRelay.Decimal.Shortest

/-!
# Durations

A duration is a number of nanoseconds. Its text uses the largest unit that leaves a whole part, with
up to nine digits of a fraction and no zeros at its end.

## Definitions

* `Duration.text` — the text of a duration;
* `Duration.scale` — a duration times a factor.
-/

set_option autoImplicit false

namespace SymbolRelay

/-- A span of time in nanoseconds. -/
structure Duration where
  nanos : Nat
  deriving DecidableEq, Repr, Inhabited

namespace Duration

/-- So many seconds. -/
def ofSecs (n : Nat) : Duration := ⟨n * 1000000000⟩

/-- So many milliseconds. -/
def ofMillis (n : Nat) : Duration := ⟨n * 1000000⟩

/-- Whole seconds. -/
def secs (d : Duration) : Nat := d.nanos / 1000000000

/-- Nanoseconds below the second. -/
def subsecNanos (d : Duration) : Nat := d.nanos % 1000000000

/-- Whole milliseconds. -/
def millis (d : Duration) : Nat := d.nanos / 1000000

/-- The longest duration: 2⁶⁴ seconds less a nanosecond. -/
def longest : Duration := ⟨2 ^ 64 * 1000000000 - 1⟩

/-- The shorter of two durations. -/
def min (d e : Duration) : Duration := if e.nanos < d.nanos then e else d

theorem min_nanos_le_right (d e : Duration) : (min d e).nanos ≤ e.nanos := by
  unfold min
  split <;> omega

/-! ## Text -/

/-- A number of units, each of `size` nanoseconds, with as many digits of a fraction as needed. -/
def inUnit (d : Duration) (size places : Nat) (unit : String) : String :=
  let digits := Nat.toDigits 10 (d.nanos % size)
  let fraction := List.replicate (places - digits.length) '0' ++ digits
  String.ofList (Decimal.withFraction (Nat.toDigits 10 (d.nanos / size)) fraction) ++ unit

/-- The text of a duration, in the largest unit that leaves a whole part. -/
def text (d : Duration) : String :=
  if 1000000000 ≤ d.nanos then d.inUnit 1000000000 9 "s"
  else if 1000000 ≤ d.nanos then d.inUnit 1000000 6 "ms"
  else if 1000 ≤ d.nanos then d.inUnit 1000 3 "µs"
  else d.inUnit 1 0 "ns"

/-! ## Multiplication by a fraction -/

/-- The duration in seconds, in single precision: the seconds and the part below them are converted
apart and added. -/
def toSeconds (d : Duration) : Float32 :=
  (UInt64.ofNat d.secs).toFloat32 +
    (UInt32.ofNat d.subsecNanos).toFloat32 / (1000000000 : UInt32).toFloat32

/-- A number of seconds rounded to the nanosecond, if it is neither negative nor too large. -/
def ofSeconds? (x : Float32) : Option Duration :=
  match Decimal.Binary32.ofFloat x with
  | .nan => none
  | .infinite _ => none
  | .finite negative significand exponent =>
    if significand = 0 then some ⟨0⟩
    else if negative then none
    else if significand * 2 ^ exponent.toNat / 2 ^ (-exponent).toNat < 2 ^ 64 then
      some ⟨Decimal.roundScaled (significand * 1000000000) 1 exponent⟩
    else none

/-- A duration times a factor; the longest one when the product is none. -/
def scale (d : Duration) (factor : Float32) : Duration :=
  (ofSeconds? (factor * d.toSeconds)).getD longest

end Duration

end SymbolRelay
