/-!
# Texts as octets

The octets of a text in UTF-8, the text of a list of octets when they are well-formed UTF-8, and
octets written as pairs of hexadecimal digits.

## Results

* `text?_octets` — the octets of a text read back as that text.
-/

set_option autoImplicit false

namespace SymbolRelay.Text

/-- A sequence of octets. -/
abbrev Octets := List UInt8

/-- The octets of a text in UTF-8. -/
def octets (s : String) : Octets := s.toUTF8.data.toList

/-- The text that a list of octets spells in UTF-8, if it spells one. -/
def text? (bytes : Octets) : Option String := String.fromUTF8? ⟨bytes.toArray⟩

theorem text?_octets (s : String) : text? (octets s) = some s := by
  have h : (⟨s.toUTF8.data.toList.toArray⟩ : ByteArray) = s.toUTF8 := by simp
  unfold text? octets
  rw [h]
  simp only [String.fromUTF8?, String.toUTF8_eq_toByteArray, dif_pos s.isValidUTF8]
  rfl

/-- The lower-case hexadecimal digit of a number below sixteen. -/
def hexDigit (n : Nat) : Char := Nat.digitChar (n % 16)

/-- Each octet as two hexadecimal digits. -/
def hex (bytes : Octets) : String :=
  String.ofList (bytes.flatMap fun b => [hexDigit (b.toNat / 16), hexDigit b.toNat])

/-- The value of a hexadecimal digit. -/
def hexValue? (c : Char) : Option Nat :=
  if '0' ≤ c ∧ c ≤ '9' then some (c.toNat - '0'.toNat)
  else if 'a' ≤ c ∧ c ≤ 'f' then some (c.toNat - 'a'.toNat + 10)
  else if 'A' ≤ c ∧ c ≤ 'F' then some (c.toNat - 'A'.toNat + 10)
  else none

/-- The octets written as pairs of hexadecimal digits. -/
def unhex? : List Char → Option Octets
  | [] => some []
  | [_] => none
  | a :: b :: rest => do
    let hi ← hexValue? a
    let lo ← hexValue? b
    let bytes ← unhex? rest
    return UInt8.ofNat (16 * hi + lo) :: bytes

end SymbolRelay.Text
