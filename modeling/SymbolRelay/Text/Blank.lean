/-!
# Blank text

The white space of Unicode (property `White_Space`): 25 characters. A text is blank when it holds
nothing else.

## Results

* `isWhite_of_isWhitespace` — the ASCII white space of the core library is white here as well.
-/

set_option autoImplicit false

namespace SymbolRelay.Text

/-- Whether a character has the Unicode property `White_Space`. -/
def isWhite (c : Char) : Bool :=
  let n := c.toNat
  (0x9 ≤ n && n ≤ 0xD) || n == 0x20 || n == 0x85 || n == 0xA0 || n == 0x1680 ||
    (0x2000 ≤ n && n ≤ 0x200A) || n == 0x2028 || n == 0x2029 || n == 0x202F || n == 0x205F ||
    n == 0x3000

/-- Whether a text is empty but for white space. -/
def isBlank (s : String) : Bool := s.toList.all isWhite

theorem isBlank_empty : isBlank "" = true := rfl

theorem isWhite_of_isWhitespace {c : Char} (h : c.isWhitespace = true) : isWhite c = true := by
  simp only [Char.isWhitespace, Bool.or_eq_true, decide_eq_true_eq] at h
  rcases h with ((rfl | rfl) | rfl) | rfl <;> decide

end SymbolRelay.Text
