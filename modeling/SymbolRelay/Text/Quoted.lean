import SymbolRelay.Text.Hidden

/-!
# Quoted text

A text in double quotes, as the error texts show a name or a filter. The quote, the backslash, NUL,
tab, carriage return and line feed have short escapes; any other character that does not show by
itself is written `\u\x7b…\x7d` with its number in hexadecimal; the rest stands as it is.

## Results

* `quoteChar_of_shown` — a character that shows is written as itself.
-/

set_option autoImplicit false

namespace SymbolRelay.Text

/-- The hexadecimal digits of a number, in lower case and without leading zeros. -/
def hexDigits (n : Nat) : List Char := Nat.toDigits 16 n

/-- The characters that stand for one character inside the quotes. -/
def quoteChar (c : Char) : List Char :=
  if c = '"' then ['\\', '"']
  else if c = '\\' then ['\\', '\\']
  else if c = '\x00' then ['\\', '0']
  else if c = '\t' then ['\\', 't']
  else if c = '\r' then ['\\', 'r']
  else if c = '\n' then ['\\', 'n']
  else if isHidden c then '\\' :: 'u' :: '\x7b' :: hexDigits c.toNat ++ ['\x7d']
  else [c]

/-- The characters that stand for a text inside the quotes. -/
def quoteChars (cs : List Char) : List Char := cs.flatMap quoteChar

/-- A text in double quotes. -/
def quoted (s : String) : String := String.ofList ('"' :: quoteChars s.toList ++ ['"'])

/-- A character that shows by itself, other than the quote and the backslash, is written as it is. -/
theorem quoteChar_of_shown {c : Char} (hidden : isHidden c = false) (quote : c ≠ '"')
    (slash : c ≠ '\\') : quoteChar c = [c] := by
  have h0 : c ≠ '\x00' := by rintro rfl; revert hidden; decide
  have ht : c ≠ '\t' := by rintro rfl; revert hidden; decide
  have hr : c ≠ '\r' := by rintro rfl; revert hidden; decide
  have hn : c ≠ '\n' := by rintro rfl; revert hidden; decide
  simp [quoteChar, quote, slash, h0, ht, hr, hn, hidden]

end SymbolRelay.Text
