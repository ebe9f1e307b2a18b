import SymbolRelay.Text.CaseTable
import SymbolRelay.Text.Hidden

/-!
# Lower case

Lower-casing of a whole text after the Unicode standard. Every character is mapped by itself, with
two exceptions: the dotted capital I becomes two characters, and a capital sigma at the end of a word
becomes the final form.

## Results

* `lowercase_append_of_no_sigma` — without a capital sigma a text is lower-cased piece by piece.
-/

set_option autoImplicit false

namespace SymbolRelay.Text

/-- The character moved by a number of code points. -/
def shiftChar (c : Char) (delta : Int) : Char := Char.ofNat (Int.toNat (Int.ofNat c.toNat + delta))

/-- Whether a number is one of the letters of a run. -/
def CaseRun.covers (n : Nat) : CaseRun → Bool
  | (first, last, step, _) => first ≤ n && n ≤ last && (n - first) % step == 0

/-- The lower case of one character on its own. -/
def lowerChar (c : Char) : List Char :=
  if c.toNat < 0x80 then [c.toLower]
  else if c = 'İ' then ['i', '\u0307']
  else
    match caseRuns.find? (CaseRun.covers c.toNat) with
    | some (_, _, _, delta) => [shiftChar c delta]
    | none => [c]

/-- Whether a character has a case. -/
def isCased (c : Char) : Bool := inRanges c.toNat casedRanges

/-- Whether a character is passed over in the search for a cased neighbour. -/
def isCaseIgnorable (c : Char) : Bool := inRanges c.toNat caseIgnorableRanges

/-- Whether the first character that is not passed over has a case. -/
def nextIsCased (cs : List Char) : Bool :=
  match cs.dropWhile isCaseIgnorable with
  | c :: _ => isCased c
  | [] => false

/-- The lower case of a character between the characters before it, nearest first, and after it. -/
def lowerAt (before : List Char) (c : Char) (after : List Char) : List Char :=
  if c = 'Σ' then
    if nextIsCased before && !nextIsCased after then ['ς'] else ['σ']
  else lowerChar c

/-- The lower case of the rest of a text, given what came before it, nearest first. -/
def lowerFrom : List Char → List Char → List Char
  | _, [] => []
  | before, c :: after => lowerAt before c after ++ lowerFrom (c :: before) after

/-- The lower case of a text. -/
def lowercase (s : String) : String := String.ofList (lowerFrom [] s.toList)

theorem lowerFrom_of_no_sigma {cs : List Char} (h : 'Σ' ∉ cs) (before : List Char) :
    lowerFrom before cs = cs.flatMap lowerChar := by
  induction cs generalizing before with
  | nil => rfl
  | cons c rest ih =>
    have hc : c ≠ 'Σ' := fun he => h (by simp [he])
    have hr : 'Σ' ∉ rest := fun he => h (List.mem_cons_of_mem _ he)
    simp [lowerFrom, lowerAt, hc, ih hr]

theorem lowercase_append_of_no_sigma {s t : String} (hs : 'Σ' ∉ s.toList) (ht : 'Σ' ∉ t.toList) :
    lowercase (s ++ t) = lowercase s ++ lowercase t := by
  have h : 'Σ' ∉ s.toList ++ t.toList := by simp [hs, ht]
  simp [lowercase, String.toList_append, lowerFrom_of_no_sigma h, lowerFrom_of_no_sigma hs,
    lowerFrom_of_no_sigma ht]

end SymbolRelay.Text
