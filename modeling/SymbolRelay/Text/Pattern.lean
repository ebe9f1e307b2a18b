import SymbolRelay.Text.Octets

/-!
# The form of regular expressions

Whether a text is a regular expression at all: groups and character classes are closed, and what is to
be repeated is there. What the expression matches is not looked at.

## Definitions

* `isPattern` — whether a text is a regular expression.
-/

set_option autoImplicit false

namespace SymbolRelay.Text

/-- How far a regular expression was read: how many groups and classes are open, whether something
stands there that can be repeated, and whether the last character quotes the next. -/
structure PatternState where
  groups : Nat := 0
  /-- A group was just opened, so that a question mark would begin its flags. -/
  opened : Bool := false
  classes : Nat := 0
  /-- A class was just opened, so that a closing bracket would be a member of it. -/
  fresh : Bool := false
  repeatable : Bool := false
  quoting : Bool := false
  deriving DecidableEq, Repr, Inhabited

namespace PatternState

/-- The letters and digits that may follow a backslash. -/
def quotable : List Char := "aftnrvAzdDsSwWpPxuU".toList

/-- Reads the character after a backslash. -/
def readQuoted (st : PatternState) (c : Char) : Option PatternState :=
  if c.isAlphanum && !quotable.contains c then none
  else some { st with quoting := false, repeatable := true, fresh := false }

/-- Reads a character inside a class. -/
def readInClass (st : PatternState) (c : Char) : PatternState :=
  if c = ']' && !st.fresh then
    { st with classes := st.classes - 1, repeatable := true }
  else if c = '[' then { st with classes := st.classes + 1, fresh := true }
  else if c = '^' then st
  else { st with fresh := false }

/-- Reads a character outside every class. -/
def readOutside (st : PatternState) (c : Char) : Option PatternState :=
  match c with
  | '(' => some { st with groups := st.groups + 1, repeatable := false, opened := true }
  | ')' =>
    if st.groups = 0 then none
    else some { st with groups := st.groups - 1, repeatable := true }
  | '[' => some { st with classes := 1, fresh := true }
  | '|' => some { st with repeatable := false }
  | '?' =>
    if st.repeatable || st.opened then some { st with opened := false } else none
  | '*' | '+' => if st.repeatable then some st else none
  | '\x7b' => none
  | _ => some { st with repeatable := true, opened := false }

/-- Reads a character. -/
def read (st : PatternState) (c : Char) : Option PatternState :=
  if st.quoting then st.readQuoted c
  else if c = '\\' then some { st with quoting := true }
  else if 0 < st.classes then some (st.readInClass c)
  else st.readOutside c

end PatternState

/-- Whether a text has the form of a regular expression without counted repetitions. -/
def isPattern (s : String) : Bool :=
  match s.toList.foldlM PatternState.read {} with
  | some st => st.groups == 0 && st.classes == 0 && !st.quoting
  | none => false

end SymbolRelay.Text
