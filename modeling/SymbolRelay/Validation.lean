import SymbolRelay.Text.Blank

/-!
# Validation

Rules look at the fields of a value one after the other and collect what is wrong; nothing stops at
the first finding. A value without findings is valid.

## Results

* `finish_eq_ok_iff` — a check ends well exactly when no rule found anything.
-/

set_option autoImplicit false

namespace SymbolRelay

/-- A field and what is wrong with it. -/
structure Violation where
  field : String
  reason : String
  deriving DecidableEq, Repr

/-- The text of a violation. -/
def Violation.text (v : Violation) : String := v.field ++ ": " ++ v.reason

/-- Everything that is wrong with a value. -/
structure ValidationError where
  violations : List Violation
  deriving DecidableEq, Repr

namespace ValidationError

/-- An error with one violation. -/
def single (field reason : String) : ValidationError := ⟨[⟨field, reason⟩]⟩

/-- Whether a field has a violation. -/
def hasField (e : ValidationError) (field : String) : Bool :=
  e.violations.any (·.field == field)

/-- The text of the error. -/
def message (e : ValidationError) : String := "; ".intercalate (e.violations.map Violation.text)

end ValidationError

/-- The violations found so far, in the order of the rules. -/
structure Rules where
  violations : List Violation := []
  deriving DecidableEq, Repr

namespace Rules

/-- Adds a violation. -/
def fail (r : Rules) (field reason : String) : Rules := ⟨r.violations ++ [⟨field, reason⟩]⟩

/-- Adds a violation unless a test holds. -/
def ensure (r : Rules) (test : Bool) (field reason : String) : Rules :=
  if test then r else r.fail field reason

/-- The value must not be blank. -/
def required (r : Rules) (field value : String) : Rules :=
  r.ensure (!Text.isBlank value) field "is required"

/-- The value must not have more than so many characters. -/
def maxChars (r : Rules) (field value : String) (most : Nat) : Rules :=
  r.ensure (value.length ≤ most) field ("must be at most " ++ toString most ++ " characters")

/-- All characters of the value must be allowed ones. -/
def charset (r : Rules) (field value what : String) (allowed : Char → Bool) : Rules :=
  r.ensure (value.toList.all allowed) field ("may only contain " ++ what)

/-- Ends a check: the verdict, and the collection emptied for the next. -/
def finish (r : Rules) : Except ValidationError Unit × Rules :=
  if r.violations.isEmpty then (.ok (), {}) else (.error ⟨r.violations⟩, {})

theorem finish_eq_ok_iff (r : Rules) : r.finish.1 = .ok () ↔ r.violations = [] := by
  unfold finish
  cases h : r.violations <;> simp

end Rules

end SymbolRelay
