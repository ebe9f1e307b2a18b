import SymbolRelay.Json.Record
import SymbolRelay.Validation

/-!
# Symbols

A symbol has an id, a name, a unique code, a description, and the times of its creation and its last
change. One that was never stored has an id that is not positive.

## Results

* `validate_eq_ok_iff` — what a valid symbol is, field by field.
-/

set_option autoImplicit false

namespace SymbolRelay

/-- A named instrument with a unique code. -/
structure Symbol where
  id : Int64
  name : String
  code : String
  description : String := ""
  createdAt : Time
  updatedAt : Time
  deriving DecidableEq

namespace Symbol

/-- Whether the symbol was stored. -/
def isPersisted (s : Symbol) : Bool := 0 < s.id

/-! ## Validation -/

/-- The longest name. -/
def nameMaxChars : Nat := 100

/-- The longest code. -/
def codeMaxChars : Nat := 32

/-- The longest description. -/
def descriptionMaxChars : Nat := 1000

/-- Whether a code may hold a character. -/
def isCodeChar (c : Char) : Bool :=
  ('A' ≤ c && c ≤ 'Z') || ('0' ≤ c && c ≤ '9') || c == '.' || c == '-' || c == '_'

/-- The rules of a symbol. -/
def rules (s : Symbol) : Rules :=
  ({} : Rules)
    |>.required "name" s.name
    |>.maxChars "name" s.name nameMaxChars
    |>.required "code" s.code
    |>.maxChars "code" s.code codeMaxChars
    |>.charset "code" s.code "uppercase letters, digits, '.', '-' and '_'" isCodeChar
    |>.maxChars "description" s.description descriptionMaxChars

/-- Checks a symbol against its rules. -/
def validate (s : Symbol) : Except ValidationError Unit := s.rules.finish.1

theorem violations_ensure (r : Rules) (test : Bool) (field reason : String) :
    (r.ensure test field reason).violations = [] ↔ r.violations = [] ∧ test = true := by
  cases test <;> simp [Rules.ensure, Rules.fail]

theorem validate_eq_ok_iff (s : Symbol) :
    s.validate = .ok () ↔
      Text.isBlank s.name = false ∧ s.name.length ≤ nameMaxChars ∧
        Text.isBlank s.code = false ∧ s.code.length ≤ codeMaxChars ∧
          s.code.toList.all isCodeChar = true ∧ s.description.length ≤ descriptionMaxChars := by
  simp only [validate, rules, Rules.finish_eq_ok_iff, Rules.required, Rules.maxChars, Rules.charset,
    violations_ensure, decide_eq_true_eq, Bool.not_eq_true', true_and, and_assoc]

/-! ## JSON -/

/-- The members of a symbol's JSON form. -/
def members : List Json.Member :=
  [⟨"id", .integer, false⟩, ⟨"name", .text, false⟩, ⟨"code", .text, false⟩,
    ⟨"description", .text, false⟩, ⟨"created_at", .time, false⟩, ⟨"updated_at", .time, false⟩]

/-- The JSON form of a symbol. -/
def json (s : Symbol) : String :=
  Json.writeRecord members
    (s.id, s.name, s.code, s.description, s.createdAt, s.updatedAt, ())

/-- Reads a symbol from its JSON form. -/
def ofJson (bytes : Text.Octets) : Except Json.Fault Symbol := do
  let (id, name, code, description, createdAt, updatedAt, ()) ← Json.parseRecord members bytes
  return ⟨id, name, code, description, createdAt, updatedAt⟩

end Symbol

end SymbolRelay
