import SymbolRelay.Delivery.Publisher

/-!
# Errors of the service

What the service tells its callers. Every refusal of the store has exactly one meaning for them, and
only a failure of the store or of the broker is worth another try.

## Results

* `isRetryable_iff_statusCode` — a caller may try again exactly when the fault is the service's own.
-/

set_option autoImplicit false

namespace SymbolRelay

/-- What made an operation fail. -/
inductive OperationCause where
  | data (cause : DataError)
  | publish (cause : PublishError)
  | other (text : String)
  deriving DecidableEq, Repr

/-- The text of the cause. -/
def OperationCause.message : OperationCause → String
  | .data cause => cause.message
  | .publish cause => cause.message
  | .other text => text

/-- Why the service does not do what it was asked for. -/
inductive DomainError where
  | notFound
  | invalidId (id : Int64)
  | validationFailed (cause : ValidationError)
  | duplicate
  | databaseOperation (cause : OperationCause)
  deriving DecidableEq, Repr

namespace DomainError

/-- The text of the error. -/
def message : DomainError → String
  | .notFound => "symbol not found"
  | .invalidId id => "invalid symbol id: " ++ toString id.toInt
  | .validationFailed cause => "validation failed: " ++ cause.message
  | .duplicate => "symbol already exists"
  | .databaseOperation _ => "database operation failed"

/-- The number that a web service would answer. -/
def statusCode : DomainError → Nat
  | .notFound => 404
  | .invalidId _ => 400
  | .validationFailed _ => 400
  | .duplicate => 409
  | .databaseOperation _ => 500

/-- Whether the same call may succeed another time. -/
def isRetryable : DomainError → Bool
  | .databaseOperation _ => true
  | _ => false

/-- What a refusal of the store means for the caller. -/
def ofData : DataError → DomainError
  | .notFound => .notFound
  | .duplicate _ => .duplicate
  | e => .databaseOperation (.data e)

theorem isRetryable_iff_statusCode (e : DomainError) : e.isRetryable = true ↔ e.statusCode = 500 := by
  cases e <;> simp [isRetryable, statusCode]

end DomainError

end SymbolRelay
