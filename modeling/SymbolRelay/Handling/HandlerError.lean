import SymbolRelay.Service.DomainError
import SymbolRelay.Symbol.Event

/-!
# Errors of handlers

Why a message is not handled. Some reasons are final; the others may pass, so that another attempt at
the same message makes sense.

## Results

* `isRetryable_ofDecode` — a message that holds no event is never tried again.
-/

set_option autoImplicit false

namespace SymbolRelay

/-- Why a handler does not handle a message. -/
inductive HandlerError where
  | decode (cause : CodecError)
  /-- The handler refuses the message for good. -/
  | rejected (reason : String)
  /-- The handler panicked and was caught. -/
  | panicked (reason : String)
  | domain (cause : DomainError)
  | publish (cause : PublishError)
  | other (text : String)
  deriving DecidableEq, Repr

namespace HandlerError

/-- The text of the error. -/
def message : HandlerError → String
  | .decode _ => "message decoding failed"
  | .rejected reason => "message rejected: " ++ reason
  | .panicked reason => "handler panicked: " ++ reason
  | .domain cause => cause.message
  | .publish cause => cause.message
  | .other text => text

/-- Whether another attempt at the same message may succeed. -/
def isRetryable : HandlerError → Bool
  | .decode _ => false
  | .rejected _ => false
  | .domain cause => cause.isRetryable
  | .panicked _ | .publish _ | .other _ => true

/-- What a message that holds no event is to a handler. -/
def ofDecode : Event.DecodeError → HandlerError
  | .codec cause => .decode cause
  | .unknownTopic topic => .rejected (Event.DecodeError.unknownTopic topic).message

theorem isRetryable_ofDecode (e : Event.DecodeError) : (ofDecode e).isRetryable = false := by
  cases e <;> rfl

end HandlerError

end SymbolRelay
