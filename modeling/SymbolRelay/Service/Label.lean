import SymbolRelay.Service.Arguments
import SymbolRelay.Service.Settings
import SymbolRelay.Service.Worker

/-!
# Labels

A label names a cause in one word, without the particulars that its text has. Under its label an error
is filed, counted and looked for.

## Results

* `DataError.ofLabel_label`, `BrokerError.ofLabel_label` — the errors of the store and of the broker
  are found again by label and particulars.
-/

set_option autoImplicit false

namespace SymbolRelay

/-- The label of the error. -/
def DataError.label : DataError → String
  | .notFound => "NotFound"
  | .duplicate _ => "Duplicate"
  | .transactionFailed _ => "TransactionFailed"
  | .database _ => "Database"

/-- What a data error is about. -/
def DataError.about : DataError → String
  | .notFound => ""
  | .duplicate code => code
  | .transactionFailed reason => reason
  | .database reason => reason

/-- The error with a label; a label that no other error has is one of the database. -/
def DataError.ofLabel (label about : String) : DataError :=
  match label with
  | "NotFound" => .notFound
  | "Duplicate" => .duplicate about
  | "TransactionFailed" => .transactionFailed about
  | _ => .database about

theorem DataError.ofLabel_label (e : DataError) : ofLabel e.label e.about = e := by
  cases e <;> rfl

/-- The label of the error. -/
def BrokerError.label : BrokerError → String
  | .closed => "Closed"
  | .connectionFailed _ => "ConnectionFailed"
  | .rejected _ => "Rejected"
  | .poisoned _ => "Poisoned"

/-- What a broker error is about. -/
def BrokerError.about : BrokerError → String
  | .closed => ""
  | .connectionFailed reason => reason
  | .rejected reason => reason
  | .poisoned operation => operation

/-- The error with a label; one with a label that no other error has is a refusal. -/
def BrokerError.ofLabel (label about : String) : BrokerError :=
  match label with
  | "Closed" => .closed
  | "ConnectionFailed" => .connectionFailed about
  | "Poisoned" => .poisoned about
  | _ => .rejected about

theorem BrokerError.ofLabel_label (e : BrokerError) : ofLabel e.label e.about = e := by
  cases e <;> rfl

/-- The label of the fault. -/
def Json.Fault.label : Json.Fault → String
  | .malformed => "syntax"
  | .truncated => "eof"
  | .mismatched => "data"

/-- The label of the error. -/
def CodecError.label : CodecError → String
  | .compact => "Bitcode"
  | .json _ => "Json"
  | .unknownContentType _ => "UnknownContentType"
  | .unknownCodec _ => "UnknownCodec"

/-- The label of the error. -/
def Event.DecodeError.label : Event.DecodeError → String
  | .unknownTopic _ => "UnknownTopic"
  | .codec _ => "Codec"

/-- The label of the error. -/
def PublishError.label : PublishError → String
  | .broker .. => "Broker"
  | .missingEvent _ => "MissingEvent"
  | .encode _ => "Encode"

/-- The label of the error. -/
def SubscribeError.label : SubscribeError → String
  | .broker .. => "Broker"
  | .ack .. => "Ack"
  | .closed => "Closed"
  | .cancelled => "Cancelled"

/-- The label of the error. -/
def DomainError.label : DomainError → String
  | .notFound => "NotFound"
  | .invalidId _ => "InvalidId"
  | .validationFailed _ => "ValidationFailed"
  | .duplicate => "Duplicate"
  | .databaseOperation _ => "DatabaseOperation"

/-- The label of the error. -/
def HandlerError.label : HandlerError → String
  | .decode _ => "Decode"
  | .rejected _ => "Rejected"
  | .panicked _ => "Panicked"
  | .domain _ => "Domain"
  | .publish _ => "Publish"
  | .other _ => "Other"

/-- The label of the error. -/
def RouterError.label : RouterError → String
  | .duplicateHandler _ => "DuplicateHandler"
  | .noPublisher _ => "NoPublisher"
  | .subscribe .. => "Subscribe"
  | .subscriptionsLost => "SubscriptionsLost"
  | .closed => "Closed"
  | .close _ => "Close"

/-- The label of the error. -/
def WorkerError.label : WorkerError → String
  | .stopTimeout _ => "StopTimeout"
  | .close _ => "Close"
  | .run _ => "Run"
  | .panicked => "Panicked"

/-- The label of the error. -/
def SettingsError.label : SettingsError → String
  | .zeroPollInterval => "ZeroPollInterval"
  | .multiplier _ => "Multiplier"
  | .backoffRange .. => "BackoffRange"

/-- The label of the fault. -/
def ArgumentFault.label : ArgumentFault → String
  | .unknownArgument => "UnknownArgument"
  | .invalidValue => "InvalidValue"
  | .valueValidation => "ValueValidation"
  | .argumentConflict => "ArgumentConflict"
  | .tooManyValues => "TooManyValues"
  | .displayHelp => "DisplayHelp"
  | .displayVersion => "DisplayVersion"

/-- The label of the phase. -/
def Phase.label : Phase → String
  | .stopped => "Stopped"
  | .running => "Running"
  | .draining => "Draining"

/-- The label of the kind. -/
def EventKind.label : EventKind → String
  | .created => "created"
  | .updated => "updated"
  | .deleted => "deleted"

end SymbolRelay
