import SymbolRelay.Json.Record

/-!
# Codecs

The two ways to encode the payload of an event, and the names by which they are asked for. The compact
one is bitcode's; `BinaryFormat` says what is relied on there.

## Results

* `ofContentType_contentType` — a codec is found by its own content type.
-/

set_option autoImplicit false

namespace SymbolRelay

open SymbolRelay.Text SymbolRelay.Json

/-- The library bitcode, which is no part of the program: some way to write a record as octets. Nothing is
relied on but that a record is read back as it was; which octets are written, and which other octets are
read as what, stays open. -/
class BinaryFormat where
  write (ms : List Member) (fields : Fields ms) : Octets
  read (ms : List Member) (payload : Octets) : Option (Fields ms)
  read_write (ms : List Member) (fields : Fields ms) : read ms (write ms fields) = some fields

/-- How an event is encoded. -/
inductive Codec where
  | compact
  | json
  deriving DecidableEq, Repr

/-- What can go wrong with a payload or with the name of a codec. -/
inductive CodecError where
  /-- The payload is no compact record of this kind, as the library says. -/
  | compact
  /-- The payload is no JSON record of this kind. -/
  | json (fault : Fault)
  | unknownContentType (name : String)
  | unknownCodec (name : String)
  deriving DecidableEq, Repr

/-- What a JSON fault is called. -/
def Json.Fault.message : Fault → String
  | .malformed => "malformed text"
  | .truncated => "unexpected end"
  | .mismatched => "unexpected value"

/-- The text of the error. What the libraries say of a payload themselves is not part of the program; one
text for each kind stands for it. -/
def CodecError.message : CodecError → String
  | .compact => "bitcode codec: malformed payload"
  | .json fault => "json codec: " ++ fault.message
  | .unknownContentType name => "unknown content type: " ++ name
  | .unknownCodec name => "unknown codec: " ++ name ++ " (expected `bitcode` or `json`)"

namespace Codec

/-- The codec that is used unless another is asked for. -/
def default : Codec := .compact

instance : Inhabited Codec := ⟨default⟩

/-- The name of a codec. -/
def name : Codec → String
  | .compact => "bitcode"
  | .json => "json"

/-- The content type of a payload in this codec. -/
def contentType : Codec → String
  | .compact => "application/x-bitcode"
  | .json => "application/json"

/-- The codec with a content type. -/
def ofContentType (s : String) : Except CodecError Codec :=
  if s = contentType .compact then .ok .compact
  else if s = contentType .json then .ok .json
  else .error (.unknownContentType s)

/-- The codec with a name, whose ASCII case does not matter. -/
def ofName (s : String) : Except CodecError Codec :=
  let lower := String.ofList (s.toList.map Char.toLower)
  if lower = name .compact then .ok .compact
  else if lower = name .json then .ok .json
  else .error (.unknownCodec s)

/-- Encodes a record. -/
def encode [BinaryFormat] (codec : Codec) (ms : List Member) (fields : Fields ms) : Octets :=
  match codec with
  | .compact => BinaryFormat.write ms fields
  | .json => octets (writeRecord ms fields)

/-- Decodes a record. -/
def decode [BinaryFormat] (codec : Codec) (ms : List Member) (payload : Octets) :
    Except CodecError (Fields ms) :=
  match codec with
  | .compact =>
    match BinaryFormat.read ms payload with
    | some fields => .ok fields
    | none => .error .compact
  | .json => (parseRecord ms payload).mapError .json

theorem ofContentType_contentType (codec : Codec) :
    ofContentType codec.contentType = .ok codec := by
  cases codec <;> simp [ofContentType, contentType]

end Codec

end SymbolRelay
