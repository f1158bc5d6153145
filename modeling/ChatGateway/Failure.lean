import ChatGateway.Value.Sentence

/-!
What can go wrong. A payload that has none of the accepted shapes gives a `DecodeError` with all its
problems, an entity without a wire form an `EncodeError`. `Failure` joins these with the causes that
lie outside the two codecs.
-/

namespace ChatGateway

/-- One problem of a payload: the place, the rule that is broken, a sentence and the value there. -/
structure Problem where
  field : String
  rule : String
  message : String
  value : Value
  deriving Inhabited

/-- The kinds of failures that callers tell apart. -/
inductive ErrorCode where
  | structuralDecodeError
  | missingRequiredField
  | unsupportedEncoding
  | internalError
  /-- A code of the caller's own. -/
  | custom (name : String)
  deriving DecidableEq, Inhabited

namespace ErrorCode

def text : ErrorCode → String
  | .structuralDecodeError => "STRUCTURAL_DECODE_ERROR"
  | .missingRequiredField => "MISSING_REQUIRED_FIELD"
  | .unsupportedEncoding => "UNSUPPORTED_ENCODING"
  | .internalError => "INTERNAL_ERROR"
  | .custom name => name

end ErrorCode

/-- A payload that has none of the accepted shapes. -/
structure DecodeError where
  message : String
  code : ErrorCode
  details : List Problem
  deriving Inhabited

namespace DecodeError

/-- The error of a check that stops at its first problem. -/
def structural (field rule message : String) (value : Value) : DecodeError :=
  ⟨message, .structuralDecodeError, [⟨field, rule, message, value⟩]⟩

/-- The rule that a missing required field breaks. -/
def missingRule : String := "any.required"

/-- There are problems and all of them are missing fields. -/
def missingOnly (problems : List Problem) : Bool :=
  !problems.isEmpty && problems.all (·.rule == missingRule)

/-- The error of a `root` payload with the given problems. Only missing fields have a code of
their own. -/
def ofProblems (root : String) (problems : List Problem) : DecodeError where
  message := "Invalid " ++ root ++ " payload: " ++ "; ".intercalate (problems.map (·.message))
  code := if missingOnly problems then .missingRequiredField else .structuralDecodeError
  details := problems

end DecodeError

/-- An entity holds a value without a wire form. -/
structure EncodeError where
  field : String
  message : String
  deriving DecidableEq, Inhabited

/-- Why an operation gave no result. -/
inductive Failure where
  | decode (error : DecodeError)
  | encode (error : EncodeError)
  /-- The configured protocol version is not a positive whole number. -/
  | invalidVersion (raw : String)
  /-- A link has no absolute form. -/
  | invalidUrl
  /-- A value that goes into a log entry as JSON holds an integer of unbounded size. -/
  | noText
  /-- A field of a missing value is asked for. -/
  | noFields (owner : Value) (field : String)
  /-- The size of a copy of a map is asked for. -/
  | noSize
  /-- A value does not allow what is done with it. -/
  | unsuited
  /-- An error raised by the caller's own code. -/
  | raised (name message : String)
  /-- A bare value thrown by the caller's own code. -/
  | thrown (value : Value)
  deriving Inhabited

namespace Failure

/-- The name of the error, unless a bare value was thrown. -/
def name? : Failure → Option String
  | .decode _ => some "GatewayDecodeError"
  | .encode _ => some "GatewayEncodeError"
  | .invalidVersion _ => some "Error"
  | .invalidUrl => some "TypeError"
  | .noText | .noFields .. | .noSize | .unsuited => some "TypeError"
  | .raised name _ => some name
  | .thrown _ => none

/-- The sentence that a failure carries, empty for a bare value. -/
def message : Failure → String
  | .decode error => error.message
  | .encode error => error.message
  | .invalidVersion raw => "Invalid GATEWAY_VERSION: " ++ raw
  | .invalidUrl => "Invalid URL"
  | .noText => "Do not know how to serialize a BigInt"
  | .noFields owner field =>
    "Cannot read properties of " ++ owner.inSentence?.getD "" ++ " (reading '" ++ field ++ "')"
  | .noSize => "Method get Map.prototype.size called on incompatible receiver #<Map>"
  | .unsuited => "The value does not allow this"
  | .raised _ message => message
  | .thrown _ => ""

/-- What a caller is told about a failure. -/
structure Info where
  code : ErrorCode
  message : String
  details : Option (List Problem)

/-- The summary of a failure: decode and encode errors keep their details, anything else is
internal. -/
def info : Failure → Info
  | .decode error => ⟨error.code, error.message, some error.details⟩
  | .encode error =>
    ⟨.unsupportedEncoding, error.message, some [⟨error.field, "encode", error.message, .absent⟩]⟩
  | .thrown _ => ⟨.internalError, "An unexpected error occurred", none⟩
  | other => ⟨.internalError, other.message, none⟩

end Failure
end ChatGateway
