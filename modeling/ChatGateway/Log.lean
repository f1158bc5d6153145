import ChatGateway.Json.Text

/-!
Structured log entries. An entry has a severity, a fixed sentence and attributes: those of the
caller's context, overlaid with what the event itself says.
-/

namespace ChatGateway

/-- Ordered attributes that a caller hands along with a call. -/
abbrev Context := List (String × Value)

/-- How grave an entry is. -/
inductive Severity where
  | error
  | warn
  | debug
  deriving DecidableEq, Inhabited

/-- One call on the log. -/
structure Entry where
  severity : Severity
  message : String
  attributes : Option Context
  deriving Inhabited

namespace Context

/-- A context with `updates` laid over it. -/
def extend (context : Option Context) (updates : List (String × Value)) : Context :=
  Fields.setAll (context.getD []) updates

/-- The attribute `name`, `absent` where there is none. -/
def valueOf (context : Option Context) (name : String) : Value :=
  ((context.getD []).lookup name).getD .absent

/-- The attributes of a value that is handed along as it is, and not as a copy. Simple values have
none, and an error shows its message and stack, unless they are empty, beside its own fields. -/
def ofValue : Value → Option Context
  | .error _ message stack own =>
    some (own ++ [("message", .text message), ("stack", .text stack)].filter (·.2.isMeaningful))
  | .absent | .null | .bool _ | .number _ | .integer _ | .text _ | .method _ => none
  | value => some value.ownFields

end Context

/-- An error as an entry shows it. -/
structure ErrorReport where
  name : Value
  message : Value
  stack : Value

namespace Entry

/-- An entry that says nothing beyond the caller's context. -/
def plain (severity : Severity) (message : String) (context : Option Context) : Entry :=
  ⟨severity, message, context⟩

/-- Attributes for the operation of a component. -/
def operation (component name : String) (metadata : List (String × Value)) :
    List (String × Value) :=
  [("component", .text component), ("operation", .text name), ("metadata", .record metadata)]

/-- An error, with what is known of its cause. -/
def failure (message : String) (context : Option Context) (cause : Option ErrorReport) : Entry :=
  let shown := match cause with
    | some report => .record [
        ("name", report.name), ("message", report.message), ("stack", report.stack)]
    | none => .absent
  ⟨.error, message, some (Context.extend context [("error", shown)])⟩

/-- A value as a problem's entry shows it: lists, records and `null` as JSON text, all else as it
is. -/
def shownValue (value : Value) : Except Json.NoText Value :=
  match value with
  | .absent | .bool _ | .number _ | .integer _ | .text _ | .method _ => .ok value
  | _ => do return ((← Json.text? value).map .text).getD .absent

/-- A payload breaks a rule. -/
def validationError (field rule : String) (value : Value) (context : Option Context) :
    Except Json.NoText Entry := do
  let component := (Context.valueOf context "component").orElse (.text "Validator")
  let metadata : List (String × Value) :=
    [("field", .text field), ("rule", .text rule), ("value", ← shownValue value)]
  return ⟨.warn, "Validation error", some (Context.extend context [
    ("component", component),
    ("operation", .text "validation"),
    ("metadata", .record metadata)])⟩

/-- A code that its enumeration does not list. -/
def unknownEnumValue (enumeration : String) (code : Value) (context : Option Context) : Entry :=
  ⟨.debug, "Unrecognized enum code", some (Context.extend context
    (operation "EnumCodec" "decode" [("enum", .text enumeration), ("code", code)]))⟩

/-- Bits that a flag table does not name. -/
def unknownFlagBits (table : String) (bits : Int) (context : Option Context) : Entry :=
  ⟨.debug, "Unrecognized flag bits retained", some (Context.extend context
    (operation "BitFlags" "decode"
      [("flagSet", .text table), ("bits", .text (Bits.binaryText bits))]))⟩

/-- A key that a collection has seen before. -/
def duplicateKey (collection : String) (key : Value) (context : Option Context) : Entry :=
  ⟨.warn, "Duplicate key in keyed collection, keeping last occurrence",
    some (Context.extend context
      (operation "KeyedCollection" "decode"
        [("collection", .text collection), ("key", key)]))⟩

/-- A peer speaks another protocol version. -/
def versionMismatch (expected received : Value) (context : Option Context) : Entry :=
  ⟨.warn, "Gateway protocol version mismatch", some (Context.extend context
    (operation "ReadyCodec" "decode"
      [("expected", expected), ("received", received)]))⟩

/-- The milliseconds that an operation took. -/
def performance (name : String) (duration : Value) (context : Option Context) : Entry :=
  ⟨.debug, "Performance metric", some (Context.extend context [
    ("operation", .text "performance"),
    ("metadata", .record [
      ("operation", .text name),
      ("duration", duration),
      ("unit", .text "ms")])])⟩

end Entry
end ChatGateway
