import ChatGateway.Failure
import ChatGateway.Path
import ChatGateway.Uri

/-!
Shapes of wire records. A schema lists the fields of a record with what each may hold; fields that
it does not list are ignored. `Schema.problems` gives all problems of a value in schema order, depth
first, without converting anything. Records are looked at through copies, which are handed on once
all of a payload is accepted: `Schema.copied`.
-/

namespace ChatGateway

/-- What a text may be. -/
inductive TextForm where
  /-- Any text, also the empty one. -/
  | free
  /-- One to `most` decimal digits. -/
  | digits (most : Nat)
  /-- An absolute URI. -/
  | uri
  /-- One of a list of texts. -/
  | oneOf (choices : List String)
  deriving DecidableEq

/-- Whether a field may be left out or hold `null`. -/
inductive Occurrence where
  | required
  /-- May be absent, but not `null`. -/
  | optional
  /-- May be absent or `null`. -/
  | nullable
  deriving DecidableEq

/-- The shape of a value. -/
inductive Schema where
  | text (form : TextForm)
  /-- Any number within the safe limit. -/
  | number
  /-- A natural number within the safe limit. -/
  | count
  | boolean
  /-- A list of two natural numbers. -/
  | pair
  | record (fields : List (String × Occurrence × Schema))
  | list (item : Schema)
  /-- A value of one shape or the other. -/
  | either (first second : Schema)

/-- A rule that a value breaks. -/
inductive Violation where
  | missing
  | hole
  | notListed (choices : List String)
  | notText
  | emptyText
  | notDigits (text : String) (most : Nat)
  | notUri
  | notBoolean
  | notRecord
  | notList
  | infinite
  | notNumber
  | beyondSafe
  | notWhole
  | negative
  | fitsNone
  | tooMany (limit : Nat)
  | tooFew (lacking : Nat)
  deriving DecidableEq

namespace Violation

def rule : Violation → String
  | .missing => DecodeError.missingRule
  | .hole => "array.sparse"
  | .notListed _ => "any.only"
  | .notText => "string.base"
  | .emptyText => "string.empty"
  | .notDigits _ _ => "string.pattern.base"
  | .notUri => "string.uri"
  | .notBoolean => "boolean.base"
  | .notRecord => "object.base"
  | .notList => "array.base"
  | .infinite => "number.infinity"
  | .notNumber => "number.base"
  | .beyondSafe => "number.unsafe"
  | .notWhole => "number.integer"
  | .negative => "number.min"
  | .fitsNone => "array.includes"
  | .tooMany _ => "array.orderedLength"
  | .tooFew _ => "array.includesRequiredUnknowns"

/-- What is wrong, to be read after the name of the place. -/
def predicate : Violation → String
  | .missing => "is required"
  | .hole => "must not be a sparse array item"
  | .notListed choices => "must be one of [" ++ ", ".intercalate choices ++ "]"
  | .notText => "must be a string"
  | .emptyText => "is not allowed to be empty"
  | .notDigits text most =>
    "with value \"" ++ text ++ "\" fails to match the required pattern: /^\\d\x7b1," ++
      toString most ++ "\x7d$/"
  | .notUri => "must be a valid uri"
  | .notBoolean => "must be a boolean"
  | .notRecord => "must be of type object"
  | .notList => "must be an array"
  | .infinite => "cannot be infinity"
  | .notNumber => "must be a number"
  | .beyondSafe => "must be a safe number"
  | .notWhole => "must be an integer"
  | .negative => "must be greater than or equal to 0"
  | .fitsNone => "does not match any of the allowed types"
  | .tooMany limit => "must contain at most " ++ toString limit ++ " items"
  | .tooFew lacking => "does not contain " ++ toString lacking ++ " required value(s)"

/-- The sentence about a place. The whole value is called `value`. -/
def message (violation : Violation) (path : Path) : String :=
  let label := if path.isEmpty then "value" else path.render
  "\"" ++ label ++ "\" " ++ violation.predicate

end Violation

/-- A broken rule, the place where it is broken and the value there. -/
structure Finding where
  path : Path
  violation : Violation
  value : Value

/-- The finding as a problem of a `root` payload. -/
def Finding.report (root : String) (finding : Finding) : Problem where
  field := if finding.path.render.isEmpty then root else finding.path.render
  rule := finding.violation.rule
  message := finding.violation.message finding.path
  value := finding.value

def isDigits (most : Nat) (text : String) : Bool :=
  !text.isEmpty && text.length ≤ most && text.toList.all Char.isDigit

namespace TextForm

def violations : TextForm → String → List Violation
  | .free, _ => []
  | .digits most, s =>
    if s.isEmpty then [.emptyText]
    else if isDigits most s then [] else [.notDigits s most]
  | .uri, s =>
    if s.isEmpty then [.emptyText] else if Uri.accepts s then [] else [.notUri]
  | .oneOf _, s => if s.isEmpty then [.emptyText] else []

/-- The list of accepted texts that a value is not in, if there is such a list. -/
def notListed (nullable : Bool) : TextForm → Value → List Violation
  | .oneOf choices, v =>
    if v.text?.any choices.contains then []
    else [.notListed (if nullable then choices ++ ["null"] else choices)]
  | _, _ => []

/-- What is wrong with a value that should be a text. -/
def check (form : TextForm) (nullable : Bool) (v : Value) : List Violation :=
  form.notListed nullable v ++
    match v with
    | .text s => form.violations s
    | _ => [.notText]

end TextForm

/-- What is wrong with a value that should be a number within the safe limit. -/
def checkNumber : Value → List Violation
  | .number (.infinite _) => [.infinite]
  | .number (.finite q) =>
    if q < -(Number.safeLimit : Rat) ∨ (Number.safeLimit : Rat) < q then [.beyondSafe] else []
  | _ => [.notNumber]

/-- What is wrong with a value that should be a natural number within the safe limit. -/
def checkCount (v : Value) : List Violation :=
  match checkNumber v, v with
  | [], .number n =>
    (if n.integer?.isSome then [] else [.notWhole]) ++
      match n with
      | .finite q => if q < 0 then [.negative] else []
      | _ => []
  | violations, _ => violations

namespace Schema

def placed (path : Path) (v : Value) (violations : List Violation) : List Finding :=
  violations.map fun violation => ⟨path, violation, v⟩

/-- The problems of the items of a pair, of which `lacking` are still to come. -/
def pairFindings (path : Path) (whole : Value) :
    (lacking position : Nat) → List Value → List Finding
  | 0, _, [] => []
  | lacking, _, [] => [⟨path, .tooFew lacking, whole⟩]
  | lacking, position, .absent :: rest =>
    ⟨path.item position, .hole, .absent⟩ ::
      pairFindings path whole (lacking - 1) (position + 1) rest
  | 0, _, _ => [⟨path, .tooMany 2, whole⟩]
  | lacking + 1, position, item :: rest =>
    placed (path.item position) item (checkCount item) ++
      pairFindings path whole lacking (position + 1) rest

/-- The problems of list items, each checked on its own. -/
def itemFindings (path : Path) (check : Path → Value → List Finding) :
    (position : Nat) → List Value → List Finding
  | _, [] => []
  | position, item :: rest =>
    (match item with
      | .absent => [⟨path.item position, .hole, .absent⟩]
      | _ => check (path.item position) item) ++
    itemFindings path check (position + 1) rest

mutual

/-- All problems of a value that is there. `nullable` says that `null` would have been accepted. -/
def problems : Schema → (nullable : Bool) → Path → Value → List Finding
  | .text form, nullable, path, v => placed path v (form.check nullable v)
  | .number, _, path, v => placed path v (checkNumber v)
  | .count, _, path, v => placed path v (checkCount v)
  | .boolean, _, path, v =>
    match v with
    | .bool _ => []
    | _ => [⟨path, .notBoolean, v⟩]
  | .pair, _, path, v =>
    match v with
    | .list items => pairFindings path v 2 0 items
    | _ => [⟨path, .notList, v⟩]
  | .record fields, _, path, v =>
    if v.isRecord then fieldProblems fields path v else [⟨path, .notRecord, v⟩]
  | .list item, _, path, v =>
    match v with
    | .list items => itemFindings path (fun path v => item.problems false path v) 0 items
    | _ => [⟨path, .notList, v⟩]
  | .either first second, _, path, v =>
    if (first.problems false path v).isEmpty || (second.problems false path v).isEmpty then []
    else [⟨path, .fitsNone, v⟩]

/-- The problems of the fields of a copy of a record, in schema order. -/
def fieldProblems : List (String × Occurrence × Schema) → Path → Value → List Finding
  | [], _, _ => []
  | (name, occurrence, shape) :: rest, path, v =>
    (match v.seen name, occurrence with
      | .absent, .required => [⟨path.field name, .missing, .absent⟩]
      | .absent, _ => []
      | .null, .nullable => []
      | value, _ => shape.problems (occurrence = .nullable) (path.field name) value) ++
    fieldProblems rest path v

end

mutual

/-- A check of the value breaks down, since a copy that it makes of a record inherits from a map or
is one of a map. -/
def breaksDown : Schema → Value → Bool
  | .record fields, v => v.isRecord && (v.refusesCopy || fieldsBreakDown fields v)
  | .list item, .list items => items.any fun v => item.breaksDown v
  | .either first second, v => first.breaksDown v || second.breaksDown v
  | _, _ => false

/-- A check of the fields of a copy of a record breaks down. -/
def fieldsBreakDown : List (String × Occurrence × Schema) → Value → Bool
  | [], _ => false
  | (name, _, shape) :: rest, v =>
    (name == "size" && v.refusesSize) || shape.breaksDown (v.seen name) || fieldsBreakDown rest v

end

mutual

/-- What is handed on of a value that has the shape: copies of its records, whose listed fields hold
copies in turn, and all else as it is. -/
def copied : Schema → Value → Value
  | .record fields, v => v.copyWith (copiedFields fields v)
  | .list item, .list items => .list (items.map fun v => item.copied v)
  | .either first second, v =>
    if (first.problems false [] v).isEmpty then first.copied v else second.copied v
  | _, v => v

/-- The listed fields of a copy of a record. -/
def copiedFields : List (String × Occurrence × Schema) → Value → List (String × Value)
  | [], _ => []
  | (name, _, shape) :: rest, v =>
    match v.seen name with
    | .absent => copiedFields rest v
    | held => (name, shape.copied held) :: copiedFields rest v

end

/-- All problems of a payload, which has to be there. -/
def check (shape : Schema) (payload : Value) : List Finding :=
  match payload with
  | .absent => [⟨[], .missing, .absent⟩]
  | _ => shape.problems false [] payload

def accepts (shape : Schema) (payload : Value) : Bool :=
  (shape.check payload).isEmpty

end Schema
end ChatGateway
