import ChatGateway.Fields
import ChatGateway.Flags

/-!
Dynamic values: payloads as they arrive, the contexts and attributes of log entries, and the
records that are sent. Besides the six kinds of JSON values there are the absent value, integers
of any size, flag sets, keyed maps and errors, which a caller may hand to a decoder, and the
operations that lists lend to records which inherit from them.

Texts are sequences of Unicode scalar values, so that none holds half of a surrogate pair. Values
are nested to any finite depth: no stack bounds it.
-/

namespace ChatGateway

/-- A dynamic value. -/
inductive Value where
  | absent
  | null
  | bool (b : Bool)
  | number (n : Number)
  | integer (n : Int)
  | text (s : String)
  | list (items : List Value)
  | record (fields : List (String × Value))
  | flags (set : FlagSet)
  | map (entries : List (Value × Value))
  | error (name message stack : String) (own : List (String × Value))
  /-- An operation of lists. -/
  | method (name : String)
  deriving Inhabited

namespace Value

/-- Neither there nor meaningful: `absent` and `null`. -/
def isVacant : Value → Bool
  | .absent | .null => true
  | _ => false

/-- Neither absent, false, zero, empty nor no number. -/
def isMeaningful : Value → Bool
  | .absent | .null => false
  | .bool b => b
  | .number n => n ≠ .nan && n ≠ 0
  | .integer n => n ≠ 0
  | .text s => !s.isEmpty
  | _ => true

/-- The value has fields; lists do not count. -/
def isRecord : Value → Bool
  | .record _ | .flags _ | .map _ | .error .. => true
  | _ => false

/-- The value, or `fallback` in place of a missing one. -/
def orElse (v fallback : Value) : Value :=
  if v.isVacant then fallback else v

def ofNat (n : Nat) : Value := .number (.ofNat n)

def texts (items : List String) : Value := .list (items.map .text)

/-- The field `name` of a value, `absent` where there is none. Errors have their own fields
and show their name and message, and a map knows its size. -/
def get (v : Value) (name : String) : Value :=
  match v with
  | .record fields => (fields.lookup name).getD .absent
  | .map entries => if name = "size" then .ofNat entries.length else .absent
  | .error errorName message stack own =>
    match own.lookup name with
    | some field => field
    | none =>
      if name = "name" then .text errorName
      else if name = "message" then .text message
      else if name = "stack" then .text stack
      else .absent
  | _ => .absent

/-! ### Copies of records

A copy of a record takes over its fields one by one. The field `__proto__` does not become a field
of the copy: if it holds a value that can have fields, the copy inherits from that value what it has
not of its own. -/

/-- The name that makes a copy inherit. -/
def parentField : String := "__proto__"

/-- What a value lends to those that inherit from it. One operation of lists has the name of a field
that records have; the size of a map cannot be lent. -/
def lent (v : Value) (name : String) : Value :=
  match v with
  | .list _ => if name = "join" then .method name else .absent
  | .map _ => .absent
  | _ => v.get name

/-- The field `name` of a copy of the value. -/
def seen (v : Value) (name : String) : Value :=
  match v with
  | .record fields =>
    match fields.lookup name with
    | some own => own
    | none => (v.get parentField).lent name
  | _ => v.get name

/-- A copy of the value that holds `updates` in the place of fields of these names. -/
def copyWith (v : Value) (updates : List (String × Value)) : Value :=
  match v with
  | .record fields => .record (Fields.setAll (fields.filter (·.1 != parentField)) updates)
  | .error name message stack own => .error name message stack (Fields.setAll own updates)
  | _ => v

/-- A map is the value that is inherited from. -/
def inheritsMap (v : Value) : Bool :=
  match v.get parentField with
  | .map _ => true
  | _ => false

/-- No copy can be made: what inherits from a map cannot be given a size. -/
def refusesCopy : Value → Bool
  | .record fields =>
    (Value.record fields).inheritsMap &&
      (fields.dropWhile (·.1 != parentField)).any (·.1 == "size")
  | _ => false

/-- The size of a copy cannot be asked for: it would be the size of a map, and the copy is none. -/
def refusesSize (v : Value) : Bool :=
  match v with
  | .map _ => true
  | .record fields => (fields.lookup "size").isNone && v.inheritsMap
  | _ => false

/-- The parts of a value that a copy of it takes over, each under its name: the fields of a record,
the table and the bits of a flag set, and the items of a list or the characters of a text under
their positions. -/
def ownFields : Value → List (String × Value)
  | .record fields => fields
  | .flags set => [
      ("table", .record (set.table.bits.map fun (name, bits) => (name, .integer bits))),
      ("bits", .integer set.bits)]
  | .error _ _ _ own => own
  | .list items => items.zipIdx.map fun (item, i) => (toString i, item)
  | .text s => s.toList.zipIdx.map fun (c, i) => (toString i, .text (String.singleton c))
  | _ => []

/-- Two values are the same if they are equal and simple. Lists, records and the like are told
apart even if they have equal parts, so none is the same as another. -/
instance : BEq Value where
  beq
    | .absent, .absent => true
    | .null, .null => true
    | .bool a, .bool b => a == b
    | .number a, .number b => a == b
    | .integer a, .integer b => a == b
    | .text a, .text b => a == b
    | _, _ => false

@[simp]
theorem text_beq (a b : String) : (Value.text a == Value.text b) = (a == b) := rfl

def text? : Value → Option String
  | .text s => some s
  | _ => none

def number? : Value → Option Number
  | .number n => some n
  | _ => none

/-- The text in the field `name`, if there is one. -/
def textAt? (v : Value) (name : String) : Option String :=
  (v.get name).text?

/-- The text in the field `name`, empty where there is none. -/
def textAt (v : Value) (name : String) : String :=
  (v.textAt? name).getD ""

/-- The items in the field `name`, none where there is no list. -/
def itemsAt (v : Value) (name : String) : List Value :=
  match v.get name with
  | .list items => items
  | _ => []

def textsAt (v : Value) (name : String) : List String :=
  (v.itemsAt name).filterMap text?

end Value
end ChatGateway
