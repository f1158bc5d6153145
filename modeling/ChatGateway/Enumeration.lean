import ChatGateway.Form

/-!
Enumerations with a catch-all. A code that a later version of the service introduces stands for the
catch-all when it is read, and the catch-all itself is never written.
-/

namespace ChatGateway

/-- The numbered variants of an enumeration, in order of declaration. -/
structure Enumeration where
  name : String
  /-- The first variant, which an absent code stands for. -/
  first : Number
  others : List Number
  /-- The catch-all. -/
  unknown : Number

namespace Enumeration

/-- The variants that have a wire code. -/
def known (e : Enumeration) : List Number :=
  e.first :: e.others

def isKnown (e : Enumeration) (value : Value) : Bool :=
  value.number?.any e.known.contains

/-- The variant that a wire code stands for. -/
def decode (e : Enumeration) (code : Value) (context : Option Context) : Traced Number := do
  match code.number?.filter e.known.contains with
  | some value => return value
  | none =>
    Traced.write (.unknownEnumValue e.name code context)
    return e.unknown

/-- Like `decode`, where an absent code stands for the first variant. -/
def decodeOptional (e : Enumeration) (code : Value) (context : Option Context) : Traced Number :=
  if code.isVacant then .result e.first else e.decode code context

/-- The wire code of a variant; `field` names the place of a value that has none. -/
def encode (e : Enumeration) (field : String) (value : Value) : Except Failure Value := do
  if e.isKnown value then return value
  else .error (.encode ⟨field, e.name ++ " value " ++ (← value.sentence) ++ " has no wire code"⟩)

def form (e : Enumeration) (field : String) : Form where
  read wire context := .number <$> e.decode wire context
  write := e.encode field

/-- A variant that is the first one where the wire has none. -/
def optionalForm (e : Enumeration) (field : String) : Form where
  read wire context := .number <$> e.decodeOptional wire context
  write := (e.form field).write

end Enumeration
end ChatGateway
