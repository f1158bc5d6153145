import ChatGateway.Form
import ChatGateway.Schema

/-!
Discriminators: the up to four digits that tell users of one name apart, a number from 0 to 9999
that is written with four digits.
-/

namespace ChatGateway.Discriminator

/-- The number of a written discriminator; any value with such a text counts as written. `field`
names its place in an error. -/
def decode (field : String) (value : Value) : Except Failure Number := do
  let text ← value.sentence
  if isDigits 4 text then return .ofNat (Digits.decimal text.toList)
  else .error (.decode (.structural field "string.pattern.base"
    "Discriminator must be a numeric string of at most 4 digits" value))

/-- Like `decode`, where an absent value stands for no discriminator. The empty text is still
refused. -/
def decodeOptional (field : String) (value : Value) : Except Failure (Option Number) :=
  if value.isVacant then .ok none else some <$> decode field value

/-- The four decimal digits of a number below ten thousand. -/
def fourDigits (n : Nat) : String :=
  String.ofList ([n / 1000, n / 100, n / 10, n].map fun d => Char.ofNat (48 + d % 10))

def encode (field : String) (value : Value) : Except Failure String := do
  match (value.number?.bind Number.count?).filter (· ≤ 9999) with
  | some n => return fourDigits n
  | none => .error (.encode ⟨field, "Discriminator " ++ (← value.sentence) ++ " is outside 0-9999"⟩)

def form (field : String) : Form where
  read wire _ := .ofExcept (.number <$> decode field wire)
  write value := .text <$> encode field value

/-- A discriminator that may be unknown, and is left out then. -/
def optionalForm (field : String) : Form where
  read wire context := if wire.isVacant then .result .absent else (form field).read wire context
  write
    | .absent => .ok .absent
    | value => (form field).write value

end ChatGateway.Discriminator
