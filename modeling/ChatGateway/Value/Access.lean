import ChatGateway.Failure

/-!
What can be asked of some values only. A missing value has no fields, only lists, texts and maps
have elements, and some records fit into no sentence.
-/

namespace ChatGateway.Value

/-- The text of a value inside a sentence. -/
def sentence (v : Value) : Except Failure String :=
  match v.inSentence? with
  | some shown => .ok shown
  | none => .error .unsuited

/-- The field `name` of a value that is there. -/
def field (v : Value) (name : String) : Except Failure Value :=
  if v.isVacant then .error (.noFields v name) else .ok (v.get name)

def items : Value → Except Failure (List Value)
  | .list items => .ok items
  | _ => .error .unsuited

/-- The items of a list or the values of a map. -/
def values : Value → Except Failure (List Value)
  | .list items => .ok items
  | .map entries => .ok (entries.map Prod.snd)
  | _ => .error .unsuited

/-- The elements that a value is made of: the items of a list, the characters of a text, the
key/value pairs of a map. -/
def elements : Value → Except Failure (List Value)
  | .list items => .ok items
  | .text s => .ok (s.toList.map fun c => .text (String.singleton c))
  | .map entries => .ok (entries.map fun (key, value) => .list [key, value])
  | _ => .error .unsuited

/-- The number of elements of a list or a map. -/
def count : Value → Nat
  | .list items => items.length
  | .map entries => entries.length
  | _ => 0

end ChatGateway.Value
