import ChatGateway.Form

/-!
Buttons on the wire. A button is a record with a label and an optional link or, in older versions
of the service, the label alone.
-/

namespace ChatGateway

/-- A button under a presence. Its link is usually empty, since it is not disclosed to bots. -/
structure ActivityButton where
  label : String
  url : String
  deriving DecidableEq, Inhabited

namespace ActivityButton

/-- The button that one list item stands for, if it has either shape. -/
def ofElement? (element : Value) : Option ActivityButton :=
  match element with
  | .text label => some ⟨label, ""⟩
  | _ =>
    if element.isRecord then
      match element.get "label", element.get "url" with
      | .text label, .text url => some ⟨label, url⟩
      | .text label, .absent => some ⟨label, ""⟩
      | .text label, .null => some ⟨label, ""⟩
      | _, _ => none
    else none

/-- The buttons of the list items from `position` on. -/
def decodeFrom (field : String) : (position : Nat) → List Value →
    Except DecodeError (List ActivityButton)
  | _, [] => .ok []
  | position, element :: rest =>
    match ofElement? element with
    | some button => do return button :: (← decodeFrom field (position + 1) rest)
    | none =>
      let place := field ++ "[" ++ toString position ++ "]"
      .error (.structural place "button.shape" (place ++ " must be a label or object button")
        element)

/-- The buttons that the value of `field` stands for. An absent value stands for none. -/
def decode (field : String) (value : Value) : Except DecodeError (List ActivityButton) :=
  match value with
  | .absent => .ok []
  | .null => .ok []
  | .list elements => decodeFrom field 0 elements
  | _ => .error (.structural field "array.base" (field ++ " must be an array") value)

def toValue (button : ActivityButton) : Value :=
  .record [("label", .text button.label), ("url", .text button.url)]

/-- Buttons are written as records. -/
def written : Form := .list (.record [⟨"label", "label", .plain⟩, ⟨"url", "url", .plain⟩])

def form (field : String) : Form where
  read wire _ := .ofExcept
    (((decode field wire).map fun buttons => .list (buttons.map toValue)).mapError .decode)
  write := written.write

end ActivityButton
end ChatGateway
