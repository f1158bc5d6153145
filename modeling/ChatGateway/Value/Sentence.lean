import ChatGateway.Number.Text
import ChatGateway.Value

/-!
The text of a value inside a sentence. Simple values stand for themselves, lists show their items
between commas, and of everything else only the kind is named. A record with a field `toString`
claims a text of its own; no value is one, so that such a record fits into no sentence.
-/

namespace ChatGateway.Value

/-- The field by which a record claims a text of its own. -/
def ownTextField : String := "toString"

mutual

/-- A value inside a sentence, if it fits into one. -/
def inSentence? : Value → Option String
  | .absent => some "undefined"
  | .null => some "null"
  | .bool b => some (if b then "true" else "false")
  | .number n => some n.text
  | .integer n => some (toString n)
  | .text s => some s
  | .list items => (",".intercalate ·) <$> itemsInSentence? items
  | .map _ => some "[object Map]"
  | .error name message _ _ => some <|
    if name.isEmpty then message
    else if message.isEmpty then name
    else name ++ ": " ++ message
  | .record fields =>
    if (fields.lookup ownTextField).isSome then none else some "[object Object]"
  | .flags _ => some "[object Object]"
  | .method name => some ("function " ++ name ++ "() \x7b [native code] \x7d")

/-- List items inside a sentence; missing ones leave nothing between the commas. -/
def itemsInSentence? : List Value → Option (List String)
  | [] => some []
  | item :: rest => do
    let shown ← if item.isVacant then some "" else inSentence? item
    return shown :: (← itemsInSentence? rest)

end

end ChatGateway.Value
