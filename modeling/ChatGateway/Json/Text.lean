import ChatGateway.Number.Text
import ChatGateway.Value

/-!
The JSON text of a value, without spaces and with fields in their own order. Absent fields are
left out like operations, absent list items and numbers without a value become `null`, maps show
nothing of their entries, and an integer of unbounded size has no text.
-/

namespace ChatGateway.Json

/-- A value has no text. -/
structure NoText where
  deriving DecidableEq

/-- Four hexadecimal digits of a code unit. -/
def hex4 (n : Nat) : List Char :=
  let digits := Nat.toDigits 16 n
  List.replicate (4 - digits.length) '0' ++ digits

def quoteChar (c : Char) : List Char :=
  if c = '"' then ['\\', '"']
  else if c = '\\' then ['\\', '\\']
  else if c = '\n' then ['\\', 'n']
  else if c = '\r' then ['\\', 'r']
  else if c = '\t' then ['\\', 't']
  else if c.toNat = 8 then ['\\', 'b']
  else if c.toNat = 12 then ['\\', 'f']
  else if c.toNat < 32 then '\\' :: 'u' :: hex4 c.toNat
  else [c]

def quote (s : String) : String :=
  String.ofList ('"' :: s.toList.flatMap quoteChar ++ ['"'])

/-- The text of a number; only finite numbers have one of their own. -/
def numberText : Number → String
  | .finite q => (Number.finite q).text
  | _ => "null"

mutual

/-- The JSON text of a value, `none` for one that is left out. -/
def text? : Value → Except NoText (Option String)
  | .absent | .method _ => .ok none
  | .null => .ok (some "null")
  | .bool b => .ok (some (if b then "true" else "false"))
  | .number n => .ok (some (numberText n))
  | .integer _ => .error {}
  | .text s => .ok (some (quote s))
  | .list items => do
    return some ("[" ++ ",".intercalate (← itemTexts items) ++ "]")
  | .record fields => do
    return some ("\x7b" ++ ",".intercalate (← fieldTexts fields) ++ "\x7d")
  | .flags _ => .error {}
  | .map _ => .ok (some "\x7b\x7d")
  | .error _ _ _ own => do
    return some ("\x7b" ++ ",".intercalate (← fieldTexts own) ++ "\x7d")

/-- The texts of list items; an absent item is `null`. -/
def itemTexts : List Value → Except NoText (List String)
  | [] => .ok []
  | item :: rest => do
    let head ← text? item
    return head.getD "null" :: (← itemTexts rest)

/-- The texts of fields; an absent field is left out. -/
def fieldTexts : List (String × Value) → Except NoText (List String)
  | [] => .ok []
  | (name, value) :: rest => do
    match ← text? value with
    | some shown => return (quote name ++ ":" ++ shown) :: (← fieldTexts rest)
    | none => fieldTexts rest

end

end ChatGateway.Json
