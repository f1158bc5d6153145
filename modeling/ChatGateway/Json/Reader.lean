import ChatGateway.Digits
import ChatGateway.Value

/-!
Reading JSON text. Numbers become the nearest binary64 value, fields are put in listing order, and
a text that is not JSON is refused with the place where reading stopped.
-/

namespace ChatGateway.Json

/-- Why a text is not JSON; `rest` is what was left to read. -/
inductive ReadError where
  | unexpectedEnd
  | unexpected (rest : List Char)
  | minusWithoutDigits (rest : List Char)

/-- The failure at the start of `rest`. -/
def ReadError.here (rest : List Char) : ReadError :=
  if rest.isEmpty then .unexpectedEnd else .unexpected rest

def isBlank (c : Char) : Bool :=
  c == ' ' || c == '\n' || c == '\r' || c == '\t'

def skipBlanks (cs : List Char) : List Char :=
  cs.dropWhile isBlank

/-- The code unit that four hexadecimal digits stand for. -/
def unit? (a b c d : Char) : Option Nat := do
  let a ← Digits.hex? a
  let b ← Digits.hex? b
  let c ← Digits.hex? c
  let d ← Digits.hex? d
  return ((a * 16 + b) * 16 + c) * 16 + d

/-- The text of a list of code units and code points. Two surrogates in a row stand for one
character; one that stands alone is replaced. -/
def joinUnits : List Nat → List Char
  | [] => []
  | [unit] => [single unit]
  | high :: low :: rest =>
    if 0xD800 ≤ high ∧ high < 0xDC00 ∧ 0xDC00 ≤ low ∧ low < 0xE000 then
      Char.ofNat (0x10000 + (high - 0xD800) * 0x400 + (low - 0xDC00)) :: joinUnits rest
    else single high :: joinUnits (low :: rest)
where
  single (unit : Nat) : Char :=
    if unit.isValidChar then Char.ofNat unit else '\uFFFD'

/-- The character that an escape letter stands for. -/
def escaped? (c : Char) : Option Char :=
  match c with
  | '"' => some '"'
  | '\\' => some '\\'
  | '/' => some '/'
  | 'b' => some '\x08'
  | 'f' => some '\x0c'
  | 'n' => some '\n'
  | 'r' => some '\r'
  | 't' => some '\t'
  | _ => none

/-- Reads a quoted text after its opening quote. `units` holds what was read, last first. -/
def readQuoted : List Char → (units : List Nat) → Except ReadError (String × List Char)
  | [], _ => .error .unexpectedEnd
  | '"' :: rest, units => .ok (String.ofList (joinUnits units.reverse), rest)
  | '\\' :: 'u' :: a :: b :: c :: d :: rest, units =>
    match unit? a b c d with
    | some unit => readQuoted rest (unit :: units)
    | none => .error (.unexpected (a :: b :: c :: d :: rest))
  | '\\' :: c :: rest, units =>
    match escaped? c with
    | some e => readQuoted rest (e.toNat :: units)
    | none => .error (.unexpected (c :: rest))
  | c :: rest, units =>
    if c.toNat < 32 then .error (.unexpected (c :: rest)) else readQuoted rest (c.toNat :: units)

/-- A run of digits, at least one, from the front. -/
def readDigits (cs : List Char) : Except ReadError (List Char × List Char) :=
  match cs.takeWhile Char.isDigit with
  | [] => .error (.here cs)
  | digits => .ok (digits, cs.dropWhile Char.isDigit)

/-- The digits before the point: no zero in front of others. -/
def readWhole (cs : List Char) : Except ReadError (List Char × List Char) :=
  match cs with
  | '0' :: rest => .ok (['0'], rest)
  | _ => readDigits cs

def readFraction (cs : List Char) : Except ReadError (List Char × List Char) :=
  match cs with
  | '.' :: rest => readDigits rest
  | _ => .ok ([], cs)

def readExponent (cs : List Char) : Except ReadError (Int × List Char) :=
  match cs with
  | c :: rest =>
    if c = 'e' ∨ c = 'E' then do
      let (negative, rest) := match rest with
        | '-' :: after => (true, after)
        | '+' :: after => (false, after)
        | _ => (false, rest)
      let (digits, rest) ← readDigits rest
      let n : Int := Digits.decimal digits
      return (if negative then -n else n, rest)
    else .ok (0, cs)
  | [] => .ok (0, cs)

def readNumber (cs : List Char) : Except ReadError (Number × List Char) := do
  let (negative, unsigned) := match cs with
    | '-' :: rest => (true, rest)
    | _ => (false, cs)
  if negative && !(unsigned.head?.map Char.isDigit).getD false then
    throw (.minusWithoutDigits unsigned)
  let (whole, rest) ← readWhole unsigned
  let (fraction, rest) ← readFraction rest
  let (exponent, rest) ← readExponent rest
  let digits := Digits.decimal (whole ++ fraction)
  return (.nearestDecimal negative digits (exponent - fraction.length), rest)

/-- Takes the letters of `word` from the front. -/
def readWord (word : List Char) (value : Value) (cs : List Char) :
    Except ReadError (Value × List Char) :=
  match word, cs with
  | [], _ => .ok (value, cs)
  | w :: word, c :: rest => if w = c then readWord word value rest else .error (.unexpected cs)
  | _ :: _, [] => .error .unexpectedEnd

mutual

def readValue : (fuel : Nat) → List Char → Except ReadError (Value × List Char)
  | 0, _ => .error .unexpectedEnd
  | fuel + 1, cs =>
    match skipBlanks cs with
    | [] => .error .unexpectedEnd
    | '"' :: rest => do
      let (s, rest) ← readQuoted rest []
      return (.text s, rest)
    | '[' :: rest =>
      match skipBlanks rest with
      | ']' :: after => .ok (.list [], after)
      | _ => do
        let (items, after) ← readItems fuel rest
        return (.list items, after)
    | '\x7b' :: rest =>
      match skipBlanks rest with
      | '\x7d' :: after => .ok (.record [], after)
      | _ => do
        let (fields, after) ← readFields fuel rest
        return (.record (Fields.listed fields), after)
    | c :: rest =>
      if c = '-' ∨ c.isDigit then do
        let (n, after) ← readNumber (c :: rest)
        return (.number n, after)
      else if c = 't' then readWord "true".toList (.bool true) (c :: rest)
      else if c = 'f' then readWord "false".toList (.bool false) (c :: rest)
      else if c = 'n' then readWord "null".toList .null (c :: rest)
      else .error (.unexpected (c :: rest))

/-- Reads list items up to the closing bracket. -/
def readItems : (fuel : Nat) → List Char → Except ReadError (List Value × List Char)
  | 0, _ => .error .unexpectedEnd
  | fuel + 1, cs => do
    let (item, rest) ← readValue fuel cs
    match skipBlanks rest with
    | ',' :: after =>
      let (items, after) ← readItems fuel after
      return (item :: items, after)
    | ']' :: after => return (([item] : List Value), after)
    | other => throw (.here other)

/-- Reads fields up to the closing brace. -/
def readFields : (fuel : Nat) → List Char → Except ReadError (List (String × Value) × List Char)
  | 0, _ => .error .unexpectedEnd
  | fuel + 1, cs =>
    match skipBlanks cs with
    | '"' :: rest => do
      let (name, rest) ← readQuoted rest []
      match skipBlanks rest with
      | ':' :: rest =>
        let (value, rest) ← readValue fuel rest
        match skipBlanks rest with
        | ',' :: after =>
          let (fields, after) ← readFields fuel after
          return ((name, value) :: fields, after)
        | '\x7d' :: after => return (([(name, value)] : List (String × Value)), after)
        | other => throw (.here other)
      | other => throw (.here other)
    | other => .error (.here other)

end

def read (text : String) : Except ReadError Value := do
  let cs := text.toList
  let (value, rest) ← readValue (2 * cs.length + 2) cs
  match skipBlanks rest with
  | [] => return value
  | other => throw (.unexpected other)

end ChatGateway.Json
