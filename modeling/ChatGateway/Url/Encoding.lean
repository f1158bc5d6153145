import ChatGateway.Digits

/-!
Percent encoding: a character that a component may not hold is written as the bytes of its UTF-8
form, each a percent sign and two hexadecimal digits.
-/

namespace ChatGateway.Url

/-- The characters that every component encodes: controls and all that is not ASCII. -/
def encodesControl (c : Char) : Bool :=
  c.toNat < 0x20 || 0x7E < c.toNat

def encodesFragment (c : Char) : Bool :=
  encodesControl c || " \"<>`".toList.contains c

def encodesQuery (c : Char) : Bool :=
  encodesControl c || " \"#<>".toList.contains c

def encodesSpecialQuery (c : Char) : Bool :=
  encodesQuery c || c == '\''

def encodesPath (c : Char) : Bool :=
  encodesQuery c || "?`\x7b\x7d".toList.contains c

def encodesUser (c : Char) : Bool :=
  encodesPath c || "/:;=@[\\]^|".toList.contains c

/-- Two hexadecimal digits of a byte, in capitals. -/
def hexByte (byte : UInt8) : List Char :=
  let digit (n : Nat) : Char := if n < 10 then Char.ofNat (48 + n) else Char.ofNat (55 + n)
  [digit (byte.toNat / 16), digit (byte.toNat % 16)]

def encodeChar (c : Char) : List Char :=
  (String.utf8EncodeChar c).flatMap fun byte => '%' :: hexByte byte

/-- A text with the characters of `encodes` encoded. -/
def percentEncode (encodes : Char → Bool) (text : List Char) : List Char :=
  text.flatMap fun c => if encodes c then encodeChar c else [c]

/-- The bytes of a text in which a percent sign and two hexadecimal digits stand for one byte. -/
def percentDecode : List Char → List UInt8
  | '%' :: a :: b :: rest =>
    match Digits.hex? a, Digits.hex? b with
    | some high, some low => UInt8.ofNat (high * 16 + low) :: percentDecode rest
    | _, _ => '%'.toUInt8 :: percentDecode (a :: b :: rest)
  | c :: rest => String.utf8EncodeChar c ++ percentDecode rest
  | [] => []

end ChatGateway.Url
