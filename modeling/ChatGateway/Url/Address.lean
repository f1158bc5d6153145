import ChatGateway.Cut
import ChatGateway.Digits

/-!
Numeric host addresses. Version 4 addresses are read in the generous old forms (up to four parts,
each decimal, octal or hexadecimal, the last filling what is left) and written with four decimal
octets. Version 6 addresses are written in lower case with their longest run of zeros left out.
-/

namespace ChatGateway.Url

def isRadix (radix : Nat) (text : List Char) : Bool :=
  text.all fun c => (Digits.hex? c).any (· < radix)

/-- One part of a version 4 address. A prefix tells its base. -/
def part4? (text : List Char) : Option Nat :=
  let read (radix : Nat) (digits : List Char) : Option Nat :=
    if isRadix radix digits then some (Digits.value radix digits) else none
  match text with
  | [] => none
  | '0' :: 'x' :: rest => read 16 rest
  | '0' :: 'X' :: rest => read 16 rest
  | '0' :: c :: rest => read 8 (c :: rest)
  | _ => read 10 text

/-- The parts of a host between dots, without the empty one after a final dot. -/
def dottedParts (host : List Char) : List (List Char) :=
  let parts := Cut.split (· == '.') host
  if 1 < parts.length && parts.getLast? == some [] then parts.dropLast else parts

/-- The host ends in a number, so that it has to be a version 4 address. -/
def endsInNumber (host : List Char) : Bool :=
  match (dottedParts host).getLast? with
  | some last => !last.isEmpty && (last.all Char.isDigit || (part4? last).isSome)
  | none => false

/-- Puts parts together: each but the last is one octet. -/
def join4? (acc : Nat) : List Nat → (octets : Nat) → Option Nat
  | [], _ => none
  | [last], octets =>
    if last < 1 <<< (8 * octets) then some (acc <<< (8 * octets) + last) else none
  | part :: rest, octets =>
    if part < 256 then join4? (acc * 256 + part) rest (octets - 1) else none

/-- The value of a version 4 address. -/
def address4? (host : List Char) : Option Nat := do
  let parts := dottedParts host
  if 4 < parts.length then none
  else join4? 0 (← parts.mapM part4?) 4

/-- The written form of a version 4 address. -/
def text4 (n : Nat) : String :=
  ".".intercalate ([n >>> 24, n >>> 16, n >>> 8, n].map fun octet => toString (octet % 256))

/-- A decimal octet without leading zeros. -/
def octet? (text : List Char) : Option Nat :=
  if text.isEmpty || !text.all Char.isDigit || (text.head? == some '0' && 1 < text.length) then none
  else
    let n := Digits.decimal text
    if n ≤ 255 then some n else none

/-- The two groups of a version 4 address at the end of a version 6 address. -/
def tail4? (text : List Char) : Option (List Nat) :=
  match (Cut.split (· == '.') text).mapM octet? with
  | some [a, b, c, d] => some [a * 256 + b, c * 256 + d]
  | _ => none

/-- One group of a version 6 address. -/
def group? (text : List Char) : Option Nat :=
  if text.isEmpty || 4 < text.length || !text.all Digits.isHex then none
  else some (Digits.value 16 text)

/-- The groups between colons; the last may be a version 4 address. -/
def groups? : List (List Char) → Option (List Nat)
  | [] => some []
  | [last] => ((group? last).map fun group => [group]) <|> tail4? last
  | part :: rest => do return (← group? part) :: (← groups? rest)

/-- The groups of a text; an empty text has none. -/
def groupsOf? (text : List Char) : Option (List Nat) :=
  if text.isEmpty then some [] else groups? (Cut.split (· == ':') text)

/-- The eight groups of a version 6 address. A double colon stands for one zero group or more. -/
def address6? (text : List Char) : Option (List Nat) := do
  match Cut.doubleColon text with
  | none =>
    let groups ← groupsOf? text
    if groups.length = 8 then some groups else none
  | some (before, after) =>
    let left ← if before.isEmpty then some [] else (Cut.split (· == ':') before).mapM group?
    let right ← groupsOf? after
    if left.length + right.length ≤ 7 then
      some (left ++ List.replicate (8 - left.length - right.length) 0 ++ right)
    else none

/-- The lengths of the runs of zeros that start at each place. -/
def zeroRuns : List Nat → List Nat
  | [] => []
  | group :: rest =>
    let after := zeroRuns rest
    (if group = 0 then after.headD 0 + 1 else 0) :: after

/-- The place and length of the first longest run of at least two zeros. -/
def longestZeros? (groups : List Nat) : Option (Nat × Nat) :=
  let runs := zeroRuns groups
  let longest := runs.foldl max 0
  if longest < 2 then none
  else (runs.idxOf? longest).map fun place => (place, longest)

def groupsText (groups : List Nat) : String :=
  ":".intercalate (groups.map fun group => String.ofList (Digits.toHex group))

/-- The written form of a version 6 address. -/
def text6 (groups : List Nat) : String :=
  match longestZeros? groups with
  | none => groupsText groups
  | some (place, length) =>
    groupsText (groups.take place) ++ "::" ++ groupsText (groups.drop (place + length))

end ChatGateway.Url
