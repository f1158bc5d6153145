/-!
The values of digits.
-/

namespace ChatGateway.Digits

def hex? (c : Char) : Option Nat :=
  if c.isDigit then some (c.toNat - 48)
  else if 'a' ≤ c ∧ c ≤ 'f' then some (c.toNat - 87)
  else if 'A' ≤ c ∧ c ≤ 'F' then some (c.toNat - 55)
  else none

def isHex (c : Char) : Bool :=
  (hex? c).isSome

/-- The value of a run of digits in base `radix`, the most significant first. What is no digit
counts as zero. -/
def value (radix : Nat) (digits : List Char) : Nat :=
  digits.foldl (fun acc d => acc * radix + (hex? d).getD 0) 0

/-- The value of a run of decimal digits. -/
def decimal (digits : List Char) : Nat :=
  value 10 digits

/-- The hexadecimal digits of a number, in lower case. -/
def toHex (n : Nat) : List Char :=
  Nat.toDigits 16 n

end ChatGateway.Digits
