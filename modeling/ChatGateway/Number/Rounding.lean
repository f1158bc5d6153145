import ChatGateway.Number

/-!
Rounding a rational to the binary64 format: 53 significant bits, exponents down to `2 ^ -1074`,
nothing from `2 ^ 1024` on. A half goes to the even neighbour.
-/

namespace ChatGateway.Number

/-- The quotient rounded to the nearest natural number, a half to the even neighbour. -/
def roundHalfEven (num den : Nat) : Nat :=
  let quotient := num / den
  let twice := 2 * (num % den)
  if twice < den then quotient
  else if den < twice then quotient + 1
  else if quotient % 2 = 0 then quotient else quotient + 1

/-- The largest `e` with `2 ^ e ≤ num / den`, for positive arguments. -/
def binaryExponent (num den : Nat) : Int :=
  let estimate := (num.log2 : Int) - den.log2
  let reached :=
    if estimate < 0 then den ≤ num <<< (-estimate).toNat
    else den <<< estimate.toNat ≤ num
  if reached then estimate else estimate - 1

/-- `m * base ^ e` as a rational. -/
def scaled (base m : Nat) (e : Int) : Rat :=
  if e < 0 then mkRat m (base.pow (-e).toNat) else (m * base.pow e.toNat : Nat)

/-- The exponent of the last place that a positive `num / den` keeps in binary64. -/
def lastPlace (num den : Nat) : Int :=
  max (binaryExponent num den - 52) (-1074)

/-- The significand that `num / den` rounds to when its last place is `2 ^ e`. -/
def significand (num den : Nat) (e : Int) : Nat :=
  if e < 0 then roundHalfEven (num <<< (-e).toNat) den
  else roundHalfEven num (den <<< e.toNat)

/-- The nearest binary64 value of `num / den`, or `none` where that is out of range. -/
def nearestMagnitude (num den : Nat) : Option Rat :=
  if num = 0 then some 0
  else
    let e := lastPlace num den
    let value := scaled 2 (significand num den e) e
    if value < (1 <<< 1024 : Nat) then some value else none

/-- The binary64 number nearest to `q`; magnitudes out of range become infinite. -/
def nearest (q : Rat) : Number :=
  match nearestMagnitude q.num.natAbs q.den with
  | some magnitude => .finite (if q < 0 then -magnitude else magnitude)
  | none => .infinite (q < 0)

/-- The binary64 number nearest to the whole number `n`. -/
def nearestInt (n : Int) : Number := nearest n

/-- The binary64 number nearest to `digits * 10 ^ exponent`, negated on request. Exponents far
outside the range of the format are settled without computing the power. -/
def nearestDecimal (negative : Bool) (digits : Nat) (exponent : Int) : Number :=
  let size := (Nat.toDigits 10 digits).length + exponent
  if digits = 0 then 0
  else if 400 < size then .infinite negative
  else if size < -400 then 0
  else
    let magnitude := scaled 10 digits exponent
    nearest (if negative then -magnitude else magnitude)

end ChatGateway.Number
