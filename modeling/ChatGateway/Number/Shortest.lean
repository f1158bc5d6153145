import ChatGateway.Number.Rounding

/-!
The shortest decimal that reads back as a given binary64 value: of all decimals that round to the
value, one with the fewest digits, and of those the nearest.
-/

namespace ChatGateway.Number

/-- A positive decimal `digits * 10 ^ exponent`. -/
structure Decimal where
  digits : Nat
  exponent : Int
  deriving DecidableEq, Repr

namespace Decimal

/-- The rational that a decimal stands for. -/
def value (d : Decimal) : Rat :=
  scaled 10 d.digits d.exponent

def readsBack (q : Rat) (d : Decimal) : Bool :=
  nearest d.value == .finite q

/-- Drops trailing zeros of the digits; `fuel` bounds their number. -/
def trimZeros : Nat → Decimal → Decimal
  | 0, d => d
  | fuel + 1, d =>
    if d.digits ≠ 0 ∧ d.digits % 10 = 0 then trimZeros fuel ⟨d.digits / 10, d.exponent + 1⟩ else d

end Decimal

/-- The number of decimal digits before the point of a positive `q`, zero or negative below one:
the `n` with `10 ^ (n - 1) ≤ q < 10 ^ n`. -/
def decimalPoint (q : Rat) : Int :=
  let estimate := ((Nat.toDigits 10 q.num.natAbs).length : Int) - (Nat.toDigits 10 q.den).length
  if q < Decimal.value ⟨1, estimate⟩ then estimate else estimate + 1

/-- The two decimals around `q` on the grid with step `10 ^ exponent`, the nearer one first; of
two that are as near, the one with even digits. -/
def neighbours (q : Rat) (exponent : Int) : List Decimal :=
  let steps := q / Decimal.value ⟨1, exponent⟩
  let below := steps.floor.toNat
  let twice := 2 * (steps - below)
  if twice < 1 ∨ twice = 1 ∧ below % 2 = 0 then [⟨below, exponent⟩, ⟨below + 1, exponent⟩]
  else [⟨below + 1, exponent⟩, ⟨below, exponent⟩]

/-- Looks for a decimal that reads back as `q` on ever finer grids, `places` at most. -/
def searchShortest (q : Rat) : (places : Nat) → (exponent : Int) → Option Decimal
  | 0, _ => none
  | places + 1, exponent =>
    match (neighbours q exponent).find? (Decimal.readsBack q) with
    | some d => some d
    | none => searchShortest q places (exponent - 1)

/-- The shortest decimal that reads back as the positive binary64 value `q`. Seventeen digits
are always enough. -/
def shortest (q : Rat) : Decimal :=
  match searchShortest q 17 (decimalPoint q - 1) with
  | some d => d.trimZeros 20
  | none => ⟨q.floor.toNat, 0⟩

end ChatGateway.Number
