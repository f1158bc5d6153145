import ChatGateway.Number.Shortest

/-!
The written form of a number: shortest digits, positional where the decimal point is near them
and scientific elsewhere.
-/

namespace ChatGateway.Number

/-- Where positional notation ends and scientific notation starts. -/
structure Layout where
  /-- Most digits before the point that are written out. -/
  wholeDigits : Int
  /-- Most zeros right after the point that are written out. -/
  leadingZeros : Int

/-- Whole numbers below `10 ^ 21` and fractions from `10 ^ -6` on are written positionally. -/
def layout : Layout := ⟨21, 5⟩

/-- Writes `digits` with the decimal point after the first `point` of them. -/
def Layout.write (l : Layout) (digits : String) (point : Int) : String :=
  let count : Int := digits.length
  let zeros (n : Int) : String := String.ofList (List.replicate n.toNat '0')
  if count ≤ point ∧ point ≤ l.wholeDigits then digits ++ zeros (point - count)
  else if 0 < point ∧ point ≤ l.wholeDigits then
    String.ofList (digits.toList.take point.toNat) ++ "." ++
      String.ofList (digits.toList.drop point.toNat)
  else if point ≤ 0 ∧ -point ≤ l.leadingZeros then "0." ++ zeros (-point) ++ digits
  else
    let exponent := point - 1
    let mantissa := match digits.toList with
      | [] => ""
      | [d] => String.ofList [d]
      | d :: rest => String.ofList (d :: '.' :: rest)
    mantissa ++ "e" ++ (if exponent < 0 then "-" else "+") ++ toString exponent.natAbs

/-- The text of a positive binary64 value. -/
def magnitudeText (q : Rat) : String :=
  let d := shortest q
  let digits := toString d.digits
  layout.write digits (digits.length + d.exponent)

def text : Number → String
  | .nan => "NaN"
  | .infinite negative => if negative then "-Infinity" else "Infinity"
  | .finite q =>
    if q = 0 then "0" else if q < 0 then "-" ++ magnitudeText (-q) else magnitudeText q

end ChatGateway.Number
