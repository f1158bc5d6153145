/-!
Wire numbers. A number is an exact rational, one of the two infinities, or not a number at all;
zero has a single form. Rounding to the values a peer can hold is in `ChatGateway.Number.Rounding`,
the written form in `ChatGateway.Number.Text`.
-/

namespace ChatGateway

/-- A number as the wire carries it. -/
inductive Number where
  | nan
  | infinite (negative : Bool)
  | finite (value : Rat)
  deriving DecidableEq, Inhabited

namespace Number

instance (n : Nat) : OfNat Number n := ⟨.finite n⟩

def ofInt (n : Int) : Number := .finite n

def ofNat (n : Nat) : Number := .finite (n : Rat)

/-- The largest magnitude up to which every whole number is exact in transit: `2 ^ 53 - 1`. -/
def safeLimit : Nat := 9007199254740991

/-- The whole number that `n` is, if it is one. -/
def integer? : Number → Option Int
  | .finite q => if q.den = 1 then some q.num else none
  | _ => none

/-- The natural number that `n` is, if it is one and within the safe limit. -/
def count? (n : Number) : Option Nat :=
  match n.integer? with
  | some (.ofNat k) => if k ≤ safeLimit then some k else none
  | _ => none

@[simp]
theorem integer?_ofInt (n : Int) : (ofInt n).integer? = some n := by
  simp [ofInt, integer?]

theorem eq_ofInt_of_integer? {n : Number} {k : Int} (h : n.integer? = some k) : n = ofInt k := by
  cases n with
  | finite q =>
    simp only [integer?, Option.ite_none_right_eq_some, Option.some.injEq] at h
    obtain ⟨den, rfl⟩ := h
    rw [ofInt, Number.finite.injEq]
    exact Rat.ext rfl den
  | _ => simp [integer?] at h

end Number
end ChatGateway
