import ChatGateway.Number.Rounding
import Mathlib.Tactic.NormNum
import Mathlib.Tactic.Positivity
import Mathlib.Data.Rat.Cast.Order
import Mathlib.Algebra.Order.Field.Rat

/-! Natural numbers on the wire. Those within the safe limit are exactly the numbers that read as a
count. Rounding leaves them as they are and takes no other whole number to one of them. -/
namespace ChatGateway.Number

theorem integer?_ofNat (n : Nat) : (ofNat n).integer? = some (n : Int) := by
  simp [ofNat, integer?]

@[simp]
theorem count?_ofNat {n : Nat} (h : n ≤ safeLimit) : (ofNat n).count? = some n := by
  simp only [count?, integer?_ofNat]
  exact if_pos h

/-- A number reads as the count `k` only if it is `k`, and `k` is safe. -/
theorem count?_eq_some_iff {n : Number} {k : Nat} :
    n.count? = some k ↔ n = ofNat k ∧ k ≤ safeLimit := by
  constructor
  · intro h
    unfold count? at h
    split at h
    · rename_i m whole
      have same := eq_ofInt_of_integer? whole
      split at h
      · rename_i safe
        obtain rfl := Option.some.inj h
        exact ⟨same, safe⟩
      · contradiction
    · contradiction
  · rintro ⟨rfl, safe⟩
    exact count?_ofNat safe

theorem roundHalfEven_one (n : Nat) : roundHalfEven n 1 = n := by
  simp [roundHalfEven, Nat.mod_one]

theorem binaryExponent_one {n : Nat} (positive : n ≠ 0) :
    binaryExponent n 1 = (n.log2 : Int) := by
  have reached : 2 ^ n.log2 ≤ n := Nat.log2_self_le positive
  have one : Nat.log2 1 = 0 := by decide
  simp [binaryExponent, one, Nat.shiftLeft_eq, reached]

/-- A whole number with at most 53 bits is its own significand, up to the shift by its last
place. -/
theorem scaled_significand_one {n : Nat} (positive : n ≠ 0) (small : n < 2 ^ 53) :
    scaled 2 (significand n 1 (lastPlace n 1)) (lastPlace n 1) = n := by
  have bits : n.log2 < 53 := (Nat.log2_lt positive).mpr small
  have place : lastPlace n 1 = (n.log2 : Int) - 52 := by
    rw [lastPlace, binaryExponent_one positive]
    omega
  rw [place]
  by_cases full : n.log2 = 52
  · simp [full, significand, roundHalfEven_one, scaled]
  · have below : (n.log2 : Int) - 52 < 0 := by omega
    obtain ⟨k, shift⟩ : ∃ k : Nat, -((n.log2 : Int) - 52) = k :=
      ⟨52 - n.log2, by omega⟩
    simp only [significand, scaled, if_pos below, shift, Int.toNat_natCast, roundHalfEven_one,
      Nat.shiftLeft_eq]
    rw [Nat.pow_eq, Rat.mkRat_eq_div]
    push_cast
    exact mul_div_cancel_right₀ _ (by positivity)

theorem nearestMagnitude_one {n : Nat} (small : n < 2 ^ 53) :
    nearestMagnitude n 1 = some (n : Rat) := by
  by_cases zero : n = 0
  · simp [nearestMagnitude, zero]
  · simp only [nearestMagnitude, if_neg zero, scaled_significand_one zero small]
    rw [if_pos]
    have bound (k : Nat) (large : 53 ≤ k) : n < 1 <<< k := by
      rw [Nat.shiftLeft_eq, Nat.one_mul]
      exact lt_of_lt_of_le small (Nat.pow_le_pow_right (by decide) large)
    exact_mod_cast bound 1024 (by decide)

/-- Whole numbers within the safe limit are exact in transit, whatever their sign. -/
theorem nearestInt_of_safe {n : Int} (safe : n.natAbs ≤ safeLimit) : nearestInt n = ofInt n := by
  have small : n.natAbs < 2 ^ 53 := by
    unfold safeLimit at safe
    omega
  simp only [nearestInt, nearest, Rat.num_intCast, Rat.den_intCast, nearestMagnitude_one small]
  rw [ofInt, Number.finite.injEq]
  split
  · rename_i negative
    have sign : (n.natAbs : Int) = -n := Int.ofNat_natAbs_of_nonpos (by exact_mod_cast negative.le)
    rw [← Int.cast_natCast, sign, Int.cast_neg, neg_neg]
  · rename_i natural
    have sign : (n.natAbs : Int) = n := Int.natAbs_of_nonneg (by exact_mod_cast not_lt.mp natural)
    rw [← Int.cast_natCast, sign]

theorem nearestInt_ofNat {n : Nat} (safe : n ≤ safeLimit) : nearestInt (n : Int) = ofNat n := by
  rw [nearestInt_of_safe (by simpa using safe), ofInt, ofNat, Int.cast_natCast]

/-! ### Beyond the safe limit -/

theorem le_roundHalfEven (num den : Nat) : num / den ≤ roundHalfEven num den := by
  simp only [roundHalfEven]
  split
  · exact le_rfl
  · split
    · exact Nat.le_succ _
    · split
      · exact le_rfl
      · exact Nat.le_succ _

/-- A whole number with more than 53 bits keeps at least 53 of them, so that rounding does not take
it below the first number that is not safe. -/
theorem le_scaled_significand_one {n : Nat} (large : 2 ^ 53 ≤ n) :
    (2 ^ 53 : Rat) ≤ scaled 2 (significand n 1 (lastPlace n 1)) (lastPlace n 1) := by
  have positive : n ≠ 0 := by omega
  have bits : 53 ≤ n.log2 := (Nat.le_log2 positive).mpr large
  obtain ⟨k, size⟩ : ∃ k, n.log2 = k + 53 := ⟨n.log2 - 53, by omega⟩
  have place : lastPlace n 1 = ((k + 1 : Nat) : Int) := by
    rw [lastPlace, binaryExponent_one positive]
    omega
  have kept : 2 ^ 52 ≤ n / 2 ^ (k + 1) := by
    rw [Nat.le_div_iff_mul_le (by positivity), ← Nat.pow_add]
    calc
      2 ^ (52 + (k + 1)) = 2 ^ n.log2 := by rw [size]; congr 1; omega
      _ ≤ n := Nat.log2_self_le positive
  have whole : 2 ^ 53 ≤ significand n 1 (lastPlace n 1) * 2 ^ (k + 1) := by
    rw [place, significand, if_neg (by omega), Int.toNat_natCast, Nat.shiftLeft_eq, Nat.one_mul]
    calc
      2 ^ 53 = 2 ^ 52 * 2 ^ 1 := by rw [← Nat.pow_add]
      _ ≤ roundHalfEven n (2 ^ (k + 1)) * 2 ^ (k + 1) :=
        Nat.mul_le_mul (kept.trans (le_roundHalfEven _ _))
          (Nat.pow_le_pow_right (by decide) (by omega))
  rw [place] at whole ⊢
  rw [scaled, if_neg (by omega), Int.toNat_natCast]
  exact_mod_cast whole

theorem le_nearestMagnitude_one {n : Nat} (large : 2 ^ 53 ≤ n) {magnitude : Rat}
    (near : nearestMagnitude n 1 = some magnitude) : (2 ^ 53 : Rat) ≤ magnitude := by
  have positive : n ≠ 0 := by omega
  simp only [nearestMagnitude, if_neg positive, Option.ite_none_right_eq_some,
    Option.some.injEq] at near
  obtain ⟨_, rfl⟩ := near
  exact le_scaled_significand_one large

/-- Rounding takes no whole number to zero but zero itself. -/
theorem nearestMagnitude_one_pos {n : Nat} (positive : n ≠ 0) {magnitude : Rat}
    (near : nearestMagnitude n 1 = some magnitude) : 0 < magnitude := by
  by_cases small : n < 2 ^ 53
  · obtain rfl := Option.some.inj ((nearestMagnitude_one small).symm.trans near)
    exact_mod_cast Nat.pos_of_ne_zero positive
  · exact lt_of_lt_of_le (by positivity) (le_nearestMagnitude_one (not_lt.mp small) near)

/-- A whole number that is not a safe natural one is not rounded to a safe natural one either. -/
theorem count?_nearestInt_of_unsafe {n : Int} (outside : ¬ (0 ≤ n ∧ n ≤ safeLimit)) :
    (nearestInt n).count? = none := by
  rw [Option.eq_none_iff_forall_ne_some]
  intro k counted
  obtain ⟨same, safe⟩ := count?_eq_some_iff.mp counted
  simp only [nearestInt, nearest, Rat.num_intCast, Rat.den_intCast] at same
  split at same
  · rename_i magnitude near
    have value := Number.finite.inj same
    by_cases negative : n < 0
    · have positive := nearestMagnitude_one_pos (by omega) near
      rw [if_pos (by exact_mod_cast negative)] at value
      have natural : (0 : Rat) ≤ k := Nat.cast_nonneg k
      exact absurd value (ne_of_lt (lt_of_lt_of_le (neg_neg_of_pos positive) natural))
    · have large : 2 ^ 53 ≤ n.natAbs := by
        unfold safeLimit at outside
        omega
      have reached := le_nearestMagnitude_one large near
      rw [if_neg (by exact_mod_cast negative)] at value
      rw [value] at reached
      have reached : 2 ^ 53 ≤ k := by exact_mod_cast reached
      unfold safeLimit at safe
      omega
  · contradiction

end ChatGateway.Number
