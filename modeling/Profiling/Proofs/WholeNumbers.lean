import Profiling.Proofs.Rounding

/-!
# Whole numbers among the doubles

Whole numbers up to `2 ^ 53` are values, so a product of two of them that stays within that
limit is found without rounding.
-/

namespace Profiling.Binary64

theorem log2_of_small {n : Nat} (small : n ≤ wholeLimit) : n.log2 < 1023 := by
  by_cases zero : n = 0
  · simp [zero]
  · have digits : n.log2 < 54 := by
      rw [Nat.log2_lt zero]
      exact Nat.lt_of_le_of_lt small (by decide)
    omega

/-- Whole numbers need no rounding. -/
theorem kind_round (negative : Bool) {n den : Nat} (small : n ≤ wholeLimit) (positive : 0 < den) :
    (round negative (n * one * den) den).kind = .finite negative (n * one) := by
  rw [kind_round_nearest negative (log2_of_small small) positive, nearest_of_small small]

theorem kind_ofInt {v : Int} (small : v.natAbs ≤ wholeLimit) :
    (ofInt v).kind = .finite (decide (v < 0)) (v.natAbs * one) := by
  have := kind_round (decide (v < 0)) small Nat.one_pos
  rwa [Nat.mul_one] at this

theorem kind_ofNat {n : Nat} (small : n ≤ wholeLimit) :
    (ofNat n).kind = .finite false (n * one) := by
  have size : (n : Int).natAbs = n := Int.natAbs_natCast n
  have whole := kind_ofInt (v := n) (size.symm ▸ small)
  rwa [size, decide_eq_false (Int.not_lt.mpr (Int.natCast_nonneg n))] at whole

theorem roundAway_whole {x : Binary64} {negative : Bool} {n : Nat} (small : n ≤ wholeLimit)
    (whole : x.kind = .finite negative (n * one)) :
    x.roundAway = Int64.ofInt (signedSize negative n) := by
  simp only [wholeLimit, Nat.reduceShiftLeft] at small
  rw [roundAway_finite whole, clamp, if_neg, if_neg]
  · cases negative <;> simp only [signedSize] <;> omega
  · cases negative <;> simp only [signedSize] <;> omega

/-- Multiplying by a whole number is exact as long as the product is small. -/
theorem scaleWord_ofNat {v : Int64} {n : Nat} (positive : 0 < n) (bounded : n ≤ wholeLimit)
    (small : (v.toInt * n).natAbs ≤ wholeLimit) :
    scaleWord (ofNat n) v = Int64.ofInt (v.toInt * n) := by
  have product : v.toInt.natAbs * n ≤ wholeLimit := by
    rwa [Int.natAbs_mul, Int.natAbs_natCast] at small
  have value : (ofInt v.toInt).kind = .finite (decide (v.toInt < 0)) (v.toInt.natAbs * one) :=
    kind_ofInt (Nat.le_trans (Nat.le_mul_of_pos_right _ positive) product)
  have whole : ((ofInt v.toInt).mul (ofNat n)).kind =
      .finite (decide (v.toInt < 0)) (v.toInt.natAbs * n * one) := by
    have sizes : v.toInt.natAbs * one * (n * one) = v.toInt.natAbs * n * one * one := by
      rw [Nat.mul_mul_mul_comm, ← Nat.mul_assoc]
    rw [mul_finite value (kind_ofNat bounded), Bool.bne_false, sizes]
    exact kind_round _ product one_pos
  rw [scaleWord, roundAway_whole product whole]
  congr 1
  by_cases negative : v.toInt < 0
  · have size : (v.toInt.natAbs : Int) = -v.toInt := by omega
    simp only [signedSize, negative, decide_true, if_true, Int.natCast_mul, size, Int.neg_mul,
      Int.neg_neg]
  · have size : (v.toInt.natAbs : Int) = v.toInt := by omega
    simp [signedSize, negative, size]

end Profiling.Binary64
