import Profiling.Proofs.Rounding

/-!
# Whole parts of doubles

The part of a double before the point is a double again, so cutting off what comes behind it and
keeping the rest as a word is done once and for all: the word goes to itself when it is made a
double and cut off again.
-/

namespace Profiling.Binary64

/-- A finite value has no more than 53 digits before its last zeros. -/
theorem exists_digits {x : Binary64} {negative : Bool} {size : Nat}
    (finite : x.kind = .finite negative size) :
    ∃ digits e, digits ≤ wholeLimit ∧ size = digits * 1 <<< e := by
  have fraction : x.bits.toNat % 1 <<< 52 < 1 <<< 52 := Nat.mod_lt _ (shift_pos 52)
  rw [kind] at finite
  split at finite
  · split at finite <;> cases finite
  · split at finite
    · obtain ⟨-, rfl⟩ := Kind.finite.inj finite
      refine ⟨_, 0, ?_, (Nat.mul_one _).symm⟩
      simp only [wholeLimit, Nat.reduceShiftLeft] at fraction ⊢
      omega
    · obtain ⟨-, rfl⟩ := Kind.finite.inj finite
      refine ⟨_, _, ?_, rfl⟩
      simp only [wholeLimit, Nat.reduceShiftLeft] at fraction ⊢
      omega

/-- The part before the point needs no rounding. -/
theorem nearest_whole {x : Binary64} {negative : Bool} {size : Nat}
    (finite : x.kind = .finite negative size) : nearest (size / one) = size / one := by
  obtain ⟨digits, e, few, rfl⟩ := exists_digits finite
  rcases Nat.le_total 1074 e with large | small
  · have units : 1 <<< e = 1 <<< (e - 1074) * one := by
      rw [one, ← shift_add, Nat.sub_add_cancel large]
    rw [units, ← Nat.mul_assoc, Nat.mul_div_cancel _ one_pos]
    exact nearest_shift few
  · have below : 1 <<< e ≤ one := Nat.le_of_dvd one_pos (shift_dvd small)
    apply nearest_of_small
    refine Nat.le_trans (Nat.div_le_of_le_mul ?_) few
    rw [Nat.mul_comm one]
    exact Nat.mul_le_mul_left digits below

theorem truncate_finite {x : Binary64} {negative : Bool} {size : Nat}
    (finite : x.kind = .finite negative size) :
    x.truncate = clamp (signedSize negative (size / one)) := by
  rw [truncate, finite]

theorem truncate_ofInt (v : Int64) : (ofInt v.toInt).truncate =
    clamp (signedSize (decide (v.toInt < 0)) (nearest v.toInt.natAbs)) := by
  have value : (ofInt v.toInt).kind =
      .finite (decide (v.toInt < 0)) (nearest v.toInt.natAbs * one) :=
    kind_ofInt_nearest (Nat.lt_trans (log2_word v) (by decide))
  rw [truncate_finite value, Nat.mul_div_cancel _ one_pos]

theorem truncate_ofInt_clamp {negative : Bool} {n : Nat} (whole : nearest n = n) :
    (ofInt (clamp (signedSize negative n)).toInt).truncate = clamp (signedSize negative n) := by
  have size : (signedSize negative n).natAbs = n := by cases negative <;> simp [signedSize]
  generalize signedSize negative n = v at size
  by_cases low : v < -9223372036854775808
  · rw [clamp, if_pos low]
    decide +kernel
  by_cases high : 9223372036854775808 ≤ v
  · rw [clamp, if_neg low, if_pos high]
    decide +kernel
  have word : (clamp v).toInt = v := by
    rw [toInt_clamp]
    omega
  have sign : signedSize (decide (v < 0)) n = v := by
    by_cases below : v < 0
    · simp only [signedSize, below, decide_true, if_true]
      omega
    · simp only [signedSize, below, decide_false, Bool.false_eq_true, if_false]
      omega
  rw [truncate_ofInt, word, size, whole, sign]

/-- A word that was cut off a double stays as it is. -/
theorem truncate_ofInt_truncate (x : Binary64) :
    (ofInt x.truncate.toInt).truncate = x.truncate := by
  cases found : x.kind with
  | nan =>
    have cut : x.truncate = 0 := by rw [truncate, found]
    rw [cut]
    decide +kernel
  | infinite negative =>
    have cut : x.truncate = if negative then Int64.minValue else Int64.maxValue := by
      rw [truncate, found]
    rw [cut]
    cases negative <;> decide +kernel
  | finite negative size =>
    rw [truncate_finite found]
    exact truncate_ofInt_clamp (nearest_whole found)

end Profiling.Binary64
