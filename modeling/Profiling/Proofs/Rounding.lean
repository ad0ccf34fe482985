import Profiling.Profile.Scale

/-!
# Rounding whole numbers to doubles

A whole number goes to the nearest one that has 53 binary digits and zeros behind them. Doing so
a second time changes nothing, so that a whole number and its product with one are rounded alike.
-/

namespace Profiling.Binary64

def wholeLimit : Nat := 1 <<< 53

/-- A whole number rounded to its first 53 binary digits, a tie going to the even neighbour. -/
def nearest (n : Nat) : Nat :=
  divToEven n (1 <<< (n.log2 - 52)) * 1 <<< (n.log2 - 52)

theorem one_pos : 0 < one :=
  Nat.lt_of_lt_of_eq (Nat.two_pow_pos 1074) (Nat.one_shiftLeft 1074).symm

theorem shift_pos (e : Nat) : 0 < 1 <<< e :=
  Nat.lt_of_lt_of_eq (Nat.two_pow_pos e) (Nat.one_shiftLeft e).symm

theorem shift_add (d e : Nat) : 1 <<< (d + e) = 1 <<< d * 1 <<< e := by
  simp only [Nat.one_shiftLeft, Nat.pow_add]

theorem shift_dvd {d e : Nat} (le : d ≤ e) : 1 <<< d ∣ 1 <<< e := by
  rw [Nat.one_shiftLeft, Nat.one_shiftLeft]
  exact Nat.pow_dvd_pow 2 le

theorem log2_mul_shift {n e : Nat} (positive : n ≠ 0) : (n * 1 <<< e).log2 = n.log2 + e := by
  have nonzero : n * 1 <<< e ≠ 0 := Nat.mul_ne_zero positive (Nat.ne_of_gt (shift_pos e))
  rw [Nat.log2_eq_iff nonzero, Nat.one_shiftLeft, Nat.add_right_comm, Nat.pow_add, Nat.pow_add]
  exact ⟨Nat.mul_le_mul_right _ (Nat.log2_self_le positive),
    Nat.mul_lt_mul_of_pos_right Nat.lt_log2_self (Nat.two_pow_pos e)⟩

theorem divToEven_mul {a b : Nat} (positive : 0 < b) : divToEven (a * b) b = a := by
  have remainder : a * b % b = 0 := Nat.mul_mod_left a b
  simp [divToEven, remainder, positive, Nat.mul_div_cancel a positive]

theorem divToEven_mul_mul (a b : Nat) {c : Nat} (positive : 0 < c) :
    divToEven (a * c) (b * c) = divToEven a b := by
  have below : ∀ x y : Nat, x * c < y * c ↔ x < y := fun x y => Nat.mul_lt_mul_right positive
  simp only [divToEven, Nat.mul_div_mul_right _ _ positive, Nat.mul_mod_mul_right,
    ← Nat.mul_assoc, below]

/-- A quotient stays between whole numbers. -/
theorem divToEven_bounds {a b low high : Nat} (least : low * b ≤ a) (most : a < high * b) :
    low ≤ divToEven a b ∧ divToEven a b ≤ high := by
  have positive : 0 < b := Nat.pos_of_ne_zero fun zero => by simp [zero] at most
  have floor : low ≤ a / b := (Nat.le_div_iff_mul_le positive).mpr least
  have ceiling : a / b < high := (Nat.div_lt_iff_lt_mul positive).mpr most
  have parity : a / b % 2 < 2 := Nat.mod_lt _ (by decide)
  simp only [divToEven]
  split
  · omega
  · split
    · omega
    · omega

/-- What has 53 digits is left alone. -/
theorem nearest_shift {digits e : Nat} (few : digits ≤ wholeLimit) :
    nearest (digits * 1 <<< e) = digits * 1 <<< e := by
  by_cases zero : digits = 0
  · simp [zero, nearest, divToEven]
  have divides : 1 <<< ((digits * 1 <<< e).log2 - 52) ∣ digits * 1 <<< e := by
    rw [log2_mul_shift zero]
    rcases Nat.lt_or_eq_of_le few with fewer | rfl
    · have size : digits.log2 < 53 := (Nat.log2_lt zero).mpr fewer
      exact Nat.dvd_trans (shift_dvd (by omega)) (Nat.dvd_mul_left _ _)
    · rw [wholeLimit, ← shift_add]
      have size : (1 <<< 53).log2 = 53 := by decide
      exact shift_dvd (by omega)
  obtain ⟨quotient, whole⟩ := divides
  rw [nearest]
  generalize (digits * 1 <<< e).log2 - 52 = excess at whole ⊢
  rw [whole, Nat.mul_comm (1 <<< excess) quotient, divToEven_mul (shift_pos excess)]

theorem nearest_of_small {n : Nat} (small : n ≤ wholeLimit) : nearest n = n := by
  simpa using nearest_shift (e := 0) small

/-- The digits that are kept of a number with more of them. -/
theorem digits_bounds {n : Nat} (large : 52 ≤ n.log2) :
    1 <<< 52 ≤ divToEven n (1 <<< (n.log2 - 52)) ∧
      divToEven n (1 <<< (n.log2 - 52)) ≤ wholeLimit := by
  have nonzero : n ≠ 0 := fun zero => by simp [zero] at large
  apply divToEven_bounds
  · rw [← shift_add, Nat.add_sub_cancel' large, Nat.one_shiftLeft]
    exact Nat.log2_self_le nonzero
  · rw [wholeLimit, ← shift_add, Nat.one_shiftLeft, show 53 + (n.log2 - 52) = n.log2 + 1 by omega]
    exact Nat.lt_log2_self

theorem digits_le (n : Nat) : divToEven n (1 <<< (n.log2 - 52)) ≤ wholeLimit := by
  rcases Nat.le_total 52 n.log2 with large | small
  · exact (digits_bounds large).2
  · have few : n < 2 ^ 53 :=
      Nat.lt_of_lt_of_le Nat.lt_log2_self (Nat.pow_le_pow_right (by decide) (by omega))
    have whole : divToEven n (1 <<< 0) = n := by simpa using divToEven_mul (a := n) Nat.one_pos
    rw [Nat.sub_eq_zero_of_le small, whole, wholeLimit, Nat.one_shiftLeft]
    exact Nat.le_of_lt few

theorem nearest_nearest (n : Nat) : nearest (nearest n) = nearest n := by
  rw [nearest]
  exact nearest_shift (digits_le n)

/-- Rounding does not go beyond a power of two. -/
theorem nearest_le {n e : Nat} (bounded : n ≤ 1 <<< e) : nearest n ≤ 1 <<< e := by
  rcases Nat.lt_or_eq_of_le bounded with below | rfl
  · rcases Nat.lt_or_ge 52 n.log2 with large | small
    · have size : n.log2 < e := by
        rwa [Nat.log2_lt fun zero => by simp [zero] at large, ← Nat.one_shiftLeft]
      refine Nat.le_trans (Nat.mul_le_mul_right _ (digits_le n)) ?_
      rw [wholeLimit, ← shift_add, Nat.one_shiftLeft, Nat.one_shiftLeft]
      exact Nat.pow_le_pow_right (by decide) (by omega)
    · have few : n ≤ wholeLimit := by
        rw [wholeLimit, Nat.one_shiftLeft]
        exact Nat.le_of_lt (Nat.lt_of_lt_of_le Nat.lt_log2_self
          (Nat.pow_le_pow_right (by decide) (by omega)))
      rwa [nearest_of_small few]
  · have held : nearest (1 * 1 <<< e) = 1 * 1 <<< e := nearest_shift (by decide)
    rw [Nat.one_mul] at held
    exact Nat.le_of_eq held

theorem log2_nearest_le {n : Nat} : (nearest n).log2 ≤ n.log2 + 1 := by
  have bounded : nearest n ≤ 1 <<< (n.log2 + 1) := by
    apply nearest_le
    rw [Nat.one_shiftLeft]
    exact Nat.le_of_lt Nat.lt_log2_self
  by_cases zero : nearest n = 0
  · simp [zero]
  · rw [Nat.one_shiftLeft] at bounded
    have := Nat.log2_self_le zero
    exact (Nat.pow_le_pow_iff_right (by decide)).mp (Nat.le_trans this bounded)

/-- The value with a given significand, which is not one of the smallest. -/
theorem kind_normal (negative : Bool) {excess significand : Nat} (small : excess < 2046)
    (low : 1 <<< 52 ≤ significand) (high : significand < 1 <<< 53) :
    kind ⟨(signBits negative + (excess * 1 <<< 52 + significand)).toUInt64⟩ =
      .finite negative (significand * 1 <<< excess) := by
  obtain ⟨sign, hsign, negated⟩ : ∃ sign, signBits negative = sign * 1 <<< 63 ∧
      (sign = 0 ∧ negative = false ∨ sign = 1 ∧ negative = true) := by
    cases negative
    · exact ⟨0, rfl, Or.inl ⟨rfl, rfl⟩⟩
    · exact ⟨1, rfl, Or.inr ⟨rfl, rfl⟩⟩
  simp only [Nat.reduceShiftLeft] at low high hsign
  have bits : (signBits negative + (excess * 4503599627370496 + significand)).toUInt64.toNat =
      sign * 9223372036854775808 + (excess * 4503599627370496 + significand) := by
    rw [hsign]
    apply UInt64.toNat_ofNat_of_lt'
    simp only [UInt64.size]
    omega
  have isNegative : decide (9223372036854775808 ≤
      sign * 9223372036854775808 + (excess * 4503599627370496 + significand)) = negative := by
    rcases negated with ⟨rfl, rfl⟩ | ⟨rfl, rfl⟩
    · rw [decide_eq_false_iff_not]
      omega
    · rw [decide_eq_true_iff]
      omega
  have exponent : (sign * 9223372036854775808 + (excess * 4503599627370496 + significand)) /
      4503599627370496 % 2048 = excess + 1 := by
    omega
  have fraction : 4503599627370496 + (sign * 9223372036854775808 +
      (excess * 4503599627370496 + significand)) % 4503599627370496 = significand := by
    omega
  have finite : excess + 1 ≠ 2047 := by omega
  simp only [kind, bits, Nat.reduceShiftLeft, isNegative, exponent, fraction, finite, if_false,
    Nat.add_sub_cancel, Nat.succ_ne_zero]

/-- As `kind_normal`, where the significand may have been rounded up to the next power of two. -/
theorem kind_rounded (negative : Bool) {excess significand : Nat} (small : excess < 2045)
    (low : 1 <<< 52 ≤ significand) (high : significand ≤ 1 <<< 53) :
    kind ⟨(signBits negative + (excess * 1 <<< 52 + significand)).toUInt64⟩ =
      .finite negative (significand * 1 <<< excess) := by
  rcases Nat.lt_or_eq_of_le high with below | rfl
  · exact kind_normal negative (by omega) low below
  · have carried : kind ⟨(signBits negative + ((excess + 1) * 1 <<< 52 + 1 <<< 52)).toUInt64⟩ =
        .finite negative (1 <<< 52 * 1 <<< (excess + 1)) :=
      kind_normal negative (by omega) (Nat.le_refl _) (by decide)
    have bits : (excess + 1) * 1 <<< 52 + 1 <<< 52 = excess * 1 <<< 52 + 1 <<< 53 := by
      simp only [Nat.reduceShiftLeft]
      omega
    have size : 1 <<< 52 * 1 <<< (excess + 1) = 1 <<< 53 * 1 <<< excess := by
      rw [← shift_add, ← shift_add]
      congr 1
      omega
    rwa [bits, size] at carried

/-- A whole number in the smallest units has a significand of full width. -/
theorem exists_significand {n : Nat} (positive : n ≠ 0) :
    ∃ significand excess, (n * one).log2 - 52 = excess ∧ excess = n.log2 + 1022 ∧
      divToEven (n * one) (1 <<< excess) = significand ∧
      nearest n * one = significand * 1 <<< excess ∧
      1 <<< 52 ≤ significand ∧ significand ≤ 1 <<< 53 := by
  have low : 2 ^ n.log2 ≤ n := Nat.log2_self_le positive
  have high : n < 2 ^ (n.log2 + 1) := Nat.lt_log2_self
  have logarithm : (n * one).log2 = n.log2 + 1074 := by
    exact log2_mul_shift positive
  refine ⟨_, n.log2 + 1022, by omega, rfl, rfl, ?_⟩
  rcases Nat.le_total 52 n.log2 with large | small
  · -- digits are lost: the quotient is that of `nearest`, in other units
    have units : 1 <<< (n.log2 + 1022) = 1 <<< (n.log2 - 52) * one := by
      rw [one, ← shift_add]
      congr 1
      omega
    rw [units, divToEven_mul_mul _ _ one_pos, nearest, Nat.mul_assoc]
    exact ⟨rfl, digits_bounds large⟩
  · -- there is room for all digits
    have few : n ≤ wholeLimit := by
      rw [wholeLimit, Nat.one_shiftLeft]
      exact Nat.le_of_lt (Nat.lt_of_lt_of_le high (Nat.pow_le_pow_right (by decide) (by omega)))
    have size : n * one = n * 1 <<< (52 - n.log2) * 1 <<< (n.log2 + 1022) := by
      rw [Nat.mul_assoc, ← shift_add, one, show 52 - n.log2 + (n.log2 + 1022) = 1074 by omega]
    rw [nearest_of_small few, size, divToEven_mul (shift_pos _)]
    refine ⟨rfl, ?_, ?_⟩
    · calc 1 <<< 52 = 1 <<< n.log2 * 1 <<< (52 - n.log2) := by
            rw [← shift_add, Nat.add_sub_cancel' small]
        _ ≤ n * 1 <<< (52 - n.log2) := Nat.mul_le_mul_right _ (Nat.one_shiftLeft _ ▸ low)
    · calc n * 1 <<< (52 - n.log2) ≤ 1 <<< (n.log2 + 1) * 1 <<< (52 - n.log2) :=
            Nat.mul_le_mul_right _ (Nat.one_shiftLeft _ ▸ Nat.le_of_lt high)
        _ = 1 <<< 53 := by
            rw [← shift_add, show n.log2 + 1 + (52 - n.log2) = 53 by omega]

/-- The value of a whole number. -/
theorem kind_round_nearest (negative : Bool) {n den : Nat} (bounded : n.log2 < 1023)
    (positive : 0 < den) :
    (round negative (n * one * den) den).kind = .finite negative (nearest n * one) := by
  by_cases zero : n = 0
  · subst zero
    cases negative <;> simp [round, nearest, divToEven, positive] <;> decide
  · obtain ⟨significand, excess, logarithm, size, digits, value, low, high⟩ :=
      exists_significand zero
    have quotient : divToEven (n * one * den) (den * 1 <<< excess) = significand := by
      rw [Nat.mul_comm den, divToEven_mul_mul _ _ positive, digits]
    have finite : excess * 1 <<< 52 + significand < 2047 * 1 <<< 52 := by
      simp only [Nat.reduceShiftLeft] at *
      omega
    simp only [round, Nat.mul_div_cancel _ positive, logarithm, quotient]
    rw [if_pos finite, value]
    exact kind_rounded negative (by omega) low high

theorem kind_ofInt_nearest {v : Int} (bounded : v.natAbs.log2 < 1023) :
    (ofInt v).kind = .finite (decide (v < 0)) (nearest v.natAbs * one) := by
  have := kind_round_nearest (decide (v < 0)) bounded Nat.one_pos
  rwa [Nat.mul_one] at this

theorem mul_finite {x y : Binary64} {s t : Bool} {a b : Nat} (hx : x.kind = .finite s a)
    (hy : y.kind = .finite t b) : x.mul y = round (s != t) (a * b) one := by
  simp only [mul, hx, hy]

theorem roundAway_finite {x : Binary64} {negative : Bool} {n : Nat}
    (whole : x.kind = .finite negative (n * one)) :
    x.roundAway = clamp (signedSize negative n) := by
  have rounded : (2 * (n * one) + one) / (2 * one) = n := by
    have halves : 2 * (n * one) + one = (2 * n + 1) * one := by
      rw [Nat.add_mul, Nat.mul_assoc, Nat.one_mul]
    rw [halves, Nat.mul_div_mul_right _ _ one_pos]
    omega
  simp only [roundAway, whole, rounded]

theorem log2_word (v : Int64) : v.toInt.natAbs.log2 < 64 := by
  by_cases zero : v.toInt.natAbs = 0
  · simp [zero]
  · rw [Nat.log2_lt zero]
    have := v.toInt_lt
    have := v.le_toInt
    omega

/-- By this the profiles of a base are scaled. -/
def minusOne : Binary64 := ofInt (-1)

/-- The opposite of a word as doubles find it: rounded to 53 digits, and at most the greatest
word. -/
theorem scaleWord_minusOne (v : Int64) :
    minusOne.scaleWord v =
      clamp (signedSize (!decide (v.toInt < 0)) (nearest v.toInt.natAbs)) := by
  have value : (ofInt v.toInt).kind =
      .finite (decide (v.toInt < 0)) (nearest v.toInt.natAbs * one) :=
    kind_ofInt_nearest (Nat.lt_trans (log2_word v) (by decide))
  have factor : minusOne.kind = .finite true (nearest 1 * one) :=
    kind_ofInt_nearest (by decide)
  have product : ((ofInt v.toInt).mul minusOne).kind =
      .finite (!decide (v.toInt < 0)) (nearest v.toInt.natAbs * one) := by
    have bounded : (nearest v.toInt.natAbs).log2 < 1023 := by
      have := log2_word v
      have := log2_nearest_le (n := v.toInt.natAbs)
      omega
    rw [mul_finite value factor, nearest_of_small (n := 1) (by decide), Nat.one_mul,
      Bool.bne_true, kind_round_nearest _ bounded one_pos, nearest_nearest]
  rw [scaleWord, roundAway_finite product]

/-- What is left of a word to which its product with minus one is added. -/
def remnant (v : Int64) : Int64 := v + minusOne.scaleWord v

theorem toInt_clamp (n : Int) :
    (clamp n).toInt = max (-9223372036854775808) (min n 9223372036854775807) := by
  rw [clamp]
  split
  · rw [show Int64.minValue.toInt = -9223372036854775808 by decide]
    omega
  · split
    · rw [show Int64.maxValue.toInt = 9223372036854775807 by decide]
      omega
    · rw [Int64.toInt_ofInt_of_le (by simp; omega) (by simp; omega)]
      omega

theorem add_eq_zero_iff {v w : Int64} :
    v + w = 0 ↔ v.toInt + w.toInt = 0 ∨ v = Int64.minValue ∧ w = Int64.minValue := by
  have := v.le_toInt
  have := v.toInt_lt
  have := w.le_toInt
  have := w.toInt_lt
  rw [← Int64.toInt_inj, ← Int64.toInt_inj (x := v), ← Int64.toInt_inj (x := w), Int64.toInt_add,
    Int64.toInt_zero, show Int64.minValue.toInt = -9223372036854775808 by decide, Int.bmod_def]
  omega

/-- Words with more than 53 digits do not cancel out, except for the least but one: it is rounded
to the size of the least word, whose opposite is held at the greatest. -/
theorem remnant_eq_zero_iff {v : Int64} :
    remnant v = 0 ↔ nearest v.toInt.natAbs = v.toInt.natAbs ∧ v ≠ Int64.minValue ∨
      v = Int64.minValue + 1 := by
  have least := v.le_toInt
  have greatest := v.toInt_lt
  have size : nearest v.toInt.natAbs ≤ 1 <<< 63 := by
    apply nearest_le
    simp only [Nat.reduceShiftLeft]
    omega
  have beside : nearest 9223372036854775807 = 9223372036854775808 := by decide +kernel
  have bottom : nearest 9223372036854775808 = 9223372036854775808 := by decide +kernel
  simp only [Nat.reduceShiftLeft] at size
  rw [remnant, scaleWord_minusOne, add_eq_zero_iff, Ne, ← Int64.toInt_inj, ← Int64.toInt_inj,
    ← Int64.toInt_inj (x := v), toInt_clamp,
    show Int64.minValue.toInt = -9223372036854775808 by decide,
    show (Int64.minValue + 1).toInt = -9223372036854775807 by decide]
  by_cases negative : v.toInt < 0
  · simp only [negative, decide_true, Bool.not_true, Bool.false_eq_true, signedSize, if_false]
    by_cases odd : v.toInt.natAbs = 9223372036854775807
    · rw [odd, beside]
      omega
    · by_cases full : v.toInt.natAbs = 9223372036854775808
      · rw [full, bottom]
        omega
      · omega
  · simp only [negative, decide_false, Bool.not_false, signedSize, if_true]
    omega

end Profiling.Binary64
