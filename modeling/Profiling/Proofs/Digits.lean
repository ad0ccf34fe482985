import Mathlib.Data.List.Basic
import Mathlib.Tactic.SplitIfs
import Profiling.Digits

/-!
# Numbers from their digits

Reading takes digits and nothing else, and gives the number that they stand for if it is below the
bound. The digits that a number is written with stand for it.
-/

namespace Profiling.Digits

theorem read?_eq_some_iff {base bound n : Nat} {digits : List Char} :
    read? base bound digits = some n ↔
      digits ≠ [] ∧ (∀ c ∈ digits, isDigit base c = true) ∧ number base digits = n ∧ n < bound := by
  simp only [read?, Option.ite_none_left_eq_some, Option.some.injEq, Bool.or_eq_true,
    decide_eq_true_eq, Bool.not_eq_true', not_or, Bool.not_eq_false, List.all_eq_true, Nat.not_le]
  constructor
  · rintro ⟨⟨⟨filled, digits⟩, small⟩, rfl⟩
    exact ⟨filled, digits, rfl, small⟩
  · rintro ⟨filled, digits, rfl, small⟩
    exact ⟨⟨⟨filled, digits⟩, small⟩, rfl⟩

theorem number_append (base : Nat) (digits : List Char) (c : Char) :
    number base (digits ++ [c]) = base * number base digits + (value? c).getD 0 := by
  rw [number, List.foldl_append]
  rfl

theorem value?_digitChar {d : Nat} (small : d < 16) : value? d.digitChar = some d := by
  have all : ∀ d < 16, value? (Nat.digitChar d) = some d := by decide
  exact all d small

/-- The digits that a number is written with are read as that number. -/
theorem number_toDigits {base : Nat} (some_digits : 1 < base) (few : base ≤ 16) (n : Nat) :
    number base (Nat.toDigits base n) = n ∧
      ∀ c ∈ Nat.toDigits base n, isDigit base c = true := by
  have digit {d : Nat} (small : d < base) :
      value? d.digitChar = some d ∧ isDigit base d.digitChar = true := by
    have value := value?_digitChar (Nat.lt_of_lt_of_le small few)
    exact ⟨value, by simp [isDigit, value, small]⟩
  induction n using Nat.strongRecOn with
  | ind n ih =>
    by_cases small : n < base
    · rw [Nat.toDigits_of_lt_base small]
      simp [number, digit small]
    · obtain ⟨value, valid⟩ := ih (n / base) (Nat.div_lt_self (by omega) some_digits)
      obtain ⟨last, proper⟩ := digit (Nat.mod_lt n (by omega))
      rw [Nat.toDigits_of_base_le some_digits (by omega), number_append, value, last]
      refine ⟨Nat.div_add_mod n base, fun c member => ?_⟩
      rcases List.mem_append.mp member with front | last
      · exact valid c front
      · rwa [List.mem_singleton.mp last]

theorem isDigit_iff {c : Char} : c.isDigit = true ↔ '0' ≤ c ∧ c ≤ '9' := by
  rw [Char.isDigit, Bool.and_eq_true, decide_eq_true_eq, decide_eq_true_eq]
  rfl

theorem value?_of_isDigit {c : Char} (digit : c.isDigit = true) :
    value? c = some (c.toNat - '0'.toNat) :=
  if_pos (isDigit_iff.mp digit)

theorem isDigit_ten (c : Char) : isDigit 10 c = c.isDigit := by
  cases digit : c.isDigit with
  | true =>
    have high : c.toNat ≤ 57 := UInt32.le_iff_toNat_le.mp (isDigit_iff.mp digit).2
    rw [isDigit, value?_of_isDigit digit, Option.any_some, decide_eq_true_eq]
    change c.toNat - 48 < 10
    omega
  | false =>
    have other : ¬('0' ≤ c ∧ c ≤ '9') := fun order => by
      simp [isDigit_iff.mpr order] at digit
    rw [isDigit, value?, if_neg other]
    split_ifs <;> simp

/-- To base ten the letters have no part. -/
theorem number_ten {digits : List Char} (all : ∀ c ∈ digits, c.isDigit = true) :
    number 10 digits = Nat.ofDigitChars 10 digits 0 := by
  rw [number, Nat.ofDigitChars_eq_foldl]
  refine List.foldl_ext _ _ 0 fun n c member => ?_
  rw [value?_of_isDigit (all c member), Option.getD_some]

/-- To base ten digits are read as what they are written for. -/
theorem read?_ten_eq_some_iff {bound n : Nat} {digits : List Char} :
    read? 10 bound digits = some n ↔ n < bound ∧ digits ≠ [] ∧
      (∀ c ∈ digits, c.isDigit = true) ∧ n = Nat.ofDigitChars 10 digits 0 := by
  simp only [read?_eq_some_iff, isDigit_ten]
  constructor
  · rintro ⟨filled, all, rfl, small⟩
    exact ⟨small, filled, all, number_ten all⟩
  · rintro ⟨small, filled, all, rfl⟩
    exact ⟨filled, all, number_ten all, small⟩

/-- Digits can be seen. -/
theorem visible_of_isDigit {base : Nat} {c : Char} (digit : isDigit base c = true) :
    33 ≤ c.toNat ∧ c.toNat < 128 := by
  have order : ∀ {a b : Char}, a ≤ b → a.toNat ≤ b.toNat := UInt32.le_iff_toNat_le.mp
  have within : ∀ {a b : Char}, a ≤ c ∧ c ≤ b → 33 ≤ a.toNat → b.toNat < 128 →
      33 ≤ c.toNat ∧ c.toNat < 128 :=
    fun between low high =>
      ⟨Nat.le_trans low (order between.1), Nat.lt_of_le_of_lt (order between.2) high⟩
  rw [isDigit, value?] at digit
  split_ifs at digit with number lower upper
  · exact within number (by decide) (by decide)
  · exact within lower (by decide) (by decide)
  · exact within upper (by decide) (by decide)
  · cases digit

end Profiling.Digits
