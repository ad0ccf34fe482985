import Mathlib.Data.Multiset.Defs
import Mathlib.Data.Prod.Lex
import Mathlib.Data.String.Basic
import Profiling.Merge

/-!
# Labels in order

Labels are in a linear order, so sorting brings two lists to one form exactly when
they hold the same labels equally often.
-/

namespace Profiling.Label

def rank (l : Label) : String ×ₗ String ×ₗ Int ×ₗ String :=
  toLex (l.key, toLex (l.text, toLex (l.num.toInt, l.numUnit)))

theorem rank_injective : Function.Injective rank := by
  intro a b h
  simp only [rank, toLex_inj, Prod.mk.injEq, Int64.toInt_inj] at h
  obtain ⟨key, text, num, numUnit⟩ := h
  cases a
  cases b
  simp_all

theorem before_iff {a b : Label} : a.before b ↔ a.rank < b.rank := by
  by_cases key : a.key = b.key
  · by_cases text : a.text = b.text
    · by_cases num : a.num = b.num
      · simp [before, rank, Prod.Lex.toLex_lt_toLex, key, text, num]
      · have other : a.num.toInt ≠ b.num.toInt := fun h => num (Int64.toInt_inj.mp h)
        simp [before, rank, Prod.Lex.toLex_lt_toLex, key, text, num, other,
          Int64.lt_iff_toInt_lt]
    · simp [before, rank, Prod.Lex.toLex_lt_toLex, key, text]
  · simp [before, rank, Prod.Lex.toLex_lt_toLex, key]

theorem insertSorted_perm (l : Label) (labels : List Label) :
    (insertSorted l labels).Perm (l :: labels) := by
  induction labels with
  | nil => exact .refl _
  | cons m labels ih =>
    by_cases h : m.before l
    · simp only [insertSorted, h, if_true]
      exact (ih.cons m).trans (.swap l m labels)
    · simp [insertSorted, h]

theorem sorted_perm (labels : List Label) : (sorted labels).Perm labels := by
  induction labels with
  | nil => exact .nil
  | cons l labels ih => exact (insertSorted_perm l (sorted labels)).trans (ih.cons l)

/-- It does not matter which of two labels is put in first. -/
theorem insertSorted_comm (a b : Label) (labels : List Label) :
    insertSorted a (insertSorted b labels) = insertSorted b (insertSorted a labels) := by
  rcases lt_trichotomy a.rank b.rank with ab | same | ba
  · exact ordered ab labels
  · rw [rank_injective same]
  · exact (ordered ba labels).symm
where
  ordered {a b : Label} (ab : a.rank < b.rank) (labels : List Label) :
      insertSorted a (insertSorted b labels) = insertSorted b (insertSorted a labels) := by
    have hab : a.before b := before_iff.mpr ab
    have hba : ¬b.before a := fun h => lt_asymm ab (before_iff.mp h)
    induction labels with
    | nil => simp [insertSorted, hab, hba]
    | cons m labels ih =>
      by_cases ma : m.before a
      · have mb : m.before b := before_iff.mpr ((before_iff.mp ma).trans ab)
        simp [insertSorted, ma, mb, ih]
      · by_cases mb : m.before b
        · simp [insertSorted, ma, mb, hab]
        · simp [insertSorted, ma, mb, hab, hba]

theorem sorted_eq_iff {a b : List Label} : sorted a = sorted b ↔ (a : Multiset Label) = b := by
  rw [Multiset.coe_eq_coe]
  constructor
  · intro h
    exact (sorted_perm a).symm.trans (h ▸ sorted_perm b)
  · intro h
    have : LeftCommutative insertSorted := ⟨insertSorted_comm⟩
    exact h.foldr_eq []

end Profiling.Label
