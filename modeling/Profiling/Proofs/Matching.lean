import Mathlib.Logic.Function.Iterate
import Profiling.Pattern.Basic

/-!
# What a pattern matches

A pattern leads from some positions of a text to others. The marks that are carried through it
stand exactly at the positions it leads to, so it has a match just if it leads from somewhere to
somewhere. A loop need not be run more often than the text is long, for what it leads to lies
ahead.
-/

namespace Profiling.Pattern

/-- A step that is taken a number of times. -/
def Times (step : Nat → Nat → Prop) : Nat → Nat → Nat → Prop
  | 0, i, j => i = j
  | count + 1, i, j => ∃ k, step i k ∧ Times step count k j

def charBefore (text : List Char) : Nat → Option Char
  | 0 => none
  | i + 1 => text[i]?

/-- The characters from one position of a text to another are matched. -/
def Spans (text : List Char) : Pattern → Nat → Nat → Prop
  | empty => fun i j => i = j
  | char cls => fun i j => j = i + 1 ∧ ∃ c, text[i]? = some c ∧ cls.contains c = true
  | look a => fun i j => i = j ∧ a.holds (charBefore text i) text[i]? = true
  | cat p q => fun i j => ∃ k, Spans text p i k ∧ Spans text q k j
  | alt p q => fun i j => Spans text p i j ∨ Spans text q i j
  | repeated p least most => fun i j =>
    ∃ more, (∀ limit ∈ most, more ≤ limit - least) ∧ Times (Spans text p) (least + more) i j

section

variable {step : Nat → Nat → Prop}

theorem times_add (m n i j : Nat) :
    Times step (m + n) i j ↔ ∃ k, Times step m i k ∧ Times step n k j := by
  induction m generalizing i with
  | zero => simp [Times]
  | succ m ih =>
    rw [Nat.add_right_comm]
    simp only [Times, ih]
    constructor
    · rintro ⟨h, first, k, front, back⟩
      exact ⟨k, ⟨h, first, front⟩, back⟩
    · rintro ⟨k, ⟨h, first, front⟩, back⟩
      exact ⟨h, first, k, front, back⟩

/-- Steps that do not move can be left out. -/
theorem exists_times_le (ahead : ∀ i j, step i j → i ≤ j) {n i j : Nat} (led : Times step n i j) :
    i ≤ j ∧ ∃ m ≤ n, m ≤ j - i ∧ Times step m i j := by
  induction n generalizing i with
  | zero =>
    obtain rfl : i = j := led
    exact ⟨Nat.le_refl i, 0, Nat.le_refl 0, Nat.zero_le _, rfl⟩
  | succ n ih =>
    obtain ⟨k, first, rest⟩ := led
    have moved := ahead i k first
    obtain ⟨later, m, few, short, led⟩ := ih rest
    refine ⟨Nat.le_trans moved later, ?_⟩
    by_cases still : i = k
    · subst still
      exact ⟨m, by omega, short, led⟩
    · exact ⟨m + 1, by omega, by omega, k, first, led⟩

end

/-- A match does not go back. -/
theorem Spans.le {text : List Char} (p : Pattern) {i j : Nat} (h : Spans text p i j) : i ≤ j := by
  induction p generalizing i j with
  | empty => exact Nat.le_of_eq h
  | char cls =>
    obtain ⟨rfl, -⟩ := h
    exact Nat.le_succ i
  | look a => exact Nat.le_of_eq h.1
  | cat p q ihp ihq =>
    obtain ⟨k, front, back⟩ := h
    exact Nat.le_trans (ihp front) (ihq back)
  | alt p q ihp ihq => exact h.elim ihp ihq
  | repeated p least most ih =>
    obtain ⟨more, -, led⟩ := h
    exact (exists_times_le (fun _ _ => ih) led).1

structure MarkedAt (text : List Char) (marks : List Bool) (places : Nat → Prop) : Prop where
  length_eq : marks.length = text.length + 1
  marked_iff : ∀ i, marks[i]? = some true ↔ places i

namespace MarkedAt

variable {text : List Char} {marks others : List Bool} {places more : Nat → Prop}

theorem le_length (h : MarkedAt text marks places) {i : Nat} (placed : places i) :
    i ≤ text.length := by
  have marked := (h.marked_iff i).mpr placed
  have inside := (List.getElem?_eq_some_iff.mp marked).1
  rw [h.length_eq] at inside
  omega

theorem congr (h : MarkedAt text marks places) (same : ∀ i, places i ↔ more i) :
    MarkedAt text marks more :=
  ⟨h.length_eq, fun i => (h.marked_iff i).trans (same i)⟩

theorem zipWith_or (h : MarkedAt text marks places) (h' : MarkedAt text others more) :
    MarkedAt text (List.zipWith (· || ·) marks others) fun i => places i ∨ more i := by
  refine ⟨?_, fun i => ?_⟩
  · rw [List.length_zipWith, h.length_eq, h'.length_eq, Nat.min_self]
  · rw [← h.marked_iff, ← h'.marked_iff, List.getElem?_zipWith]
    by_cases inside : i < text.length + 1
    · rw [List.getElem?_eq_getElem (h.length_eq ▸ inside),
        List.getElem?_eq_getElem (h'.length_eq ▸ inside)]
      simp
    · rw [List.getElem?_eq_none (by rw [h.length_eq]; omega),
        List.getElem?_eq_none (by rw [h'.length_eq]; omega)]
      simp

theorem zipWith_and (h : MarkedAt text marks places) (h' : MarkedAt text others more) :
    MarkedAt text (List.zipWith (· && ·) marks others) fun i => places i ∧ more i := by
  refine ⟨?_, fun i => ?_⟩
  · rw [List.length_zipWith, h.length_eq, h'.length_eq, Nat.min_self]
  · rw [← h.marked_iff, ← h'.marked_iff, List.getElem?_zipWith]
    cases marks[i]? <;> cases others[i]? <;> simp

end MarkedAt

theorem getElem?_marks (a : Assertion) (before : Option Char) (text : List Char) (i : Nat) :
    (a.marks before text)[i]? =
      if i ≤ text.length then some (a.holds (if i = 0 then before else charBefore text i) text[i]?)
      else none := by
  induction text generalizing before i with
  | nil => cases i <;> simp [Assertion.marks]
  | cons c text ih =>
    cases i with
    | zero => simp [Assertion.marks]
    | succ i =>
      rw [Assertion.marks, List.getElem?_cons_succ, ih]
      cases i <;> simp [charBefore]

theorem markedAt_marks (a : Assertion) (text : List Char) :
    MarkedAt text (a.marks none text)
      fun i => i ≤ text.length ∧ a.holds (charBefore text i) text[i]? = true := by
  have length_eq (before : Option Char) : (a.marks before text).length = text.length + 1 := by
    induction text generalizing before with
    | nil => rfl
    | cons c text ih => rw [Assertion.marks, List.length_cons, ih, List.length_cons]
  refine ⟨length_eq none, fun i => ?_⟩
  rw [getElem?_marks]
  cases i <;> simp [charBefore]

theorem length_shift (cls : CharClass) (m : Bool) (c : Char) (text : List Char)
    {marks : List Bool} (length_eq : marks.length = text.length + 1) :
    (advance.shift cls m c text marks).length = text.length + 1 := by
  induction text generalizing m c marks with
  | nil => cases marks <;> rfl
  | cons d text ih =>
    obtain ⟨n, marks, rfl⟩ := List.exists_cons_of_length_pos (by omega : 0 < marks.length)
    rw [advance.shift, List.length_cons, ih n d (by simpa using length_eq), List.length_cons]

theorem getElem?_shift (cls : CharClass) (m : Bool) (c : Char) (text : List Char)
    {marks : List Bool} (length_eq : marks.length = text.length + 1) (i : Nat) :
    (advance.shift cls m c text marks)[i]? = some true ↔
      (m :: marks)[i]? = some true ∧
        ∃ d, (c :: text)[i]? = some d ∧ cls.contains d = true := by
  induction text generalizing m c marks i with
  | nil =>
    obtain ⟨n, rfl⟩ := List.length_eq_one_iff.mp length_eq
    cases i <;> simp [advance.shift]
  | cons d text ih =>
    obtain ⟨n, marks, rfl⟩ := List.exists_cons_of_length_pos (by omega : 0 < marks.length)
    cases i with
    | zero => simp [advance.shift]
    | succ i =>
      rw [advance.shift, List.getElem?_cons_succ, ih n d (by simpa using length_eq)]
      simp

theorem MarkedAt.advance {text : List Char} {marks : List Bool} {places : Nat → Prop}
    (h : MarkedAt text marks places) (cls : CharClass) :
    MarkedAt text (advance cls text marks) fun j => ∃ i, places i ∧ Spans text (.char cls) i j := by
  have length_eq := h.length_eq
  obtain ⟨m, marks, rfl⟩ := List.exists_cons_of_length_pos (by omega : 0 < marks.length)
  cases text with
  | nil =>
    obtain rfl : marks = [] := by simpa using length_eq
    refine ⟨rfl, fun j => ?_⟩
    cases j <;> simp [Pattern.advance, Spans]
  | cons c text =>
    have length_eq : marks.length = text.length + 1 := by simpa using length_eq
    refine ⟨?_, fun j => ?_⟩
    · rw [Pattern.advance, List.length_cons, length_shift cls m c text length_eq, List.length_cons]
    · cases j with
      | zero => simp [Pattern.advance, Spans]
      | succ j =>
        rw [Pattern.advance, List.getElem?_cons_succ, getElem?_shift cls m c text length_eq,
          h.marked_iff]
        constructor
        · rintro ⟨placed, accepted⟩
          exact ⟨j, placed, rfl, accepted⟩
        · rintro ⟨i, placed, same, accepted⟩
          obtain rfl := Nat.succ.inj same
          exact ⟨placed, accepted⟩

theorem iterate_eq (step : List Bool → List Bool) (count : Nat) (marks : List Bool) :
    iterate step count marks = step^[count] marks := by
  induction count generalizing marks with
  | zero => rfl
  | succ count ih =>
    rw [iterate]
    split
    · rename_i fixed
      exact (Function.iterate_fixed fixed (count + 1)).symm
    · rw [ih, Function.iterate_succ_apply]

section

variable {text : List Char} {advance : List Bool → List Bool} {step : Nat → Nat → Prop}

theorem MarkedAt.iterate
    (advances : ∀ {marks places}, MarkedAt text marks places →
      MarkedAt text (advance marks) fun j => ∃ i, places i ∧ step i j)
    {marks : List Bool} {places : Nat → Prop} (h : MarkedAt text marks places) (count : Nat) :
    MarkedAt text (Pattern.iterate advance count marks)
      fun j => ∃ i, places i ∧ Times step count i j := by
  rw [iterate_eq]
  induction count generalizing marks places with
  | zero => exact h.congr fun i => by simp [Times]
  | succ count ih =>
    rw [Function.iterate_succ_apply]
    refine (ih (advances h)).congr fun j => ?_
    constructor
    · rintro ⟨k, ⟨i, placed, first⟩, rest⟩
      exact ⟨i, placed, k, first, rest⟩
    · rintro ⟨i, placed, k, first, rest⟩
      exact ⟨k, ⟨i, placed, first⟩, rest⟩

theorem MarkedAt.reach
    (advances : ∀ {marks places}, MarkedAt text marks places →
      MarkedAt text (advance marks) fun j => ∃ i, places i ∧ step i j)
    {marks : List Bool} {places : Nat → Prop} (h : MarkedAt text marks places) (count : Nat) :
    MarkedAt text (Pattern.reach advance count marks)
      fun j => ∃ i, places i ∧ ∃ n ≤ count, Times step n i j := by
  rw [Pattern.reach, iterate_eq]
  induction count generalizing marks places with
  | zero => exact h.congr fun i => by simp [Times]
  | succ count ih =>
    rw [Function.iterate_succ_apply]
    refine (ih (h.zipWith_or (advances h))).congr fun j => ?_
    constructor
    · rintro ⟨k, placed | ⟨i, placed, first⟩, n, few, rest⟩
      · exact ⟨k, placed, n, by omega, rest⟩
      · exact ⟨i, placed, n + 1, by omega, k, first, rest⟩
    · rintro ⟨i, placed, n, few, led⟩
      cases n with
      | zero => exact ⟨i, .inl placed, 0, Nat.zero_le count, led⟩
      | succ n =>
        obtain ⟨k, first, rest⟩ := led
        exact ⟨k, .inr ⟨i, placed, first⟩, n, by omega, rest⟩

end

/-- A run carries the marks to where the pattern leads from them. -/
theorem MarkedAt.run {text : List Char} (p : Pattern) {marks : List Bool} {places : Nat → Prop}
    (h : MarkedAt text marks places) :
    MarkedAt text (run text p marks) fun j => ∃ i, places i ∧ Spans text p i j := by
  induction p generalizing marks places with
  | empty => exact h.congr fun i => by simp [Spans]
  | char cls => exact h.advance cls
  | look a =>
    refine ((markedAt_marks a text).zipWith_and h).congr fun j => ?_
    constructor
    · rintro ⟨⟨-, holds⟩, placed⟩
      exact ⟨j, placed, rfl, holds⟩
    · rintro ⟨i, placed, rfl, holds⟩
      exact ⟨⟨h.le_length placed, holds⟩, placed⟩
  | cat p q ihp ihq =>
    refine (ihq (ihp h)).congr fun j => ?_
    constructor
    · rintro ⟨k, ⟨i, placed, front⟩, back⟩
      exact ⟨i, placed, k, front, back⟩
    · rintro ⟨i, placed, k, front, back⟩
      exact ⟨k, ⟨i, placed, front⟩, back⟩
  | alt p q ihp ihq =>
    refine ((ihp h).zipWith_or (ihq h)).congr fun j => ?_
    simp only [Spans, and_or_left, exists_or]
  | repeated p least most ih =>
    have whole := MarkedAt.reach ih (MarkedAt.iterate ih h least)
    refine (whole _).congr fun j => ?_
    constructor
    · rintro ⟨k, ⟨i, placed, front⟩, n, few, back⟩
      refine ⟨i, placed, n, ?_, (times_add least n i j).mpr ⟨k, front, back⟩⟩
      rintro limit ⟨⟩
      exact Nat.le_trans few (Nat.min_le_left _ _)
    · rintro ⟨i, placed, more, limited, led⟩
      obtain ⟨k, front, back⟩ := (times_add least more i j).mp led
      have inside := (MarkedAt.iterate ih h (least + more)).le_length ⟨i, placed, led⟩
      have ahead (i j : Nat) : Spans text p i j → i ≤ j := Spans.le p
      obtain ⟨-, n, fewer, short, back⟩ := exists_times_le ahead back
      refine ⟨k, ⟨i, placed, front⟩, n, ?_, back⟩
      cases most with
      | none => exact (by omega : n ≤ text.length + 1)
      | some limit =>
        have := limited limit rfl
        exact (by omega : n ≤ min (limit - least) (text.length + 1))

theorem markedAt_all (text : List Char) :
    MarkedAt text (List.replicate (text.length + 1) true) fun i => i ≤ text.length := by
  refine ⟨List.length_replicate, fun i => ?_⟩
  rw [List.getElem?_replicate, ← Nat.lt_succ_iff]
  simp

/-- Some part of a text matches just if the pattern leads from somewhere to somewhere in it. -/
theorem isMatch_iff (p : Pattern) (text : String) :
    p.isMatch text = true ↔ ∃ i ≤ text.toList.length, ∃ j, Spans text.toList p i j := by
  have marked := (markedAt_all text.toList).run p
  rw [isMatch, List.any_eq_true]
  constructor
  · rintro ⟨_, member, rfl⟩
    obtain ⟨j, there⟩ := List.mem_iff_getElem?.mp member
    obtain ⟨i, inside, led⟩ := (marked.marked_iff j).mp there
    exact ⟨i, inside, j, led⟩
  · rintro ⟨i, inside, j, led⟩
    have there := (marked.marked_iff j).mpr ⟨i, inside, led⟩
    exact ⟨true, List.mem_iff_getElem?.mpr ⟨j, there⟩, rfl⟩

/-- The pattern can match the whole of a text. -/
def MatchesWhole (p : Pattern) (text : String) : Prop :=
  Spans text.toList p 0 text.toList.length

def framed (p : Pattern) : Pattern :=
  .cat (.look .textStart) (.cat p (.look .textEnd))

theorem isMatch_framed (p : Pattern) (text : String) :
    p.framed.isMatch text = true ↔ p.MatchesWhole text := by
  rw [isMatch_iff]
  constructor
  · rintro ⟨i, inside, _, _, ⟨rfl, start⟩, j, led, rfl, stop⟩
    have below := ((markedAt_all text.toList).run p).le_length ⟨i, inside, led⟩
    have first : i = 0 := by
      cases i with
      | zero => rfl
      | succ i =>
        rw [Assertion.holds, charBefore, List.getElem?_eq_getElem (by omega)] at start
        cases start
    have last : text.toList.length ≤ j := by
      rw [Assertion.holds, Option.isNone_iff_eq_none] at stop
      exact List.getElem?_eq_none_iff.mp stop
    rw [MatchesWhole, ← first, Nat.le_antisymm last below]
    exact led
  · intro whole
    refine ⟨0, Nat.zero_le _, _, 0, ⟨rfl, rfl⟩, _, whole, rfl, ?_⟩
    rw [Assertion.holds, List.getElem?_eq_none (Nat.le_refl _)]
    rfl

end Profiling.Pattern
