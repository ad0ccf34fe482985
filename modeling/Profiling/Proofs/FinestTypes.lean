import Mathlib.Data.List.DropRight
import Mathlib.Data.List.MinMax
import Profiling.Proofs.Compatibility

/-!
# The finest of several types

A search for the finest type compares every type with the finest so far only. As types convert
into what theirs convert into, it fails just if some two of them do not convert into each other,
and else it ends with the first type that is as fine as any.
-/

namespace Profiling

namespace MeasureUnit

/-- How many of the finest units of its family a unit holds, if it belongs to a family. -/
def size? (unit : String) : Option Nat := families.findSome? (·.factor? unit)

theorem size?_eq_some_iff {unit : String} {n : Nat} :
    size? unit = some n ↔ ∃ family ∈ families, family.factor? unit = some n := by
  constructor
  · intro known
    exact List.exists_of_findSome?_eq_some known
  · rintro ⟨family, member, known⟩
    cases found : size? unit with
    | none => simp [List.findSome?_eq_none_iff.mp found family member] at known
    | some m =>
      obtain ⟨other, also, known'⟩ := List.exists_of_findSome?_eq_some found
      obtain rfl := families_eq member also known known'
      rw [← known', known]

theorem sameFamily_eq_false_iff {a b : String} : sameFamily a b = false ↔
    ∀ family ∈ families, family.factor? a = none ∨ family.factor? b = none := by
  rw [sameFamily, List.any_eq_false]
  refine forall₂_congr fun family _ => ?_
  rw [Bool.and_eq_true, not_and_or, Bool.not_eq_true, Bool.not_eq_true, Option.isSome_eq_false_iff,
    Option.isSome_eq_false_iff, Option.isNone_iff_eq_none, Option.isNone_iff_eq_none]

end MeasureUnit

namespace ValueType

/-- The size of a type's unit. A unit of no family is only compared with itself. -/
def unitSize (t : ValueType) : Nat := (MeasureUnit.size? t.unit).getD 1

theorem unitSize_eq {family : MeasureUnit.Family} (member : family ∈ MeasureUnit.families)
    {t : ValueType} {n : Nat} (known : family.factor? t.unit = some n) : t.unitSize = n := by
  rw [unitSize, MeasureUnit.size?_eq_some_iff.mpr ⟨family, member, known⟩, Option.getD_some]

theorem unitSize_of_contains {t u : ValueType} {n : Nat}
    (holds : MeasureUnit.Contains t.unit n u.unit) : t.unitSize = n * u.unitSize := by
  rcases holds with ⟨same, rfl⟩ | ⟨family, member, m, whole, part⟩
  · rw [unitSize, unitSize, same, Nat.one_mul]
  · rw [unitSize_eq member whole, unitSize_eq member part]

/-- Of two convertible types, the finer one is the one with the smaller unit. -/
theorem isFiner_eq {t finest : ValueType} (converts : finest.convertible t = true) :
    t.isFiner finest = decide (t.unitSize < finest.unitSize) := by
  obtain ⟨-, units⟩ := convertible_iff.mp converts
  by_cases same : t.unit = finest.unit
  · have alike : t.unitSize = finest.unitSize := by rw [unitSize, unitSize, same]
    have one : (Binary64.ofNat 1).lt (.ofNat 1) = false := by decide +kernel
    simp [isFiner, same, MeasureUnit.convert_self, one, alike]
  · obtain ⟨family, member, f, n, here, there⟩ :=
      MeasureUnit.sameFamily_iff.mp (units.resolve_left (Ne.symm same))
    rw [isFiner_of_factors member same here there, unitSize_eq member here,
      unitSize_eq member there]

/-- No factor relates two types: their kinds differ by more than a plural, or their units are
different and not of one family. -/
def Apart (a b : ValueType) : Prop :=
  a.kind.toList.rdropWhile (· == 's') ≠ b.kind.toList.rdropWhile (· == 's') ∨
    a.unit ≠ b.unit ∧ ∀ family ∈ MeasureUnit.families,
      family.factor? a.unit = none ∨ family.factor? b.unit = none

theorem apart_iff {a b : ValueType} : a.Apart b ↔ a.convertible b = false := by
  rw [convertible, Bool.and_eq_false_iff, Bool.or_eq_false_iff, beq_eq_false_iff_ne,
    beq_eq_false_iff_ne, MeasureUnit.sameFamily_eq_false_iff]
  exact Iff.rfl

theorem Interchangeable.sublist {ts us : List ValueType} (all : Interchangeable ts)
    (fewer : us ⊆ ts) : Interchangeable us :=
  fun a ha b hb => all a (fewer ha) b (fewer hb)

/-- The search goes through the types as `List.argmin` does. -/
theorem finestOf_eq_argmin {finest : ValueType} {ts : List ValueType}
    (all : Interchangeable (finest :: ts)) :
    (finestOf finest ts).map some = .ok ((finest :: ts).argmin unitSize) := by
  induction ts generalizing finest with
  | nil => rfl
  | cons t ts ih =>
    have converts : finest.convertible t = true := all _ (by simp) _ (by simp)
    have step : (finest :: t :: ts).argmin unitSize =
        ((if t.isFiner finest then t else finest) :: ts).argmin unitSize := by
      simp only [List.argmin, List.foldl_cons, List.argAux, isFiner_eq converts, decide_eq_true_eq]
      split <;> rfl
    rw [finestOf, if_pos converts, step]
    refine ih (all.sublist fun x hx => ?_)
    rcases List.mem_cons.mp hx with rfl | hx
    · split <;> simp
    · simp [hx]

variable {ts : List ValueType}

theorem common_eq_argmin (several : 2 ≤ ts.length) (all : Interchangeable ts) :
    common ts = .ok (ts.argmin unitSize) := by
  match ts, several with
  | t :: u :: ts, _ => exact finestOf_eq_argmin all

theorem common_ne_none (several : 2 ≤ ts.length) : common ts ≠ .ok none := by
  intro searched
  have least := Except.ok.inj
    ((common_eq_argmin several (interchangeable_of_common searched)).symm.trans searched)
  rw [List.argmin_eq_none.mp least] at several
  cases several

theorem interchangeable_iff (several : 2 ≤ ts.length) :
    Interchangeable ts ↔ ∃ found, common ts = .ok found :=
  ⟨fun all => ⟨_, common_eq_argmin several all⟩, fun ⟨_, found⟩ => interchangeable_of_common found⟩

/-- The search fails just if some two of the types are apart. -/
theorem common_error_iff (several : 2 ≤ ts.length) :
    (∃ cause, common ts = .error cause) ↔ ∃ a ∈ ts, ∃ b ∈ ts, a.Apart b := by
  simp only [apart_iff]
  constructor
  · rintro ⟨cause, failed⟩
    obtain ⟨a, ha, b, hb, -, apart⟩ := common_error failed
    exact ⟨a, ha, b, hb, apart⟩
  · rintro ⟨a, ha, b, hb, apart⟩
    cases searched : common ts with
    | error cause => exact ⟨cause, rfl⟩
    | ok found =>
      have converts := (interchangeable_iff several).mpr ⟨found, searched⟩ a ha b hb
      exact absurd converts (by simp [apart])

section

variable {u : ValueType} (found : common ts = .ok (some u))
include found

theorem two_le_length_of_common : 2 ≤ ts.length := by
  match ts, found with
  | t :: t' :: ts, _ => simp

theorem argmin_of_common : ts.argmin unitSize = some u :=
  Except.ok.inj ((common_eq_argmin (two_le_length_of_common found)
    (interchangeable_of_common found)).symm.trans found)

theorem mem_of_common : u ∈ ts := List.argmin_mem (argmin_of_common found)

/-- Every type holds the finest one a whole number of times. -/
theorem inUnitsOf_of_common {t : ValueType} (ht : t ∈ ts) : t.InUnitsOf u := by
  match ts, found with
  | t :: t' :: ts, several =>
    have searched : (finestOf t (t' :: ts)).map some = .ok (some u) := several
    cases chosen : finestOf t (t' :: ts) with
    | error cause =>
      rw [chosen] at searched
      cases searched
    | ok x =>
      rw [chosen] at searched
      obtain rfl : x = u := Option.some.inj (Except.ok.inj searched)
      exact finestOf_spec chosen _ ht

/-- With a unit of no family all types have that unit, and the first of them is found. -/
theorem head?_of_common (unknown : MeasureUnit.size? u.unit = none) : ts.head? = some u := by
  have same : ∀ t ∈ ts, t.unitSize = u.unitSize := by
    intro t ht
    obtain ⟨n, ⟨units, -⟩ | ⟨family, member, m, -, part⟩⟩ := inUnitsOf_of_common found ht
    · rw [unitSize, unitSize, units]
    · rw [MeasureUnit.size?_eq_some_iff.mpr ⟨family, member, part⟩] at unknown
      cases unknown
  have least := argmin_of_common found
  match ts, same, least with
  | t :: rest, same, least =>
    have first := List.index_of_argmin least List.mem_cons_self (same t List.mem_cons_self).le
    rw [List.idxOf_cons_self, Nat.le_zero,
      List.idxOf_eq_zero_iff_head_eq (List.cons_ne_nil t rest)] at first
    rw [← first]
    rfl

end

/-- The order of the types does not matter for how fine the finest is. -/
theorem unitSize_of_perm {us : List ValueType} {u v : ValueType} (perm : us.Perm ts)
    (found : common ts = .ok (some u)) (found' : common us = .ok (some v)) :
    v.unitSize = u.unitSize := by
  have here := perm.mem_iff.mp (mem_of_common found')
  have there := perm.mem_iff.mpr (mem_of_common found)
  exact Nat.le_antisymm (List.le_of_mem_argmin there (argmin_of_common found'))
    (List.le_of_mem_argmin here (argmin_of_common found))

/-- Of two types or more either some two are apart, or the first of the finest is found, into
which the others convert by whole factors. The order matters neither for success nor for how
fine that type is. -/
theorem common_finest (ts : List ValueType) (several : 2 ≤ ts.length) :
    ((∃ cause, common ts = .error cause) ↔ ∃ a ∈ ts, ∃ b ∈ ts, a.Apart b) ∧
    (∀ found, common ts = .ok found → ∃ u, found = some u ∧ ts.argmin unitSize = some u ∧
      (MeasureUnit.size? u.unit = none → ts.head? = some u) ∧
      ∀ t ∈ ts, ∃ n, 1 ≤ n ∧ t.unitSize = n * u.unitSize ∧
        MeasureUnit.convert (.ofNat 1) t.unit u.unit = some (.ofNat n)) ∧
    ∀ us, us.Perm ts →
      ((∃ cause, common us = .error cause) ↔ ∃ cause, common ts = .error cause) ∧
      ∀ u v, common ts = .ok (some u) → common us = .ok (some v) →
        v.unitSize = u.unitSize := by
  refine ⟨common_error_iff several, fun found searched => ?_, fun us perm => ⟨?_, fun u v => ?_⟩⟩
  · cases found with
    | none => exact absurd searched (common_ne_none several)
    | some u =>
      refine ⟨u, rfl, argmin_of_common searched, head?_of_common searched, fun t ht => ?_⟩
      obtain ⟨n, holds⟩ := inUnitsOf_of_common searched ht
      exact ⟨n, holds.ratio.2.1, unitSize_of_contains holds, holds.ratio.1⟩
  · rw [common_error_iff several, common_error_iff (perm.length_eq ▸ several)]
    simp only [perm.mem_iff]
  · exact unitSize_of_perm perm

def spelledTimes : List ValueType := [⟨"cpu", "hours"⟩, ⟨"cpus", "NS"⟩, ⟨"cpu", "nanosecond"⟩]

theorem common_finest_spelledTimes :
    2 ≤ spelledTimes.length ∧ common spelledTimes = .ok (some ⟨"cpus", "NS"⟩) ∧
      ∃ n, 1 ≤ n ∧ MeasureUnit.convert (.ofNat 1) "hours" "NS" = some (.ofNat n) := by
  have searched : common spelledTimes = .ok (some ⟨"cpus", "NS"⟩) := by decide +kernel
  obtain ⟨-, finest, -⟩ := common_finest spelledTimes (by decide)
  obtain ⟨u, found, -, -, factors⟩ := finest _ searched
  obtain rfl := Option.some.inj found
  obtain ⟨n, positive, -, ratio⟩ := factors ⟨"cpu", "hours"⟩ (by decide)
  exact ⟨by decide, searched, n, positive, ratio⟩

end ValueType

end Profiling
