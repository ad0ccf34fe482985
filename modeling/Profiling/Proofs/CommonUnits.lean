import Mathlib.Data.List.Basic
import Profiling.Unit

/-!
# Profiles in common units

Profiles that measure the same things in the same units stay as they are when they are
brought to common units, but for their periods, which pass through a floating-point number.
-/

namespace Profiling

theorem mapM_eq_ok {f : α → Except ε β} {g : α → β} {xs : List α}
    (each : ∀ x ∈ xs, f x = .ok (g x)) : xs.mapM f = .ok (xs.map g) := by
  induction xs with
  | nil => rfl
  | cons x xs ih =>
    obtain ⟨head, tail⟩ := List.forall_mem_cons.mp each
    rw [List.mapM_cons, head, ih tail]
    rfl

theorem MeasureUnit.convert_self (value : Binary64) (unit : String) :
    convert value unit unit = some value := by
  simp [convert]

namespace ValueType

theorem isFiner_self (t : ValueType) : t.isFiner t = false := by
  have one : (Binary64.ofNat 1).lt (.ofNat 1) = false := by decide +kernel
  simp [isFiner, MeasureUnit.convert_self, one]

theorem finestOf_replicate (t : ValueType) (m : Nat) :
    finestOf t (List.replicate m t) = .ok t := by
  have same : t.convertible t = true := by simp [convertible]
  induction m with
  | zero => rfl
  | succ m ih => simp [List.replicate_succ, finestOf, same, isFiner_self, ih]

theorem common_replicate (t : ValueType) (m : Nat) :
    common (List.replicate m t) = .ok (if m < 2 then none else some t) := by
  match m with
  | 0 => rfl
  | 1 => rfl
  | m + 2 =>
    have several : ¬m + 2 < 2 := by omega
    rw [if_neg several]
    simp only [List.replicate_succ, common]
    rw [← List.replicate_succ, finestOf_replicate]
    rfl

end ValueType

namespace Profile

section

variable {types : List ValueType} {periodType : Option ValueType} {profiles : List Profile}
  (same : ∀ p ∈ profiles, p.sampleTypes = types ∧ p.periodType = periodType)
include same

theorem column_eq {i : Nat} (inside : i < types.length) :
    column profiles i = List.replicate profiles.length types[i] := by
  rw [List.eq_replicate_iff]
  have found : ∀ p ∈ profiles, p.sampleTypes[i]? = some types[i] := fun p hp => by
    rw [(same p hp).1, List.getElem?_eq_getElem inside]
  constructor
  · rw [column, List.filterMap_congr found]
    simp
  · intro t ht
    obtain ⟨p, hp, here⟩ := List.mem_filterMap.mp ht
    exact Option.some.inj (here.symm.trans (found p hp))

theorem periodTypes_eq : profiles.filterMap (·.periodType) =
    periodType.elim [] fun t => List.replicate profiles.length t := by
  rw [List.filterMap_congr fun p hp => (same p hp).2]
  cases periodType with
  | none => simp
  | some t => simp

/-- With a single profile there is nothing to bring together. -/
theorem commonTypes_eq {first : Profile} (member : first ∈ profiles) :
    commonTypes first profiles =
      .ok ⟨if profiles.length < 2 then none else periodType,
        types.map fun t => if profiles.length < 2 then none else some t⟩ := by
  have period : ValueType.common (profiles.filterMap (·.periodType)) =
      .ok (if profiles.length < 2 then none else periodType) := by
    rw [periodTypes_eq same]
    cases periodType with
    | none => simp [ValueType.common]
    | some t => exact ValueType.common_replicate t _
  have counts : profiles.find? (·.sampleTypes.length ≠ first.sampleTypes.length) = none := by
    rw [List.find?_eq_none]
    intro p hp
    simp [(same p hp).1, (same first member).1]
  have values : (List.range first.sampleTypes.length).mapM
      (fun i => (ValueType.common (column profiles i)).mapError Mismatch.sampleUnits) =
      .ok (types.map fun t => if profiles.length < 2 then none else some t) := by
    have each : ∀ i ∈ List.range first.sampleTypes.length,
        (ValueType.common (column profiles i)).mapError Mismatch.sampleUnits =
          .ok (if profiles.length < 2 then none else types[i]?) := by
      intro i hi
      have inside : i < types.length := by
        rw [← (same first member).1]
        exact List.mem_range.mp hi
      rw [column_eq same inside, ValueType.common_replicate, List.getElem?_eq_getElem inside]
      rfl
    rw [mapM_eq_ok each, (same first member).1]
    refine congrArg Except.ok (List.ext_getElem (by simp) fun i hi _ => ?_)
    have inside : i < types.length := by simpa using hi
    simp [List.getElem?_eq_getElem inside]
  have passed : ∀ t : Option ValueType, (Except.ok t).mapError Mismatch.periodUnits = .ok t :=
    fun _ => rfl
  rw [commonTypes, period]
  simp only [passed, bind, Except.bind, counts, values]
  rfl

end

/-- Without a common type a period stays as it is. -/
theorem convertPeriod_none (p : Profile) : convertPeriod none p = p := by
  obtain ⟨_, _, _, _, _, _, _, _, _, _, _, type, _⟩ := p
  cases type <;> rfl

theorem convertPeriod_eq {p : Profile} {common : Option ValueType}
    (same : common = none ∨ common = p.periodType) :
    convertPeriod common p = { p with period := (convertPeriod common p).period } := by
  rcases same with rfl | kept
  · rw [convertPeriod_none]
  · obtain ⟨_, _, _, _, _, _, _, _, _, _, _, type, _⟩ := p
    rw [kept]
    cases type <;> rfl

/-- Types that are common already are kept. -/
theorem convertTo_eq {p : Profile} {common : CommonTypes} {single : Prop} [Decidable single]
    (period : common.period = if single then none else p.periodType)
    (values : common.values = p.sampleTypes.map fun t => if single then none else some t) :
    convertTo common p = .ok { p with period := (convertPeriod common.period p).period } := by
  have kept := @convertPeriod_eq p common.period (by rw [period]; split <;> simp)
  have near : (Binary64.ofNat 1).nearOne = .near := by decide +kernel
  have pairs : p.sampleTypes.zip common.values =
      p.sampleTypes.map fun t => (t, if single then none else some t) := by
    rw [values, List.map_prod_left_eq_zip]
  have types : retypeEach p.sampleTypes common.values = p.sampleTypes := by
    rw [values]
    induction p.sampleTypes with
    | nil => rfl
    | cons t ts ih =>
      rw [List.map_cons, retypeEach, ih]
      split <;> rfl
  have ratio : ∀ t : ValueType, ratioTo t (if single then none else some t) = .ofNat 1 := by
    intro t
    split
    · rfl
    · simp [ratioTo, MeasureUnit.convert_self]
  rw [convertTo, retyped, kept, types, pairs]
  simp [scaleEach, ratio, near, Function.comp_def]

/-- Profiles of the same types keep all but their periods. -/
theorem harmonize_eq {types : List ValueType} {periodType : Option ValueType}
    {profiles : List Profile}
    (same : ∀ p ∈ profiles, p.sampleTypes = types ∧ p.periodType = periodType) :
    ∃ period : Profile → Int64,
      harmonize profiles = .ok (profiles.map fun p => { p with period := period p }) := by
  cases profiles with
  | nil => exact ⟨fun _ => 0, rfl⟩
  | cons first rest =>
    have common := commonTypes_eq same List.mem_cons_self
    let finest := if (first :: rest).length < 2 then none else periodType
    refine ⟨fun p => (convertPeriod finest p).period, ?_⟩
    simp only [harmonize, common]
    refine mapM_eq_ok fun p hp => ?_
    obtain ⟨sampleTypes, type⟩ := same p hp
    exact convertTo_eq (by rw [type]) (by rw [sampleTypes])

/-- A single profile stays as it is. -/
theorem harmonize_alone (p : Profile) : harmonize [p] = .ok [p] := by
  have types : ∀ q ∈ [p], q.sampleTypes = p.sampleTypes ∧ q.periodType = p.periodType := by simp
  have alone : [p].length < 2 := Nat.lt_succ_self 1
  have common := commonTypes_eq types (List.mem_singleton_self p)
  simp only [if_pos alone] at common
  have kept := @convertTo_eq p ⟨none, p.sampleTypes.map fun _ => none⟩ True _ rfl rfl
  rw [convertPeriod_none] at kept
  simp only [harmonize, common, List.mapM_cons, List.mapM_nil, kept]
  rfl

end Profile

end Profiling
