import Profiling.Proofs.FinestTypes
import Profiling.Proofs.Truncation

/-!
# Units that are settled

Profiles are brought to common units where they are, one after the other. Whatever can fail has
been checked before the first of them changes, so they change all or not at all. Afterwards every
position has one unit, the finest that was there, and doing it again changes nothing: values are
multiplied by one, and a period that has gone through a double once comes out of it as it is.
-/

namespace Profiling

namespace Profile

variable {profiles out : List Profile} {common : CommonTypes} {p q : Profile}

/-- Converts profiles where they are. A profile whose samples cannot be scaled ends the run, with
those before it converted and itself converted but for its samples. -/
def convertInPlace (common : CommonTypes) : List Profile → List Profile × Except ProfileError Unit
  | [] => ([], .ok ())
  | p :: rest =>
    match convertTo common p with
    | .error e => (p.retyped common :: rest, .error e)
    | .ok q =>
      let (rest, outcome) := convertInPlace common rest
      (q :: rest, outcome)

/-- Brings profiles to common units where they are. Also after a failure there are profiles. -/
def harmonizeInPlace (profiles : List Profile) : List Profile × Except ProfileError Unit :=
  match profiles with
  | [] => ([], .ok ())
  | first :: _ =>
    match commonTypes first profiles with
    | .error cause => (profiles, .error (.incompatible cause))
    | .ok common => convertInPlace common profiles

/-- Once there are common types nothing fails. -/
theorem convertInPlace_spec {profiles : List Profile}
    (width : ∀ p ∈ profiles, common.values.length = p.sampleTypes.length) :
    ∃ out, profiles.mapM (convertTo common) = .ok out ∧
      convertInPlace common profiles = (out, .ok ()) := by
  induction profiles with
  | nil => exact ⟨[], rfl, rfl⟩
  | cons p rest ih =>
    obtain ⟨here, widths⟩ := List.forall_mem_cons.mp width
    obtain ⟨q, converted⟩ := exists_convertTo here
    obtain ⟨others, mapped, run⟩ := ih widths
    refine ⟨q :: others, ?_, ?_⟩
    · rw [List.mapM_cons, converted, mapped]
      rfl
    · rw [convertInPlace, converted, run]

/-- In place the same comes out, or all profiles are what they were. -/
theorem harmonizeInPlace_eq (profiles : List Profile) :
    (∃ cause, harmonize profiles = .error (.incompatible cause) ∧
      harmonizeInPlace profiles = (profiles, .error (.incompatible cause))) ∨
    ∃ out, harmonize profiles = .ok out ∧ harmonizeInPlace profiles = (out, .ok ()) := by
  cases profiles with
  | nil => exact .inr ⟨[], rfl, rfl⟩
  | cons first rest =>
    cases found : commonTypes first (first :: rest) with
    | error cause =>
      refine .inl ⟨cause, ?_, ?_⟩
      · simp only [harmonize, found]
      · simp only [harmonizeInPlace, found]
    | ok common =>
      obtain ⟨out, mapped, run⟩ := convertInPlace_spec (length_values_of_commonTypes found)
      refine .inr ⟨out, ?_, ?_⟩
      · simp only [harmonize, found, mapped]
      · simp only [harmonizeInPlace, found, run]

/-- Types in one unit, which is that of the finest of the types they had before. -/
inductive Settled : List ValueType → List ValueType → Prop
  | nothing : Settled [] []
  | finest {before : List ValueType} {finest : ValueType} : finest ∈ before →
    (∀ t ∈ before, t.InUnitsOf finest ∧ finest.unitSize ≤ t.unitSize) →
    Settled before (before.map ({ · with unit := finest.unit }))

theorem settled_of_common {ts : List ValueType} {found : Option ValueType}
    (searched : ValueType.common ts = .ok found) : Settled ts (ts.map (retype · found)) := by
  match ts, found, searched with
  | [], _, _ => exact .nothing
  | [t], _, searched =>
    obtain rfl := Except.ok.inj searched
    have alone : ∀ u ∈ [t], u.InUnitsOf t ∧ t.unitSize ≤ u.unitSize := by
      intro u hu
      rw [List.mem_singleton.mp hu]
      exact ⟨.of_eq rfl, Nat.le_refl _⟩
    exact .finest (List.mem_singleton_self t) alone
  | t :: u :: ts, none, searched =>
    exact absurd searched (ValueType.common_ne_none (by simp))
  | t :: u :: ts, some x, searched =>
    exact .finest (ValueType.mem_of_common searched) fun v hv =>
      ⟨ValueType.inUnitsOf_of_common searched hv,
        List.le_of_mem_argmin hv (ValueType.argmin_of_common searched)⟩

/-- What conversion leaves alone. -/
structure Retyped (p q : Profile) : Prop where
  rest : q = { p with
    sampleTypes := q.sampleTypes, samples := q.samples
    period := q.period, periodType := q.periodType }
  kinds : q.sampleTypes.map (·.kind) = p.sampleTypes.map (·.kind)
  periodKind : q.periodType.map (·.kind) = p.periodType.map (·.kind)

theorem kind_retype (t : ValueType) (c : Option ValueType) : (retype t c).kind = t.kind := by
  cases c <;> rfl

theorem getElem?_retypeEach (types : List ValueType) (common : List (Option ValueType)) (i : Nat) :
    (retypeEach types common)[i]? = types[i]?.map (retype · (common[i]?.getD none)) := by
  induction types generalizing common i with
  | nil => rfl
  | cons t types ih =>
    cases common with
    | nil =>
      have same : (retype · none) = (id : ValueType → ValueType) := rfl
      simp [retypeEach, same]
    | cons c common =>
      cases i with
      | zero => rfl
      | succ i => exact ih common i

theorem kinds_retypeEach (types : List ValueType) (common : List (Option ValueType)) :
    (retypeEach types common).map (·.kind) = types.map (·.kind) := by
  refine List.ext_getElem? fun i => ?_
  rw [List.getElem?_map, getElem?_retypeEach, Option.map_map, List.getElem?_map]
  exact Option.map_congr fun t _ => kind_retype t _

theorem retyped_of_convertTo (ok : convertTo common p = .ok q) : p.Retyped q := by
  obtain ⟨sampleTypes, periodType⟩ := types_convertTo ok
  refine ⟨?_, ?_, ?_⟩
  · obtain ⟨period, type, frame⟩ := retyped_frame common p
    simp only [convertTo, frame] at ok
    rw [scaleEach_frame ok]
  · rw [sampleTypes, kinds_retypeEach]
  · rw [periodType, Option.map_map]
    exact Option.map_congr fun t _ => kind_retype t common.period

theorem filterMap_of_forall₂ {f : α → Option γ} {f' : β → Option γ} {g : γ → γ}
    {R : α → β → Prop} {xs : List α} {ys : List β}
    (each : ∀ x y, R x y → f' y = (f x).map g) (related : List.Forall₂ R xs ys) :
    ys.filterMap f' = (xs.filterMap f).map g := by
  induction related with
  | nil => rfl
  | @cons x y xs ys here _ ih =>
    rw [List.filterMap_cons, List.filterMap_cons, each x y here, ih]
    cases f x <;> rfl

section

variable {first : Profile} (found : commonTypes first profiles = .ok common)
include found

/-- At every position the common type is that of the column. -/
theorem common_column_of_commonTypes (i : Nat) :
    ValueType.common (column profiles i) = .ok (common.values[i]?.getD none) := by
  obtain ⟨counts, columns⟩ := commonTypes_eq_ok found
  by_cases inside : i < common.values.length
  · have inside' : i < (List.range first.sampleTypes.length).length := columns.length_eq ▸ inside
    have searched := (List.forall₂_iff_get.mp columns).2 i inside' inside
    simp only [List.get_eq_getElem, List.getElem_range] at searched
    rw [searched, List.getElem?_eq_getElem inside, Option.getD_some]
  · have beyond : column profiles i = [] := by
      refine List.filterMap_eq_nil_iff.mpr fun p hp => List.getElem?_eq_none ?_
      rw [← length_values_of_commonTypes found p hp]
      omega
    rw [beyond, List.getElem?_eq_none (Nat.not_lt.mp inside)]
    rfl

variable (converted : List.Forall₂ (fun p q => convertTo common p = .ok q) profiles out)
include converted

/-- All profiles have one unit at each position, the finest that one of them had there. -/
theorem settled_column (i : Nat) : Settled (column profiles i) (column out i) := by
  have each (p q : Profile) (ok : convertTo common p = .ok q) : q.sampleTypes[i]? =
      p.sampleTypes[i]?.map (retype · (common.values[i]?.getD none)) := by
    rw [(types_convertTo ok).1, getElem?_retypeEach]
  have after : column out i =
      (column profiles i).map (retype · (common.values[i]?.getD none)) :=
    filterMap_of_forall₂ each converted
  rw [after]
  exact settled_of_common (common_column_of_commonTypes found i)

theorem settled_periodTypes :
    Settled (profiles.filterMap (·.periodType)) (out.filterMap (·.periodType)) := by
  have after : out.filterMap (·.periodType) =
      (profiles.filterMap (·.periodType)).map (retype · common.period) :=
    filterMap_of_forall₂ (fun _ _ ok => (types_convertTo ok).2) converted
  rw [after]
  exact settled_of_common (common_period_of_commonTypes found)

end

theorem Settled.unit_eq {before after : List ValueType} (settled : Settled before after) :
    ∀ t ∈ after, ∀ u ∈ after, t.unit = u.unit := by
  cases settled with
  | nothing => exact fun _ h => nomatch h
  | finest =>
    rw [List.forall_mem_map]
    intro t _
    rw [List.forall_mem_map]
    exact fun u _ => rfl

theorem Settled.length_eq {before after : List ValueType} (settled : Settled before after) :
    after.length = before.length := by
  cases settled with
  | nothing => rfl
  | finest => exact List.length_map _

def Agrees (t : ValueType) (common : Option ValueType) : Prop := ∀ u ∈ common, u.unit = t.unit

theorem retype_of_agrees {t : ValueType} {c : Option ValueType} (agrees : Agrees t c) :
    retype t c = t := by
  cases c with
  | none => rfl
  | some u => rw [retype, agrees u rfl]

theorem ratioTo_of_agrees {t : ValueType} {c : Option ValueType} (agrees : Agrees t c) :
    ratioTo t c = .ofNat 1 := by
  cases c with
  | none => rfl
  | some u =>
    simp only [ratioTo]
    rw [agrees u rfl, MeasureUnit.convert_self, Option.getD_some]

/-- The period passes through a double even if its unit is the common one. -/
theorem convertPeriod_of_agrees {c : Option ValueType}
    (agrees : ∀ t ∈ p.periodType, Agrees t c ∧
      (c.isSome → (Binary64.ofInt p.period.toInt).truncate = p.period)) :
    convertPeriod c p = p := by
  obtain ⟨_, _, _, _, _, _, _, _, _, _, _, type, period⟩ := p
  cases type with
  | none => rfl
  | some t =>
    cases c with
    | none => rfl
    | some u =>
      obtain ⟨units, kept⟩ := agrees t rfl
      have same : u.unit = t.unit := units u rfl
      have held : (Binary64.ofInt period.toInt).truncate = period := kept rfl
      simp only [convertPeriod, same]
      rw [MeasureUnit.convert_self, Option.getD_some, held]

theorem convertTo_of_agrees (width : common.values.length = p.sampleTypes.length)
    (types : ∀ (i : Nat), ∀ t ∈ p.sampleTypes[i]?, Agrees t (common.values[i]?.getD none))
    (period : ∀ t ∈ p.periodType, Agrees t common.period ∧
      (common.period.isSome → (Binary64.ofInt p.period.toInt).truncate = p.period)) :
    convertTo common p = .ok p := by
  have near : (Binary64.ofNat 1).nearOne = .near := by decide +kernel
  have agree : ∀ pair ∈ p.sampleTypes.zip common.values, Agrees pair.1 pair.2 := by
    intro pair member
    obtain ⟨i, inside, rfl⟩ := List.mem_iff_getElem.mp member
    have both := List.getElem?_eq_getElem inside
    obtain ⟨type, value⟩ := List.getElem?_zip_eq_some.mp both
    have agrees := types i _ type
    rwa [value, Option.getD_some] at agrees
  have kept : p.retyped common = p := by
    have same : retypeEach p.sampleTypes common.values = p.sampleTypes := by
      refine List.ext_getElem? fun i => ?_
      rw [getElem?_retypeEach]
      cases type : p.sampleTypes[i]? with
      | none => rfl
      | some t => exact congrArg some (retype_of_agrees (types i t type))
    rw [retyped, convertPeriod_of_agrees period, same]
  have ratios : ((p.sampleTypes.zip common.values).map fun pair =>
      ratioTo pair.1 pair.2).all (·.nearOne = .near) = true := by
    rw [List.all_map, List.all_eq_true]
    intro pair member
    simp [ratioTo_of_agrees (agree pair member), near]
  rw [convertTo, kept, scaleEach, if_neg (by simp [width]), if_pos ratios]

/-- Profiles that converted into each other still do under the same units. -/
theorem ConvertsTo.inUnits {units : List String} {period : String} {p' q' : Profile}
    (converts : p.ConvertsTo q) (hp : InUnits units period p p') (hq : InUnits units period q q') :
    p'.ConvertsTo q' := by
  have kept {t u : ValueType} (related : t.convertible u = true) (unit : String) :
      ({ t with unit } : ValueType).convertible { u with unit } = true :=
    ValueType.convertible_iff.mpr ⟨(ValueType.convertible_iff.mp related).1, .inl rfl⟩
  constructor
  · obtain ⟨count, related⟩ := List.forall₂_iff_get.mp converts.values
    rw [hp.sampleTypes, hq.sampleTypes]
    refine List.forall₂_iff_get.mpr ⟨by simp [count], fun i hi hi' => ?_⟩
    have inside : i < p.sampleTypes.length := by
      rw [List.length_map, List.length_zip] at hi
      omega
    simp only [List.get_eq_getElem, List.getElem_map, List.getElem_zip]
    exact kept (related i inside (count ▸ inside)) _
  · rw [hp.periodType, hq.periodType]
    intro t ht u hu
    obtain ⟨t₀, type, rfl⟩ := Option.map_eq_some_iff.mp ht
    obtain ⟨u₀, type', rfl⟩ := Option.map_eq_some_iff.mp hu
    exact kept (converts.period t₀ type u₀ type') _

theorem convertsTo_out (ok : harmonize profiles = .ok out) :
    ∀ p ∈ out, ∀ q ∈ out, p.ConvertsTo q := by
  obtain ⟨units, period, same⟩ := inUnits_harmonize ok
  intro p hp q hq
  obtain ⟨p₀, hp₀, here⟩ := exists_of_mem_right same hp
  obtain ⟨q₀, hq₀, there⟩ := exists_of_mem_right same hq
  exact (convertsTo_of_harmonize ok p₀ hp₀ q₀ hq₀).inUnits here there

/-- A common type is found only among two or more. -/
theorem isSome_common_iff {ts : List ValueType} {found : Option ValueType}
    (searched : ValueType.common ts = .ok found) : found.isSome = true ↔ 2 ≤ ts.length := by
  constructor
  · intro some
    obtain ⟨u, rfl⟩ := Option.isSome_iff_exists.mp some
    exact ValueType.two_le_length_of_common searched
  · intro several
    cases found with
    | none => exact absurd searched (ValueType.common_ne_none several)
    | some u => rfl

/-- A period that was converted is the whole part of a double. -/
theorem period_convertTo (ok : convertTo common p = .ok q) {t u : ValueType}
    (type : p.periodType = some t) (found : common.period = some u) :
    ∃ x : Binary64, q.period = x.truncate := by
  have kept : q.period = (convertPeriod common.period p).period := by
    rw [scaleEach_frame ok]
    rfl
  simp only [convertPeriod, type, found] at kept
  exact ⟨_, kept⟩

section

variable {first second : Profile} {again : CommonTypes}
  (found : commonTypes first profiles = .ok common)
  (converted : List.Forall₂ (fun p q => convertTo common p = .ok q) profiles out)
  (found' : commonTypes second out = .ok again)
include found converted found'

/-- Common types that are found a second time leave a converted profile alone. -/
theorem convertTo_again (member : q ∈ out) : convertTo again q = .ok q := by
  refine convertTo_of_agrees (length_values_of_commonTypes found' q member) ?_ ?_
  · intro i t ht u hu
    have searched := common_column_of_commonTypes found' i
    rw [Option.mem_def.mp hu] at searched
    exact (settled_column found converted i).unit_eq u (ValueType.mem_of_common searched) t
      (mem_column.mpr ⟨q, member, ht⟩)
  · intro t ht
    have searched := common_period_of_commonTypes found'
    have periods := settled_periodTypes found converted
    constructor
    · intro u hu
      rw [Option.mem_def.mp hu] at searched
      exact periods.unit_eq u (ValueType.mem_of_common searched) t
        (List.mem_filterMap.mpr ⟨q, member, ht⟩)
    · intro common_again
      obtain ⟨p, hp, ok⟩ := exists_of_mem_right converted member
      -- there are as many period types as before, so one was common the first time too
      have several : 2 ≤ (profiles.filterMap (·.periodType)).length := by
        rw [← periods.length_eq]
        exact (isSome_common_iff searched).mp common_again
      obtain ⟨u, first_time⟩ := Option.isSome_iff_exists.mp
        ((isSome_common_iff (common_period_of_commonTypes found)).mpr several)
      obtain ⟨t₀, type, -⟩ := Option.map_eq_some_iff.mp
        ((types_convertTo ok).2.symm.trans ht)
      obtain ⟨x, period⟩ := period_convertTo ok type first_time
      rw [period]
      exact Binary64.truncate_ofInt_truncate x

end

/-- Doing it again changes nothing. -/
theorem harmonize_harmonize (ok : harmonize profiles = .ok out) : harmonize out = .ok out := by
  obtain ⟨out', again⟩ := exists_harmonize_iff.mpr (convertsTo_out ok)
  rcases harmonize_eq_ok again with ⟨rfl, -⟩ | ⟨second, -, common', found', converted'⟩
  · rfl
  rcases harmonize_eq_ok ok with ⟨-, rfl⟩ | ⟨first, -, common, found, converted⟩
  · rfl
  have same : out = out' := by
    rw [← List.forall₂_eq_eq_eq]
    refine ((List.forall₂_and_left _ _).mpr ⟨fun q hq => hq, converted'⟩).imp ?_
    rintro q q' ⟨member, ok'⟩
    exact Except.ok.inj ((convertTo_again found converted found' member).symm.trans ok')
  rw [again, same]

/-- Bringing profiles to common units fails without a change to any of them, or succeeds and does
no more than that: names of types, which profiles have a period type, and all but units, periods
and samples stay; each position and the period types come to the finest unit that was there; and
doing it again changes nothing. -/
theorem harmonize_settles (profiles : List Profile) :
    (∃ cause, harmonize profiles = .error (.incompatible cause) ∧
      harmonizeInPlace profiles = (profiles, .error (.incompatible cause))) ∨
    ∃ out, harmonize profiles = .ok out ∧ harmonizeInPlace profiles = (out, .ok ()) ∧
      List.Forall₂ Retyped profiles out ∧
      (∀ i, Settled (column profiles i) (column out i)) ∧
      Settled (profiles.filterMap (·.periodType)) (out.filterMap (·.periodType)) ∧
      harmonizeInPlace out = (out, .ok ()) := by
  rcases harmonizeInPlace_eq profiles with failed | ⟨out, ok, run⟩
  · exact .inl failed
  refine .inr ⟨out, ok, run, ?_⟩
  have again : harmonizeInPlace out = (out, .ok ()) := by
    rcases harmonizeInPlace_eq out with ⟨cause, failed, -⟩ | ⟨out', ok', run'⟩
    · rw [harmonize_harmonize ok] at failed
      cases failed
    · rw [harmonize_harmonize ok] at ok'
      rwa [← Except.ok.inj ok'] at run'
  rcases harmonize_eq_ok ok with ⟨rfl, rfl⟩ | ⟨first, -, common, found, converted⟩
  · exact ⟨.nil, fun _ => .nothing, .nothing, again⟩
  · exact ⟨converted.imp fun p q => retyped_of_convertTo, settled_column found converted,
      settled_periodTypes found converted, again⟩

end Profile

end Profiling
