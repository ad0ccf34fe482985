import Mathlib.Data.List.Forall2
import Profiling.Proofs.Consistency
import Profiling.Proofs.Units

/-!
# Conversion to common units

Bringing profiles to common units multiplies every value by the whole factor of its column. As
long as the products need no rounding, a sample is left out exactly when everything in it that is
converted is zero, whatever it has in the other columns.
-/

namespace Profiling

theorem mapM_eq_ok_iff {f : α → Except ε β} {xs : List α} {ys : List β} :
    xs.mapM f = .ok ys ↔ List.Forall₂ (fun x y => f x = .ok y) xs ys := by
  induction xs generalizing ys with
  | nil =>
    rw [List.forall₂_nil_left_iff]
    exact ⟨fun h => (Except.ok.inj h).symm, fun h => h ▸ rfl⟩
  | cons x xs ih =>
    rw [List.mapM_cons, List.forall₂_cons_left_iff]
    constructor
    · intro found
      cases head : f x with
      | error e =>
        rw [head] at found
        cases found
      | ok y =>
        cases tail : xs.mapM f with
        | error e =>
          rw [head, tail] at found
          cases found
        | ok rest =>
          rw [head, tail] at found
          exact ⟨y, rest, rfl, ih.mp tail, (Except.ok.inj found).symm⟩
    · rintro ⟨y, rest, head, tail, rfl⟩
      rw [head, ih.mpr tail]
      rfl

theorem any_zip_map {f : α → γ → Bool} {g : α → β → Bool} {h : β → γ} {xs : List α}
    {ys : List β} (same : ∀ x y, (x, y) ∈ xs.zip ys → f x (h y) = g x y) :
    ((xs.zip (ys.map h)).any fun (x, z) => f x z) = (xs.zip ys).any fun (x, y) => g x y := by
  induction xs generalizing ys with
  | nil => rfl
  | cons x xs ih =>
    cases ys with
    | nil => rfl
    | cons y ys =>
      have head := same x y List.mem_cons_self
      have tail := ih fun x y member => same x y (List.mem_cons_of_mem _ member)
      simp only [List.map_cons, List.zip_cons_cons, List.any_cons, head, tail]

namespace Profile

/-- A column of values is brought to a unit by a whole factor. -/
def Brings (t : ValueType) (common : Option ValueType) (unit : String) (n : Nat) : Prop :=
  retype t common = { t with unit } ∧ ratioTo t common = .ofNat n ∧
    MeasureUnit.Contains t.unit n unit

theorem common_spec {ts : List ValueType} {common : Option ValueType}
    (found : ValueType.common ts = .ok common) :
    ∃ unit, ∀ t ∈ ts, ∃ n, Brings t common unit n := by
  match ts, found with
  | [], _ => exact ⟨"", fun t ht => absurd ht List.not_mem_nil⟩
  | [t], found =>
    obtain rfl := Except.ok.inj found
    refine ⟨t.unit, fun u hu => ?_⟩
    rw [List.mem_singleton.mp hu]
    exact ⟨1, rfl, rfl, .refl t.unit⟩
  | t :: u :: ts, found =>
    have several : (ValueType.finestOf t (u :: ts)).map some = .ok common := found
    cases chosen : ValueType.finestOf t (u :: ts) with
    | error cause =>
      rw [chosen] at several
      cases several
    | ok finest =>
      rw [chosen] at several
      obtain rfl := Except.ok.inj several
      refine ⟨finest.unit, fun x hx => ?_⟩
      obtain ⟨n, holds⟩ := ValueType.finestOf_spec chosen x hx
      have ratio : ratioTo x (some finest) = .ofNat n := by
        rw [ratioTo, holds.ratio.1, Option.getD_some]
      exact ⟨n, rfl, ratio, holds⟩

/-- The common types are found column by column. -/
theorem commonTypes_eq_ok {first : Profile} {profiles : List Profile} {common : CommonTypes}
    (found : commonTypes first profiles = .ok common) :
    (∀ p ∈ profiles, p.sampleTypes.length = first.sampleTypes.length) ∧
      List.Forall₂ (fun i c => ValueType.common (column profiles i) = .ok c)
        (List.range first.sampleTypes.length) common.values := by
  simp only [commonTypes, bind, Except.bind] at found
  split at found
  · cases found
  split at found
  · cases found
  rename_i counts
  split at found
  · cases found
  rename_i values columns
  obtain rfl := Except.ok.inj found
  constructor
  · intro p hp
    simpa using List.find?_eq_none.mp counts p hp
  · refine (mapM_eq_ok_iff.mp columns).imp fun i c passed => ?_
    cases result : ValueType.common (column profiles i) with
    | error cause =>
      rw [result] at passed
      cases passed
    | ok c' =>
      rw [result] at passed
      exact congrArg Except.ok (Except.ok.inj passed)

theorem length_values_of_commonTypes {first : Profile} {profiles : List Profile}
    {common : CommonTypes} (found : commonTypes first profiles = .ok common) :
    ∀ p ∈ profiles, common.values.length = p.sampleTypes.length := by
  obtain ⟨counts, columns⟩ := commonTypes_eq_ok found
  intro p hp
  rw [counts p hp, ← columns.length_eq, List.length_range]

theorem length_retypeEach (types : List ValueType) (common : List (Option ValueType)) :
    (retypeEach types common).length = types.length := by
  induction types generalizing common with
  | nil => rfl
  | cons t types ih =>
    cases common with
    | nil => rfl
    | cons c common => rw [retypeEach, List.length_cons, ih, List.length_cons]

structure Brought (types : List ValueType) (common : List (Option ValueType))
    (units : List String) (factors : List Nat) : Prop where
  retyped : retypeEach types common =
    (types.zip units).map fun (t, unit) => { t with unit }
  ratios : (types.zip common).map (fun (t, c) => ratioTo t c) = factors.map Binary64.ofNat
  contains : List.Forall₂ (fun t n => MeasureUnit.Contains t.1.unit n t.2) (types.zip units) factors

theorem exists_brought {types : List ValueType} {common : List (Option ValueType)}
    {units : List String} (lengths : common.length = types.length ∧ units.length = types.length)
    (each : ∀ (i : Nat) (t : ValueType) (c : Option ValueType) (unit : String), types[i]? = some t →
      common[i]? = some c → units[i]? = some unit → ∃ n, Brings t c unit n) :
    ∃ factors, Brought types common units factors := by
  induction types generalizing common units with
  | nil => exact ⟨[], rfl, rfl, .nil⟩
  | cons t types ih =>
    match common, units, lengths with
    | c :: common, unit :: units, lengths =>
      obtain ⟨n, retyped, ratio, holds⟩ := each 0 t c unit rfl rfl rfl
      obtain ⟨factors, rest⟩ := @ih common units (by simpa using lengths) fun i => each (i + 1)
      refine ⟨n :: factors, ?_, ?_, .cons holds rest.contains⟩
      · simp only [retypeEach, List.zip_cons_cons, List.map_cons, rest.retyped, retyped]
      · simp only [List.zip_cons_cons, List.map_cons, rest.ratios, ratio]

/-- The same units serve for all profiles. -/
theorem commonTypes_spec {first : Profile} {profiles : List Profile} {common : CommonTypes}
    (found : commonTypes first profiles = .ok common) :
    ∃ units : List String, ∀ p ∈ profiles, units.length = p.sampleTypes.length ∧
      ∃ factors, Brought p.sampleTypes common.values units factors := by
  obtain ⟨counts, columns⟩ := commonTypes_eq_ok found
  have each : ∀ i, ∃ unit, ∀ c, common.values[i]? = some c →
      ∀ t ∈ column profiles i, ∃ n, Brings t c unit n := by
    intro i
    cases here : common.values[i]? with
    | none => exact ⟨"", fun c none => nomatch none⟩
    | some c =>
      obtain ⟨inside, rfl⟩ := List.getElem?_eq_some_iff.mp here
      have found := List.forall₂_iff_get.mp columns |>.2 i (columns.length_eq ▸ inside) inside
      simp only [List.get_eq_getElem, List.getElem_range] at found
      obtain ⟨unit, brings⟩ := common_spec found
      exact ⟨unit, fun c same => Option.some.inj same ▸ brings⟩
  choose unit brings using each
  have width : common.values.length = first.sampleTypes.length := by
    simpa using columns.length_eq.symm
  refine ⟨(List.range first.sampleTypes.length).map unit, fun p hp => ?_⟩
  have count := counts p hp
  refine ⟨by simp [count], exists_brought ⟨by rw [width, count], by simp [count]⟩ ?_⟩
  intro i t c u type value named
  have inside : i < first.sampleTypes.length := by
    have bound := (List.getElem?_eq_some_iff.mp type).1
    rwa [count] at bound
  obtain rfl : unit i = u := by simpa [List.getElem?_range inside] using named
  exact brings i c value t (List.mem_filterMap.mpr ⟨p, hp, type⟩)

end Profile

namespace Sample

structure Multiplied (factors : List Nat) (s t : Sample) : Prop where
  stack : t.stack = s.stack
  labels : t.labels = s.labels
  values : t.values.map (·.toInt) =
    List.zipWith (fun v (n : Nat) => v.toInt * (n : Int)) s.values factors

/-- Every product is a whole number that needs no rounding. -/
def Exact (factors : List Nat) (s : Sample) : Prop :=
  ∀ x ∈ s.values.zip factors, (x.1.toInt * (x.2 : Int)).natAbs ≤ Binary64.wholeLimit

instance (factors : List Nat) (s : Sample) : Decidable (s.Exact factors) :=
  inferInstanceAs (Decidable (∀ x ∈ s.values.zip factors,
    (x.1.toInt * (x.2 : Int)).natAbs ≤ Binary64.wholeLimit))

/-- Whether some value that is converted is not zero; with nothing to convert there is nothing
to lose. -/
def outlasts (factors : List Nat) (s : Sample) : Bool :=
  factors.all (· == 1) || (s.values.zip factors).any fun (v, n) => n != 1 && v != 0

theorem scaleValue_toInt {source target : String} {v : Int64} {n : Nat}
    (holds : MeasureUnit.Contains source n target)
    (small : (v.toInt * n).natAbs ≤ Binary64.wholeLimit) :
    (scaleValue v (.ofNat n)).toInt = v.toInt * n := by
  obtain ⟨-, positive, bounded, nearness⟩ := holds.ratio
  by_cases single : n = 1
  · have near : (Binary64.ofNat n).nearOne ≠ .far := by
      rw [nearness, if_pos single]
      decide
    rw [scaleValue, if_neg near, single, Int.natCast_one, Int.mul_one]
  · have far : (Binary64.ofNat n).nearOne = .far := by rw [nearness, if_neg single]
    rw [scaleValue, if_pos far, Binary64.scaleWord_ofNat positive bounded small]
    simp only [Binary64.wholeLimit, Nat.reduceShiftLeft] at small
    exact Int64.toInt_ofInt_of_le (by simp; omega) (by simp; omega)

/-- A value is converted and not zero afterwards if it is converted and not zero before. -/
theorem scaleValue_ne_zero {source target : String} {v : Int64} {n : Nat}
    (holds : MeasureUnit.Contains source n target)
    (small : (v.toInt * (n : Int)).natAbs ≤ Binary64.wholeLimit) :
    (decide ((Binary64.ofNat n).nearOne = .far) && scaleValue v (.ofNat n) != 0) =
      (n != 1 && v != 0) := by
  obtain ⟨-, positive, -, nearness⟩ := holds.ratio
  have far : decide ((Binary64.ofNat n).nearOne = .far) = (n != 1) := by
    rw [nearness]
    by_cases single : n = 1 <;> simp [single]
  have zero : scaleValue v (.ofNat n) = 0 ↔ v = 0 := by
    rw [← Int64.toInt_inj, scaleValue_toInt holds small, ← Int64.toInt_inj, Int64.toInt_zero,
      Int.mul_eq_zero]
    omega
  rw [far, Bool.eq_iff_iff]
  simp [zero]

section

variable {factors : List Nat}
  (whole : ∀ n ∈ factors, ∃ source target, MeasureUnit.Contains source n target)
include whole

theorem scaledValues_toInt {vs : List Int64} (count : vs.length = factors.length)
    (small : ∀ x ∈ vs.zip factors, (x.1.toInt * (x.2 : Int)).natAbs ≤ Binary64.wholeLimit) :
    (scaledValues vs (factors.map .ofNat)).map (·.toInt) =
      List.zipWith (fun v (n : Nat) => v.toInt * (n : Int)) vs factors := by
  induction factors generalizing vs with
  | nil =>
    rw [List.length_eq_zero_iff.mp count]
    rfl
  | cons n factors ih =>
    match vs, count with
    | v :: vs, count =>
      obtain ⟨⟨_, _, holds⟩, rest⟩ := List.forall_mem_cons.mp whole
      have head := scaleValue_toInt holds (small (v, n) List.mem_cons_self)
      have tail := ih rest (by simpa using count) fun x member =>
        small x (List.mem_cons_of_mem _ member)
      simp only [List.map_cons, scaledValues, List.zipWith_cons_cons, head, tail]

/-- A sample survives when it has a value that is converted and not zero. -/
theorem survives_eq {s : Sample} (small : s.Exact factors) :
    s.survives (factors.map .ofNat) =
      (s.values.zip factors).any fun (v, n) => n != 1 && v != 0 := by
  rw [survives]
  refine any_zip_map (f := fun v r => decide (r.nearOne = .far) && scaleValue v r != 0)
    (g := fun v n => n != 1 && v != 0) fun v n member => ?_
  obtain ⟨_, _, holds⟩ := whole n (List.of_mem_zip member).2
  exact scaleValue_ne_zero holds (small (v, n) member)

theorem multiplied_scale {s : Sample} (count : s.values.length = factors.length)
    (small : s.Exact factors) : s.Multiplied factors (s.scale (factors.map .ofNat)) :=
  ⟨rfl, rfl, scaledValues_toInt whole count small⟩

end

theorem multiplied_ones {factors : List Nat} {s : Sample}
    (count : s.values.length = factors.length) (ones : ∀ n ∈ factors, n = 1) :
    s.Multiplied factors s := by
  refine ⟨rfl, rfl, ?_⟩
  rw [List.eq_replicate_iff.mpr ⟨rfl, ones⟩, ← count]
  induction s.values with
  | nil => rfl
  | cons v vs ih =>
    rw [List.map_cons, List.length_cons, List.replicate_succ, List.zipWith_cons_cons, ← ih]
    simp

end Sample

namespace Profile

/-- The samples with a non-zero value are all there, in the same order, multiplied. -/
def KeepsMeasurements (factors : List Nat) (p q : Profile) : Prop :=
  List.SublistForall₂ (Sample.Multiplied factors) (p.samples.filter fun s => !s.isZero) q.samples

section

variable {p q : Profile} {factors : List Nat}
  (whole : ∀ n ∈ factors, ∃ source target, MeasureUnit.Contains source n target)
  (types : p.sampleTypes.length = factors.length)
  (valued : ∀ s ∈ p.samples, s.values.length = factors.length)
  (small : ∀ s ∈ p.samples, s.Exact factors)
  (scaled : p.scaleEach (factors.map .ofNat) = .ok q)
include whole types valued small scaled

/-- What scaling by whole factors leaves. -/
theorem scaleEach_spec : List.Forall₂ (Sample.Multiplied factors)
    (p.samples.filter (·.outlasts factors)) q.samples := by
  have count : ¬p.sampleTypes.length ≠ (factors.map Binary64.ofNat).length := by simp [types]
  have near : ∀ n ∈ factors, (Binary64.ofNat n).nearOne = .near ↔ n = 1 := by
    intro n hn
    obtain ⟨_, _, holds⟩ := whole n hn
    rw [holds.ratio.2.2.2]
    by_cases single : n = 1 <;> simp [single]
  rw [scaleEach, if_neg count] at scaled
  by_cases ones : ∀ n ∈ factors, n = 1
  · have unchanged : (factors.map Binary64.ofNat).all (·.nearOne = .near) = true := by
      rw [List.all_eq_true, List.forall_mem_map]
      exact fun n hn => decide_eq_true ((near n hn).mpr (ones n hn))
    rw [if_pos unchanged] at scaled
    obtain rfl := Except.ok.inj scaled
    have all : ∀ s ∈ p.samples, s.outlasts factors = true := by
      intro s _
      simpa [Sample.outlasts] using Or.inl ones
    rw [List.filter_eq_self.mpr all]
    exact List.forall₂_same.mpr fun s hs => Sample.multiplied_ones (valued s hs) ones
  · have converting : ¬(factors.map Binary64.ofNat).all (·.nearOne = .near) = true := by
      rw [List.all_eq_true, List.forall_mem_map]
      exact fun all => ones fun n hn => (near n hn).mp (of_decide_eq_true (all n hn))
    rw [if_neg converting] at scaled
    obtain rfl := Except.ok.inj scaled
    have kept : p.samples.filter (·.survives (factors.map .ofNat)) =
        p.samples.filter (·.outlasts factors) := by
      refine List.filter_congr fun s hs => ?_
      have converts : factors.all (· == 1) = false := by simpa using ones
      rw [Sample.survives_eq whole (small s hs), Sample.outlasts, converts, Bool.false_or]
    rw [kept, List.forall₂_map_right_iff, List.forall₂_same]
    intro s hs
    have member := List.mem_of_mem_filter hs
    exact Sample.multiplied_scale whole (valued s member) (small s member)

end

theorem sublistForall₂_filter {R : α → β → Prop} {xs : List α} {ys : List β}
    (related : List.Forall₂ R xs ys) (keep : α → Bool) :
    List.SublistForall₂ R (xs.filter keep) ys := by
  induction related with
  | nil => exact .nil
  | @cons x y xs ys related _ ih =>
    rw [List.filter_cons]
    split
    · exact .cons related ih
    · exact .cons_right ih

/-- Nothing is lost exactly when what is not zero has something converted that is not zero. -/
theorem keepsMeasurements_iff {p q : Profile} {factors : List Nat}
    (kept : List.Forall₂ (Sample.Multiplied factors) (p.samples.filter (·.outlasts factors))
      q.samples) :
    p.KeepsMeasurements factors q ↔
      ∀ s ∈ p.samples, s.isZero = false → s.outlasts factors = true := by
  by_cases ones : factors.all (· == 1) = true
  · have all : ∀ s : Sample, s.outlasts factors = true := fun s => by simp [Sample.outlasts, ones]
    rw [List.filter_eq_self.mpr fun s _ => all s] at kept
    exact iff_of_true (sublistForall₂_filter kept _) fun s _ _ => all s
  have measured : ∀ s : Sample, s.outlasts factors = true → s.isZero = false := by
    intro s outlasts
    simp only [Sample.outlasts, ones, Bool.false_or, List.any_eq_true] at outlasts
    obtain ⟨⟨v, n⟩, member, converted⟩ := outlasts
    have nonzero : v ≠ 0 := by simp_all
    rw [← Bool.not_eq_true, Sample.isZero, List.all_eq_true]
    exact fun zero => nonzero (by simpa using zero v (List.of_mem_zip member).1)
  have outlasting : (p.samples.filter fun s => !s.isZero).filter (·.outlasts factors) =
      p.samples.filter (·.outlasts factors) := by
    rw [List.filter_filter]
    refine List.filter_congr fun s _ => ?_
    cases outlasts : s.outlasts factors with
    | false => rfl
    | true => rw [measured s outlasts, Bool.not_false, Bool.true_and]
  rw [← outlasting] at kept
  constructor
  · intro keeps s hs nonzero
    obtain ⟨found, multiplied, sublist⟩ := List.sublistForall₂_iff.mp keeps
    have enough := sublist.length_le
    rw [← multiplied.length_eq, ← kept.length_eq] at enough
    have whole := List.length_filter_eq_length_iff.mp
      (Nat.le_antisymm (List.length_filter_le _ _) enough)
    exact whole s (List.mem_filter.mpr ⟨hs, by rw [nonzero, Bool.not_false]⟩)
  · intro outlast
    have same : (p.samples.filter fun s => !s.isZero).filter (·.outlasts factors) =
        p.samples.filter fun s => !s.isZero := by
      refine List.filter_eq_self.mpr fun s hs => ?_
      obtain ⟨member, nonzero⟩ := List.mem_filter.mp hs
      exact outlast s member (by simpa using nonzero)
    rw [same] at kept
    exact List.sublistForall₂_iff.mpr ⟨q.samples, kept, .refl _⟩

/-- A profile brought to other units by whole factors. As long as the products are exact, those
samples are left that have something converted that is not zero. -/
structure ConvertedBy (p : Profile) (factors : List Nat) (units : List String) (q : Profile) :
    Prop where
  count : factors.length = p.sampleTypes.length
  positive : ∀ n ∈ factors, 0 < n
  types : q.sampleTypes = (p.sampleTypes.zip units).map fun (t, unit) => { t with unit }
  contains : List.Forall₂ (fun t n => MeasureUnit.Contains t.1.unit n t.2)
    (p.sampleTypes.zip units) factors
  rest : q = { p with
    sampleTypes := q.sampleTypes, samples := q.samples
    period := q.period, periodType := q.periodType }
  samples : (∀ s ∈ p.samples, s.Exact factors) →
    List.Forall₂ (Sample.Multiplied factors) (p.samples.filter (·.outlasts factors)) q.samples
  keeps : (∀ s ∈ p.samples, s.Exact factors) →
    (p.KeepsMeasurements factors q ↔
      ∀ s ∈ p.samples, s.isZero = false → s.outlasts factors = true)

theorem convertPeriod_frame (common : Option ValueType) (p : Profile) :
    ∃ period periodType, convertPeriod common p = { p with period, periodType } := by
  obtain ⟨_, _, _, _, _, _, _, _, _, _, _, type, _⟩ := p
  cases type <;> cases common <;> exact ⟨_, _, rfl⟩

theorem retyped_frame (common : CommonTypes) (p : Profile) :
    ∃ period periodType, p.retyped common =
      { p with sampleTypes := retypeEach p.sampleTypes common.values, period, periodType } := by
  obtain ⟨period, periodType, frame⟩ := convertPeriod_frame common.period p
  exact ⟨period, periodType, by rw [retyped, frame]⟩

theorem scaleEach_frame {p q : Profile} {ratios : List Binary64}
    (scaled : p.scaleEach ratios = .ok q) : q = { p with samples := q.samples } := by
  rw [scaleEach] at scaled
  split at scaled
  · cases scaled
  · split at scaled <;> rw [← Except.ok.inj scaled]

theorem convertTo_spec {p q : Profile} {common : CommonTypes} {units : List String}
    {factors : List Nat} (valid : p.checkValid = .ok ())
    (width : units.length = p.sampleTypes.length)
    (brought : Brought p.sampleTypes common.values units factors)
    (ok : convertTo common p = .ok q) : p.ConvertedBy factors units q := by
  have valued := (checkValid_eq_ok_iff.mp valid).valued
  have count : factors.length = p.sampleTypes.length := by
    rw [← brought.contains.length_eq, List.length_zip, width, Nat.min_self]
  have whole : ∀ n ∈ factors, ∃ source target, MeasureUnit.Contains source n target := by
    intro n hn
    obtain ⟨i, inside, rfl⟩ := List.mem_iff_getElem.mp hn
    have paired := brought.contains.length_eq ▸ inside
    exact ⟨_, _, (List.forall₂_iff_get.mp brought.contains).2 i paired inside⟩
  have positive : ∀ n ∈ factors, 0 < n := by
    intro n hn
    obtain ⟨_, _, holds⟩ := whole n hn
    exact holds.ratio.2.1
  obtain ⟨period, periodType, frame⟩ := retyped_frame common p
  simp only [convertTo, frame, brought.ratios, brought.retyped] at ok
  have samples : (∀ s ∈ p.samples, s.Exact factors) →
      List.Forall₂ (Sample.Multiplied factors) (p.samples.filter (·.outlasts factors))
        q.samples := by
    intro small
    refine scaleEach_spec (p := { p with sampleTypes := _, period, periodType }) whole ?_ ?_ ?_ ok
    · rw [List.length_map, List.length_zip, width, Nat.min_self, count]
    · exact fun s hs => (valued s hs).trans count.symm
    · exact small
  refine ⟨count, positive, ?_, brought.contains, ?_, samples,
    fun small => keepsMeasurements_iff (samples small)⟩
  · rw [scaleEach_frame ok]
  · rw [scaleEach_frame ok]

/-- Where there is a profile, common types are found and each profile is converted to them. -/
theorem harmonize_eq_ok {profiles out : List Profile} (ok : harmonize profiles = .ok out) :
    profiles = [] ∧ out = [] ∨
      ∃ first ∈ profiles, ∃ common, commonTypes first profiles = .ok common ∧
        List.Forall₂ (fun p q => convertTo common p = .ok q) profiles out := by
  cases profiles with
  | nil => exact Or.inl ⟨rfl, (Except.ok.inj ok).symm⟩
  | cons first rest =>
    simp only [harmonize] at ok
    split at ok
    · cases ok
    · rename_i common found
      exact Or.inr ⟨first, List.mem_cons_self, common, found, mapM_eq_ok_iff.mp ok⟩

/-- Bringing profiles to common units multiplies their values by whole factors. It keeps every
measurement exactly if each has something converted that is not zero. -/
theorem harmonize_spec {profiles out : List Profile}
    (valid : ∀ p ∈ profiles, p.checkValid = .ok ()) (ok : harmonize profiles = .ok out) :
    ∃ units, List.Forall₂ (fun (p q : Profile) => ∃ factors, p.ConvertedBy factors units q)
      profiles out := by
  match profiles, ok with
  | [], ok =>
    obtain rfl := Except.ok.inj ok
    exact ⟨[], .nil⟩
  | first :: rest, ok =>
    simp only [harmonize] at ok
    split at ok
    · cases ok
    rename_i common found
    obtain ⟨units, spec⟩ := commonTypes_spec found
    have each := (List.forall₂_and_left _ _).mpr
      ⟨fun p hp => And.intro (valid p hp) (spec p hp), mapM_eq_ok_iff.mp ok⟩
    refine ⟨units, each.imp ?_⟩
    rintro p q ⟨⟨valid, width, factors, brought⟩, converted⟩
    exact ⟨factors, convertTo_spec valid width brought converted⟩

/-- Counts beside times in milliseconds; one measurement has no time. -/
def idleCounts : Profile where
  sampleTypes := [⟨"samples", "count"⟩, ⟨"cpu", "milliseconds"⟩]
  samples := [{ values := [5, 0] }, { values := [1, 2] }]

def fineCounts : Profile where
  sampleTypes := [⟨"samples", "count"⟩, ⟨"cpu", "nanoseconds"⟩]
  samples := [{ values := [1, 7] }]

def idleCountsConverted : Profile where
  sampleTypes := fineCounts.sampleTypes
  samples := [{ values := [1, 2000000] }]

theorem harmonize_spec_counts :
    (∀ p ∈ [idleCounts, fineCounts], p.checkValid = .ok ()) ∧
      harmonize [idleCounts, fineCounts] = .ok [idleCountsConverted, fineCounts] ∧
      ∃ units, List.Forall₂ (fun (p q : Profile) => ∃ factors, p.ConvertedBy factors units q)
        [idleCounts, fineCounts] [idleCountsConverted, fineCounts] := by
  have valid : ∀ p ∈ [idleCounts, fineCounts], p.checkValid = .ok () := by decide +kernel
  have ok : harmonize [idleCounts, fineCounts] = .ok [idleCountsConverted, fineCounts] := by
    decide +kernel
  exact ⟨valid, ok, harmonize_spec valid ok⟩

/-- The measurement without time is lost, though all products are exact. -/
theorem harmonize_loses_idle :
    (∀ p ∈ [idleCounts, fineCounts], p.checkValid = .ok ()) ∧
      harmonize [idleCounts, fineCounts] = .ok [idleCountsConverted, fineCounts] ∧
      MeasureUnit.Contains "milliseconds" 1000000 "nanoseconds" ∧
      (∀ s ∈ idleCounts.samples, s.Exact [1, 1000000]) ∧
      ¬idleCounts.KeepsMeasurements [1, 1000000] idleCountsConverted := by
  have holds : MeasureUnit.Contains "milliseconds" 1000000 "nanoseconds" :=
    Or.inr ⟨MeasureUnit.times, by decide, 1, by decide +kernel, by decide +kernel⟩
  refine ⟨by decide +kernel, by decide +kernel, holds, by decide +kernel, fun keeps => ?_⟩
  obtain ⟨found, multiplied, sublist⟩ := List.sublistForall₂_iff.mp keeps
  have measured : (idleCounts.samples.filter fun s => !s.isZero).length = 2 := by decide +kernel
  have left : idleCountsConverted.samples.length = 1 := rfl
  have enough := sublist.length_le
  rw [← multiplied.length_eq, measured, left] at enough
  omega

end Profile

end Profiling
