import Profiling.Proofs.AddressSpaces
import Profiling.Proofs.Upkeep

/-!
# Which profiles can be combined

Two types convert into each other when their kinds agree up to a plural and their units are of
one family. Profiles can be brought to common units exactly when this holds at every position,
whether or not they have period types. Merging wants types that are the same, so it takes what
comes out of this if the kinds were spelled alike and no period type is missing beside another.
-/

namespace Profiling

theorem mapM_eq_error {f : α → Except ε β} {xs : List α} {e : ε} (failed : xs.mapM f = .error e) :
    ∃ x ∈ xs, f x = .error e := by
  induction xs with
  | nil => cases failed
  | cons x xs ih =>
    rw [List.mapM_cons] at failed
    cases head : f x with
    | error e' =>
      rw [head] at failed
      obtain rfl : e' = e := Except.error.inj failed
      exact ⟨x, List.mem_cons_self, head⟩
    | ok y =>
      cases tail : xs.mapM f with
      | error e' =>
        rw [head, tail] at failed
        obtain rfl : e' = e := Except.error.inj failed
        obtain ⟨z, hz, here⟩ := ih tail
        exact ⟨z, List.mem_cons_of_mem _ hz, here⟩
      | ok ys =>
        rw [head, tail] at failed
        cases failed

theorem forM_eq_error {f : α → Except ε PUnit} {xs : List α} {e : ε}
    (failed : xs.forM f = .error e) : ∃ x ∈ xs, f x = .error e := by
  rw [List.forM_eq_forM] at failed
  induction xs with
  | nil => cases failed
  | cons x xs ih =>
    rw [List.forM_cons] at failed
    cases head : f x with
    | error e' =>
      rw [head] at failed
      obtain rfl : e' = e := Except.error.inj failed
      exact ⟨x, List.mem_cons_self, head⟩
    | ok _ =>
      rw [head] at failed
      obtain ⟨z, hz, here⟩ := ih failed
      exact ⟨z, List.mem_cons_of_mem _ hz, here⟩

theorem bind_eq_error_iff {x : Except ε α} {f : α → Except ε β} {e : ε} :
    x >>= f = .error e ↔ x = .error e ∨ ∃ a, x = .ok a ∧ f a = .error e := by
  cases x <;> simp [bind, Except.bind]

theorem mapError_eq_ok_iff {x : Except ε α} {g : ε → δ} {a : α} :
    x.mapError g = .ok a ↔ x = .ok a := by
  cases x <;> simp [Except.mapError]

theorem mapError_eq_error_iff {x : Except ε α} {g : ε → δ} {d : δ} :
    x.mapError g = .error d ↔ ∃ e, x = .error e ∧ g e = d := by
  cases x <;> simp [Except.mapError]

theorem MeasureUnit.sameFamily_symm {a b : String} (ab : sameFamily a b = true) :
    sameFamily b a = true := by
  obtain ⟨family, member, f, t, source, target⟩ := sameFamily_iff.mp ab
  exact sameFamily_iff.mpr ⟨family, member, t, f, target, source⟩

theorem MeasureUnit.sameFamily_trans {a b c : String} (ab : sameFamily a b = true)
    (bc : sameFamily b c = true) : sameFamily a c = true := by
  obtain ⟨family, member, f, t, source, middle⟩ := sameFamily_iff.mp ab
  obtain ⟨other, also, t', g, middle', target⟩ := sameFamily_iff.mp bc
  obtain rfl := families_eq member also middle middle'
  exact sameFamily_iff.mpr ⟨family, member, f, g, source, target⟩

namespace ValueType

theorem convertible_iff {a b : ValueType} : a.convertible b = true ↔
    singular a.kind = singular b.kind ∧
      (a.unit = b.unit ∨ MeasureUnit.sameFamily a.unit b.unit = true) := by
  simp [convertible]

theorem convertible_refl (t : ValueType) : t.convertible t = true :=
  convertible_iff.mpr ⟨rfl, Or.inl rfl⟩

theorem convertible_symm {a b : ValueType} (ab : a.convertible b = true) :
    b.convertible a = true := by
  obtain ⟨kinds, units⟩ := convertible_iff.mp ab
  exact convertible_iff.mpr ⟨kinds.symm, units.imp Eq.symm MeasureUnit.sameFamily_symm⟩

theorem convertible_trans {a b c : ValueType} (ab : a.convertible b = true)
    (bc : b.convertible c = true) : a.convertible c = true := by
  obtain ⟨kinds, units⟩ := convertible_iff.mp ab
  obtain ⟨kinds', units'⟩ := convertible_iff.mp bc
  refine convertible_iff.mpr ⟨kinds.trans kinds', ?_⟩
  rcases units with same | related
  · rwa [same]
  · rcases units' with same' | related'
    · exact Or.inr (same' ▸ related)
    · exact Or.inr (MeasureUnit.sameFamily_trans related related')

/-- Names of one kind of value are the same name. -/
def SpelledAlike (a b : ValueType) : Prop := singular a.kind = singular b.kind → a.kind = b.kind

instance (a b : ValueType) : Decidable (a.SpelledAlike b) :=
  inferInstanceAs (Decidable (_ → _))

theorem SpelledAlike.kind_eq {a b : ValueType} (alike : a.SpelledAlike b)
    (converts : a.convertible b = true) : a.kind = b.kind :=
  alike (convertible_iff.mp converts).1

/-- Every two of some types convert into each other. -/
def Interchangeable (ts : List ValueType) : Prop :=
  ∀ a ∈ ts, ∀ b ∈ ts, a.convertible b = true

/-- The search for the finest type only compares with the finest so far; as types convert into
what theirs convert into, this compares them all. -/
theorem finestOf_ok {finest u : ValueType} {ts : List ValueType}
    (found : finestOf finest ts = .ok u) : ∀ t ∈ finest :: ts, u.convertible t = true := by
  induction ts generalizing finest with
  | nil =>
    obtain rfl := Except.ok.inj found
    simpa using convertible_refl _
  | cons t ts ih =>
    rw [finestOf] at found
    split at found
    · rename_i converts
      obtain ⟨ahead, rest⟩ := List.forall_mem_cons.mp (ih found)
      have both : u.convertible finest = true ∧ u.convertible t = true := by
        split at ahead
        · exact ⟨convertible_trans ahead (convertible_symm converts), ahead⟩
        · exact ⟨ahead, convertible_trans ahead converts⟩
      exact List.forall_mem_cons.mpr ⟨both.1, List.forall_mem_cons.mpr ⟨both.2, rest⟩⟩
    · cases found

/-- When the search fails it names two of the types. -/
theorem finestOf_error {finest : ValueType} {ts : List ValueType} {cause : Mismatch}
    (failed : finestOf finest ts = .error cause) :
    ∃ a ∈ finest :: ts, ∃ b ∈ finest :: ts,
      cause = .valueTypes a b ∧ a.convertible b = false := by
  induction ts generalizing finest with
  | nil => cases failed
  | cons t ts ih =>
    rw [finestOf] at failed
    split at failed
    · obtain ⟨a, ha, b, hb, named, apart⟩ := ih failed
      have among : ∀ x ∈ (if t.isFiner finest then t else finest) :: ts,
          x ∈ finest :: t :: ts := by
        intro x hx
        rcases List.mem_cons.mp hx with rfl | hx
        · split <;> simp
        · simp [hx]
      exact ⟨a, among a ha, b, among b hb, named, apart⟩
    · rename_i apart
      obtain rfl := Except.error.inj failed
      exact ⟨finest, by simp, t, by simp, rfl, by simpa using apart⟩

theorem interchangeable_of_common {ts : List ValueType} {finest : Option ValueType}
    (found : common ts = .ok finest) : Interchangeable ts := by
  match ts, found with
  | [], _ => exact fun _ h => nomatch h
  | [t], _ => simpa [Interchangeable] using convertible_refl t
  | t :: u :: ts, found =>
    have several : (finestOf t (u :: ts)).map some = .ok finest := found
    cases chosen : finestOf t (u :: ts) with
    | error cause =>
      rw [chosen] at several
      cases several
    | ok x =>
      have all := finestOf_ok chosen
      exact fun a ha b hb => convertible_trans (convertible_symm (all a ha)) (all b hb)

theorem common_error {ts : List ValueType} {cause : Mismatch}
    (failed : common ts = .error cause) :
    ∃ a ∈ ts, ∃ b ∈ ts, cause = .valueTypes a b ∧ a.convertible b = false := by
  match ts, failed with
  | t :: u :: ts, failed =>
    have several : (finestOf t (u :: ts)).map some = .error cause := failed
    cases chosen : finestOf t (u :: ts) with
    | error cause' =>
      rw [chosen] at several
      obtain rfl : cause' = cause := Except.error.inj several
      exact finestOf_error chosen
    | ok x =>
      rw [chosen] at several
      cases several

end ValueType

namespace Profile

/-- The types of two profiles convert into each other, position by position. A period type that
is missing does not matter. -/
structure ConvertsTo (p q : Profile) : Prop where
  values : List.Forall₂ (fun t u => t.convertible u = true) p.sampleTypes q.sampleTypes
  period : ∀ t ∈ p.periodType, ∀ u ∈ q.periodType, t.convertible u = true

inductive Unconvertible (profiles : List Profile) : Mismatch → Prop
  | period {p q : Profile} {t u : ValueType} (hp : p ∈ profiles) (hq : q ∈ profiles)
      (ht : p.periodType = some t) (hu : q.periodType = some u) (apart : t.convertible u = false) :
      Unconvertible profiles (.periodUnits (.valueTypes t u))
  | count {p q : Profile} (hp : p ∈ profiles) (hq : q ∈ profiles)
      (apart : p.sampleTypes.length ≠ q.sampleTypes.length) :
      Unconvertible profiles (.sampleTypeCount p.sampleTypes.length q.sampleTypes.length)
  | values {p q : Profile} {i : Nat} {t u : ValueType} (hp : p ∈ profiles) (hq : q ∈ profiles)
      (ht : p.sampleTypes[i]? = some t) (hu : q.sampleTypes[i]? = some u)
      (apart : t.convertible u = false) :
      Unconvertible profiles (.sampleUnits (.valueTypes t u))

variable {first : Profile} {profiles out : List Profile}

theorem Unconvertible.not_convertsTo {cause : Mismatch} (stuck : Unconvertible profiles cause) :
    ¬∀ p ∈ profiles, ∀ q ∈ profiles, p.ConvertsTo q := by
  intro all
  cases stuck with
  | period hp hq ht hu apart =>
    exact Bool.false_ne_true (apart.symm.trans ((all _ hp _ hq).period _ ht _ hu))
  | count hp hq apart => exact apart (all _ hp _ hq).values.length_eq
  | values hp hq ht hu apart =>
    obtain ⟨inside, rfl⟩ := List.getElem?_eq_some_iff.mp ht
    obtain ⟨inside', rfl⟩ := List.getElem?_eq_some_iff.mp hu
    have related := (List.forall₂_iff_get.mp (all _ hp _ hq).values).2 _ inside inside'
    exact Bool.false_ne_true (apart.symm.trans related)

theorem mem_column {i : Nat} {t : ValueType} :
    t ∈ column profiles i ↔ ∃ p ∈ profiles, p.sampleTypes[i]? = some t :=
  List.mem_filterMap

theorem common_period_of_commonTypes {common : CommonTypes}
    (found : commonTypes first profiles = .ok common) :
    ValueType.common (profiles.filterMap (·.periodType)) = .ok common.period := by
  obtain ⟨period, chosen, found⟩ := Merge.bind_eq_ok_iff.mp found
  rw [mapError_eq_ok_iff.mp chosen]
  dsimp only at found
  split at found
  · cases found
  · obtain ⟨values, -, made⟩ := Merge.bind_eq_ok_iff.mp found
    rw [← Except.ok.inj made]

theorem convertsTo_of_commonTypes {common : CommonTypes}
    (found : commonTypes first profiles = .ok common) :
    ∀ p ∈ profiles, ∀ q ∈ profiles, p.ConvertsTo q := by
  intro p hp q hq
  obtain ⟨counts, columns⟩ := commonTypes_eq_ok found
  constructor
  · refine List.forall₂_iff_get.mpr ⟨(counts p hp).trans (counts q hq).symm, fun i hi hi' => ?_⟩
    obtain ⟨c, -, chosen⟩ := exists_of_mem_right columns.flip
      (List.mem_range.mpr (counts p hp ▸ hi))
    exact ValueType.interchangeable_of_common chosen _
      (mem_column.mpr ⟨p, hp, List.getElem?_eq_getElem hi⟩) _
      (mem_column.mpr ⟨q, hq, List.getElem?_eq_getElem hi'⟩)
  · intro t ht u hu
    exact ValueType.interchangeable_of_common (common_period_of_commonTypes found) t
      (List.mem_filterMap.mpr ⟨p, hp, ht⟩) u (List.mem_filterMap.mpr ⟨q, hq, hu⟩)

theorem unconvertible_of_commonTypes {cause : Mismatch} (member : first ∈ profiles)
    (failed : commonTypes first profiles = .error cause) : Unconvertible profiles cause := by
  rcases bind_eq_error_iff.mp failed with periods | ⟨period, -, failed⟩
  · obtain ⟨_, searched, rfl⟩ := mapError_eq_error_iff.mp periods
    obtain ⟨t, ht, u, hu, rfl, apart⟩ := ValueType.common_error searched
    obtain ⟨p, hp, here⟩ := List.mem_filterMap.mp ht
    obtain ⟨q, hq, there⟩ := List.mem_filterMap.mp hu
    exact .period hp hq here there apart
  dsimp only at failed
  split at failed
  · rename_i p other
    obtain rfl := Except.error.inj failed
    have apart : p.sampleTypes.length ≠ first.sampleTypes.length := by
      simpa using List.find?_some other
    exact .count member (List.mem_of_find?_eq_some other) apart.symm
  · rcases bind_eq_error_iff.mp failed with columns | ⟨values, -, made⟩
    · obtain ⟨i, -, wrapped⟩ := mapM_eq_error columns
      obtain ⟨_, searched, rfl⟩ := mapError_eq_error_iff.mp wrapped
      obtain ⟨t, ht, u, hu, rfl, apart⟩ := ValueType.common_error searched
      obtain ⟨p, hp, here⟩ := mem_column.mp ht
      obtain ⟨q, hq, there⟩ := mem_column.mp hu
      exact .values hp hq here there apart
    · cases made

/-- Common types are as many as there are types, so there is a ratio for each value. -/
theorem exists_convertTo {p : Profile} {common : CommonTypes}
    (width : common.values.length = p.sampleTypes.length) : ∃ q, convertTo common p = .ok q := by
  have types : (p.retyped common).sampleTypes.length = p.sampleTypes.length :=
    length_retypeEach p.sampleTypes common.values
  rw [convertTo, scaleEach, if_neg (by simp [types, width])]
  split <;> exact ⟨_, rfl⟩

/-- Once common types are found nothing can fail. -/
theorem unconvertible_of_harmonize {e : ProfileError} (failed : harmonize profiles = .error e) :
    ∃ cause, e = .incompatible cause ∧ Unconvertible profiles cause := by
  match profiles, failed with
  | first :: rest, failed =>
    simp only [harmonize] at failed
    split at failed
    · rename_i cause failed'
      exact ⟨cause, (Except.error.inj failed).symm,
        unconvertible_of_commonTypes List.mem_cons_self failed'⟩
    · rename_i common found
      obtain ⟨p, hp, failed⟩ := mapM_eq_error failed
      obtain ⟨q, ok⟩ := exists_convertTo (length_values_of_commonTypes found p hp)
      rw [ok] at failed
      cases failed

theorem convertsTo_of_harmonize (ok : harmonize profiles = .ok out) :
    ∀ p ∈ profiles, ∀ q ∈ profiles, p.ConvertsTo q := by
  rcases harmonize_eq_ok ok with ⟨rfl, -⟩ | ⟨first, -, common, found, -⟩
  · exact fun _ h => absurd h List.not_mem_nil
  · exact convertsTo_of_commonTypes found

/-- Profiles can be brought to common units exactly when every two convert into each other. -/
theorem exists_harmonize_iff :
    (∃ out, harmonize profiles = .ok out) ↔ ∀ p ∈ profiles, ∀ q ∈ profiles, p.ConvertsTo q := by
  constructor
  · rintro ⟨out, ok⟩
    exact convertsTo_of_harmonize ok
  · intro all
    cases tried : harmonize profiles with
    | ok out => exact ⟨out, rfl⟩
    | error e =>
      obtain ⟨cause, -, stuck⟩ := unconvertible_of_harmonize tried
      exact absurd all stuck.not_convertsTo

structure InUnits (units : List String) (period : String) (p q : Profile) : Prop where
  width : units.length = p.sampleTypes.length
  sampleTypes : q.sampleTypes = (p.sampleTypes.zip units).map fun (t, unit) => { t with unit }
  periodType : q.periodType = p.periodType.map ({ · with unit := period })

theorem periodType_convertPeriod (common : Option ValueType) (p : Profile) :
    (convertPeriod common p).periodType = p.periodType.map (retype · common) := by
  obtain ⟨_, _, _, _, _, _, _, _, _, _, _, type, _⟩ := p
  cases type <;> cases common <;> rfl

theorem types_convertTo {p q : Profile} {common : CommonTypes} (ok : convertTo common p = .ok q) :
    q.sampleTypes = retypeEach p.sampleTypes common.values ∧
      q.periodType = p.periodType.map (retype · common.period) := by
  rw [scaleEach_frame ok, ← periodType_convertPeriod]
  exact ⟨rfl, rfl⟩

/-- All profiles get the same units. -/
theorem inUnits_harmonize (ok : harmonize profiles = .ok out) :
    ∃ units period, List.Forall₂ (InUnits units period) profiles out := by
  rcases harmonize_eq_ok ok with ⟨rfl, rfl⟩ | ⟨first, -, common, found, converted⟩
  · exact ⟨[], "", .nil⟩
  · obtain ⟨units, spec⟩ := commonTypes_spec found
    obtain ⟨period, brings⟩ := common_spec (common_period_of_commonTypes found)
    refine ⟨units, period,
      ((List.forall₂_and_left _ _).mpr ⟨fun p hp => hp, converted⟩).imp ?_⟩
    rintro p q ⟨hp, converted⟩
    obtain ⟨width, factors, brought⟩ := spec p hp
    obtain ⟨sampleTypes, periodType⟩ := types_convertTo converted
    refine ⟨width, sampleTypes.trans brought.retyped, periodType.trans ?_⟩
    refine Option.map_congr fun t ht => ?_
    obtain ⟨n, retyped, -⟩ := brings t (List.mem_filterMap.mpr ⟨p, hp, ht⟩)
    exact retyped

/-- Two profiles do not write one kind of value in the singular and in the plural. -/
structure SpelledAlike (p q : Profile) : Prop where
  kinds : ∀ types ∈ p.sampleTypes.zip q.sampleTypes, types.1.SpelledAlike types.2
  period : ∀ t ∈ p.periodType, ∀ u ∈ q.periodType, t.SpelledAlike u

instance (p q : Profile) : Decidable (p.SpelledAlike q) :=
  decidable_of_iff ((∀ types ∈ p.sampleTypes.zip q.sampleTypes, types.1.SpelledAlike types.2) ∧
      ∀ t ∈ p.periodType, ∀ u ∈ q.periodType, t.SpelledAlike u)
    ⟨fun h => ⟨h.1, h.2⟩, fun h => ⟨h.kinds, h.period⟩⟩

section

variable {units : List String} {period : String} {p q p' q' : Profile}

theorem retyped_eq (types : List ValueType) (units : List String) :
    ((types.zip units).map fun (t, unit) => ({ t with unit } : ValueType)) =
      List.zipWith ValueType.mk (types.map ValueType.kind) units := by
  rw [List.zipWith_map_left, List.zip, List.map_zipWith]

theorem kinds_eq (alike : p.SpelledAlike q) (converts : p.ConvertsTo q) :
    p.sampleTypes.map ValueType.kind = q.sampleTypes.map ValueType.kind := by
  rw [← List.forall₂_eq_eq_eq, List.forall₂_map_left_iff, List.forall₂_map_right_iff]
  obtain ⟨count, related⟩ := List.forall₂_iff_zip.mp converts.values
  exact List.forall₂_iff_zip.mpr
    ⟨count, fun member => (alike.kinds _ member).kind_eq (related member)⟩

/-- Under the same units only a missing period type tells two profiles apart. -/
theorem compatible_inUnits (alike : p.SpelledAlike q) (converts : p.ConvertsTo q)
    (hp : InUnits units period p p') (hq : InUnits units period q q') :
    p'.compatible q' =
      if p'.periodType.isSome = q'.periodType.isSome then .ok ()
      else .error (.incompatible (.periodTypes p'.periodType q'.periodType)) := by
  have sampleTypes : p'.sampleTypes = q'.sampleTypes := by
    rw [hp.sampleTypes, hq.sampleTypes, retyped_eq, retyped_eq,
      kinds_eq alike converts]
  have periodTypes : p'.periodType = q'.periodType ↔
      p'.periodType.isSome = q'.periodType.isSome := by
    have kinds : ∀ t ∈ p.periodType, ∀ u ∈ q.periodType, t.kind = u.kind := fun t ht u hu =>
      (alike.period t ht u hu).kind_eq (converts.period t ht u hu)
    rw [hp.periodType, hq.periodType]
    cases ht : p.periodType <;> cases hu : q.periodType <;> simp_all
  simp only [compatible, sampleTypes, ne_eq, not_true_eq_false, if_false, periodTypes, ite_not]

end

/-- Either all profiles have a period type, or none of them has. -/
def AllOrNoPeriods (profiles : List Profile) : Prop :=
  ∀ p ∈ profiles, ∀ q ∈ profiles, p.periodType.isSome = q.periodType.isSome

instance (profiles : List Profile) : Decidable (AllOrNoPeriods profiles) :=
  inferInstanceAs (Decidable (∀ p ∈ profiles, ∀ q ∈ profiles, _ = _))

theorem allOrNoPeriods_cons {rest : List Profile} : AllOrNoPeriods (first :: rest) ↔
    ∀ p ∈ rest, first.periodType.isSome = p.periodType.isSome := by
  constructor
  · exact fun all p hp => all first List.mem_cons_self p (List.mem_cons_of_mem _ hp)
  · intro all
    have same : ∀ p ∈ first :: rest, first.periodType.isSome = p.periodType.isSome :=
      List.forall_mem_cons.mpr ⟨rfl, all⟩
    exact fun p hp q hq => (same p hp).symm.trans (same q hq)

/-- No period type is added or lost. -/
theorem allOrNoPeriods_harmonize (ok : harmonize profiles = .ok out) :
    AllOrNoPeriods out ↔ AllOrNoPeriods profiles := by
  obtain ⟨units, period, same⟩ := inUnits_harmonize ok
  have presence : out.map (·.periodType.isSome) = profiles.map (·.periodType.isSome) :=
    map_eq_of_forall₂ (fun p q h => by rw [h.periodType, Option.isSome_map]) same
  have onPresence : ∀ ps : List Profile, AllOrNoPeriods ps ↔
      ∀ a ∈ ps.map (·.periodType.isSome), ∀ b ∈ ps.map (·.periodType.isSome), a = b := by
    simp [AllOrNoPeriods]
  rw [onPresence, onPresence, presence]

theorem compatible_harmonize (alike : ∀ p ∈ profiles, ∀ q ∈ profiles, p.SpelledAlike q)
    (ok : harmonize profiles = .ok out) : ∀ p ∈ out, ∀ q ∈ out, p.compatible q =
      if p.periodType.isSome = q.periodType.isSome then .ok ()
      else .error (.incompatible (.periodTypes p.periodType q.periodType)) := by
  obtain ⟨units, period, same⟩ := inUnits_harmonize ok
  have sources : ∀ p' ∈ out, ∃ p ∈ profiles, InUnits units period p p' :=
    fun p' => exists_of_mem_right same
  intro p' hp' q' hq'
  obtain ⟨p, hp, here⟩ := sources p' hp'
  obtain ⟨q, hq, there⟩ := sources q' hq'
  exact compatible_inUnits (alike p hp q hq) (convertsTo_of_harmonize ok p hp q hq) here there

end Profile

theorem exists_merge_iff {first : Profile} {rest : List Profile}
    (linked : ∀ p ∈ first :: rest, p.Linked) (countable : Merge.Countable (first :: rest)) :
    (∃ merged, merge (first :: rest) = .ok merged) ↔
      ∀ p ∈ rest, first.compatible p = .ok () := by
  constructor
  · rintro ⟨merged, run⟩
    exact compatible_of_merge run
  · intro compatible
    obtain ⟨merged, run, -⟩ := Merge.merge_spec countable.supply linked
      (fun p hp => Merge.drawsFrom_supply hp) compatible
    exact ⟨merged, run⟩

/-- Valid profiles fail to merge only because two of them are not compatible. -/
theorem compatible_eq_error_of_merge {first : Profile} {rest : List Profile} {e : ProfileError}
    (linked : ∀ p ∈ first :: rest, p.Linked) (countable : Merge.Countable (first :: rest))
    (failed : merge (first :: rest) = .error e) : ∃ p ∈ rest, first.compatible p = .error e := by
  cases checked : rest.forM first.compatible with
  | ok =>
    have compatible := Merge.forM_eq_ok_iff.mp checked
    obtain ⟨merged, run⟩ := (exists_merge_iff linked countable).mpr compatible
    rw [run] at failed
    cases failed
  | error e' =>
    have same : e' = e := by
      simpa [merge, Merge.pass, checked, bind, Except.bind] using failed
    exact forM_eq_error (same ▸ checked)

/-- Joining what is known of sources cannot fail. -/
theorem combine_eq_error {profiles : List Profile} {sources : List Provenance} {e : ProfileError}
    (failed : combine profiles sources = .error e) : Profile.harmonize profiles = .error e ∨
      ∃ out, Profile.harmonize profiles = .ok out ∧ merge out = .error e := by
  rcases bind_eq_error_iff.mp failed with failed | ⟨out, ok, failed⟩
  · exact Or.inl failed
  · rcases bind_eq_error_iff.mp failed with failed | ⟨merged, -, done⟩
    · exact Or.inr ⟨out, ok, failed⟩
    · cases done

section

variable {profiles : List Profile} (some_profile : profiles ≠ [])
  (valid : ∀ p ∈ profiles, p.checkValid = .ok ()) (countable : Merge.Countable profiles)
  (alike : ∀ p ∈ profiles, ∀ q ∈ profiles, p.SpelledAlike q)
include some_profile valid countable alike

/-- Profiles in common units are merged, or the first of them is told apart from another by a
missing period type. -/
theorem merge_harmonized {out : List Profile} (ok : Profile.harmonize profiles = .ok out) :
    ((∃ merged, merge out = .ok merged) ↔ Profile.AllOrNoPeriods profiles) ∧
      ∀ e, merge out = .error e → ∃ a b : Option ValueType, a.isSome ≠ b.isSome ∧
        e = .incompatible (.periodTypes a b) := by
  have linked : ∀ p ∈ out, p.Linked := Profile.linked_harmonize
    (fun p hp => Profile.checkValid_eq_ok_iff.mp (valid p hp)) ok
  have compared := Profile.compatible_harmonize alike ok
  rw [← Profile.allOrNoPeriods_harmonize ok]
  match out, (Profile.harmonize_parts ok).length_eq with
  | [], nothing => exact absurd (List.length_eq_zero_iff.mp nothing) some_profile
  | first :: rest, _ =>
    constructor
    · rw [exists_merge_iff linked (countable.harmonize ok), Profile.allOrNoPeriods_cons]
      refine forall₂_congr fun p hp => ?_
      rw [compared first List.mem_cons_self p (List.mem_cons_of_mem _ hp)]
      simp
    · intro e failed
      obtain ⟨p, hp, apart⟩ := compatible_eq_error_of_merge linked (countable.harmonize ok) failed
      rw [compared first List.mem_cons_self p (List.mem_cons_of_mem _ hp)] at apart
      split at apart
      · cases apart
      · rename_i differ
        exact ⟨first.periodType, p.periodType, differ, (Except.error.inj apart).symm⟩

/-- Profiles that spell their types alike can be merged once they are in common units, unless
some have a period type and some have none. So they can be combined exactly if in addition every
two convert into each other, and a failure names the pair that does not. -/
theorem combine_succeeds :
    (∀ out, Profile.harmonize profiles = .ok out →
      ((∃ merged, merge out = .ok merged) ↔ Profile.AllOrNoPeriods profiles)) ∧
    ∀ sources, ((∃ made, combine profiles sources = .ok made) ↔
        (∀ p ∈ profiles, ∀ q ∈ profiles, p.ConvertsTo q) ∧ Profile.AllOrNoPeriods profiles) ∧
      ∀ e, combine profiles sources = .error e →
        ∃ cause, e = .incompatible cause ∧ (Profile.Unconvertible profiles cause ∨
          ¬Profile.AllOrNoPeriods profiles ∧ ∃ a b : Option ValueType, a.isSome ≠ b.isSome ∧
            cause = .periodTypes a b) := by
  have merges := fun out => @merge_harmonized profiles some_profile valid countable alike out
  refine ⟨fun out ok => (merges out ok).1, fun sources => ⟨?_, fun e failed => ?_⟩⟩
  · rw [← Profile.exists_harmonize_iff]
    constructor
    · rintro ⟨made, run⟩
      obtain ⟨out, ok, merged, run, -⟩ := combine_eq_ok_iff.mp run
      exact ⟨⟨out, ok⟩, (merges out ok).1.mp ⟨merged, run⟩⟩
    · rintro ⟨⟨out, ok⟩, all⟩
      obtain ⟨merged, run⟩ := (merges out ok).1.mpr all
      exact ⟨_, combine_eq_ok_iff.mpr ⟨out, ok, merged, run, rfl⟩⟩
  · rcases combine_eq_error failed with failed | ⟨out, ok, failed⟩
    · obtain ⟨cause, named, stuck⟩ := Profile.unconvertible_of_harmonize failed
      exact ⟨cause, named, Or.inl stuck⟩
    · obtain ⟨a, b, differ, named⟩ := (merges out ok).2 e failed
      refine ⟨_, named, Or.inr ⟨fun all => ?_, a, b, differ, rfl⟩⟩
      obtain ⟨merged, run⟩ := (merges out ok).1.mpr all
      rw [run] at failed
      cases failed

end

def Profile.timed (kind unit : String) (value : Int64) (periodType : Option ValueType) :
    Profile where
  sampleTypes := [⟨"cpu", unit⟩, ⟨kind, "count"⟩]
  samples := [{ values := [value, 1] }]
  period := 10
  periodType := periodType

theorem combine_succeeds_timed :
    let milli := Profile.timed "samples" "ms" 3 (some ⟨"cpu", "ms"⟩)
    let nano := Profile.timed "samples" "ns" 5 (some ⟨"cpu", "ns"⟩)
    Profile.AllOrNoPeriods [milli, nano] ∧ ∃ made, combine [milli, nano] [] = .ok made := by
  intro milli nano
  have alike : ∀ p ∈ [milli, nano], ∀ q ∈ [milli, nano], p.SpelledAlike q := by decide +kernel
  have valid : ∀ p ∈ [milli, nano], p.checkValid = .ok () := by decide +kernel
  obtain ⟨-, combines⟩ :=
    combine_succeeds (List.cons_ne_nil milli _) valid ⟨by decide, by decide, by decide⟩ alike
  have all : Profile.AllOrNoPeriods [milli, nano] := by decide
  have common : ∃ out, Profile.harmonize [milli, nano] = .ok out := by
    refine ⟨[{ Profile.timed "samples" "ns" 3000000 (some ⟨"cpu", "ns"⟩) with period := 10000000 },
      nano], ?_⟩
    decide +kernel
  exact ⟨all, (combines []).1.mpr ⟨Profile.exists_harmonize_iff.mp common, all⟩⟩

/-- Profiles that are in common units already are refused, if one has no period type, or if
they count `samples` and `sample`. -/
theorem harmonized_not_merged :
    let timed := Profile.timed "samples" "ns" 3 (some ⟨"cpu", "ns"⟩)
    let untimed := Profile.timed "samples" "ns" 5 none
    let single := Profile.timed "sample" "ns" 5 (some ⟨"cpu", "ns"⟩)
    (∀ p ∈ [timed, untimed, single], p.checkValid = .ok ()) ∧
      Profile.harmonize [timed, untimed] = .ok [timed, untimed] ∧
      merge [timed, untimed] = .error (.incompatible (.periodTypes (some ⟨"cpu", "ns"⟩) none)) ∧
      Profile.harmonize [timed, single] = .ok [timed, single] ∧
      merge [timed, single] =
        .error (.incompatible (.sampleTypes timed.sampleTypes single.sampleTypes)) := by
  decide +kernel

end Profiling
