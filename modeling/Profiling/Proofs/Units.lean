import Profiling.Proofs.CommonUnits
import Profiling.Proofs.WholeNumbers

/-!
# Units that hold one another

The factor from a unit to a finer one of its family is a whole number, and the floating-point
ratio of the two is that number. Of several types that convert into each other, the finest is
found.
-/

namespace Profiling

namespace MeasureUnit

theorem factor?_eq_some {family : Family} {name : String} {f : Nat}
    (known : family.factor? name = some f) :
    ∃ u ∈ family, String.ofList (plainName name.toList) ∈ u.names ∧ u.factor = f := by
  obtain ⟨u, found, factor⟩ := Option.map_eq_some_iff.mp known
  have named := List.find?_some found
  exact ⟨u, List.mem_of_find?_eq_some found, by simpa using named, factor⟩

/-- What computing with the factors of one family gives. -/
theorem ratio_table : ∀ family ∈ families, ∀ u ∈ family, ∀ v ∈ family,
    0 < u.factor ∧
    (((Binary64.ofNat 1).mul (.ofNat u.factor)).div (.ofNat v.factor)).lt (.ofNat 1) =
      decide (u.factor < v.factor) ∧
    (v.factor ≤ u.factor → v.factor * (u.factor / v.factor) = u.factor ∧
      u.factor / v.factor ≤ Binary64.wholeLimit ∧
      ((Binary64.ofNat 1).mul (.ofNat u.factor)).div (.ofNat v.factor) =
        .ofNat (u.factor / v.factor) ∧
      (Binary64.ofNat (u.factor / v.factor)).nearOne =
        if u.factor / v.factor = 1 then .near else .far) := by
  decide +kernel

/-- A name belongs to one family only. -/
theorem family_unique : ∀ family ∈ families, ∀ other ∈ families, ∀ u ∈ family, ∀ v ∈ other,
    ∀ name ∈ u.names, name ∈ v.names → family = other := by
  decide +kernel

/-- One unit holds so many of another: a unit holds itself once, and in a family the factors
tell. -/
def Contains (source : String) (n : Nat) (target : String) : Prop :=
  source = target ∧ n = 1 ∨
    ∃ family ∈ families, ∃ t, family.factor? source = some (n * t) ∧ family.factor? target = some t

theorem sameFamily_iff {a b : String} : sameFamily a b = true ↔
    ∃ family ∈ families, ∃ f t, family.factor? a = some f ∧ family.factor? b = some t := by
  simp [sameFamily, List.any_eq_true, Option.isSome_iff_exists]

theorem families_eq {family other : Family} (hf : family ∈ families) (ho : other ∈ families)
    {name : String} {f t : Nat} (known : family.factor? name = some f)
    (also : other.factor? name = some t) : family = other := by
  obtain ⟨u, hu, named, -⟩ := factor?_eq_some known
  obtain ⟨v, hv, called, -⟩ := factor?_eq_some also
  exact family_unique family hf other ho u hu v hv _ named called

theorem convert_eq {family : Family} (member : family ∈ families) {source target : String}
    {f t : Nat} (different : source ≠ target) (whole : family.factor? source = some f)
    (part : family.factor? target = some t) (value : Binary64) :
    convert value source target = some ((value.mul (.ofNat f)).div (.ofNat t)) := by
  obtain ⟨before, after, split, fresh⟩ := List.eq_append_cons_of_mem member
  rw [convert, if_neg different, List.findSome?_eq_some_iff]
  refine ⟨before, family, after, split, by simp [whole, part], ?_⟩
  intro other earlier
  have also : other ∈ families := split ▸ List.mem_append_left _ earlier
  cases known : other.factor? source with
  | none => rfl
  | some g =>
    obtain rfl := families_eq member also whole known
    exact absurd earlier fresh

theorem Contains.refl (unit : String) : Contains unit 1 unit := Or.inl ⟨rfl, rfl⟩

theorem Contains.trans {a b c : String} {n m : Nat} (ab : Contains a n b) (bc : Contains b m c) :
    Contains a (n * m) c := by
  rcases ab with ⟨rfl, rfl⟩ | ⟨family, member, t, source, middle⟩
  · rwa [Nat.one_mul]
  · rcases bc with ⟨rfl, rfl⟩ | ⟨other, also, u, middle', target⟩
    · rw [Nat.mul_one]
      exact Or.inr ⟨family, member, t, source, middle⟩
    · obtain rfl := families_eq member also middle middle'
      obtain rfl : t = m * u := Option.some.inj (middle.symm.trans middle')
      exact Or.inr ⟨family, member, u, by rw [source, Nat.mul_assoc], target⟩

/-- The ratio of a unit to one that it contains is a whole number. -/
theorem Contains.ratio {source target : String} {n : Nat} (holds : Contains source n target) :
    convert (.ofNat 1) source target = some (.ofNat n) ∧ 0 < n ∧ n ≤ Binary64.wholeLimit ∧
      (Binary64.ofNat n).nearOne = if n = 1 then .near else .far := by
  by_cases same : source = target
  · have single : n = 1 := by
      rcases holds with ⟨-, single⟩ | ⟨family, member, t, whole, part⟩
      · exact single
      · obtain ⟨v, hv, -, rfl⟩ := factor?_eq_some part
        obtain ⟨positive, -⟩ := ratio_table family member v hv v hv
        rw [same, part] at whole
        exact Nat.eq_of_mul_eq_mul_right positive
          ((Option.some.inj whole).symm.trans (Nat.one_mul _).symm)
    subst same single
    exact ⟨convert_self _ _, by decide, by decide, by decide +kernel⟩
  · obtain ⟨equal, -⟩ | ⟨family, member, t, whole, part⟩ := holds
    · exact absurd equal same
    · rw [convert_eq member same whole part]
      obtain ⟨u, hu, -, source⟩ := factor?_eq_some whole
      obtain ⟨v, hv, -, rfl⟩ := factor?_eq_some part
      obtain ⟨positive, -⟩ := ratio_table family member v hv v hv
      obtain ⟨nonzero, -, divisible⟩ := ratio_table family member u hu v hv
      have several : 0 < n := Nat.pos_of_mul_pos_right (source ▸ nonzero)
      have quotient : u.factor / v.factor = n := by
        rw [source, Nat.mul_div_cancel n positive]
      have fits : v.factor ≤ u.factor := by
        rw [source]
        exact Nat.le_mul_of_pos_left _ several
      obtain ⟨-, bounded, ratio, nearness⟩ := divisible fits
      rw [quotient] at bounded ratio nearness
      exact ⟨by rw [← source, ratio], several, bounded, nearness⟩

/-- In a family the coarser unit holds the finer one a whole number of times. -/
theorem contains_of_le {family : Family} (member : family ∈ families) {source target : String}
    {f t : Nat} (whole : family.factor? source = some f) (part : family.factor? target = some t)
    (coarser : t ≤ f) : Contains source (f / t) target := by
  obtain ⟨u, hu, -, rfl⟩ := factor?_eq_some whole
  obtain ⟨v, hv, -, rfl⟩ := factor?_eq_some part
  obtain ⟨-, -, divisible⟩ := ratio_table family member u hu v hv
  obtain ⟨divides, -⟩ := divisible coarser
  exact Or.inr ⟨family, member, v.factor, by rw [whole, Nat.mul_comm, divides], part⟩

/-- Comparing the ratio with one compares the units. -/
theorem lt_one_eq {family : Family} (member : family ∈ families) {source target : String}
    {f t : Nat} (whole : family.factor? source = some f) (part : family.factor? target = some t) :
    (((Binary64.ofNat 1).mul (.ofNat f)).div (.ofNat t)).lt (.ofNat 1) = decide (f < t) := by
  obtain ⟨u, hu, -, rfl⟩ := factor?_eq_some whole
  obtain ⟨v, hv, -, rfl⟩ := factor?_eq_some part
  exact (ratio_table family member u hu v hv).2.1

end MeasureUnit
namespace ValueType

/-- The values of a type become values of another by multiplying. -/
def InUnitsOf (t finest : ValueType) : Prop := ∃ n, MeasureUnit.Contains t.unit n finest.unit

theorem InUnitsOf.of_eq {t finest : ValueType} (same : t.unit = finest.unit) : t.InUnitsOf finest :=
  ⟨1, Or.inl ⟨same, rfl⟩⟩

theorem InUnitsOf.trans {a b c : ValueType} (ab : a.InUnitsOf b) (bc : b.InUnitsOf c) :
    a.InUnitsOf c := by
  obtain ⟨n, first⟩ := ab
  obtain ⟨m, second⟩ := bc
  exact ⟨n * m, first.trans second⟩

theorem isFiner_of_factors {family : MeasureUnit.Family} (member : family ∈ MeasureUnit.families)
    {finest t : ValueType} {f g : Nat} (different : t.unit ≠ finest.unit)
    (here : family.factor? finest.unit = some f) (there : family.factor? t.unit = some g) :
    t.isFiner finest = decide (g < f) := by
  rw [isFiner, MeasureUnit.convert_eq member different there here]
  exact MeasureUnit.lt_one_eq member there here

/-- Both of two convertible types are in units of the finer one. -/
theorem inUnitsOf_finer {finest t : ValueType} (converts : finest.convertible t = true) :
    finest.InUnitsOf (if t.isFiner finest then t else finest) ∧
      t.InUnitsOf (if t.isFiner finest then t else finest) := by
  simp only [convertible, Bool.and_eq_true, Bool.or_eq_true, beq_iff_eq] at converts
  obtain ⟨-, related⟩ := converts
  by_cases same : finest.unit = t.unit
  · split
    · exact ⟨.of_eq same, .of_eq rfl⟩
    · exact ⟨.of_eq rfl, .of_eq same.symm⟩
  · obtain ⟨family, member, f, g, here, there⟩ :=
      MeasureUnit.sameFamily_iff.mp (related.resolve_left same)
    have finer := isFiner_of_factors member (Ne.symm same) here there
    by_cases less : g < f
    · rw [if_pos (by simp [finer, less])]
      exact ⟨⟨_, MeasureUnit.contains_of_le member here there (Nat.le_of_lt less)⟩, .of_eq rfl⟩
    · rw [if_neg (by simp [finer, less])]
      exact ⟨.of_eq rfl, _, MeasureUnit.contains_of_le member there here (Nat.not_lt.mp less)⟩

/-- Every type is in units of the one that is found to be the finest. -/
theorem finestOf_spec {finest u : ValueType} {ts : List ValueType}
    (found : finestOf finest ts = .ok u) : ∀ t ∈ finest :: ts, t.InUnitsOf u := by
  induction ts generalizing finest with
  | nil =>
    obtain rfl := Except.ok.inj found
    intro t ht
    rw [List.mem_singleton.mp ht]
    exact .of_eq rfl
  | cons t ts ih =>
    rw [finestOf] at found
    split at found
    · rename_i converts
      obtain ⟨first, second⟩ := inUnitsOf_finer converts
      obtain ⟨ahead, rest⟩ := List.forall_mem_cons.mp (ih found)
      intro x hx
      rcases List.mem_cons.mp hx with rfl | hx
      · exact first.trans ahead
      · rcases List.mem_cons.mp hx with rfl | hx
        · exact second.trans ahead
        · exact rest x hx
    · cases found

end ValueType

end Profiling
