import Profiling.Profile.Check
import Mathlib.Data.List.Basic

/-!
# Linked profiles

What the check of a profile accepts, said without the order in which it looks.
On a linked profile a number that is referred to finds exactly one part.
-/

namespace Profiling.Profile

/-- Numbers are positive, and no two are the same. -/
def Distinct (ids : List UInt64) : Prop := 0 ∉ ids ∧ ids.Nodup

/-- Every number that is referred to finds one part. -/
structure Resolved (p : Profile) : Prop where
  mappings : Distinct p.mappingIds
  functions : Distinct p.functionIds
  locations : Distinct p.locationIds
  backed : ∀ l ∈ p.locations, l.mappingId = 0 ∨ l.mappingId ∈ p.mappingIds
  lined : ∀ l ∈ p.locations, ∀ ln ∈ l.lines, ln.functionId ∈ p.functionIds
  stacked : ∀ s ∈ p.samples, ∀ id ∈ s.stack, id ∈ p.locationIds

structure Linked (p : Profile) : Prop extends Resolved p where
  typed : p.samples ≠ [] → p.sampleTypes ≠ []
  valued : ∀ s ∈ p.samples, s.values.length = p.sampleTypes.length

theorem firstFault_eq_none {fault : α → Option Inconsistency} {xs : List α} :
    firstFault fault xs = none ↔ ∀ x ∈ xs, fault x = none := by
  simp [firstFault, List.findSome?_eq_none_iff]

theorem valueFault_eq_none {types : Nat} {s : Sample} :
    valueFault types s = none ↔ s.values.length = types := by
  simp [valueFault]

theorem stackFault_eq_none {ids : List UInt64} {s : Sample} :
    stackFault ids s = none ↔ ∀ id ∈ s.stack, id ∈ ids := by
  simp [stackFault]

theorem locationFault_eq_none {mappings functions : List UInt64} {l : Location} :
    locationFault mappings functions l = none ↔
      (l.mappingId = 0 ∨ l.mappingId ∈ mappings) ∧
        ∀ ln ∈ l.lines, ln.functionId ∈ functions := by
  by_cases h : l.mappingId = 0 ∨ l.mappingId ∈ mappings
  · have backed : ¬(l.mappingId ≠ 0 ∧ l.mappingId ∉ mappings) := by
      rintro ⟨h0, hm⟩
      exact h.elim h0 hm
    simp [locationFault, backed, h]
  · have stray : l.mappingId ≠ 0 ∧ l.mappingId ∉ mappings :=
      ⟨fun h0 => h (Or.inl h0), fun hm => h (Or.inr hm)⟩
    simp [locationFault, stray]

/-- Going through the parts, the check keeps the numbers that it has seen. -/
theorem numberingFault_eq_none {id : α → UInt64} {zero : Inconsistency}
    {twice : UInt64 → Inconsistency} {fault : α → Option Inconsistency}
    (seen : List UInt64) (xs : List α) :
    numberingFault id zero twice fault seen xs = none ↔
      Distinct (xs.map id) ∧ (∀ x ∈ xs, id x ∉ seen) ∧ ∀ x ∈ xs, fault x = none := by
  induction xs generalizing seen with
  | nil => simp [numberingFault, Distinct]
  | cons x xs ih =>
    by_cases zeroId : id x = 0
    · simp [numberingFault, Distinct, zeroId]
    by_cases known : id x ∈ seen
    · simp [numberingFault, zeroId, known]
    cases faulty : fault x with
    | some f => simp [numberingFault, zeroId, known, faulty]
    | none =>
      simp only [numberingFault, zeroId, known, faulty, if_false, ih, Distinct, List.map_cons,
        List.mem_cons, List.nodup_cons, List.mem_map, not_or, not_exists, not_and]
      constructor
      · rintro ⟨⟨positive, distinct⟩, fresh, sound⟩
        refine ⟨⟨⟨fun h => zeroId h.symm, positive⟩, fun y hy => (fresh y hy).1, distinct⟩, ?_, ?_⟩
        · rintro y (rfl | hy)
          exacts [known, (fresh y hy).2]
        · rintro y (rfl | hy)
          exacts [faulty, sound y hy]
      · rintro ⟨⟨⟨_, positive⟩, fresh, distinct⟩, unseen, sound⟩
        exact ⟨⟨positive, distinct⟩, fun y hy => ⟨fresh y hy, unseen y (Or.inr hy)⟩,
          fun y hy => sound y (Or.inr hy)⟩

theorem fault?_eq_none {p : Profile} : p.fault? = none ↔ p.Linked := by
  by_cases untyped : p.sampleTypes = [] ∧ p.samples ≠ []
  · have broken : ¬p.Linked := fun h => h.typed untyped.2 untyped.1
    simp [fault?, untyped, broken]
  · have typed : p.samples ≠ [] → p.sampleTypes ≠ [] := fun hs ht => untyped ⟨ht, hs⟩
    simp only [fault?, untyped, if_false, Option.orElse_eq_orElse, Option.orElse_eq_or,
      Option.or_eq_none_iff, firstFault_eq_none, valueFault_eq_none, stackFault_eq_none,
      numberingFault_eq_none, locationFault_eq_none]
    constructor
    · rintro ⟨valued, ⟨mappings, -⟩, ⟨functions, -⟩, ⟨locations, -, sound⟩, stacked⟩
      exact ⟨⟨mappings, functions, locations, fun l hl => (sound l hl).1,
        fun l hl => (sound l hl).2, stacked⟩, typed, valued⟩
    · intro h
      exact ⟨h.valued, ⟨h.mappings, by simp⟩, ⟨h.functions, by simp⟩,
        ⟨h.locations, by simp, fun l hl => ⟨h.backed l hl, h.lined l hl⟩⟩, h.stacked⟩

theorem checkValid_eq_ok_iff {p : Profile} : p.checkValid = .ok () ↔ p.Linked := by
  rw [← fault?_eq_none, checkValid]
  cases p.fault? <;> simp

theorem compatible_eq_ok_iff {p q : Profile} :
    p.compatible q = .ok () ↔ p.periodType = q.periodType ∧ p.sampleTypes = q.sampleTypes := by
  by_cases hp : p.periodType = q.periodType
  · by_cases hs : p.sampleTypes = q.sampleTypes <;> simp [compatible, hp, hs]
  · simp [compatible, hp]

end Profiling.Profile
