import Profiling.Proofs.MergeState

/-!
# The order of first use

Merging numbers the parts of a profile as it comes upon them. Read in the order in which they
are referred to, their numbers never skip one, and a profile in that order has no choice in how
it is numbered again.
-/

namespace Profiling

/-- How far numbers count that come in the order of their first use: each is at most one more
than the greatest before it. -/
def reach : Nat → List UInt64 → Option Nat
  | n, [] => some n
  | n, id :: ids =>
    if id.toNat ≤ n then reach n ids
    else if id.toNat = n + 1 then reach (n + 1) ids
    else none

theorem reach_append (n : Nat) (a b : List UInt64) :
    reach n (a ++ b) = (reach n a).bind fun m => reach m b := by
  induction a generalizing n with
  | nil => rfl
  | cons id ids ih =>
    rw [List.cons_append, reach, reach]
    split
    · exact ih n
    · split
      · exact ih (n + 1)
      · rfl

theorem reach_trans {n m k : Nat} {a b : List UInt64} (first : reach n a = some m)
    (second : reach m b = some k) : reach n (a ++ b) = some k := by
  rw [reach_append, first, Option.bind_some, second]

/-- Numbers that were all used before count no further. -/
theorem reach_of_le {n : Nat} {ids : List UInt64} (known : ∀ id ∈ ids, id.toNat ≤ n) :
    reach n ids = some n := by
  induction ids with
  | nil => rfl
  | cons id ids ih =>
    obtain ⟨head, tail⟩ := List.forall_mem_cons.mp known
    rw [reach, if_pos head, ih tail]

theorem reach_next {n : Nat} {id : UInt64} (next : id.toNat = n + 1) :
    reach n [id] = some (n + 1) := by
  rw [reach, if_neg (by omega), if_pos next, reach]

theorem le_of_reach {n m : Nat} {ids : List UInt64} (counted : reach n ids = some m) :
    n ≤ m ∧ ∀ id ∈ ids, id.toNat ≤ m := by
  induction ids generalizing n with
  | nil =>
    obtain rfl := Option.some.inj counted
    exact ⟨Nat.le_refl n, fun id hid => nomatch hid⟩
  | cons id ids ih =>
    rw [reach] at counted
    split at counted
    · obtain ⟨more, rest⟩ := ih counted
      refine ⟨more, List.forall_mem_cons.mpr ⟨by omega, rest⟩⟩
    · split at counted
      · obtain ⟨more, rest⟩ := ih counted
        exact ⟨by omega, List.forall_mem_cons.mpr ⟨by omega, rest⟩⟩
      · cases counted

theorem reach_le_add {n m : Nat} {ids : List UInt64} (counted : reach n ids = some m) :
    m ≤ n + ids.length := by
  induction ids generalizing n with
  | nil =>
    obtain rfl := Option.some.inj counted
    exact Nat.le_refl n
  | cons id ids ih =>
    rw [reach] at counted
    rw [List.length_cons]
    split at counted
    · have fewer := ih counted
      omega
    · split at counted
      · have fewer := ih counted
        omega
      · cases counted

/-- A mapping that comes before all references may as well come with the first of them. -/
theorem reach_one {n m : Nat} {ids : List UInt64} {id : UInt64}
    (before : reach 1 ids = some (max 1 n)) (step : reach n [id] = some m) :
    reach 1 (ids ++ [id]) = some (max 1 m) := by
  rw [reach_append, before, Option.bind_some]
  rw [reach] at step
  split at step
  · obtain rfl := Option.some.inj step
    exact reach_of_le (by simp; omega)
  · split at step
    · obtain rfl := Option.some.inj step
      rename_i next
      by_cases first : n = 0
      · subst first
        exact reach_of_le (by simp [next])
      · rw [Nat.max_eq_right (by omega), reach_next next, Nat.max_eq_right (by omega)]
    · cases step

namespace Profile

/-- The mappings and functions of a profile are numbered in the order in which its locations come
upon them. The first mapping comes before all locations. -/
structure InOrder (p : Profile) : Prop where
  backings : reach 1 (p.locations.map Location.mappingId) = some (max 1 p.mappings.length)
  lines : reach 0 (p.locations.flatMap fun l => l.lines.map Line.functionId) =
    some p.functions.length

/-- Everything is numbered in the order of first use, beginning with the samples that come upon
locations, and no two parts are equal. -/
structure Ordered (p : Profile) : Prop extends InOrder p where
  mappingIds : Numbered p.mappingIds
  functionIds : Numbered p.functionIds
  locationIds : Numbered p.locationIds
  mappings : (p.mappings.map Mapping.key).Nodup
  functions : (p.functions.map Function.key).Nodup
  locations : (p.locations.map p.locationKey).Nodup
  samples : (p.samples.map Merge.SampleKey.of).Nodup
  backed : ∀ l ∈ p.locations, l.mappingId = 0 ∨ l.mappingId ∈ p.mappingIds
  lined : ∀ l ∈ p.locations, ∀ ln ∈ l.lines, ln.functionId ∈ p.functionIds
  stacked : ∀ s ∈ p.samples, ∀ id ∈ s.stack, id ∈ p.locationIds
  stackOrder : reach 0 (p.samples.flatMap Sample.stack) = some p.locations.length
  comments : p.comments.Nodup

end Profile

end Profiling
