import Profiling.Proofs.AddressSpaces
import Profiling.Proofs.Fixpoint
import Profiling.Proofs.Pipeline
import Mathlib.Data.List.Flatten

/-!
# Aggregates that stay apart

What a run hands out is in the order in which merging leaves it, except that mappings without a
name of their own have lost the one that was lent to them. Two of these may look the same then,
and only then the profile would not be merged as it is.
-/

namespace Profiling

open Merge

namespace Profile.Within

theorem trans {p q : Profile} {srcs : List Profile} (h : p.Within [q]) (h' : q.Within srcs) :
    p.Within srcs := by
  obtain ⟨mappings, functions, locations⟩ := h
  rw [List.flatMap_singleton] at mappings functions locations
  exact ⟨mappings.trans h'.mappings, functions.trans h'.functions, locations.trans h'.locations⟩

/-- Two profiles need no more room than their sources together. -/
theorem append_le {a b : Profile} {fs gs : List Profile} (ha : a.Within fs) (hb : b.Within gs) :
    ([a, b].flatMap (·.mappings)).length ≤ ((fs ++ gs).flatMap (·.mappings)).length ∧
      ([a, b].flatMap (·.functions)).length ≤ ((fs ++ gs).flatMap (·.functions)).length ∧
      ([a, b].flatMap (·.locations)).length ≤ ((fs ++ gs).flatMap (·.locations)).length := by
  simp only [List.flatMap_cons, List.flatMap_nil, List.append_nil, List.flatMap_append,
    List.length_append]
  exact ⟨Nat.add_le_add ha.mappings hb.mappings, Nat.add_le_add ha.functions hb.functions,
    Nat.add_le_add ha.locations hb.locations⟩

theorem pair {p a b : Profile} {fs gs : List Profile} (h : p.Within [a, b]) (ha : a.Within fs)
    (hb : b.Within gs) : p.Within (fs ++ gs) := by
  obtain ⟨mappings, functions, locations⟩ := ha.append_le hb
  exact ⟨h.mappings.trans mappings, h.functions.trans functions, h.locations.trans locations⟩

theorem countable_pair {a b : Profile} {fs gs : List Profile} (ha : a.Within fs)
    (hb : b.Within gs) (countable : Countable (fs ++ gs)) : Countable [a, b] := by
  obtain ⟨mappings, functions, locations⟩ := ha.append_le hb
  exact ⟨mappings.trans_lt countable.mappings, functions.trans_lt countable.functions,
    locations.trans_lt countable.locations⟩

end Profile.Within

theorem within_of_merge {srcs : List Profile} {out : Profile} (countable : Countable srcs)
    (run : merge srcs = .ok out) : out.Within srcs := by
  cases srcs with
  | nil => cases run
  | cons first rest =>
    obtain ⟨merged, passed, second⟩ := bind_eq_ok_iff.mp run
    obtain ⟨s, rfl, filed, -, -, within⟩ := pass_filed countable passed
    split at second
    · obtain ⟨-, -, -, -, -, within'⟩ := pass_filed filed.countable second
      exact within'.trans within
    · obtain rfl := Except.ok.inj second
      exact within

/-- In order, without zero samples, and no larger than what was put together. -/
structure Profile.Gathered (srcs : List Profile) (p : Profile) : Prop where
  ordered : p.Ordered
  live : ∀ t ∈ p.samples, t.isZero = false
  within : p.Within srcs

theorem gathered_of_combine {profiles : List Profile} {sources : List Provenance}
    {out : Profile × Provenance} (countable : Countable profiles)
    (run : combine profiles sources = .ok out) : out.1.Gathered profiles := by
  obtain ⟨harmonized, brought, merged, summed, rfl⟩ := combine_eq_ok_iff.mp run
  have countable' := countable.harmonize brought
  obtain ⟨ordered, live⟩ := ordered_of_merge countable' summed
  obtain ⟨mappings, functions, locations⟩ := within_of_merge countable' summed
  obtain ⟨sameMappings, sameFunctions, sameLocations⟩ := Profile.flatMap_harmonize brought
  rw [sameMappings] at mappings
  rw [sameFunctions] at functions
  rw [sameLocations] at locations
  exact ⟨ordered, live, mappings, functions, locations⟩

theorem Merge.Countable.sublist {xs ys : List Profile} (countable : Countable ys)
    (part : xs.Sublist ys) : Countable xs := by
  have fewer : ∀ {α : Type} (f : Profile → List α), (xs.flatMap f).length ≤ (ys.flatMap f).length :=
    fun f => (part.flatMap f).length_le
  exact ⟨(fewer _).trans_lt countable.mappings, (fewer _).trans_lt countable.functions,
    (fewer _).trans_lt countable.locations⟩

namespace Grabber

variable {σ : Type} (g : Grabber (StateM σ))

/-- In whatever groups the fragments were combined, the aggregate is in order. -/
theorem gathered_of_grabAll {tasks : List Task} {world fetched after : σ} {results : Results}
    {grab : Grab} (fetching : (g.fetchAll tasks).run world = (results, fetched))
    (countable : Countable (profiles results.kept))
    (grabbed : (g.grabAll tasks).run world = (.ok (some grab), after)) :
    grab.profile.Gathered (profiles results.kept) := by
  have amounts : Amounts (fun fs a => a.profile.Gathered (profiles fs)) results.kept
      (some grab) := by
    refine g.amounts_of_grabAll fetching ?_ ?_ grabbed
    · intro fs a part made
      obtain ⟨out, combined, made⟩ := bind_eq_ok_iff.mp made
      obtain rfl := Except.ok.inj made
      exact gathered_of_combine (countable.sublist (part.map _)) combined
    · intro fs gs a b c part first second made
      obtain ⟨out, combined, made⟩ := bind_eq_ok_iff.mp made
      obtain rfl := Except.ok.inj made
      have sofar : Countable (profiles fs ++ profiles gs) := by
        rw [profiles, profiles, ← List.map_append]
        exact countable.sublist (part.map _)
      obtain ⟨ordered, live, within⟩ :=
        gathered_of_combine (first.within.countable_pair second.within sofar) combined
      refine ⟨ordered, live, ?_⟩
      rw [profiles, List.map_append]
      exact within.pair first.within second.within
  exact amounts

end Grabber

namespace Mapping

/-- Without a file and a build id. -/
def isNameless (m : Mapping) : Bool := m.file.isEmpty && m.buildId.isEmpty

theorem isNameless_iff {m : Mapping} : m.isNameless = true ↔ m.image = "" := by
  rw [isNameless, image]
  constructor
  · intro nameless
    obtain ⟨file, buildId⟩ := Bool.and_eq_true_iff.mp nameless
    rw [if_pos buildId]
    exact String.isEmpty_iff.mp file
  · intro none
    split at none
    · rename_i empty
      rw [none, empty]
      rfl
    · rename_i named
      rw [none] at named
      exact absurd rfl named

end Mapping

namespace Profile

/-- No two mappings without a name have the same size, up to whole pages, and the same offset. -/
def NamelessApart (p : Profile) : Prop :=
  ((p.mappings.filter Mapping.isNameless).map fun m => (m.roundedSize, m.offset)).Nodup

instance (p : Profile) : Decidable p.NamelessApart := inferInstanceAs (Decidable (List.Nodup _))

theorem namelessApart_iff {p : Profile} : p.NamelessApart ↔
    p.mappings.Pairwise fun m n =>
      m.isNameless = true → n.isNameless = true → m.key ≠ n.key := by
  rw [NamelessApart, List.Nodup, List.pairwise_map, List.pairwise_filter]
  refine List.Pairwise.iff fun m n => ?_
  refine forall₂_congr fun hm hn => not_congr ?_
  rw [Mapping.isNameless_iff] at hm hn
  rw [Mapping.key, Mapping.key, hm, hn]
  constructor
  · intro same
    obtain ⟨size, offset⟩ := Prod.mk.inj same
    rw [size, offset]
  · intro same
    obtain ⟨size, offset, -⟩ := Mapping.Key.mk.inj same
    rw [size, offset]

/-- A profile in order may give its mappings other names, if these tell them apart. -/
theorem Ordered.renamed {p : Profile} (h : p.Ordered) {rename : Mapping → Mapping}
    (ids : ∀ m, (rename m).id = m.id) (starts : ∀ m, (rename m).start = m.start)
    (apart : ((p.mappings.map rename).map Mapping.key).Nodup) :
    ({ p with mappings := p.mappings.map rename } : Profile).Ordered := by
  have sameIds : (p.mappings.map rename).map Mapping.id = p.mappingIds := by
    rw [List.map_map, Profile.mappingIds]
    exact List.map_congr_left fun m _ => ids m
  have startAt : ∀ id, Profile.startAt { p with mappings := p.mappings.map rename } id =
      p.startAt id := by
    intro id
    rw [Profile.startAt, Profile.startAt, mapping?, mapping?, List.find?_map]
    have found : (fun m : Mapping => m.id == id) ∘ rename = fun m => m.id == id :=
      funext fun m => by rw [Function.comp_apply, ids]
    rw [found]
    cases p.mappings.find? fun m => m.id == id with
    | none => rfl
    | some m => simp [starts]
  have keys : p.locations.map (Profile.locationKey { p with mappings := p.mappings.map rename }) =
      p.locations.map p.locationKey :=
    List.map_congr_left fun l _ => by rw [Profile.locationKey, Profile.locationKey, startAt]
  refine ⟨⟨?_, h.lines⟩, ?_, h.functionIds, h.locationIds, apart, h.functions, ?_, h.samples,
    ?_, h.lined, h.stacked, h.stackOrder, h.comments⟩
  · rw [List.length_map]
    exact h.backings
  · rw [Profile.mappingIds, sameIds]
    exact h.mappingIds
  · rw [keys]
    exact h.locations
  · intro l hl
    rw [Profile.mappingIds, sameIds]
    exact h.backed l hl

end Profile

namespace Provenance

variable (sources : Provenance)

/-- A mapping without the name of its source. -/
def unnamed (m : Mapping) : Mapping :=
  if sources.isNamedAfterSource m then { m with file := "" } else m

theorem unsource_eq (p : Profile) :
    sources.unsource p = { p with mappings := p.mappings.map sources.unnamed } := rfl

theorem id_unnamed (m : Mapping) : (sources.unnamed m).id = m.id := by
  rw [unnamed]
  split <;> rfl

theorem start_unnamed (m : Mapping) : (sources.unnamed m).start = m.start := by
  rw [unnamed]
  split <;> rfl

theorem mappingIds_unsource (p : Profile) : (sources.unsource p).mappingIds = p.mappingIds := by
  rw [unsource_eq, Profile.mappingIds, List.map_map]
  exact List.map_congr_left fun m _ => sources.id_unnamed m

theorem key_unnamed (m : Mapping) :
    (sources.unnamed m).isNameless = true ∨ (sources.unnamed m).key = m.key := by
  rw [unnamed]
  split
  · rename_i named
    rw [isNamedAfterSource, Bool.and_eq_true] at named
    exact Or.inl (by simp [Mapping.isNameless, named.1])
  · exact Or.inr rfl

/-- Mappings that were told apart still are, unless both are nameless. -/
theorem nodup_unnamed_iff {p : Profile} (apart : (p.mappings.map Mapping.key).Nodup) :
    ((p.mappings.map sources.unnamed).map Mapping.key).Nodup ↔
      (sources.unsource p).NamelessApart := by
  rw [Profile.namelessApart_iff, unsource_eq, List.pairwise_map, List.map_map, List.Nodup,
    List.pairwise_map]
  rw [List.Nodup, List.pairwise_map] at apart
  constructor
  · intro distinct
    exact distinct.imp fun other _ _ => other
  · intro nameless
    refine (apart.and nameless).imp ?_
    rintro m n ⟨other, both⟩ same
    have images : (sources.unnamed m).image = (sources.unnamed n).image :=
      congrArg Mapping.Key.image same
    rcases sources.key_unnamed m with hm | hm
    · refine both hm ?_ same
      rw [Mapping.isNameless_iff] at hm ⊢
      rw [← images, hm]
    · rcases sources.key_unnamed n with hn | hn
      · refine both ?_ hn same
        rw [Mapping.isNameless_iff] at hn ⊢
        rw [images, hn]
      · exact other (hm.symm.trans (same.trans hn))

end Provenance

/-- A profile that is in order but for equal mappings is merged as it is only without these. -/
theorem eq_merge_alone_iff {p q : Profile} (countable : Countable [p])
    (ordered : (p.mappings.map Mapping.key).Nodup → p.Ordered)
    (live : ∀ t ∈ p.samples, t.isZero = false) (run : merge [p] = .ok q) :
    q = p ↔ (p.mappings.map Mapping.key).Nodup := by
  constructor
  · rintro rfl
    exact (ordered_of_merge countable run).1.mappings
  · intro apart
    have none : p.samples.any Sample.isZero = false := by simpa using live
    have same : merge [p] = .ok p := by
      simp [merge, pass_copied (ordered apart) live, none, bind, Except.bind]
    exact Except.ok.inj (run.symm.trans same)

end Profiling
