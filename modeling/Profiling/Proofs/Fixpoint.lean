import Profiling.Proofs.Copying

/-!
# Merging twice

A merged profile merged alone stays as it is, and the second pass that drops zero samples never
asks for a third: samples that the first pass kept apart are kept apart again.
-/

namespace Profiling

namespace Merge

variable {stock : Stock} {s : State}

theorem Filed.resolved (h : Filed stock s) : s.out.Resolved :=
  ⟨distinct_of_numbered h.mappings.numbered, distinct_of_numbered h.functions.numbered,
    distinct_of_numbered h.locations.numbered, h.backed, h.lined, h.stacked⟩

/-- Words that number all parts can count them. -/
theorem countable_of_numbered {p : Profile} (mappings : Numbered p.mappingIds)
    (functions : Numbered p.functionIds) (locations : Numbered p.locationIds) : Countable [p] := by
  have mappings := mappings.length_lt
  have functions := functions.length_lt
  have locations := locations.length_lt
  rw [Profile.mappingIds, List.length_map] at mappings
  rw [Profile.functionIds, List.length_map] at functions
  rw [Profile.locationIds, List.length_map] at locations
  exact ⟨by simpa using mappings, by simpa using functions, by simpa using locations⟩

theorem Filed.countable (h : Filed stock s) : Countable [s.out] :=
  countable_of_numbered h.mappings.numbered h.functions.numbered h.locations.numbered

/-- A merged profile can be read, also if its sources could not. -/
theorem Filed.sound (h : Filed stock s) : Sound (supply [s.out]) s :=
  ⟨h.mappings, h.functions, h.locations, h.samples, drawsFrom_supply (List.mem_singleton_self _),
    fun _ hl => h.resolved.exists_frameOf? hl, fun _ ht => h.resolved.exists_trace? ht⟩

/-- Of what a merged profile says, a second pass drops the zeros and nothing else. -/
theorem Filed.pass_again (h : Filed stock s) :
    ∃ again, pass s.out [] = .ok again ∧ again.Ordered ∧ again.readings = s.out.readings.live := by
  obtain ⟨t, run, -, -, readings, -⟩ := @pass_tidy (supply [s.out]) s.out [] h.countable.supply
    (by simpa using h.resolved) (by simpa using h.sound.drawn) (by simp)
  obtain ⟨-, -, -, ordered, -⟩ := pass_filed h.countable run
  refine ⟨t.out, run, ordered, readings.trans ?_⟩
  rw [entries, List.flatMap_singleton,
    Ledger.tally_of_nodup (Ledger.nodup_keys_live h.sound.nodup_readings)]

end Merge

open Merge

/-- Merging as it calls itself: while samples cancel out, what was merged is merged alone, with
at most so many calls inside each other. -/
def mergeWithin : Nat → List Profile → Option (Except ProfileError Profile)
  | _, [] => some (.error .empty)
  | depth, first :: rest =>
    match Merge.pass first rest with
    | .error e => some (.error e)
    | .ok merged =>
      if merged.samples.any Sample.isZero then
        match depth with
        | 0 => none
        | depth + 1 => mergeWithin depth [merged]
      else some (.ok merged)

theorem ordered_of_merge {srcs : List Profile} {out : Profile} (countable : Countable srcs)
    (run : merge srcs = .ok out) : out.Ordered ∧ ∀ t ∈ out.samples, t.isZero = false := by
  cases srcs with
  | nil => cases run
  | cons first rest =>
    obtain ⟨merged, first, second⟩ := bind_eq_ok_iff.mp run
    obtain ⟨s, rfl, filed, ordered, -⟩ := pass_filed countable first
    split at second
    · obtain ⟨again, run', ordered', readings⟩ := filed.pass_again
      obtain rfl : again = out := Except.ok.inj (run'.symm.trans second)
      exact ⟨ordered', fun t ht => isZero_eq_false_of_readings readings ht⟩
    · rename_i live
      obtain rfl : s.out = out := Except.ok.inj second
      exact ⟨ordered, by simpa using live⟩

theorem mergeWithin_of_live {first out : Profile} {rest : List Profile}
    (run : Merge.pass first rest = .ok out) (live : ∀ t ∈ out.samples, t.isZero = false)
    (depth : Nat) : mergeWithin depth (first :: rest) = some (.ok out) := by
  have none : out.samples.any Sample.isZero = false := by simpa using live
  rw [mergeWithin, run]
  simp [none]

theorem mergeWithin_succ (depth : Nat) (srcs : List Profile) (countable : Countable srcs) :
    mergeWithin (depth + 1) srcs = some (merge srcs) := by
  cases srcs with
  | nil => rfl
  | cons first rest =>
    cases run : Merge.pass first rest with
    | error e => simp [mergeWithin, merge, run, bind, Except.bind]
    | ok merged =>
      obtain ⟨s, rfl, filed, -⟩ := pass_filed countable run
      obtain ⟨again, run', -, readings⟩ := filed.pass_again
      have second := mergeWithin_of_live run'
        (fun t ht => isZero_eq_false_of_readings readings ht) depth
      simp only [mergeWithin, merge, run, run', second, bind, Except.bind]
      split <;> rfl

/-- Merging is done after one application, and where it calls itself it does so only once: the
second pass keeps what the first one merged, less the zeros. -/
theorem merge_fixpoint (srcs : List Profile) (countable : Countable srcs) :
    (∀ out, merge srcs = .ok out → merge [out] = .ok out) ∧
    (∀ depth, mergeWithin (depth + 1) srcs = some (merge srcs)) ∧
    ∀ first rest merged, srcs = first :: rest → Merge.pass first rest = .ok merged →
      ∃ again, Merge.pass merged [] = .ok again ∧ again.readings = merged.readings.live ∧
        ∀ t ∈ again.samples, t.isZero = false := by
  refine ⟨fun out run => ?_, fun depth => mergeWithin_succ depth srcs countable, ?_⟩
  · obtain ⟨ordered, live⟩ := ordered_of_merge countable run
    have none : out.samples.any Sample.isZero = false := by simpa using live
    simp [merge, pass_copied ordered live, none, bind, Except.bind]
  · rintro first rest merged rfl run
    obtain ⟨s, rfl, filed, -⟩ := pass_filed countable run
    obtain ⟨again, run', -, readings⟩ := filed.pass_again
    exact ⟨again, run', readings, fun t ht => isZero_eq_false_of_readings readings ht⟩

/-- What is sampled cancels out, so there is a second pass. -/
theorem merge_fixpoint_lone : ∃ out, merge [.lone 0x1000 5, .lone 0x8000 (-5)] = .ok out ∧
    merge [out] = .ok out ∧
    (mergeWithin 0 [.lone 0x1000 5, .lone 0x8000 (-5)]).isNone ∧
    mergeWithin 1 [.lone 0x1000 5, .lone 0x8000 (-5)] = some (.ok out) := by
  obtain ⟨fixed, depth, -⟩ := merge_fixpoint [.lone 0x1000 5, .lone 0x8000 (-5)]
    ⟨by decide, by decide, by decide⟩
  have merges : (merge [.lone 0x1000 5, .lone 0x8000 (-5)]).isOk := by decide +kernel
  cases run : merge [.lone 0x1000 5, .lone 0x8000 (-5)] with
  | error e => simp [run, Except.isOk, Except.toBool] at merges
  | ok out =>
    exact ⟨out, rfl, fixed out run, by decide +kernel, (depth 0).trans (congrArg some run)⟩

end Profiling
