import Profiling.Proofs.Compatibility
import Profiling.Proofs.MergeLookups

/-!
# Parts that are found

What the check of a profile is good for: on a profile that it accepts, every number that is looked
up in merging, pruning and symbolization is the number of exactly one part.
-/

namespace Profiling

/-- Profiles that are linked fail to merge only if there are none or two are not compatible. -/
theorem merge_ne_malformed {srcs : List Profile} (linked : ∀ src ∈ srcs, src.Linked)
    (countable : Merge.Countable srcs) (fault : Malformation) :
    merge srcs ≠ .error (.malformed fault) := by
  intro failed
  cases srcs with
  | nil => cases failed
  | cons first rest =>
    obtain ⟨p, -, apart⟩ := compatible_eq_error_of_merge linked countable failed
    rw [Profile.compatible] at apart
    split_ifs at apart <;> cases apart

namespace Profile

/-- Pruning asks of a number just what it asks of the only function or location with it. -/
structure PrunesSole (p : Profile) (filter : FrameFilter) : Prop where
  lines : ∀ l ∈ p.locations, ∀ ln ∈ l.lines, ∃ f, Sole Function.id ln.functionId p.functions f ∧
    (p.droppedIds filter).contains ln.functionId = filter.drops f.name
  frames : ∀ s ∈ p.samples, ∀ id ∈ s.stack, ∃ l, Sole Location.id id p.locations l ∧
    p.fateAt filter id = l.fate (p.droppedIds filter)

theorem contains_droppedIds (p : Profile) (filter : FrameFilter) {id : UInt64} {f : Function}
    (only : Sole Function.id id p.functions f) :
    (p.droppedIds filter).contains id = filter.drops f.name := by
  rw [Bool.eq_iff_iff, List.contains_iff_mem, droppedIds, List.mem_map]
  constructor
  · rintro ⟨g, dropped, same⟩
    obtain ⟨member, drops⟩ := List.mem_filter.mp dropped
    rwa [(only.mem_iff g).mp ⟨member, same⟩] at drops
  · intro drops
    obtain ⟨member, same⟩ := (only.mem_iff f).mpr rfl
    exact ⟨f, List.mem_filter.mpr ⟨member, drops⟩, same⟩

theorem fateAt_of_sole (p : Profile) (filter : FrameFilter) {id : UInt64} {l : Location}
    (only : Sole Location.id id p.locations l) :
    p.fateAt filter id = l.fate (p.droppedIds filter) := by
  have found : ((p.locations.map fun l => (l.id, l.fate (p.droppedIds filter))).filter
      (·.1 = id)).map (·.2) = [l.fate (p.droppedIds filter)] := by
    rw [List.filter_map, List.map_map]
    exact congrArg (List.map fun l => l.fate (p.droppedIds filter)) only
  simp only [fateAt, fateOf, found]
  cases l.fate (p.droppedIds filter) <;> rfl

theorem prunesSole {p : Profile} (linked : p.Linked) (filter : FrameFilter) :
    p.PrunesSole filter := by
  constructor
  · intro l hl ln hln
    obtain ⟨f, only⟩ := exists_sole linked.functions.2 (linked.lined l hl ln hln)
    exact ⟨f, only, p.contains_droppedIds filter only⟩
  · intro s hs id hid
    obtain ⟨l, only⟩ := exists_sole linked.locations.2 (linked.stacked s hs id hid)
    exact ⟨l, only, p.fateAt_of_sole filter only⟩

end Profile

/-- A step after a run that always ends well may be any that agrees with it there. -/
theorem Always.bind_congr {σ α β : Type} {holds : α → Prop} {x : StateM σ α}
    {f g : α → StateM σ β} (h : Always holds x) (same : ∀ a, holds a → f a = g a) :
    x >>= f = x >>= g := by
  funext world
  exact congrFun (same _ (h world)) _

namespace Symbolize

/-- At the turn of a mapping its number is that of one mapping only, the one at the position, and
the number that a location refers to is zero or that of one mapping only. -/
structure Finds (mapping : Mapping) (i : Nat) (p : Profile) : Prop where
  positive : mapping.id ≠ 0
  here : ∃ m, p.mappings[i]? = some m ∧ Sole Mapping.id mapping.id p.mappings m
  backed : ∀ l ∈ p.locations, l.mappingId = 0 ∨ ∃ m, Sole Mapping.id l.mappingId p.mappings m

variable {σ : Type} {name name' : Mapping → Nat → Profile → StateM σ (Nat × Profile)}

theorem finds_of_reworked {p q : Profile} (linked : p.Linked) (worked : p.Reworked q)
    {mapping : Mapping} {i : Nat} (here : q.mappingIds[i]? = some mapping.id) :
    Finds mapping i q := by
  have distinct : Profile.Distinct q.mappingIds := worked.mappings ▸ linked.mappings
  refine ⟨?_, ?_, ?_⟩
  · intro zero
    exact distinct.1 (zero ▸ List.mem_of_getElem? here)
  · rw [Profile.mappingIds, List.getElem?_map, Option.map_eq_some_iff] at here
    obtain ⟨m, here, same⟩ := here
    exact ⟨m, here, same ▸ sole_of_mem distinct.2 (List.mem_of_getElem? here)⟩
  · intro l' hl'
    obtain ⟨l, hl, relined⟩ := exists_of_mem_right worked.locations hl'
    rw [relined.mapping]
    refine (linked.backed l hl).imp_right fun known => exists_sole distinct.2 ?_
    rwa [← worked.mappings] at known

/-- What is done for a mapping only matters where the numbers find what they should. -/
theorem forMappings_congr {p : Profile} (linked : p.Linked) (enriches : Enriches name)
    (same : ∀ mapping i q, Finds mapping i q → name' mapping i q = name mapping i q)
    (rest : List Mapping) (done : List UInt64) {q : Profile} (enriched : p.Enriched q)
    (ids : q.mappingIds = done ++ rest.map Mapping.id) :
    forMappings name' rest done.length q = forMappings name rest done.length q := by
  induction rest generalizing done q with
  | nil => rfl
  | cons mapping rest ih =>
    have here : q.mappingIds[done.length]? = some mapping.id := by simp [ids]
    rw [forMappings, forMappings,
      same mapping done.length q (finds_of_reworked linked enriched.toReworked here)]
    refine Always.bind_congr (enriches mapping done.length q here) fun first enriched' => ?_
    have later : first.2.mappingIds = (done ++ [mapping.id]) ++ rest.map Mapping.id := by
      rw [enriched'.mappings, ids, List.map_cons, List.append_assoc, List.singleton_append]
    have others := ih (done ++ [mapping.id]) (enriched.trans enriched') later
    rw [List.length_append, List.length_singleton] at others
    simp only [others]

end Symbolize

/-- Symbolization with what is done at the turn of each mapping left open. -/
def symbolizeBy {m : Type → Type} [Monad m] (mode : SymbolMode) (sources : Provenance)
    (file server : Mapping → Nat → Profile → m (Nat × Profile)) (p : Profile) : m Profile := do
  let p ← if mode.usesLocal then do
      let (_, p) ← Symbolize.forMappings file p.mappings 0 p
      pure p
    else pure p
  if mode.usesRemote && !sources.isEmpty then
    let (_, p) ← Symbolize.forMappings server p.mappings 0 p
    return p
  else return p

theorem symbolizeBy_named {m : Type → Type} [Monad m] (machine : Machine m)
    (patience : Symbolize.Patience) (mode : SymbolMode) (sources : Provenance) (p : Profile) :
    symbolizeBy mode sources (Symbolize.nameFromFile machine)
      (Symbolize.nameFromServers machine patience sources) p =
        symbolize machine mode sources p patience :=
  rfl

theorem symbolizeBy_eq {p : Profile} (linked : p.Linked) {σ : Type} (machine : Machine (StateM σ))
    (patience : Symbolize.Patience) (mode : SymbolMode) (sources : Provenance)
    {file server : Mapping → Nat → Profile → StateM σ (Nat × Profile)}
    (files : ∀ mapping i q, Symbolize.Finds mapping i q →
      file mapping i q = Symbolize.nameFromFile machine mapping i q)
    (servers : ∀ mapping i q, Symbolize.Finds mapping i q →
      server mapping i q = Symbolize.nameFromServers machine patience sources mapping i q) :
    symbolizeBy mode sources file server p = symbolize machine mode sources p patience := by
  have binaries := Symbolize.forMappings_congr linked (Symbolize.always_nameFromFile machine) files
    p.mappings [] (.refl p) rfl
  have enriched := Symbolize.always_forMappings (Symbolize.always_nameFromFile machine) p.mappings
    [] p rfl
  have last (q : Profile) (enriched : p.Enriched q) :
      (if mode.usesRemote && !sources.isEmpty then
        Symbolize.forMappings server q.mappings 0 q >>= fun r => pure r.2
      else pure q) =
      (if mode.usesRemote && !sources.isEmpty then
        Symbolize.fromServers machine sources q patience >>= fun r => pure r.2
      else pure q) := by
    have origins := Symbolize.forMappings_congr linked
      (Symbolize.always_nameFromServers machine patience sources) servers q.mappings [] enriched rfl
    rw [List.length_nil] at origins
    rw [origins]
    rfl
  rw [List.length_nil] at binaries
  rw [← symbolizeBy_named machine patience, symbolizeBy, symbolizeBy, binaries]
  split
  · exact enriched.bind_congr fun r enriched => last r.2 enriched
  · exact last p (.refl p)

/-- The check accepts just the linked profiles. On these every number that is looked up finds
exactly one part: pruning judges by the only function of a line and by the only location of a frame,
a merge that stops where a number is not that of exactly one part never stops there, and
symbolization and merging are the same whatever would be done, or found, in such a place. -/
theorem checkValid_finds_sole :
    (∀ p : Profile, p.checkValid = .ok () ↔ p.Linked) ∧
    (∀ p : Profile, p.checkValid = .ok () →
      (∀ filter, p.PrunesSole filter) ∧
      ∀ (σ : Type) (machine : Machine (StateM σ)) patience mode sources file server,
        (∀ mapping i q, Symbolize.Finds mapping i q →
          file mapping i q = Symbolize.nameFromFile machine mapping i q) →
        (∀ mapping i q, Symbolize.Finds mapping i q →
          server mapping i q = Symbolize.nameFromServers machine patience sources mapping i q) →
        symbolizeBy mode sources file server p = symbolize machine mode sources p patience) ∧
    ∀ srcs : List Profile, (∀ p ∈ srcs, p.checkValid = .ok ()) → Merge.Countable srcs →
      mergeBy .sole srcs = merge srcs ∧ (∀ fault, merge srcs ≠ .error (.malformed fault)) ∧
      ∀ look : Lookup, look.Exact → mergeBy look srcs = merge srcs := by
  refine ⟨fun p => Profile.checkValid_eq_ok_iff, fun p valid => ?_, fun srcs valid countable => ?_⟩
  · have linked := Profile.checkValid_eq_ok_iff.mp valid
    exact ⟨Profile.prunesSole linked, fun σ machine patience mode sources file server =>
      symbolizeBy_eq linked machine patience mode sources⟩
  · have linked := fun p hp => Profile.checkValid_eq_ok_iff.mp (valid p hp)
    exact ⟨mergeBy_eq Lookup.exact_sole linked countable, merge_ne_malformed linked countable,
      fun look exact => mergeBy_eq exact linked countable⟩

theorem checkValid_finds_sole_lone :
    (Profile.lone 0x1000 5).Linked ∧ (Profile.lone 0x1000 5).PrunesSole ⟨.empty, none⟩ ∧
    symbolizeBy .auto Outside.bareSources
      (fun mapping i q => if mapping.id = 0 then pure (0, q) else
        Symbolize.nameFromFile Outside.bare.machine mapping i q)
      (fun mapping i q => if mapping.id = 0 then pure (0, q) else
        Symbolize.nameFromServers Outside.bare.machine .usual Outside.bareSources mapping i q)
      (.lone 0x1000 5) =
        symbolize Outside.bare.machine .auto Outside.bareSources (.lone 0x1000 5) ∧
    mergeBy .sole [.lone 0x1000 5, .lone 0x8000 (-5)] =
      merge [.lone 0x1000 5, .lone 0x8000 (-5)] := by
  obtain ⟨accepts, uses, merges⟩ := checkValid_finds_sole
  have valid : (Profile.lone 0x1000 5).checkValid = .ok () := by decide
  obtain ⟨prunes, symbolizes⟩ := uses _ valid
  refine ⟨(accepts _).mp valid, prunes _, symbolizes _ _ _ _ _ _ _ ?_ ?_, ?_⟩
  · exact fun mapping i q finds => if_neg finds.positive
  · exact fun mapping i q finds => if_neg finds.positive
  · exact (merges _ (by decide) ⟨by decide, by decide, by decide⟩).1

end Profiling
