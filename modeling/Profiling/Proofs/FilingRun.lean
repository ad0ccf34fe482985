import Profiling.Proofs.Filing
import Profiling.Proofs.NormalForm

/-!
# Passes over anything

Where a pass works out, whatever its sources are, the merged profile is numbered in the order
of first use, and each of its parts is one of a source.
-/

namespace Profiling

namespace Merge

variable {stock : Stock} {src : Profile} {base : Nat} {s s' : State}

structure Settled (s : State) : Prop where
  order : s.out.InOrder
  stackOrder : reach 0 (s.out.samples.flatMap Sample.stack) = some s.out.locations.length

theorem flatMap_stack_eq {samples samples' : List Sample}
    (same : samples.map SampleKey.of = samples'.map SampleKey.of) :
    samples.flatMap Sample.stack = samples'.flatMap Sample.stack := by
  have stackOrder := congrArg (List.map SampleKey.stack) same
  simp only [List.map_map] at stackOrder
  rw [List.flatMap_def, List.flatMap_def]
  exact congrArg List.flatten stackOrder

/-- A sample is placed after its locations. If an equal one is there, it has the same locations,
so these are not new either. -/
theorem Filed.placeSample {s₀ : State} (before : Filed stock s₀) (settled : Settled s₀)
    (h : Filed stock s) (grows : Grows s₀ s) (sample : Sample)
    (reached : reach s₀.out.locations.length sample.stack = some s.out.locations.length)
    (known : ∀ id ∈ sample.stack, id ∈ s.out.locationIds) :
    ∃ samples table,
      Merge.placeSample s sample = { s with out := { s.out with samples }, samples := table } ∧
      Filed stock { s with out := { s.out with samples }, samples := table } ∧
      reach 0 (samples.flatMap Sample.stack) = some s.out.locations.length := by
  have same : s.out.samples = s₀.out.samples := grows.samples
  have stackOrder := settled.stackOrder
  rw [← same] at stackOrder
  cases hit : s.samples.lookup (.of sample) with
  | some i =>
    let add (t : Sample) : Sample := { t with values := addValues t.values sample.values }
    have keys : (s.out.samples.modify i add).map SampleKey.of = s.out.samples.map SampleKey.of :=
      map_modify_of_eq (g := add) (fun _ => rfl) _ i
    obtain ⟨t, here, key⟩ : ∃ t, s.out.samples[i]? = some t ∧ .of t = SampleKey.of sample := by
      simpa using (h.samples _ i).mp hit
    have old : s.out.locations.length = s₀.out.locations.length := by
      refine Option.some.inj (reached.symm.trans (reach_of_le fun id hid => ?_))
      have member : t ∈ s₀.out.samples := same ▸ List.mem_of_getElem? here
      rw [← (SampleKey.mk.inj key).1] at hid
      simpa using before.locations.numbered.toNat_le (before.stacked t member id hid)
    refine ⟨s.out.samples.modify i add, s.samples, by simp [Merge.placeSample, hit, add],
      ⟨h.mappings, h.functions, h.locations, keys ▸ h.samples, h.mappingsFrom, h.functionsFrom,
        h.backed, h.lined, fun u hu => ?_⟩, ?_⟩
    · obtain ⟨v, hv, same⟩ := List.mem_map.mp (keys ▸ List.mem_map_of_mem hu)
      rw [← (SampleKey.mk.inj same).1]
      exact h.stacked v hv
    · rw [flatMap_stack_eq keys, stackOrder, old]
  | none =>
    refine ⟨s.out.samples ++ [sample], (.of sample, s.out.samples.length) :: s.samples,
      by simp [Merge.placeSample, hit],
      ⟨h.mappings, h.functions, h.locations, ?_, h.mappingsFrom, h.functionsFrom, h.backed,
        h.lined, forall_mem_append_singleton h.stacked known⟩, ?_⟩
    · simpa using lookup_append_place h.samples hit
    · rw [List.flatMap_append, List.flatMap_singleton]
      exact reach_trans stackOrder reached

theorem Merging.mapSample (small : stock.Countable) (covers : stock.Covers src)
    (fits : base + src.locations.length < UInt64.size) (h : Merging stock src base s)
    (settled : Settled s) {sample : Sample} (run : mapSample src s sample = .ok s') :
    Merging stock src base s' ∧ Settled s' ∧ s'.out.header = s.out.header := by
  obtain ⟨⟨s₁, stack⟩, stacking, run⟩ := bind_eq_ok_iff.mp run
  obtain ⟨⟨merging, order⟩, grows, reached, known⟩ :=
    mapStack small covers fits h settled.order stacking
  obtain ⟨samples, table, placed, filed, stackOrder⟩ :=
    h.filed.placeSample settled merging.filed grows { sample with stack } reached known
  obtain rfl : Merge.placeSample s₁ { sample with stack } = s' := Except.ok.inj run
  rw [placed]
  have parts : s₁.out.Extends { s₁.out with samples } :=
    ⟨List.prefix_rfl, List.prefix_rfl, List.prefix_rfl⟩
  exact ⟨⟨filed, merging.knows.grow parts ⟨rfl, rfl, rfl⟩ rfl⟩,
    ⟨⟨order.backings, order.lines⟩, stackOrder⟩, grows.header⟩

theorem Merging.mapSamples (small : stock.Countable) (covers : stock.Covers src)
    (fits : base + src.locations.length < UInt64.size) {samples : List Sample}
    (h : Merging stock src base s) (settled : Settled s)
    (run : samples.foldlM (Merge.mapSample src) s = .ok s') :
    Merging stock src base s' ∧ Settled s' ∧ s'.out.header = s.out.header := by
  induction samples generalizing s with
  | nil =>
    obtain rfl := Except.ok.inj run
    exact ⟨h, settled, rfl⟩
  | cons sample samples ih =>
    rw [List.foldlM_cons] at run
    obtain ⟨s₁, first, rest⟩ := bind_eq_ok_iff.mp run
    obtain ⟨merging, settled₁, header⟩ := h.mapSample small covers fits settled first
    obtain ⟨merging', settled', header'⟩ := ih merging settled₁ rest
    exact ⟨merging', settled', header'.trans header⟩

/-- The first mapping of all comes before any location. -/
theorem Filed.startSource (small : stock.Countable) (covers : stock.Covers src)
    (h : Filed stock s) (settled : Settled s) :
    Merging stock src s.out.locations.length (startSource s src) ∧
      Settled (startSource s src) ∧ (startSource s src).out.header = s.out.header := by
  let s₀ : State := { s with mappingsById := [], functionsById := [], locationsById := [] }
  have merging₀ : Merging stock src s.out.locations.length s₀ :=
    ⟨h.remember _ _ _, fun _ _ hit => (nomatch hit), fun _ _ hit => (nomatch hit),
      fun _ _ hit => (nomatch hit), .nil, fun _ he => (nomatch he), Nat.le_refl _⟩
  have settled₀ : Settled s₀ := ⟨settled.order, settled.stackOrder⟩
  cases merged : s.out.mappings with
  | cons m ms =>
    have same : Merge.startSource s src = s₀ := by simp [Merge.startSource, merged, s₀]
    exact same ▸ ⟨merging₀, settled₀, rfl⟩
  | nil =>
    cases mains : src.mappings with
    | nil =>
      have same : Merge.startSource s src = s₀ := by simp [Merge.startSource, merged, mains, s₀]
      exact same ▸ ⟨merging₀, settled₀, rfl⟩
    | cons main rest =>
      have member : main ∈ stock.mappings := covers.mappings (by simp [mains])
      obtain ⟨s₁, t, run, merging, grows, uses, -⟩ := merging₀.mapMapping small member
      have same : Merge.startSource s src = s₁ := by
        simp only [Merge.startSource, merged, mains]
        exact congrArg Prod.fst run
      have locations : s₁.out.locations = s.out.locations := uses.locations
      have functions : s₁.out.functions.length = s.out.functions.length :=
        (Option.some.inj uses.functions).symm
      have atMostOne : max 1 s₁.out.mappings.length = max 1 s.out.mappings.length := by
        have reached : reach 0 [t.id] = some s₁.out.mappings.length := by
          simpa [s₀, merged] using uses.mappings
        have single := reach_le_add reached
        rw [List.length_singleton] at single
        rw [merged, List.length_nil]
        omega
      refine same ▸ ⟨merging, ⟨⟨?_, ?_⟩, ?_⟩, grows.header⟩
      · rw [locations, atMostOne]
        exact settled.order.backings
      · rw [locations, functions]
        exact settled.order.lines
      · rw [locations, grows.samples]
        exact settled.stackOrder

theorem Filed.mapSource (small : stock.Countable) (covers : stock.Covers src)
    (fits : s.out.locations.length + src.locations.length < UInt64.size) (h : Filed stock s)
    (settled : Settled s) (run : mapSource s src = .ok s') :
    Filed stock s' ∧ Settled s' ∧ s'.out.header = s.out.header ∧
      s'.out.locations.length ≤ s.out.locations.length + src.locations.length := by
  obtain ⟨merging, settled₀, header⟩ := h.startSource small covers settled
  obtain ⟨merging', settled', header'⟩ := merging.mapSamples small covers fits settled₀ run
  refine ⟨merging'.filed, settled', header'.trans header, ?_⟩
  have subset : s'.locationsById.map Prod.fst ⊆ src.locationIds := by
    intro id hid
    obtain ⟨e, he, rfl⟩ := List.mem_map.mp hid
    exact merging'.knows.known e he
  have fewer := (List.subperm_of_subset merging'.knows.distinct subset).length_le
  have count := merging'.knows.count
  simp only [List.length_map, Profile.locationIds] at fewer
  omega

theorem Filed.mapSources (small : stock.Countable) {srcs : List Profile}
    (covers : ∀ src ∈ srcs, stock.Covers src)
    (fits : s.out.locations.length + (srcs.flatMap Profile.locations).length < UInt64.size)
    (h : Filed stock s) (settled : Settled s) (run : srcs.foldlM Merge.mapSource s = .ok s') :
    Filed stock s' ∧ Settled s' ∧ s'.out.header = s.out.header ∧
      s'.out.locations.length ≤
        s.out.locations.length + (srcs.flatMap Profile.locations).length := by
  induction srcs generalizing s with
  | nil =>
    obtain rfl := Except.ok.inj run
    exact ⟨h, settled, rfl, Nat.le_add_right _ _⟩
  | cons src srcs ih =>
    obtain ⟨covers, others⟩ := List.forall_mem_cons.mp covers
    rw [List.foldlM_cons] at run
    obtain ⟨s₁, first, rest⟩ := bind_eq_ok_iff.mp run
    rw [List.flatMap_cons, List.length_append] at fits ⊢
    obtain ⟨filed, settled₁, header, count⟩ :=
      h.mapSource small covers (by omega) settled first
    obtain ⟨filed', settled', header', count'⟩ := ih others (by omega) filed settled₁ rest
    exact ⟨filed', settled', header'.trans header, by omega⟩

theorem nodup_foldl_addComment {comments : List String} (distinct : comments.Nodup)
    (more : List String) : (more.foldl addComment comments).Nodup := by
  induction more generalizing comments with
  | nil => exact distinct
  | cons c more ih =>
    refine ih ?_
    rw [addComment]
    split
    · exact distinct
    · rename_i new
      exact List.nodup_append.mpr ⟨distinct, List.nodup_singleton c, fun a ha b hb same =>
        new (List.mem_singleton.mp hb ▸ same ▸ ha)⟩

theorem nodup_comments (first : Profile) (srcs : List Profile) :
    (headers first srcs).comments.Nodup := by
  suffices ∀ out : Profile, out.comments.Nodup → (srcs.foldl mergeHeader out).comments.Nodup from
    this _ .nil
  induction srcs with
  | nil => exact fun _ distinct => distinct
  | cons src srcs ih => exact fun out distinct => ih _ (nodup_foldl_addComment distinct _)

theorem filed_headers (stock : Stock) (first : Profile) (srcs : List Profile) :
    Filed stock { out := headers first srcs } ∧ Settled { out := headers first srcs } := by
  obtain ⟨mappings, functions, locations, samples⟩ := headers_parts first srcs
  refine ⟨⟨?_, ?_, ?_, ?_, ?_, ?_, ?_, ?_, ?_⟩, ⟨?_, ?_⟩, ?_⟩
  · simpa only [mappings] using Catalogue.empty
  · simpa only [functions] using Catalogue.empty
  · simpa only [locations] using Catalogue.empty
  all_goals simp [mappings, functions, locations, samples, reach]

theorem Filed.ordered (h : Filed stock s) (settled : Settled s)
    (comments : s.out.comments.Nodup) : s.out.Ordered :=
  ⟨settled.order, h.mappings.numbered, h.functions.numbered, h.locations.numbered,
    h.mappings.nodup_keys, h.functions.nodup_keys, h.locations.nodup_keys,
    nodup_of_places h.samples, h.backed, h.lined, h.stacked, settled.stackOrder, comments⟩

def stockOf (srcs : List Profile) : Stock :=
  ⟨srcs.flatMap Profile.mappings, srcs.flatMap Profile.functions⟩

theorem Countable.stockOf {srcs : List Profile} (h : Countable srcs) :
    (stockOf srcs).Countable := ⟨h.mappings, h.functions⟩

theorem covers_stockOf {srcs : List Profile} {src : Profile} (member : src ∈ srcs) :
    (stockOf srcs).Covers src :=
  ⟨fun _ hm => List.mem_flatMap.mpr ⟨src, member, hm⟩,
    fun _ hf => List.mem_flatMap.mpr ⟨src, member, hf⟩⟩

theorem Filed.length_le (h : Filed stock s) :
    s.out.mappings.length ≤ stock.mappings.length ∧
      s.out.functions.length ≤ stock.functions.length := by
  have mappings := length_le_of_drawn h.mappings.nodup_keys
    (keys_drawn (fun n m : Mapping => { n with id := m.id }) (fun _ _ => rfl) h.mappingsFrom)
  have functions := length_le_of_drawn h.functions.nodup_keys
    (keys_drawn (fun g f : Function => { g with id := f.id }) (fun _ _ => rfl) h.functionsFrom)
  rw [List.length_map] at mappings functions
  exact ⟨mappings, functions⟩

end Merge

/-- The profile has no more parts than some others have together. -/
structure Profile.Within (p : Profile) (srcs : List Profile) : Prop where
  mappings : p.mappings.length ≤ (srcs.flatMap Profile.mappings).length
  functions : p.functions.length ≤ (srcs.flatMap Profile.functions).length
  locations : p.locations.length ≤ (srcs.flatMap Profile.locations).length

namespace Merge

theorem pass_filed {first out : Profile} {rest : List Profile}
    (countable : Countable (first :: rest)) (run : pass first rest = .ok out) :
    ∃ s : State, s.out = out ∧ Filed (stockOf (first :: rest)) s ∧ out.Ordered ∧
      out.header = (headers first (first :: rest)).header ∧ out.Within (first :: rest) := by
  rw [pass] at run
  obtain ⟨-, -, started⟩ := bind_eq_ok_iff.mp run
  obtain ⟨s, merged, made⟩ := bind_eq_ok_iff.mp started
  obtain rfl : s.out = out := Except.ok.inj made
  obtain ⟨filed, settled⟩ := filed_headers (stockOf (first :: rest)) first (first :: rest)
  obtain ⟨-, -, locations, -⟩ := headers_parts first (first :: rest)
  obtain ⟨filed, settled, header, count⟩ := filed.mapSources countable.stockOf
    (fun src hsrc => covers_stockOf hsrc) (by simpa [locations] using countable.locations)
    settled merged
  have comments : s.out.comments = (headers first (first :: rest)).comments :=
    (congrArg Profile.comments header :)
  have within : s.out.Within (first :: rest) := by
    refine ⟨filed.length_le.1, filed.length_le.2, ?_⟩
    simpa only [locations, List.length_nil, Nat.zero_add] using count
  exact ⟨s, rfl, filed, filed.ordered settled (comments ▸ nodup_comments _ _), header, within⟩

end Merge

end Profiling
