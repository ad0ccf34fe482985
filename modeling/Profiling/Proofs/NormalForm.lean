import Profiling.Proofs.MergeRun

/-!
# The normal form of merged profiles

Merging valid profiles works out exactly when they are compatible. The merged profile
is numbered in order, says nothing twice and has nothing that is not needed.
-/

namespace Profiling

/-- Numbered in order, without two equal parts and without parts that nothing refers to.
The first mapping stands for the main binary and may be unused. -/
structure Profile.Normal (p : Profile) : Prop where
  mappingIds : Numbered p.mappingIds
  functionIds : Numbered p.functionIds
  locationIds : Numbered p.locationIds
  mappings : (p.mappings.map Mapping.key).Nodup
  functions : (p.functions.map Function.key).Nodup
  locations : (p.locations.map p.locationKey).Nodup
  samples : (p.samples.map fun t => (t.stack, (t.labels : Multiset Label))).Nodup
  sampled : ∀ l ∈ p.locations, ∃ t ∈ p.samples, l.id ∈ t.stack
  lined : ∀ f ∈ p.functions, ∃ l ∈ p.locations, ∃ ln ∈ l.lines, ln.functionId = f.id
  backing : ∀ m ∈ p.mappings.tail, ∃ l ∈ p.locations, l.mappingId = m.id

namespace Merge

variable {P : Supply} {s : State}

theorem Tidy.normal (tidy : Tidy P s) : s.out.Normal := by
  have h := tidy.sound
  refine ⟨h.mappings.numbered, h.functions.numbered, h.locations.numbered, h.mappings.nodup_keys,
    h.functions.nodup_keys, h.locations.nodup_keys, ?_, tidy.sampled, tidy.employed.functions,
    fun m hm => ?_⟩
  · refine h.nodup_sampleKeys.of_map.map_on fun a ha b hb same => ?_
    refine List.inj_on_of_nodup_map h.nodup_sampleKeys ha hb ?_
    rw [Prod.mk.injEq] at same
    simp only [SampleKey.of, same.1, Label.sorted_eq_iff.mpr same.2]
  · refine (tidy.employed.mappings m (List.mem_of_mem_tail hm)).resolve_left fun first => ?_
    obtain ⟨i, hi, rfl⟩ := List.getElem_of_mem hm
    rw [List.length_tail] at hi
    have number := h.mappings.numbered.toNat_getElem (i + 1) (by simp; omega)
    rw [List.getElem_map] at number
    rw [List.getElem_tail] at first
    simp [first] at number

theorem distinct_of_numbered {ids : List UInt64} (h : Numbered ids) : Profile.Distinct ids :=
  ⟨h.zero_not_mem, h.nodup⟩

theorem Sound.resolved (h : Sound P s) : s.out.Resolved := by
  have frame : ∀ l ∈ s.out.locations, ∃ m lines, s.out.backing? l.mappingId = some m ∧
      l.lines.mapM s.out.frameLine? = some lines := by
    intro l hl
    obtain ⟨fr, hfr⟩ := h.framed l hl
    simp only [Profile.frameOf?, Option.bind_eq_bind, Option.bind_eq_some_iff] at hfr
    obtain ⟨m, hm, lines, hlines, -⟩ := hfr
    exact ⟨m, lines, hm, hlines⟩
  refine ⟨distinct_of_numbered h.mappings.numbered, distinct_of_numbered h.functions.numbered,
    distinct_of_numbered h.locations.numbered, ?_, ?_, ?_⟩
  · intro l hl
    obtain ⟨m, -, hm, -⟩ := frame l hl
    by_cases zero : l.mappingId = 0
    · exact Or.inl zero
    · simp only [Profile.backing?, zero, if_false, Option.map_eq_some_iff] at hm
      obtain ⟨n, hn, -⟩ := hm
      obtain ⟨member, same⟩ := (find?_eq_some_iff h.mappings.numbered.nodup).mp hn
      exact Or.inr (same ▸ List.mem_map_of_mem member)
  · intro l hl ln hln
    obtain ⟨-, lines, -, hlines⟩ := frame l hl
    obtain ⟨x, -, hx⟩ := exists_of_mem_of_mapM hlines hln
    simp only [Profile.frameLine?, Option.map_eq_some_iff] at hx
    obtain ⟨f, hf, -⟩ := hx
    obtain ⟨member, same⟩ := (find?_eq_some_iff h.functions.numbered.nodup).mp hf
    exact same ▸ List.mem_map_of_mem member
  · intro t ht id hid
    obtain ⟨tr, htr⟩ := h.traced t ht
    simp only [Profile.trace?, Option.map_eq_some_iff] at htr
    obtain ⟨frames, hframes, -⟩ := htr
    obtain ⟨fr, -, hfr⟩ := exists_of_mem_of_mapM hframes hid
    simp only [Profile.frame?, Option.bind_eq_some_iff] at hfr
    obtain ⟨l, hl, -⟩ := hfr
    obtain ⟨member, same⟩ := (find?_eq_some_iff h.locations.numbered.nodup).mp hl
    exact same ▸ List.mem_map_of_mem member

/-- A merged profile is linked if its samples have the right number of values. -/
theorem Sound.linked (h : Sound P s) (typed : s.out.samples ≠ [] → s.out.sampleTypes ≠ [])
    (wide : Ledger.Wide s.out.sampleTypes.length s.out.readings) : s.out.Linked :=
  ⟨h.resolved, typed, fun _ ht => wide _ (List.mem_map_of_mem ht)⟩

/-- What the headers of further sources leave alone. -/
theorem foldl_mergeHeader {f : Profile → β} (keeps : ∀ out src, f (mergeHeader out src) = f out)
    (out : Profile) (srcs : List Profile) : f (srcs.foldl mergeHeader out) = f out := by
  induction srcs generalizing out with
  | nil => rfl
  | cons src srcs ih => rw [List.foldl_cons, ih, keeps]

theorem headers_parts (first : Profile) (srcs : List Profile) :
    (headers first srcs).mappings = [] ∧ (headers first srcs).functions = [] ∧
      (headers first srcs).locations = [] ∧ (headers first srcs).samples = [] :=
  ⟨foldl_mergeHeader (f := Profile.mappings) (fun _ _ => rfl) _ srcs,
    foldl_mergeHeader (f := Profile.functions) (fun _ _ => rfl) _ srcs,
    foldl_mergeHeader (f := Profile.locations) (fun _ _ => rfl) _ srcs,
    foldl_mergeHeader (f := Profile.samples) (fun _ _ => rfl) _ srcs⟩

theorem tidy_headers (P : Supply) (first : Profile) (srcs : List Profile) :
    Tidy P { out := headers first srcs } := by
  obtain ⟨mappings, functions, locations, samples⟩ := headers_parts first srcs
  refine ⟨⟨?_, ?_, ?_, ?_, ⟨?_, ?_, ?_⟩, ?_, ?_⟩, ⟨?_, ?_⟩, ?_⟩
  · simpa only [mappings] using Catalogue.empty
  · simpa only [functions] using Catalogue.empty
  · simpa only [locations] using Catalogue.empty
  all_goals simp [mappings, functions, locations, samples, Profile.Sampled]

/-- What the merged profile is besides the values of its samples. -/
structure Merged (P : Supply) (first : Profile) (srcs : List Profile) (out : Profile) : Prop where
  linked : out.Linked
  normal : out.Normal
  drawn : out.DrawsFrom P
  sampleTypes : out.sampleTypes = first.sampleTypes
  periodType : out.periodType = first.periodType
  main : out.mappings.head? =
    (srcs.flatMap Profile.mappings).head?.map fun m => { m with id := 1 }

/-- The readings of all sources. -/
def entries (srcs : List Profile) : Ledger (Option Trace) := srcs.flatMap Profile.readings

theorem live_entries (srcs : List Profile) :
    (entries srcs).live = srcs.flatMap fun src => src.readings.live := by
  rw [Ledger.live, entries, List.filter_flatMap]
  rfl

theorem forM_eq_ok_iff {f : α → Except ε PUnit} {xs : List α} :
    xs.forM f = .ok ⟨⟩ ↔ ∀ x ∈ xs, f x = .ok ⟨⟩ := by
  rw [List.forM_eq_forM]
  induction xs with
  | nil => simp [pure, Except.pure]
  | cons x xs ih =>
    rw [List.forall_mem_cons, ← ih, List.forM_cons]
    cases f x with
    | error e => simp [bind, Except.bind]
    | ok u => simp [bind, Except.bind]

theorem wide_entries {n : Nat} {srcs : List Profile} (linked : ∀ src ∈ srcs, src.Linked)
    (typed : ∀ src ∈ srcs, src.sampleTypes.length = n) : Ledger.Wide n (entries srcs) := by
  intro e he
  obtain ⟨src, hsrc, he⟩ := List.mem_flatMap.mp he
  exact typed src hsrc ▸ (linked src hsrc).wide_readings e he

/-- A pass tallies what is read in the sources, whatever they measure. -/
theorem pass_tidy {first : Profile} {rest : List Profile} (small : P.Countable)
    (resolved : ∀ src ∈ first :: rest, src.Resolved)
    (drawn : ∀ src ∈ first :: rest, src.DrawsFrom P)
    (compatible : ∀ src ∈ rest, first.compatible src = .ok ()) :
    ∃ s, pass first rest = .ok s.out ∧ Tidy P s ∧
      s.out.header = (headers first (first :: rest)).header ∧
      s.out.readings = (entries (first :: rest)).live.tally ∧
      s.out.mappings.head? =
        ((first :: rest).flatMap Profile.mappings).head?.map fun m => { m with id := 1 } := by
  obtain ⟨s, run, tidy, gains, main⟩ :=
    mapSources_spec small resolved drawn (tidy_headers P first (first :: rest))
  obtain ⟨mappings, -, -, samples⟩ := headers_parts first (first :: rest)
  refine ⟨s, ?_, tidy, gains.header, ?_, by simpa [mappings] using main⟩
  · rw [pass, forM_eq_ok_iff.mpr compatible]
    simp only [bind, Except.bind] at run ⊢
    rw [run]
    rfl
  · rw [gains.readings, live_entries]
    simp [Profile.readings, samples, Ledger.tally]

theorem pass_spec {first : Profile} {rest : List Profile} (small : P.Countable)
    (linked : ∀ src ∈ first :: rest, src.Linked) (drawn : ∀ src ∈ first :: rest, src.DrawsFrom P)
    (compatible : ∀ src ∈ rest, first.compatible src = .ok ()) :
    ∃ out, pass first rest = .ok out ∧ Merged P first (first :: rest) out ∧
      out.readings = (entries (first :: rest)).live.tally := by
  obtain ⟨s, run, tidy, header, readings, main⟩ :=
    pass_tidy small (fun src hsrc => (linked src hsrc).toResolved) drawn compatible
  have sampleTypes : s.out.sampleTypes = first.sampleTypes :=
    (congrArg Profile.sampleTypes header).trans
      (foldl_mergeHeader (f := Profile.sampleTypes) (fun _ _ => rfl) _ _)
  have periodType : s.out.periodType = first.periodType :=
    (congrArg Profile.periodType header).trans
      (foldl_mergeHeader (f := Profile.periodType) (fun _ _ => rfl) _ _)
  have same : ∀ src ∈ first :: rest, src.sampleTypes = first.sampleTypes := by
    intro src hsrc
    rcases List.mem_cons.mp hsrc with rfl | hsrc
    · rfl
    · exact (Profile.compatible_eq_ok_iff.mp (compatible src hsrc)).2.symm
  have wide : Ledger.Wide s.out.sampleTypes.length s.out.readings := by
    rw [readings, sampleTypes]
    exact (wide_entries linked fun src hsrc => congrArg List.length (same src hsrc)).live.tally
  have typed : s.out.samples ≠ [] → s.out.sampleTypes ≠ [] := by
    intro some_sample
    have some_entry : (entries (first :: rest)).live ≠ [] := by
      intro none
      rw [none] at readings
      exact some_sample (List.map_eq_nil_iff.mp readings)
    obtain ⟨e, he⟩ := List.exists_mem_of_ne_nil _ some_entry
    obtain ⟨src, hsrc, he⟩ := List.mem_flatMap.mp (List.mem_filter.mp he).1
    obtain ⟨t, ht, -⟩ := List.mem_map.mp he
    rw [sampleTypes, ← same src hsrc]
    exact (linked src hsrc).typed (List.ne_nil_of_mem ht)
  exact ⟨s.out, run, ⟨tidy.sound.linked typed wide, tidy.normal, tidy.sound.drawn, sampleTypes,
    periodType, main⟩, readings⟩

theorem Merged.trans {first merged out : Profile} {srcs : List Profile}
    (h : Merged P first srcs merged) (h' : Merged P merged [merged] out) :
    Merged P first srcs out := by
  refine ⟨h'.linked, h'.normal, h'.drawn, h'.sampleTypes.trans h.sampleTypes,
    h'.periodType.trans h.periodType, ?_⟩
  rw [h'.main, List.flatMap_singleton, h.main, Option.map_map]
  rfl

/-- Whether or not samples cancel out, what is left are the live ones of a single tally. -/
theorem merge_spec {first : Profile} {rest : List Profile} (small : P.Countable)
    (linked : ∀ src ∈ first :: rest, src.Linked) (drawn : ∀ src ∈ first :: rest, src.DrawsFrom P)
    (compatible : ∀ src ∈ rest, first.compatible src = .ok ()) :
    ∃ out, merge (first :: rest) = .ok out ∧ Merged P first (first :: rest) out ∧
      out.readings = (entries (first :: rest)).compact := by
  obtain ⟨merged, run, made, readings⟩ := pass_spec small linked drawn compatible
  cases cancelled : merged.samples.any Sample.isZero with
  | false =>
    refine ⟨merged, by simp [merge, run, cancelled, bind, Except.bind], made, ?_⟩
    rw [Ledger.compact, ← readings, readings_live]
    refine congrArg (List.map _) (List.filter_eq_self.mpr fun t ht => ?_).symm
    simpa using List.any_eq_false.mp cancelled t ht
  | true =>
    obtain ⟨out, again, made', readings'⟩ :=
      @pass_spec P merged [] small (by simpa using made.linked) (by simpa using made.drawn)
        (by simp)
    refine ⟨out, by simp [merge, run, cancelled, bind, Except.bind, again], made.trans made', ?_⟩
    -- no key comes twice in the first tally, so the second tally leaves it as it is
    rw [readings', ← Ledger.tally_of_nodup (Ledger.nodup_keys_compact _), Ledger.compact,
      ← readings]
    simp [entries]

theorem isZero_eq_false_of_readings {p : Profile} {entries : Ledger (Option Trace)}
    (readings : p.readings = entries.live) {t : Sample} (member : t ∈ p.samples) :
    t.isZero = false := by
  have : (p.trace? t, t.values) ∈ entries.live :=
    readings ▸ List.mem_map_of_mem member
  simpa [Sample.isZero] using (List.mem_filter.mp this).2

/-- The parts of all sources together. They can be numbered with words whenever the sources
are in memory. -/
structure Countable (srcs : List Profile) : Prop where
  mappings : (srcs.flatMap Profile.mappings).length < UInt64.size
  functions : (srcs.flatMap Profile.functions).length < UInt64.size
  locations : (srcs.flatMap Profile.locations).length < UInt64.size

def supply (srcs : List Profile) : Supply where
  mappings := (srcs.flatMap Profile.mappings).map Mapping.key
  functions := (srcs.flatMap Profile.functions).map Function.key
  frames := srcs.flatMap fun src => src.locations.filterMap src.frameOf?

theorem Countable.supply {srcs : List Profile} (h : Countable srcs) : (supply srcs).Countable := by
  refine ⟨by simpa [Merge.supply] using h.mappings, by simpa [Merge.supply] using h.functions,
    Nat.lt_of_le_of_lt ?_ h.locations⟩
  clear h
  induction srcs with
  | nil => exact Nat.le_refl 0
  | cons src srcs ih =>
    simp only [Merge.supply, List.flatMap_cons, List.length_append] at ih ⊢
    exact Nat.add_le_add (List.length_filterMap_le _ _) ih

theorem drawsFrom_supply {srcs : List Profile} {src : Profile} (member : src ∈ srcs) :
    src.DrawsFrom (supply srcs) := by
  refine ⟨fun m hm => ?_, fun f hf => ?_, fun l hl fr hfr => ?_⟩
  · exact List.mem_map_of_mem (List.mem_flatMap.mpr ⟨src, member, hm⟩)
  · exact List.mem_map_of_mem (List.mem_flatMap.mpr ⟨src, member, hf⟩)
  · exact List.mem_flatMap.mpr ⟨src, member, List.mem_filterMap.mpr ⟨l, hl, hfr⟩⟩

end Merge

open Merge

theorem compatible_of_merge {first out : Profile} {rest : List Profile}
    (run : merge (first :: rest) = .ok out) : ∀ src ∈ rest, first.compatible src = .ok () := by
  rw [← forM_eq_ok_iff]
  cases checked : rest.forM first.compatible with
  | ok => rfl
  | error e => simp [merge, Merge.pass, checked, bind, Except.bind] at run

/-- Valid profiles can be merged exactly when there is one and all are compatible with the
first, and then the merged profile is valid, in normal form and without zero samples. The
first mapping of the first source that has one stays the first. -/
theorem merge_normal (srcs : List Profile) (valid : ∀ src ∈ srcs, src.checkValid = .ok ())
    (countable : Countable srcs) :
    ((∃ out, merge srcs = .ok out) ↔
      ∃ first rest, srcs = first :: rest ∧ ∀ src ∈ rest, first.compatible src = .ok ()) ∧
    ∀ out, merge srcs = .ok out →
      out.checkValid = .ok () ∧ out.Normal ∧ (∀ t ∈ out.samples, t.isZero = false) ∧
      out.mappings.head? =
        (srcs.findSome? fun src => src.mappings.head?).map fun main => { main with id := 1 } := by
  have linked : ∀ src ∈ srcs, src.Linked :=
    fun src hsrc => Profile.checkValid_eq_ok_iff.mp (valid src hsrc)
  have small : (supply srcs).Countable := countable.supply
  have drawn : ∀ src ∈ srcs, src.DrawsFrom (supply srcs) := fun src => drawsFrom_supply
  cases srcs with
  | nil => simp [merge]
  | cons first rest =>
    constructor
    · constructor
      · rintro ⟨out, run⟩
        exact ⟨first, rest, rfl, compatible_of_merge run⟩
      · rintro ⟨_, _, same, compatible⟩
        obtain ⟨rfl, rfl⟩ := List.cons.inj same
        obtain ⟨out, run, -⟩ := merge_spec small linked drawn compatible
        exact ⟨out, run⟩
    · intro out run
      obtain ⟨out', run', made, readings⟩ :=
        merge_spec small linked drawn (compatible_of_merge run)
      obtain rfl : out = out' := Except.ok.inj (run.symm.trans run')
      refine ⟨Profile.checkValid_eq_ok_iff.mpr made.linked, made.normal,
        fun t ht => isZero_eq_false_of_readings readings ht, ?_⟩
      rw [made.main, List.head?_flatMap]

def Profile.lone (start : UInt64) (value : Int64) : Profile where
  sampleTypes := [⟨"cpu", "ns"⟩]
  samples := [{ stack := [1], values := [value] }]
  mappings := [{ id := 1, start, limit := start + 0x2000, file := "/bin/sh" }]
  locations := [{ id := 1, mappingId := 1, address := start + 0x10, lines := [⟨1, 7, 0⟩] }]
  functions := [{ id := 1, name := "main" }]

theorem merge_normal_lone : ∃ out, merge [.lone 0x1000 5, .lone 0x8000 (-5)] = .ok out ∧
    out.checkValid = .ok () ∧ out.Normal ∧ ∃ main, out.mappings.head? = some main := by
  obtain ⟨merges, normal⟩ := merge_normal [.lone 0x1000 5, .lone 0x8000 (-5)] (by decide)
    ⟨by decide, by decide, by decide⟩
  obtain ⟨out, run⟩ := merges.mpr ⟨_, _, rfl, by decide⟩
  obtain ⟨sound, normal, -, main⟩ := normal out run
  exact ⟨out, run, sound, normal, _, main⟩

end Profiling
