import Profiling.Proofs.MergeSteps

/-!
# Runs of a merge

Merging a source goes through its samples, and a pass goes through the sources. What is
read in the merged profile is the tally of what is read in the sources, and it has no part
that no sample needs.
-/

namespace Profiling

/-- Every function is in a location, and every mapping but the first one too. -/
structure Profile.Employed (p : Profile) : Prop where
  functions : ∀ f ∈ p.functions, ∃ l ∈ p.locations, ∃ ln ∈ l.lines, ln.functionId = f.id
  mappings : ∀ m ∈ p.mappings, m.id = 1 ∨ ∃ l ∈ p.locations, l.mappingId = m.id

def Profile.Sampled (p : Profile) : Prop := ∀ l ∈ p.locations, ∃ t ∈ p.samples, l.id ∈ t.stack

namespace Merge

variable {P : Supply} {src : Profile} {s : State}

/-- New functions and a new mapping are in the location that is placed after them. -/
theorem Employed.placed {s s' : State} {n : Location} (e : s.out.Employed) (grows : Grows s s')
    {id : UInt64} {ids : List UInt64} {others : List UInt64} (adds : Adds s s' [id] ids others)
    (placed : n ∈ s'.out.locations) (mapping : n.mappingId = id)
    (lines : n.lines.map Line.functionId = ids) : s'.out.Employed := by
  constructor
  · intro f hf
    rcases adds.functions f hf with old | new
    · obtain ⟨l, hl, used⟩ := e.functions f old
      exact ⟨l, grows.parts.locations.subset hl, used⟩
    · rw [← lines] at new
      obtain ⟨ln, hln, same⟩ := List.mem_map.mp new
      exact ⟨n, placed, ln, hln, same⟩
  · intro m hm
    rcases adds.mappings m hm with old | new
    · refine (e.mappings m old).imp_right ?_
      rintro ⟨l, hl, used⟩
      exact ⟨l, grows.parts.locations.subset hl, used⟩
    · exact Or.inr ⟨n, placed, mapping.trans (List.mem_singleton.mp new).symm⟩

theorem mapLocation_spec (small : P.Countable) (resolved : src.Resolved) (drawn : src.DrawsFrom P)
    {l : Location} (here : src.location? l.id = some l) (h : Sound P s) (c : Cached src s)
    (e : s.out.Employed) :
    ∃ s' id, mapLocation src s l = .ok (s', id) ∧
      (Sound P s' ∧ Cached src s' ∧ s'.out.Employed) ∧
      (Grows s s' ∧ ∀ n ∈ s'.out.locations, n ∈ s.out.locations ∨ n.id ∈ [id]) ∧
      ∃ fr, src.frame? l.id = some fr ∧ s'.out.frame? id = some fr := by
  cases hit : s.locationsById.lookup l.id with
  | some id =>
    obtain ⟨fr, there, read⟩ := c.locations l.id id hit
    exact ⟨s, id, by simp [mapLocation, hit], ⟨h, c, e⟩, ⟨.refl s, fun _ => Or.inl⟩, fr, there,
      read⟩
  | none =>
    have member := ((find?_eq_some_iff resolved.locations.2).mp here).1
    obtain ⟨s₁, t, start, run₁, h₁, c₁, grows₁, adds₁, m, n, hm, hn, key, starts, shift⟩ :=
      mapBacking_spec small resolved drawn member h c
    obtain ⟨s₂, ys, run₂, h₂, c₂, grows₂, adds₂, xs, hxs, hys⟩ :=
      mapLines_spec small resolved drawn (resolved.lined l member) h₁ c₁
    let moved : Location :=
      { l with mappingId := t.id, address := l.address + t.shift, lines := ys }
    have backing : s₂.out.backing? moved.mappingId = some n := grows₂.parts.backing? hn
    have startsAt : s₂.out.startAt moved.mappingId = start :=
      (Profile.startAt_of_backing? backing).trans starts.symm
    -- moving the address by the shift and counting from the merged start undo each other
    have offset : moved.address - n.elim 0 Mapping.start = l.address - m.elim 0 Mapping.start := by
      simp only [moved, shift]
      grind
    have there : src.frameOf? l = some
        ⟨m.map Mapping.key, l.address - m.elim 0 Mapping.start, xs, l.isFolded⟩ := by
      simp [Profile.frameOf?, hm, hxs]
    have framed : s₂.out.frameOf? moved = some
        ⟨m.map Mapping.key, l.address - m.elim 0 Mapping.start, xs, l.isFolded⟩ := by
      rw [← offset, ← key]
      simp [Profile.frameOf?, backing, moved, hys]
    obtain ⟨s₃, id, run₃, h₃, same, grows₃, adds₃, read, k, placed, mapping, lines⟩ :=
      placeLocation_spec small h₂ moved framed (drawn.frames l member _ there)
    have c₃ := c₂.grow grows₃.parts same
    have grows := (grows₁.trans grows₂).trans grows₃
    have adds : Adds s s₃ [t.id] (ys.map Line.functionId) [id] := by
      simpa using (adds₁.trans adds₂).trans adds₃
    have employed : s₃.out.Employed :=
      Employed.placed e grows adds placed mapping (by simp [lines, moved])
    have src_read : src.frame? l.id = some
        ⟨m.map Mapping.key, l.address - m.elim 0 Mapping.start, xs, l.isFolded⟩ := by
      simp [Profile.frame?, here, there]
    refine ⟨{ s₃ with locationsById := (l.id, id) :: s₃.locationsById }, id, ?_,
      ⟨h₃.remember _ _ _, ⟨c₃.mappings, c₃.functions, fun j n known => ?_⟩, employed⟩,
      ⟨⟨grows.parts, grows.samples, grows.header⟩, adds.locations⟩, _, src_read, read⟩
    · rw [startsAt] at run₃
      simp only [mapLocation, hit, run₁, run₂, bind, Except.bind]
      rw [show placeLocation s₂ start _ = (s₃, id) from run₃]
    · rcases lookup_cons_eq_some known with ⟨rfl, rfl⟩ | old
      · exact ⟨_, src_read, read⟩
      · exact c₃.locations j n old

theorem mapFrame_spec (small : P.Countable) (resolved : src.Resolved) (drawn : src.DrawsFrom P)
    {id : UInt64} (known : id ∈ src.locationIds) (h : Sound P s) (c : Cached src s)
    (e : s.out.Employed) :
    ∃ s' n, mapFrame src s id = .ok (s', n) ∧
      (Sound P s' ∧ Cached src s' ∧ s'.out.Employed) ∧
      (Grows s s' ∧ ∀ l ∈ s'.out.locations, l ∈ s.out.locations ∨ l.id ∈ [n]) ∧
      ∃ fr, src.frame? id = some fr ∧ s'.out.frame? n = some fr := by
  obtain ⟨l, found⟩ := resolved.exists_location? known
  have last : lastWith Location.id id src.locations = some l :=
    (lastWith_eq_find? resolved.locations.2 _).trans found
  obtain ⟨-, rfl⟩ := (find?_eq_some_iff resolved.locations.2).mp found
  simpa [mapFrame, last] using mapLocation_spec small resolved drawn found h c e

/-- Keys that a table places are distinct. -/
theorem nodup_of_places {κ : Type} [DecidableEq κ] {table : List (κ × Nat)} {keys : List κ}
    (places : ∀ k i, table.lookup k = some i ↔ keys[i]? = some k) : keys.Nodup := by
  rw [List.nodup_iff_getElem?_ne_getElem?]
  intro i j hij hj same
  obtain ⟨k, atJ⟩ : ∃ k, keys[j]? = some k := ⟨_, List.getElem?_eq_getElem hj⟩
  have placeI := (places k i).mpr (same.trans atJ)
  have placeJ := (places k j).mpr atJ
  have : i = j := Option.some.inj (placeI.symm.trans placeJ)
  omega

namespace Sound

variable (h : Sound P s)
include h

theorem sampleKey_eq {a b : Sample} {t : Trace} (ha : s.out.trace? a = some t)
    (hb : s.out.trace? b = some t) : SampleKey.of a = SampleKey.of b := by
  simp only [Profile.trace?, Option.map_eq_some_iff] at ha hb
  obtain ⟨frames, hframes, rfl⟩ := ha
  obtain ⟨frames', hframes', same⟩ := hb
  obtain ⟨rfl, labels⟩ := Trace.mk.inj same
  simp only [SampleKey.of, SampleKey.mk.injEq]
  exact ⟨mapM_inj h.frame?_inj hframes hframes', Label.sorted_eq_iff.mpr labels.symm⟩

theorem nodup_sampleKeys : (s.out.samples.map SampleKey.of).Nodup := nodup_of_places h.samples

theorem nodup_readings : s.out.readings.keys.Nodup := by
  have keys : s.out.readings.keys = s.out.samples.map s.out.trace? := by
    simp [Ledger.keys, Profile.readings]
  rw [keys]
  refine h.nodup_sampleKeys.of_map.map_on fun a ha b hb same => ?_
  obtain ⟨t, ht⟩ := h.traced a ha
  exact List.inj_on_of_nodup_map h.nodup_sampleKeys ha hb (h.sampleKey_eq ht (same ▸ ht))

/-- Readings stay as they are while parts are added. -/
theorem readings_grow {s' : State} (grows : Grows s s') : s'.out.readings = s.out.readings := by
  simp only [Profile.readings, grows.samples]
  refine List.map_congr_left fun a ha => ?_
  obtain ⟨t, ht⟩ := h.traced a ha
  rw [ht, grows.parts.trace? ht]

theorem resample {samples : List Sample} {table : List (SampleKey × Nat)}
    (places : ∀ k i, table.lookup k = some i ↔ (samples.map SampleKey.of)[i]? = some k)
    (traced : ∀ t ∈ samples, ∃ tr, s.out.trace? t = some tr) :
    Sound P { s with out := { s.out with samples }, samples := table } :=
  ⟨h.mappings, h.functions, h.locations, places,
    ⟨h.drawn.mappings, h.drawn.functions, h.drawn.frames⟩, h.framed, traced⟩

end Sound

theorem trace?_eq_of_sampleKey (p : Profile) {a b : Sample}
    (same : SampleKey.of a = SampleKey.of b) : p.trace? a = p.trace? b := by
  simp only [SampleKey.of, SampleKey.mk.injEq] at same
  simp [Profile.trace?, same.1, Label.sorted_eq_iff.mp same.2]

theorem map_modify {f : α → β} {g : α → α} {g' : β → β} (comm : ∀ x, f (g x) = g' (f x))
    (xs : List α) (i : Nat) : (xs.modify i g).map f = (xs.map f).modify i g' := by
  refine List.ext_getElem? fun j => ?_
  by_cases here : i = j
  · cases found : xs[j]? <;> simp [here, found, comm]
  · cases found : xs[j]? <;> simp [here, found]

theorem map_modify_of_eq {f : α → β} {g : α → α} (same : ∀ x, f (g x) = f x) (xs : List α)
    (i : Nat) : (xs.modify i g).map f = xs.map f :=
  (map_modify same xs i).trans (List.modify_id i _)

theorem lookup_append_place {κ : Type} [DecidableEq κ] {table : List (κ × Nat)} {keys : List κ}
    (places : ∀ k i, table.lookup k = some i ↔ keys[i]? = some k) {new : κ}
    (missing : table.lookup new = none) (k : κ) (i : Nat) :
    ((new, keys.length) :: table).lookup k = some i ↔ (keys ++ [new])[i]? = some k := by
  rw [List.lookup_cons]
  by_cases same : k = new
  · subst same
    have absent : keys[i]? ≠ some k := by simp [← places, missing]
    rcases Nat.lt_trichotomy i keys.length with inside | rfl | outside
    · rw [List.getElem?_append_left inside]
      simp [absent, Nat.ne_of_gt inside]
    · simp
    · rw [List.getElem?_append_right (Nat.le_of_lt outside)]
      simp [Nat.ne_of_lt outside, Nat.sub_ne_zero_of_lt outside]
  · have other : (k == new) = false := by simpa using same
    rw [other, places]
    rcases Nat.lt_or_ge i keys.length with inside | outside
    · rw [List.getElem?_append_left inside]
    · rw [List.getElem?_append_right outside, List.getElem?_eq_none outside]
      simp [List.getElem?_singleton, Ne.symm same]

/-- Placing a sample changes nothing but samples, posts what it reads, and keeps all stacks. -/
theorem placeSample_spec (h : Sound P s) {sample : Sample} {tr : Trace}
    (read : s.out.trace? sample = some tr) :
    ∃ samples table,
      placeSample s sample = { s with out := { s.out with samples }, samples := table } ∧
      Sound P { s with out := { s.out with samples }, samples := table } ∧
      samples.map (fun t => (s.out.trace? t, t.values)) =
        s.out.readings.post (some tr, sample.values) ∧
      ∀ t ∈ s.out.samples ++ [sample], ∃ t' ∈ samples, t'.stack = t.stack := by
  cases hit : s.samples.lookup (.of sample) with
  | some i =>
    let add (t : Sample) : Sample := { t with values := addValues t.values sample.values }
    have keys : (s.out.samples.modify i add).map SampleKey.of = s.out.samples.map SampleKey.of :=
      map_modify_of_eq (g := add) (fun _ => rfl) _ i
    obtain ⟨t, here, same⟩ : ∃ t, s.out.samples[i]? = some t ∧ .of t = SampleKey.of sample := by
      simpa using (h.samples _ i).mp hit
    have kept : ∀ t ∈ s.out.samples, ∃ t' ∈ s.out.samples.modify i add, t'.stack = t.stack := by
      intro t ht
      obtain ⟨t', ht', same⟩ := List.mem_map.mp (keys ▸ List.mem_map_of_mem ht)
      exact ⟨t', ht', (SampleKey.mk.inj same).1⟩
    refine ⟨s.out.samples.modify i add, s.samples, by simp [placeSample, hit, add],
      h.resample (keys ▸ h.samples) fun u hu => ?_, ?_, fun u hu => ?_⟩
    · obtain ⟨v, hv, same⟩ := List.mem_map.mp (keys ▸ List.mem_map_of_mem hu)
      obtain ⟨tr, htr⟩ := h.traced v hv
      exact ⟨tr, (trace?_eq_of_sampleKey s.out same).symm.trans htr⟩
    · have place : s.out.readings[i]? = some (some tr, t.values) := by
        simp [Profile.readings, here, trace?_eq_of_sampleKey s.out same, read]
      rw [Ledger.post_of_getElem? (e := (some tr, sample.values)) h.nodup_readings place rfl]
      refine map_modify (fun t => ?_) s.out.samples i
      rfl
    · rcases List.mem_append.mp hu with old | new
      · exact kept u old
      · obtain ⟨t', ht', stack⟩ := kept t (List.mem_of_getElem? here)
        rw [List.mem_singleton.mp new]
        exact ⟨t', ht', stack.trans (SampleKey.mk.inj same).1⟩
  | none =>
    have missing : some tr ∉ s.out.readings.keys := by
      simp only [Ledger.keys, Profile.readings, List.map_map, List.mem_map, Function.comp]
      rintro ⟨t, ht, same⟩
      obtain ⟨i, hi⟩ := List.getElem?_of_mem ht
      have := (h.samples (.of sample) i).mpr (by simp [hi, h.sampleKey_eq same read])
      rw [hit] at this
      cases this
    refine ⟨s.out.samples ++ [sample], (.of sample, s.out.samples.length) :: s.samples,
      by simp [placeSample, hit],
      h.resample ?_ (forall_mem_append_singleton h.traced ⟨tr, read⟩), ?_,
      fun t ht => ⟨t, ht, rfl⟩⟩
    · simpa using lookup_append_place h.samples hit
    · rw [Ledger.post_of_not_mem missing, ← read]
      simp [Profile.readings]

/-- The merged profile has no part that no sample needs, the first mapping apart. -/
structure Tidy (P : Supply) (s : State) : Prop where
  sound : Sound P s
  employed : s.out.Employed
  sampled : s.out.Sampled

structure Gains (s s' : State) (entries : Ledger (Option Trace)) : Prop where
  parts : s.out.Extends s'.out
  header : s'.out.header = s.out.header
  readings : s'.out.readings = entries.foldl Ledger.post s.out.readings

theorem Gains.nothing (s : State) : Gains s s [] := ⟨.refl _, rfl, rfl⟩

theorem Gains.trans {s s' s'' : State} {a b : Ledger (Option Trace)} (h : Gains s s' a)
    (h' : Gains s' s'' b) : Gains s s'' (a ++ b) :=
  ⟨h.parts.trans h'.parts, h'.header.trans h.header, by
    rw [h'.readings, h.readings, List.foldl_append]⟩

theorem mapSample_spec (small : P.Countable) (resolved : src.Resolved) (drawn : src.DrawsFrom P)
    {sample : Sample} (member : sample ∈ src.samples) (tidy : Tidy P s) (c : Cached src s) :
    ∃ s', mapSample src s sample = .ok s' ∧ Tidy P s' ∧ Cached src s' ∧
      Gains s s' [(src.trace? sample, sample.values)] := by
  obtain ⟨s₁, stack, run, ⟨sound, cached, employed⟩, ⟨grows, fresh⟩, agree⟩ :=
    mapAll_spec (I := fun s => Sound P s ∧ Cached src s ∧ s.out.Employed)
      (R := fun s s' ids => Grows s s' ∧
        ∀ l ∈ s'.out.locations, l ∈ s.out.locations ∨ l.id ∈ ids)
      (Q := fun s id n => ∃ fr, src.frame? id = some fr ∧ s.out.frame? n = some fr)
      (fun s => ⟨.refl s, fun _ => Or.inl⟩)
      (fun a b => ⟨a.1.trans b.1, fun l hl => (b.2 l hl).elim
        (fun old => (a.2 l old).imp_right fun h => by simp_all)
        (fun new => Or.inr (List.mem_cons_of_mem _ new))⟩)
      (fun r ⟨fr, hx, hy⟩ => ⟨fr, hx, r.1.parts.frame? hy⟩)
      (fun id hid s h =>
        mapFrame_spec small resolved drawn (resolved.stacked sample member id hid) h.1 h.2.1 h.2.2)
      s ⟨tidy.sound, c, tidy.employed⟩
  obtain ⟨frames, there, here⟩ := exists_mapM_of_forall₂ agree
  have read : s₁.out.trace? { sample with stack } = some ⟨frames, sample.labels⟩ := by
    simp [Profile.trace?, here]
  obtain ⟨samples, table, placed, sound', posted, kept⟩ := placeSample_spec sound read
  have sampled : ∀ l ∈ s₁.out.locations, ∃ t ∈ samples, l.id ∈ t.stack := by
    intro l hl
    rcases fresh l hl with old | new
    · obtain ⟨t, ht, used⟩ := tidy.sampled l old
      rw [← grows.samples] at ht
      obtain ⟨t', ht', same⟩ := kept t (List.mem_append_left _ ht)
      exact ⟨t', ht', same ▸ used⟩
    · obtain ⟨t', ht', same⟩ := kept _ (List.mem_append_right _ (List.mem_singleton_self _))
      exact ⟨t', ht', same ▸ new⟩
  refine ⟨_, by simp [mapSample, run, bind, Except.bind]; rfl, ?_⟩
  rw [placed]
  refine ⟨⟨sound', ⟨employed.functions, employed.mappings⟩, sampled⟩,
    cached.grow ⟨List.prefix_rfl, List.prefix_rfl, List.prefix_rfl⟩ ⟨rfl, rfl, rfl⟩,
    ⟨⟨grows.parts.mappings, grows.parts.functions, grows.parts.locations⟩, grows.header, ?_⟩⟩
  have : src.trace? sample = some ⟨frames, sample.labels⟩ := by simp [Profile.trace?, there]
  rw [this, List.foldl_cons, List.foldl_nil, ← tidy.sound.readings_grow grows]
  exact posted

theorem mapSamples_spec (small : P.Countable) (resolved : src.Resolved) (drawn : src.DrawsFrom P)
    {samples : List Sample} (members : ∀ t ∈ samples, t ∈ src.samples) (tidy : Tidy P s)
    (c : Cached src s) :
    ∃ s', samples.foldlM (mapSample src) s = .ok s' ∧ Tidy P s' ∧ Cached src s' ∧
      Gains s s' (samples.map fun t => (src.trace? t, t.values)) := by
  induction samples generalizing s with
  | nil => exact ⟨s, rfl, tidy, c, .nothing s⟩
  | cons t samples ih =>
    obtain ⟨s₁, run, tidy₁, c₁, gains⟩ :=
      mapSample_spec small resolved drawn (members t List.mem_cons_self) tidy c
    obtain ⟨s₂, runs, tidy₂, c₂, gains'⟩ :=
      ih (fun t ht => members t (List.mem_cons_of_mem _ ht)) tidy₁ c₁
    refine ⟨s₂, ?_, tidy₂, c₂, gains.trans gains'⟩
    simp only [List.foldlM_cons, run]
    exact runs

theorem cached_nothing (src : Profile) (s : State) :
    Cached src { s with mappingsById := [], functionsById := [], locationsById := [] } := by
  constructor <;> intro _ _ hit <;> cases hit

/-- The first of all mappings gets the number one. -/
theorem startSource_spec (small : P.Countable) (drawn : src.DrawsFrom P) (tidy : Tidy P s) :
    Tidy P (startSource s src) ∧ Cached src (startSource s src) ∧ Gains s (startSource s src) [] ∧
      (s.out.mappings = [] → (startSource s src).out.mappings.head? =
        src.mappings.head?.map fun m => { m with id := 1 }) := by
  let s₀ : State := { s with mappingsById := [], functionsById := [], locationsById := [] }
  have tidy₀ : Tidy P s₀ := ⟨tidy.sound.remember _ _ _, tidy.employed, tidy.sampled⟩
  have cached₀ : Cached src s₀ := cached_nothing src s
  have gains₀ : Gains s s₀ [] := ⟨.refl _, rfl, rfl⟩
  cases merged : s.out.mappings with
  | cons m ms =>
    have same : startSource s src = s₀ := by simp [startSource, merged, s₀]
    exact same ▸ ⟨tidy₀, cached₀, gains₀, fun h => nomatch h⟩
  | nil =>
    cases mains : src.mappings with
    | nil =>
      have same : startSource s src = s₀ := by simp [startSource, merged, mains, s₀]
      refine same ▸ ⟨tidy₀, cached₀, gains₀, fun _ => ?_⟩
      simp [s₀, merged]
    | cons main rest =>
      have here : src.mapping? main.id = some main := by simp [Profile.mapping?, mains]
      obtain ⟨s₁, t, run, sound, cached, grows, adds, -⟩ :=
        mapMapping_spec small tidy₀.sound cached₀ here (drawn.mappings main (by simp [mains]))
      have same : startSource s src = s₁ := by
        simp only [startSource, merged, mains]
        exact congrArg Prod.fst run
      have missing : s.mappings.lookup main.key = none := by
        refine Option.eq_none_iff_forall_ne_some.mpr fun id found => ?_
        obtain ⟨m, hm, -⟩ := (tidy.sound.mappings.finds _ id).mp found
        simp [merged] at hm
      have alone : s₁.out.mappings = [{ main with id := 1 }] := by
        have := congrArg (fun r => r.1.out.mappings) run
        simpa [s₀, mapMapping, placeMapping, missing, merged, idAt] using this.symm
      refine same ▸ ⟨⟨sound, ⟨?_, ?_⟩, ?_⟩, cached, ⟨grows.parts, grows.header, ?_⟩, fun _ => ?_⟩
      · intro f hf
        obtain ⟨l, hl, used⟩ := tidy.employed.functions f ((adds.functions f hf).resolve_right
          List.not_mem_nil)
        exact ⟨l, grows.parts.locations.subset hl, used⟩
      · intro m hm
        rw [alone, List.mem_singleton] at hm
        exact Or.inl (hm ▸ rfl)
      · intro l hl
        rw [grows.samples]
        exact tidy.sampled l ((adds.locations l hl).resolve_right List.not_mem_nil)
      · exact tidy₀.sound.readings_grow grows
      · simp [alone]

theorem readings_live (p : Profile) :
    p.readings.live = (p.samples.filter (!·.isZero)).map fun t => (p.trace? t, t.values) := by
  simp [Ledger.live, Profile.readings, List.filter_map, Function.comp_def, Sample.isZero]

/-- Where nothing has a mapping, the supply may do without mappings. -/
theorem mappings_eq_nil (small : P.Countable) (resolved : src.Resolved) (drawn : src.DrawsFrom P)
    (tidy : Tidy P s) (merged : s.out.mappings = []) (bare : src.mappings = []) {s' : State}
    (run : mapSource s src = .ok s') : s'.out.mappings = [] := by
  let P' : Supply := { P with mappings := [] }
  have small' : P'.Countable := ⟨by simp [P', UInt64.size], small.functions, small.frames⟩
  have drawn' : src.DrawsFrom P' := ⟨by simp [bare], drawn.functions, drawn.frames⟩
  have h := tidy.sound
  have tidy' : Tidy P' s :=
    ⟨⟨h.mappings, h.functions, h.locations, h.samples,
      ⟨by simp [merged], h.drawn.functions, h.drawn.frames⟩, h.framed, h.traced⟩,
      tidy.employed, tidy.sampled⟩
  obtain ⟨tidy₀, cached, -, -⟩ := startSource_spec small' drawn' tidy'
  obtain ⟨s'', run', tidy'', -, -⟩ :=
    mapSamples_spec small' resolved drawn' (fun t ht => (List.mem_filter.mp ht).1) tidy₀ cached
  obtain rfl : s' = s'' := Except.ok.inj (run.symm.trans run')
  exact List.eq_nil_iff_forall_not_mem.mpr fun m hm =>
    List.not_mem_nil (tidy''.sound.drawn.mappings m hm)

theorem mapSource_spec (small : P.Countable) (resolved : src.Resolved) (drawn : src.DrawsFrom P)
    (tidy : Tidy P s) :
    ∃ s', mapSource s src = .ok s' ∧ Tidy P s' ∧ Cached src s' ∧ Gains s s' src.readings.live ∧
      s'.out.mappings.head? =
        s.out.mappings.head?.or (src.mappings.head?.map fun m => { m with id := 1 }) := by
  have members : ∀ t ∈ src.samples.filter (!·.isZero), t ∈ src.samples :=
    fun t ht => (List.mem_filter.mp ht).1
  obtain ⟨tidy₀, cached, gains₀, main⟩ := startSource_spec small drawn tidy
  obtain ⟨s', run, tidy', cached', gains⟩ :=
    mapSamples_spec small resolved drawn members tidy₀ cached
  have gained : Gains s s' src.readings.live := readings_live src ▸ gains₀.trans gains
  refine ⟨s', run, tidy', cached', gained, ?_⟩
  cases merged : s.out.mappings with
  | cons m ms =>
    obtain ⟨more, hmore⟩ := gained.parts.mappings
    simp [← hmore, merged]
  | nil =>
    cases bare : src.mappings with
    | nil => simp [mappings_eq_nil small resolved drawn tidy merged bare run]
    | cons n ns =>
      obtain ⟨more, hmore⟩ := gains.parts.mappings
      simp [← hmore, main merged, bare]

theorem mapSources_spec {srcs : List Profile} (small : P.Countable)
    (resolved : ∀ src ∈ srcs, src.Resolved) (drawn : ∀ src ∈ srcs, src.DrawsFrom P)
    (tidy : Tidy P s) :
    ∃ s', srcs.foldlM mapSource s = .ok s' ∧ Tidy P s' ∧
      Gains s s' (srcs.flatMap fun src => src.readings.live) ∧
      s'.out.mappings.head? = s.out.mappings.head?.or
        ((srcs.flatMap Profile.mappings).head?.map fun m => { m with id := 1 }) := by
  induction srcs generalizing s with
  | nil => exact ⟨s, rfl, tidy, .nothing s, by simp⟩
  | cons src srcs ih =>
    obtain ⟨resolvedHead, resolvedTail⟩ := List.forall_mem_cons.mp resolved
    obtain ⟨drawnHead, drawnTail⟩ := List.forall_mem_cons.mp drawn
    obtain ⟨s₁, run, tidy₁, -, gains, head⟩ := mapSource_spec small resolvedHead drawnHead tidy
    obtain ⟨s₂, runs, tidy₂, gains', head'⟩ := ih resolvedTail drawnTail tidy₁
    refine ⟨s₂, ?_, tidy₂, gains.trans gains', ?_⟩
    · simp only [List.foldlM_cons, run]
      exact runs
    · simp [head', head, List.head?_append, Option.or_assoc, Option.map_or]

end Merge

end Profiling
