import Profiling.Proofs.Reading

/-!
# The state of a merge

What holds of the merged profile and its tables while sources are merged into it:
the tables find every part by its key, parts stay where they are, and what is
remembered of the current source reads in the merged profile as it does there.
-/

namespace Profiling

/-- What the parts of several sources say. -/
structure Supply where
  mappings : List Mapping.Key
  functions : List Function.Key
  frames : List Frame

structure Supply.Countable (P : Supply) : Prop where
  mappings : P.mappings.length < UInt64.size
  functions : P.functions.length < UInt64.size
  frames : P.frames.length < UInt64.size

namespace Profile

structure DrawsFrom (p : Profile) (P : Supply) : Prop where
  mappings : ∀ m ∈ p.mappings, m.key ∈ P.mappings
  functions : ∀ f ∈ p.functions, f.key ∈ P.functions
  frames : ∀ l ∈ p.locations, ∀ fr, p.frameOf? l = some fr → fr ∈ P.frames

/-- Where a mapping starts; zero without a mapping. -/
def startAt (p : Profile) (id : UInt64) : UInt64 :=
  if id = 0 then 0 else (p.mapping? id).elim 0 Mapping.start

def locationKey (p : Profile) (l : Location) : Merge.LocationKey :=
  .of (p.startAt l.mappingId) l

/-- The frame of all locations with a key. -/
def keyFrame? (p : Profile) (k : Merge.LocationKey) : Option Frame := do
  let mapping ← p.backing? k.mappingId
  let lines ← k.lines.mapM p.frameLine?
  some ⟨mapping.map Mapping.key, k.address, lines, k.isFolded⟩

theorem startAt_of_backing? {p : Profile} {id : UInt64} {m : Option Mapping}
    (h : p.backing? id = some m) : p.startAt id = m.elim 0 Mapping.start := by
  by_cases zero : id = 0
  · obtain rfl : none = m := by simpa [backing?, zero] using h
    simp [startAt, zero]
  · simp only [backing?, zero, if_false, Option.map_eq_some_iff] at h
    obtain ⟨n, hn, rfl⟩ := h
    simp [startAt, zero, hn]

theorem frameOf?_eq_keyFrame? (p : Profile) (l : Location) :
    p.frameOf? l = p.keyFrame? (p.locationKey l) := by
  cases h : p.backing? l.mappingId with
  | none => simp [frameOf?, keyFrame?, locationKey, Merge.LocationKey.of, h]
  | some m =>
    simp [frameOf?, keyFrame?, locationKey, Merge.LocationKey.of, h, startAt_of_backing? h]

theorem Extends.locationKey {p q : Profile} (h : p.Extends q) {l : Location} {fr : Frame}
    (framed : p.frameOf? l = some fr) : q.locationKey l = p.locationKey l := by
  simp only [Profile.frameOf?, Option.bind_eq_bind, Option.bind_eq_some_iff] at framed
  obtain ⟨m, hm, -⟩ := framed
  simp [Profile.locationKey, startAt_of_backing? hm, startAt_of_backing? (h.backing? hm)]

/-- The merged mapping that a source mapping went to, and how far it was moved. -/
def HoldsMapping (p : Profile) (m : Mapping) (t : Merge.Target) : Prop :=
  ∃ n, p.mapping? t.id = some n ∧ n.key = m.key ∧ t.shift = n.start - m.start

def HoldsFunction (p : Profile) (f : Function) (id : UInt64) : Prop :=
  ∃ g, p.function? id = some g ∧ g.key = f.key

theorem Extends.holdsMapping {p q : Profile} (h : p.Extends q) {m : Mapping} {t : Merge.Target} :
    p.HoldsMapping m t → q.HoldsMapping m t := by
  rintro ⟨n, hn, same⟩
  exact ⟨n, h.mapping? hn, same⟩

theorem Extends.holdsFunction {p q : Profile} (h : p.Extends q) {f : Function} {id : UInt64} :
    p.HoldsFunction f id → q.HoldsFunction f id := by
  rintro ⟨g, hg, same⟩
  exact ⟨g, h.function? hg, same⟩

def header (p : Profile) : Profile :=
  { p with samples := [], mappings := [], locations := [], functions := [] }

end Profile

namespace Merge

/-- The merged profile can be read, and its tables find each part by its key. -/
structure Sound (P : Supply) (s : State) : Prop where
  mappings : Catalogue s.mappings Mapping.key Mapping.id s.out.mappings
  functions : Catalogue s.functions Function.key Function.id s.out.functions
  locations : Catalogue s.locations s.out.locationKey Location.id s.out.locations
  samples : ∀ k i, s.samples.lookup k = some i ↔ (s.out.samples.map SampleKey.of)[i]? = some k
  drawn : s.out.DrawsFrom P
  framed : ∀ l ∈ s.out.locations, ∃ fr, s.out.frameOf? l = some fr
  traced : ∀ t ∈ s.out.samples, ∃ tr, s.out.trace? t = some tr

/-- What is remembered of a source reads in the merged profile as in the source. -/
structure Cached (src : Profile) (s : State) : Prop where
  mappings : ∀ id t, s.mappingsById.lookup id = some t →
    ∃ m, src.mapping? id = some m ∧ s.out.HoldsMapping m t
  functions : ∀ id n, s.functionsById.lookup id = some n →
    ∃ f, src.function? id = some f ∧ s.out.HoldsFunction f n
  locations : ∀ id n, s.locationsById.lookup id = some n →
    ∃ fr, src.frame? id = some fr ∧ s.out.frame? n = some fr

/-- The merged profile gets more parts, but neither samples nor a new header. -/
structure Grows (s s' : State) : Prop where
  parts : s.out.Extends s'.out
  samples : s'.out.samples = s.out.samples
  header : s'.out.header = s.out.header

structure Recalls (s s' : State) : Prop where
  mappings : s'.mappingsById = s.mappingsById
  functions : s'.functionsById = s.functionsById
  locations : s'.locationsById = s.locationsById

/-- The numbers of all parts that the second state has and the first has not. -/
structure Adds (s s' : State) (mappings functions locations : List UInt64) : Prop where
  mappings : ∀ m ∈ s'.out.mappings, m ∈ s.out.mappings ∨ m.id ∈ mappings
  functions : ∀ f ∈ s'.out.functions, f ∈ s.out.functions ∨ f.id ∈ functions
  locations : ∀ l ∈ s'.out.locations, l ∈ s.out.locations ∨ l.id ∈ locations

theorem Grows.refl (s : State) : Grows s s := ⟨.refl _, rfl, rfl⟩

theorem Grows.trans {s s' s'' : State} (h : Grows s s') (h' : Grows s' s'') : Grows s s'' :=
  ⟨h.parts.trans h'.parts, h'.samples.trans h.samples, h'.header.trans h.header⟩

theorem Recalls.refl (s : State) : Recalls s s := ⟨rfl, rfl, rfl⟩

theorem Cached.grow {src : Profile} {s s' : State} (c : Cached src s)
    (parts : s.out.Extends s'.out) (same : Recalls s s') : Cached src s' := by
  constructor
  · intro id t hit
    obtain ⟨m, hm, holds⟩ := c.mappings id t (same.mappings ▸ hit)
    exact ⟨m, hm, parts.holdsMapping holds⟩
  · intro id n hit
    obtain ⟨f, hf, holds⟩ := c.functions id n (same.functions ▸ hit)
    exact ⟨f, hf, parts.holdsFunction holds⟩
  · intro id n hit
    obtain ⟨fr, hfr, holds⟩ := c.locations id n (same.locations ▸ hit)
    exact ⟨fr, hfr, parts.frame? holds⟩

theorem Adds.nothing (s : State) (a b c : List UInt64) : Adds s s a b c :=
  ⟨fun _ h => Or.inl h, fun _ h => Or.inl h, fun _ h => Or.inl h⟩

theorem Adds.trans {s s' s'' : State} {a b c a' b' c' : List UInt64} (h : Adds s s' a b c)
    (h' : Adds s' s'' a' b' c') : Adds s s'' (a ++ a') (b ++ b') (c ++ c') := by
  constructor
  · intro m hm
    rcases h'.mappings m hm with old | new
    · exact (h.mappings m old).imp_right (List.mem_append_left _)
    · exact Or.inr (List.mem_append_right _ new)
  · intro f hf
    rcases h'.functions f hf with old | new
    · exact (h.functions f old).imp_right (List.mem_append_left _)
    · exact Or.inr (List.mem_append_right _ new)
  · intro l hl
    rcases h'.locations l hl with old | new
    · exact (h.locations l old).imp_right (List.mem_append_left _)
    · exact Or.inr (List.mem_append_right _ new)

namespace Sound

variable {P : Supply} {s : State} (h : Sound P s)
include h

/-- What is remembered of a source does not matter. -/
theorem remember (ms : List (UInt64 × Target)) (fs ls : List (UInt64 × UInt64)) :
    Sound P { s with mappingsById := ms, functionsById := fs, locationsById := ls } :=
  ⟨h.mappings, h.functions, h.locations, h.samples, h.drawn, h.framed, h.traced⟩

/-- With new mappings and functions alone, locations and samples are read as before. -/
theorem grow {s' : State} (parts : s.out.Extends s'.out)
    (mappings : Catalogue s'.mappings Mapping.key Mapping.id s'.out.mappings)
    (functions : Catalogue s'.functions Function.key Function.id s'.out.functions)
    (mappingsDrawn : ∀ m ∈ s'.out.mappings, m.key ∈ P.mappings)
    (functionsDrawn : ∀ f ∈ s'.out.functions, f.key ∈ P.functions)
    (locations : s'.out.locations = s.out.locations) (samples : s'.out.samples = s.out.samples)
    (locationTable : s'.locations = s.locations) (sampleTable : s'.samples = s.samples) :
    Sound P s' := by
  have framed : ∀ l ∈ s'.out.locations, ∃ fr ∈ P.frames, s'.out.frameOf? l = some fr := by
    intro l hl
    rw [locations] at hl
    obtain ⟨fr, hfr⟩ := h.framed l hl
    exact ⟨fr, h.drawn.frames l hl fr hfr, parts.frameOf? hfr⟩
  refine ⟨mappings, functions, ?_, ?_, ⟨mappingsDrawn, functionsDrawn, ?_⟩, ?_, ?_⟩
  · rw [locations, locationTable]
    refine h.locations.congr fun l hl => ?_
    obtain ⟨fr, hfr⟩ := h.framed l hl
    exact (parts.locationKey hfr).symm
  · rw [samples, sampleTable]
    exact h.samples
  · intro l hl fr found
    obtain ⟨fr', drawn, found'⟩ := framed l hl
    rwa [Option.some.inj (found.symm.trans found')]
  · intro l hl
    obtain ⟨fr, -, found⟩ := framed l hl
    exact ⟨fr, found⟩
  · intro t ht
    obtain ⟨tr, htr⟩ := h.traced t (samples ▸ ht)
    exact ⟨tr, parts.trace? htr⟩

theorem backing?_inj {a b : UInt64} {m n : Option Mapping} (ha : s.out.backing? a = some m)
    (hb : s.out.backing? b = some n) (same : m.map Mapping.key = n.map Mapping.key) :
    a = b := by
  have number : ∀ {id : UInt64} {m : Mapping}, s.out.backing? id = some (some m) →
      m ∈ s.out.mappings ∧ m.id = id := by
    intro id m found
    exact (find?_eq_some_iff h.mappings.numbered.nodup).mp (Profile.mapping?_of_backing? found)
  cases m with
  | none =>
    cases n with
    | none => rw [Profile.eq_zero_of_backing? ha, Profile.eq_zero_of_backing? hb]
    | some n => cases same
  | some m =>
    cases n with
    | none => cases same
    | some n =>
      obtain ⟨hm, rfl⟩ := number ha
      obtain ⟨hn, rfl⟩ := number hb
      rw [h.mappings.eq_of_key_eq hm hn (Option.some.inj same)]

theorem frameLine?_inj (a b : Line) (x : FrameLine) (ha : s.out.frameLine? a = some x)
    (hb : s.out.frameLine? b = some x) : a = b := by
  simp only [Profile.frameLine?, Option.map_eq_some_iff] at ha hb
  obtain ⟨f, hf, rfl⟩ := ha
  obtain ⟨g, hg, same⟩ := hb
  simp only [FrameLine.mk.injEq] at same
  obtain ⟨hf, fid⟩ := (find?_eq_some_iff h.functions.numbered.nodup).mp hf
  obtain ⟨hg, gid⟩ := (find?_eq_some_iff h.functions.numbered.nodup).mp hg
  have : f = g := h.functions.eq_of_key_eq hf hg same.1.symm
  cases a
  cases b
  simp_all

theorem keyFrame?_inj {a b : LocationKey} {fr : Frame} (ha : s.out.keyFrame? a = some fr)
    (hb : s.out.keyFrame? b = some fr) : a = b := by
  simp only [Profile.keyFrame?, Option.bind_eq_bind, Option.bind_eq_some_iff,
    Option.some.injEq] at ha hb
  obtain ⟨m, hm, lines, hlines, rfl⟩ := ha
  obtain ⟨n, hn, lines', hlines', same⟩ := hb
  simp only [Frame.mk.injEq] at same
  obtain ⟨mapping, address, rfl, folded⟩ := same
  have ids := h.backing?_inj hm hn mapping.symm
  have line := mapM_inj h.frameLine?_inj hlines hlines'
  cases a
  cases b
  simp_all

theorem frame?_inj (a b : UInt64) (fr : Frame) (ha : s.out.frame? a = some fr)
    (hb : s.out.frame? b = some fr) : a = b := by
  simp only [Profile.frame?, Option.bind_eq_some_iff, Profile.frameOf?_eq_keyFrame?] at ha hb
  obtain ⟨l, foundL, frameL⟩ := ha
  obtain ⟨m, foundM, frameM⟩ := hb
  obtain ⟨hl, rfl⟩ := (find?_eq_some_iff h.locations.numbered.nodup).mp foundL
  obtain ⟨hm, rfl⟩ := (find?_eq_some_iff h.locations.numbered.nodup).mp foundM
  rw [h.locations.eq_of_key_eq hl hm (h.keyFrame?_inj frameL frameM)]

theorem nodup_frames : (s.out.locations.map s.out.frameOf?).Nodup := by
  refine h.locations.numbered.nodup.of_map.map_on fun l hl m hm same => ?_
  obtain ⟨fr, hfr⟩ := h.framed l hl
  have hfr' := same ▸ hfr
  rw [Profile.frameOf?_eq_keyFrame?] at hfr hfr'
  exact h.locations.eq_of_key_eq hl hm (h.keyFrame?_inj hfr hfr')

end Sound

end Merge

end Profiling
