import Profiling.Combine
import Profiling.Proofs.Conversion
import Profiling.Proofs.Fixpoint
import Profiling.Proofs.Origins

/-!
# Where addresses are asked for

The addresses of a merged mapping are asked for in the address spaces in which its image was
seen. Origins are kept by image alone, while merging also tells mappings by size and offset: an
image with several mappings in one process has origins that belong to others of them.
-/

namespace Profiling

structure Capture where
  profile : Profile
  url : String

namespace Capture

def sources (c : Capture) : Provenance := (Provenance.collect c.profile c.url).1

def named (c : Capture) : Profile := (Provenance.collect c.profile c.url).2

/-- Where an image was loaded in the process of a server. -/
def originsOf (c : Capture) (key : ImageKey) : List Origin :=
  (c.profile.mappings.filter fun n => ImageKey.ofMapping n c.url = key).map
    fun n => ⟨c.url, n.start⟩

theorem originsOf_sources (c : Capture) (key : ImageKey) :
    c.sources.originsOf key = c.originsOf key := by
  suffices ∀ (ms : List Mapping) (p : Provenance),
      (ms.foldl (fun map m => map.push (.ofMapping m c.url) ⟨c.url, m.start⟩) p).originsOf key =
        p.originsOf key ++ (ms.filter fun n => ImageKey.ofMapping n c.url = key).map
          fun n => ⟨c.url, n.start⟩ from
    this c.profile.mappings .empty
  intro ms
  induction ms with
  | nil => simp
  | cons m ms ih =>
    intro p
    rw [List.foldl_cons, ih, Provenance.push, Provenance.originsOf_add, List.append_assoc]
    by_cases same : ImageKey.ofMapping m c.url = key
    · simp [same]
    · simp [same, Ne.symm same]

theorem mem_originsOf {c : Capture} {key : ImageKey} {o : Origin} :
    o ∈ c.originsOf key ↔
      ∃ n ∈ c.profile.mappings, ImageKey.ofMapping n c.url = key ∧ o = ⟨c.url, n.start⟩ := by
  simp [originsOf, and_assoc, eq_comm]

end Capture

namespace Provenance

/-- The image under which the origins of a merged mapping are found. -/
def imageOf (p : Provenance) (m : Mapping) : Option ImageKey :=
  if !m.buildId.isEmpty then some (.buildId m.buildId)
  else if m.file.isEmpty then none
  else if (p.originsOf (.file m.file)).isEmpty then some (.source m.file)
  else some (.file m.file)

theorem sourcesFor_eq (p : Provenance) (m : Mapping) :
    p.sourcesFor m = matchingFirst m.start ((p.imageOf m).elim [] p.originsOf) := by
  rw [sourcesFor, imageOf]
  congr 1
  split
  · rfl
  · split
    · rfl
    · cases found : p.originsOf (.file m.file) with
      | nil => simp
      | cons o os => simp [found]

theorem mem_matchingFirst {start : UInt64} {origins : List Origin} {o : Origin} :
    o ∈ matchingFirst start origins ↔ o ∈ origins := by
  by_cases here : o.start = start <;> simp [matchingFirst, here]

/-- Where an origin with the wanted start is known, one comes first. -/
theorem head?_matchingFirst {start : UInt64} {origins : List Origin} {o : Origin}
    (member : o ∈ origins) (here : o.start = start) :
    (matchingFirst start origins).head?.map Origin.start = some start := by
  have found : o ∈ origins.filter (·.start = start) := by simp [member, here]
  cases first : origins.filter (·.start = start) with
  | nil => simp [first] at found
  | cons o' os =>
    have there : o' ∈ origins.filter (·.start = start) := by simp [first]
    simpa [matchingFirst, first] using (List.mem_filter.mp there).2

end Provenance

theorem combine_eq_ok_iff {profiles : List Profile} {sources : List Provenance}
    {out : Profile × Provenance} : combine profiles sources = .ok out ↔
      ∃ harmonized, Profile.harmonize profiles = .ok harmonized ∧
        ∃ merged, merge harmonized = .ok merged ∧
          (merged, sources.foldl Provenance.append .empty) = out := by
  simp only [combine, Merge.bind_eq_ok_iff, pure, Except.pure, Except.ok.injEq]

theorem Profile.convertTo_parts {p q : Profile} {common : CommonTypes}
    (ok : convertTo common p = .ok q) :
    q.mappings = p.mappings ∧ q.functions = p.functions ∧ q.locations = p.locations := by
  obtain ⟨period, periodType, frame⟩ := retyped_frame common p
  simp only [convertTo, frame] at ok
  rw [scaleEach_frame ok]
  exact ⟨rfl, rfl, rfl⟩

/-- Bringing profiles to common units leaves alone what samples refer to. -/
theorem Profile.harmonize_parts {profiles out : List Profile} (ok : harmonize profiles = .ok out) :
    List.Forall₂ (fun p q => q.mappings = p.mappings ∧ q.functions = p.functions ∧
      q.locations = p.locations) profiles out := by
  rcases harmonize_eq_ok ok with ⟨rfl, rfl⟩ | ⟨first, -, common, -, converted⟩
  · exact .nil
  · exact converted.imp fun p q => convertTo_parts

theorem flatMap_eq_of_forall₂ {f : α → List β} {R : α → α → Prop} {xs ys : List α}
    (same : ∀ x y, R x y → f y = f x) (related : List.Forall₂ R xs ys) :
    ys.flatMap f = xs.flatMap f := by
  induction related with
  | nil => rfl
  | cons head _ ih => rw [List.flatMap_cons, List.flatMap_cons, same _ _ head, ih]

/-- All together they have the same parts as before. -/
theorem Profile.flatMap_harmonize {profiles out : List Profile}
    (ok : harmonize profiles = .ok out) :
    out.flatMap Profile.mappings = profiles.flatMap Profile.mappings ∧
      out.flatMap Profile.functions = profiles.flatMap Profile.functions ∧
      out.flatMap Profile.locations = profiles.flatMap Profile.locations :=
  have parts := harmonize_parts ok
  ⟨flatMap_eq_of_forall₂ (fun _ _ h => h.1) parts,
    flatMap_eq_of_forall₂ (fun _ _ h => h.2.1) parts,
    flatMap_eq_of_forall₂ (fun _ _ h => h.2.2) parts⟩

theorem Merge.Countable.harmonize {profiles out : List Profile} (countable : Countable profiles)
    (ok : Profile.harmonize profiles = .ok out) : Countable out := by
  obtain ⟨mappings, functions, locations⟩ := Profile.flatMap_harmonize ok
  refine ⟨?_, ?_, ?_⟩
  · rw [mappings]
    exact countable.mappings
  · rw [functions]
    exact countable.functions
  · rw [locations]
    exact countable.locations

open Merge in
/-- Every merged mapping is one of a source under another number. -/
theorem mappings_of_merge {srcs : List Profile} {out : Profile} (countable : Countable srcs)
    (run : merge srcs = .ok out) :
    ∀ m ∈ out.mappings, ∃ n ∈ srcs.flatMap Profile.mappings, { n with id := m.id } = m := by
  cases srcs with
  | nil => cases run
  | cons first rest =>
    obtain ⟨merged, passed, second⟩ := bind_eq_ok_iff.mp run
    obtain ⟨s, rfl, filed, -⟩ := pass_filed countable passed
    split at second
    · obtain ⟨t, rfl, again, -⟩ := pass_filed filed.countable second
      intro m hm
      obtain ⟨k, hk, renumbered⟩ := again.mappingsFrom m hm
      obtain ⟨n, hn, same⟩ := filed.mappingsFrom k (by simpa [stockOf] using hk)
      refine ⟨n, hn, Eq.trans ?_ renumbered⟩
      exact congrArg (fun x : Mapping => { x with id := m.id }) same
    · obtain rfl : s.out = out := Except.ok.inj second
      exact filed.mappingsFrom

/-- Merging folds mappings with one key. An origin is right for a merged mapping if its server
had a mapping there that is folded into it. -/
def FoldedAt (captures : List Capture) (m : Mapping) (o : Origin) : Prop :=
  ∃ c ∈ captures, c.url = o.source ∧
    ∃ n ∈ c.profile.mappings, n.start = o.start ∧ (Provenance.nameAfter c.url n).key = m.key

instance (captures : List Capture) (m : Mapping) (o : Origin) :
    Decidable (FoldedAt captures m o) :=
  inferInstanceAs (Decidable (∃ c ∈ captures, _ ∧ ∃ n ∈ c.profile.mappings, _))

theorem start_nameAfter (url : String) (n : Mapping) :
    (Provenance.nameAfter url n).start = n.start := by
  rw [Provenance.nameAfter]
  split <;> rfl

theorem key_nameAfter (url : String) (n : Mapping) :
    (Provenance.nameAfter url n).key =
      ⟨n.roundedSize, n.offset, (ImageKey.ofMapping n url).text⟩ := by
  rw [Provenance.nameAfter, ImageKey.ofMapping]
  by_cases named : n.buildId.isEmpty <;> by_cases filed : n.file.isEmpty <;>
    simp [named, filed, Mapping.key, Mapping.roundedSize, Mapping.image, ImageKey.text]

theorem text_of_imageOf {p : Provenance} {m : Mapping} {key : ImageKey}
    (found : p.imageOf m = some key) : key.text = m.image := by
  rw [Provenance.imageOf] at found
  rw [Mapping.image]
  by_cases named : m.buildId.isEmpty
  · simp only [named, Bool.not_true, Bool.false_eq_true, if_false, if_true] at found ⊢
    split at found
    · cases found
    · split at found <;> rw [← Option.some.inj found] <;> rfl
  · simp only [named, Bool.not_false, if_true] at found ⊢
    rw [← Option.some.inj found]
    rfl

theorem file_of_ofMapping {n : Mapping} {url path : String}
    (key : ImageKey.ofMapping n url = .file path) : n.file = path := by
  rw [ImageKey.ofMapping] at key
  split at key
  · cases key
  · split at key
    · exact ImageKey.file.inj key
    · cases key

def combineCaptures (captures : List Capture) : Except ProfileError (Profile × Provenance) :=
  combine (captures.map Capture.named) (captures.map Capture.sources)

/-- No binary is named like a server. -/
def ServersApart (captures : List Capture) : Prop :=
  ∀ c ∈ captures, ∀ d ∈ captures, ∀ n ∈ d.profile.mappings, n.file ≠ c.url

instance (captures : List Capture) : Decidable (ServersApart captures) :=
  inferInstanceAs (Decidable (∀ c ∈ captures, ∀ d ∈ captures, ∀ n ∈ d.profile.mappings, _))

section

variable {captures : List Capture} {aggregate : Profile} {sources : Provenance}

theorem originsOf_combineCaptures (run : combineCaptures captures = .ok (aggregate, sources))
    (key : ImageKey) : sources.originsOf key = captures.flatMap (·.originsOf key) := by
  obtain ⟨harmonized, -, merged, -, made⟩ := combine_eq_ok_iff.mp run
  obtain ⟨-, rfl⟩ := Prod.mk.inj made
  rw [Provenance.originsOf_foldl, List.flatMap_map]
  simp only [Capture.originsOf_sources]
  rfl

/-- A merged mapping is one that a server sent, with the server's name if it has none. -/
theorem mappings_of_combineCaptures (countable : Merge.Countable (captures.map Capture.named))
    (run : combineCaptures captures = .ok (aggregate, sources)) :
    ∀ m ∈ aggregate.mappings, ∃ c ∈ captures, ∃ n ∈ c.profile.mappings,
      { Provenance.nameAfter c.url n with id := m.id } = m := by
  obtain ⟨harmonized, brought, merged, summed, made⟩ := combine_eq_ok_iff.mp run
  obtain ⟨rfl, -⟩ := Prod.mk.inj made
  have mappings := (Profile.flatMap_harmonize brought).1
  intro m hm
  obtain ⟨k, hk, same⟩ := mappings_of_merge (countable.harmonize brought) summed m hm
  rw [mappings, List.flatMap_map] at hk
  obtain ⟨c, hc, hk⟩ := List.mem_flatMap.mp hk
  obtain ⟨n, hn, rfl⟩ := List.mem_map.mp hk
  exact ⟨c, hc, n, hn, same⟩

theorem mem_sourcesFor (run : combineCaptures captures = .ok (aggregate, sources)) {m : Mapping}
    {o : Origin} : o ∈ sources.sourcesFor m ↔ ∃ c ∈ captures, ∃ n ∈ c.profile.mappings,
      sources.imageOf m = some (.ofMapping n c.url) ∧ o = ⟨c.url, n.start⟩ := by
  rw [Provenance.sourcesFor_eq, Provenance.mem_matchingFirst]
  cases found : sources.imageOf m with
  | none => simp
  | some key =>
    simp only [Option.elim_some, originsOf_combineCaptures run, List.mem_flatMap,
      Capture.mem_originsOf, Option.some.injEq, eq_comm]

theorem mem_originsOf_recorded (run : combineCaptures captures = .ok (aggregate, sources))
    {c : Capture} (hc : c ∈ captures) {n : Mapping} (hn : n ∈ c.profile.mappings) :
    ⟨c.url, n.start⟩ ∈ sources.originsOf (.ofMapping n c.url) := by
  rw [originsOf_combineCaptures run]
  exact List.mem_flatMap.mpr ⟨c, hc, Capture.mem_originsOf.mpr ⟨n, hn, rfl, rfl⟩⟩

/-- A mapping with a build id or a file is found under that. -/
theorem imageOf_named (run : combineCaptures captures = .ok (aggregate, sources))
    {c : Capture} (hc : c ∈ captures) {n : Mapping} (hn : n ∈ c.profile.mappings)
    (own : ¬(n.buildId.isEmpty = true ∧ n.file.isEmpty = true)) {m : Mapping}
    (same : { Provenance.nameAfter c.url n with id := m.id } = m) :
    sources.imageOf m = some (.ofMapping n c.url) := by
  have recorded := mem_originsOf_recorded run hc hn
  have kept : Provenance.nameAfter c.url n = n := by
    rw [Provenance.nameAfter, ImageKey.ofMapping]
    by_cases built : n.buildId.isEmpty <;> by_cases filed : n.file.isEmpty <;> simp_all
  rw [kept] at same
  have buildId : m.buildId = n.buildId := (congrArg Mapping.buildId same).symm
  have file : m.file = n.file := (congrArg Mapping.file same).symm
  by_cases built : n.buildId.isEmpty
  · have filed : n.file.isEmpty = false := by simpa [built] using own
    simp only [ImageKey.ofMapping, built, filed, Bool.not_true, Bool.not_false,
      Bool.false_eq_true, if_false, if_true] at recorded ⊢
    simp [Provenance.imageOf, buildId, built, file, filed, List.ne_nil_of_mem recorded]
  · simp [Provenance.imageOf, ImageKey.ofMapping, buildId, built]

/-- A mapping without either has the name of its server, and is found under a file if there is
one of that name. -/
theorem imageOf_anonymous {c : Capture} (served : c.url ≠ "") {n : Mapping}
    (anonymous : n.buildId.isEmpty = true ∧ n.file.isEmpty = true) {m : Mapping}
    (same : { Provenance.nameAfter c.url n with id := m.id } = m) :
    sources.imageOf m = some
      (if sources.originsOf (.file c.url) = [] then .ofMapping n c.url else .file c.url) := by
  obtain ⟨built, filed⟩ := anonymous
  have key : ImageKey.ofMapping n c.url = .source c.url := by
    simp [ImageKey.ofMapping, built, filed]
  rw [Provenance.nameAfter, key] at same
  have buildId : m.buildId = n.buildId := (congrArg Mapping.buildId same).symm
  have file : m.file = c.url := (congrArg Mapping.file same).symm
  by_cases none : sources.originsOf (.file c.url) = [] <;>
    simp [Provenance.imageOf, key, buildId, built, file, served, none]

/-- A mapping is found under the image that it had where it came from. -/
theorem imageOf_captured (run : combineCaptures captures = .ok (aggregate, sources))
    (apart : ServersApart captures) {c : Capture} (hc : c ∈ captures) {n : Mapping}
    (hn : n ∈ c.profile.mappings) {m : Mapping}
    (same : { Provenance.nameAfter c.url n with id := m.id } = m) :
    sources.imageOf m = some (.ofMapping n c.url) := by
  by_cases own : n.buildId.isEmpty = true ∧ n.file.isEmpty = true
  · have served : c.url ≠ "" := fun empty =>
      apart c hc c hc n hn ((String.isEmpty_iff.mp own.2).trans empty.symm)
    have none : sources.originsOf (.file c.url) = [] := by
      rw [originsOf_combineCaptures run, List.flatMap_eq_nil_iff]
      intro d hd
      refine List.eq_nil_iff_forall_not_mem.mpr fun o ho => ?_
      obtain ⟨k, hk, key, -⟩ := Capture.mem_originsOf.mp ho
      exact apart c hc d hd k hk (file_of_ofMapping key)
    rw [imageOf_anonymous served own same, if_pos none]
  · exact imageOf_named run hc hn own same

end

/-- The origins of a merged mapping are those of all mappings of its image, whichever they are.
Unless a binary is named like a server, the first has the start of the mapping, and one of its
own is among them. All are its own if the mappings of the image have one size and offset. -/
theorem sourcesFor_spec {captures : List Capture} {aggregate : Profile} {sources : Provenance}
    (countable : Merge.Countable (captures.map Capture.named))
    (run : combineCaptures captures = .ok (aggregate, sources)) {m : Mapping}
    (member : m ∈ aggregate.mappings) :
    sources.sourcesFor m = Provenance.matchingFirst m.start
      ((sources.imageOf m).elim [] fun key => captures.flatMap (·.originsOf key)) ∧
    (ServersApart captures →
      (sources.sourcesFor m).head?.map Origin.start = some m.start ∧
        ∃ o ∈ sources.sourcesFor m, o.start = m.start ∧ FoldedAt captures m o) ∧
    ((∀ c ∈ captures, ∀ n ∈ c.profile.mappings,
        sources.imageOf m = some (.ofMapping n c.url) →
          n.roundedSize = m.roundedSize ∧ n.offset = m.offset) →
      ∀ o ∈ sources.sourcesFor m, FoldedAt captures m o) := by
  refine ⟨?_, fun apart => ?_, fun uniform o ho => ?_⟩
  · rw [Provenance.sourcesFor_eq]
    exact congrArg (fun origins => Provenance.matchingFirst m.start
      ((sources.imageOf m).elim [] origins)) (funext (originsOf_combineCaptures run))
  · obtain ⟨c, hc, n, hn, same⟩ := mappings_of_combineCaptures countable run m member
    have start : n.start = m.start := by rw [← start_nameAfter c.url n, ← same]
    have own : (⟨c.url, n.start⟩ : Origin) ∈ sources.sourcesFor m :=
      (mem_sourcesFor run).mpr ⟨c, hc, n, hn, imageOf_captured run apart hc hn same, rfl⟩
    refine ⟨?_, _, own, start, c, hc, rfl, n, hn, rfl, ?_⟩
    · rw [Provenance.sourcesFor_eq] at own ⊢
      exact Provenance.head?_matchingFirst (Provenance.mem_matchingFirst.mp own) start
    · exact (congrArg Mapping.key same :)
  · obtain ⟨c, hc, n, hn, image, rfl⟩ := (mem_sourcesFor run).mp ho
    obtain ⟨size, offset⟩ := uniform c hc n hn image
    refine ⟨c, hc, rfl, n, hn, rfl, ?_⟩
    rw [key_nameAfter, size, offset, text_of_imageOf image]
    rfl

def twoServers : List Capture :=
  [⟨.lone 0x1000 5, "http://a/debug/pprof/profile"⟩,
    ⟨.lone 0x8000 7, "http://b/debug/pprof/profile"⟩]

theorem sourcesFor_spec_twoServers :
    ∃ sources main, combineCaptures twoServers = .ok (.lone 0x1000 12, sources) ∧
      (Profile.lone 0x1000 12).mappings = [main] ∧
      (sources.sourcesFor main).head?.map Origin.start = some 0x1000 ∧
      ∀ o ∈ sources.sourcesFor main, FoldedAt twoServers main o := by
  let sources := (twoServers.map Capture.sources).foldl Provenance.append .empty
  have run : combineCaptures twoServers = .ok (.lone 0x1000 12, sources) := by decide +kernel
  obtain ⟨-, first, uniform⟩ :=
    sourcesFor_spec ⟨by decide, by decide, by decide⟩ run List.mem_cons_self
  exact ⟨sources, _, run, rfl, (first (by decide)).1, uniform (by decide +kernel)⟩

def segmented : Capture where
  url := "http://a/debug/pprof/profile"
  profile :=
    { sampleTypes := [⟨"cpu", "ns"⟩]
      samples := [{ stack := [1, 2], values := [1] }]
      mappings := [{ id := 1, start := 0x1000, limit := 0x3000, file := "/bin/app" },
        { id := 2, start := 0x5000, limit := 0x7000, offset := 0x4000, file := "/bin/app" }]
      locations := [{ id := 1, mappingId := 1, address := 0x1010 },
        { id := 2, mappingId := 2, address := 0x5010 }] }

/-- The first segment is also asked for at the start of the second one. -/
theorem sourcesFor_strays : segmented.profile.checkValid = .ok () ∧
    ∃ aggregate sources m, combineCaptures [segmented] = .ok (aggregate, sources) ∧
      m ∈ aggregate.mappings ∧ ∃ o ∈ sources.sourcesFor m, ¬FoldedAt [segmented] m o := by
  refine ⟨by decide, segmented.profile, segmented.sources, _, by decide +kernel,
    List.mem_cons_self, ⟨"http://a/debug/pprof/profile", 0x5000⟩, by decide +kernel,
    by decide +kernel⟩

end Profiling
