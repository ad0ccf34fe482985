import Profiling.Proofs.AddressSpaces

/-!
# Origins that are kept

Merging tells images by how they are called, whether that is a build id, a file or a server.
Origins are recorded under which of the three it is, too, and are looked up for a merged mapping
under one of them. So an origin is found unless its image is called like that of the merged
mapping and is told in another way.
-/

namespace Profiling

section

variable {captures : List Capture} {aggregate : Profile} {sources : Provenance}

/-- Images that are called alike are told in the same way. -/
def CalledApart (captures : List Capture) : Prop :=
  ∀ c ∈ captures, ∀ n ∈ c.profile.mappings, ∀ d ∈ captures, ∀ k ∈ d.profile.mappings,
    (ImageKey.ofMapping n c.url).text = (ImageKey.ofMapping k d.url).text →
      ImageKey.ofMapping n c.url = ImageKey.ofMapping k d.url

instance (captures : List Capture) : Decidable (CalledApart captures) :=
  inferInstanceAs (Decidable (∀ c ∈ captures, ∀ n ∈ c.profile.mappings, ∀ d ∈ captures,
    ∀ k ∈ d.profile.mappings, _ → _))

/-- The image under which a merged mapping is looked up was recorded by a server. -/
theorem exists_imageOf (countable : Merge.Countable (captures.map Capture.named))
    (run : combineCaptures captures = .ok (aggregate, sources))
    (served : ∀ c ∈ captures, c.url ≠ "") {m : Mapping} (member : m ∈ aggregate.mappings) :
    ∃ c ∈ captures, ∃ k ∈ c.profile.mappings,
      sources.imageOf m = some (.ofMapping k c.url) := by
  obtain ⟨c, hc, n, hn, same⟩ := mappings_of_combineCaptures countable run m member
  by_cases own : n.buildId.isEmpty = true ∧ n.file.isEmpty = true
  · have found := @imageOf_anonymous sources c (served c hc) n own m same
    split at found
    · exact ⟨c, hc, n, hn, found⟩
    · rename_i recorded
      rw [originsOf_combineCaptures run] at recorded
      obtain ⟨o, ho⟩ := List.exists_mem_of_ne_nil _ recorded
      obtain ⟨d, hd, ho⟩ := List.mem_flatMap.mp ho
      obtain ⟨k, hk, key, -⟩ := Capture.mem_originsOf.mp ho
      exact ⟨d, hd, k, hk, key ▸ found⟩
  · exact ⟨c, hc, n, hn, imageOf_named run hc hn own same⟩

/-- What is folded into a mapping is called like it. -/
theorem text_of_key {url : String} {n m : Mapping}
    (folded : (Provenance.nameAfter url n).key = m.key) :
    (ImageKey.ofMapping n url).text = m.image := by
  rw [key_nameAfter] at folded
  exact congrArg Mapping.Key.image folded

end

/-- A merged mapping is looked up under an image that some server recorded. What is folded into
it has an image that is called alike; if it is told in the same way the origin is found. So no
origin is lost when images are called apart. -/
theorem sourcesFor_keeps {captures : List Capture} {aggregate : Profile} {sources : Provenance}
    (countable : Merge.Countable (captures.map Capture.named))
    (served : ∀ c ∈ captures, c.url ≠ "")
    (run : combineCaptures captures = .ok (aggregate, sources)) {m : Mapping}
    (member : m ∈ aggregate.mappings) :
    (∃ key, sources.imageOf m = some key ∧
      (∃ d ∈ captures, ∃ k ∈ d.profile.mappings, ImageKey.ofMapping k d.url = key) ∧
      ∀ c ∈ captures, ∀ n ∈ c.profile.mappings, (Provenance.nameAfter c.url n).key = m.key →
        (ImageKey.ofMapping n c.url).text = key.text ∧
        ((ImageKey.ofMapping n c.url).rank = key.rank →
          ⟨c.url, n.start⟩ ∈ sources.sourcesFor m)) ∧
    (CalledApart captures → ∀ o, FoldedAt captures m o → o ∈ sources.sourcesFor m) := by
  obtain ⟨d, hd, k, hk, found⟩ := exists_imageOf countable run served member
  have alike : ∀ c ∈ captures, ∀ n ∈ c.profile.mappings,
      (Provenance.nameAfter c.url n).key = m.key →
        (ImageKey.ofMapping n c.url).text = (ImageKey.ofMapping k d.url).text :=
    fun c _ n _ folded => (text_of_key folded).trans (text_of_imageOf found).symm
  have kept : ∀ c ∈ captures, ∀ n ∈ c.profile.mappings,
      ImageKey.ofMapping n c.url = ImageKey.ofMapping k d.url →
        (⟨c.url, n.start⟩ : Origin) ∈ sources.sourcesFor m :=
    fun c hc n hn same => (mem_sourcesFor run).mpr ⟨c, hc, n, hn, same ▸ found, rfl⟩
  refine ⟨⟨_, found, ⟨d, hd, k, hk, rfl⟩, fun c hc n hn folded => ?_⟩, fun apart => ?_⟩
  · have called := alike c hc n hn folded
    exact ⟨called, fun told => kept c hc n hn (ImageKey.eq_of_rank_eq told called)⟩
  · rintro ⟨_, _⟩ ⟨c, hc, rfl, n, hn, rfl, folded⟩
    exact kept c hc n hn (apart c hc n hn d hd k hk (alike c hc n hn folded))

theorem sourcesFor_keeps_twoServers :
    ∃ sources main, combineCaptures twoServers = .ok (.lone 0x1000 12, sources) ∧
      (Profile.lone 0x1000 12).mappings = [main] ∧
      ⟨"http://a/debug/pprof/profile", 0x1000⟩ ∈ sources.sourcesFor main ∧
      ⟨"http://b/debug/pprof/profile", 0x8000⟩ ∈ sources.sourcesFor main := by
  let sources := (twoServers.map Capture.sources).foldl Provenance.append .empty
  have run : combineCaptures twoServers = .ok (.lone 0x1000 12, sources) := by decide +kernel
  obtain ⟨-, keeps⟩ :=
    sourcesFor_keeps ⟨by decide, by decide, by decide⟩ (by decide) run List.mem_cons_self
  have apart : CalledApart twoServers := by decide +kernel
  exact ⟨sources, _, run, rfl, keeps apart _ (by decide +kernel), keeps apart _ (by decide +kernel)⟩

def namesakes : List Capture :=
  [⟨{ Profile.lone 0x1000 5 with
      mappings := [{ id := 1, start := 0x1000, limit := 0x3000, file := "4f2a" }] },
    "http://a/debug/pprof/profile"⟩,
   ⟨{ Profile.lone 0x8000 7 with
      mappings := [{ id := 1, start := 0x8000, limit := 0xa000, buildId := "4f2a" }] },
    "http://b/debug/pprof/profile"⟩]

/-- The two are folded, and only the first server is known for them. -/
theorem sourcesFor_loses_namesake :
    (∀ c ∈ namesakes, c.profile.checkValid = .ok () ∧ c.url ≠ "") ∧
    ∃ aggregate sources m, combineCaptures namesakes = .ok (aggregate, sources) ∧
      m ∈ aggregate.mappings ∧
      FoldedAt namesakes m ⟨"http://b/debug/pprof/profile", 0x8000⟩ ∧
      sources.sourcesFor m = [⟨"http://a/debug/pprof/profile", 0x1000⟩] := by
  refine ⟨by decide +kernel, { Profile.lone 0x1000 12 with
    mappings := [{ id := 1, start := 0x1000, limit := 0x3000, file := "4f2a" }] },
    (namesakes.map Capture.sources).foldl Provenance.append .empty, _, by decide +kernel,
    List.mem_cons_self, by decide +kernel, by decide +kernel⟩

end Profiling
