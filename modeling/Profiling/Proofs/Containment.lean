import Profiling.Proofs.LocalBinaries
import Profiling.Proofs.Paths

/-!
# Where a search for binaries leads

The file and the build id of a mapping come with the profile. The file adds nothing but its last
name to a path, and so do the listings of directories; a build id is joined to the directories of
the search path as it is. Everything that is opened lies beneath one of them if the build id is
confined, and it alone decides that.
-/

namespace Profiling.Shelf

variable (s : Shelf) {m : Mapping}

def Proper : Prop := ∀ directory, ∀ name ∈ s.names directory, Path.IsName name

/-- What a search for the binary of a mapping opens or tries to. -/
def opened (searchPath : List String) (m : Mapping) : List String :=
  (Id.run ((Locate.search s.machine s.openObject m searchPath).run {})).2.opened

variable {s}

theorem Outcome.opened_subset {paths : List String} {found : Option ObjectFile} {t : Trail}
    (h : s.Outcome m paths found t) : t.opened ⊆ paths := by
  cases h with
  | found => simp
  | missing => exact fun _ => id

theorem Outcome.opened_eq {paths : List String} {found : Option ObjectFile} {t : Trail}
    (h : s.Outcome m paths found t) (nothing : ∀ path, s.opens path m = none) :
    t.opened = paths := by
  cases h with
  | found _ opens => simp [nothing] at opens
  | missing => rfl

theorem opened_subset (searchPath : List String) :
    s.opened searchPath m ⊆ s.candidates searchPath m := by
  obtain ⟨found, t, run, outcome⟩ := run_search (s := s) (m := m) searchPath {}
  rw [opened, run]
  exact outcome.opened_subset

/-- Every candidate is tried where nothing opens. -/
theorem opened_eq_candidates (nothing : ∀ path, s.opens path m = none) (searchPath : List String) :
    s.opened searchPath m = s.candidates searchPath m := by
  obtain ⟨found, t, run, outcome⟩ := run_search (s := s) (m := m) searchPath {}
  rw [opened, run]
  exact outcome.opened_eq nothing

theorem inside_of_mem_matching (proper : s.Proper) {directory path : String}
    (h : path ∈ s.matching directory) : Path.Inside directory path := by
  obtain ⟨name, listed, rfl⟩ := List.mem_map.mp h
  exact Path.inside_plain_iff.mp ((proper _ name listed).inside_join _)

/-- A candidate lies in a directory of the search path, or where the build id leads from it. -/
theorem inside_of_mem_candidatesIn (proper : s.Proper) {directory path : String}
    (h : path ∈ s.candidatesIn m directory) :
    Path.Inside directory path ∨ Path.Inside (Path.join directory m.buildId) path := by
  have based {dir : String} (h : path ∈ (Path.fileName? m.file).toList.map (Path.join dir)) :
      Path.Inside dir path := by
    obtain ⟨name, base, rfl⟩ := List.mem_map.mp h
    exact (Path.isName_of_fileName? (Option.mem_toList.mp base)).inside_join dir
  rw [candidatesIn] at h
  split_ifs at h with unnamed
  · exact .inl (based h)
  · rw [List.mem_append, List.mem_append] at h
    rcases h with (below | listed) | here
    · exact .inr (based below)
    · exact .inr (inside_of_mem_matching proper listed)
    · exact .inl (based here)

theorem opened_beneath (proper : s.Proper) (confined : Path.Confined m.buildId)
    {searchPath : List String} {path : String} (h : path ∈ s.opened searchPath m) :
    ∃ directory ∈ searchPath, Path.Beneath directory path := by
  obtain ⟨directory, listed, candidate⟩ := List.mem_flatMap.mp (opened_subset searchPath h)
  refine ⟨directory, listed, ?_⟩
  rcases inside_of_mem_candidatesIn proper candidate with here | below
  · exact here.beneath
  · exact below.beneath_join confined

def decoy : Shelf := ⟨fun _ => ["x"], fun _ _ => none⟩

theorem decoy_proper : decoy.Proper := by
  intro directory name listed
  obtain rfl := List.mem_singleton.mp listed
  simp [Path.IsName]

theorem exists_not_beneath (h : ¬Path.Confined m.buildId) :
    ∃ path ∈ decoy.opened ["."] m, ¬Path.Beneath "." path := by
  have named : m.buildId ≠ "" := fun e => h (by rw [e]; exact Path.confined_empty)
  have listed : Path.join (Path.plain (Path.join "." m.buildId)) "x" ∈
      decoy.matching (Path.join "." m.buildId) :=
    List.mem_singleton_self _
  refine ⟨_, ?_, fun beneath => h ((inside_of_mem_matching decoy_proper listed).confined beneath)⟩
  rw [opened_eq_candidates fun _ => rfl]
  simp [candidates, candidatesIn, named, listed]

/-- A search stays beneath the search path, whatever the machine has, just if the build id of the
mapping is relative and leads nowhere up. The file of the mapping does not matter. -/
theorem opened_beneath_iff (m : Mapping) :
    (∀ (s : Shelf) (searchPath : List String), s.Proper → ∀ path ∈ s.opened searchPath m,
      ∃ directory ∈ searchPath, Path.Beneath directory path) ↔ Path.Confined m.buildId := by
  refine ⟨fun h => ?_, fun confined s searchPath proper path => opened_beneath proper confined⟩
  by_contra strays
  obtain ⟨path, opened, outside⟩ := exists_not_beneath strays
  obtain ⟨directory, listed, beneath⟩ := h decoy ["."] decoy_proper path opened
  obtain rfl := List.mem_singleton.mp listed
  exact outside beneath

/-- An absolute build id takes the place of the search path. -/
theorem opened_outside :
    let s : Shelf :=
      ⟨fun directory => if directory = "/srv/secret" then ["key"] else [], fun _ _ => none⟩
    s.Proper ∧ s.opened ["/srv/bin"] { buildId := "/srv/secret" } = ["/srv/secret/key"] ∧
      ¬Path.Beneath "/srv/bin" "/srv/secret/key" := by
  refine ⟨fun directory name listed => ?_, by decide +kernel, ?_⟩
  · dsimp only at listed
    split_ifs at listed
    · obtain rfl := List.mem_singleton.mp listed
      simp [Path.IsName]
    · cases listed
  · have led : Path.normal "/srv/secret/key" = ["srv", "secret", "key"] := by decide +kernel
    have directory : Path.normal "/srv/bin" = ["srv", "bin"] := by decide +kernel
    rintro ⟨-, below, down, -⟩
    rw [led, directory] at down
    simp at down

end Profiling.Shelf
