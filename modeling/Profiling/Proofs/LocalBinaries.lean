import Mathlib.Data.List.Basic
import Profiling.Locate

/-!
# Local copies of binaries

A search for binaries on a machine that keeps what it opens and what it warns of. A mapping is
pointed at the first of its candidates that opens and is not another binary; those before it that
could be opened are reported, one by one, and nothing else of a profile changes.
-/

namespace Profiling

/-- What a search can meet: the names in directories, and the binaries that open for a mapping. -/
structure Shelf where
  names : String → List String
  opens : String → Mapping → Option ObjectFile

structure Trail where
  opened : List String := []
  warnings : List String := []
deriving DecidableEq

namespace Trail

instance : Append Trail := ⟨fun a b => ⟨a.opened ++ b.opened, a.warnings ++ b.warnings⟩⟩

@[simp] theorem opened_append (a b : Trail) : (a ++ b).opened = a.opened ++ b.opened := rfl

@[simp] theorem warnings_append (a b : Trail) : (a ++ b).warnings = a.warnings ++ b.warnings := rfl

theorem append_nothing (a : Trail) : a ++ {} = a := by
  obtain ⟨opened, warnings⟩ := a
  change Trail.mk _ _ = _
  simp

theorem append_assoc (a b c : Trail) : a ++ b ++ c = a ++ (b ++ c) := by
  change Trail.mk _ _ = Trail.mk _ _
  simp

end Trail

namespace Shelf

variable (s : Shelf)

def machine : Machine (StateM Trail) where
  readFile _ := pure (.error .notFound)
  isFile _ := pure false
  names path := pure (s.names path)
  createDirectories _ := pure (.error .notPermitted)
  createNew _ := pure (.error .notPermitted)
  write _ _ := pure (.error .notPermitted)
  removeFile _ := pure (.error .notFound)
  tempDirectory := pure "/tmp"
  scratchFile _ _ := pure (.error .notPermitted)
  run _ _ := pure (.error .notFound)
  exchange _ := pure none
  print _ := pure ()
  warn text := fun trail => ((), trail ++ { warnings := [text] })

def openObject : OpenObject (StateM Trail) := fun path m trail =>
  (s.opens path m, trail ++ { opened := [path] })

def matching (directory : String) : List String :=
  let directory := Path.plain directory
  (s.names (if directory.isEmpty then "." else directory)).map (Path.join directory)

/-- The candidates in one directory: below the build id the file with the name of the binary and
then every file, and after them the file with the name of the binary in the directory itself. -/
def candidatesIn (m : Mapping) (directory : String) : List String :=
  let base := (Path.fileName? m.file).toList
  let below := Path.join directory m.buildId
  if m.buildId = "" then base.map (Path.join directory)
  else base.map (Path.join below) ++ s.matching below ++ base.map (Path.join directory)

def candidates (searchPath : List String) (m : Mapping) : List String :=
  searchPath.flatMap (s.candidatesIn m)

/-- A file is the binary of a mapping, as far as build ids tell. -/
def Suits (m : Mapping) (file : ObjectFile) : Prop := m.buildId = "" ∨ m.buildId = file.buildId

theorem suits_iff {m : Mapping} {file : ObjectFile} :
    (m.buildId.isEmpty || decide (m.buildId = file.buildId)) = true ↔ Suits m file := by
  simp [Suits]

/-- Nothing opens at a path, or another binary does. -/
def Rejects (m : Mapping) (path : String) : Prop :=
  ∀ file, s.opens path m = some file → ¬Suits m file

/-- The warnings about paths: one for each that opens. -/
def complaints (m : Mapping) (paths : List String) : List String :=
  paths.filterMap fun path => (s.opens path m).map (Locate.mismatch · m.buildId)

inductive Outcome (m : Mapping) : List String → Option ObjectFile → Trail → Prop
  | found {before after : List String} {path : String} {file : ObjectFile} :
    (∀ other ∈ before, s.Rejects m other) → s.opens path m = some file → Suits m file →
      Outcome m (before ++ path :: after) (some file)
        { opened := before ++ [path], warnings := s.complaints m before }
  | missing {paths : List String} : (∀ path ∈ paths, s.Rejects m path) →
    Outcome m paths none { opened := paths, warnings := s.complaints m paths }

variable {s} {m : Mapping}

theorem Outcome.more {paths : List String} {file : ObjectFile} {t : Trail}
    (h : s.Outcome m paths (some file) t) (others : List String) :
    s.Outcome m (paths ++ others) (some file) t := by
  cases h with
  | found rejected opened suits =>
    rw [List.append_assoc, List.cons_append]
    exact .found rejected opened suits

theorem Outcome.after {paths others : List String} {found : Option ObjectFile} {t t' : Trail}
    (h : s.Outcome m paths none t) (h' : s.Outcome m others found t') :
    s.Outcome m (paths ++ others) found (t ++ t') := by
  cases h with
  | missing rejected =>
    have both {later : List String} (next : ∀ path ∈ later, s.Rejects m path) :
        ∀ path ∈ paths ++ later, s.Rejects m path :=
      List.forall_mem_append.mpr ⟨rejected, next⟩
    have warned (later : List String) :
        s.complaints m paths ++ s.complaints m later = s.complaints m (paths ++ later) :=
      List.filterMap_append.symm
    cases h' with
    | @found before after path file next opened suits =>
      have step : s.Outcome m (paths ++ before ++ path :: after) (some file) _ :=
        .found (both next) opened suits
      rw [List.append_assoc, List.append_assoc, ← warned] at step
      exact step
    | missing next =>
      have step := Outcome.missing (both next)
      rw [← warned] at step
      exact step

theorem run_openObject (path : String) (trail : Trail) :
    (s.openObject path m).run trail = pure (s.opens path m, trail ++ { opened := [path] }) :=
  rfl

/-- A candidate that opens and suits ends the search. -/
theorem run_firstMatching_suiting {path : String} {file : ObjectFile}
    (opened : s.opens path m = some file) (suits : Suits m file) (paths : List String)
    (trail : Trail) : (Locate.firstMatching s.machine s.openObject m (path :: paths)).run trail =
      pure (some file, trail ++ { opened := [path] }) := by
  rw [Locate.firstMatching, StateT.run_bind, run_openObject, pure_bind, opened]
  simp only [if_pos (suits_iff.mpr suits)]
  rfl

/-- Any other leads on to the next, with a warning if it opens. -/
theorem run_firstMatching_rejected {path : String} (rejected : s.Rejects m path)
    (paths : List String) (trail : Trail) :
    (Locate.firstMatching s.machine s.openObject m (path :: paths)).run trail =
      (Locate.firstMatching s.machine s.openObject m paths).run
        (trail ++ { opened := [path], warnings := s.complaints m [path] }) := by
  rw [Locate.firstMatching, StateT.run_bind, run_openObject, pure_bind]
  cases opened : s.opens path m with
  | none => simp [complaints, opened]
  | some file =>
    have other := rejected file opened
    have warned : (s.machine.warn (Locate.mismatch file m.buildId)).run
        (trail ++ { opened := [path] }) =
          pure ((), trail ++ { opened := [path] } ++
            { warnings := [Locate.mismatch file m.buildId] }) :=
      rfl
    simp only [if_neg (suits_iff.not.mpr other)]
    rw [StateT.run_bind, warned, pure_bind, Trail.append_assoc]
    simp only [complaints, opened, List.filterMap_cons, Option.map_some, List.filterMap_nil]
    rfl

theorem run_firstMatching (paths : List String) (trail : Trail) : ∃ found t,
    (Locate.firstMatching s.machine s.openObject m paths).run trail = pure (found, trail ++ t) ∧
      s.Outcome m paths found t := by
  induction paths generalizing trail with
  | nil => exact ⟨none, {}, by rw [Trail.append_nothing]; rfl, .missing (by simp)⟩
  | cons path paths ih =>
    by_cases rejected : s.Rejects m path
    · have first : s.Outcome m [path] none _ := .missing (List.forall_mem_singleton.mpr rejected)
      obtain ⟨found, t, run, outcome⟩ :=
        ih (trail ++ { opened := [path], warnings := s.complaints m [path] })
      rw [← run_firstMatching_rejected rejected, Trail.append_assoc] at run
      exact ⟨found, _, run, first.after outcome⟩
    · obtain ⟨file, opened, suits⟩ : ∃ file, s.opens path m = some file ∧ Suits m file := by
        simpa [Rejects] using rejected
      have none_before : ∀ other ∈ ([] : List String), s.Rejects m other := by simp
      exact ⟨some file, _, run_firstMatching_suiting opened suits paths trail,
        .found none_before opened suits⟩

/-- What is listed for a directory gives just its candidates. -/
theorem run_listBuildId (directory : String) (trail : Trail) : ∃ listed,
    (Locate.listBuildId s.machine directory m.buildId).run trail = pure (listed, trail) ∧
      Locate.candidates directory m.buildId (Path.fileName? m.file) listed =
        s.candidatesIn m directory := by
  by_cases unnamed : m.buildId = ""
  · exact ⟨[], by simp [Locate.listBuildId, unnamed], by
      simp [Locate.candidates, candidatesIn, unnamed]⟩
  · have named : m.buildId.isEmpty = false := by simpa using unnamed
    refine ⟨_, by simp only [Locate.listBuildId, named]; rfl, ?_⟩
    simp [Locate.candidates, candidatesIn, matching, unnamed]

theorem run_search (searchPath : List String) (trail : Trail) : ∃ found t,
    (Locate.search s.machine s.openObject m searchPath).run trail = pure (found, trail ++ t) ∧
      s.Outcome m (s.candidates searchPath m) found t := by
  induction searchPath generalizing trail with
  | nil => exact ⟨none, {}, by rw [Trail.append_nothing]; rfl, .missing (by simp [candidates])⟩
  | cons directory directories ih =>
    obtain ⟨listed, listing, files⟩ := run_listBuildId (s := s) (m := m) directory trail
    obtain ⟨found, t, run, outcome⟩ := run_firstMatching (s.candidatesIn m directory) trail
    rw [Locate.search, StateT.run_bind, listing, pure_bind, StateT.run_bind, files, run, pure_bind]
    cases found with
    | some file => exact ⟨some file, t, rfl, outcome.more _⟩
    | none =>
      obtain ⟨found, t', run, next⟩ := ih (trail ++ t)
      rw [Trail.append_assoc] at run
      exact ⟨found, _, run, outcome.after next⟩

/-- What is listed below a build id may well be the binary of that name once more. -/
example : (⟨fun _ => ["app"], fun _ _ => none⟩ : Shelf).candidates ["/srv"]
    { file := "/usr/app", buildId := "ab" } = ["/srv/ab/app", "/srv/ab/app", "/srv/app"] := by
  decide +kernel

inductive Located (s : Shelf) (searchPath : List String) (m : Mapping) : Mapping → Trail → Prop
  | anonymous : m.file = "" → m.buildId = "" → Located s searchPath m m {}
  | found {file : ObjectFile} {t : Trail} : m.file ≠ "" ∨ m.buildId ≠ "" →
      s.Outcome m (s.candidates searchPath m) (some file) t →
        Located s searchPath m { m with file := file.name } t
  | missing {t : Trail} : m.file ≠ "" ∨ m.buildId ≠ "" →
      s.Outcome m (s.candidates searchPath m) none t → Located s searchPath m m t

theorem run_attach (searchPath : List String) (m : Mapping) (trail : Trail) : ∃ m' t,
    (Locate.attach s.machine s.openObject searchPath m).run trail = pure (m', trail ++ t) ∧
      s.Located searchPath m m' t := by
  by_cases anonymous : (m.file.isEmpty && m.buildId.isEmpty) = true
  · have ⟨file, buildId⟩ : m.file = "" ∧ m.buildId = "" := by simpa using anonymous
    refine ⟨m, {}, ?_, .anonymous file buildId⟩
    simp only [Locate.attach, if_pos anonymous, Trail.append_nothing]
    rfl
  · have named : m.file ≠ "" ∨ m.buildId ≠ "" := by
      simpa [Classical.or_iff_not_imp_left] using anonymous
    obtain ⟨found, t, run, outcome⟩ := run_search (s := s) (m := m) searchPath trail
    simp only [Locate.attach, if_neg anonymous, StateT.run_bind, run, pure_bind]
    cases found with
    | some file => exact ⟨_, t, rfl, .found named outcome⟩
    | none => exact ⟨_, t, rfl, .missing named outcome⟩

/-- Mappings are attached one after the other, and none of them knows of the others. -/
theorem run_mapM_attach (searchPath : List String) (mappings : List Mapping) (trail : Trail) :
    ∃ results : List (Mapping × Trail),
      (mappings.mapM (Locate.attach s.machine s.openObject searchPath)).run trail =
        pure (results.map (·.1), trail ++
          ⟨results.flatMap (·.2.opened), results.flatMap (·.2.warnings)⟩) ∧
      results.length = mappings.length ∧
      ∀ (i : Nat) (m : Mapping), mappings[i]? = some m → ∃ result, results[i]? = some result ∧
        s.Located searchPath m result.1 result.2 := by
  induction mappings generalizing trail with
  | nil =>
    refine ⟨[], ?_, rfl, by simp⟩
    simp only [List.map_nil, List.flatMap_nil, Trail.append_nothing]
    rfl
  | cons m mappings ih =>
    obtain ⟨m', t, run, located⟩ := run_attach (s := s) searchPath m trail
    obtain ⟨results, runs, length, all⟩ := ih (trail ++ t)
    rw [Trail.append_assoc] at runs
    refine ⟨(m', t) :: results, ?_, by simp [length], fun i other listed => ?_⟩
    · rw [List.mapM_cons, StateT.run_bind, run, pure_bind, StateT.run_bind, runs, pure_bind]
      rfl
    · cases i with
      | zero => exact ⟨_, rfl, by cases listed; exact located⟩
      | succ i => exact all i other listed

end Shelf

def MainBinary.rename (main : MainBinary) (m : Mapping) : Mapping :=
  { m with file := main.execName.getD m.file, buildId := main.buildId.getD m.buildId }

namespace Shelf

theorem getElem?_override (main : MainBinary) (mappings : List Mapping) (i : Nat) :
    (Locate.override main mappings)[i]? =
      mappings[i]?.map fun m => if i = 0 then main.rename m else m := by
  cases mappings with
  | nil => rfl
  | cons first others =>
    cases i with
    | zero => rfl
    | succ i => simp [Locate.override]

variable (s : Shelf)

/-- Only verified binaries are attached, and the first one wins. Every mapping, the first under
the name and the build id of the main binary, is either anonymous and left alone, or goes by the
first of its candidates that suits, or stays as it is for want of one; all that is opened are the
candidates up to that one, and all that is warned of are the binaries among those before it. -/
theorem run_locateBinaries (searchPath : List String) (main : MainBinary) (p : Profile) :
    ∃ results : List (Mapping × Trail),
      (Locate.locateBinaries s.machine s.openObject searchPath main p).run {} =
        pure ({ p with mappings := results.map (·.1) },
          ⟨results.flatMap (·.2.opened), results.flatMap (·.2.warnings)⟩) ∧
      results.length = p.mappings.length ∧
      ∀ (i : Nat) (m : Mapping), p.mappings[i]? = some m → ∃ result, results[i]? = some result ∧
        s.Located searchPath (if i = 0 then main.rename m else m) result.1 result.2 := by
  obtain ⟨results, run, length, located⟩ :=
    run_mapM_attach (s := s) searchPath (Locate.override main p.mappings) {}
  refine ⟨results, ?_, ?_, fun i m listed => located i _ ?_⟩
  · rw [Locate.locateBinaries, StateT.run_bind, run, pure_bind]
    rfl
  · rw [length]
    cases p.mappings <;> rfl
  · rw [getElem?_override, listed, Option.map_some]

end Shelf

end Profiling
