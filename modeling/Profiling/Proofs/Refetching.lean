import Profiling.Proofs.CommonUnits
import Profiling.Proofs.Gathering
import Profiling.Proofs.SavedFiles

/-!
# Fetching a saved aggregate again

A saved aggregate is a source like any other. Fetched alone it goes through every step of a run,
and each of them but the merging leaves it as it is.
-/

namespace Profiling

open Merge

namespace Profile

theorem scale_numerator (p : Profile) (source : String) :
    p.scale (Task.numerator source).scale = p := by
  have near : (Binary64.ofInt 1).nearOne = .near := by decide +kernel
  rw [Task.numerator]
  dsimp only
  rw [scale, if_pos near]

/-- Without a filter all frames are of interest. -/
theorem withoutNoise_eq {p : Profile} (noFilter : p.dropFrames = "") : p.withoutNoise = p := by
  have empty : p.dropFrames.isEmpty = true := by rw [noFilter]; rfl
  rw [withoutNoise, removeUninteresting, if_pos empty]
  rfl

theorem dropFrames_withoutNoise (p : Profile) : p.withoutNoise.dropFrames = p.dropFrames := by
  rcases p.withoutNoise_cases with same | ⟨filter, pruned⟩
  · rw [same]
  · rw [pruned]
    rfl

theorem dropFrames_of_pass {p q : Profile} (countable : Countable [p])
    (run : Merge.pass p [] = .ok q) : q.dropFrames = p.dropFrames := by
  obtain ⟨-, -, -, -, header, -⟩ := pass_filed countable run
  have filter : q.dropFrames = (headers p [p]).dropFrames :=
    (congrArg Profile.dropFrames header :)
  rw [filter, headers, List.foldl_cons, List.foldl_nil, mergeHeader, orElseText]
  rfl

theorem dropFrames_of_merge {p q : Profile} (countable : Countable [p])
    (run : merge [p] = .ok q) : q.dropFrames = p.dropFrames := by
  obtain ⟨merged, passed, second⟩ := bind_eq_ok_iff.mp run
  have first := dropFrames_of_pass countable passed
  obtain ⟨s, rfl, filed, -⟩ := pass_filed countable passed
  split at second
  · exact (dropFrames_of_pass filed.countable second).trans first
  · obtain rfl := Except.ok.inj second
    exact first

end Profile

theorem Provenance.unsource_empty (p : Profile) : Provenance.empty.unsource p = p := by
  have same : p.mappings.map empty.unnamed = p.mappings := by
    rw [List.map_congr_left (g := id) fun m _ => ?_, List.map_id]
    rw [unnamed, isNamedAfterSource]
    simp [get?, empty]
  rw [unsource_eq, same]

theorem Locate.override_nothing (ms : List Mapping) : override ⟨none, none⟩ ms = ms := by
  cases ms <;> rfl

theorem symbolize_none {m : Type → Type} [Monad m] [LawfulMonad m] (machine : Machine m)
    (patience : Symbolize.Patience) (sources : Provenance) (p : Profile) :
    symbolize machine .none sources p patience = pure p := by
  simp [symbolize, SymbolMode.usesLocal, SymbolMode.usesRemote]

theorem exists_merge_alone {p : Profile} (countable : Countable [p]) (linked : p.Linked) :
    ∃ q, merge [p] = .ok q ∧ q.Linked := by
  obtain ⟨q, run, made, -⟩ := @merge_spec (supply [p]) p [] countable.supply
    (by simpa using linked) (by simpa using drawsFrom_supply (List.mem_singleton_self p))
    (by simp)
  exact ⟨q, run, made.linked⟩

theorem combine_alone {p q : Profile} (run : merge [p] = .ok q) :
    combine [p] [.empty] = .ok (q, .empty) := by
  rw [combine, Profile.harmonize_alone]
  simp only [bind, Except.bind, run]
  rfl

namespace Grabber

/-- Nothing but one file is fetched, and nothing is put in place of what it says. -/
structure FetchesAlone {m : Type → Type} (g : Grabber m) (source : String) : Prop where
  sources : g.config.sources = [source]
  base : g.config.base = []
  execName : g.config.execName = none
  buildId : g.config.buildId = none
  mode : g.config.symbolize = .none
  searchPath : g.searchPath = []
  ownFetch : g.ownFetch = none

theorem FetchesAlone.tasks {m : Type → Type} {g : Grabber m} {source : String}
    (alone : g.FetchesAlone source) : g.config.tasks = [.numerator source] := by
  rw [Config.tasks, alone.sources, alone.base]
  rfl

section

variable {σ : Type} {disk : σ → Disk} {machine : Machine (StateM σ)}
  (files : machine.KeepsFiles disk) {source : String} {world : σ} {p : Profile}
  (there : (disk world).contents source = .ok p.write)
include files there

theorem run_isCapture : ∃ after, (Fetch.isCapture machine source).run world = (false, after) ∧
    disk after = disk world := by
  have other : Fetch.captureMagic.isPrefixOf p.write = false := by
    obtain ⟨rest, magic⟩ : ∃ rest, Fetch.captureMagic = 0x50 :: rest :=
      ⟨Fetch.captureMagic.tail, by decide +kernel⟩
    rw [magic]
    rfl
  refine ⟨((machine.readFile source).run world).2, ?_, files.untouched source world⟩
  rw [Fetch.isCapture, StateT.run_bind]
  rcases read : (machine.readFile source).run world with ⟨content, after⟩
  obtain rfl : content = .ok p.write := by
    rw [← there, ← files.read source world, read]
  change (Fetch.captureMagic.isPrefixOf p.write, after) = _
  rw [other]

theorem run_readLocal (converter : String) : ∃ after,
    (Fetch.readLocal machine source converter).run world = (.ok p.write, after) := by
  obtain ⟨middle, capture, same⟩ := run_isCapture files there
  refine ⟨((machine.readFile source).run middle).2, ?_⟩
  rw [Fetch.readLocal, StateT.run_bind, capture]
  rcases read : (machine.readFile source).run middle with ⟨content, after⟩
  obtain rfl : content = .ok p.write := by
    rw [← there, ← same, ← files.read source middle, read]
  change (machine.readFile source >>= _).run middle = _
  rw [StateT.run_bind, read]
  rfl

theorem run_fetch (file : Source.url? source = none) (fits : p.encode.length < UInt64.size)
    (duration timeout : Duration) (converter : String) : ∃ after,
      (fetch machine source duration timeout converter).run world = (.ok ⟨p, ""⟩, after) := by
  obtain ⟨after, read⟩ := run_readLocal files there converter
  have whole : (Fetch.read machine source duration timeout converter).run world =
      (.ok (p.write, ""), after) := by
    rw [Fetch.read, Source.remote?, file]
    change (Fetch.readLocal machine source converter >>= _).run world = _
    rw [StateT.run_bind, read]
    rfl
  refine ⟨after, ?_⟩
  rw [fetch, StateT.run_bind, whole]
  change (((Profile.parse p.write).mapError FetchError.profile).map fun q => Fetched.mk q "",
    after) = _
  rw [Profile.parse_write fits]
  rfl

end

section

variable {σ : Type} {g : Grabber (StateM σ)} {disk : σ → Disk}
  (files : g.machine.KeepsFiles disk) {source : String} (alone : g.FetchesAlone source)
  (file : Source.url? source = none) {world : σ} {p q : Profile} (linked : p.Linked)
  (fits : p.encode.length < UInt64.size)
  (there : (disk world).contents source = .ok p.write)
include files alone file linked fits there

theorem run_grabOne : ∃ after,
    (g.grabOne (.numerator source)).run world = (.ok { profile := p }, after) := by
  obtain ⟨after, fetched⟩ := run_fetch files there file fits g.config.duration g.config.timeout
    g.config.perfConverter
  have own : (g.fetchSource (Task.numerator source).source).run world =
      (.ok ⟨p, ""⟩, after) := by
    rw [fetchSource, alone.ownFetch]
    exact fetched
  have checked : p.checkValid = .ok () := Profile.checkValid_eq_ok_iff.mpr linked
  have located : Locate.locateBinaries g.machine g.openObject g.searchPath
      ⟨g.config.execName, g.config.buildId⟩ (p.scale (Task.numerator source).scale) = pure p := by
    rw [p.scale_numerator, alone.searchPath, alone.execName, alone.buildId, Locate.locateBinaries_nil,
      Locate.override_nothing]
  refine ⟨after, ?_⟩
  rw [grabOne, StateT.run_bind, own]
  simp only [bind, checked, located]
  rfl

/-- A group of one source that does not fail is merged alone. -/
theorem run_grabAll_alone (summed : merge [p] = .ok q) : ∃ after,
    (g.grabAll g.config.tasks).run world = (.ok (some ⟨q, .empty, false, 1⟩), after) := by
  obtain ⟨after, grabbed⟩ := run_grabOne files alone file linked fits there
  have fetched : (g.fetchGroup [.numerator source]).run world =
      ([(.numerator source, .ok { profile := p })], after) := by
    have tagged : (do return (Task.numerator source, ← g.grabOne (.numerator source)) :
        StateM σ (Task × Except FetchError Fragment)).run world =
        ((.numerator source, .ok { profile := p }), after) := by
      rw [StateT.run_bind, grabbed]
      rfl
    rw [fetchGroup, StateT.run_bind, List.mapM_cons, StateT.run_bind, tagged]
    rfl
  have group : groupOf [{ profile := p }] = .ok (some ⟨q, .empty, false, 1⟩) := by
    have made : Grab.ofFragments [{ profile := p }] = .ok ⟨q, .empty, false, 1⟩ := by
      rw [Grab.ofFragments]
      simp only [List.map_cons, List.map_nil, combine_alone summed, bind, Except.bind]
      rfl
    rw [groupOf, made]
    rfl
  have one : groups groupSize [Task.numerator source] = [[.numerator source]] := by
    rw [groups, if_pos (by simp [groupSize]), groups, if_neg (by simp [groupSize])]
    rfl
  refine ⟨after, ?_⟩
  have kept : Results.kept [(Task.numerator source, .ok { profile := p })] = [{ profile := p }] :=
    rfl
  rw [alone.tasks, grabAll, one, run_grabGroups_cons g fetched, kept, group]
  rfl

/-- What a saved profile is fetched as, when it is fetched alone. -/
theorem run_fetchProfiles_alone (summed : merge [p] = .ok q) (countable : Countable [p])
    (noFilter : p.dropFrames = "") (env : Environment) (patience : Symbolize.Patience) :
    ∃ after, (g.fetchProfiles env (.ofMachine g.machine patience)).run world = (.ok q, after) := by
  obtain ⟨after, grabbed⟩ := run_grabAll_alone files alone file linked fits there summed
  have naming : (g.nameAll patience ⟨q, .empty, false, 1⟩).run after = (q, after) := by
    rw [nameAll, alone.tasks, alone.mode, symbolize_none]
    rfl
  have cleaned : Grab.cleaned ⟨q, .empty, false, 1⟩ q = q := by
    rw [Grab.cleaned, Profile.withoutNoise_eq
      ((Profile.dropFrames_of_merge countable summed).trans noFilter)]
    exact Provenance.unsource_empty q
  have checked : q.checkValid = .ok () := by
    obtain ⟨out, run, made⟩ := exists_merge_alone countable linked
    obtain rfl : q = out := Except.ok.inj (summed.symm.trans run)
    exact Profile.checkValid_eq_ok_iff.mpr made
  refine ⟨after, ?_⟩
  rw [run_fetchProfiles g env grabbed naming, conclude, cleaned, checked]
  rfl

end

section

variable {m : Type → Type} [Monad m] (g : Grabber m) (env : Environment)
  (patience : Symbolize.Patience)

def keepCopy (p : Profile) : m (Option String) := do
  match ← saveProfile g.machine env p with
  | .ok path =>
    g.machine.warn ("Saved profile in " ++ path)
    return some path
  | .error e =>
    g.machine.warn ("Could not save profile: " ++ e.message)
    return none

def handOut (p : Profile) (copy : Option String) : Except FetchError (Profile × Option String) :=
  (p.checkValid.map fun _ => (p, copy)).mapError .profile

/-- As `conclude`, and it tells where the copy is. -/
def concludeWithCopy (grab : Grab) (named : Profile) :
    m (Except FetchError (Profile × Option String)) := do
  let p := grab.cleaned named
  let copy ← if grab.remote then g.keepCopy env p else pure none
  return handOut p copy

/-- As `fetchProfiles`, and it tells where the profile was saved, if it was. -/
def fetchAndSave : m (Except FetchError (Profile × Option String)) := do
  match ← g.grabAll g.config.tasks with
  | .error e => return .error e
  | .ok none => return .error .nothingFetched
  | .ok (some grab) => g.concludeWithCopy env grab (← g.nameAll patience grab)

variable [LawfulMonad m]

theorem saveCopy_eq (p : Profile) :
    g.saveCopy env p = g.keepCopy env p >>= fun _ => pure () := by
  rw [saveCopy, keepCopy, bind_assoc]
  refine congrArg _ (funext fun outcome => ?_)
  cases outcome <;> simp

theorem fetchProfiles_eq_fetchAndSave : g.fetchProfiles env (.ofMachine g.machine patience) =
    (fun answer => answer.map Prod.fst) <$> g.fetchAndSave env patience := by
  have first : ∀ (p : Profile) (copy : Option String), (handOut p copy).map Prod.fst =
      (p.checkValid.map fun _ => p).mapError .profile := by
    intro p copy
    rw [handOut]
    cases p.checkValid <;> rfl
  rw [fetchProfiles_eq, fetchAndSave, map_bind]
  refine congrArg _ (funext fun answer => ?_)
  rcases answer with e | none | grab
  · rw [map_pure]
    rfl
  · rw [map_pure]
    rfl
  · simp only [conclude, concludeWithCopy, saveCopy_eq]
    cases grab.remote <;> simp [first]

end

theorem eq_of_handOut {p q : Profile} {copy copy' : Option String}
    (answer : handOut p copy = .ok (q, copy')) : p = q ∧ copy = copy' := by
  rw [handOut] at answer
  cases checked : p.checkValid with
  | error e =>
    rw [checked] at answer
    cases answer
  | ok =>
    rw [checked] at answer
    exact Prod.mk.inj (Except.ok.inj answer)

section

variable {σ : Type} {g : Grabber (StateM σ)} {env : Environment} {patience : Symbolize.Patience}
  {world last : σ} {p : Profile} {path : String}

theorem exists_of_keepCopy (run : (g.keepCopy env p).run world = (some path, last)) :
    ∃ saved, (saveProfile g.machine env p).run world = (.ok path, saved) ∧
      ((g.machine.warn ("Saved profile in " ++ path)).run saved).2 = last := by
  rw [keepCopy, StateT.run_bind] at run
  rcases copied : (saveProfile g.machine env p).run world with ⟨outcome, saved⟩
  rw [copied] at run
  cases outcome with
  | error e => cases (Prod.mk.inj run).1
  | ok there =>
    obtain ⟨same, after⟩ := Prod.mk.inj run
    obtain rfl := Option.some.inj same
    exact ⟨saved, rfl, after⟩

/-- What lies behind a run that saved what it hands out. -/
theorem exists_of_fetchAndSave
    (run : (g.fetchAndSave env patience).run world = (.ok (p, some path), last)) :
    ∃ grab middle named after saved,
      (g.grabAll g.config.tasks).run world = (.ok (some grab), middle) ∧
      (g.nameAll patience grab).run middle = (named, after) ∧ grab.cleaned named = p ∧
      (saveProfile g.machine env p).run after = (.ok path, saved) ∧
      ((g.machine.warn ("Saved profile in " ++ path)).run saved).2 = last := by
  rw [fetchAndSave, StateT.run_bind] at run
  rcases grabbed : (g.grabAll g.config.tasks).run world with ⟨answer, middle⟩
  rw [grabbed] at run
  rcases answer with e | none | grab
  · cases run
  · cases run
  · change (g.nameAll patience grab >>= g.concludeWithCopy env grab).run middle = _ at run
    rw [StateT.run_bind] at run
    rcases naming : (g.nameAll patience grab).run middle with ⟨named, after⟩
    rw [naming] at run
    change (g.concludeWithCopy env grab named).run after = _ at run
    rw [concludeWithCopy] at run
    cases remote : grab.remote with
    | false =>
      rw [remote] at run
      obtain ⟨-, copy⟩ := eq_of_handOut (Prod.mk.inj run).1
      cases copy
    | true =>
      rw [remote, if_pos rfl, StateT.run_bind] at run
      rcases kept : (g.keepCopy env (grab.cleaned named)).run after with ⟨copy, final⟩
      rw [kept] at run
      obtain ⟨answer, rfl⟩ := Prod.mk.inj run
      obtain ⟨rfl, rfl⟩ := eq_of_handOut answer
      obtain ⟨saved, copied, said⟩ := exists_of_keepCopy kept
      exact ⟨grab, middle, named, after, saved, rfl, naming, rfl, copied, said⟩

/-- The file is there after the run, with the profile in it. -/
theorem contents_of_fetchAndSave {disk : σ → Disk} (files : g.machine.KeepsFiles disk)
    (run : (g.fetchAndSave env patience).run world = (.ok (p, some path), last)) :
    (disk last).contents path = .ok p.write := by
  obtain ⟨_, _, _, _, saved, -, -, -, copied, said⟩ := exists_of_fetchAndSave run
  rw [← said, files.warned]
  exact contents_of_saveProfile files copied

theorem run_fetchProfiles_of_fetchAndSave
    (run : (g.fetchAndSave env patience).run world = (.ok (p, some path), last)) :
    (g.fetchProfiles env (.ofMachine g.machine patience)).run world = (.ok p, last) := by
  rw [fetchProfiles_eq_fetchAndSave, StateT.run_map, run]
  rfl

/-- In the mode without symbols an aggregate keeps its names. -/
theorem always_nameAll_none (mode : g.config.symbolize = .none) (grab : Grab) :
    Always (fun q => q = grab.profile) (g.nameAll patience grab) := by
  rw [nameAll, mode, symbolize_none]
  split
  · exact .bind (.trivial _) fun _ _ => .pure rfl
  · exact .pure rfl

/-- Without names to find and frames to drop, what is handed out is an aggregate in order but for
the names that were lent to its mappings. -/
theorem exists_unsource_of_fetchAndSave {fetched : σ} {results : Results}
    (mode : g.config.symbolize = .none)
    (fetching : (g.fetchAll g.config.tasks).run world = (results, fetched))
    (countable : Countable (profiles results.kept))
    (run : (g.fetchAndSave env patience).run world = (.ok (p, some path), last))
    (noFilter : p.dropFrames = "") : ∃ grab : Grab, grab.sources.unsource grab.profile = p ∧
      grab.profile.Linked ∧ grab.profile.Gathered (profiles results.kept) := by
  obtain ⟨grab, middle, named, after, -, grabbed, naming, cleaned, -, -⟩ :=
    exists_of_fetchAndSave run
  obtain rfl : named = grab.profile := by
    have same : ((g.nameAll patience grab).run middle).1 = grab.profile :=
      always_nameAll_none mode grab middle
    rwa [naming] at same
  have ready := g.ready_of_grabAll countable.supply fetching (fun p hp => drawsFrom_supply hp)
    grabbed
  refine ⟨grab, ?_, ready.linked, g.gathered_of_grabAll fetching countable grabbed⟩
  have filter : grab.profile.dropFrames = "" := by
    rw [← grab.profile.dropFrames_withoutNoise, ← noFilter, ← cleaned]
    rfl
  rw [← cleaned, Grab.cleaned, Profile.withoutNoise_eq filter]

end

/-- A saved aggregate without a filter is fetched again as it was exactly if no two of its
mappings without a name look the same. Names that were lent to keep such mappings apart are taken
off before an aggregate is saved. -/
theorem refetched_eq_iff {σ : Type} (g again : Grabber (StateM σ)) (disk : σ → Disk)
    (env env' : Environment) (patience patience' : Symbolize.Patience)
    (world fetched last later : σ) (results : Results) (p : Profile) (path source : String)
    (files : g.machine.KeepsFiles disk) (files' : again.machine.KeepsFiles disk)
    (mode : g.config.symbolize = .none)
    (fetching : (g.fetchAll g.config.tasks).run world = (results, fetched))
    (countable : Countable (profiles results.kept))
    (run : (g.fetchAndSave env patience).run world = (.ok (p, some path), last))
    (noFilter : p.dropFrames = "") (fits : p.encode.length < UInt64.size)
    (alone : again.FetchesAlone source) (file : Source.url? source = none)
    (there : (disk later).contents source = (disk last).contents path) :
    (g.fetchProfiles env (.ofMachine g.machine patience)).run world = (.ok p, last) ∧
    ∃ q after,
      (again.fetchProfiles env' (.ofMachine again.machine patience')).run later = (.ok q, after) ∧
      (q = p ↔ p.NamelessApart) := by
  obtain ⟨grab, rfl, ready, gathered⟩ :=
    exists_unsource_of_fetchAndSave mode fetching countable run noFilter
  have linked := Provenance.linked_unsource grab.sources ready
  have few : Countable [grab.sources.unsource grab.profile] := by
    refine countable_of_numbered ?_ gathered.ordered.functionIds gathered.ordered.locationIds
    rw [Provenance.mappingIds_unsource]
    exact gathered.ordered.mappingIds
  obtain ⟨q, summed, -⟩ := exists_merge_alone few linked
  have content := contents_of_fetchAndSave files run
  rw [← there] at content
  constructor
  · exact run_fetchProfiles_of_fetchAndSave run
  · obtain ⟨after, again_run⟩ := run_fetchProfiles_alone files' alone file linked fits content
      summed few noFilter env' patience'
    refine ⟨q, after, again_run, ?_⟩
    rw [← grab.sources.nodup_unnamed_iff gathered.ordered.mappings]
    exact eq_merge_alone_iff few
      (gathered.ordered.renamed grab.sources.id_unnamed grab.sources.start_unnamed)
      gathered.live summed

end Grabber

def Profile.nameless (size : UInt64) : Profile where
  sampleTypes := [⟨"cpu", "ns"⟩]
  samples := [{ stack := [1], values := [5] }]
  mappings := [{ id := 1, start := 0x1000, limit := 0x1000 + size }]
  locations := [{ id := 1, mappingId := 1, address := 0x1010 }]

def Profile.namelessPair (size : UInt64) : Profile where
  sampleTypes := [⟨"cpu", "ns"⟩]
  samples := [{ stack := [1], values := [5] }, { stack := [2], values := [5] }]
  mappings := [{ id := 1, start := 0x1000, limit := 0x3000 },
    { id := 2, start := 0x1000, limit := 0x1000 + size }]
  locations := [{ id := 1, mappingId := 1, address := 0x1010 },
    { id := 2, mappingId := 2, address := 0x1010 }]

namespace Grabber

def ofServers (size : UInt64) : Grabber (StateM Host) where
  machine := Host.machine Id
  config := { sources := ["a", "b"], symbolize := .none }
  openObject _ _ := pure none
  ownFetch := some fun source _ _ =>
    pure (.found ⟨.nameless (if source = "a" then 0x2000 else size), "http://" ++ source⟩)

def saveInRoot : Environment := { tmpDir := some "/" }

def ofCopy : Grabber (StateM Host) where
  machine := Host.machine Id
  config := { sources := ["/pprof.cpu.001.pb.gz"], symbolize := .none }
  openObject _ _ := pure none

theorem ofCopy_fetchesAlone : ofCopy.FetchesAlone "/pprof.cpu.001.pb.gz" :=
  ⟨rfl, rfl, rfl, rfl, rfl, rfl, rfl⟩

/-- Images of different sizes are told apart without their names. -/
theorem refetched_eq_iff_namelessPair : ∃ last after,
    ((ofServers 0x3000).fetchProfiles saveInRoot (.ofMachine (Host.machine Id))).run {} =
      (.ok (.namelessPair 0x3000), last) ∧
    (ofCopy.fetchProfiles {} (.ofMachine (Host.machine Id))).run last =
      (.ok (.namelessPair 0x3000), after) := by
  let run := ((ofServers 0x3000).fetchAndSave saveInRoot .usual).run {}
  have saved : run.1 = .ok (.namelessPair 0x3000, some "/pprof.cpu.001.pb.gz") :=
    eq_ok_of_toOption (by decide +kernel)
  have files := Host.keepsFiles (Host.machine Id).exchange
  obtain ⟨first, q, after, second, same⟩ := refetched_eq_iff (ofServers 0x3000) ofCopy Host.disk
    saveInRoot {} .usual .usual {} _ run.2 run.2 _ (.namelessPair 0x3000) "/pprof.cpu.001.pb.gz"
    "/pprof.cpu.001.pb.gz" files files rfl rfl
    ⟨by decide +kernel, by decide +kernel, by decide +kernel⟩ (Prod.ext saved rfl) rfl
    (by decide +kernel) ofCopy_fetchesAlone (by decide +kernel) rfl
  rw [same.mpr (by decide +kernel)] at second
  exact ⟨run.2, after, first, second⟩

/-- Images of one size are not: the profile that is fetched again has a single sample. -/
theorem refetched_folds : ∃ last after q,
    ((ofServers 0x2000).fetchProfiles saveInRoot (.ofMachine (Host.machine Id))).run {} =
      (.ok (.namelessPair 0x2000), last) ∧
    last.warnings = ["Saved profile in /pprof.cpu.001.pb.gz"] ∧
    (Profile.namelessPair 0x2000).dropFrames = "" ∧
    (ofCopy.fetchProfiles {} (.ofMachine (Host.machine Id))).run last = (.ok q, after) ∧
    q ≠ .namelessPair 0x2000 ∧ q.samples = [{ stack := [1], values := [10] }] := by
  let run := ((ofServers 0x2000).fetchAndSave saveInRoot .usual).run {}
  let q := ((merge [.namelessPair 0x2000]).toOption).getD {}
  have answer : run.1 = .ok (.namelessPair 0x2000, some "/pprof.cpu.001.pb.gz") :=
    eq_ok_of_toOption (by decide +kernel)
  have saved : run = (.ok (.namelessPair 0x2000, some "/pprof.cpu.001.pb.gz"), run.2) :=
    Prod.ext answer rfl
  have summed : merge [.namelessPair 0x2000] = .ok q := eq_ok_of_toOption (by decide +kernel)
  have linked : (Profile.namelessPair 0x2000).Linked :=
    Profile.checkValid_eq_ok_iff.mp (by decide +kernel)
  have files := Host.keepsFiles (Host.machine Id).exchange
  obtain ⟨after, second⟩ := run_fetchProfiles_alone files ofCopy_fetchesAlone (by decide +kernel)
    linked (by decide +kernel) (contents_of_fetchAndSave files saved) summed
    ⟨by decide +kernel, by decide +kernel, by decide +kernel⟩ rfl {} .usual
  exact ⟨run.2, after, q, run_fetchProfiles_of_fetchAndSave saved, by decide +kernel, rfl, second,
    by decide +kernel, by decide +kernel⟩

end Grabber

end Profiling
