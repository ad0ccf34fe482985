import Profiling.Proofs.Combining

/-!
# Groups of sources

Sources are combined group by group, but the aggregate does not show where one group
ended and the next began: it says what all fragments together would say if they were
combined at once. A run is compared with one that only fetches and reports.
-/

namespace Profiling

open Merge

abbrev Results := List (Task × Except FetchError Fragment)

namespace Results

def kept (results : Results) : List Fragment := results.filterMap fun r => r.2.toOption

/-- What is said about a source that failed. -/
def complaint (task : Task) (e : FetchError) : String := task.source ++ ": " ++ e.message

def complaints (results : Results) : List String :=
  results.filterMap fun r =>
    match r.2 with
    | .ok _ => none
    | .error e => some (complaint r.1 e)

theorem kept_append (a b : Results) : kept (a ++ b) = a.kept ++ b.kept :=
  List.filterMap_append

theorem complaints_append (a b : Results) : complaints (a ++ b) = a.complaints ++ b.complaints :=
  List.filterMap_append

theorem kept_eq_nil {results : Results} :
    results.kept = [] ↔ ∀ r ∈ results, ∃ e, r.2 = .error e := by
  rw [kept, List.filterMap_eq_nil_iff]
  refine forall₂_congr fun r _ => ?_
  cases r.2 <;> simp [Except.toOption]

end Results

namespace Grabber

section

variable {m : Type → Type} [Monad m]

def fetchGroup (g : Grabber m) (tasks : List Task) : m Results := do
  let results ← tasks.mapM fun task => do return (task, ← g.grabOne task)
  (Results.complaints results).forM g.machine.warn
  return results

def fetchGroups (g : Grabber m) : List (List Task) → m Results
  | [] => pure []
  | tasks :: rest => do
    let results ← g.fetchGroup tasks
    return results ++ (← g.fetchGroups rest)

/-- The same fetches and reports as for an aggregate, in the same order. -/
def fetchAll (g : Grabber m) (tasks : List Task) : m Results :=
  g.fetchGroups (groups groupSize tasks)

def groupOf (fragments : List Fragment) : Except FetchError (Option Grab) :=
  if fragments.isEmpty then .ok none
  else ((Grab.ofFragments fragments).mapError .profile).map some

variable [LawfulMonad m]

theorem survivors_eq (g : Grabber m) (results : Results) :
    g.survivors results = do
      results.complaints.forM g.machine.warn
      return results.kept := by
  induction results with
  | nil => simp [survivors, Results.complaints, Results.kept]
  | cons r rest ih =>
    obtain ⟨task, outcome⟩ := r
    cases outcome with
    | ok fragment => simp [survivors, ih, Results.complaints, Results.kept, Except.toOption]
    | error e =>
      simp [survivors, ih, Results.complaints, Results.complaint, Results.kept, Except.toOption]

theorem grabGroup_eq (g : Grabber m) (tasks : List Task) :
    g.grabGroup tasks = (fun results => groupOf results.kept) <$> g.fetchGroup tasks := by
  simp only [grabGroup, fetchGroup, survivors_eq, groupOf, bind_assoc, pure_bind, map_bind,
    map_pure]
  refine congrArg _ (funext fun results => congrArg _ (funext fun _ => ?_))
  split <;> rfl

end

theorem flatten_groups {α : Type} {size : Nat} (positive : 0 < size) (xs : List α) :
    (groups size xs).flatten = xs := by
  fun_induction groups size xs with
  | case1 xs more ih => rw [List.flatten_cons, ih, List.take_append_drop]
  | case2 xs done =>
    have : xs = [] := Decidable.byContradiction fun more => done ⟨positive, more⟩
    rw [this, List.flatten_nil]

section

variable {σ : Type} (g : Grabber (StateM σ))

def Holds (P : Supply) (like : Profile) (fragments : List Fragment) : Option Grab → Prop
  | none => fragments = []
  | some grab => fragments ≠ [] ∧ grab.Covers P like fragments

variable {P : Supply} {like : Profile}

theorem groupOf_spec {fragments : List Fragment} (small : P.Countable)
    (fits : ∀ p ∈ profiles fragments, p.Fits P like) :
    ∃ group, groupOf fragments = .ok group ∧ Holds P like fragments group := by
  cases fragments with
  | nil => exact ⟨none, rfl, rfl⟩
  | cons f fs =>
    obtain ⟨grab, run, covers⟩ := Grab.ofFragments_spec small (List.cons_ne_nil f fs) fits
    refine ⟨some grab, ?_, List.cons_ne_nil f fs, covers⟩
    simp [groupOf, run, Except.mapError, Except.map]

/-- One more group leaves an aggregate of all fragments so far. -/
theorem addGroup_spec {total : Option Grab} {group : Grab} {fs gs : List Fragment}
    (small : P.Countable) (fits : ∀ p ∈ profiles (fs ++ gs), p.Fits P like)
    (held : Holds P like fs total) (next : Holds P like gs (some group)) :
    ∃ grab, addGroup total group = .ok grab ∧ Holds P like (fs ++ gs) (some grab) := by
  obtain ⟨some_fragment, covers⟩ := next
  have some_fragment' : fs ++ gs ≠ [] := by simp [some_fragment]
  cases total with
  | none =>
    obtain rfl : fs = [] := held
    exact ⟨group, rfl, some_fragment', covers⟩
  | some total =>
    obtain ⟨grab, run, covers⟩ := Grab.add_spec small fits held.2 covers
    exact ⟨grab, by simp [addGroup, run, Except.mapError], some_fragment', covers⟩

theorem run_fetchGroups_cons {tasks : List Task} {rest : List (List Task)} {world middle : σ}
    {results : Results} (fetched : (g.fetchGroup tasks).run world = (results, middle)) :
    (g.fetchGroups (tasks :: rest)).run world =
      (results ++ ((g.fetchGroups rest).run middle).1, ((g.fetchGroups rest).run middle).2) := by
  rw [fetchGroups, StateT.run_bind, fetched]
  rfl

theorem run_grabGroups_cons {total : Option Grab} {tasks : List Task} {rest : List (List Task)}
    {world middle : σ} {results : Results}
    (fetched : (g.fetchGroup tasks).run world = (results, middle)) :
    (g.grabGroups total (tasks :: rest)).run world =
      match groupOf results.kept with
      | .error e => (.error e, middle)
      | .ok none => (g.grabGroups total rest).run middle
      | .ok (some group) =>
        match addGroup total group with
        | .error e => (.error e, middle)
        | .ok total => (g.grabGroups (some total) rest).run middle := by
  rw [grabGroups, grabGroup_eq, StateT.run_bind, StateT.run_map, fetched]
  simp only [bind, pure, Functor.map]
  cases groupOf results.kept with
  | error e => rfl
  | ok group =>
    cases group with
    | none => rfl
    | some group =>
      dsimp only
      cases addGroup total group with
      | error e => rfl
      | ok total => rfl

theorem grabGroups_spec {total : Option Grab} {fragments : List Fragment} (small : P.Countable)
    (rest : List (List Task)) (world : σ)
    (fits : ∀ p ∈ profiles (fragments ++ ((g.fetchGroups rest).run world).1.kept), p.Fits P like)
    (held : Holds P like fragments total) :
    ∃ answer, (g.grabGroups total rest).run world =
        (.ok answer, ((g.fetchGroups rest).run world).2) ∧
      Holds P like (fragments ++ ((g.fetchGroups rest).run world).1.kept) answer := by
  induction rest generalizing total fragments world with
  | nil =>
    have nothing : fragments ++ ((g.fetchGroups []).run world).1.kept = fragments :=
      List.append_nil fragments
    exact ⟨total, rfl, nothing.symm ▸ held⟩
  | cons tasks rest ih =>
    cases fetched : (g.fetchGroup tasks).run world with
    | mk results middle =>
      rw [run_fetchGroups_cons g fetched, Results.kept_append, ← List.append_assoc] at fits ⊢
      rw [run_grabGroups_cons g fetched]
      have before : ∀ p ∈ profiles (fragments ++ results.kept), p.Fits P like := fun p hp =>
        fits p (by rw [profiles, List.map_append]; exact List.mem_append_left _ hp)
      have part : ∀ p ∈ profiles results.kept, p.Fits P like := fun p hp =>
        before p (by rw [profiles, List.map_append]; exact List.mem_append_right _ hp)
      obtain ⟨group, run, holds⟩ := groupOf_spec small part
      rw [run]
      cases group with
      | none =>
        have nothing : results.kept = [] := holds
        rw [nothing, List.append_nil] at fits ⊢
        exact ih middle fits held
      | some group =>
        obtain ⟨grab, run, holds⟩ := addGroup_spec small before held holds
        dsimp only
        rw [run]
        exact ih middle fits holds

theorem map_fst_mapM {α β : Type} (f : α → StateM σ β) (xs : List α) (world : σ) :
    ((xs.mapM fun x => do return (x, ← f x)).run world).1.map Prod.fst = xs := by
  induction xs generalizing world with
  | nil => rfl
  | cons x xs ih =>
    rw [List.mapM_cons]
    exact congrArg (x :: ·) (ih ((f x).run world).2)

theorem map_fst_fetchGroups (rest : List (List Task)) (world : σ) :
    ((g.fetchGroups rest).run world).1.map Prod.fst = rest.flatten := by
  induction rest generalizing world with
  | nil => rfl
  | cons tasks rest ih =>
    cases fetched : (g.fetchGroup tasks).run world with
    | mk results middle =>
      have group : results.map Prod.fst = tasks := by
        have same : results = ((g.fetchGroup tasks).run world).1 := by rw [fetched]
        rw [same]
        exact map_fst_mapM g.grabOne tasks world
      rw [run_fetchGroups_cons g fetched, List.map_append, group, ih, List.flatten_cons]

/-- A view of the world in which the reports about failed sources appear line by line, and
in which fetching itself leaves nothing. -/
structure Shows (tasks : List Task) (lines : σ → List String) : Prop where
  reported : ∀ task ∈ tasks, ∀ e world,
    lines ((g.machine.warn (Results.complaint task e)).run world).2 =
      lines world ++ [Results.complaint task e]
  quiet : ∀ task ∈ tasks, ∀ world, lines ((g.grabOne task).run world).2 = lines world

variable {lines : σ → List String}

theorem lines_mapM {α β : Type} {f : α → StateM σ β} {xs : List α}
    (quiet : ∀ x ∈ xs, ∀ world, lines ((f x).run world).2 = lines world) (world : σ) :
    lines ((xs.mapM fun x => do return (x, ← f x)).run world).2 = lines world := by
  induction xs generalizing world with
  | nil => rfl
  | cons x xs ih =>
    obtain ⟨head, tail⟩ := List.forall_mem_cons.mp quiet
    rw [List.mapM_cons]
    exact (ih tail ((f x).run world).2).trans (head world)

theorem lines_complaints {tasks : List Task} (shows : Shows g tasks lines) {results : Results}
    (known : ∀ r ∈ results, r.1 ∈ tasks) (world : σ) :
    lines ((results.complaints.forM g.machine.warn).run world).2 =
      lines world ++ results.complaints := by
  induction results generalizing world with
  | nil => exact (List.append_nil _).symm
  | cons r rest ih =>
    obtain ⟨head, tail⟩ := List.forall_mem_cons.mp known
    obtain ⟨task, outcome⟩ := r
    cases outcome with
    | ok fragment => exact ih tail world
    | error e =>
      have first := shows.reported task head e world
      have later := ih tail ((g.machine.warn (Results.complaint task e)).run world).2
      rw [first, List.append_assoc] at later
      exact later

theorem lines_fetchGroup {tasks : List Task} (shows : Shows g tasks lines) (world : σ) :
    lines ((g.fetchGroup tasks).run world).2 =
      lines world ++ ((g.fetchGroup tasks).run world).1.complaints := by
  have quiet := lines_mapM (f := g.grabOne) shows.quiet world
  have tags := map_fst_mapM g.grabOne tasks world
  rw [fetchGroup, StateT.run_bind]
  cases fetched : (tasks.mapM fun task => do return (task, ← g.grabOne task)).run world with
  | mk results middle =>
    rw [fetched] at quiet tags
    have known : ∀ r ∈ results, r.1 ∈ tasks := fun r hr => tags ▸ List.mem_map_of_mem hr
    exact (lines_complaints g shows known middle).trans (by rw [quiet]; rfl)

theorem lines_fetchGroups {rest : List (List Task)} (shows : Shows g rest.flatten lines)
    (world : σ) :
    lines ((g.fetchGroups rest).run world).2 =
      lines world ++ ((g.fetchGroups rest).run world).1.complaints := by
  induction rest generalizing world with
  | nil => exact (List.append_nil _).symm
  | cons tasks rest ih =>
    have here : Shows g tasks lines :=
      ⟨fun task ht => shows.reported task (List.mem_append_left _ ht),
        fun task ht => shows.quiet task (List.mem_append_left _ ht)⟩
    have later : Shows g rest.flatten lines :=
      ⟨fun task ht => shows.reported task (List.mem_append_right _ ht),
        fun task ht => shows.quiet task (List.mem_append_right _ ht)⟩
    have first := lines_fetchGroup g here world
    cases fetched : (g.fetchGroup tasks).run world with
    | mk results middle =>
      rw [fetched] at first
      rw [run_fetchGroups_cons g fetched, ih later middle, first, Results.complaints_append,
        List.append_assoc]

/-- Sources that are compatible and valid are aggregated as if all had been in one group.
There is nothing only if all of them failed, and every failure is reported once, in the
order of the sources. -/
theorem grabAll_agrees (tasks : List Task) (world after : σ) (results : Results)
    (fetched : (g.fetchAll tasks).run world = (results, after))
    (valid : ∀ p ∈ profiles results.kept, p.checkValid = .ok ())
    (compatible : ∀ p ∈ profiles results.kept, ∀ q ∈ profiles results.kept,
      p.compatible q = .ok ())
    (countable : Countable (profiles results.kept)) :
    results.map Prod.fst = tasks ∧
    (∀ lines, Shows g tasks lines → lines after = lines world ++ results.complaints) ∧
    ∃ answer, (g.grabAll tasks).run world = (.ok answer, after) ∧
      (answer = none ↔ ∀ r ∈ results, ∃ e, r.2 = .error e) ∧
      ∀ grab, answer = some grab → ∃ profile sources,
        combine (profiles results.kept) (results.kept.map (·.sources)) =
          .ok (profile, sources) ∧
        grab.Agrees results.kept profile sources := by
  have flat : (groups groupSize tasks).flatten = tasks := flatten_groups (by decide) tasks
  have order := map_fst_fetchGroups g (groups groupSize tasks) world
  rw [flat, ← fetchAll, fetched] at order
  refine ⟨order, fun lines shows => ?_, ?_⟩
  · have shown := lines_fetchGroups g (flat.symm ▸ shows) world
    rwa [← fetchAll, fetched] at shown
  · have fits := fits_headD valid compatible
    have small := countable.supply
    have start : Holds (supply (profiles results.kept)) ((profiles results.kept).headD {}) [] none :=
      rfl
    obtain ⟨answer, run, holds⟩ := grabGroups_spec g small (groups groupSize tasks) world
      (by rw [← fetchAll, fetched]; exact fits) start
    rw [← fetchAll, fetched] at run holds
    refine ⟨answer, run, ?_, ?_⟩
    · rw [← Results.kept_eq_nil]
      cases answer with
      | none =>
        have nothing : results.kept = [] := holds
        simp [nothing]
      | some grab =>
        have something : results.kept ≠ [] := holds.1
        simp [something]
    · rintro grab rfl
      exact holds.2.agrees small holds.1 fits

end

end Grabber

def Machine.bare : Machine (StateM (List String)) where
  readFile _ := pure (.error .notFound)
  isFile _ := pure false
  names _ := pure []
  createDirectories _ := pure (.error .notPermitted)
  createNew _ := pure (.error .notPermitted)
  write _ _ := pure (.error .notPermitted)
  removeFile _ := pure (.error .notFound)
  tempDirectory := pure "/tmp"
  scratchFile _ _ := pure (.error .notPermitted)
  run _ _ := pure (.error .notFound)
  exchange _ := pure none
  print _ := pure ()
  warn text := modify (· ++ [text])

/-- Without a search path no binary is looked for. -/
theorem Locate.locateBinaries_nil {m : Type → Type} [Monad m] [LawfulMonad m]
    (machine : Machine m) (openObject : OpenObject m) (main : MainBinary) (p : Profile) :
    locateBinaries machine openObject [] main p =
      pure { p with mappings := override main p.mappings } := by
  have attach_nil : attach machine openObject [] = fun mapping => pure (id mapping) := by
    funext mapping
    simp [attach, search]
  rw [locateBinaries, attach_nil, List.mapM_pure, pure_bind, List.map_id]

namespace Grabber

def lone : Grabber (StateM (List String)) where
  machine := .bare
  openObject _ _ := pure none
  ownFetch := some fun source _ _ =>
    pure (if source = "down" then .aborted else .found ⟨.lone 0x1000 5, source⟩)

def loneTasks : List Task :=
  .numerator "a" :: List.replicate 64 (.numerator "down") ++ [.numerator "b"]

theorem shows_lone : Shows lone loneTasks id := by
  refine ⟨fun _ _ _ _ => rfl, fun task _ world => ?_⟩
  have valid : (Profile.lone 0x1000 5).checkValid = .ok () := by decide
  by_cases down : task.source = "down"
  · simp [grabOne, fetchSource, lone, down]
    rfl
  · simp [grabOne, fetchSource, lone, down, valid, Locate.locateBinaries_nil]
    rfl

theorem grabAll_agrees_lone : ∃ grab,
    (lone.grabAll loneTasks).run [] =
      (.ok (some grab), List.replicate 64 "down: fetch panicked") ∧
    grab.count = 2 ∧ grab.remote = true ∧
    grab.sources.originsOf (.file "/bin/sh") = [⟨"a", 0x1000⟩, ⟨"b", 0x1000⟩] ∧
    grab.profile.mappings.head? = (Profile.lone 0x1000 5).mappings.head? := by
  let results := ((lone.fetchAll loneTasks).run []).1
  let after := ((lone.fetchAll loneTasks).run []).2
  obtain ⟨-, sink, answer, run, none_iff, all⟩ := grabAll_agrees lone loneTasks [] after results
    rfl (by decide +kernel) (by decide +kernel)
    ⟨by decide +kernel, by decide +kernel, by decide +kernel⟩
  have complaints : results.complaints = List.replicate 64 "down: fetch panicked" := by
    decide +kernel
  have lines : after = List.replicate 64 "down: fetch panicked" :=
    (sink id shows_lone).trans complaints
  have kept : results.kept.length = 2 := by decide +kernel
  cases answer with
  | none =>
    have failed : results.kept = [] := Results.kept_eq_nil.mpr (none_iff.mp rfl)
    rw [failed] at kept
    cases kept
  | some grab =>
    obtain ⟨profile, sources, -, agrees⟩ := all grab rfl
    refine ⟨grab, by rw [run, lines], agrees.count.trans kept, agrees.remote.mpr ?_,
      (agrees.origins _).trans ?_, agrees.main.trans ?_⟩
    · decide +kernel
    · decide +kernel
    · decide +kernel

end Grabber

end Profiling
