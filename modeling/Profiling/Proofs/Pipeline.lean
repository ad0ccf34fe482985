import Profiling.Proofs.Grouping
import Profiling.Proofs.Upkeep

/-!
# From sources to a checked profile

The last check of a run cannot fail. What is fetched for a source is checked at once, and from
there on every profile is linked: each fragment that is kept, every aggregate that fragments are
merged into, the aggregate with names and what is handed out in the end.
-/

namespace Profiling

open Merge

namespace Locate

variable {σ : Type} (machine : Machine (StateM σ)) (openObject : OpenObject (StateM σ))
  (searchPath : List String)

theorem map_id_override (main : MainBinary) (ms : List Mapping) :
    (override main ms).map Mapping.id = ms.map Mapping.id := by
  cases ms <;> rfl

theorem always_attach (m : Mapping) :
    Always (fun n => n.id = m.id) (attach machine openObject searchPath m) := by
  rw [attach]
  split
  · exact .pure rfl
  · refine .bind (.trivial _) fun found _ => ?_
    cases found with
    | none => exact .pure rfl
    | some file => exact .pure rfl

theorem always_locateBinaries (main : MainBinary) {p : Profile} (linked : p.Linked) :
    Always Profile.Linked (locateBinaries machine openObject searchPath main p) := by
  refine .bind (.mapM (always_attach machine openObject searchPath) _) fun ms attached => ?_
  refine .pure (Profile.linked_mappings linked ?_)
  rw [Profile.mappingIds, ← map_id_override main p.mappings]
  exact map_eq_of_forall₂ (fun _ _ same => same) attached

end Locate

theorem Fragment.linked_ofProfile {p : Profile} (linked : p.Linked) (source : String) :
    (Fragment.ofProfile p source).profile.Linked := by
  rw [Fragment.ofProfile]
  split
  · exact linked
  · exact Provenance.linked_collect linked source

namespace Grabber

section

variable {σ : Type} (g : Grabber (StateM σ))

/-- What is fetched for a source is checked before anything is done with it. -/
theorem always_grabOne (task : Task) :
    Always (fun r => ∀ f, r = .ok f → f.profile.Linked) (g.grabOne task) := by
  refine .bind (.trivial _) fun fetched _ => ?_
  cases fetched with
  | error e => exact .pure fun f failed => nomatch failed
  | ok fetched =>
    cases checked : fetched.profile.checkValid with
    | error e =>
      simp only [checked]
      exact .pure fun f failed => nomatch failed
    | ok =>
      simp only [checked]
      have linked := Profile.checkValid_eq_ok_iff.mp checked
      refine .bind (Locate.always_locateBinaries _ _ _ _
        (Profile.linked_scale linked task.scale)) fun located linked => .pure ?_
      intro f made
      rw [← Except.ok.inj made]
      exact Fragment.linked_ofProfile linked fetched.source

/-- All profiles that were not left out are linked. -/
def Sound (results : Results) : Prop := ∀ p ∈ profiles results.kept, p.Linked

theorem sound_append {a b : Results} (first : Sound a) (second : Sound b) : Sound (a ++ b) := by
  intro p hp
  rw [Results.kept_append, profiles, List.map_append] at hp
  rcases List.mem_append.mp hp with old | new
  · exact first p old
  · exact second p new

theorem always_fetchGroup (tasks : List Task) : Always Sound (g.fetchGroup tasks) := by
  have each : ∀ task, Always (fun r : Task × Except FetchError Fragment =>
      ∀ f, r.2 = .ok f → f.profile.Linked) (do return (task, ← g.grabOne task)) :=
    fun task => .bind (g.always_grabOne task) fun r linked => .pure linked
  refine .bind (.mapM each tasks) fun results fetched => .bind (.trivial _) fun _ _ => .pure ?_
  intro p hp
  obtain ⟨f, hf, rfl⟩ := List.mem_map.mp hp
  obtain ⟨r, hr, kept⟩ := List.mem_filterMap.mp hf
  obtain ⟨-, -, linked⟩ := exists_of_mem_right fetched hr
  refine linked f ?_
  cases outcome : r.2 with
  | error e =>
    rw [outcome] at kept
    cases kept
  | ok f' =>
    rw [outcome] at kept
    rw [Option.some.inj kept]

theorem always_fetchGroups (rest : List (List Task)) : Always Sound (g.fetchGroups rest) := by
  induction rest with
  | nil => exact .pure fun p hp => nomatch hp
  | cons tasks rest ih =>
    exact .bind (g.always_fetchGroup tasks) fun results sound =>
      .bind ih fun others sound' => .pure (sound_append sound sound')

theorem always_fetchAll (tasks : List Task) : Always Sound (g.fetchAll tasks) :=
  g.always_fetchGroups (groups groupSize tasks)

end

end Grabber

structure Profile.Ready (P : Supply) (p : Profile) : Prop where
  linked : p.Linked
  drawn : p.DrawsFrom P
  numbered : Numbered p.functionIds

variable {P : Supply}

theorem Profile.DrawsFrom.of_parts {p q : Profile} (drawn : p.DrawsFrom P)
    (mappings : q.mappings = p.mappings) (functions : q.functions = p.functions)
    (locations : q.locations = p.locations) : q.DrawsFrom P := by
  cases p
  cases q
  cases mappings
  cases functions
  cases locations
  exact ⟨drawn.mappings, drawn.functions, drawn.frames⟩

/-- Whatever units profiles are brought to, what is merged from them is linked. -/
theorem ready_of_combine {profiles : List Profile} {sources : List Provenance}
    {out : Profile × Provenance} (small : P.Countable) (linked : ∀ p ∈ profiles, p.Linked)
    (drawn : ∀ p ∈ profiles, p.DrawsFrom P) (run : combine profiles sources = .ok out) :
    out.1.Ready P := by
  obtain ⟨harmonized, brought, merged, summed, rfl⟩ := combine_eq_ok_iff.mp run
  have linked' := Profile.linked_harmonize linked brought
  have drawn' : ∀ q ∈ harmonized, q.DrawsFrom P := by
    intro q hq
    obtain ⟨p, -, drawn, mappings, functions, locations⟩ := exists_of_mem_right
      ((List.forall₂_and_left _ _).mpr ⟨drawn, Profile.harmonize_parts brought⟩) hq
    exact drawn.of_parts mappings functions locations
  cases harmonized with
  | nil => cases summed
  | cons first rest =>
    obtain ⟨out, run, made, -⟩ := merge_spec small linked' drawn' (compatible_of_merge summed)
    obtain rfl : merged = out := Except.ok.inj (summed.symm.trans run)
    exact ⟨made.linked, made.drawn, made.normal.functionIds⟩

namespace Grabber

theorem ofFragments_of_groupOf {fragments : List Fragment} {group : Option Grab}
    (run : groupOf fragments = .ok group) :
    (group = none ∧ fragments = []) ∨
      ∃ grab, group = some grab ∧ Grab.ofFragments fragments = .ok grab := by
  rw [groupOf] at run
  split at run
  · rename_i nothing
    exact Or.inl ⟨(Except.ok.inj run).symm, List.isEmpty_iff.mp nothing⟩
  · cases made : Grab.ofFragments fragments with
    | error e =>
      rw [made] at run
      cases run
    | ok grab =>
      rw [made] at run
      exact Or.inr ⟨grab, (Except.ok.inj run).symm, rfl⟩

theorem add_of_addGroup {total : Option Grab} {group sum : Grab}
    (run : addGroup total group = .ok sum) :
    (total = none ∧ sum = group) ∨ ∃ t, total = some t ∧ t.add group = .ok sum := by
  cases total with
  | none => exact Or.inl ⟨rfl, (Except.ok.inj run).symm⟩
  | some t =>
    cases made : t.add group with
    | error e =>
      rw [addGroup, made] at run
      cases run
    | ok sum' =>
      rw [addGroup, made] at run
      obtain rfl := Except.ok.inj run
      exact Or.inr ⟨t, rfl, made⟩

/-- Some fragments, and what they amount to. -/
def Amounts (amount : List Fragment → Grab → Prop) (fragments : List Fragment) :
    Option Grab → Prop
  | none => fragments = []
  | some grab => amount fragments grab

variable {σ : Type} (g : Grabber (StateM σ))

theorem amounts_of_grabGroups {amount : List Fragment → Grab → Prop} {all : List Fragment}
    (group : ∀ fs a, fs.Sublist all → Grab.ofFragments fs = .ok a → amount fs a)
    (add : ∀ fs gs a b c, (fs ++ gs).Sublist all → amount fs a → amount gs b → a.add b = .ok c →
      amount (fs ++ gs) c)
    (rest : List (List Task)) {fragments : List Fragment} {total answer : Option Grab}
    {world after : σ} (whole : fragments ++ ((g.fetchGroups rest).run world).1.kept = all)
    (before : Amounts amount fragments total)
    (run : (g.grabGroups total rest).run world = (.ok answer, after)) :
    Amounts amount all answer := by
  induction rest generalizing fragments total world with
  | nil =>
    obtain ⟨same, -⟩ := Prod.mk.inj run
    obtain rfl := Except.ok.inj same
    obtain rfl : fragments = all := (List.append_nil fragments).symm.trans whole
    exact before
  | cons tasks rest ih =>
    cases fetched : (g.fetchGroup tasks).run world with
    | mk results middle =>
      rw [run_fetchGroups_cons g fetched, Results.kept_append, ← List.append_assoc] at whole
      have sofar : (fragments ++ results.kept).Sublist all :=
        whole ▸ List.sublist_append_left _ _
      have here : results.kept.Sublist all := (List.sublist_append_right _ _).trans sofar
      rw [run_grabGroups_cons g fetched] at run
      cases grouped : groupOf results.kept with
      | error e =>
        rw [grouped] at run
        cases run
      | ok next =>
        rw [grouped] at run
        rcases ofFragments_of_groupOf grouped with ⟨rfl, nothing⟩ | ⟨b, rfl, made⟩
        · rw [nothing, List.append_nil] at whole
          exact ih whole before run
        · have second := group results.kept b here made
          cases added : addGroup total b with
          | error e =>
            simp only [added] at run
            cases run
          | ok sum =>
            simp only [added] at run
            refine ih whole ?_ run
            rcases add_of_addGroup added with ⟨rfl, rfl⟩ | ⟨a, rfl, made⟩
            · obtain rfl : fragments = [] := before
              exact second
            · exact add fragments results.kept a b sum sofar before second made

theorem amounts_of_grabAll {amount : List Fragment → Grab → Prop} {tasks : List Task}
    {world fetched after : σ} {results : Results} {answer : Option Grab}
    (fetching : (g.fetchAll tasks).run world = (results, fetched))
    (group : ∀ fs a, fs.Sublist results.kept → Grab.ofFragments fs = .ok a → amount fs a)
    (add : ∀ fs gs a b c, (fs ++ gs).Sublist results.kept → amount fs a → amount gs b →
      a.add b = .ok c → amount (fs ++ gs) c)
    (grabbed : (g.grabAll tasks).run world = (.ok answer, after)) :
    Amounts amount results.kept answer := by
  have start : Amounts amount [] none := rfl
  refine g.amounts_of_grabGroups group add (groups groupSize tasks) ?_ start grabbed
  rw [← fetchAll, fetching]
  rfl

/-- Where groups could be combined, the aggregate of all is ready for names. -/
theorem ready_of_grabAll {tasks : List Task} {world fetched after : σ} {results : Results}
    {grab : Grab} (small : P.Countable)
    (fetching : (g.fetchAll tasks).run world = (results, fetched))
    (drawn : ∀ p ∈ profiles results.kept, p.DrawsFrom P)
    (grabbed : (g.grabAll tasks).run world = (.ok (some grab), after)) :
    grab.profile.Ready P := by
  have sound : Sound results := by
    have sound := g.always_fetchAll tasks world
    rwa [fetching] at sound
  have amounts : Amounts (fun _ a => a.profile.Ready P) results.kept (some grab) := by
    refine g.amounts_of_grabAll fetching ?_ ?_ grabbed
    · intro fs a part made
      obtain ⟨out, combined, made⟩ := bind_eq_ok_iff.mp made
      obtain rfl := Except.ok.inj made
      have known : ∀ p ∈ profiles fs, p ∈ profiles results.kept :=
        fun p hp => (part.map _).subset hp
      exact ready_of_combine small (fun p hp => sound p (known p hp))
        (fun p hp => drawn p (known p hp)) combined
    · intro fs gs a b c part first second made
      obtain ⟨out, combined, made⟩ := bind_eq_ok_iff.mp made
      obtain rfl := Except.ok.inj made
      refine ready_of_combine small ?_ ?_ combined
      · simp [first.linked, second.linked]
      · simp [first.drawn, second.drawn]
  exact amounts

/-- What is missing is reported, and the aggregate gets names. -/
def nameAll {m : Type → Type} [Monad m] (g : Grabber m) (patience : Symbolize.Patience)
    (grab : Grab) : m Profile := do
  if grab.count ≠ g.config.tasks.length then
    g.machine.warn ("fetched " ++ toString grab.count ++ " profiles out of " ++
      toString g.config.tasks.length)
  symbolize g.machine g.config.symbolize grab.sources grab.profile patience

theorem always_nameAll (patience : Symbolize.Patience) (grab : Grab) :
    Always (fun q => grab.profile.Enriched q) (g.nameAll patience grab) := by
  rw [nameAll]
  split
  · exact .bind (.trivial _) fun _ _ => always_symbolize _ _ _ _ _
  · exact always_symbolize _ _ _ _ _

end Grabber

/-- An aggregate with names, without the frames that are not wanted and without the names that
were only lent to mappings. -/
def Grab.cleaned (grab : Grab) (named : Profile) : Profile :=
  grab.sources.unsource named.withoutNoise

namespace Grabber

/-- What is handed out is saved if something remote is in it, and checked. -/
def conclude {m : Type → Type} [Monad m] (g : Grabber m) (env : Environment) (grab : Grab)
    (named : Profile) : m (Except FetchError Profile) := do
  let p := grab.cleaned named
  if grab.remote then g.saveCopy env p
  return (p.checkValid.map fun _ => p).mapError .profile

theorem fetchProfiles_eq {m : Type → Type} [Monad m] [LawfulMonad m] (g : Grabber m)
    (env : Environment) (patience : Symbolize.Patience) :
    g.fetchProfiles env (.ofMachine g.machine patience) = (do
      match ← g.grabAll g.config.tasks with
      | .error e => return .error e
      | .ok none => return .error .nothingFetched
      | .ok (some grab) => g.conclude env grab (← g.nameAll patience grab)) := by
  rw [fetchProfiles]
  refine congrArg _ (funext fun answer => ?_)
  cases answer with
  | error e => rfl
  | ok answer =>
    cases answer with
    | none => rfl
    | some grab =>
      simp only [finish, nameAll, conclude, Symbolizer.ofMachine, Grab.cleaned]
      split <;> simp

variable {σ : Type} (g : Grabber (StateM σ))

/-- Past the aggregate only the last check can fail; saving does not change what is checked. -/
theorem run_fetchProfiles (env : Environment) {patience : Symbolize.Patience}
    {world middle after : σ} {grab : Grab} {named : Profile}
    (grabbed : (g.grabAll g.config.tasks).run world = (.ok (some grab), middle))
    (naming : (g.nameAll patience grab).run middle = (named, after)) :
    (g.fetchProfiles env (.ofMachine g.machine patience)).run world =
      (g.conclude env grab named).run after := by
  rw [fetchProfiles_eq, StateT.run_bind, grabbed]
  change (g.nameAll patience grab >>= g.conclude env grab).run middle = _
  rw [StateT.run_bind, naming]
  rfl

structure Upheld (results : Results) (grab : Grab) (named : Profile) : Prop where
  fragments : ∀ f ∈ results.kept, f.profile.checkValid = .ok ()
  aggregate : grab.profile.checkValid = .ok ()
  symbolized : named.checkValid = .ok ()
  pruned : named.withoutNoise.checkValid = .ok ()
  cleaned : (grab.cleaned named).checkValid = .ok ()

/-- Once there is an aggregate, no file and no server can make a run fail: every step from there
leaves a valid profile, and so passes the last check. -/
theorem fetchProfiles_valid (env : Environment) (patience : Symbolize.Patience)
    (world fetched middle after : σ) (results : Results) (grab : Grab) (named : Profile)
    (fetching : (g.fetchAll g.config.tasks).run world = (results, fetched))
    (countable : Countable (profiles results.kept))
    (grabbed : (g.grabAll g.config.tasks).run world = (.ok (some grab), middle))
    (naming : (g.nameAll patience grab).run middle = (named, after))
    (few : named.functions.length < UInt64.size) :
    Upheld results grab named ∧ ∃ last,
      (g.fetchProfiles env (.ofMachine g.machine patience)).run world =
        (.ok (grab.cleaned named), last) := by
  have sound : Sound results := by
    have sound := g.always_fetchAll g.config.tasks world
    rwa [fetching] at sound
  have ready : grab.profile.Ready (supply (profiles results.kept)) :=
    g.ready_of_grabAll countable.supply fetching (fun p hp => drawsFrom_supply hp) grabbed
  have enriched : grab.profile.Enriched named := by
    have enriched := g.always_nameAll patience grab middle
    rwa [naming] at enriched
  have named_linked := enriched.linked ready.linked ready.numbered few
  have pruned := Profile.linked_withoutNoise named_linked
  have cleaned := Provenance.linked_unsource grab.sources pruned
  have checked := Profile.checkValid_eq_ok_iff.mpr cleaned
  refine ⟨⟨?_, ?_, ?_, ?_, checked⟩, ?_⟩
  · intro f hf
    exact Profile.checkValid_eq_ok_iff.mpr (sound f.profile (List.mem_map_of_mem hf))
  · exact Profile.checkValid_eq_ok_iff.mpr ready.linked
  · exact Profile.checkValid_eq_ok_iff.mpr named_linked
  · exact Profile.checkValid_eq_ok_iff.mpr pruned
  · rw [run_fetchProfiles g env grabbed naming, conclude]
    have outcome : (((grab.cleaned named).checkValid.map fun _ => grab.cleaned named).mapError
        FetchError.profile) = .ok (grab.cleaned named) := by
      rw [Grab.cleaned, checked]
      rfl
    rw [outcome]
    cases grab.remote with
    | true => exact ⟨_, rfl⟩
    | false => exact ⟨_, rfl⟩

def loneRun : Grabber (StateM (List String)) where
  machine := lone.machine
  config := { sources := ["a", "down", "b"] }
  openObject := lone.openObject
  ownFetch := lone.ownFetch

theorem eq_ok_of_toOption {answer : Except ε α} {a : α} (present : answer.toOption = some a) :
    answer = .ok a := by
  cases answer with
  | error e => cases present
  | ok b => rw [Option.some.inj present]

theorem fetchProfiles_valid_lone : ∃ p,
    (loneRun.fetchProfiles {} (.ofMachine loneRun.machine)).run [] =
      (.ok p, ["down: fetch panicked", "fetched 2 profiles out of 3",
        "Could not use temp dir /tmp: Permission denied (os error 13)",
        "Could not save profile: failed to identify temp dir"]) ∧
    p.checkValid = .ok () ∧ p.samples.length = 1 := by
  let grabbed := (loneRun.grabAll loneRun.config.tasks).run []
  let grab := (grabbed.1.toOption.bind id).getD ⟨{}, .empty, false, 0⟩
  let named := (loneRun.nameAll .usual grab).run grabbed.2
  have present : grabbed.1 = .ok (some grab) := eq_ok_of_toOption (by decide +kernel)
  obtain ⟨upheld, last, run⟩ := fetchProfiles_valid loneRun {} .usual []
    ((loneRun.fetchAll loneRun.config.tasks).run []).2 grabbed.2 named.2 _ grab named.1 rfl
    ⟨by decide +kernel, by decide +kernel, by decide +kernel⟩ (Prod.ext present rfl) rfl
    (by decide +kernel)
  have warnings : ((loneRun.fetchProfiles {} (.ofMachine loneRun.machine)).run []).2 = [
      "down: fetch panicked", "fetched 2 profiles out of 3",
      "Could not use temp dir /tmp: Permission denied (os error 13)",
      "Could not save profile: failed to identify temp dir"] := by
    decide +kernel
  rw [run] at warnings
  exact ⟨grab.cleaned named.1, run.trans (congrArg _ warnings), upheld.cleaned, by decide +kernel⟩

end Grabber

end Profiling
