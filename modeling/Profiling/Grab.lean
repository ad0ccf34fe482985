import Profiling.Combine
import Profiling.Config
import Profiling.Fetch
import Profiling.Locate

/-!
# Fetching many sources

Each source is fetched, checked, scaled and pointed at local binaries on its own; a
source that fails is reported and left out. Sources are combined in groups of bounded
size, and the groups one after the other into an aggregate.
-/

namespace Profiling

/-- What a caller's own way to fetch says about a source. -/
inductive OwnFetch
  | found (result : Fetched)
  /-- The source is fetched in the usual way. -/
  | passed
  /-- Nothing is fetched for the source. -/
  | aborted

/-- How sources are fetched. -/
structure Grabber (m : Type → Type) where
  machine : Machine m
  config : Config := {}
  searchPath : List String := []
  openObject : OpenObject m
  /-- A caller's own way to fetch, tried first. -/
  ownFetch : Option (String → Duration → Duration → m OwnFetch) := none

/-- One fetched source. -/
structure Fragment where
  profile : Profile
  sources : Provenance := .empty
  remote : Bool := false
deriving DecidableEq, Repr

/-- What a group of sources amounts to. -/
structure Grab where
  profile : Profile
  sources : Provenance := .empty
  /-- Whether one of the sources was remote. -/
  remote : Bool := false
  /-- How many sources there were. -/
  count : Nat
deriving DecidableEq, Repr

namespace Grab

/-- Several fragments in one. -/
def ofFragments (fragments : List Fragment) : Except ProfileError Grab := do
  let (profile, sources) ←
    combine (fragments.map (·.profile)) (fragments.map (·.sources))
  return { profile, sources, remote := fragments.any (·.remote), count := fragments.length }

/-- An aggregate with one more group. -/
def add (a b : Grab) : Except ProfileError Grab := do
  let (profile, sources) ← combine [a.profile, b.profile] [a.sources, b.sources]
  return { profile, sources, remote := a.remote || b.remote, count := a.count + b.count }

end Grab

/-- A profile as it goes into an aggregate, with its provenance if it has a source. -/
def Fragment.ofProfile (profile : Profile) (source : String) : Fragment :=
  if source.isEmpty then { profile }
  else
    let (sources, profile) := Provenance.collect profile source
    { profile, sources, remote := true }

namespace Grabber

variable {m : Type → Type} [Monad m]

def fetchSource (g : Grabber m) (source : String) : m (Except FetchError Fetched) := do
  let usual :=
    fetch g.machine source g.config.duration g.config.timeout g.config.perfConverter
  match g.ownFetch with
  | none => usual
  | some own =>
    match ← own source g.config.duration g.config.timeout with
    | .found result => return .ok result
    | .passed => usual
    | .aborted => return .error .aborted

/-- Fetches, checks and scales one source and finds its binaries. -/
def grabOne (g : Grabber m) (task : Task) : m (Except FetchError Fragment) := do
  match ← g.fetchSource task.source with
  | .error e => return .error e
  | .ok fetched =>
    match fetched.profile.checkValid with
    | .error e => return .error (.profile e)
    | .ok () =>
      let main : MainBinary := ⟨g.config.execName, g.config.buildId⟩
      let located ← Locate.locateBinaries g.machine g.openObject g.searchPath main
        (fetched.profile.scale task.scale)
      return .ok (.ofProfile located fetched.source)

/-- The fragments of the sources that did not fail; the others are reported. -/
def survivors (g : Grabber m) :
    List (Task × Except FetchError Fragment) → m (List Fragment)
  | [] => pure []
  | (_, .ok fragment) :: rest => do return fragment :: (← survivors g rest)
  | (task, .error e) :: rest => do
    g.machine.warn (task.source ++ ": " ++ e.message)
    survivors g rest

/-- Fetches a group of sources, which may be done side by side. Nothing comes back if
all of them fail. -/
def grabGroup (g : Grabber m) (tasks : List Task) : m (Except FetchError (Option Grab)) := do
  let results ← tasks.mapM fun task => do return (task, ← g.grabOne task)
  let fragments ← g.survivors results
  if fragments.isEmpty then return .ok none
  else return ((Grab.ofFragments fragments).mapError .profile).map some

/-- An aggregate, which may be empty so far, with one more group. -/
def addGroup : Option Grab → Grab → Except FetchError Grab
  | none, group => .ok group
  | some total, group => (total.add group).mapError .profile

def grabGroups (g : Grabber m) :
    Option Grab → List (List Task) → m (Except FetchError (Option Grab))
  | total, [] => pure (.ok total)
  | total, tasks :: rest => do
    match ← g.grabGroup tasks with
    | .error e => return .error e
    | .ok none => g.grabGroups total rest
    | .ok (some group) =>
      match addGroup total group with
      | .error e => return .error e
      | .ok total => g.grabGroups (some total) rest

/-- Groups have at most this many sources. -/
def groupSize : Nat := 64

/-- A list in groups of a size; the last may be smaller. -/
def groups (size : Nat) (xs : List α) : List (List α) :=
  if 0 < size ∧ xs ≠ [] then xs.take size :: groups size (xs.drop size) else []
termination_by xs.length
decreasing_by
  have : 0 < xs.length := List.length_pos_iff.mpr (by simp_all)
  simp only [List.length_drop]
  omega

/-- Fetches any number of sources into one aggregate. Nothing comes back if all of them
fail. -/
def grabAll (g : Grabber m) (tasks : List Task) : m (Except FetchError (Option Grab)) :=
  g.grabGroups none (groups groupSize tasks)

end Grabber

end Profiling
