import Profiling.Grab
import Profiling.Prune
import Profiling.Save
import Profiling.Symbolize

/-!
# Aggregates

Sources become one profile: they are fetched and merged, addresses get names, frames
that are not wanted go, and a profile with something remote in it is also saved.
-/

namespace Profiling

/-- A way to give names to addresses. It may fail, with the causes from the outermost to
the innermost. -/
abbrev Symbolizer (m : Type → Type) :=
  SymbolMode → Provenance → Profile → m (Except (List String) Profile)

namespace Symbolizer

/-- The way that looks at binaries and asks servers; it does not fail. -/
def ofMachine {m : Type → Type} [Monad m] (machine : Machine m)
    (patience : Symbolize.Patience := .usual) : Symbolizer m :=
  fun mode sources p => return .ok (← symbolize machine mode sources p patience)

end Symbolizer

/-- A profile without its uninteresting frames; frame filters that cannot be read are
ignored. -/
def Profile.withoutNoise (p : Profile) : Profile := p.removeUninteresting.toOption.getD p

namespace Grabber

variable {m : Type → Type} [Monad m]

/-- Saves a profile and tells where it is, or why it could not be saved. -/
def saveCopy (g : Grabber m) (env : Environment) (p : Profile) : m Unit := do
  match ← saveProfile g.machine env p with
  | .ok path => g.machine.warn ("Saved profile in " ++ path)
  | .error e => g.machine.warn ("Could not save profile: " ++ e.message)

/-- What is done with an aggregate once all sources are in it. -/
def finish (g : Grabber m) (env : Environment) (symbolizer : Symbolizer m) (grab : Grab) :
    m (Except FetchError Profile) := do
  match ← symbolizer g.config.symbolize grab.sources grab.profile with
  | .error causes => return .error (.symbolization (": ".intercalate causes))
  | .ok named =>
    let p := grab.sources.unsource named.withoutNoise
    if grab.remote then g.saveCopy env p
    return (p.checkValid.map fun _ => p).mapError .profile

/-- Fetches all sources of the configuration into one profile. -/
def fetchProfiles (g : Grabber m) (env : Environment) (symbolizer : Symbolizer m) :
    m (Except FetchError Profile) := do
  let tasks := g.config.tasks
  match ← g.grabAll tasks with
  | .error e => return .error e
  | .ok none => return .error .nothingFetched
  | .ok (some grab) =>
    if grab.count ≠ tasks.length then
      g.machine.warn
        ("fetched " ++ toString grab.count ++ " profiles out of " ++ toString tasks.length)
    g.finish env symbolizer grab

end Grabber

end Profiling
