import Profiling.Aggregate
import Profiling.Arguments
import Profiling.Object.Binary

/-!
# The command

Fetches the sources that the arguments name, prints a line about the profile they make,
and writes it to a file if asked to.
-/

namespace Profiling.Command

/-- How a command ends. -/
inductive Outcome
  | done
  | failed
  /-- The arguments make no sense, or ask for help. -/
  | refused (e : Arguments.Error)
deriving DecidableEq, Repr

def Outcome.code : Outcome → Nat
  | done => 0
  | failed => 1
  | refused .help => 0
  | refused _ => 2

/-- The line about a profile. -/
def summary (p : Profile) : String :=
  toString p.samples.length ++ " samples, " ++ toString p.mappings.length ++ " mappings, " ++
    toString p.locations.length ++ " locations, " ++ toString p.functions.length ++
    " functions [" ++ " ".intercalate (p.sampleTypes.map ValueType.render) ++ "]"

variable {m : Type → Type} [Monad m]

/-- A machine whose messages are left out, but not its warnings. -/
def quieted (machine : Machine m) : Machine m := { machine with print := fun _ => return () }

def fail (machine : Machine m) (text : String) : m Outcome := do
  machine.warn ("error: " ++ text)
  return .failed

/-- Writes a profile to a file. -/
def writeOutput (machine : Machine m) (p : Profile) (path : String) : m Outcome := do
  match ← machine.write path p.write with
  | .error cause =>
    fail machine ("Failed to create output file " ++ path ++ ": " ++ cause.message)
  | .ok () =>
    machine.print ("saved: " ++ path)
    return .done

/-- Does what the arguments say. -/
def perform (machine : Machine m) (env : Environment) (arguments : Arguments) : m Outcome := do
  let g : Grabber m :=
    { machine, config := arguments.config, searchPath := env.searchPath
      openObject := Object.openAny machine }
  match ← g.fetchProfiles env (.ofMachine machine) with
  | .error e => fail machine ("Failed to fetch profiles: " ++ e.message)
  | .ok p =>
    machine.print (summary p)
    match arguments.output with
    | none => return .done
    | some path => writeOutput machine p path

/-- Runs the command with its arguments. -/
def run (machine : Machine m) (env : Environment) (arguments : List String) : m Outcome := do
  match Arguments.parse arguments with
  | .error e => return .refused e
  | .ok arguments =>
    perform (if arguments.quiet then quieted machine else machine) env arguments

end Profiling.Command
