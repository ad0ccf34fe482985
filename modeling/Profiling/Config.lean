import Profiling.Binary64
import Profiling.Duration
import Profiling.Path

/-!
# Configuration

What to fetch and how, and the parts of the environment that matter for it.
-/

namespace Profiling

/-- Where function names are taken from. -/
inductive SymbolMode
  | none
  | localFiles
  | remote
  | auto
deriving DecidableEq, Repr

namespace SymbolMode

def name : SymbolMode → String
  | none => "none"
  | localFiles => "local"
  | remote => "remote"
  | auto => "auto"

def all : List SymbolMode := [none, localFiles, remote, auto]

/-- The mode with a name. -/
def named? (name : String) : Option SymbolMode := all.find? (·.name = name)

/-- As `named?`, where the case of ASCII letters does not matter. -/
def namedIgnoringCase? (name : String) : Option SymbolMode :=
  named? (String.ofList (name.toList.map Char.toLower))

def usesLocal (m : SymbolMode) : Bool := m = localFiles || m = auto

def usesRemote (m : SymbolMode) : Bool := m = remote || m = auto

end SymbolMode

/-- One source to fetch, with the factor that its samples get: one, or minus one when
they are to be subtracted. -/
structure Task where
  source : String
  scale : Binary64
deriving DecidableEq, Repr

namespace Task

def numerator (source : String) : Task := ⟨source, .ofInt 1⟩

def base (source : String) : Task := ⟨source, .ofInt (-1)⟩

end Task

structure Config where
  sources : List String := []
  /-- Sources to subtract. -/
  base : List String := []
  /-- How long servers are to measure; zero leaves it to them. -/
  duration : Duration := .zero
  timeout : Duration := .zero
  /-- Replaces the file of each profile's first mapping. -/
  execName : Option String := none
  /-- Replaces the build id of each profile's first mapping. -/
  buildId : Option String := none
  symbolize : SymbolMode := .auto
  /-- Run with a capture and an output file to turn one into the other. -/
  perfConverter : String := "perf_to_profile"
deriving DecidableEq, Repr

def Config.tasks (c : Config) : List Task := c.sources.map Task.numerator ++ c.base.map Task.base

/-- The variables that are looked at. -/
structure Environment where
  tmpDir : Option String := none
  binaryPath : Option String := none
  home : Option String := none
deriving DecidableEq, Repr

namespace Environment

/-- Takes the variables from an environment; empty ones count as missing. -/
def ofVariables (value? : String → Option String) : Environment :=
  let given (name : String) := (value? name).filter (!·.isEmpty)
  { tmpDir := given "PPROF_TMPDIR", binaryPath := given "PPROF_BINARY_PATH",
    home := given "HOME" }

/-- Where copies of binaries are looked for: the directories of a list with colons, or
one below the home directory. -/
def searchPath (e : Environment) : List String :=
  match e.binaryPath with
  | some paths => ((paths.toList.splitOn ':').filter (· ≠ [])).map String.ofList
  | none => e.home.toList.map fun home => Path.join (Path.join home "pprof") "binaries"

end Environment

end Profiling
