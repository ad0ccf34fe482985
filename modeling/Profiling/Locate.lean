import Profiling.Machine
import Profiling.Profile.Basic

/-!
# Finding binaries

Every mapping of a fetched profile is pointed at a local copy of its binary where one
is found. In each directory of the search path these are tried in order: the file of
the binary's name below the build id, every file below the build id, and the file of
the binary's name. A copy counts if it opens and has the build id of the mapping, if
that has one.
-/

namespace Profiling

/-- A binary that could be opened. -/
structure ObjectFile where
  name : String
  /-- In hexadecimal; empty without one. -/
  buildId : String
deriving DecidableEq, Repr

/-- Opens the binary at a path, for a mapping. -/
abbrev OpenObject (m : Type → Type) := String → Mapping → m (Option ObjectFile)

/-- What takes the place of the first mapping's file and build id. -/
structure MainBinary where
  execName : Option String := none
  buildId : Option String := none
deriving DecidableEq, Repr

namespace Path

/-- A path with single slashes and without leading dots. -/
def plain (path : String) : String :=
  if isAbsolute path then "/" ++ "/".intercalate (parts path)
  else "/".intercalate ((parts path).dropWhile (· = "."))

end Path

namespace Locate

/-- The files that are tried in a directory, where `listed` are the names below the
build id. -/
def candidates (directory buildId : String) (base : Option String) (listed : List String) :
    List String :=
  let below := Path.join directory buildId
  let direct := base.toList.map (Path.join directory)
  if buildId.isEmpty then direct
  else base.toList.map (Path.join below) ++ listed.map (Path.join (Path.plain below)) ++ direct

def mismatch (file : ObjectFile) (wanted : String) : String :=
  "Ignoring local file " ++ file.name ++ ": build-id mismatch (" ++ wanted ++ " != " ++
    file.buildId ++ ")"

variable {m : Type → Type} [Monad m]

/-- The names below the build id in a directory. -/
def listBuildId (machine : Machine m) (directory buildId : String) : m (List String) :=
  if buildId.isEmpty then pure []
  else
    let below := Path.plain (Path.join directory buildId)
    machine.names (if below.isEmpty then "." else below)

/-- The first of some files that is the binary of a mapping. Files with another build id
are reported. -/
def firstMatching (machine : Machine m) (openObject : OpenObject m) (mapping : Mapping) :
    List String → m (Option ObjectFile)
  | [] => pure none
  | path :: paths => do
    match ← openObject path mapping with
    | none => firstMatching machine openObject mapping paths
    | some file =>
      if mapping.buildId.isEmpty || mapping.buildId = file.buildId then return some file
      else
        machine.warn (mismatch file mapping.buildId)
        firstMatching machine openObject mapping paths

/-- The local copy of a mapping's binary. -/
def search (machine : Machine m) (openObject : OpenObject m) (mapping : Mapping) :
    List String → m (Option ObjectFile)
  | [] => pure none
  | directory :: directories => do
    let listed ← listBuildId machine directory mapping.buildId
    let files := candidates directory mapping.buildId (Path.fileName? mapping.file) listed
    match ← firstMatching machine openObject mapping files with
    | some file => return some file
    | none => search machine openObject mapping directories

/-- The mapping with the file of its local copy, if there is one. A mapping without a
file and a build id is not looked for. -/
def attach (machine : Machine m) (openObject : OpenObject m) (searchPath : List String)
    (mapping : Mapping) : m Mapping := do
  if mapping.file.isEmpty && mapping.buildId.isEmpty then return mapping
  else
    match ← search machine openObject mapping searchPath with
    | some file => return { mapping with file := file.name }
    | none => return mapping

/-- The first mapping under its other name and build id. -/
def override (main : MainBinary) : List Mapping → List Mapping
  | [] => []
  | first :: others =>
    { first with
      file := main.execName.getD first.file, buildId := main.buildId.getD first.buildId } :: others

def locateBinaries (machine : Machine m) (openObject : OpenObject m) (searchPath : List String)
    (main : MainBinary) (p : Profile) : m Profile := do
  let mappings ← (override main p.mappings).mapM (attach machine openObject searchPath)
  return { p with mappings }

end Locate

end Profiling
