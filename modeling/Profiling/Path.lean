/-!
# Paths

A path is a text whose parts are set apart by slashes. Nothing here looks at a
disk.
-/

namespace Profiling.Path

def isAbsolute (path : String) : Bool := path.toList.head? = some '/'

/-- Appends a path to a directory; an absolute path replaces it. -/
def join (dir path : String) : String :=
  if isAbsolute path || dir.isEmpty then path
  else if dir.toList.getLast? = some '/' then dir ++ path
  else dir ++ "/" ++ path

/-- The parts of a path that name something: empty ones and single dots do not. -/
def names (path : String) : List String :=
  ((path.toList.splitOn '/').filter fun part => part ≠ [] ∧ part ≠ ['.']).map String.ofList

/-- The parts of a path that are not empty. -/
def parts (path : String) : List String :=
  ((path.toList.splitOn '/').filter (· ≠ [])).map String.ofList

/-- The last part of a path, unless it leads up. -/
def fileName? (path : String) : Option String :=
  match (names path).getLast? with
  | some name => if name = ".." then none else some name
  | none => none

end Profiling.Path
