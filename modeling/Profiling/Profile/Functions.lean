import Profiling.Profile.Basic

/-!
# Interning functions

A function is found by its names and its file, whatever its first line; a new
one gets the number after the largest in use.
-/

namespace Profiling

def Function.isNamed (f : Function) (name systemName filename : String) : Bool :=
  f.name == name && f.systemName == systemName && f.filename == filename

namespace Profile

def maxFunctionId (p : Profile) : UInt64 := p.functions.foldl (fun m f => max m f.id) 0

/-- The number of the function with these names, which is added when it is missing. -/
def internFunction (p : Profile) (name systemName filename : String) : UInt64 × Profile :=
  match p.functions.find? (·.isNamed name systemName filename) with
  | some f => (f.id, p)
  | none =>
    let id := p.maxFunctionId + 1
    (id, { p with functions := p.functions ++ [{ id, name, systemName, filename }] })

end Profile

end Profiling
