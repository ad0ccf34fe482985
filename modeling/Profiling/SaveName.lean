import Profiling.Path
import Profiling.Profile.Basic

/-!
# Names of saved profiles
-/

namespace Profiling

/-- The name of the main binary's file and the kinds of value, each with a dot after it. -/
def savePrefix (p : Profile) : String :=
  let binary := p.mappings.head?.bind fun m => Path.fileName? m.file
  String.join ("pprof." :: (binary.toList ++ p.sampleTypes.map (·.kind)).map (· ++ "."))

end Profiling
