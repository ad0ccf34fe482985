import Profiling.Merge
import Profiling.Provenance
import Profiling.Unit

/-!
# Combining fetched profiles
-/

namespace Profiling

/-- Merges profiles in common units, and joins their provenance in order. -/
def combine (profiles : List Profile) (sources : List Provenance) :
    Except ProfileError (Profile × Provenance) := do
  let harmonized ← Profile.harmonize profiles
  let merged ← merge harmonized
  return (merged, sources.foldl Provenance.append .empty)

end Profiling
