import Profiling.Binary64
import Profiling.Profile.Error

/-!
# Scaling

Values are multiplied by a ratio, rounded to the nearest whole number with a tie
away from zero, and held within the range of a word. A ratio that is one, up to
the last bit, leaves its values alone. A sample whose scaled values all come out
zero is dropped.
-/

namespace Profiling

def Binary64.scaleWord (ratio : Binary64) (v : Int64) : Int64 :=
  ((ofInt v.toInt).mul ratio).roundAway

namespace Sample

def scaleValue (v : Int64) (ratio : Binary64) : Int64 :=
  if ratio.nearOne = .far then ratio.scaleWord v else v

/-- Values beyond the ratios stay as they are. -/
def scaledValues : List Int64 → List Binary64 → List Int64
  | v :: vs, r :: rs => scaleValue v r :: scaledValues vs rs
  | vs, [] => vs
  | [], _ => []

/-- Whether some value is scaled and is not zero afterwards. -/
def survives (s : Sample) (ratios : List Binary64) : Bool :=
  (s.values.zip ratios).any fun (v, r) => decide (r.nearOne = .far) && scaleValue v r != 0

def scale (ratios : List Binary64) (s : Sample) : Sample :=
  { s with values := scaledValues s.values ratios }

end Sample

namespace Profile

/-- Scales each value by the ratio of its sample type. -/
def scaleEach (p : Profile) (ratios : List Binary64) : Except ProfileError Profile :=
  if p.sampleTypes.length ≠ ratios.length then
    .error (.invalid (.ratioCount ratios.length p.sampleTypes.length))
  else if ratios.all (·.nearOne = .near) then .ok p
  else
    .ok { p with samples := (p.samples.filter (·.survives ratios)).map (·.scale ratios) }

/-- Scales all values by one ratio. -/
def scale (p : Profile) (ratio : Binary64) : Profile :=
  if ratio.nearOne = .near then p
  else
    match p.scaleEach (List.replicate p.sampleTypes.length ratio) with
    | .ok scaled => scaled
    | .error _ => p

end Profile

end Profiling
