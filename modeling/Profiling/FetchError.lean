import Profiling.Disk
import Profiling.Profile.Error

/-!
# What can go wrong with a source

Each failure is named by its cause; `FetchError.message` gives its wording.
-/

namespace Profiling

inductive FetchError
  /-- No answer came from a server. -/
  | transport (url : String)
  | status (text : String)
  | unreadable (path : String) (cause : DiskError)
  | conversion (text : String)
  | profile (cause : ProfileError)
  | nothingFetched
  | noTempDirectory
  | symbolization (text : String)
  | disk (cause : DiskError)
  /-- The fetch was cut short, for instance by a timeout that no duration can hold. -/
  | aborted
deriving DecidableEq, Repr

/-- The wording of a failure; why there is no answer is not told. -/
def FetchError.message : FetchError → String
  | .transport url => "http fetch " ++ url ++ ": <detail>"
  | .status text => "server response: " ++ text
  | .unreadable path cause => "open " ++ path ++ ": " ++ cause.message
  | .conversion text =>
    "failed to convert perf.data file. Try github.com/google/perf_data_converter: " ++ text
  | .profile cause => cause.message
  | .nothingFetched => "failed to fetch any profiles"
  | .noTempDirectory => "failed to identify temp dir"
  | .symbolization text => "symbolization failed: " ++ text
  | .disk cause => cause.message
  | .aborted => "fetch panicked"

end Profiling
