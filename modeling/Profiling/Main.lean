import Profiling.Command

/-!
# The program

Runs the command on the files of this computer. Servers do not answer and programs
cannot be started here, so sources are files, and captures stay as they are.
-/

namespace Profiling

/-- The reason that a failed operation gives. -/
def DiskError.ofFailure : IO.Error → DiskError
  | .noFileOrDirectory .. => .notFound
  | .permissionDenied .. => .notPermitted
  | .alreadyExists .. => .alreadyExists
  | .inappropriateType .. => .isDirectory
  | e => .other (toString e)

def attempt (action : IO α) : IO (Except DiskError α) := do
  match ← action.toBaseIO with
  | .ok x => return .ok x
  | .error e => return .error (.ofFailure e)

/-- Makes an empty file that is not there yet. -/
def createEmpty (path : String) : IO Unit := do
  let _ ← IO.FS.Handle.mk path .writeNew

/-- The directory for files that are needed for a while only. -/
def scratchDirectory : IO String := do
  return (← IO.getEnv "TMPDIR").getD "/tmp"

/-- Makes a file under the first number that is free. -/
def createScratch (directory stem ending : String) :
    Nat → Nat → IO (Except DiskError String)
  | 0, _ => return .error .alreadyExists
  | fuel + 1, index => do
    let path := Path.join directory (stem ++ toString index ++ ending)
    match ← attempt (createEmpty path) with
    | .ok () => return .ok path
    | .error .alreadyExists => createScratch directory stem ending fuel (index + 1)
    | .error cause => return .error cause

/-- The files and the terminal of this computer. Directories are not listed. -/
def computer : Machine IO where
  readFile path := attempt do return (← IO.FS.readBinFile path).toList
  isFile path := do return (← attempt (IO.FS.readBinFile path)).toBool
  names _ := return []
  createDirectories path := attempt (IO.FS.createDirAll path)
  createNew path := attempt (createEmpty path)
  write path content := attempt (IO.FS.writeBinFile path ⟨content.toArray⟩)
  removeFile path := attempt (IO.FS.removeFile path)
  tempDirectory := scratchDirectory
  scratchFile stem ending := do createScratch (← scratchDirectory) stem ending maxIndex 0
  run _ _ := return .error (.other "programs cannot be started here")
  exchange _ := return none
  print text := IO.println text
  warn text := IO.eprintln text

def ownEnvironment : IO Environment := do
  let values ← ["PPROF_TMPDIR", "PPROF_BINARY_PATH", "HOME"].mapM fun name =>
    return (name, ← IO.getEnv name)
  return .ofVariables fun name => (values.lookup name).join

end Profiling

def main (arguments : List String) : IO UInt32 := do
  let outcome ← Profiling.Command.run Profiling.computer (← Profiling.ownEnvironment) arguments
  return outcome.code.toUInt32
