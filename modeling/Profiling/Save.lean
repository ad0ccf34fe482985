import Profiling.Config
import Profiling.FetchError
import Profiling.Machine
import Profiling.Profile.File
import Profiling.SaveName

/-!
# Saving profiles

Fetched profiles are kept as files of their own: a prefix that tells what is in them,
a number of at least three digits that is not taken yet, and an ending.
-/

namespace Profiling

variable {m : Type → Type} [Monad m]

/-- The first directory that can be used; the others are reported. -/
def firstUsable (machine : Machine m) : List String → m (Except FetchError String)
  | [] => pure (.error .noTempDirectory)
  | directory :: others => do
    match ← machine.createDirectories directory with
    | .ok () => return .ok directory
    | .error cause =>
      machine.warn ("Could not use temp dir " ++ directory ++ ": " ++ cause.message)
      firstUsable machine others

/-- Where profiles are saved: the given directory as it is, else one below the home
directory, else the one for temporary files. -/
def saveDirectory (machine : Machine m) (env : Environment) : m (Except FetchError String) := do
  match env.tmpDir with
  | some directory => return .ok directory
  | none =>
    let temporary ← machine.tempDirectory
    firstUsable machine ((env.home.toList.map (Path.join · "pprof")) ++ [temporary])

/-- A number with at least three digits. -/
def paddedIndex (index : Nat) : String :=
  let digits := Nat.toDigits 10 index
  String.ofList (List.replicate (3 - digits.length) '0' ++ digits)

/-- The name of a numbered file. -/
def numberedName (stem ending : String) (index : Nat) : String :=
  stem ++ paddedIndex index ++ ending

/-- Files are numbered from 1 up to this. -/
def maxIndex : Nat := 9999

def createFrom (machine : Machine m) (path : Nat → String) (exhausted : DiskError) :
    Nat → Nat → m (Except DiskError String)
  | 0, _ => pure (.error exhausted)
  | count + 1, index => do
    match ← machine.createNew (path index) with
    | .ok () => return .ok (path index)
    | .error .alreadyExists => createFrom machine path exhausted count (index + 1)
    | .error cause => return .error cause

/-- Makes the file with the least number that is free, and tells its path. -/
def createNumbered (machine : Machine m) (directory stem ending : String) :
    m (Except DiskError String) :=
  createFrom machine (fun index => Path.join directory (numberedName stem ending index))
    (.allTaken (stem ++ "NNN" ++ ending)) maxIndex 1

/-- Saves a profile in a file of its own and tells its path. A file that cannot be
written is not left behind. -/
def saveProfile (machine : Machine m) (env : Environment) (p : Profile) :
    m (Except FetchError String) := do
  match ← saveDirectory machine env with
  | .error e => return .error e
  | .ok directory =>
    match ← createNumbered machine directory (savePrefix p) ".pb.gz" with
    | .error cause => return .error (.disk cause)
    | .ok path =>
      match ← machine.write path p.write with
      | .ok () => return .ok path
      | .error cause =>
        let _ ← machine.removeFile path
        return .error (.disk cause)

end Profiling
