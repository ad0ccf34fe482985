import Profiling.Machine.Script

/-!
# A machine in memory

Files, programs and messages without a computer's own. It has no network: no server
answers. Its programs are an interpreter of scripts and the two that only succeed or
fail.
-/

namespace Profiling

structure Host where
  disk : Disk := {}
  tempDirectory : String := "/tmp"
  /-- The messages so far. -/
  printed : List String := []
  warnings : List String := []

namespace Host

/-- Changes the disk unless that fails. -/
def change (h : Host) : Except DiskError Disk → Except DiskError Unit × Host
  | .ok disk => (.ok (), { h with disk })
  | .error cause => (.error cause, h)

/-- The first path of the form that is not taken. -/
def freePath (h : Host) (stem ending : String) : Nat → Nat → String
  | 0, index => Path.join h.tempDirectory (stem ++ toString index ++ ending)
  | fuel + 1, index =>
    let path := Path.join h.tempDirectory (stem ++ toString index ++ ending)
    match h.disk.nodeAt path with
    | .ok _ => h.freePath stem ending fuel (index + 1)
    | .error _ => path

def scratchFile (h : Host) (stem ending : String) : Except DiskError String × Host :=
  let path := h.freePath stem ending h.disk.nodes.length 0
  match h.disk.createNew path with
  | .ok disk => (.ok path, { h with disk })
  | .error cause => (.error cause, h)

def endWith (h : Host) (code : Nat) : Except DiskError Ending × Host := (.ok (.exited code), h)

/-- Runs a program of the machine. No file on the disk may be run. -/
def run (h : Host) (program : String) (arguments : List String) :
    Except DiskError Ending × Host :=
  if program.toList.contains '\x00' then (.error (.other "nul byte found in provided data"), h)
  else if program.toList.contains '/' then
    match h.disk.nodeAt program with
    | .ok _ => (.error .notPermitted, h)
    | .error cause => (.error cause, h)
  else
    match program, arguments with
    | "sh", script :: _ =>
      match h.disk.contents script with
      | .ok content =>
        let (disk, ending) := Script.run h.disk content arguments
        (.ok ending, { h with disk })
      | .error _ => h.endWith 2
    | "sh", [] => h.endWith 0
    | "true", _ => h.endWith 0
    | "false", _ => h.endWith 1
    | _, _ => (.error .notFound, h)

end Host

/-- The machine as a state transformer, for any monad below. -/
def Host.machine (n : Type → Type) [Monad n] : Machine (StateT Host n) where
  readFile path := fun h => pure (h.disk.contents path, h)
  isFile path := fun h => pure (h.disk.isFile path, h)
  names path := fun h => pure (h.disk.names path, h)
  createDirectories path := fun h => pure (h.change (h.disk.createDirectories path))
  createNew path := fun h => pure (h.change (h.disk.createNew path))
  write path content := fun h => pure (h.change (h.disk.write path content))
  removeFile path := fun h => pure (h.change (h.disk.removeFile path))
  tempDirectory := fun h => pure (h.tempDirectory, h)
  scratchFile stem ending := fun h => pure (h.scratchFile stem ending)
  run program arguments := fun h => pure (h.run program arguments)
  exchange _ := fun h => pure (none, h)
  print text := fun h => pure ((), { h with printed := h.printed ++ [text] })
  warn text := fun h => pure ((), { h with warnings := h.warnings ++ [text] })

end Profiling
