import Profiling.Dwarf.Frames
import Profiling.Object.Binary

/-!
# Binaries with debug information

A binary on disk names the functions of its addresses. Profiles have addresses as they
were when the program ran, so those of a binary that can be loaded anywhere are moved
first.
-/

namespace Profiling

open Object

structure DebugFile where
  isRelocatable : Bool
  info : Dwarf.DebugInfo

/-- A function that an address is in. -/
structure SourceFrame where
  function : String
  location : Option Dwarf.Location := none
deriving DecidableEq, Repr

namespace DebugFile

/-- Why a binary cannot be used. -/
inductive Fault
  | unreadable
  | unrecognized
  /-- The debug information makes no sense. -/
  | senseless
deriving DecidableEq, Repr

def Fault.message : Fault → String
  | unreadable => "Failed to read binary file"
  | unrecognized => "Failed to parse object file"
  | senseless => "Failed to load DWARF debug information"

/-- The debug sections of an ELF binary. -/
def sections (e : Elf) (image : Image) : Dwarf.Sections :=
  let content := e.debugSection image
  { order := e.layout.order
    abbrev' := content "abbrev", addr := content "addr", aranges := content "aranges"
    info := content "info", line := content "line", lineStr := content "line_str"
    ranges := content "ranges", rnglists := content "rnglists", str := content "str"
    strOffsets := content "str_offsets" }

def debugSections (binary : Binary) (image : Image) : Dwarf.Sections :=
  match binary with
  | .elf e => sections e image
  | .other _ => { order := .little }

def ofImage (image : Image) : Except Fault DebugFile :=
  match Binary.read? image with
  | none => .error .unrecognized
  | some binary =>
    match Dwarf.DebugInfo.read? (debugSections binary image) with
    | none => .error .senseless
    | some info => .ok ⟨binary.isRelocatable, info⟩

variable {m : Type → Type} [Monad m]

def openFile (machine : Machine m) (path : String) : m (Except Fault DebugFile) := do
  match ← machine.readFile path with
  | .error _ => return .error .unreadable
  | .ok content => return ofImage content.toArray

/-- An address of the running program as it is in the binary. -/
def objectAddress (isRelocatable : Bool) (mapping : Mapping) (address : UInt64) : UInt64 :=
  if isRelocatable then address - mapping.start + mapping.offset else address

/-- The name that stands for a function without one. -/
def unknown : String := "<unknown>"

/-- The functions that an address of the binary is in, innermost first; there is always
one. -/
def resolve (f : DebugFile) (address : UInt64) : List SourceFrame :=
  match f.info.framesAt address.toNat with
  | [] => [⟨unknown, none⟩]
  | frames => frames.map fun frame => ⟨frame.function.getD unknown, frame.location⟩

/-- Whether the functions of an address are known at all. -/
def isKnown (frames : List SourceFrame) : Bool := frames.any (·.function ≠ unknown)

end DebugFile

end Profiling
