import Profiling.Locate
import Profiling.Object.Elf
import Profiling.Object.Tables

/-!
# Binaries

A binary is recognized by its first bytes. What matters of it is its build id, and
whether the addresses in it are its own.
-/

namespace Profiling.Object

inductive Binary
  | elf (e : Elf)
  | other (t : Tables)

namespace Binary

def read? (image : Image) : Option Binary :=
  if image.size < 16 then none
  else if (image.slice? 0 4).any fun start => start.toList = Elf.magic then
    (Elf.read? image).map .elf
  else (Tables.read? image).map .other

def isRelocatable : Binary → Bool
  | elf e => e.isRelocatable
  | other t => t.isRelocatable

def hex (bytes : List UInt8) : String :=
  String.ofList (bytes.flatMap fun b =>
    [Nat.digitChar (b.toNat / 16), Nat.digitChar (b.toNat % 16)])

/-- The build id in hexadecimal; empty without one. -/
def buildId (binary : Binary) (image : Image) : String :=
  match binary with
  | elf e => hex ((e.buildId? image).getD [])
  | other _ => ""

end Binary

/-- Why a binary cannot be opened. -/
inductive Fault
  | unreadable (path : String)
  | unrecognized (path : String)
deriving DecidableEq, Repr

def Fault.message : Fault → String
  | unreadable path => "Failed to read " ++ path
  | unrecognized path => "Failed to parse object file " ++ path

variable {m : Type → Type} [Monad m]

/-- Opens the binary at a path under the name of that path. -/
def openFile (machine : Machine m) (path : String) : m (Except Fault ObjectFile) := do
  match ← machine.readFile path with
  | .error _ => return .error (.unreadable path)
  | .ok content =>
    let image := content.toArray
    match Binary.read? image with
    | none => return .error (.unrecognized path)
    | some binary => return .ok ⟨path, binary.buildId image⟩

/-- Opens binaries for any mapping. -/
def openAny (machine : Machine m) : OpenObject m := fun path _ =>
  return (← openFile machine path).toOption

end Profiling.Object
