import Profiling.Dwarf.CompileUnit

/-!
# Headers of line tables

A line table is written as a program. Its header tells how the program is to be read,
and has the directories and files that its rows refer to.
-/

namespace Profiling.Dwarf

open Object

/-- A file by its name and the index of its directory. -/
structure LineFile where
  name : Value
  directory : Nat := 0
deriving DecidableEq, Repr

structure LineHeader where
  encoding : Encoding
  minInstruction : Nat
  maxOperations : Nat
  lineBase : Int
  lineRange : Nat
  opcodeBase : Nat
  /-- How many operands the standard instructions have. -/
  operandCounts : List Nat
  directories : List Value
  files : List LineFile
  program : Input

/-- Reads texts up to an empty one. -/
def readTexts : Nat → Reader (List (List UInt8))
  | 0 => Reader.fail
  | fuel + 1 => do
    let text ← Reader.text
    if text.isEmpty then return []
    else return text :: (← readTexts fuel)

/-- Reads what follows a file's name: its directory, time and size. -/
def readFileFields (name : List UInt8) : Reader LineFile := do
  let directory ← Reader.unsigned
  let _ ← Reader.unsigned
  let _ ← Reader.unsigned
  return ⟨.text name, directory⟩

def readFiles : Nat → Reader (List LineFile)
  | 0 => Reader.fail
  | fuel + 1 => do
    let name ← Reader.text
    if name.isEmpty then return []
    else
      let file ← readFileFields name
      return file :: (← readFiles fuel)

/-- What a value of a file is about. -/
inductive FileContent
  | path
  | directory
  | other
deriving DecidableEq, Repr

def FileContent.ofCode : Nat → FileContent
  | 1 => path
  | 2 => directory
  | _ => other

/-- The forms that values of a file may have. -/
def fileForms : List Nat :=
  [0x03, 0x04, 0x05, 0x06, 0x07, 0x08, 0x09, 0x0a, 0x0b, 0x0c, 0x0d, 0x0e, 0x0f, 0x17, 0x1a,
    0x1d, 0x1e, 0x1f, 0x25, 0x26, 0x27, 0x28, 0x1f02, 0x1f21]

abbrev FileFormat := List (FileContent × Nat)

/-- Reads which values files have. Exactly one of them is the path. -/
def readFileFormat : Reader FileFormat := do
  let count ← Reader.byte
  let format ← Reader.times count do
    let content ← Reader.unsigned
    let form ← Reader.short
    return (FileContent.ofCode content, form)
  if (format.countP (·.1 = .path)) = 1 then return format else Reader.fail

/-- Reads the values of a file. -/
def readFormatted (e : Encoding) : FileFormat → LineFile → Reader LineFile
  | [], file => return file
  | (content, form) :: rest, file => do
    let value ← if fileForms.contains form then readForm e 0 form else Reader.fail
    match content with
    | .path => readFormatted e rest { file with name := value }
    | .directory =>
      readFormatted e rest { file with directory := value.number?.getD file.directory }
    | .other => readFormatted e rest file

/-- Reads files or directories after their format and number. Every one of them takes
some bytes unless the count is made up. -/
def readTable (e : Encoding) : Reader (List LineFile) := do
  let format ← readFileFormat
  let count ← Reader.unsigned
  let input ← get
  if input.stop - input.place < count then Reader.fail
  else Reader.times count (readFormatted e format ⟨.other, 0⟩)

namespace LineHeader

/-- Reads the directories and files. -/
def readNames (e : Encoding) : Reader (List Value × List LineFile) := do
  let input ← get
  if e.version ≤ 4 then
    let directories ← readTexts (input.stop + 1)
    return (directories.map .text, ← readFiles (input.stop + 1))
  else
    let directories ← Dwarf.readTable e
    return (directories.map (·.name), ← Dwarf.readTable e)

/-- Reads the fields after the header's length. -/
def readFields (e : Encoding) (program : Input) : Reader LineHeader := do
  let minInstruction ← Reader.byte
  let maxOperations ← if 4 ≤ e.version then Reader.byte else pure 1
  Reader.skip 1
  let lineBase := Reader.signed 8 (← Reader.byte)
  let lineRange ← Reader.byte
  let opcodeBase ← Reader.byte
  if minInstruction = 0 ∨ maxOperations = 0 ∨ lineRange = 0 ∨ opcodeBase = 0 then Reader.fail
  else
    let operandCounts ← Reader.times (opcodeBase - 1) Reader.byte
    let (directories, files) ← readNames e
    return { encoding := e, minInstruction, maxOperations, lineBase, lineRange, opcodeBase,
             operandCounts, directories, files, program }

/-- Reads a header from the part that holds its table after the length. -/
def readPart (addressSize offsetSize : Nat) : Reader LineHeader := do
  let version ← Reader.number 2
  if version < 2 ∨ 5 < version then Reader.fail
  else
    let addressSize ← if version = 5 then Reader.addressSize else pure addressSize
    let segmentSize ← if version = 5 then Reader.byte else pure 0
    if segmentSize ≠ 0 then Reader.fail
    else
      let length ← Reader.number offsetSize
      let fields ← Reader.split length
      let program ← get
      Reader.lift ((readFields ⟨version, addressSize, offsetSize⟩ program).run' fields)

def read (addressSize : Nat) : Reader LineHeader := do
  let (length, offsetSize) ← Reader.initialLength
  let part ← Reader.split length
  Reader.lift ((readPart addressSize offsetSize).run' part)

/-- The header at an offset, for a unit with addresses of a size. -/
def at? (s : Sections) (offset addressSize : Nat) : Option LineHeader :=
  readAt s.line s.order offset (read addressSize)

def directory? (h : LineHeader) (i : Nat) : Option Value :=
  if h.encoding.version ≤ 4 then (if i = 0 then none else h.directories[i - 1]?)
  else h.directories[i]?

end LineHeader

end Profiling.Dwarf
