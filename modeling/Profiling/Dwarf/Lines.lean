import Profiling.Dwarf.LineHeader
import Profiling.Dwarf.Ranges
import Profiling.Url.Percent

/-!
# Lines

Which line of the source an address comes from. A line table's program makes rows of
rising addresses; the addresses from one row up to the next come from the row's line.
Rows that follow each other form a sequence, which ends at an address of its own.
-/

namespace Profiling.Dwarf

open Object

/-- A place in the source. Column zero is the left edge. -/
structure Location where
  file : Option String := none
  line : Option UInt32 := none
  column : Option UInt32 := none
deriving DecidableEq, Repr

structure Row where
  address : Nat
  file : Nat
  line : UInt32
  column : UInt32
deriving DecidableEq, Repr

/-- Rows for a range of addresses. -/
structure Sequence where
  range : Range
  rows : List Row
deriving DecidableEq, Repr

inductive Instruction
  | special (opcode : Nat)
  | copy
  | advance (operations : Nat)
  | advanceLine (by' : Int)
  | setFile (i : Nat)
  | setColumn (n : Nat)
  | advanceFixed (n : Nat)
  | setAddress (n : Nat)
  | defineFile (file : LineFile)
  | endSequence
  | nothing
deriving DecidableEq, Repr

namespace LineHeader

/-- The operations and lines that a special instruction advances by. -/
def specialAdvance (h : LineHeader) (opcode : Nat) : Nat × Int :=
  let n := opcode - h.opcodeBase
  (n / h.lineRange, h.lineBase + (n % h.lineRange : Nat))

/-- Reads an instruction that comes with its length. -/
def readExtended (h : LineHeader) : Reader Instruction := do
  match ← Reader.byte with
  | 1 => return .endSequence
  | 2 => return .setAddress (← Reader.number h.encoding.addressSize)
  | 3 =>
    if h.encoding.version ≤ 4 then return .defineFile (← readFileFields (← Reader.text))
    else return .nothing
  | 4 => do
    let _ ← Reader.unsigned
    return .nothing
  | _ => return .nothing

def readStandard (h : LineHeader) : Nat → Reader Instruction
  | 1 => return .copy
  | 2 => return .advance (← Reader.unsigned)
  | 3 => return .advanceLine (← Reader.signedNumber)
  | 4 => return .setFile (← Reader.unsigned)
  | 5 => return .setColumn (← Reader.unsigned)
  | 6 => return .nothing
  | 7 => return .nothing
  | 8 => return .advance (h.specialAdvance 255).1
  | 9 => return .advanceFixed (← Reader.number 2)
  | 10 => return .nothing
  | 11 => return .nothing
  | 12 => do
    let _ ← Reader.unsigned
    return .nothing
  | opcode => do
    let count ← Reader.lift h.operandCounts[opcode - 1]?
    let _ ← Reader.times count Reader.unsigned
    return .nothing

def readInstruction (h : LineHeader) : Reader Instruction := do
  let opcode ← Reader.byte
  if opcode = 0 then
    let part ← Reader.split (← Reader.unsigned)
    Reader.lift (h.readExtended.run' part)
  else if h.opcodeBase ≤ opcode then return .special opcode
  else h.readStandard opcode

def readInstructions (h : LineHeader) : Nat → Reader (List Instruction)
  | 0 => Reader.fail
  | fuel + 1 => do
    if ← Reader.isEmpty then return []
    else
      let instruction ← h.readInstruction
      return instruction :: (← h.readInstructions fuel)

def instructions? (h : LineHeader) : Option (List Instruction) :=
  (h.readInstructions (h.program.stop + 1)).run' h.program

end LineHeader

/-- What a program's instructions change. -/
structure LineState where
  address : Nat := 0
  /-- Which operation of the instruction at the address it is. -/
  operation : Nat := 0
  file : Nat := 1
  line : UInt64 := 1
  column : Nat := 0
  /-- Whether the code was dropped when the binary was made. -/
  isDropped : Bool := false
deriving DecidableEq, Repr

/-- What a program has made; everything newest first. -/
structure LineTrace where
  state : LineState := {}
  rows : List Row := []
  sequences : List Sequence := []
  defined : List LineFile := []
deriving Repr

namespace LineState

/-- A line does not go below zero. -/
def addLines (st : LineState) (n : Int) : LineState :=
  if n < 0 then { st with line := st.line - min st.line (.ofNat n.natAbs) }
  else { st with line := st.line + .ofNat n.toNat }

/-- Addresses do not go around. -/
def addAddress? (h : LineHeader) (st : LineState) (n : Nat) : Option LineState :=
  if st.address + n < addressCount h.encoding.addressSize then
    some { st with address := st.address + n }
  else none

def addOperations? (h : LineHeader) (st : LineState) (n : Nat) : Option LineState :=
  if st.isDropped then some st
  else if h.maxOperations = 1 then
    { st with operation := 0 }.addAddress? h (h.minInstruction * n % 1 <<< 64)
  else
    let n := (st.operation + n) % 1 <<< 64
    { st with operation := n % h.maxOperations }.addAddress? h
      (h.minInstruction * (n / h.maxOperations) % 1 <<< 64)

def row (st : LineState) : Row :=
  { address := st.address, file := st.file, line := st.line.toUInt32,
    column := .ofNat st.column }

/-- Addresses that go back, and the highest address, mark dropped code. -/
def setAddress (h : LineHeader) (st : LineState) (n : Nat) : LineState :=
  if n < st.address ∨ n + 1 = addressCount h.encoding.addressSize then
    { st with isDropped := true }
  else { st with address := n, operation := 0, isDropped := false }

end LineState

namespace LineTrace

/-- A later row for the same address replaces an earlier one. -/
def addRow (t : LineTrace) : LineTrace :=
  if t.state.isDropped then t
  else
    let row := t.state.row
    match t.rows with
    | last :: rest =>
      if last.address = row.address then { t with rows := row :: rest }
      else { t with rows := row :: t.rows }
    | [] => { t with rows := [row] }

/-- Rows become a sequence unless it would have no addresses. -/
def endSequence (t : LineTrace) : LineTrace :=
  if t.state.isDropped then { t with state := {} }
  else
    match t.rows.getLast? with
    | none => { t with state := {} }
    | some first =>
      let range : Range := ⟨first.address, t.state.address⟩
      let sequences :=
        if range.isEmpty then t.sequences else ⟨range, t.rows.reverse⟩ :: t.sequences
      { t with state := {}, rows := [], sequences }

def step? (h : LineHeader) (t : LineTrace) : Instruction → Option LineTrace
  | .special opcode => do
    let (operations, lines) := h.specialAdvance opcode
    let state ← (t.state.addLines lines).addOperations? h operations
    some (addRow { t with state })
  | .copy => some t.addRow
  | .advance n => do
    let state ← t.state.addOperations? h n
    some { t with state }
  | .advanceLine n => some { t with state := t.state.addLines n }
  | .setFile i => some { t with state := { t.state with file := i } }
  | .setColumn n => some { t with state := { t.state with column := n } }
  | .advanceFixed n =>
    if t.state.isDropped then some t
    else do
      let state ← { t.state with operation := 0 }.addAddress? h n
      some { t with state }
  | .setAddress n => some { t with state := t.state.setAddress h n }
  | .defineFile file => some { t with defined := file :: t.defined }
  | .endSequence => some t.endSequence
  | .nothing => some t

end LineTrace

/-- Whether a path begins at a root, with a given separator after a drive. -/
def hasRoot (separator : Char) : List Char → Bool
  | c :: ':' :: d :: _ => c = separator || d = separator && c.val < 128
  | c :: _ => c = separator
  | [] => false

/-- A path after another one, unless it begins at a root. -/
def joined (base path : List Char) : List Char :=
  if hasRoot '/' path || hasRoot '\\' path then path
  else
    let separator := if hasRoot '\\' base then '\\' else '/'
    if base.isEmpty || base.getLast? = some separator then base ++ path
    else base ++ separator :: path

/-- The name of a file, from the directory that its unit was compiled in. -/
def fileName? (u : CompileUnit) (s : Sections) (h : LineHeader) (base : List Char)
    (file : LineFile) : Option String := do
  let directory ← match h.directory? file.directory with
    | some value =>
      if file.directory = 0 then some base
      else (u.text? s value).map fun bytes => joined base (Url.lossyText bytes)
    | none => some base
  let name ← u.text? s file.name
  some (.ofList (joined directory (Url.lossyText name)))

structure Lines where
  /-- By their index. -/
  files : List String
  /-- By their addresses. -/
  sequences : List Sequence
deriving DecidableEq, Repr

namespace Lines

/-- In older tables the first file has index one, and the unit itself index zero. -/
def files? (u : CompileUnit) (s : Sections) (h : LineHeader) (name comp : Option (List UInt8))
    (defined : List LineFile) : Option (List String) := do
  let base := Url.lossyText (comp.getD [])
  let named ← (h.files ++ defined).mapM (fileName? u s h base)
  if h.encoding.version ≤ 4 then
    match name with
    | none => some ("" :: named)
    | some bytes => some ((← fileName? u s h base ⟨.text bytes, 0⟩) :: named)
  else some (if named.isEmpty then [""] else named)

/-- Runs a program. -/
def ofHeader? (u : CompileUnit) (s : Sections) (h : LineHeader)
    (name comp : Option (List UInt8)) : Option Lines := do
  let trace ← (← h.instructions?).foldlM (LineTrace.step? h) {}
  let files ← files? u s h name comp trace.defined.reverse
  some ⟨files, trace.sequences.reverse.mergeSort fun a b => a.range.start ≤ b.range.start⟩

def ranges (l : Lines) : List Range := l.sequences.map (·.range)

/-- The sequence with an address: of those that begin before it the last one. -/
def sequence? (l : Lines) (address : Nat) : Option Sequence :=
  (l.sequences.takeWhile (·.range.start ≤ address)).getLast?.filter (·.range.contains address)

/-- The place of a row. Line zero stands for no line. -/
def place (l : Lines) (row : Row) : Location :=
  if row.line = 0 then { file := l.files[row.file]? }
  else { file := l.files[row.file]?, line := row.line, column := row.column }

def location? (l : Lines) (address : Nat) : Option Location := do
  let sequence ← l.sequence? address
  let row ← (sequence.rows.takeWhile (·.address ≤ address)).getLast?
  some (l.place row)

end Lines

end Profiling.Dwarf
