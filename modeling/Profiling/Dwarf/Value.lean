import Profiling.Dwarf.Input

/-!
# Attributes

A part of a program is described by attributes. An abbreviation tells which attributes
come and in which form; the form tells how a value is written.
-/

namespace Profiling.Dwarf

open Object

/-- How values are written in a unit. -/
structure Encoding where
  version : Nat
  addressSize : Nat
  /-- The number of bytes of an offset. -/
  offsetSize : Nat
deriving DecidableEq, Repr

/-- A value by what it refers to. -/
inductive Value
  | address (n : Nat)
  | addressIndex (n : Nat)
  | number (n : Nat)
  | signed (n : Int)
  | sectionOffset (n : Nat)
  /-- A part of the same unit, by its offset in the unit. -/
  | inUnit (offset : Nat)
  /-- A part of any unit, by its offset in the section. -/
  | inInfo (offset : Nat)
  | text (bytes : List UInt8)
  | textOffset (n : Nat)
  | lineTextOffset (n : Nat)
  | textIndex (n : Nat)
  | rangesIndex (n : Nat)
  | other
deriving DecidableEq, Repr

namespace Value

/-- A number that is not negative. -/
def number? : Value → Option Nat
  | number n => some n
  | signed n => if n < 0 then none else some n.toNat
  | _ => none

end Value

/-- An attribute's name and form, and its value where the form holds none. -/
structure Spec where
  name : Nat
  form : Nat
  constant : Int := 0
deriving DecidableEq, Repr

/-- Names of attributes. -/
inductive Attribute
  | name
  | stmtList
  | lowPc
  | highPc
  | language
  | compDir
  | abstractOrigin
  | specification
  | ranges
  | callColumn
  | callFile
  | callLine
  | linkageName
  | strOffsetsBase
  | addrBase
  | rnglistsBase
  | unknown
deriving DecidableEq, Repr

def Attribute.ofCode : Nat → Attribute
  | 0x03 => name
  | 0x10 => stmtList
  | 0x11 => lowPc
  | 0x12 => highPc
  | 0x13 => language
  | 0x1b => compDir
  | 0x31 => abstractOrigin
  | 0x47 => specification
  | 0x55 => ranges
  | 0x57 => callColumn
  | 0x58 => callFile
  | 0x59 => callLine
  | 0x6e => linkageName
  | 0x2007 => linkageName
  | 0x72 => strOffsetsBase
  | 0x73 => addrBase
  | 0x2133 => addrBase
  | 0x74 => rnglistsBase
  | 0x2132 => rnglistsBase
  | _ => unknown

/-- Attributes whose values of fixed size may be offsets. -/
def offsetNames (version : Nat) : List Nat :=
  [0x02, 0x10, 0x19, 0x2a, 0x2c, 0x40, 0x43, 0x79, 0x46, 0x48, 0x4a, 0x4d, 0x55] ++
    if version ≤ 3 then [0x38] else []

/-- Skips a block after its length. -/
def block (length : Reader Nat) : Reader Value := do
  Reader.skip (← length)
  return .other

/-- A number of fixed size, which may be an offset. -/
def fixed (e : Encoding) (name size : Nat) : Reader Value := do
  let n ← Reader.number size
  if size = e.offsetSize && (offsetNames e.version).contains name then return .sectionOffset n
  else return .number n

/-- Reads a value of a form. -/
def readForm (e : Encoding) (name form : Nat) : Reader Value :=
  open Reader in
  match form with
  | 0x01 => return .address (← number e.addressSize)
  | 0x03 => block (number 2)
  | 0x04 => block (number 4)
  | 0x05 => return .number (← number 2)
  | 0x06 => fixed e name 4
  | 0x07 => fixed e name 8
  | 0x08 => return .text (← text)
  | 0x09 => block unsigned
  | 0x0a => block byte
  | 0x0b => return .number (← byte)
  | 0x0c => do
    let _ ← byte
    return .other
  | 0x0d => return .signed (← signedNumber)
  | 0x0e => return .textOffset (← number e.offsetSize)
  | 0x0f => return .number (← unsigned)
  | 0x10 => return .inInfo (← number (if e.version = 2 then e.addressSize else e.offsetSize))
  | 0x11 => return .inUnit (← byte)
  | 0x12 => return .inUnit (← number 2)
  | 0x13 => return .inUnit (← number 4)
  | 0x14 => return .inUnit (← number 8)
  | 0x15 => return .inUnit (← unsigned)
  | 0x17 => return .sectionOffset (← number e.offsetSize)
  | 0x18 => block unsigned
  | 0x19 => return .other
  | 0x1a => return .textIndex (← unsigned)
  | 0x1b => return .addressIndex (← unsigned)
  | 0x1c => block (return 4)
  | 0x1d => block (return e.offsetSize)
  | 0x1e => block (return 16)
  | 0x1f => return .lineTextOffset (← number e.offsetSize)
  | 0x20 => block (return 8)
  | 0x22 => do
    let _ ← unsigned
    return .other
  | 0x23 => return .rangesIndex (← unsigned)
  | 0x24 => block (return 8)
  | 0x25 => return .textIndex (← byte)
  | 0x26 => return .textIndex (← number 2)
  | 0x27 => return .textIndex (← number 3)
  | 0x28 => return .textIndex (← number 4)
  | 0x29 => return .addressIndex (← byte)
  | 0x2a => return .addressIndex (← number 2)
  | 0x2b => return .addressIndex (← number 3)
  | 0x2c => return .addressIndex (← number 4)
  | 0x1f01 => return .addressIndex (← unsigned)
  | 0x1f02 => return .textIndex (← unsigned)
  | 0x1f20 => block (return e.offsetSize)
  | 0x1f21 => block (return e.offsetSize)
  | _ => fail

/-- Reads a value whose form may stand before it. -/
def readIndirect (e : Encoding) (name : Nat) : Nat → Nat → Reader Value
  | 0, _ => Reader.fail
  | fuel + 1, form => do
    if form = 0x16 then readIndirect e name fuel (← Reader.short) else readForm e name form

def readValue (e : Encoding) (spec : Spec) : Reader Value := fun input =>
  if spec.form = 0x21 then some (.signed spec.constant, input)
  else readIndirect e spec.name (input.stop + 1) spec.form input

/-- What kind of part an entry describes. -/
inductive Tag
  | subprogram
  | inlinedSubroutine
  | unknown
deriving DecidableEq, Repr

def Tag.ofCode : Nat → Tag
  | 0x2e => subprogram
  | 0x1d => inlinedSubroutine
  | _ => unknown

structure Abbreviation where
  code : Nat
  tag : Tag
  hasChildren : Bool
  specs : List Spec
deriving DecidableEq, Repr

def readSpecs : Nat → Reader (List Spec)
  | 0 => Reader.fail
  | fuel + 1 => do
    let name ← Reader.short
    let form ← Reader.short
    if name = 0 ∧ form = 0 then return []
    else if name = 0 ∨ form = 0 then Reader.fail
    else
      let constant ← if form = 0x21 then Reader.signedNumber else pure 0
      return { name, form, constant } :: (← readSpecs fuel)

/-- Reads abbreviations up to a zero. No code may come twice. -/
def readAbbreviations : Nat → List Abbreviation → Reader (List Abbreviation)
  | 0, _ => Reader.fail
  | fuel + 1, found => do
    let code ← Reader.unsigned
    if code = 0 then return found
    else
      let tag ← Reader.short
      let children ← Reader.byte
      if tag = 0 ∨ 1 < children then Reader.fail
      else
        let specs ← readSpecs (fuel + 1)
        if found.any (·.code = code) then Reader.fail
        else
          readAbbreviations fuel
            ({ code, tag := .ofCode tag, hasChildren := children = 1, specs } :: found)

/-- The abbreviations at an offset. -/
def abbreviations? (s : Sections) (offset : Nat) : Option (List Abbreviation) :=
  readAt s.abbrev' s.order offset (readAbbreviations (s.abbrev'.size + 1) [])

end Profiling.Dwarf
