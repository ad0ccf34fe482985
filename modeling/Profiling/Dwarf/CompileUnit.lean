import Profiling.Dwarf.Value

/-!
# Units

Debug information is a row of units, each with a tree of entries. The first entry of a
unit tells where the tables are that other entries count from.
-/

namespace Profiling.Dwarf

open Object

/-- What a unit is for. -/
inductive UnitKind
  | program
  /-- Entries that other units share. -/
  | fragment
  | types
deriving DecidableEq, Repr

/-- The places that a unit's indices and offsets count from. -/
structure Bases where
  strOffsets : Nat := 0
  addr : Nat := 0
  rnglists : Nat := 0
  lowPc : Nat := 0
deriving DecidableEq, Repr

structure UnitHeader where
  /-- Where the unit begins in its section. -/
  offset : Nat
  encoding : Encoding
  kind : UnitKind
  abbrevOffset : Nat
  /-- The unit's entries, and no others. -/
  entries : Input

structure CompileUnit extends UnitHeader where
  abbreviations : List Abbreviation
  bases : Bases := {}

namespace UnitHeader

/-- Skips what some kinds of units have before their entries. -/
def readKind (offsetSize : Nat) : Nat → Reader UnitKind
  | 1 => return .program
  | 2 => do
    Reader.skip (8 + offsetSize)
    return .types
  | 3 => return .fragment
  | 4 => do
    Reader.skip 8
    return .program
  | 5 => do
    Reader.skip 8
    return .program
  | 6 => do
    Reader.skip (8 + offsetSize)
    return .types
  | _ => Reader.fail

/-- Reads a header from the part that holds its unit after the length. -/
def readFields (offset offsetSize : Nat) : Reader UnitHeader := do
  let version ← Reader.number 2
  if version = 5 then
    let kind ← Reader.byte
    let addressSize ← Reader.addressSize
    let abbrevOffset ← Reader.number offsetSize
    let kind ← readKind offsetSize kind
    return ⟨offset, ⟨version, addressSize, offsetSize⟩, kind, abbrevOffset, ← get⟩
  else if 2 ≤ version ∧ version ≤ 4 then
    let abbrevOffset ← Reader.number offsetSize
    let addressSize ← Reader.addressSize
    return ⟨offset, ⟨version, addressSize, offsetSize⟩, .program, abbrevOffset, ← get⟩
  else Reader.fail

def read : Reader UnitHeader := do
  let offset ← Reader.place
  let (length, offsetSize) ← Reader.initialLength
  let part ← Reader.split length
  Reader.lift ((readFields offset offsetSize).run' part)

def readAll : Nat → Reader (List UnitHeader)
  | 0 => Reader.fail
  | fuel + 1 => do
    if ← Reader.isEmpty then return []
    else
      let header ← read
      return header :: (← readAll fuel)

/-- The headers of all units of a section. -/
def all? (s : Sections) : Option (List UnitHeader) :=
  readAt s.info s.order 0 (readAll (s.info.size + 1))

/-- The entries from an offset in the unit on. -/
def entriesFrom? (u : UnitHeader) (offset : Nat) : Option Input :=
  if u.entries.place ≤ u.offset + offset ∧ u.offset + offset < u.entries.stop then
    some { u.entries with place := u.offset + offset }
  else none

end UnitHeader

abbrev Attributes := List (Attribute × Value)

/-- One entry. Its depth tells how many entries it is inside of. -/
structure Entry where
  depth : Int
  tag : Tag
  hasChildren : Bool
  attributes : Attributes
deriving Repr

/-- The values of an entry, as its abbreviation describes them. -/
def readAttributes (e : Encoding) : List Spec → Reader Attributes
  | [] => return []
  | spec :: rest => do
    let value ← readValue e spec
    return (Attribute.ofCode spec.name, value) :: (← readAttributes e rest)

namespace CompileUnit

/-- Reads one entry; nothing where the row of entries at this depth ends. -/
def readEntry (u : CompileUnit) (depth : Int) : Reader (Option Entry) := do
  let code ← Reader.unsigned
  if code = 0 then return none
  else
    let abbreviation ← Reader.lift (u.abbreviations.find? (·.code = code))
    let attributes ← readAttributes u.encoding abbreviation.specs
    return some ⟨depth, abbreviation.tag, abbreviation.hasChildren, attributes⟩

/-- Reads entries up to the end of the unit. Tells also the depth there. -/
def readEntries (u : CompileUnit) : Nat → Int → Reader (List Entry × Int)
  | 0, _ => Reader.fail
  | fuel + 1, depth => do
    if ← Reader.isEmpty then return ([], depth)
    else
      match ← u.readEntry depth with
      | none => u.readEntries fuel (depth - 1)
      | some entry =>
        let (rest, last) ← u.readEntries fuel (if entry.hasChildren then depth + 1 else depth)
        return (entry :: rest, last)

def entries? (u : CompileUnit) : Option (List Entry × Int) :=
  (u.readEntries (u.entries.stop + 1) 0).run' u.toUnitHeader.entries

/-- The entry at an offset in the unit. -/
def entryAt? (u : CompileUnit) (offset : Nat) : Option Entry := do
  (← (u.readEntry 0).run' (← u.entriesFrom? offset))

/-- The first entry. -/
def root? (u : CompileUnit) : Option Entry := do
  (← (u.readEntry 0).run' u.toUnitHeader.entries)

def textAt? (section' : Image) (order : ByteOrder) (offset : Nat) : Option (List UInt8) :=
  readAt section' order offset Reader.text

/-- The text that a value stands for. -/
def text? (u : CompileUnit) (s : Sections) : Value → Option (List UInt8)
  | .text bytes => some bytes
  | .textOffset n => textAt? s.str s.order n
  | .lineTextOffset n => textAt? s.lineStr s.order n
  | .textIndex i => do
    let size := u.encoding.offsetSize
    textAt? s.str s.order
      (← readAt s.strOffsets s.order (u.bases.strOffsets + i * size) (Reader.number size))
  | _ => none

/-- An address of the unit's table of addresses. -/
def addressAt? (u : CompileUnit) (s : Sections) (i : Nat) : Option Nat :=
  let size := u.encoding.addressSize
  readAt s.addr s.order (u.bases.addr + i * size) (Reader.number size)

/-- The address that a value stands for. Fails only if an address is missing from the
table. -/
def address? (u : CompileUnit) (s : Sections) : Value → Option (Option Nat)
  | .address n => some (some n)
  | .addressIndex i => (u.addressAt? s i).map some
  | _ => some none

end CompileUnit

/-- The places that the first entry of a unit gives. -/
def Bases.ofAttributes (b : Bases) : Attributes → Bases
  | [] => b
  | (.strOffsetsBase, .sectionOffset n) :: rest => ofAttributes { b with strOffsets := n } rest
  | (.addrBase, .sectionOffset n) :: rest => ofAttributes { b with addr := n } rest
  | (.rnglistsBase, .sectionOffset n) :: rest => ofAttributes { b with rnglists := n } rest
  | _ :: rest => ofAttributes b rest

/-- The last value of a name, as later values replace earlier ones. -/
def Attributes.last? (attributes : Attributes) (wanted : Attribute) : Option Value :=
  (attributes.reverse.find? (·.1 = wanted)).map (·.2)

end Profiling.Dwarf
