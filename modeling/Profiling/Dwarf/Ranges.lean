import Profiling.Dwarf.CompileUnit

/-!
# Ranges

Which addresses belong to a unit or to a part of it. Ranges stand in lists, or follow
from two attributes, or are listed for whole units in a table of their own.
-/

namespace Profiling.Dwarf

open Object

/-- The addresses from `start` up to `stop`, which is none of them. -/
structure Range where
  start : Nat
  stop : Nat
deriving DecidableEq, Repr

namespace Range

def contains (r : Range) (address : Nat) : Bool := r.start ≤ address && address < r.stop

def isEmpty (r : Range) : Bool := r.stop ≤ r.start

end Range

/-- The number of addresses of a size. -/
def addressCount (addressSize : Nat) : Nat := 1 <<< (8 * addressSize)

/-- An item of a list of ranges. -/
inductive RangeItem
  | base (address : Nat)
  /-- Both ends count from the base. -/
  | offsets (start stop : Nat)
  | range (r : Range)
deriving DecidableEq, Repr

namespace CompileUnit

/-- Addresses go around at the highest one. -/
def added (u : CompileUnit) (address n : Nat) : Nat :=
  (address + n) % addressCount u.encoding.addressSize

/-- Reads an item of an older list; nothing at its end. -/
def readPair (u : CompileUnit) : Reader (Option RangeItem) := do
  let start ← Reader.number u.encoding.addressSize
  let stop ← Reader.number u.encoding.addressSize
  if start = 0 ∧ stop = 0 then return none
  else if start + 1 = addressCount u.encoding.addressSize then return some (.base stop)
  else return some (.offsets start stop)

/-- Reads an item of a list in its newer form; nothing at its end. -/
def readItem (u : CompileUnit) (s : Sections) : Reader (Option RangeItem) := do
  let address : Reader Nat := Reader.number u.encoding.addressSize
  let indexed : Reader Nat := do
    Reader.lift (u.addressAt? s (← Reader.unsigned))
  match ← Reader.byte with
  | 0 => return none
  | 1 => return some (.base (← indexed))
  | 2 => return some (.range ⟨← indexed, ← indexed⟩)
  | 3 =>
    let start ← indexed
    return some (.range ⟨start, u.added start (← Reader.unsigned)⟩)
  | 4 => return some (.offsets (← Reader.unsigned) (← Reader.unsigned))
  | 5 => return some (.base (← address))
  | 6 => return some (.range ⟨← address, ← address⟩)
  | 7 =>
    let start ← address
    return some (.range ⟨start, u.added start (← Reader.unsigned)⟩)
  | _ => Reader.fail

/-- The address that stands for parts which were dropped when the binary was made. -/
def dropped (u : CompileUnit) : Nat :=
  addressCount u.encoding.addressSize - (if u.encoding.version ≤ 4 then 2 else 1)

/-- A range of a list counts unless it is empty or was dropped. -/
def counts (u : CompileUnit) (r : Range) : Bool := r.start ≠ u.dropped && !r.isEmpty

/-- The range of an item, given the base. -/
def rangeOf? (u : CompileUnit) (base : Nat) : RangeItem → Option Range
  | .base _ => none
  | .range r => some r
  | .offsets start stop =>
    if base = u.dropped then none else some ⟨u.added base start, u.added base stop⟩

/-- Reads a list of ranges up to its end, or the end of its section. -/
def readRanges (u : CompileUnit) (read : Reader (Option RangeItem)) :
    Nat → Nat → Reader (List Range)
  | 0, _ => Reader.fail
  | fuel + 1, base => do
    if ← Reader.isEmpty then return []
    else
      match ← read with
      | none => return []
      | some (.base b) => u.readRanges read fuel b
      | some item =>
        let rest ← u.readRanges read fuel base
        return ((u.rangeOf? base item).filter u.counts).toList ++ rest

/-- The list of ranges at an offset. -/
def rangesAt? (u : CompileUnit) (s : Sections) (offset : Nat) : Option (List Range) :=
  if u.encoding.version ≤ 4 then
    readAt s.ranges s.order offset (u.readRanges u.readPair (s.ranges.size + 1) u.bases.lowPc)
  else
    readAt s.rnglists s.order offset
      (u.readRanges (u.readItem s) (s.rnglists.size + 1) u.bases.lowPc)

/-- The offset of a list that is given by its index. -/
def listOffset? (u : CompileUnit) (s : Sections) (i : Nat) : Option Nat :=
  let size := u.encoding.offsetSize
  (readAt s.rnglists s.order (u.bases.rnglists + i * size) (Reader.number size)).map
    (u.bases.rnglists + ·)

end CompileUnit

/-- What attributes say about the addresses of a part. -/
structure Extent where
  low : Option Nat := none
  high : Option Nat := none
  size : Option Nat := none
  list : Option Nat := none
deriving DecidableEq, Repr

namespace Extent

def note (u : CompileUnit) (s : Sections) (x : Extent) : Attribute × Value → Option Extent
  | (.lowPc, value) => do
    match ← u.address? s value with
    | some n => some { x with low := n }
    | none => some x
  | (.highPc, value) => do
    match ← u.address? s value, value.number? with
    | some n, _ => some { x with high := n }
    | none, some n => some { x with size := n }
    | none, none => some x
  | (.ranges, .sectionOffset n) => some { x with list := some n }
  | (.ranges, .rangesIndex i) => do
    let n ← u.listOffset? s i
    some { x with list := some n }
  | (.ranges, _) => some { x with list := none }
  | _ => some x

def ofAttributes? (u : CompileUnit) (s : Sections) (attributes : Attributes) : Option Extent :=
  attributes.foldlM (note u s) {}

/-- The ranges of a part; a list goes before the two ends. -/
def ranges? (u : CompileUnit) (s : Sections) (x : Extent) : Option (List Range) :=
  match x with
  | { list := some offset, .. } =>
    (u.rangesAt? s offset).map fun ranges => ranges.filter (!·.isEmpty)
  | { low := some start, high := some stop, .. } => some ([⟨start, stop⟩].filter (!·.isEmpty))
  | { low := some start, size := some size, .. } =>
    some ([⟨start, (start + size) % 1 <<< 64⟩].filter (!·.isEmpty))
  | _ => some []

end Extent

/-- The ranges of a unit, which is given by its offset. They are read when they are
needed. -/
structure RangeTable where
  unit : Nat
  addressSize : Nat
  ranges : Input

namespace RangeTable

/-- Reads ranges up to where no whole one is left. -/
def readRanges (addressSize : Nat) : Nat → Reader (List Range)
  | 0 => Reader.fail
  | fuel + 1 => do
    let input ← get
    if input.stop < input.place + 2 * addressSize then return []
    else
      let start ← Reader.number addressSize
      let length ← Reader.number addressSize
      if start = 0 ∧ length = 0 ∨ start + 1 = addressCount addressSize then
        readRanges addressSize fuel
      else if addressCount addressSize ≤ start + length then Reader.fail
      else
        let rest ← readRanges addressSize fuel
        return if length = 0 then rest else ⟨start, start + length⟩ :: rest

def ranges? (t : RangeTable) : Option (List Range) :=
  (readRanges t.addressSize (t.ranges.stop + 1)).run' t.ranges

/-- Reads a table after its length. The ranges begin at a multiple of their size. -/
def readFields (lengthSize offsetSize : Nat) : Reader RangeTable := do
  let version ← Reader.number 2
  if version ≠ 2 ∧ version ≠ 3 then Reader.fail
  else
    let unit ← Reader.number offsetSize
    let addressSize ← Reader.addressSize
    if (← Reader.byte) ≠ 0 then Reader.fail
    else
      let size := 2 * addressSize
      let header := lengthSize + offsetSize + 4
      Reader.skip ((size - header % size) % size)
      return ⟨unit, addressSize, ← get⟩

def read : Reader RangeTable := do
  let (length, offsetSize) ← Reader.initialLength
  let part ← Reader.split length
  Reader.lift ((readFields (if offsetSize = 8 then 12 else 4) offsetSize).run' part)

def readAll : Nat → Reader (List RangeTable)
  | 0 => Reader.fail
  | fuel + 1 => do
    if ← Reader.isEmpty then return []
    else
      let table ← read
      return table :: (← readAll fuel)

def all? (s : Sections) : Option (List RangeTable) :=
  readAt s.aranges s.order 0 (readAll (s.aranges.size + 1))

end RangeTable

end Profiling.Dwarf
