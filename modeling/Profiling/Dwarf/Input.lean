import Profiling.Object.Image

/-!
# Reading debug information

Debug information is read from the front of a part of a section. The readers here are
those of numbers and texts; a reader fails where the part ends too early.
-/

namespace Profiling.Dwarf

open Object

/-- A part of a section and the place in it that is read next. -/
structure Input where
  bytes : Image
  order : ByteOrder
  place : Nat := 0
  /-- The part ends before this place. -/
  stop : Nat
deriving Repr

namespace Input

def ofSection (section' : Image) (order : ByteOrder) : Input :=
  { bytes := section', order, stop := section'.size }

def isEmpty (input : Input) : Bool := input.stop ≤ input.place

end Input

abbrev Reader := StateT Input Option

namespace Reader

def fail : Reader α := fun _ => none

def lift (x : Option α) : Reader α := fun input => x.map (·, input)

def isEmpty : Reader Bool := fun input => some (input.isEmpty, input)

def place : Reader Nat := fun input => some (input.place, input)

def skip (count : Nat) : Reader Unit := fun input =>
  if input.place + count ≤ input.stop then some ((), { input with place := input.place + count })
  else none

/-- A number of some bytes. -/
def number (width : Nat) : Reader Nat := fun input =>
  if input.place + width ≤ input.stop then
    (input.bytes.number? input.order width input.place).map
      (·, { input with place := input.place + width })
  else none

def byte : Reader Nat := number 1

/-- A part of a given length, to be read on its own. -/
def split (length : Nat) : Reader Input := fun input =>
  if input.place + length ≤ input.stop then
    some ({ input with stop := input.place + length },
      { input with place := input.place + length })
  else none

/-- Text up to a zero byte. -/
def text : Reader (List UInt8) := fun input =>
  (input.bytes.textBetween? input.place input.stop).map fun bytes =>
    (bytes, { input with place := input.place + bytes.length + 1 })

/-- A signed reading of a number of some bits. -/
def signed (bits n : Nat) : Int :=
  if n < 1 <<< (bits - 1) then n else (n : Int) - (1 <<< bits : Nat)

/-- A number in groups of seven bits, the low ones first; at most 64 bits in all. -/
def unsignedGroups : Nat → Nat → Nat → Reader Nat
  | 0, _, _ => fail
  | fuel + 1, shift, n => do
    let b ← byte
    if shift = 63 ∧ 1 < b then fail
    else
      let n := n + b % 128 * 1 <<< shift
      if b < 128 then return n else unsignedGroups fuel (shift + 7) n

def unsigned : Reader Nat := unsignedGroups 10 0 0

/-- As `unsigned`, for a number that may be negative: the last group gives the sign. -/
def signedGroups : Nat → Nat → Nat → Reader Int
  | 0, _, _ => fail
  | fuel + 1, shift, n => do
    let b ← byte
    if shift = 63 ∧ b ≠ 0 ∧ b ≠ 127 then fail
    else
      let n := (n + b % 128 * 1 <<< shift) % 1 <<< 64
      if 128 ≤ b then signedGroups fuel (shift + 7) n
      else if shift + 7 < 64 ∧ 64 ≤ b then
        return signed 64 ((n + 1 <<< 64 - 1 <<< (shift + 7)) % 1 <<< 64)
      else return signed 64 n

def signedNumber : Reader Int := signedGroups 10 0 0

/-- A number of at most 16 bits in groups. -/
def short : Reader Nat := do
  let n ← unsigned
  if n < 1 <<< 16 then return n else fail

/-- A length; long lengths come after a mark. Tells also how many bytes offsets have
after such a length. -/
def initialLength : Reader (Nat × Nat) := do
  let n ← number 4
  if n < 0xfffffff0 then return (n, 4)
  else if n = 0xffffffff then return (← number 8, 8)
  else fail

def addressSize : Reader Nat := do
  let n ← byte
  if n = 1 ∨ n = 2 ∨ n = 4 ∨ n = 8 then return n else fail

/-- Reads something as often as told. -/
def times : Nat → Reader α → Reader (List α)
  | 0, _ => return []
  | count + 1, read => do
    let x ← read
    return x :: (← times count read)

end Reader

/-- What a reader makes of a section from an offset on. -/
def readAt (section' : Image) (order : ByteOrder) (offset : Nat) (read : Reader α) : Option α :=
  (do Reader.skip offset; read : Reader α).run' (Input.ofSection section' order)

/-- The sections that debug information is in. -/
structure Sections where
  order : ByteOrder
  abbrev' : Image := #[]
  addr : Image := #[]
  aranges : Image := #[]
  info : Image := #[]
  line : Image := #[]
  lineStr : Image := #[]
  ranges : Image := #[]
  rnglists : Image := #[]
  str : Image := #[]
  strOffsets : Image := #[]

end Profiling.Dwarf
