import Profiling.Object.Image

/-!
# Binaries in other formats

Mach-O, PE, COFF and XCOFF binaries have no build id here and no debug information. All
that is read is whether the tables that their headers speak of are in the file.
-/

namespace Profiling.Object

/-- What is known of a binary in one of these formats. -/
structure Tables where
  /-- Whether addresses in it are relative to where it is loaded. -/
  isRelocatable : Bool
deriving DecidableEq, Repr

namespace Tables

/-- Whether a part of the file is there. -/
def has (image : Image) (offset size : Nat) : Bool := offset + size ≤ image.size

structure MachLayout where
  wide : Bool
  order : ByteOrder
deriving DecidableEq, Repr

def machLayout? (image : Image) : Option MachLayout :=
  match image.number? .big 4 0 with
  | some 0xfeedface => some ⟨false, .big⟩
  | some 0xcefaedfe => some ⟨false, .little⟩
  | some 0xfeedfacf => some ⟨true, .big⟩
  | some 0xcffaedfe => some ⟨true, .little⟩
  | _ => none

/-- Whether a command of a given size at an offset makes sense. -/
def machCommand (image : Image) (l : MachLayout) (offset size kind : Nat) : Option Bool := do
  let segment := if l.wide then 72 else 56
  let section' := if l.wide then 80 else 68
  if kind = (if l.wide then 0x19 else 1) then
    if size < segment then some false
    else
      let count ← image.number? l.order 4 (offset + segment - 8)
      some (segment + count * section' ≤ size)
  else if kind = 2 then
    if size < 24 then some false
    else
      let start ← image.number? l.order 4 (offset + 8)
      let count ← image.number? l.order 4 (offset + 12)
      some (has image start (count * if l.wide then 16 else 12))
  else some true

/-- Whether the commands up to the first that is broken off make sense. -/
def machCommands (image : Image) (l : MachLayout) (stop : Nat) : Nat → Nat → Bool
  | 0, _ => true
  | count + 1, offset =>
    match image.number? l.order 4 offset, image.number? l.order 4 (offset + 4) with
    | some kind, some size =>
      if stop < offset + 8 || size < 8 || stop < offset + size then true
      else
        (machCommand image l offset size kind).getD false &&
          machCommands image l stop count (offset + size)
    | _, _ => true

def mach? (image : Image) : Option Tables := do
  let l ← machLayout? image
  let header := if l.wide then 32 else 28
  if !has image 0 header then none
  else
    let kind ← image.number? l.order 4 12
    let count ← image.number? l.order 4 16
    let size ← image.number? l.order 4 20
    let makesSense :=
      !has image header size || machCommands image l (header + size) (min count size) header
    if makesSense then some ⟨kind = 6⟩ else none

/-- A table of symbols, if there is one, has a length of strings after it. -/
def coffSymbols (image : Image) (start count size : Nat) : Bool :=
  start = 0 || has image (start + count * size) 4

/-- The data directories and the section headers of a PE binary. -/
def pe? (image : Image) : Option Tables := do
  if image.number? .big 2 0 ≠ some 0x4d5a || !has image 0 64 then none
  else
    let headers ← image.number? .little 4 60
    let signature ← image.number? .big 4 headers
    let format ← image.number? .little 2 (headers + 24)
    let size ← match format with
      | 0x10b => some 96
      | 0x20b => some 112
      | _ => none
    let sections ← image.number? .little 2 (headers + 6)
    let given ← image.number? .little 2 (headers + 20)
    let flags ← image.number? .little 2 (headers + 22)
    let directories ← image.number? .little 4 (headers + 24 + size - 4)
    if signature = 0x50450000 && has image headers (24 + 96) && size ≤ given &&
        directories * 8 ≤ given - size && has image (headers + 24 + given) (sections * 40) then
      some ⟨flags / 0x2000 % 2 = 1⟩
    else none

def coffMachines : List Nat := [0xc401, 0x64aa, 0x41a6, 0x4ea6, 0x4c01, 0x6486]

def coff? (image : Image) : Option Tables := do
  if !coffMachines.contains (← image.number? .big 2 0) then none
  else
    let sections ← image.number? .little 2 2
    let symbols ← image.number? .little 4 8
    let count ← image.number? .little 4 12
    let optional ← image.number? .little 2 16
    if has image (20 + optional) (sections * 40) && coffSymbols image symbols count 18 then
      some ⟨false⟩
    else none

/-- The class of COFF binaries with many sections. -/
def bigClass : List UInt8 :=
  [0xc7, 0xa1, 0xba, 0xd1, 0xee, 0xba, 0xa9, 0x4b, 0xaf, 0x20, 0xfa, 0xf6, 0x6a, 0xa4, 0xdc, 0xb8]

def bigCoff? (image : Image) : Option Tables := do
  let start ← image.number? .big 6 0
  let named ← image.slice? 12 16
  let sections ← image.number? .little 4 44
  let symbols ← image.number? .little 4 48
  let count ← image.number? .little 4 52
  if start = 0xffff0200 && named.toList = bigClass && has image 56 (sections * 40) &&
      coffSymbols image symbols count 20 then
    some ⟨false⟩
  else none

def xcoff? (image : Image) : Option Tables := do
  let wide ← match image.number? .big 2 0 with
    | some 0x1df => some false
    | some 0x1f7 => some true
    | _ => none
  let sections ← image.number? .big 2 2
  let symbols ← image.number? .big (if wide then 8 else 4) 8
  let count ← image.number? .big 4 (if wide then 20 else 12)
  let optional ← image.number? .big 2 16
  let header := if wide then 24 else 20
  if has image 0 header && has image (header + optional) (sections * if wide then 72 else 40) &&
      coffSymbols image symbols count 18 then
    some ⟨false⟩
  else none

/-- Reads a binary in one of the formats. -/
def read? (image : Image) : Option Tables :=
  if image.size < 16 then none
  else mach? image <|> pe? image <|> coff? image <|> bigCoff? image <|> xcoff? image

end Tables

end Profiling.Object
