import Profiling.Demangle
import Profiling.Dwarf.Functions
import Profiling.Dwarf.Lines

/-!
# Frames

What debug information tells of an address: the function that its code is in, and the
functions whose bodies stand in place of a call there, each with its place in the
source.
-/

namespace Profiling.Dwarf

open Object

structure Frame where
  function : Option String
  location : Option Location
deriving DecidableEq, Repr

/-- A unit with all that was read from it. -/
structure UnitCode where
  unit : CompileUnit
  language : Option Nat
  /-- Nothing where the functions make no sense. -/
  functions : Option (List FunctionRange)
  /-- Nothing where the lines make no sense; no lines without a table. -/
  lines : Option (Option Lines)

structure DebugInfo where
  /-- The ranges of units, by their addresses. -/
  units : List (Range × UnitCode)

/-- Names of the unit, and its line table. -/
structure UnitNames where
  name : Option (List UInt8)
  comp : Option (List UInt8)
  header : Option LineHeader

/-- A unit from its header, unless it makes no sense. -/
def openUnit? (s : Sections) (h : UnitHeader) : Option (CompileUnit × Entry × UnitNames) := do
  let abbreviations ← abbreviations? s h.abbrevOffset
  let u : CompileUnit := { h with abbreviations }
  let root ← u.root?
  let u := { u with bases := u.bases.ofAttributes root.attributes }
  let value? := root.attributes.last?
  let header ← match value? .stmtList with
    | some (.sectionOffset n) => (LineHeader.at? s n u.encoding.addressSize).map some
    | _ => some none
  let lowPc ← match value? .lowPc with
    | some value => u.address? s value
    | none => some none
  let names : UnitNames :=
    { name := (value? .name).bind (u.text? s), comp := (value? .compDir).bind (u.text? s), header }
  some ({ u with bases := { u.bases with lowPc := lowPc.getD 0 } }, root, names)

/-- The lines of a unit. -/
def linesOf (s : Sections) (u : CompileUnit) (names : UnitNames) : Option (Option Lines) :=
  match names.header with
  | none => some none
  | some h => (Lines.ofHeader? u s h names.name names.comp).map some

/-- The addresses of a unit: from its own entry, but those of the tables go before all
but a list. If there are none, they follow from the lines. -/
def unitRanges? (s : Sections) (tables : List RangeTable) (u : CompileUnit) (root : Entry)
    (lines : Option (Option Lines)) : Option (List Range) := do
  if u.kind = .fragment then some []
  else
    let extent ← Extent.ofAttributes? u s root.attributes
    let listed ←
      if extent.list.isSome then some []
      else ((tables.filter (·.unit = u.offset)).mapM RangeTable.ranges?).map List.flatten
    let own ← if listed.isEmpty then extent.ranges? u s else some listed
    some (if own.isEmpty then ((lines.join).map Lines.ranges).getD [] else own)

def languageOf (root : Entry) : Option Nat :=
  ((root.attributes.last? .language).bind Value.number?).filter (· < 1 <<< 16)

/-- Reads debug information. A header that makes no sense spoils it all; a unit that
makes no sense is left out. -/
def DebugInfo.read? (s : Sections) : Option DebugInfo := do
  let tables ← RangeTable.all? s
  let headers ← UnitHeader.all? s
  let opened := (headers.filter (·.kind ≠ .types)).filterMap (openUnit? s)
  let units := opened.map (·.1)
  let ranges ← opened.mapM fun (u, root, names) => do
    let lines := linesOf s u names
    let code : UnitCode :=
      ⟨u, languageOf root, functions? units s u, lines⟩
    let ranges ← unitRanges? s tables u root lines
    some (ranges.map (·, code))
  some ⟨ranges.flatten.mergeSort fun a b => a.1.start ≤ b.1.start⟩

def rust : Nat := 0x1c

/-- A name as it is in the source, for languages whose names are known. -/
def sourceName (language : Option Nat) (name : List UInt8) : String :=
  let raw := String.ofList (Url.lossyText name)
  match language with
  | none => (Demangle.demangle? raw).getD raw
  | some l => if l = rust then (Demangle.demangle? raw).getD raw else raw

def nonzero (n : UInt32) : Option UInt32 := if n = 0 then none else some n

namespace UnitCode

/-- Where a call was. -/
def callPlace (u : UnitCode) (call : InlinedCall) : Location :=
  { file := do (← u.lines.join).files[← call.file]?
    line := nonzero call.line
    column := nonzero call.column }

/-- The frames of inlined calls and of the function around them. The place of the next
frame out is where the call was. -/
def frames (u : UnitCode) (f : FunctionCode) :
    Option Location → List InlinedCall → List Frame
  | location, [] => [⟨f.name.map (sourceName u.language), location⟩]
  | location, call :: rest =>
    ⟨call.name.map (sourceName u.language), location⟩ :: u.frames f (some (u.callPlace call)) rest

/-- The frames of an address in a unit. Fails if the unit makes no sense there; empty if
it knows nothing about the address. -/
def framesAt? (u : UnitCode) (address : Nat) : Option (List Frame) := do
  let function ← match functionAt? (← u.functions) address with
    | some f => f.code.map some
    | none => some none
  let location := (← u.lines).bind (·.location? address)
  match function, location with
  | some f, location => some (u.frames f location (f.callsAt address))
  | none, some location => some [⟨none, some location⟩]
  | none, none => some []

end UnitCode

/-- The frames that the first of some units has which knows an address. -/
def firstFrames (address : Nat) : List UnitCode → List Frame
  | [] => []
  | u :: rest =>
    match u.framesAt? address with
    | none => []
    | some [] => firstFrames address rest
    | some frames => frames

namespace DebugInfo

/-- The frames of an address, innermost first. -/
def framesAt (d : DebugInfo) (address : Nat) : List Frame :=
  firstFrames address
    ((d.units.filter fun (range, _) => range.contains address).map (·.2)).reverse

end DebugInfo

end Profiling.Dwarf
