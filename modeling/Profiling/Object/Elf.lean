import Profiling.Gzip.Inflate
import Profiling.Object.Image

/-!
# ELF

The headers of an ELF binary, its build id, and the content of its sections. The
headers have two widths and two byte orders.
-/

namespace Profiling.Object

namespace Elf

/-- How the numbers of a binary are written. -/
structure Layout where
  /-- Whether addresses have 64 bits. -/
  wide : Bool
  order : ByteOrder
deriving DecidableEq, Repr

structure Section where
  /-- The name; nothing if the header does not lead to one. -/
  name : Option (List UInt8)
  kind : Nat
  flags : Nat
  offset : Nat
  size : Nat
  link : Nat
  info : Nat
  align : Nat
deriving DecidableEq, Repr

structure Segment where
  kind : Nat
  offset : Nat
  size : Nat
  align : Nat
deriving DecidableEq, Repr

/-- The offsets of the fields of a file header. -/
structure HeaderFields where
  size : Nat
  segmentTable : Nat
  sectionTable : Nat
  segmentSize : Nat
  segmentCount : Nat
  sectionSize : Nat
  sectionCount : Nat
  nameIndex : Nat

def HeaderFields.of (l : Layout) : HeaderFields :=
  if l.wide then ⟨64, 32, 40, 54, 56, 58, 60, 62⟩ else ⟨52, 28, 32, 42, 44, 46, 48, 50⟩

def Layout.wordSize (l : Layout) : Nat := if l.wide then 8 else 4

def Layout.segmentSize (l : Layout) : Nat := if l.wide then 56 else 32

def Layout.sectionSize (l : Layout) : Nat := if l.wide then 64 else 40

def half? (image : Image) (l : Layout) (offset : Nat) : Option Nat :=
  image.number? l.order 2 offset

def long? (image : Image) (l : Layout) (offset : Nat) : Option Nat :=
  image.number? l.order 4 offset

def word? (image : Image) (l : Layout) (offset : Nat) : Option Nat :=
  image.number? l.order l.wordSize offset

def magic : List UInt8 := [0x7f, 0x45, 0x4c, 0x46]

/-- The layout that the first bytes tell, if it is one. -/
def layout? (image : Image) : Option Layout := do
  let wide ← match image.number? .little 1 4 with
    | some 1 => some false
    | some 2 => some true
    | _ => none
  let order ← match image.number? .little 1 5 with
    | some 1 => some .little
    | some 2 => some .big
    | _ => none
  let l : Layout := ⟨wide, order⟩
  if image.number? .little 1 6 = some 1 ∧ (HeaderFields.of l).size ≤ image.size then some l
  else none

/-- The header of a section without its name, and where the name is. -/
def readSection? (image : Image) (l : Layout) (at' : Nat) : Option (Nat × Section) := do
  let name ← long? image l at'
  let kind ← long? image l (at' + 4)
  let w := l.wordSize
  let flags ← word? image l (at' + 8)
  let offset ← word? image l (at' + 8 + 2 * w)
  let size ← word? image l (at' + 8 + 3 * w)
  let link ← long? image l (at' + 8 + 4 * w)
  let info ← long? image l (at' + 12 + 4 * w)
  let align ← word? image l (at' + 16 + 4 * w)
  some (name, { name := none, kind, flags, offset, size, link, info, align })

def readSegment? (image : Image) (l : Layout) (at' : Nat) : Option Segment := do
  let kind ← long? image l at'
  if l.wide then
    some ⟨kind, ← word? image l (at' + 8), ← word? image l (at' + 32), ← word? image l (at' + 48)⟩
  else
    some ⟨kind, ← word? image l (at' + 4), ← word? image l (at' + 16), ← word? image l (at' + 28)⟩

/-- The entries of a table, if all of it is there. -/
def readTable? (image : Image) (read? : Nat → Option α) (start size count : Nat) :
    Option (List α) :=
  if start + size * count ≤ image.size then
    (List.range count).mapM fun i => read? (start + size * i)
  else none

/-- The first section's header, which holds what the file header has no room for. -/
def sectionZero? (image : Image) (l : Layout) : Option (Option Section) := do
  let f := HeaderFields.of l
  let start ← word? image l f.sectionTable
  if start = 0 then some none
  else if (← half? image l f.sectionSize) ≠ l.sectionSize then none
  else (readSection? image l start).map fun (_, s) => some s

/-- A count or index that stands in the first section's header when it does not fit. -/
def extended? (image : Image) (l : Layout) (value : Nat) (isWithin : Bool)
    (field : Section → Nat) (missing : Option Nat) : Option Nat := do
  if isWithin then some value
  else
    match ← sectionZero? image l with
    | some s => some (field s)
    | none => missing

def readSegments? (image : Image) (l : Layout) : Option (List Segment) := do
  let f := HeaderFields.of l
  let start ← word? image l f.segmentTable
  if start = 0 then some []
  else
    let given ← half? image l f.segmentCount
    let count ← extended? image l given (given < 0xffff) (·.info) none
    if count = 0 then some []
    else if (← half? image l f.segmentSize) ≠ l.segmentSize then none
    else readTable? image (readSegment? image l) start l.segmentSize count

/-- The part of a file that a section's content takes. -/
def Section.range? (s : Section) : Option (Nat × Nat) :=
  if s.kind = 8 then none else some (s.offset, s.size)

def Section.content? (s : Section) (image : Image) : Option Image :=
  match s.range? with
  | none => some #[]
  | some (offset, size) => image.slice? offset size

/-- The section with the names of the others. -/
def nameSection? (image : Image) (l : Layout) (sections : List (Nat × Section)) :
    Option Section := do
  let given ← half? image l (HeaderFields.of l).nameIndex
  let index ← extended? image l given (given ≠ 0xffff) (·.link) none
  if index = 0 then none
  else
    let (_, names) ← sections[index]?
    match names.range? with
    | none => some names
    | some (offset, size) => if offset + size < 1 <<< 64 then some names else none

def nameAt? (image : Image) (names : Section) (offset : Nat) : Option (List UInt8) := do
  let (start, size) ← names.range?
  image.textBetween? (start + offset) (start + size)

def readSections? (image : Image) (l : Layout) : Option (List Section) := do
  let f := HeaderFields.of l
  let start ← word? image l f.sectionTable
  if start = 0 then some []
  else
    let given ← half? image l f.sectionCount
    let count ← extended? image l given (0 < given) (·.size) (some 0)
    if count = 0 then some []
    else if (← half? image l f.sectionSize) ≠ l.sectionSize then none
    else
      let sections ← readTable? image (readSection? image l) start l.sectionSize count
      let names ← nameSection? image l sections
      some (sections.map fun (name, s) => { s with name := nameAt? image names name })

/-- The strings that a section refers to. -/
def stringsMakeSense (sections : List Section) (link : Nat) : Bool :=
  link = 0 || match sections[link]? with
    | some s => s.kind = 3 && s.offset + s.size < 1 <<< 64
    | none => false

/-- The first section of a kind of symbols has content and strings, and so has each
section of long indices that belongs to it. -/
def symbolsMakeSense (image : Image) (sections : List Section) (kind : Nat) : Bool :=
  match sections.findIdx? (·.kind = kind) with
  | none => true
  | some i =>
    match sections[i]? with
    | none => true
    | some s =>
      (s.content? image).isSome && stringsMakeSense sections s.link &&
        sections.all fun t => t.kind ≠ 18 || t.link ≠ i || (t.content? image).isSome

def isRelocation (s : Section) : Bool := s.kind = 4 || s.kind = 9

/-- Relocations belong to a section that holds no relocations itself. -/
def relocationMakesSense (sections : List Section) (symbols : Nat) (s : Section) : Bool :=
  !isRelocation s || s.link ≠ symbols || s.info = 0 ||
    match sections[s.info]? with
    | some target => !isRelocation target
    | none => false

end Elf

structure Elf where
  layout : Elf.Layout
  /-- What the binary is, from the file header. -/
  kind : Nat
  segments : List Elf.Segment
  sections : List Elf.Section
deriving Repr

namespace Elf

def read? (image : Image) : Option Elf := do
  let l ← layout? image
  let segments ← readSegments? image l
  let sections ← readSections? image l
  let symbols := (sections.findIdx? (·.kind = 2)).getD 0
  if symbolsMakeSense image sections 2 && symbolsMakeSense image sections 11 &&
      sections.all (relocationMakesSense sections symbols) then
    some { layout := l, kind := ← half? image l 16, segments, sections }
  else none

/-- Whether the addresses in the binary are relative to where it is loaded. -/
def isRelocatable (e : Elf) : Bool := e.kind = 3

def aligned (offset align : Nat) : Nat := (offset + align - 1) / align * align

/-- The alignment of notes, if it is one. -/
def noteAlign? (align : Nat) : Option Nat :=
  if align ≤ 4 then some 4 else if align = 8 then some 8 else none

def gnu : List UInt8 := [0x47, 0x4e, 0x55]

/-- A name without the zero that ends it. -/
def noteName (name : List UInt8) : List UInt8 :=
  if name.getLast? = some 0 then name.dropLast else name

/-- The content of the first note with a build id. Nothing comes back where the notes
cannot be read. -/
def buildIdNote? (order : ByteOrder) (align : Nat) : Nat → Image → Option (Option (List UInt8))
  | 0, _ => some none
  | fuel + 1, notes =>
    if notes.isEmpty then some none
    else do
      let nameSize ← notes.number? order 4 0
      let contentSize ← notes.number? order 4 4
      let kind ← notes.number? order 4 8
      let name ← notes.slice? 12 nameSize
      let start := aligned (12 + nameSize) align
      let content ← notes.slice? start contentSize
      if noteName name.toList = gnu ∧ kind = 3 then some (some content.toList)
      else
        buildIdNote? order align fuel
          (notes.extract (aligned (start + contentSize) align) notes.size)

/-- The build id in a list of places for notes, each with its alignment. -/
def firstBuildId? (image : Image) (order : ByteOrder) :
    List (Option Image × Nat) → Option (List UInt8)
  | [] => none
  | (notes, align) :: rest => do
    let notes ← notes
    match ← buildIdNote? order (← noteAlign? align) image.size notes with
    | some id => some id
    | none => firstBuildId? image order rest

/-- The build id of a binary. Without sections it is looked for in the segments. -/
def buildId? (e : Elf) (image : Image) : Option (List UInt8) :=
  let notes :=
    if e.sections.isEmpty then
      (e.segments.filter (·.kind = 4)).map fun s => (image.slice? s.offset s.size, s.align)
    else (e.sections.filter (·.kind = 7)).map fun s => (s.content? image, s.align)
  firstBuildId? image e.layout.order notes

/-- The content of a stream in the zlib format. -/
def unzlib? (stream : List UInt8) : Option (List UInt8) := (Gzip.inflate (stream.drop 2)).map (·.1)

def isCompressed (s : Section) : Bool := s.flags / 2048 % 2 = 1

/-- The content of a section, expanded if it is compressed. -/
def expanded? (e : Elf) (image : Image) (s : Section) : Option Image := do
  let content ← s.content? image
  if isCompressed s && s.kind ≠ 8 then
    let header := if e.layout.wide then 24 else 12
    if (← content.number? e.layout.order 4 0) = 1 ∧ header ≤ content.size then
      (unzlib? (content.toList.drop header)).map (·.toArray)
    else none
  else some content

/-- The content of a section in the older form of compression. -/
def expandedOld? (image : Image) (s : Section) : Option Image := do
  let content := (← s.content? image).toList
  if [0x5a, 0x4c, 0x49, 0x42].isPrefixOf content then
    (unzlib? (content.drop 12)).map (·.toArray)
  else none

/-- The content of the debug section of a name; empty without one. -/
def debugSection (e : Elf) (image : Image) (name : String) : Image :=
  let wanted (mark : String) : Option (List UInt8) := some (mark ++ name).toUTF8.toList
  let section? (mark : String) := e.sections.find? fun s => s.name = wanted mark
  let found := match section? ".debug_" with
    | some s => e.expanded? image s
    | none => (section? ".zdebug_").bind (expandedOld? image)
  found.getD #[]

end Elf

end Profiling.Object
