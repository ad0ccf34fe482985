import Profiling.Wire.Field

/-!
# Profile messages

A profile as it is sent: texts stand once in a table, and every other part
refers to them by their place in it.
-/

namespace Profiling.Wire

structure ValueType where
  kind : Int64 := 0
  unit : Int64 := 0
deriving DecidableEq, Repr

structure Label where
  key : Int64 := 0
  text : Int64 := 0
  num : Int64 := 0
  numUnit : Int64 := 0
deriving DecidableEq, Repr

structure Sample where
  stack : List UInt64 := []
  values : List Int64 := []
  labels : List Label := []
deriving DecidableEq, Repr

structure Mapping where
  id : UInt64 := 0
  start : UInt64 := 0
  limit : UInt64 := 0
  offset : UInt64 := 0
  file : Int64 := 0
  buildId : Int64 := 0
  hasFunctions : Bool := false
  hasFilenames : Bool := false
  hasLineNumbers : Bool := false
  hasInlineFrames : Bool := false
deriving DecidableEq, Repr

structure Line where
  functionId : UInt64 := 0
  line : Int64 := 0
  column : Int64 := 0
deriving DecidableEq, Repr

structure Location where
  id : UInt64 := 0
  mappingId : UInt64 := 0
  address : UInt64 := 0
  lines : List Line := []
  isFolded : Bool := false
deriving DecidableEq, Repr

structure Function where
  id : UInt64 := 0
  name : Int64 := 0
  systemName : Int64 := 0
  filename : Int64 := 0
  startLine : Int64 := 0
deriving DecidableEq, Repr

structure Profile where
  sampleTypes : List ValueType := []
  samples : List Sample := []
  mappings : List Mapping := []
  locations : List Location := []
  functions : List Function := []
  strings : List String := []
  dropFrames : Int64 := 0
  keepFrames : Int64 := 0
  timeNanos : Int64 := 0
  durationNanos : Int64 := 0
  periodType : Option ValueType := none
  period : Int64 := 0
  comments : List Int64 := []
  defaultSampleType : Int64 := 0
deriving DecidableEq, Repr

def ValueType.fields (t : ValueType) : List Field :=
  ofSigned 1 t.kind ++ ofSigned 2 t.unit

def Label.fields (l : Label) : List Field :=
  ofSigned 1 l.key ++ ofSigned 2 l.text ++ ofSigned 3 l.num ++ ofSigned 4 l.numUnit

def Sample.fields (s : Sample) : List Field :=
  ofNumbers 1 s.stack ++ ofSigneds 2 s.values ++ ofMessages 3 (s.labels.map Label.fields)

def Mapping.fields (m : Mapping) : List Field :=
  ofNumber 1 m.id ++ ofNumber 2 m.start ++ ofNumber 3 m.limit ++ ofNumber 4 m.offset
    ++ ofSigned 5 m.file ++ ofSigned 6 m.buildId ++ ofFlag 7 m.hasFunctions
    ++ ofFlag 8 m.hasFilenames ++ ofFlag 9 m.hasLineNumbers ++ ofFlag 10 m.hasInlineFrames

def Line.fields (l : Line) : List Field :=
  ofNumber 1 l.functionId ++ ofSigned 2 l.line ++ ofSigned 3 l.column

def Location.fields (l : Location) : List Field :=
  ofNumber 1 l.id ++ ofNumber 2 l.mappingId ++ ofNumber 3 l.address
    ++ ofMessages 4 (l.lines.map Line.fields) ++ ofFlag 5 l.isFolded

def Function.fields (f : Function) : List Field :=
  ofNumber 1 f.id ++ ofSigned 2 f.name ++ ofSigned 3 f.systemName ++ ofSigned 4 f.filename
    ++ ofSigned 5 f.startLine

def Profile.fields (p : Profile) : List Field :=
  ofMessages 1 (p.sampleTypes.map ValueType.fields)
    ++ ofMessages 2 (p.samples.map Sample.fields)
    ++ ofMessages 3 (p.mappings.map Mapping.fields)
    ++ ofMessages 4 (p.locations.map Location.fields)
    ++ ofMessages 5 (p.functions.map Function.fields)
    ++ ofTexts 6 p.strings
    ++ ofSigned 7 p.dropFrames ++ ofSigned 8 p.keepFrames
    ++ ofSigned 9 p.timeNanos ++ ofSigned 10 p.durationNanos
    ++ ofMessages 11 (p.periodType.toList.map ValueType.fields)
    ++ ofSigned 12 p.period ++ ofSigneds 13 p.comments ++ ofSigned 14 p.defaultSampleType

def Profile.write (p : Profile) : List UInt8 := writeFields p.fields

/-- Groups may nest this deep in a profile message, and one less in each
message inside it. -/
def groupDepth : Nat := 100

def ValueType.ofFields? (fs : List Field) : Option ValueType := do
  some { kind := ← signed 1 fs, unit := ← signed 2 fs }

def Label.ofFields? (fs : List Field) : Option Label := do
  some { key := ← signed 1 fs, text := ← signed 2 fs, num := ← signed 3 fs,
         numUnit := ← signed 4 fs }

def Sample.ofFields? (fs : List Field) : Option Sample := do
  let labels ← messages (groupDepth - 2) 3 fs
  some { stack := ← numbers 1 fs, values := ← signeds 2 fs,
         labels := ← labels.mapM Label.ofFields? }

def Mapping.ofFields? (fs : List Field) : Option Mapping := do
  some { id := ← number 1 fs, start := ← number 2 fs, limit := ← number 3 fs,
         offset := ← number 4 fs, file := ← signed 5 fs, buildId := ← signed 6 fs,
         hasFunctions := ← flag 7 fs, hasFilenames := ← flag 8 fs,
         hasLineNumbers := ← flag 9 fs, hasInlineFrames := ← flag 10 fs }

def Line.ofFields? (fs : List Field) : Option Line := do
  some { functionId := ← number 1 fs, line := ← signed 2 fs, column := ← signed 3 fs }

def Location.ofFields? (fs : List Field) : Option Location := do
  let lines ← messages (groupDepth - 2) 4 fs
  some { id := ← number 1 fs, mappingId := ← number 2 fs, address := ← number 3 fs,
         lines := ← lines.mapM Line.ofFields?, isFolded := ← flag 5 fs }

def Function.ofFields? (fs : List Field) : Option Function := do
  some { id := ← number 1 fs, name := ← signed 2 fs, systemName := ← signed 3 fs,
         filename := ← signed 4 fs, startLine := ← signed 5 fs }

def parts (tag : Nat) (ofFields? : List Field → Option α) (fs : List Field) : Option (List α) := do
  let found ← messages (groupDepth - 1) tag fs
  found.mapM ofFields?

def Profile.ofFields? (fs : List Field) : Option Profile := do
  let periodType ← message? (groupDepth - 1) 11 fs
  some { sampleTypes := ← parts 1 ValueType.ofFields? fs
         samples := ← parts 2 Sample.ofFields? fs
         mappings := ← parts 3 Mapping.ofFields? fs
         locations := ← parts 4 Location.ofFields? fs
         functions := ← parts 5 Function.ofFields? fs
         strings := ← texts 6 fs
         dropFrames := ← signed 7 fs
         keepFrames := ← signed 8 fs
         timeNanos := ← signed 9 fs
         durationNanos := ← signed 10 fs
         periodType := ← periodType.mapM ValueType.ofFields?
         period := ← signed 12 fs
         comments := ← signeds 13 fs
         defaultSampleType := ← signed 14 fs }

/-- Reads a profile message. Fields with other tags are passed over. -/
def Profile.read? (input : List UInt8) : Option Profile := do
  let fs ← readFields groupDepth input
  Profile.ofFields? fs

end Profiling.Wire
