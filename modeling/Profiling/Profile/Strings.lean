import Profiling.Profile.Error
import Profiling.Wire.Message

/-!
# Texts by place in a table

Interning replaces each text of a profile by its place in a table that starts
with the empty text and grows as new texts come; resolving looks the places up
again. Resolving visits the texts in its own order, which decides the place
that is reported when several are out of range.
-/

namespace Profiling

/-- The texts met so far, in the order of their places. -/
abbrev StringTable := List String

namespace StringTable

/-- The table that every message starts from. -/
def initial : StringTable := [""]

def intern (s : String) : StateM StringTable Int64 := fun table =>
  match table.idxOf? s with
  | some i => (Int64.ofNat i, table)
  | none => (Int64.ofNat table.length, table ++ [s])

def get (table : StringTable) (index : Int64) : Except ProfileError String :=
  let found := if index < 0 then none else table[index.toInt.toNat]?
  match found with
  | some s => .ok s
  | none => .error (.malformed (.stringIndex index))

end StringTable

open StringTable (intern)

namespace ValueType

def intern (t : ValueType) : StateM StringTable Wire.ValueType := do
  let kind ← StringTable.intern t.kind
  let unit ← StringTable.intern t.unit
  return { kind, unit }

def resolve (table : StringTable) (t : Wire.ValueType) : Except ProfileError ValueType := do
  let kind ← table.get t.kind
  let unit ← table.get t.unit
  return { kind, unit }

end ValueType

namespace Label

def intern (l : Label) : StateM StringTable Wire.Label := do
  let key ← StringTable.intern l.key
  let text ← StringTable.intern l.text
  let numUnit ← StringTable.intern l.numUnit
  return { key, text, num := l.num, numUnit }

def resolve (table : StringTable) (l : Wire.Label) : Except ProfileError Label := do
  let key ← table.get l.key
  let text ← table.get l.text
  let numUnit ← table.get l.numUnit
  return { key, text, num := l.num, numUnit }

end Label

namespace Sample

def intern (s : Sample) : StateM StringTable Wire.Sample := do
  let labels ← s.labels.mapM Label.intern
  return { stack := s.stack, values := s.values, labels }

def resolve (table : StringTable) (s : Wire.Sample) : Except ProfileError Sample := do
  let labels ← s.labels.mapM (Label.resolve table)
  return { stack := s.stack, values := s.values, labels }

end Sample

namespace Mapping

def intern (m : Mapping) : StateM StringTable Wire.Mapping := do
  let file ← StringTable.intern m.file
  let buildId ← StringTable.intern m.buildId
  return { id := m.id, start := m.start, limit := m.limit, offset := m.offset, file, buildId,
           hasFunctions := m.hasFunctions, hasFilenames := m.hasFilenames,
           hasLineNumbers := m.hasLineNumbers, hasInlineFrames := m.hasInlineFrames }

def resolve (table : StringTable) (m : Wire.Mapping) : Except ProfileError Mapping := do
  let file ← table.get m.file
  let buildId ← table.get m.buildId
  return { id := m.id, start := m.start, limit := m.limit, offset := m.offset, file, buildId,
           hasFunctions := m.hasFunctions, hasFilenames := m.hasFilenames,
           hasLineNumbers := m.hasLineNumbers, hasInlineFrames := m.hasInlineFrames }

end Mapping

def Line.toWire (l : Line) : Wire.Line :=
  { functionId := l.functionId, line := l.line, column := l.column }

def Line.ofWire (l : Wire.Line) : Line :=
  { functionId := l.functionId, line := l.line, column := l.column }

def Location.toWire (l : Location) : Wire.Location :=
  { id := l.id, mappingId := l.mappingId, address := l.address,
    lines := l.lines.map Line.toWire, isFolded := l.isFolded }

def Location.ofWire (l : Wire.Location) : Location :=
  { id := l.id, mappingId := l.mappingId, address := l.address,
    lines := l.lines.map Line.ofWire, isFolded := l.isFolded }

namespace Function

def intern (f : Function) : StateM StringTable Wire.Function := do
  let name ← StringTable.intern f.name
  let systemName ← StringTable.intern f.systemName
  let filename ← StringTable.intern f.filename
  return { id := f.id, name, systemName, filename, startLine := f.startLine }

def resolve (table : StringTable) (f : Wire.Function) : Except ProfileError Function := do
  let name ← table.get f.name
  let systemName ← table.get f.systemName
  let filename ← table.get f.filename
  return { id := f.id, name, systemName, filename, startLine := f.startLine }

end Function

namespace Profile

def intern (p : Profile) : StateM StringTable Wire.Profile := do
  let sampleTypes ← p.sampleTypes.mapM ValueType.intern
  let periodType ← p.periodType.mapM ValueType.intern
  let samples ← p.samples.mapM Sample.intern
  let mappings ← p.mappings.mapM Mapping.intern
  let functions ← p.functions.mapM Function.intern
  let comments ← p.comments.mapM StringTable.intern
  let dropFrames ← StringTable.intern p.dropFrames
  let keepFrames ← StringTable.intern p.keepFrames
  let defaultSampleType ← StringTable.intern p.defaultSampleType
  return { sampleTypes, samples, mappings, locations := p.locations.map Location.toWire,
           functions, strings := [], dropFrames, keepFrames, timeNanos := p.timeNanos,
           durationNanos := p.durationNanos, periodType, period := p.period, comments,
           defaultSampleType }

/-- The message of a profile, with the table of its texts. -/
def toWire (p : Profile) : Wire.Profile :=
  let (message, table) := p.intern.run StringTable.initial
  { message with strings := table }

/-- The first text of a table has to be the empty one. -/
def checkTable : StringTable → Except ProfileError Unit
  | [] => .error (.malformed .noStringTable)
  | s :: _ => if s.isEmpty then .ok () else .error (.malformed .firstString)

def ofWire (w : Wire.Profile) : Except ProfileError Profile := do
  let table : StringTable := w.strings
  checkTable table
  let sampleTypes ← w.sampleTypes.mapM (ValueType.resolve table)
  let samples ← w.samples.mapM (Sample.resolve table)
  let mappings ← w.mappings.mapM (Mapping.resolve table)
  let functions ← w.functions.mapM (Function.resolve table)
  let defaultSampleType ← table.get w.defaultSampleType
  let comments ← w.comments.mapM table.get
  let dropFrames ← table.get w.dropFrames
  let keepFrames ← table.get w.keepFrames
  let periodType ← w.periodType.mapM (ValueType.resolve table)
  return { sampleTypes, defaultSampleType, samples, mappings,
           locations := w.locations.map Location.ofWire, functions, comments, dropFrames,
           keepFrames, timeNanos := w.timeNanos, durationNanos := w.durationNanos, periodType,
           period := w.period }

end Profile

end Profiling
