/-!
# Sampled profiles

A profile is a list of samples, each a stack of locations with one value per
sample type. Samples, locations, mappings and functions refer to each other by
number, so a profile may be edited without relinking it. Nothing here requires
the references to resolve; `Profiling.Profile.Check` states when they do.
-/

namespace Profiling

/-- What a sample value counts, and in which unit. -/
structure ValueType where
  kind : String := ""
  unit : String := ""
deriving DecidableEq, Inhabited, Repr

/-- A tag of a sample, with a text or a number. -/
structure Label where
  key : String := ""
  text : String := ""
  num : Int64 := 0
  numUnit : String := ""
deriving DecidableEq, Inhabited, Repr

structure Sample where
  /-- Location numbers, leaf first. -/
  stack : List UInt64 := []
  values : List Int64 := []
  labels : List Label := []
deriving DecidableEq, Inhabited, Repr

/-- An address range of the measured process, backed by a binary image. -/
structure Mapping where
  id : UInt64 := 0
  start : UInt64 := 0
  limit : UInt64 := 0
  offset : UInt64 := 0
  file : String := ""
  buildId : String := ""
  hasFunctions : Bool := false
  hasFilenames : Bool := false
  hasLineNumbers : Bool := false
  hasInlineFrames : Bool := false
deriving DecidableEq, Inhabited, Repr

structure Line where
  functionId : UInt64 := 0
  line : Int64 := 0
  column : Int64 := 0
deriving DecidableEq, Inhabited, Repr

structure Location where
  id : UInt64 := 0
  /-- Zero when no mapping backs the location. -/
  mappingId : UInt64 := 0
  address : UInt64 := 0
  /-- Innermost inlined frame first. -/
  lines : List Line := []
  isFolded : Bool := false
deriving DecidableEq, Inhabited, Repr

structure Function where
  id : UInt64 := 0
  name : String := ""
  systemName : String := ""
  filename : String := ""
  startLine : Int64 := 0
deriving DecidableEq, Inhabited, Repr

structure Profile where
  sampleTypes : List ValueType := []
  defaultSampleType : String := ""
  samples : List Sample := []
  mappings : List Mapping := []
  locations : List Location := []
  functions : List Function := []
  comments : List String := []
  dropFrames : String := ""
  keepFrames : String := ""
  timeNanos : Int64 := 0
  durationNanos : Int64 := 0
  periodType : Option ValueType := none
  period : Int64 := 0
deriving DecidableEq, Inhabited, Repr

/-- A value type is written as its kind and its unit with a slash between them. -/
def ValueType.render (t : ValueType) : String := t.kind ++ "/" ++ t.unit

/-- Whether every value of a sample is zero; a sample without values is. -/
def Sample.isZero (s : Sample) : Bool := s.values.all (· == 0)

namespace Profile

def function? (p : Profile) (id : UInt64) : Option Function :=
  p.functions.find? (·.id == id)

end Profile

end Profiling
