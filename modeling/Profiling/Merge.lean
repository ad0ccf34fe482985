import Profiling.Profile.Check

/-!
# Merging

Mappings, functions, locations and samples of the sources are brought together
by what they describe, and the values of equal samples are added up. Tables tell
where each part of the merged profile is found, and where the parts of the
current source went. A mapping that was loaded elsewhere takes its addresses along.
-/

namespace Profiling

namespace Mapping

/-- Sizes that differ by less than a page are the same. -/
def pageSize : UInt64 := 0x1000

/-- The size of a mapping rounded up to whole pages, or to the last whole page
when that overflows. -/
def roundedSize (m : Mapping) : UInt64 :=
  let size := m.limit - m.start
  let raised := if size > 0 - pageSize then 18446744073709551615 else size + (pageSize - 1)
  raised - raised % pageSize

/-- A mapping is told by its build id, or by its file when it has none. -/
def image (m : Mapping) : String := if m.buildId.isEmpty then m.file else m.buildId

/-- What two mappings of one binary have in common wherever they are loaded. -/
structure Key where
  size : UInt64
  offset : UInt64
  image : String
deriving DecidableEq, Repr

def key (m : Mapping) : Key := ⟨m.roundedSize, m.offset, m.image⟩

end Mapping

namespace Function

structure Key where
  startLine : Int64
  name : String
  systemName : String
  filename : String
deriving DecidableEq, Repr

def key (f : Function) : Key := ⟨f.startLine, f.name, f.systemName, f.filename⟩

end Function

namespace Label

/-- Labels are ordered by key, text, number and unit, in that order. -/
def before (a b : Label) : Bool :=
  if a.key ≠ b.key then a.key < b.key
  else if a.text ≠ b.text then a.text < b.text
  else if a.num ≠ b.num then a.num < b.num
  else a.numUnit < b.numUnit

def insertSorted (l : Label) : List Label → List Label
  | [] => [l]
  | m :: ms => if m.before l then m :: insertSorted l ms else l :: m :: ms

def sorted (labels : List Label) : List Label := labels.foldr insertSorted []

end Label

namespace Merge

/-- Where a source mapping went: its number in the merged profile, and what is
added to its addresses. -/
structure Target where
  id : UInt64
  shift : UInt64
deriving DecidableEq, Repr

/-- What two locations of the merged profile cannot have in common. -/
structure LocationKey where
  mappingId : UInt64
  /-- Counted from the start of the mapping. -/
  address : UInt64
  lines : List Line
  isFolded : Bool
deriving DecidableEq, Repr

/-- The key of a merged location whose mapping starts at `start`. -/
def LocationKey.of (start : UInt64) (l : Location) : LocationKey :=
  ⟨l.mappingId, l.address - start, l.lines, l.isFolded⟩

/-- What two samples of the merged profile cannot have in common; the labels are sorted. -/
structure SampleKey where
  stack : List UInt64
  labels : List Label
deriving DecidableEq, Repr

def SampleKey.of (s : Sample) : SampleKey := ⟨s.stack, Label.sorted s.labels⟩

/-- The merged profile so far. The first four tables tell the number of each of its
mappings, functions and locations, and the place of each sample; the others tell where
the parts of the current source went. -/
structure State where
  out : Profile
  mappings : List (Mapping.Key × UInt64) := []
  functions : List (Function.Key × UInt64) := []
  locations : List (LocationKey × UInt64) := []
  samples : List (SampleKey × Nat) := []
  mappingsById : List (UInt64 × Target) := []
  functionsById : List (UInt64 × UInt64) := []
  locationsById : List (UInt64 × UInt64) := []
deriving DecidableEq, Repr

/-- Numbers of the merged profile count from one. -/
def idAt (index : Nat) : UInt64 := index.toUInt64 + 1

/-- Where the merged mapping with a number starts. -/
def State.startOf (s : State) (id : UInt64) : UInt64 :=
  (s.out.mappings[(id - 1).toNat]?).elim 0 Mapping.start

/-- Finds the merged mapping with the key of a source mapping, or adds one. -/
def placeMapping (s : State) (m : Mapping) : State × Target :=
  match s.mappings.lookup m.key with
  | some id => (s, ⟨id, s.startOf id - m.start⟩)
  | none =>
    let id := idAt s.out.mappings.length
    ({ s with
       out := { s.out with mappings := s.out.mappings ++ [{ m with id }] }
       mappings := (m.key, id) :: s.mappings }, ⟨id, 0⟩)

def mapMapping (s : State) (m : Mapping) : State × Target :=
  match s.mappingsById.lookup m.id with
  | some t => (s, t)
  | none =>
    let (s, t) := placeMapping s m
    ({ s with mappingsById := (m.id, t) :: s.mappingsById }, t)

/-- Finds the merged function with the key of a source function, or adds one. -/
def placeFunction (s : State) (f : Function) : State × UInt64 :=
  match s.functions.lookup f.key with
  | some id => (s, id)
  | none =>
    let id := idAt s.out.functions.length
    ({ s with
       out := { s.out with functions := s.out.functions ++ [{ f with id }] }
       functions := (f.key, id) :: s.functions }, id)

def mapFunction (s : State) (f : Function) : State × UInt64 :=
  match s.functionsById.lookup f.id with
  | some id => (s, id)
  | none =>
    let (s, id) := placeFunction s f
    ({ s with functionsById := (f.id, id) :: s.functionsById }, id)

/-- Of several parts with one number the last one is meant. -/
def lastWith (id : α → UInt64) (wanted : UInt64) (xs : List α) : Option α :=
  xs.reverse.find? fun x => id x = wanted

def mapLine (src : Profile) (s : State) (l : Line) : Except ProfileError (State × Line) :=
  match lastWith Function.id l.functionId src.functions with
  | none => .error (.malformed (.unknownFunction l.functionId))
  | some f =>
    let (s, functionId) := mapFunction s f
    .ok (s, { l with functionId })

/-- Runs a step over a list from left to right, with the state that it changes. -/
def mapAll (step : State → α → Except ProfileError (State × β)) :
    State → List α → Except ProfileError (State × List β)
  | s, [] => .ok (s, [])
  | s, x :: xs => do
    let (s, y) ← step s x
    let (s, ys) ← mapAll step s xs
    .ok (s, y :: ys)

/-- The merged number of a location's mapping, its shift, and where the merged
mapping starts; all zero without a mapping. -/
def mapBacking (src : Profile) (s : State) (l : Location) :
    Except ProfileError (State × Target × UInt64) :=
  if l.mappingId = 0 then .ok (s, ⟨0, 0⟩, 0)
  else
    match lastWith Mapping.id l.mappingId src.mappings with
    | none => .error (.malformed (.unknownMapping l.mappingId))
    | some m =>
      let (s, t) := mapMapping s m
      .ok (s, t, s.startOf t.id)

/-- Finds the merged location with the key of one, or adds it. -/
def placeLocation (s : State) (start : UInt64) (l : Location) : State × UInt64 :=
  let key := LocationKey.of start l
  match s.locations.lookup key with
  | some id => (s, id)
  | none =>
    let id := idAt s.out.locations.length
    ({ s with
       out := { s.out with locations := s.out.locations ++ [{ l with id }] }
       locations := (key, id) :: s.locations }, id)

def mapLocation (src : Profile) (s : State) (l : Location) :
    Except ProfileError (State × UInt64) :=
  match s.locationsById.lookup l.id with
  | some id => .ok (s, id)
  | none => do
    let (s, t, start) ← mapBacking src s l
    let (s, lines) ← mapAll (mapLine src) s l.lines
    let (s, id) := placeLocation s start
      { l with mappingId := t.id, address := l.address + t.shift, lines }
    .ok ({ s with locationsById := (l.id, id) :: s.locationsById }, id)

def mapFrame (src : Profile) (s : State) (id : UInt64) : Except ProfileError (State × UInt64) :=
  match lastWith Location.id id src.locations with
  | none => .error (.malformed (.unknownLocation id))
  | some l => mapLocation src s l

/-- Values beyond those of the other list stay as they are. -/
def addValues : List Int64 → List Int64 → List Int64
  | v :: vs, w :: ws => (v + w) :: addValues vs ws
  | vs, [] => vs
  | [], _ => []

/-- Adds a sample's values to the equal sample, or appends it. -/
def placeSample (s : State) (sample : Sample) : State :=
  let key := SampleKey.of sample
  match s.samples.lookup key with
  | some i =>
    let add (t : Sample) : Sample := { t with values := addValues t.values sample.values }
    { s with out := { s.out with samples := s.out.samples.modify i add } }
  | none =>
    { s with
      out := { s.out with samples := s.out.samples ++ [sample] }
      samples := (key, s.out.samples.length) :: s.samples }

def mapSample (src : Profile) (s : State) (sample : Sample) : Except ProfileError State := do
  let (s, stack) ← mapAll (mapFrame src) s sample.stack
  .ok (placeSample s { sample with stack })

/-- Forgets where the parts of the last source went. The first mapping of the first
source that has one comes first in the merged profile. -/
def startSource (s : State) (src : Profile) : State :=
  let s := { s with mappingsById := [], functionsById := [], locationsById := [] }
  match s.out.mappings, src.mappings with
  | [], main :: _ => (mapMapping s main).1
  | _, _ => s

def mapSource (s : State) (src : Profile) : Except ProfileError State :=
  (src.samples.filter (!·.isZero)).foldlM (mapSample src) (startSource s src)

/-- The earliest time; zero stands for a time that is not known. -/
def earlier (time other : Int64) : Int64 :=
  if time = 0 ∨ other < time then other else time

def longer (period other : Int64) : Int64 :=
  if period = 0 ∨ period < other then other else period

def addComment (comments : List String) (c : String) : List String :=
  if c ∈ comments then comments else comments ++ [c]

def orElseText (a b : String) : String := if a.isEmpty then b else a

def mergeHeader (out src : Profile) : Profile :=
  { out with
    timeNanos := earlier out.timeNanos src.timeNanos
    durationNanos := out.durationNanos + src.durationNanos
    period := longer out.period src.period
    comments := src.comments.foldl addComment out.comments
    dropFrames := orElseText out.dropFrames src.dropFrames
    keepFrames := orElseText out.keepFrames src.keepFrames }

/-- The merged profile without samples and what they refer to. -/
def headers (first : Profile) (srcs : List Profile) : Profile :=
  srcs.foldl mergeHeader
    { sampleTypes := first.sampleTypes, defaultSampleType := first.defaultSampleType,
      periodType := first.periodType }

/-- Brings the sources together once; samples may cancel out. -/
def pass (first : Profile) (rest : List Profile) : Except ProfileError Profile := do
  rest.forM first.compatible
  let s ← (first :: rest).foldlM mapSource { out := headers first (first :: rest) }
  return s.out

end Merge

/-- Merges profiles that measure the same things. When values cancel out, a
second pass drops the samples left with zeros and all that only they used. -/
def merge : List Profile → Except ProfileError Profile
  | [] => .error .empty
  | first :: rest => do
    let merged ← Merge.pass first rest
    if merged.samples.any Sample.isZero then Merge.pass merged [] else .ok merged

end Profiling
