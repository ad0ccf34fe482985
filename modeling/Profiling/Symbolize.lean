import Profiling.Config
import Profiling.DebugFile
import Profiling.Demangle
import Profiling.Profile.Functions
import Profiling.Provenance
import Profiling.Source
import Profiling.Symbolz

/-!
# Symbolization

Addresses get the names of functions: from the debug information of binaries on this
machine, and then from the servers that the profiles came from. What has names already
is left alone.
-/

namespace Profiling

/-- Whether an address of a mapping lacks names. -/
def Location.lacksLines (l : Location) (mapping : Mapping) : Bool :=
  l.mappingId == mapping.id && l.lines.isEmpty

namespace Symbolize

/-- Gives names to the locations of a mapping without any, one after the other. The names
are found from an address; interning them may change the profile. Tells how many
locations got lines. -/
def nameLocations (lines? : UInt64 → Profile → Option (List Line × Profile)) (mapping : Mapping)
    (p : Profile) : Nat × Profile :=
  let step (state : Nat × List Location × Profile) (l : Location) :
      Nat × List Location × Profile :=
    let (count, done, p) := state
    if l.lacksLines mapping then
      match lines? l.address p with
      | some (lines, p) => (count + 1, { l with lines } :: done, p)
      | none => (count, l :: done, p)
    else (count, l :: done, p)
  let (count, locations, p) := p.locations.foldl step (0, [], p)
  (count, { p with locations := locations.reverse })

/-- Changes the mapping at a position. -/
def setMapping (p : Profile) (i : Nat) (mapping : Mapping) : Profile :=
  { p with mappings := p.mappings.set i mapping }

def columnOf (n : Option UInt32) : Int64 := (n.elim 0 fun n => Int64.ofNat n.toNat)

/-- The line of a frame, with its function interned. -/
def internFrame (frame : SourceFrame) (p : Profile) : Line × Profile :=
  let file := (frame.location.bind (·.file)).getD ""
  let (functionId, p) := p.internFunction frame.function frame.function file
  ({ functionId, line := columnOf (frame.location.bind (·.line))
     column := columnOf (frame.location.bind (·.column)) }, p)

def internFrames : List SourceFrame → Profile → List Line × Profile
  | [], p => ([], p)
  | frame :: rest, p =>
    let (line, p) := internFrame frame p
    let (lines, p) := internFrames rest p
    (line :: lines, p)

/-- The lines of an address in a binary, if its functions are known. -/
def linesIn? (binary : DebugFile) (mapping : Mapping) (address : UInt64) (p : Profile) :
    Option (List Line × Profile) :=
  let frames := binary.resolve (DebugFile.objectAddress binary.isRelocatable mapping address)
  if DebugFile.isKnown frames then some (internFrames frames p) else none

variable {m : Type → Type} [Monad m]

/-- Names the addresses of the mapping at a position from its binary. -/
def nameFromFile (machine : Machine m) (mapping : Mapping) (i : Nat) (p : Profile) :
    m (Nat × Profile) := do
  if mapping.hasFunctions || mapping.file.isEmpty then return (0, p)
  else if !(← machine.isFile mapping.file) then return (0, p)
  else
    match ← DebugFile.openFile machine mapping.file with
    | .error _ => return (0, p)
    | .ok binary =>
      let (count, p) := nameLocations (linesIn? binary mapping) mapping p
      return (count, setMapping p i
        { mapping with
          hasFunctions := true, hasFilenames := true, hasLineNumbers := true
          hasInlineFrames := true })

/-- Does something with every mapping, each given with its position, and adds up. -/
def forMappings (name : Mapping → Nat → Profile → m (Nat × Profile)) :
    List Mapping → Nat → Profile → m (Nat × Profile)
  | [], _, p => return (0, p)
  | mapping :: rest, i, p => do
    let (first, p) ← name mapping i p
    let (others, p) ← forMappings name rest (i + 1) p
    return (first + others, p)

/-- Names what binaries on this machine know; tells how many locations got lines. -/
def fromFiles (machine : Machine m) (p : Profile) : m (Nat × Profile) :=
  forMappings (nameFromFile machine) p.mappings 0 p

/-- How long a server may take for an answer, and how long the transport waits for it. -/
structure Patience where
  timeout : Duration
  transport : Duration
  lasts : Source.transportTimeout timeout = .ok transport

/-- Half a minute. -/
def Patience.usual : Patience where
  timeout := .ofSeconds 30
  transport := .ofSeconds 35
  lasts := rfl

/-- The names that a server gives to addresses, if it answers. -/
def askNames (machine : Machine m) (patience : Patience) (url : Url) (addresses : List UInt64) :
    m (Option Symbolz.Names) := do
  match ← machine.exchange {
      url, post := some (Symbolz.request addresses), timeout := patience.transport } with
  | none => return none
  | some response =>
    if response.isFailure then return none
    else return response.body.map fun body => Symbolz.parse (String.ofList (Url.lossyText body))

/-- An address as it was where the profile came from. -/
def addressAt (origin : Origin) (mapping : Mapping) (address : UInt64) : UInt64 :=
  address - mapping.start + origin.start

/-- The line of an address that a server has named. -/
def lineFrom? (names : Symbolz.Names) (origin : Origin) (mapping : Mapping) (address : UInt64)
    (p : Profile) : Option (List Line × Profile) :=
  (names.get? (addressAt origin mapping address)).map fun raw =>
    let (functionId, p) := p.internFunction (Demangle.demangle raw) raw ""
    ([{ functionId }], p)

/-- Asks the origins in turn until one of them answers. -/
def nameFromOrigins (machine : Machine m) (patience : Patience) (mapping : Mapping) (i : Nat)
    (p : Profile) (addresses : List UInt64) : List Origin → m (Nat × Profile)
  | [] => return (0, p)
  | origin :: rest => do
    match Symbolz.endpoint? origin.source with
    | none => nameFromOrigins machine patience mapping i p addresses rest
    | some url =>
      match ← askNames machine patience url (addresses.map (addressAt origin mapping)) with
      | none => nameFromOrigins machine patience mapping i p addresses rest
      | some names =>
        let (count, p) := nameLocations (lineFrom? names origin mapping) mapping p
        return (count, setMapping p i { mapping with hasFunctions := true })

/-- Names the addresses of the mapping at a position from where it was seen. -/
def nameFromServers (machine : Machine m) (patience : Patience) (sources : Provenance)
    (mapping : Mapping) (i : Nat) (p : Profile) : m (Nat × Profile) :=
  let unnamed := p.locations.filter (·.lacksLines mapping)
  if mapping.hasFunctions || unnamed.isEmpty then return (0, p)
  else
    nameFromOrigins machine patience mapping i p (unnamed.map (·.address))
      (sources.sourcesFor mapping)

/-- Names what servers know; tells how many locations got lines. -/
def fromServers (machine : Machine m) (sources : Provenance) (p : Profile)
    (patience : Patience := .usual) : m (Nat × Profile) :=
  forMappings (nameFromServers machine patience sources) p.mappings 0 p

end Symbolize

/-- Names addresses in the ways that a mode has, binaries first. -/
def symbolize {m : Type → Type} [Monad m] (machine : Machine m) (mode : SymbolMode)
    (sources : Provenance) (p : Profile) (patience : Symbolize.Patience := .usual) :
    m Profile := do
  let p ← if mode.usesLocal then do
      let (_, p) ← Symbolize.fromFiles machine p
      pure p
    else pure p
  if mode.usesRemote && !sources.isEmpty then
    let (_, p) ← Symbolize.fromServers machine sources p patience
    return p
  else return p

end Profiling
