import Profiling.Profile.Error

/-!
# Consistency

A profile is consistent when every sample has one value per sample type, the
numbers of its mappings, functions and locations are positive and distinct, and
every reference resolves. The check reports the first rule that is broken.
-/

namespace Profiling.Profile

/-- The first element for which something is wrong. -/
def firstFault (fault : α → Option Inconsistency) (xs : List α) : Option Inconsistency :=
  xs.findSome? fault

def valueFault (types : Nat) (s : Sample) : Option Inconsistency :=
  if s.values.length = types then none else some (.valueCount s.values.length types)

/-- Goes through numbered parts in order, with the numbers that came before;
`fault` looks at one part on its own. -/
def numberingFault (id : α → UInt64) (zero : Inconsistency) (twice : UInt64 → Inconsistency)
    (fault : α → Option Inconsistency) : List UInt64 → List α → Option Inconsistency
  | _, [] => none
  | seen, x :: xs =>
    if id x = 0 then some zero
    else if id x ∈ seen then some (twice (id x))
    else match fault x with
      | some f => some f
      | none => numberingFault id zero twice fault (id x :: seen) xs

def locationFault (mappings functions : List UInt64) (l : Location) : Option Inconsistency :=
  if l.mappingId ≠ 0 ∧ l.mappingId ∉ mappings then some (.locationMapping l.id l.mappingId)
  else
    (l.lines.find? (·.functionId ∉ functions)).map fun line =>
      .locationFunction l.id line.functionId

def stackFault (locations : List UInt64) (s : Sample) : Option Inconsistency :=
  (s.stack.find? (· ∉ locations)).map .sampleLocation

def mappingIds (p : Profile) : List UInt64 := p.mappings.map (·.id)

def functionIds (p : Profile) : List UInt64 := p.functions.map (·.id)

def locationIds (p : Profile) : List UInt64 := p.locations.map (·.id)

/-- The first rule that a profile breaks. -/
def fault? (p : Profile) : Option Inconsistency :=
  if p.sampleTypes = [] ∧ p.samples ≠ [] then some .noSampleTypes
  else
    firstFault (valueFault p.sampleTypes.length) p.samples
      <|> numberingFault Mapping.id .mappingZero .mappingTwice (fun _ => none) [] p.mappings
      <|> numberingFault Function.id .functionZero .functionTwice (fun _ => none) [] p.functions
      <|> numberingFault Location.id .locationZero .locationTwice
            (locationFault p.mappingIds p.functionIds) [] p.locations
      <|> firstFault (stackFault p.locationIds) p.samples

def checkValid (p : Profile) : Except ProfileError Unit :=
  match p.fault? with
  | some cause => .error (.invalid cause)
  | none => .ok ()

/-- Profiles can be combined when they measure the same things in the same units. -/
def compatible (p q : Profile) : Except ProfileError Unit :=
  if p.periodType ≠ q.periodType then
    .error (.incompatible (.periodTypes p.periodType q.periodType))
  else if p.sampleTypes ≠ q.sampleTypes then
    .error (.incompatible (.sampleTypes p.sampleTypes q.sampleTypes))
  else .ok ()

end Profiling.Profile
