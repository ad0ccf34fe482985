import Profiling.Profile.Scale

/-!
# Units of measure

Times convert into times and sizes into sizes; every unit of a family is a whole
multiple of its finest one. Profiles that are to be combined are first brought to
the finest unit in use.
-/

namespace Profiling

/-- A unit under all its names, with the number of finest units it holds. -/
structure MeasureUnit where
  names : List String
  factor : Nat
deriving DecidableEq, Repr

namespace MeasureUnit

abbrev Family := List MeasureUnit

def times : Family :=
  [⟨["ns", "nanosecond"], 1⟩,
   ⟨["us", "microsecond"], 1000⟩,
   ⟨["ms", "millisecond"], 1000000⟩,
   ⟨["s", "sec", "second"], 1000000000⟩,
   ⟨["m", "min", "minute"], 60 * 1000000000⟩,
   ⟨["h", "hour"], 3600 * 1000000000⟩]

def sizes : Family :=
  [⟨["b", "byte"], 1⟩,
   ⟨["kb", "kbyte", "kilobyte"], 1 <<< 10⟩,
   ⟨["mb", "mbyte", "megabyte"], 1 <<< 20⟩,
   ⟨["gb", "gbyte", "gigabyte"], 1 <<< 30⟩,
   ⟨["tb", "tbyte", "terabyte"], 1 <<< 40⟩]

def families : List Family := [times, sizes]

/-- Lower case of the characters that unit names can be written with: the ASCII
letters, and the Kelvin sign for `k`. -/
def lower (c : Char) : Char := if c = '\u212a' then 'k' else c.toLower

/-- Case does not matter, and a plural `s` is taken off a name of more than two bytes. -/
def plainName (name : List Char) : List Char :=
  let name := name.map lower
  if 2 < (String.ofList name).utf8ByteSize ∧ name.getLast? = some 's' then name.dropLast else name

def Family.factor? (family : Family) (name : String) : Option Nat :=
  let plain := String.ofList (plainName name.toList)
  (family.find? (·.names.contains plain)).map (·.factor)

/-- Converts a value between two units of one family; a unit that is not known
only converts into itself. -/
def convert (value : Binary64) (source target : String) : Option Binary64 :=
  if source = target then some value
  else
    families.findSome? fun family => do
      let f ← family.factor? source
      let t ← family.factor? target
      some ((value.mul (.ofNat f)).div (.ofNat t))

def sameFamily (a b : String) : Bool :=
  families.any fun family => (family.factor? a).isSome && (family.factor? b).isSome

end MeasureUnit

namespace ValueType

/-- A kind of value may be given in the plural. -/
def singular (kind : String) : List Char := (kind.toList.reverse.dropWhile (· == 's')).reverse

/-- Whether values of one type can be converted into the other. -/
def convertible (a b : ValueType) : Bool :=
  singular a.kind == singular b.kind && (a.unit == b.unit || MeasureUnit.sameFamily a.unit b.unit)

def isFiner (a b : ValueType) : Bool :=
  match MeasureUnit.convert (.ofNat 1) a.unit b.unit with
  | some ratio => ratio.lt (.ofNat 1)
  | none => false

def finestOf : ValueType → List ValueType → Except Mismatch ValueType
  | finest, [] => .ok finest
  | finest, t :: ts =>
    if finest.convertible t then finestOf (if t.isFiner finest then t else finest) ts
    else .error (.valueTypes finest t)

/-- The finest of several convertible types; nothing when there are fewer than two. -/
def common : List ValueType → Except Mismatch (Option ValueType)
  | [] => .ok none
  | [_] => .ok none
  | t :: ts => (finestOf t ts).map some

end ValueType

namespace Profile

/-- The finest period type and the finest type of each value. -/
structure CommonTypes where
  period : Option ValueType
  values : List (Option ValueType)
deriving DecidableEq, Repr

/-- The types at one position of every profile. -/
def column (profiles : List Profile) (i : Nat) : List ValueType :=
  profiles.filterMap (·.sampleTypes[i]?)

def commonTypes (first : Profile) (profiles : List Profile) : Except Mismatch CommonTypes := do
  let period ← (ValueType.common (profiles.filterMap (·.periodType))).mapError .periodUnits
  let count := first.sampleTypes.length
  match profiles.find? (·.sampleTypes.length ≠ count) with
  | some p => .error (.sampleTypeCount count p.sampleTypes.length)
  | none =>
    let values ← (List.range count).mapM fun i =>
      (ValueType.common (column profiles i)).mapError .sampleUnits
    return { period, values }

def convertPeriod (common : Option ValueType) (p : Profile) : Profile :=
  match p.periodType, common with
  | some t, some finest =>
    let period := Binary64.ofInt p.period.toInt
    { p with
      period := ((MeasureUnit.convert period t.unit finest.unit).getD period).truncate
      periodType := some { t with unit := finest.unit } }
  | _, _ => p

def ratioTo (t : ValueType) (common : Option ValueType) : Binary64 :=
  match common with
  | some finest => (MeasureUnit.convert (.ofNat 1) t.unit finest.unit).getD (.ofNat 1)
  | none => .ofNat 1

def retype (t : ValueType) (common : Option ValueType) : ValueType :=
  match common with
  | some finest => { t with unit := finest.unit }
  | none => t

/-- Types beyond the common ones stay as they are. -/
def retypeEach : List ValueType → List (Option ValueType) → List ValueType
  | [], _ => []
  | ts, [] => ts
  | t :: ts, c :: cs => retype t c :: retypeEach ts cs

/-- A profile of which all is converted but the samples. -/
def retyped (common : CommonTypes) (p : Profile) : Profile :=
  { convertPeriod common.period p with sampleTypes := retypeEach p.sampleTypes common.values }

def convertTo (common : CommonTypes) (p : Profile) : Except ProfileError Profile :=
  (p.retyped common).scaleEach ((p.sampleTypes.zip common.values).map fun (t, c) => ratioTo t c)

/-- Brings profiles to common units. -/
def harmonize (profiles : List Profile) : Except ProfileError (List Profile) :=
  match profiles with
  | [] => .ok []
  | first :: _ =>
    match commonTypes first profiles with
    | .error cause => .error (.incompatible cause)
    | .ok common => profiles.mapM (convertTo common)

end Profile

end Profiling
