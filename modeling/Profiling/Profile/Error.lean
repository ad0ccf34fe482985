import Profiling.Profile.Basic

/-!
# What can be wrong with a profile

Each failure is named by its cause; `ProfileError.message` gives its wording.
-/

namespace Profiling

/-- Why compressed data cannot be read. -/
inductive GzipError
  | header
  | stream
  | checksum
  | truncated
deriving DecidableEq, Repr

def GzipError.message : GzipError → String
  | .header => "invalid gzip header"
  | .stream => "corrupt deflate stream"
  | .checksum => "corrupt gzip stream does not have a matching checksum"
  | .truncated => "unexpected end of file"

/-- Faults of profile data that is well formed as a message. -/
inductive Malformation
  | empty
  | noStringTable
  | firstString
  | stringIndex (index : Int64)
  | unknownLocation (id : UInt64)
  | unknownMapping (id : UInt64)
  | unknownFunction (id : UInt64)
deriving DecidableEq, Repr

def Malformation.message : Malformation → String
  | .empty => "empty input file"
  | .noStringTable => "missing string table"
  | .firstString => "string_table[0] must be ''"
  | .stringIndex i => "string index " ++ toString i.toInt ++ " out of range"
  | .unknownLocation id => "unknown location id " ++ toString id.toNat
  | .unknownMapping id => "unknown mapping id " ++ toString id.toNat
  | .unknownFunction id => "unknown function id " ++ toString id.toNat

/-- The first broken rule of a profile whose parts do not fit together. -/
inductive Inconsistency
  | noSampleTypes
  | valueCount (values types : Nat)
  | mappingZero
  | mappingTwice (id : UInt64)
  | functionZero
  | functionTwice (id : UInt64)
  | locationZero
  | locationTwice (id : UInt64)
  | locationMapping (id mapping : UInt64)
  | locationFunction (id function : UInt64)
  | sampleLocation (id : UInt64)
  | ratioCount (ratios types : Nat)
deriving DecidableEq, Repr

def Inconsistency.message : Inconsistency → String
  | .noSampleTypes => "missing sample type information"
  | .valueCount values types =>
    "mismatch: sample has " ++ toString values ++ " values vs. " ++ toString types ++ " types"
  | .mappingZero => "found mapping with reserved ID=0"
  | .mappingTwice id => "multiple mappings with same id: " ++ toString id.toNat
  | .functionZero => "found function with reserved ID=0"
  | .functionTwice id => "multiple functions with same id: " ++ toString id.toNat
  | .locationZero => "found location with reserved id=0"
  | .locationTwice id => "multiple locations with same id: " ++ toString id.toNat
  | .locationMapping id mapping =>
    "location id: " ++ toString id.toNat ++ " has unknown mapping id: " ++ toString mapping.toNat
  | .locationFunction id function =>
    "location id: " ++ toString id.toNat ++ " has unknown function id: " ++ toString function.toNat
  | .sampleLocation id => "sample references unknown location id: " ++ toString id.toNat
  | .ratioCount ratios types =>
    "mismatched scale ratios, got " ++ toString ratios ++ ", want " ++ toString types

/-- Why two profiles cannot be combined. -/
inductive Mismatch
  | periodTypes (a b : Option ValueType)
  | sampleTypes (a b : List ValueType)
  /-- Two value types that no factor relates. -/
  | valueTypes (a b : ValueType)
  | periodUnits (cause : Mismatch)
  | sampleUnits (cause : Mismatch)
  | sampleTypeCount (first other : Nat)
deriving DecidableEq, Repr

def Mismatch.label : String := "incompatible profiles: "

def Mismatch.message : Mismatch → String
  | .periodTypes a b => "incompatible period types " ++ render a ++ " and " ++ render b
  | .sampleTypes a b => "incompatible sample types [" ++ join a ++ "] and [" ++ join b ++ "]"
  | .valueTypes a b => "incompatible types: " ++ a.render ++ " " ++ b.render
  | .periodUnits cause => "period type: " ++ label ++ cause.message
  | .sampleUnits cause => "sample types: " ++ label ++ cause.message
  | .sampleTypeCount first other =>
    "inconsistent samples type count: " ++ toString first ++ " != " ++ toString other
where
  render : Option ValueType → String
    | none => "<none>"
    | some t => t.render
  join (types : List ValueType) : String :=
    " ".intercalate (types.map ValueType.render)

inductive ProfileError
  /-- The bytes are not a profile message. -/
  | decode
  | malformed (cause : Malformation)
  | invalid (cause : Inconsistency)
  | incompatible (cause : Mismatch)
  /-- A frame filter is not a regular expression. -/
  | frameFilter
  /-- There is nothing to merge. -/
  | empty
  | gzip (cause : GzipError)
deriving DecidableEq, Repr

/-- The wording of a failure; what is wrong with a message or with a filter is
not told. -/
def ProfileError.message : ProfileError → String
  | .decode => "failed to decode profile: <detail>"
  | .malformed cause => "malformed profile: " ++ cause.message
  | .invalid cause => "invalid profile: " ++ cause.message
  | .incompatible cause => Mismatch.label ++ cause.message
  | .frameFilter => "invalid frame filter: <detail>"
  | .empty => "no profiles to merge"
  | .gzip cause => cause.message

end Profiling
