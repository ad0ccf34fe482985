import Profiling.Wire.Varint

/-!
# Fields

A message is a sequence of fields, each a tag and a payload whose form the key
names. Reading splits a message into its fields without knowing what they mean;
a group is skipped as a whole, since no message here has one.
-/

namespace Profiling.Wire

inductive Payload
  | varint (n : UInt64)
  | fixed64
  | bytes (content : List UInt8)
  | group
  | fixed32
deriving DecidableEq, Repr

structure Field where
  tag : Nat
  payload : Payload
deriving DecidableEq, Repr

/-- The forms a key can name. -/
inductive Form
  | varint
  | fixed64
  | bytes
  | groupStart
  | groupEnd
  | fixed32
deriving DecidableEq, Repr

def Form.ofCode : Nat → Option Form
  | 0 => some .varint
  | 1 => some .fixed64
  | 2 => some .bytes
  | 3 => some .groupStart
  | 4 => some .groupEnd
  | 5 => some .fixed32
  | _ => none

/-- A key is a 32-bit number: the form in its low three bits, a positive tag above. -/
def readKey (input : List UInt8) : Option (Nat × Form × List UInt8) := do
  let (key, rest) ← readVarint input
  if key.toNat ≥ 1 <<< 32 then none
  else
    let form ← Form.ofCode (key.toNat % 8)
    if key.toNat / 8 = 0 then none else some (key.toNat / 8, form, rest)

def takeBytes (count : Nat) (input : List UInt8) : Option (List UInt8 × List UInt8) :=
  if count ≤ input.length then some (input.take count, input.drop count) else none

def readCounted (input : List UInt8) : Option (List UInt8 × List UInt8) := do
  let (count, rest) ← readVarint input
  takeBytes count.toNat rest

/-- Drops the payload of a field that is not a group. -/
def skipPlain (form : Form) (input : List UInt8) : Option (List UInt8) :=
  match form with
  | .varint => (readVarint input).map (·.2)
  | .fixed64 => (takeBytes 8 input).map (·.2)
  | .bytes => (readCounted input).map (·.2)
  | .fixed32 => (takeBytes 4 input).map (·.2)
  | .groupStart => none
  | .groupEnd => none

/-- Drops the rest of a group, given the tags of the groups that are open,
innermost first. Fields inside `depth` groups are refused. -/
def skipGroup (depth : Nat) : Nat → List Nat → List UInt8 → Option (List UInt8)
  | _, [], input => some input
  | 0, _ :: _, _ => none
  | fuel + 1, tag :: outer, input =>
    match readKey input with
    | none => none
    | some (inner, form, rest) =>
      match form with
      | .groupEnd => if inner = tag then skipGroup depth fuel outer rest else none
      | .groupStart =>
        if outer.length + 1 < depth then skipGroup depth fuel (inner :: tag :: outer) rest else none
      | form =>
        if outer.length + 1 < depth then
          match skipPlain form rest with
          | none => none
          | some rest => skipGroup depth fuel (tag :: outer) rest
        else none

def readPayload (depth tag : Nat) (form : Form) (input : List UInt8) :
    Option (Payload × List UInt8) :=
  match form with
  | .varint => (readVarint input).map fun (n, rest) => (.varint n, rest)
  | .fixed64 => (takeBytes 8 input).map fun (_, rest) => (.fixed64, rest)
  | .bytes => (readCounted input).map fun (content, rest) => (.bytes content, rest)
  | .groupStart => (skipGroup depth input.length [tag] input).map fun rest => (.group, rest)
  | .groupEnd => none
  | .fixed32 => (takeBytes 4 input).map fun (_, rest) => (.fixed32, rest)

/-- Reads up to `count` fields; every field takes at least one byte. -/
def readFieldsWithin (depth : Nat) : Nat → List UInt8 → Option (List Field)
  | _, [] => some []
  | 0, _ :: _ => none
  | count + 1, input => do
    let (tag, form, rest) ← readKey input
    let (payload, rest) ← readPayload depth tag form rest
    let fields ← readFieldsWithin depth count rest
    some (⟨tag, payload⟩ :: fields)

/-- Splits a message into its fields. Groups may nest up to `depth`. -/
def readFields (depth : Nat) (input : List UInt8) : Option (List Field) :=
  readFieldsWithin depth input.length input

def writeKey (tag code : Nat) : List UInt8 := writeVarint (8 * tag + code).toUInt64

def writeCounted (content : List UInt8) : List UInt8 :=
  writeVarint content.length.toUInt64 ++ content

/-- Writes a field; only numbers and byte strings are ever written. -/
def Field.write : Field → List UInt8
  | ⟨tag, .varint n⟩ => writeKey tag 0 ++ writeVarint n
  | ⟨tag, .bytes content⟩ => writeKey tag 2 ++ writeCounted content
  | _ => []

def writeFields (fields : List Field) : List UInt8 := fields.flatMap Field.write

/-- The payloads of the fields with a tag, in order. -/
def payloads (tag : Nat) (fields : List Field) : List Payload :=
  (fields.filter (·.tag = tag)).map (·.payload)

def Payload.varint? : Payload → Option UInt64
  | .varint n => some n
  | _ => none

def Payload.bytes? : Payload → Option (List UInt8)
  | .bytes content => some content
  | _ => none

def readVarintsWithin : Nat → List UInt8 → Option (List UInt64)
  | _, [] => some []
  | 0, _ :: _ => none
  | count + 1, input => do
    let (n, rest) ← readVarint input
    let ns ← readVarintsWithin count rest
    some (n :: ns)

/-- A repeated number stands in a field of its own or packed with others. -/
def Payload.varints? : Payload → Option (List UInt64)
  | .varint n => some [n]
  | .bytes content => readVarintsWithin content.length content
  | _ => none

/-- The number with a tag: the last one, or zero when there is none. -/
def number (tag : Nat) (fields : List Field) : Option UInt64 := do
  let numbers ← (payloads tag fields).mapM Payload.varint?
  some (numbers.getLast?.getD 0)

def signed (tag : Nat) (fields : List Field) : Option Int64 :=
  (number tag fields).map (·.toInt64)

def flag (tag : Nat) (fields : List Field) : Option Bool :=
  (number tag fields).map (· != 0)

def numbers (tag : Nat) (fields : List Field) : Option (List UInt64) :=
  ((payloads tag fields).mapM Payload.varints?).map List.flatten

def signeds (tag : Nat) (fields : List Field) : Option (List Int64) :=
  (numbers tag fields).map (·.map (·.toInt64))

def contents (tag : Nat) (fields : List Field) : Option (List (List UInt8)) :=
  (payloads tag fields).mapM Payload.bytes?

def texts (tag : Nat) (fields : List Field) : Option (List String) := do
  let contents ← contents tag fields
  contents.mapM fun content => String.fromUTF8? content.toByteArray

/-- The messages with a tag, each split into its fields. -/
def messages (depth tag : Nat) (fields : List Field) : Option (List (List Field)) := do
  let contents ← contents tag fields
  contents.mapM (readFields depth)

/-- A message that occurs once; the fields of a second occurrence are added to
those of the first. -/
def message? (depth tag : Nat) (fields : List Field) : Option (Option (List Field)) :=
  (messages depth tag fields).map fun found =>
    if found.isEmpty then none else some found.flatten

/-- Zero is not written. -/
def ofNumber (tag : Nat) (n : UInt64) : List Field :=
  if n = 0 then [] else [⟨tag, .varint n⟩]

def ofSigned (tag : Nat) (n : Int64) : List Field := ofNumber tag n.toUInt64

def ofFlag (tag : Nat) (b : Bool) : List Field := ofNumber tag (if b then 1 else 0)

/-- Repeated numbers are packed; an empty list is not written. -/
def ofNumbers (tag : Nat) (ns : List UInt64) : List Field :=
  if ns.isEmpty then [] else [⟨tag, .bytes (ns.flatMap writeVarint)⟩]

def ofSigneds (tag : Nat) (ns : List Int64) : List Field :=
  ofNumbers tag (ns.map (·.toUInt64))

def ofTexts (tag : Nat) (texts : List String) : List Field :=
  texts.map fun t => ⟨tag, .bytes t.toUTF8.toList⟩

def ofMessages (tag : Nat) (messages : List (List Field)) : List Field :=
  messages.map fun fields => ⟨tag, .bytes (writeFields fields)⟩

end Profiling.Wire
