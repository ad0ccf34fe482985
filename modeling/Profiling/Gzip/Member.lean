import Profiling.Gzip.Inflate
import Profiling.Profile.Error

/-!
# Gzip members

A member is a header, compressed data, and a trailer with the checksum and the
length of the data. Only the first member of a file is read. Members are written
with stored blocks.
-/

namespace Profiling.Gzip

def magic : List UInt8 := [0x1f, 0x8b]

def crcStep (c : UInt32) : UInt32 :=
  if c % 2 = 1 then (c >>> 1) ^^^ 0xedb88320 else c >>> 1

def crcByte (c : UInt32) (b : UInt8) : UInt32 :=
  (List.range 8).foldl (fun c _ => crcStep c) (c ^^^ b.toUInt32)

def crc32 (bytes : List UInt8) : UInt32 := bytes.foldl crcByte 0xffffffff ^^^ 0xffffffff

/-- Drops a text and the zero byte after it. -/
def dropText : List UInt8 → Except GzipError (List UInt8)
  | [] => .error .truncated
  | b :: rest => if b = 0 then .ok rest else dropText rest

def dropCount (count : Nat) (input : List UInt8) : Except GzipError (List UInt8) :=
  if count ≤ input.length then .ok (input.drop count) else .error .truncated

/-- Drops a field that starts with its length. -/
def dropCounted (input : List UInt8) : Except GzipError (List UInt8) := do
  let rest ← dropCount 2 input
  dropCount (littleEndian (input.take 2)) rest

def dropWhen (present : Bool) (drop : List UInt8 → Except GzipError (List UInt8))
    (input : List UInt8) : Except GzipError (List UInt8) :=
  if present then drop input else .ok input

/-- The checksum of a header is the low half of that of the bytes before it. -/
def checkHeader (header input : List UInt8) : Except GzipError (List UInt8) := do
  let rest ← dropCount 2 input
  let before := header.take (header.length - input.length)
  if littleEndian (input.take 2) = (crc32 before).toNat % 1 <<< 16 then .ok rest
  else .error .checksum

/-- Reads a header, which may carry an extra field, a file name, a comment and a
checksum, and gives back what follows it. -/
def dropHeader (input : List UInt8) : Except GzipError (List UInt8) := do
  let rest ← dropCount 10 input
  let flags := ((input[3]?).getD 0).toNat
  if input.take 2 ≠ magic ∨ input[2]? ≠ some 8 ∨ 32 ≤ flags then .error .header
  else
    let rest ← dropWhen (flags.testBit 2) dropCounted rest
    let rest ← dropWhen (flags.testBit 3) dropText rest
    let rest ← dropWhen (flags.testBit 4) dropText rest
    dropWhen (flags.testBit 1) (checkHeader input) rest

/-- The data of the first member. -/
def decompress (input : List UInt8) : Except GzipError (List UInt8) := do
  let body ← dropHeader input
  match inflate body with
  | none => .error .stream
  | some (content, rest) =>
    let _ ← dropCount 8 rest
    if littleEndian (rest.take 4) = (crc32 content).toNat
        ∧ littleEndian ((rest.drop 4).take 4) = content.length % 1 <<< 32 then .ok content
    else .error .checksum

def header : List UInt8 := magic ++ [8, 0, 0, 0, 0, 0, 0, 255]

def compress (content : List UInt8) : List UInt8 :=
  header ++ store content ++ littleEndianBytes 4 (crc32 content).toNat
    ++ littleEndianBytes 4 content.length

end Profiling.Gzip
