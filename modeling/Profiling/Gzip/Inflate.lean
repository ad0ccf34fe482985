import Profiling.Gzip.Bits

/-!
# Inflating

Compressed data is a sequence of blocks: stored bytes, or symbols of a fixed or a
transmitted prefix code. A symbol is a byte, the end of the block, or a copy of
bytes that were written before. Before the first byte lies a window of zeros.
-/

namespace Profiling.Gzip

/-- Base and extra bits of the copy lengths, from symbol 257. -/
def lengthCodes : List (Nat × Nat) :=
  [(3, 0), (4, 0), (5, 0), (6, 0), (7, 0), (8, 0), (9, 0), (10, 0), (11, 1), (13, 1), (15, 1),
   (17, 1), (19, 2), (23, 2), (27, 2), (31, 2), (35, 3), (43, 3), (51, 3), (59, 3), (67, 4),
   (83, 4), (99, 4), (115, 4), (131, 5), (163, 5), (195, 5), (227, 5), (258, 0)]

/-- Base and extra bits of the distances. -/
def distanceCodes : List (Nat × Nat) :=
  [(1, 0), (2, 0), (3, 0), (4, 0), (5, 1), (7, 1), (9, 2), (13, 2), (17, 3), (25, 3), (33, 4),
   (49, 4), (65, 5), (97, 5), (129, 6), (193, 6), (257, 7), (385, 7), (513, 8), (769, 8),
   (1025, 9), (1537, 9), (2049, 10), (3073, 10), (4097, 11), (6145, 11), (8193, 12),
   (12289, 12), (16385, 13), (24577, 13)]

/-- A number given by a base and extra bits. -/
def extended (codes : List (Nat × Nat)) (index : Nat) (src : BitSource) :
    Option (Nat × BitSource) := do
  let (base, extra) ← codes[index]?
  let (n, src) ← src.number extra
  some (base + n, src)

def copyBack (distance : Nat) : Nat → Array UInt8 → Array UInt8
  | 0, out => out
  | count + 1, out =>
    let b := if distance ≤ out.size then out.getD (out.size - distance) 0 else 0
    copyBack distance count (out.push b)

/-- Decodes symbols until the end of the block; every symbol takes a bit. -/
def inflateSymbols (literals distances : CodeTree) :
    Nat → BitSource → Array UInt8 → Option (BitSource × Array UInt8)
  | 0, _, _ => none
  | fuel + 1, src, out =>
    match literals.decode src with
    | none => none
    | some (symbol, src) =>
      if symbol < 256 then inflateSymbols literals distances fuel src (out.push symbol.toUInt8)
      else if symbol = 256 then some (src, out)
      else
        match extended lengthCodes (symbol - 257) src with
        | none => none
        | some (length, src) =>
          match distances.decode src with
          | none => none
          | some (code, src) =>
            match extended distanceCodes code src with
            | none => none
            | some (distance, src) =>
              inflateSymbols literals distances fuel src (copyBack distance length out)

def fixedLengths : List Nat :=
  List.replicate 144 8 ++ List.replicate 112 9 ++ List.replicate 24 7 ++ List.replicate 8 8

def fixedDistanceLengths : List Nat := List.replicate 32 5

/-- The order in which the lengths of the length code are sent. -/
def lengthOrder : List Nat :=
  [16, 17, 18, 0, 8, 7, 9, 6, 10, 5, 11, 4, 12, 3, 13, 2, 14, 1, 15]

def readNumbers (width : Nat) : Nat → BitSource → Option (List Nat × BitSource)
  | 0, src => some ([], src)
  | count + 1, src => do
    let (n, src) ← src.number width
    let (ns, src) ← readNumbers width count src
    some (n :: ns, src)

/-- Reads `missing` code lengths, in which 16 repeats the one before and 17 and 18
stand for runs of zeros. `done` holds those already read, last first. -/
def readLengths (code : CodeTree) :
    Nat → Nat → List Nat → BitSource → Option (List Nat × BitSource)
  | _, 0, done, src => some (done.reverse, src)
  | 0, _ + 1, _, _ => none
  | fuel + 1, missing + 1, done, src =>
    match code.decode src with
    | none => none
    | some (symbol, src) =>
      if symbol < 16 then readLengths code fuel missing (symbol :: done) src
      else
        let width := if symbol = 16 then 2 else if symbol = 17 then 3 else 7
        let least := if symbol = 18 then 11 else 3
        match src.number width with
        | none => none
        | some (n, src) =>
          match done, decide (symbol = 16) with
          | [], true => none
          | last :: _, true => run fuel missing done src (n + least) last
          | _, false => run fuel missing done src (n + least) 0
where
  run (fuel missing : Nat) (done : List Nat) (src : BitSource) (count value : Nat) :
      Option (List Nat × BitSource) :=
    if count ≤ missing + 1 then
      readLengths code fuel (missing + 1 - count) (List.replicate count value ++ done) src
    else none

/-- Reads the two codes at the head of a block that brings its own. -/
def readCodes (src : BitSource) : Option (CodeTree × CodeTree × BitSource) := do
  let (literals, src) ← src.number 5
  let (distances, src) ← src.number 5
  let (sent, src) ← src.number 4
  let (widths, src) ← readNumbers 3 (sent + 4) src
  let pairs := lengthOrder.zip widths
  let lengthCode ← CodeTree.ofLengths false
    ((List.range 19).map fun symbol => (pairs.lookup symbol).getD 0)
  let total := literals + 257 + (distances + 1)
  let (lengths, src) ← readLengths lengthCode total total [] src
  let literalCode ← CodeTree.ofLengths true (lengths.take (literals + 257))
  let distanceCode ← CodeTree.ofLengths true (lengths.drop (literals + 257))
  some (literalCode, distanceCode, src)

def littleEndian (bytes : List UInt8) : Nat := bytes.foldr (fun b n => b.toNat + 256 * n) 0

/-- A stored block gives its length twice, the second time with all bits flipped. -/
def inflateStored (src : BitSource) (out : Array UInt8) : Option (BitSource × Array UInt8) :=
  let bytes := src.aligned
  let length := littleEndian (bytes.take 2)
  let flipped := littleEndian ((bytes.drop 2).take 2)
  let content := bytes.drop 4
  if bytes.length < 4 ∨ length + flipped ≠ 65535 ∨ content.length < length then none
  else some (⟨[], content.drop length⟩, out ++ (content.take length).toArray)

def inflateBlock (src : BitSource) (out : Array UInt8) : Option (BitSource × Array UInt8) := do
  let (form, src) ← src.number 2
  match form with
  | 0 => inflateStored src out
  | 1 =>
    let literals ← CodeTree.ofLengths true fixedLengths
    let distances ← CodeTree.ofLengths true fixedDistanceLengths
    inflateSymbols literals distances (src.size + 1) src out
  | 2 =>
    let (literals, distances, src) ← readCodes src
    inflateSymbols literals distances (src.size + 1) src out
  | _ => none

def inflateBlocks : Nat → BitSource → Array UInt8 → Option (BitSource × Array UInt8)
  | 0, _, _ => none
  | fuel + 1, src, out =>
    match src.bit with
    | none => none
    | some (last, src) =>
      match inflateBlock src out with
      | none => none
      | some (src, out) => if last then some (src, out) else inflateBlocks fuel src out

/-- The data that a compressed stream stands for, and the bytes after the stream. -/
def inflate (input : List UInt8) : Option (List UInt8 × List UInt8) :=
  (inflateBlocks (8 * input.length + 1) (.ofBytes input) #[]).map fun (src, out) =>
    (out.toList, src.aligned)

/-- Stored blocks of at most `blockLimit` bytes; the last one is marked. -/
def blockLimit : Nat := 65535

def littleEndianBytes : Nat → Nat → List UInt8
  | 0, _ => []
  | count + 1, n => (n % 256).toUInt8 :: littleEndianBytes count (n / 256)

def storedBlock (last : Bool) (content : List UInt8) : List UInt8 :=
  (if last then 1 else 0) :: (littleEndianBytes 2 content.length
    ++ littleEndianBytes 2 (65535 - content.length) ++ content)

/-- Writes data as stored blocks, of which there are at most `blocks + 1`. -/
def storeWithin : Nat → List UInt8 → List UInt8
  | 0, content => storedBlock true content
  | blocks + 1, content =>
    if content.length ≤ blockLimit then storedBlock true content
    else storedBlock false (content.take blockLimit)
      ++ storeWithin blocks (content.drop blockLimit)

def store (content : List UInt8) : List UInt8 :=
  storeWithin (content.length / blockLimit) content

end Profiling.Gzip
