/-!
# Base-128 numbers

A number is written seven bits to the byte, low bits first; every byte but the
last has its high bit set. A reader takes at most ten bytes, and the tenth
holds the one bit that is left of a word.
-/

namespace Profiling.Wire

/-- Writes a number below 128 to the power `bytes + 1`. -/
def varintBytes : Nat → Nat → List UInt8
  | 0, n => [n.toUInt8]
  | bytes + 1, n =>
    if n < 128 then [n.toUInt8] else (n % 128 + 128).toUInt8 :: varintBytes bytes (n / 128)

def writeVarint (n : UInt64) : List UInt8 := varintBytes 9 n.toNat

/-- Reads a number of at most `bytes` bytes, the last of which is 0 or 1 when it
is the last that is allowed. -/
def readVarintWithin : Nat → List UInt8 → Option (Nat × List UInt8)
  | 0, _ => none
  | _, [] => none
  | bytes + 1, b :: rest =>
    if b < 128 then
      if bytes = 0 ∧ 2 ≤ b then none else some (b.toNat, rest)
    else
      (readVarintWithin bytes rest).map fun (n, rest) => (b.toNat - 128 + 128 * n, rest)

def readVarint (bytes : List UInt8) : Option (UInt64 × List UInt8) :=
  (readVarintWithin 10 bytes).map fun (n, rest) => (n.toUInt64, rest)

end Profiling.Wire
