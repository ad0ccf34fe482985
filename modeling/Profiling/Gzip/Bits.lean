/-!
# Reading bits

The bits of a byte are taken from the lowest up. Codes of a prefix code come bit
by bit along a tree; other numbers have their lowest bit first.
-/

namespace Profiling.Gzip

/-- What is left of the input: bits of the current byte, then whole bytes. -/
structure BitSource where
  pending : List Bool
  bytes : List UInt8
deriving DecidableEq, Repr

namespace BitSource

def ofBytes (bytes : List UInt8) : BitSource := ⟨[], bytes⟩

def bitsOf (b : UInt8) : List Bool := (List.range 8).map fun i => b.toNat.testBit i

def bit : BitSource → Option (Bool × BitSource)
  | ⟨b :: pending, bytes⟩ => some (b, ⟨pending, bytes⟩)
  | ⟨[], byte :: bytes⟩ =>
    match bitsOf byte with
    | b :: pending => some (b, ⟨pending, bytes⟩)
    | [] => none
  | ⟨[], []⟩ => none

/-- A number of `count` bits, lowest first. -/
def number : Nat → BitSource → Option (Nat × BitSource)
  | 0, src => some (0, src)
  | count + 1, src => do
    let (b, src) ← src.bit
    let (n, src) ← number count src
    some (b.toNat + 2 * n, src)

/-- Drops the bits up to the next whole byte. -/
def aligned (src : BitSource) : List UInt8 := src.bytes

def size (src : BitSource) : Nat := src.pending.length + 8 * src.bytes.length

end BitSource

/-- A prefix code; an `empty` branch stands for codes that mean nothing. -/
inductive CodeTree
  | empty
  | leaf (symbol : Nat)
  | node (zero one : CodeTree)
deriving Repr

namespace CodeTree

def decode : CodeTree → BitSource → Option (Nat × BitSource)
  | .empty, _ => none
  | .leaf symbol, src => some (symbol, src)
  | .node zero one, src =>
    match src.bit with
    | none => none
    | some (false, src) => decode zero src
    | some (true, src) => decode one src

/-- Hands out codes from left to right: a symbol whose length is the current
depth takes the leaf here, a longer one goes further down. -/
def grow : Nat → Nat → List (Nat × Nat) → CodeTree × List (Nat × Nat)
  | _, _, [] => (.empty, [])
  | 0, _, (_, symbol) :: rest => (.leaf symbol, rest)
  | room + 1, depth, (length, symbol) :: rest =>
    if length = depth then (.leaf symbol, rest)
    else
      let (zero, left) := grow room (depth + 1) ((length, symbol) :: rest)
      let (one, left) := grow room (depth + 1) left
      (.node zero one, left)

/-- The symbols in use with their lengths, shortest first, equal lengths by symbol. -/
def byLength (lengths : List Nat) : List (Nat × Nat) :=
  (List.range 15).flatMap fun i => lengths.zipIdx.filter fun (length, _) => length = i + 1

/-- The share of all codes that is given out, in units of the longest code. -/
def weight (lengths : List Nat) : Nat :=
  ((lengths.filter (· ≠ 0)).map fun length => 1 <<< (15 - length)).foldr (· + ·) 0

/-- The canonical code with the given lengths. The code has to be complete,
unless `lone` allows it and at most one symbol is in use. -/
def ofLengths (lone : Bool) (lengths : List Nat) : Option CodeTree :=
  let used := byLength lengths
  if weight lengths = 1 <<< 15 ∨ (lone ∧ used.length ≤ 1) then some (grow 15 0 used).1 else none

end CodeTree

end Profiling.Gzip
