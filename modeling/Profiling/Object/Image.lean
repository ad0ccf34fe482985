/-!
# Images

The bytes of a binary, and the numbers that stand in them.
-/

namespace Profiling.Object

abbrev Image := Array UInt8

inductive ByteOrder
  | little
  | big
deriving DecidableEq, Repr

namespace ByteOrder

def value (order : ByteOrder) (bytes : List UInt8) : Nat :=
  match order with
  | little => bytes.foldr (fun b n => b.toNat + 256 * n) 0
  | big => bytes.foldl (fun n b => 256 * n + b.toNat) 0

end ByteOrder

namespace Image

/-- Part of an image, if it is all there. -/
def slice? (image : Image) (offset size : Nat) : Option Image :=
  if offset + size ≤ image.size then some (image.extract offset (offset + size)) else none

/-- A number of some bytes at an offset. -/
def number? (image : Image) (order : ByteOrder) (width offset : Nat) : Option Nat :=
  (image.slice? offset width).map fun bytes => order.value bytes.toList

/-- The bytes before the first zero in a part of an image. -/
def textBetween? (image : Image) (start stop : Nat) : Option (List UInt8) := do
  if stop < start then none
  else
    let bytes := (← image.slice? start (stop - start)).toList
    let text := bytes.takeWhile (· ≠ 0)
    if text.length < bytes.length then some text else none

end Image

end Profiling.Object
