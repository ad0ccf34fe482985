/-!
# Punycode

A label with characters beyond ASCII is written as its ASCII characters, a hyphen,
and a run of numbers: the others in ascending order, each as the distance from the
one before in the order of value and place.
-/

namespace Profiling.Url.Punycode

def digitChar (d : Nat) : Char :=
  if d < 26 then Char.ofNat ('a'.toNat + d) else Char.ofNat ('0'.toNat + (d - 26))

def digit? (c : Char) : Option Nat :=
  if 'a' ≤ c ∧ c ≤ 'z' then some (c.toNat - 'a'.toNat)
  else if 'A' ≤ c ∧ c ≤ 'Z' then some (c.toNat - 'A'.toNat)
  else if '0' ≤ c ∧ c ≤ '9' then some (c.toNat - '0'.toNat + 26)
  else none

/-- The least digit that ends a number at place `k`. -/
def threshold (k bias : Nat) : Nat :=
  if k ≤ bias then 1 else if bias + 26 ≤ k then 26 else k - bias

def adaptWithin : Nat → Nat → Nat → Nat
  | 0, delta, k => k + 36 * delta / (delta + 38)
  | fuel + 1, delta, k =>
    if 455 < delta then adaptWithin fuel (delta / 35) (k + 36)
    else k + 36 * delta / (delta + 38)

/-- The bias for the next number after a distance among `count` characters. -/
def adapt (delta count : Nat) (first : Bool) : Nat :=
  let halved := if first then delta / 700 else delta / 2
  adaptWithin 16 (halved + halved / count) 0

/-- Numbers stay below this. -/
def limit : Nat := 1 <<< 32

/-- Reads one number from place `k` on. -/
def readNumber (bias : Nat) : Nat → Nat → Nat → List Char → Option (Nat × List Char)
  | _, _, _, [] => none
  | k, n, weight, c :: cs =>
    match digit? c with
    | none => none
    | some d =>
      let n := n + d * weight
      let t := threshold k bias
      if limit ≤ n then none
      else if d < t then some (n, cs)
      else readNumber bias (k + 36) n (weight * (36 - t)) cs

def insertAt (c : Char) : Nat → List Char → List Char
  | 0, cs => c :: cs
  | _ + 1, [] => [c]
  | i + 1, d :: cs => d :: insertAt c i cs

/-- Reads numbers and puts in the characters that they stand for. The last one had
the value `code`, and the next comes at `place` or later. -/
def decodeWithin : Nat → Nat → Nat → Nat → List Char → List Char → Option (List Char)
  | _, _, _, _, out, [] => some out
  | 0, _, _, _, _, _ :: _ => none
  | fuel + 1, code, place, bias, out, input =>
    match readNumber bias 36 0 1 input with
    | none => none
    | some (delta, rest) =>
      let count := out.length + 1
      let total := place + delta
      let value := code + total / count
      if 0x10ffff < value ∨ (0xd800 ≤ value ∧ value ≤ 0xdfff) then none
      else
        decodeWithin fuel value (total % count + 1) (adapt delta count (place = 0))
          (insertAt (Char.ofNat value) (total % count) out) rest

/-- The part before the last hyphen, and what follows it. A hyphen that comes first
parts nothing. -/
def splitLastHyphen (cs : List Char) : List Char × List Char :=
  let after := (cs.reverse.takeWhile (· ≠ '-')).reverse
  let before := cs.take (cs.length - after.length - 1)
  if before.isEmpty then ([], cs) else (before, after)

def decode (cs : List Char) : Option (List Char) :=
  let (basic, rest) := splitLastHyphen cs
  if basic.all (·.toNat < 128) then decodeWithin rest.length 128 0 72 basic rest else none

def writeNumber (bias : Nat) : Nat → Nat → Nat → List Char
  | 0, _, q => [digitChar q]
  | fuel + 1, k, q =>
    let t := threshold k bias
    if q < t then [digitChar q]
    else digitChar (t + (q - t) % (36 - t)) :: writeNumber bias fuel (k + 36) ((q - t) / (36 - t))

structure EncodeState where
  delta : Nat
  bias : Nat
  handled : Nat
  /-- Last first. -/
  out : List Char

/-- Goes over the input once for the characters of one value. -/
def encodeValue (basic value : Nat) (s : EncodeState) : List Char → EncodeState
  | [] => s
  | c :: cs =>
    if c.toNat < value then encodeValue basic value { s with delta := s.delta + 1 } cs
    else if c.toNat = value then
      let number := writeNumber s.bias 32 36 s.delta
      encodeValue basic value
        { delta := 0, bias := adapt s.delta (s.handled + 1) (s.handled = basic),
          handled := s.handled + 1, out := number.reverse ++ s.out } cs
    else encodeValue basic value s cs

def least (values : List Nat) : Option Nat := values.min?

def encodeWithin (basic : Nat) (input : List Char) : Nat → Nat → EncodeState → EncodeState
  | 0, _, s => s
  | fuel + 1, code, s =>
    match least ((input.map (·.toNat)).filter (code ≤ ·)) with
    | none => s
    | some value =>
      let s := { s with delta := s.delta + (value - code) * (s.handled + 1) }
      let s := encodeValue basic value s input
      encodeWithin basic input fuel (value + 1) { s with delta := s.delta + 1 }

def encode (cs : List Char) : List Char :=
  let basic := cs.filter (·.toNat < 128)
  let start : EncodeState :=
    { delta := 0, bias := 72, handled := basic.length,
      out := if basic.isEmpty then [] else '-' :: basic.reverse }
  (encodeWithin basic.length cs cs.length 128 start).out.reverse

end Profiling.Url.Punycode
