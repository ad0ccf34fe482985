import Profiling.Digits

/-!
# Percent-encoding

A byte that may not stand as it is in some part of a URL is written as a percent
sign and two hexadecimal digits. Which characters are written so depends on the part.
-/

namespace Profiling.Url

def hexDigit (n : Nat) : Char :=
  if n < 10 then Char.ofNat ('0'.toNat + n) else Char.ofNat ('A'.toNat + (n - 10))

def encodeByte (b : UInt8) : List Char := ['%', hexDigit (b.toNat / 16), hexDigit (b.toNat % 16)]

def utf8 (c : Char) : List UInt8 := (String.singleton c).toUTF8.toList

/-- Encodes the characters that are not ASCII, the control characters, and those of
`reserved`. -/
def encode (reserved : List Char) (cs : List Char) : List Char :=
  cs.flatMap fun c =>
    if c.toNat < 32 || 127 ≤ c.toNat || reserved.contains c then (utf8 c).flatMap encodeByte
    else [c]

def fragmentReserved : List Char := [' ', '"', '<', '>', '\x60']

def pathReserved : List Char := fragmentReserved ++ ['#', '?', '\x7b', '\x7d']

def userReserved : List Char :=
  pathReserved ++ ['/', ':', ';', '=', '@', '[', '\\', ']', '^', '|']

def queryReserved : List Char := [' ', '"', '#', '<', '>']

/-- The bytes of a text with percent-encoding undone; a percent sign without two
digits stands for itself. -/
def decode : List Char → List UInt8
  | '%' :: a :: b :: cs =>
    match Digits.read? 16 256 [a, b] with
    | some n => n.toUInt8 :: decode cs
    | none => '%'.toNat.toUInt8 :: decode (a :: b :: cs)
  | c :: cs => utf8 c ++ decode cs
  | [] => []

/-- How many bytes follow a leading byte, with the bounds of the first of them. -/
def followers (b : Nat) : Option (Nat × Nat × Nat) :=
  if b < 0x80 then some (0, 0, 0)
  else if 0xc2 ≤ b ∧ b ≤ 0xdf then some (1, 0x80, 0xbf)
  else if b = 0xe0 then some (2, 0xa0, 0xbf)
  else if b = 0xed then some (2, 0x80, 0x9f)
  else if 0xe1 ≤ b ∧ b ≤ 0xef then some (2, 0x80, 0xbf)
  else if b = 0xf0 then some (3, 0x90, 0xbf)
  else if b = 0xf4 then some (3, 0x80, 0x8f)
  else if 0xf1 ≤ b ∧ b ≤ 0xf3 then some (3, 0x80, 0xbf)
  else none

/-- Reads the bytes that follow a leading byte, of value `n` so far; without the
character it gives what is left after the bytes that could have begun one. -/
def continuation : Nat → Nat → Nat → Nat → List UInt8 → Option Char × List UInt8
  | 0, _, _, n, bytes => (some (Char.ofNat n), bytes)
  | _ + 1, _, _, _, [] => (none, [])
  | count + 1, least, most, n, b :: bytes =>
    if least ≤ b.toNat ∧ b.toNat ≤ most then
      continuation count 0x80 0xbf (64 * n + b.toNat % 64) bytes
    else (none, b :: bytes)

/-- Reads bytes as text; what is no character becomes a replacement character. -/
def readLossy : Nat → List UInt8 → List Char
  | _, [] => []
  | 0, _ :: _ => []
  | fuel + 1, b :: bytes =>
    match followers b.toNat with
    | none => '\ufffd' :: readLossy fuel bytes
    | some (count, least, most) =>
      let lead := if count = 0 then b.toNat else b.toNat % 1 <<< (6 - count)
      let (c, rest) := continuation count least most lead bytes
      c.getD '\ufffd' :: readLossy fuel rest

def lossyText (bytes : List UInt8) : List Char := readLossy bytes.length bytes

end Profiling.Url
