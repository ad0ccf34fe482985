import Profiling.Gzip.Member
import Profiling.Profile.Strings

/-!
# Profile files

A profile file holds a profile message, compressed or plain. Which of the two is
told by the first bytes of the file.
-/

namespace Profiling.Profile

/-- The message of a profile, not compressed. -/
def encode (p : Profile) : List UInt8 := p.toWire.write

/-- The compressed message of a profile, as it is kept in a file. -/
def write (p : Profile) : List UInt8 := Gzip.compress p.encode

def isCompressed (data : List UInt8) : Bool := Gzip.magic.isPrefixOf data

def decompressed (data : List UInt8) : Except ProfileError (List UInt8) :=
  if isCompressed data then
    match Gzip.decompress data with
    | .ok content => .ok content
    | .error cause => .error (.gzip cause)
  else .ok data

def decode (message : List UInt8) : Except ProfileError Profile :=
  match Wire.Profile.read? message with
  | none => .error .decode
  | some w => ofWire w

def parse (data : List UInt8) : Except ProfileError Profile :=
  if data.isEmpty then .error (.malformed .empty) else decompressed data >>= decode

end Profiling.Profile
