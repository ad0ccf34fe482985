import Profiling.Unicode.Property
import Profiling.Url.Parser

/-!
# The symbolz protocol

A server names addresses of its own program: the request lists addresses in
hexadecimal with plus signs between them, and the answer has an address and a name
on each line. Other lines are passed over.
-/

namespace Profiling.Symbolz

/-- The path below which a server answers for its profiles. -/
def profilesPath : String := "/debug/pprof/"

/-- The symbol endpoint of the server that a source came from. -/
def endpoint? (source : String) : Option Url :=
  match Url.parse source with
  | .error _ => none
  | .ok u =>
    if u.host.isNone then none
    else
      let path := if profilesPath.toList.isPrefixOf u.path.toList then "/debug/pprof/symbol"
        else "/symbolz"
      some { u with path, query := none }

def hexAddress (address : UInt64) : String :=
  "0x" ++ String.ofList (Nat.toDigits 16 address.toNat)

def request (addresses : List UInt64) : String := "+".intercalate (addresses.map hexAddress)

/-- Names by ascending address. -/
abbrev Names := List (UInt64 × String)

namespace Names

/-- Adds a name; a later name for an address takes the place of an earlier one. -/
def insert (address : UInt64) (name : String) : Names → Names
  | [] => [(address, name)]
  | (a, n) :: rest =>
    if address < a then (address, name) :: (a, n) :: rest
    else if address = a then (address, name) :: rest
    else (a, n) :: insert address name rest

def get? (names : Names) (address : UInt64) : Option String := names.lookup address

end Names

def trim (cs : List Char) : List Char :=
  ((cs.dropWhile Unicode.isWhiteSpace).reverse.dropWhile Unicode.isWhiteSpace).reverse

/-- A 64-bit number in hexadecimal, perhaps with a plus sign. -/
def readHex? (text : List Char) : Option UInt64 :=
  (Digits.read? 16 (1 <<< 64) (Digits.dropPlus text)).map Nat.toUInt64

/-- An address after `0x`, blanks, and a name. -/
def readLine? (line : List Char) : Option (UInt64 × String) :=
  let line := trim line
  match line.takeWhile (!Unicode.isWhiteSpace ·), trim (line.dropWhile (!Unicode.isWhiteSpace ·)) with
  | '0' :: 'x' :: digits, c :: name => (readHex? digits).map fun a => (a, String.ofList (c :: name))
  | _, _ => none

def lines (body : List Char) : List (List Char) := body.splitOn '\n'

def parse (body : String) : Names :=
  ((lines body.toList).filterMap readLine?).foldl (fun names (a, n) => names.insert a n) []

end Profiling.Symbolz
