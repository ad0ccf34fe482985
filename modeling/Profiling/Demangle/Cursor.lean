import Profiling.Digits
import Profiling.Unicode.Category
import Profiling.Url.Punycode

/-!
# Reading structured symbols

The newer form of a mangled symbol is a path in a grammar of tagged parts, where a
part that came before is referred to by its place. These are the readers of its
smallest pieces.
-/

namespace Profiling.Demangle

/-- Why a symbol cannot be read on. -/
inductive Fault
  | invalid
  | tooDeep
deriving DecidableEq, Repr

/-- What is written where a fault is met. -/
def Fault.note : Fault → String
  | .invalid => "\x7binvalid syntax\x7d"
  | .tooDeep => "\x7brecursion limit reached\x7d"

/-- A place in a symbol, and how many parts are open there. -/
structure Cursor where
  place : Nat := 0
  depth : Nat := 0
deriving DecidableEq, Repr

abbrev Reader (α : Type) := Array Char → Cursor → Except Fault (α × Cursor)

namespace Reader

def peek? (symbol : Array Char) (c : Cursor) : Option Char := symbol[c.place]?

def step (c : Cursor) : Cursor := { c with place := c.place + 1 }

def next : Reader Char := fun symbol c =>
  match peek? symbol c with
  | some ch => .ok (ch, step c)
  | none => .error .invalid

/-- Parts nest this deep. -/
def maxDepth : Nat := 500

def open' : Reader Unit := fun _ c =>
  if c.depth < maxDepth then .ok ((), { c with depth := c.depth + 1 }) else .error .tooDeep

def digit62? (c : Char) : Option Nat :=
  if '0' ≤ c ∧ c ≤ '9' then some (c.toNat - '0'.toNat)
  else if 'a' ≤ c ∧ c ≤ 'z' then some (c.toNat - 'a'.toNat + 10)
  else if 'A' ≤ c ∧ c ≤ 'Z' then some (c.toNat - 'A'.toNat + 36)
  else none

def digits62 : Nat → Nat → Reader Nat
  | 0, _, _, _ => .error .invalid
  | fuel + 1, n, symbol, c =>
    match peek? symbol c with
    | none => .error .invalid
    | some ch =>
      if ch = '_' then (if n + 1 < 1 <<< 64 then .ok (n + 1, step c) else .error .invalid)
      else
        match digit62? ch with
        | none => .error .invalid
        | some d =>
          if 62 * n + d < 1 <<< 64 then digits62 fuel (62 * n + d) symbol (step c)
          else .error .invalid

/-- A number to base 62 that ends with a low line; alone that is zero, and all other
numbers are one more than their digits say. -/
def number62 : Reader Nat := fun symbol c =>
  if peek? symbol c = some '_' then .ok (0, step c) else digits62 (symbol.size + 1) 0 symbol c

/-- A number after a tag, one more than it says; zero without the tag. -/
def tagged62 (tag : Char) : Reader Nat := fun symbol c =>
  if peek? symbol c = some tag then
    match number62 symbol (step c) with
    | .error e => .error e
    | .ok (n, c) => if n + 1 < 1 <<< 64 then .ok (n + 1, c) else .error .invalid
  else .ok (0, c)

def disambiguator : Reader Nat := tagged62 's'

/-- An upper-case letter names a special namespace; the others have no name. -/
def «namespace» : Reader (Option Char) := fun symbol c =>
  match next symbol c with
  | .error e => .error e
  | .ok (ch, c) =>
    if 'A' ≤ ch ∧ ch ≤ 'Z' then .ok (some ch, c)
    else if 'a' ≤ ch ∧ ch ≤ 'z' then .ok (none, c)
    else .error .invalid

/-- Where a back reference leads: to a place before its own tag. -/
def target : Reader Cursor := fun symbol c =>
  match number62 symbol c with
  | .error e => .error e
  | .ok (place, after) =>
    if c.place ≤ place + 1 then .error .invalid
    else if c.depth < maxDepth then .ok ({ place, depth := c.depth + 1 }, after)
    else .error .tooDeep

def nibblesFrom : Nat → List Char → Reader (List Char)
  | 0, _, _, _ => .error .invalid
  | fuel + 1, done, symbol, c =>
    match peek? symbol c with
    | none => .error .invalid
    | some ch =>
      if ch = '_' then .ok (done.reverse, step c)
      else if Digits.isLowerHex ch then nibblesFrom fuel (ch :: done) symbol (step c)
      else .error .invalid

/-- Hexadecimal digits up to a low line. -/
def nibbles : Reader (List Char) := fun symbol c => nibblesFrom (symbol.size + 1) [] symbol c

/-- The decimal number that stands here. -/
def decimal (symbol : Array Char) (c : Cursor) : Nat × Cursor :=
  let digits := (symbol.toList.drop c.place).takeWhile (Digits.isDigit 10)
  (Digits.number 10 digits, { c with place := c.place + digits.length })

end Reader

/-- A name: its ASCII characters, and the others as Punycode digits. -/
structure Ident where
  ascii : List Char
  punycode : List Char := []
deriving DecidableEq, Repr

namespace Ident

def isEmpty (i : Ident) : Bool := i.ascii.isEmpty && i.punycode.isEmpty

/-- Longer names with Punycode are not decoded. -/
def maxDecoded : Nat := 128

def decoded? (i : Ident) : Option (List Char) :=
  if i.punycode.isEmpty || !i.punycode.all (fun c => c.isDigit || c.isLower) then none
  else
    (Url.Punycode.decodeWithin i.punycode.length 128 0 72 i.ascii i.punycode).filter
      (·.length ≤ maxDecoded)

def render (i : Ident) : String :=
  if i.punycode.isEmpty then String.ofList i.ascii
  else
    match i.decoded? with
    | some cs => String.ofList cs
    | none =>
      let ascii := if i.ascii.isEmpty then "" else String.ofList i.ascii ++ "-"
      "punycode\x7b" ++ ascii ++ String.ofList i.punycode ++ "\x7d"

/-- Splits a name at its last low line. -/
def split (name : List Char) : Ident :=
  let after := (name.reverse.takeWhile (· ≠ '_')).reverse
  ⟨name.take (name.length - after.length - 1), after⟩

/-- A name after its length, which a low line may follow; a leading `u` tells that it
has Punycode. -/
def read : Reader Ident := fun symbol c =>
  let encoded := Reader.peek? symbol c = some 'u'
  let c := if encoded then Reader.step c else c
  match Reader.peek? symbol c with
  | none => .error .invalid
  | some d =>
    if !Digits.isDigit 10 d then .error .invalid
    else
      let (length, c) :=
        if d = '0' then (0, Reader.step c) else Reader.decimal symbol c
      let c := if Reader.peek? symbol c = some '_' then Reader.step c else c
      let after : Cursor := { c with place := c.place + length }
      if symbol.size < after.place then .error .invalid
      else
        let name := (symbol.extract c.place after.place).toList
        if encoded then
          let ident := split name
          if ident.punycode.isEmpty then .error .invalid else .ok (ident, after)
        else .ok ({ ascii := name }, after)

end Ident

end Profiling.Demangle
