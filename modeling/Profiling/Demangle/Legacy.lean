import Profiling.Digits
import Profiling.Unicode.Category

/-!
# Symbols with nested names

The older form of a mangled symbol lists the parts of a path, each after its length.
Characters that a linker would not take are written as escapes between dollar signs.
The last part may be a hash, which is left out.
-/

namespace Profiling.Demangle.Legacy

def dropStart? (start cs : List Char) : Option (List Char) :=
  if start.isPrefixOf cs then some (cs.drop start.length) else none

/-- What follows the mark of such a symbol, which has none, one or two low lines. -/
def body? (cs : List Char) : Option (List Char) :=
  dropStart? ['_', 'Z', 'N'] cs <|> dropStart? ['Z', 'N'] cs <|> dropStart? ['_', '_', 'Z', 'N'] cs

/-- Reads the parts up to the closing `E`, and gives back what follows it. -/
def readParts : Nat → List Char → Option (List (List Char) × List Char)
  | 0, _ => none
  | fuel + 1, cs =>
    match cs with
    | [] => none
    | 'E' :: rest => some ([], rest)
    | _ =>
      let digits := cs.takeWhile Char.isDigit
      let rest := cs.drop digits.length
      match Digits.read? 10 (1 <<< 64) digits with
      | none => none
      | some length =>
        if rest.length ≤ length then none
        else
          (readParts fuel (rest.drop length)).map fun (parts, after) =>
            (rest.take length :: parts, after)

structure Symbol where
  parts : List (List Char)
  /-- What follows the symbol proper. -/
  suffix : List Char
deriving DecidableEq, Repr

def read? (cs : List Char) : Option Symbol := do
  let body ← body? cs
  if body.any (128 ≤ ·.toNat) then none
  else
    let (parts, suffix) ← readParts (body.length + 1) body
    some { parts, suffix }

def isHash : List Char → Bool
  | 'h' :: digits => digits.all (Digits.isDigit 16)
  | _ => false

/-- The character that an escape stands for. -/
def unescape? : List Char → Option Char
  | ['S', 'P'] => some '@'
  | ['B', 'P'] => some '*'
  | ['R', 'F'] => some '&'
  | ['L', 'T'] => some '<'
  | ['G', 'T'] => some '>'
  | ['L', 'P'] => some '('
  | ['R', 'P'] => some ')'
  | ['C'] => some ','
  | 'u' :: digits =>
    let n := Digits.number 16 digits
    let isScalar := n < 0xd800 || (0xdfff < n && n < 0x110000)
    let isControl := n < 0x20 || (0x7f ≤ n && n < 0xa0)
    if digits.isEmpty || !digits.all Digits.isLowerHex || !isScalar || isControl then none
    else some (Char.ofNat n)
  | _ => none

/-- Two dots stand for two colons. What cannot be read as an escape ends the reading,
and the rest stays as it is. -/
def unescape : Nat → List Char → List Char
  | 0, cs => cs
  | _, [] => []
  | fuel + 1, '.' :: '.' :: rest => ':' :: ':' :: unescape fuel rest
  | fuel + 1, '$' :: rest =>
    let escape := rest.takeWhile (· ≠ '$')
    match rest.drop escape.length, unescape? escape with
    | _ :: after, some c => c :: unescape fuel after
    | _, _ => '$' :: rest
  | fuel + 1, c :: rest => c :: unescape fuel rest

/-- A low line that only keeps an escape from coming first is left out. -/
def renderPart (part : List Char) : List Char :=
  let part := match part with
    | '_' :: '$' :: rest => '$' :: rest
    | _ => part
  unescape (part.length + 1) part

/-- The parts without the hash. -/
def named (parts : List (List Char)) : List (List Char) :=
  match parts.getLast? with
  | some last => if isHash last then parts.dropLast else parts
  | none => []

def render (s : Symbol) : String :=
  String.ofList ([':', ':'].intercalate ((named s.parts).map renderPart))

end Profiling.Demangle.Legacy
