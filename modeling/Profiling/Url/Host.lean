import Profiling.Unicode.HostMapping
import Profiling.Unicode.Category
import Profiling.Unicode.Joining
import Profiling.Url.Percent
import Profiling.Url.Punycode

/-!
# Hosts

The host of a URL is a name or an address. Names of the web are brought to their
ASCII form; a name that ends in a number has to be an IPv4 address.
-/

namespace Profiling.Url

inductive Host
  | name (text : String)
  | ipv4 (address : Nat)
  /-- Eight groups of 16 bits. -/
  | ipv6 (groups : List Nat)
deriving DecidableEq, Repr

/-- Characters that no host name may have. -/
def deniedInName (c : Char) : Bool :=
  c.toNat ≤ 32 || c.toNat = 127 || "%#/:<>?@[\\]^|".toList.contains c

def acePrefix : List Char := "xn--".toList

/-- Whether the characters of a label beyond ASCII may stand where they are. -/
def isLabel (label : List Char) : Bool :=
  label.all Unicode.staysInHost
    && (match label with
      | [] => true
      | c :: _ => !(["Mn", "Mc", "Me"].contains (Unicode.category c)))
    && Unicode.joinersAllowed [] label

/-- A label with its encoded form undone. -/
def openLabel (label : List Char) : Option (List Char) :=
  if acePrefix.isPrefixOf label then do
    let opened ← Punycode.decode (label.drop 4)
    if opened.all (·.toNat < 128) || Unicode.compose opened ≠ opened then none else some opened
  else some label

def closeLabel (label : List Char) : List Char :=
  if label.all (·.toNat < 128) then label else acePrefix ++ Punycode.encode label

/-- The ASCII form of a name. -/
def asciiName (name : List Char) : Option (List Char) := do
  let mapped ← name.mapM Unicode.mapHostChar
  let labels ← ((Unicode.compose mapped.flatten).splitOn '.').mapM openLabel
  let valid := labels.all fun label => label.all (·.toNat < 128) || isLabel label
  let directed := !labels.any Unicode.hasRightToLeft || labels.all Unicode.isOneDirection
  if valid && directed && !labels.any (·.any deniedInName) then
    some (['.'].intercalate (labels.map closeLabel))
  else none

/-- A part of an address: `none` when it is no number. -/
def ipv4Number? (part : List Char) : Option Nat :=
  match part with
  | [] => none
  | '0' :: 'x' :: digits => ofBase 16 digits
  | '0' :: 'X' :: digits => ofBase 16 digits
  | '0' :: d :: digits => ofBase 8 (d :: digits)
  | digits => ofBase 10 digits
where
  ofBase (base : Nat) (digits : List Char) : Option Nat :=
    if digits.all (Digits.isDigit base) then some (Digits.number base digits) else none

/-- The parts of a name, without the empty one after a final dot. -/
def nameParts (name : List Char) : List (List Char) :=
  let parts := name.splitOn '.'
  if parts.getLast? = some [] then parts.dropLast else parts

def endsInNumber (name : List Char) : Bool :=
  match (nameParts name).getLast? with
  | none => false
  | some last => (last ≠ [] && last.all Char.isDigit) || (ipv4Number? last).isSome

/-- The last part fills what the parts before it leave of the 32 bits. -/
def ipv4? (name : List Char) : Option Nat := do
  let numbers ← (nameParts name).mapM ipv4Number?
  let last ← numbers.getLast?
  let first := numbers.dropLast
  if numbers.length ≤ 4 ∧ last < 1 <<< (8 * (4 - first.length)) ∧ first.all (· < 256) then
    some ((first.zipIdx.map fun (n, i) => n * 1 <<< (8 * (3 - i))).foldr (· + ·) last)
  else none

/-- A decimal number up to 255 without leading zeros. -/
def byteNumber? (digits : List Char) : Option Nat :=
  if digits.head? ≠ some '0' ∨ digits.length = 1 then Digits.read? 10 256 digits else none

/-- The two groups that four decimal numbers stand for. -/
def embeddedIpv4? (cs : List Char) : Option (List Nat) :=
  match (cs.splitOn '.').map byteNumber? with
  | [some a, some b, some c, some d] => some [256 * a + b, 256 * c + d]
  | _ => none

/-- Reads groups up to the end. `groups` holds those read, last first, and `gap` how
many of them came before the double colon. A group follows a single colon, and the
last two groups may be written as an IPv4 address. -/
def readGroups : Nat → List Nat → Option Nat → List Char → Option (List Nat × Option Nat)
  | _, groups, gap, [] => some (groups, gap)
  | 0, _, _, _ :: _ => none
  | fuel + 1, groups, gap, ':' :: cs =>
    if gap.isSome then none else readGroups fuel groups (some groups.length) cs
  | fuel + 1, groups, gap, cs =>
    if 8 ≤ groups.length then none
    else
      let digits := (cs.take 4).takeWhile (Digits.isDigit 16)
      let n := Digits.number 16 digits
      let rest := cs.drop digits.length
      match rest with
      | '.' :: _ =>
        if rest.length = cs.length || 6 < groups.length then none
        else (embeddedIpv4? cs).map fun pair => (pair.reverse ++ groups, gap)
      | ':' :: rest =>
        if rest.isEmpty then none else readGroups fuel (n :: groups) gap rest
      | [] => some (n :: groups, gap)
      | _ => none

/-- Fills the double colon with zeros. -/
def ipv6? (cs : List Char) : Option (List Nat) := do
  let (groups, gap) ← (match cs with
    | ':' :: ':' :: rest => readGroups (cs.length + 1) [] (some 0) rest
    | ':' :: _ => none
    | _ => readGroups (cs.length + 1) [] none cs)
  let groups := groups.reverse
  match gap with
  | none => if groups.length = 8 then some groups else none
  | some i =>
    if groups.length < 8 then
      some (groups.take i ++ List.replicate (8 - groups.length) 0 ++ groups.drop i)
    else none

def decimal (n : Nat) : List Char := (toString n).toList

def hexadecimal (n : Nat) : List Char := Nat.toDigits 16 n

def writeIpv4 (address : Nat) : List Char :=
  ['.'].intercalate ([24, 16, 8, 0].map fun shift => decimal (address / 1 <<< shift % 256))

/-- The longest run of zeros that starts a list. -/
def zeroRun (groups : List Nat) : Nat := (groups.takeWhile (· = 0)).length

/-- Where the longest run of zeros begins and how long it is; the first of several. -/
def longestZeros : Nat → List Nat → Nat × Nat
  | _, [] => (0, 0)
  | i, g :: groups =>
    let here := zeroRun (g :: groups)
    let (j, later) := longestZeros (i + 1) groups
    if here ≠ 0 ∧ later ≤ here then (i, here) else (j, later)

/-- Two or more zeros are written as a double colon. -/
def writeIpv6 (groups : List Nat) : List Char :=
  let (start, count) := longestZeros 0 groups
  let join (groups : List Nat) : List Char := [':'].intercalate (groups.map hexadecimal)
  if count < 2 then join groups
  else join (groups.take start) ++ ':' :: ':' :: join (groups.drop (start + count))

namespace Host

def render : Host → List Char
  | name text => text.toList
  | ipv4 address => writeIpv4 address
  | ipv6 groups => '[' :: (writeIpv6 groups ++ [']'])

def bracketed? (cs : List Char) : Option (Option (List Char)) :=
  match cs with
  | '[' :: rest => some (if rest.getLast? = some ']' then some rest.dropLast else none)
  | _ => none

/-- Reads the host of a URL of the web. -/
def parse? (cs : List Char) : Option Host :=
  match bracketed? cs with
  | some inner => do
    let groups ← ipv6? (← inner)
    some (.ipv6 groups)
  | none => do
    let text ← String.fromUTF8? (decode cs).toByteArray
    let ascii ← asciiName text.toList
    if ascii.isEmpty then none
    else if endsInNumber ascii then (ipv4? ascii).map .ipv4
    else some (.name (String.ofList ascii))

def deniedInOpaque (c : Char) : Bool := "\x00\t\n\r #/:<>?@[\\]^|".toList.contains c

/-- Reads the host of any other URL, which may be empty. -/
def parseOpaque? (cs : List Char) : Option Host :=
  match bracketed? cs with
  | some inner => do
    let groups ← ipv6? (← inner)
    some (.ipv6 groups)
  | none =>
    if cs.any deniedInOpaque then none else some (.name (String.ofList (encode [] cs)))

def isEmpty : Host → Bool
  | name text => text.isEmpty
  | _ => false

end Host

end Profiling.Url
