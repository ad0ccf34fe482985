import Profiling.Digits
import Profiling.Pattern.Basic

/-!
# Reading escapes and bracketed classes

`Flags` say how the text of a pattern is read. Readers take the characters that
are left and give back what they read with the characters after it.
-/

namespace Profiling.Pattern

structure Flags where
  ignoreCase : Bool := false
  multiLine : Bool := false
  dotAll : Bool := false
  swapGreed : Bool := false
  unicode : Bool := true
  ignoreSpace : Bool := false
  crlf : Bool := false
deriving DecidableEq, Repr

/-- Drops blanks and comments; a comment goes from `#` to the end of its line. -/
def dropBlanks : Bool → List Char → List Char
  | _, [] => []
  | true, c :: cs => dropBlanks (c ≠ '\n') cs
  | false, c :: cs =>
    if Unicode.isWhiteSpace c then dropBlanks false cs
    else if c = '#' then dropBlanks true cs
    else c :: cs

/-- Drops blanks and comments where the flags say that they do not count. -/
def Flags.skip (f : Flags) (cs : List Char) : List Char :=
  if f.ignoreSpace then dropBlanks false cs else cs

def Flags.fold (f : Flags) (cls : CharClass) : CharClass :=
  if f.ignoreCase then (if f.unicode then .fold cls else .foldAscii cls) else cls

/-- What an escape stands for. -/
inductive Escaped
  /-- A character, and whether it was given as the value of a byte. -/
  | literal (c : Char) (byte : Bool)
  | cls (c : CharClass)
  | look (a : Assertion)
deriving Repr

def charOf? (n : Nat) : Option Char :=
  if n < 0xd800 ∨ (0xdfff < n ∧ n < 0x110000) then some (Char.ofNat n) else none

/-- The character that hexadecimal digits give. -/
def charAt? (digits : List Char) : Option Char :=
  (Digits.read? 16 0x110000 digits).bind charOf?

/-- Takes a fixed number of hexadecimal digits. -/
def takeHex (f : Flags) : Nat → List Char → Option (List Char × List Char)
  | 0, cs => some ([], cs)
  | count + 1, cs =>
    match f.skip cs with
    | c :: rest =>
      if Digits.isDigit 16 c then
        (takeHex f count rest).map fun (digits, rest) => (c :: digits, rest)
      else none
    | [] => none

/-- Takes hexadecimal digits up to a closing brace. -/
def takeBraced (f : Flags) : Nat → List Char → Option (List Char × List Char)
  | 0, _ => none
  | fuel + 1, cs =>
    match f.skip cs with
    | '}' :: rest => some ([], rest)
    | c :: rest =>
      if Digits.isDigit 16 c then
        (takeBraced f fuel rest).map fun (digits, rest) => (c :: digits, rest)
      else none
    | [] => none

/-- A character given by `count` digits or by digits in braces. -/
def readCode (f : Flags) (count : Nat) (cs : List Char) : Option (Escaped × List Char) :=
  match f.skip cs with
  | '{' :: rest => do
    let (digits, rest) ← takeBraced f (rest.length + 1) rest
    let c ← charAt? digits
    some (.literal c false, rest)
  | cs => do
    let (digits, rest) ← takeHex f count cs
    let c ← charAt? digits
    some (.literal c (count = 2), rest)

/-- Takes the characters up to a closing brace. -/
def takeName (f : Flags) : Nat → List Char → Option (List Char × List Char)
  | 0, _ => none
  | fuel + 1, cs =>
    match f.skip cs with
    | [] => none
    | '}' :: rest => some ([], rest)
    | c :: rest => (takeName f fuel rest).map fun (name, rest) => (c :: name, rest)

/-- A name, or a property and a value with `!=`, `:` or `=` between them; the first
means that the property does not have the value. -/
def classNamed (name : List Char) : Option (Bool × CharClass) :=
  let text := String.ofList name
  match text.splitOn "!=" with
  | property :: value :: more =>
    (CharClass.valued property ("!=".intercalate (value :: more))).map fun c => (true, c)
  | _ =>
    match text.splitOn ":" with
    | property :: value :: more =>
      (CharClass.valued property (":".intercalate (value :: more))).map fun c => (false, c)
    | _ =>
      match text.splitOn "=" with
      | property :: value :: more =>
        (CharClass.valued property ("=".intercalate (value :: more))).map fun c => (false, c)
      | _ => (CharClass.named text).map fun c => (false, c)

/-- Reads what follows `\p`, or `\P` when negated. -/
def readProperty (f : Flags) (negated : Bool) (cs : List Char) :
    Option (Escaped × List Char) := do
  let ((inverse, cls), rest) ← (match f.skip cs with
    | '{' :: rest => do
      let (name, rest) ← takeName f (rest.length + 1) rest
      let found ← classNamed name
      some (found, rest)
    | c :: rest =>
      if c = '\\' then none
      else do
        let cls ← CharClass.ofCategoryName (CharClass.plainName (String.singleton c))
        some ((false, cls), rest)
    | [] => none)
  if f.unicode then some (.cls (.negateIf (negated != inverse) (f.fold cls)), rest) else none

def isMeta (c : Char) : Bool := "\\.+*?()|[]\x7b\x7d^$#&-~".toList.contains c

/-- The kinds of word boundary that are named in braces. -/
def boundaryNamed (ascii : Bool) : String → Option Assertion
  | "start" => some (.wordStart ascii)
  | "end" => some (.wordEnd ascii)
  | "start-half" => some (.wordStartHalf ascii)
  | "end-half" => some (.wordEndHalf ascii)
  | _ => none

/-- Reads what follows `\b`: a name in braces, unless the brace opens a count. -/
def readBoundary (f : Flags) (cs : List Char) : Option (Escaped × List Char) :=
  match cs with
  | '{' :: rest =>
    match f.skip rest with
    | [] => none
    | c :: _ =>
      if c.isAlpha || c = '-' then do
        let (name, rest) ← takeName f (rest.length + 1) rest
        let a ← boundaryNamed (!f.unicode) (String.ofList name)
        some (.look a, rest)
      else some (.look (.boundary (!f.unicode)), cs)
  | _ => some (.look (.boundary (!f.unicode)), cs)

def perlClass (f : Flags) : Char → Option CharClass
  | 'd' => some (if f.unicode then .digit else .asciiDigit)
  | 's' => some (if f.unicode then .space else .asciiSpace)
  | 'w' => some (if f.unicode then .word else .asciiWord)
  | _ => none

def controlChar : Char → Option Char
  | 'a' => some '\x07'
  | 'f' => some '\x0c'
  | 't' => some '\t'
  | 'n' => some '\n'
  | 'r' => some '\r'
  | 'v' => some '\x0b'
  | _ => none

/-- Reads what follows a backslash. -/
def readEscape (f : Flags) : List Char → Option (Escaped × List Char)
  | [] => none
  | c :: cs =>
    if c = 'x' then readCode f 2 cs
    else if c = 'u' then readCode f 4 cs
    else if c = 'U' then readCode f 8 cs
    else if c = 'p' then readProperty f false cs
    else if c = 'P' then readProperty f true cs
    else if c = 'A' then some (.look .textStart, cs)
    else if c = 'z' then some (.look .textEnd, cs)
    else if c = 'b' then readBoundary f cs
    else if c = 'B' then some (.look (.notBoundary (!f.unicode)), cs)
    else if c = '<' then some (.look (.wordStart (!f.unicode)), cs)
    else if c = '>' then some (.look (.wordEnd (!f.unicode)), cs)
    else
      match perlClass f c, perlClass f c.toLower, controlChar c with
      | some cls, _, _ => some (.cls cls, cs)
      | none, some cls, _ => some (.cls (.negate cls), cs)
      | none, none, some control => some (.literal control false, cs)
      | none, none, none =>
        if isMeta c || (c.toNat < 128 && !c.isAlphanum) then some (.literal c false, cs) else none

/-- A part of a class: a character, which may start a range, or a set. -/
inductive Member
  | one (c : Char)
  | set (c : CharClass)
deriving Repr

/-- Without Unicode a class holds bytes, so a character has to be ASCII or a byte. -/
def readMember (f : Flags) : List Char → Option (Member × List Char)
  | [] => none
  | '\\' :: cs =>
    match readEscape f cs with
    | some (.literal c byte, rest) =>
      if f.unicode || c.toNat < 128 || byte then some (.one c, rest) else none
    | some (.cls cls, rest) => some (.set cls, rest)
    | _ => none
  | c :: cs => if f.unicode || c.toNat < 128 then some (.one c, cs) else none

def Member.toClass : Member → CharClass
  | .one c => .single c
  | .set cls => cls

/-- Whether a hyphen at the head of the input stands between the ends of a range. -/
def opensRange (f : Flags) : List Char → Bool
  | '-' :: cs =>
    match f.skip cs with
    | [] => true
    | c :: _ => c ≠ ']' && c ≠ '-'
  | _ => false

/-- Reads a character, a range or a set. -/
def readRange (f : Flags) (cs : List Char) : Option (CharClass × List Char) := do
  let (first, rest) ← readMember f cs
  let rest := f.skip rest
  if opensRange f rest then
    let (last, rest) ← readMember f (f.skip rest.tail)
    match first, last with
    | .one a, .one b => if a ≤ b then some (.range a b, rest) else none
    | _, _ => none
  else some (first.toClass, rest)

def asciiClassOf (f : Flags) (rest : List Char) : Option (CharClass × List Char) :=
  let (negated, rest) := match rest with
    | '^' :: rest => (true, rest)
    | _ => (false, rest)
  let name := rest.takeWhile (· ≠ ':')
  match rest.dropWhile (· ≠ ':') with
  | ':' :: ']' :: rest =>
    (CharClass.asciiNamed (String.ofList name)).map fun cls => (.negateIf negated (f.fold cls), rest)
  | _ => none

/-- Reads the rest of a named class after its bracket, if there is one. -/
def readAsciiClass (f : Flags) : List Char → Option (CharClass × List Char)
  | ':' :: rest => asciiClassOf f rest
  | _ => none

inductive ClassOp
  | inter
  | diff
  | symmDiff
deriving DecidableEq, Repr

def ClassOp.apply : ClassOp → CharClass → CharClass → CharClass
  | .inter => .inter
  | .diff => .diff
  | .symmDiff => .symmDiff

/-- Literal hyphens, and a bracket, that may stand first in a class. -/
def readLeading (f : Flags) (cs : List Char) : CharClass × List Char :=
  let hyphens := cs.takeWhile (fun c => c = '-' || (f.ignoreSpace && Unicode.isWhiteSpace c))
  let rest := f.skip (cs.drop hyphens.length)
  if hyphens.contains '-' then (.single '-', rest)
  else
    match rest with
    | ']' :: rest => (.single ']', f.skip rest)
    | rest => (.nothing, rest)

/-- What was read of a class: the operand before the last operator, if there was
one, and the members since. -/
structure ClassState where
  negated : Bool
  before : Option (CharClass × ClassOp) := none
  members : CharClass := .nothing
deriving Repr

/-- Case variants are added to both operands of an operator, and to the class as a
whole. -/
def ClassState.value (f : Flags) (s : ClassState) : CharClass :=
  match s.before with
  | none => s.members
  | some (lhs, op) => op.apply (f.fold lhs) (f.fold s.members)

def ClassState.close (f : Flags) (s : ClassState) : CharClass :=
  .negateIf s.negated (f.fold (s.value f))

def ClassState.operate (f : Flags) (s : ClassState) (op : ClassOp) : ClassState :=
  { s with before := some (s.value f, op), members := .nothing }

def ClassState.add (s : ClassState) (cls : CharClass) : ClassState :=
  { s with members := .union s.members cls }

/-- Reads the start of a class after its bracket. -/
def openClass (f : Flags) (cs : List Char) : ClassState × List Char :=
  let (negated, rest) := match f.skip cs with
    | '^' :: rest => (true, f.skip rest)
    | rest => (false, rest)
  let (members, rest) := readLeading f rest
  ({ negated, members }, rest)

/-- Reads the members of a class up to its closing bracket. `outer` holds the
classes around it, innermost first. Every turn takes a character. -/
def readMembers (f : Flags) :
    Nat → List ClassState → ClassState → List Char → Option (CharClass × List Char)
  | 0, _, _, _ => none
  | fuel + 1, outer, s, cs =>
    match f.skip cs with
    | [] => none
    | '[' :: rest =>
      match readAsciiClass f rest with
      | some (cls, rest) => readMembers f fuel outer (s.add cls) rest
      | none =>
        let (inner, rest) := openClass f rest
        readMembers f fuel (s :: outer) inner rest
    | ']' :: rest =>
      match outer with
      | [] => some (s.close f, rest)
      | around :: outer => readMembers f fuel outer (around.add (s.close f)) rest
    | '&' :: '&' :: rest => readMembers f fuel outer (s.operate f .inter) rest
    | '-' :: '-' :: rest => readMembers f fuel outer (s.operate f .diff) rest
    | '~' :: '~' :: rest => readMembers f fuel outer (s.operate f .symmDiff) rest
    | cs =>
      match readRange f cs with
      | none => none
      | some (cls, rest) => readMembers f fuel outer (s.add cls) rest

/-- A class of bytes may hold no byte that is not a character by itself. -/
def isTextual (f : Flags) (cls : CharClass) : Bool :=
  f.unicode || (List.range 128).all fun i => !cls.contains (Char.ofNat (128 + i))

/-- Reads a class after its opening bracket. -/
def readClass (f : Flags) (cs : List Char) : Option (CharClass × List Char) := do
  let (s, rest) := openClass f cs
  let (cls, rest) ← readMembers f (cs.length + 1) [] s rest
  if isTextual f cls then some (cls, rest) else none

end Profiling.Pattern
