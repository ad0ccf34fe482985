import Profiling.Unicode.Category
import Profiling.Unicode.Fold
import Profiling.Unicode.Property
import Profiling.Unicode.Script

/-!
# Classes of characters

A class is an expression over ranges and named sets; `CharClass.contains` says
which characters are in it.
-/

namespace Profiling

inductive CharClass
  | nothing
  | range (first last : Char)
  | digit
  | space
  | word
  | categories (names : List String)
  | script (name : String)
  | property (lengths : List Nat)
  | union (a b : CharClass)
  | inter (a b : CharClass)
  | diff (a b : CharClass)
  | symmDiff (a b : CharClass)
  | negate (a : CharClass)
  /-- All case variants of the members. -/
  | fold (a : CharClass)
  /-- As `fold`, for the ASCII letters alone. -/
  | foldAscii (a : CharClass)
deriving Repr

namespace CharClass

def isDigit (c : Char) : Bool :=
  if c.toNat < 128 then c.isDigit else Unicode.category c == "Nd"

/-- Letters, marks, decimal digits, connectors such as `_`, and the two joiners. -/
def isWord (c : Char) : Bool :=
  if c.toNat < 128 then c.isAlphanum || c == '_'
  else Unicode.isAlphabetic c || ["Mn", "Mc", "Me", "Nd", "Pc"].contains (Unicode.category c)
    || c == '\u200c' || c == '\u200d'

def isAsciiWord (c : Char) : Bool := c.isAlphanum || c == '_'

def otherAsciiCase (c : Char) : Char := if c.isUpper then c.toLower else c.toUpper

def contains : CharClass → Char → Bool
  | nothing, _ => false
  | range first last, c => first ≤ c && c ≤ last
  | digit, c => isDigit c
  | space, c => Unicode.isWhiteSpace c
  | word, c => isWord c
  | categories names, c => names.contains (Unicode.category c)
  | script name, c => Unicode.script c == name
  | property lengths, c => Unicode.inRuns false c.toNat lengths
  | union a b, c => contains a c || contains b c
  | inter a b, c => contains a c && contains b c
  | diff a b, c => contains a c && !contains b c
  | symmDiff a b, c => contains a c != contains b c
  | negate a, c => !contains a c
  | fold a, c => contains a c || (Unicode.caseVariants c).any (contains a)
  | foldAscii a, c => contains a c || contains a (otherAsciiCase c)

def single (c : Char) : CharClass := range c c

def anything : CharClass := negate nothing

def ofRanges (ranges : List (Char × Char)) : CharClass :=
  ranges.foldr (fun (first, last) rest => union (range first last) rest) nothing

def negateIf (negated : Bool) (a : CharClass) : CharClass := if negated then negate a else a

def asciiDigit : CharClass := range '0' '9'

def asciiSpace : CharClass := ofRanges [('\t', '\r'), (' ', ' ')]

def asciiWord : CharClass := ofRanges [('0', '9'), ('A', 'Z'), ('_', '_'), ('a', 'z')]

/-- The classes that are written with a name in `[:` and `:]`. -/
def asciiNamed : String → Option CharClass
  | "alnum" => some (ofRanges [('0', '9'), ('A', 'Z'), ('a', 'z')])
  | "alpha" => some (ofRanges [('A', 'Z'), ('a', 'z')])
  | "ascii" => some (range '\x00' '\x7f')
  | "blank" => some (ofRanges [('\t', '\t'), (' ', ' ')])
  | "cntrl" => some (ofRanges [('\x00', '\x1f'), ('\x7f', '\x7f')])
  | "digit" => some asciiDigit
  | "graph" => some (range '!' '~')
  | "lower" => some (range 'a' 'z')
  | "print" => some (range ' ' '~')
  | "punct" => some (ofRanges [('!', '/'), (':', '@'), ('[', '`'), ('\x7b', '~')])
  | "space" => some asciiSpace
  | "upper" => some (range 'A' 'Z')
  | "word" => some asciiWord
  | "xdigit" => some (ofRanges [('0', '9'), ('A', 'F'), ('a', 'f')])
  | _ => none

/-- Case, blanks, hyphens, low lines and a leading "is" do not count in the name of a set. -/
def plainName (name : String) : String :=
  let kept := (name.toList.filter fun c => c.toNat < 128 && !" _-".toList.contains c).map Char.toLower
  match kept with
  | 'i' :: 's' :: rest => if rest = ['c'] then "isc" else String.ofList rest
  | _ => String.ofList kept

def ofCategoryName (name : String) : Option CharClass :=
  match name with
  | "any" => some anything
  | "assigned" => some (negate (categories ["Cn"]))
  | "ascii" => some (range '\x00' '\x7f')
  | _ => (Unicode.categoriesNamed name).map categories

def ofScriptName (name : String) : Option CharClass :=
  (Unicode.scriptNamed name).map script

/-- The set with a name: a property, a category or a script, in that order; three
names are those of categories first. -/
def named (name : String) : Option CharClass :=
  let plain := plainName name
  let property? := if ["cf", "sc", "lc"].contains plain then none else Unicode.propertyNamed plain
  match property? with
  | some lengths => some (property lengths)
  | none => ofCategoryName plain <|> ofScriptName plain

/-- The set of the characters whose property has a value. -/
def valued (name value : String) : Option CharClass :=
  match plainName name with
  | "generalcategory" => ofCategoryName (plainName value)
  | "gc" => ofCategoryName (plainName value)
  | "script" => ofScriptName (plainName value)
  | "sc" => ofScriptName (plainName value)
  | "scriptextensions" => ofScriptName (plainName value)
  | "scx" => ofScriptName (plainName value)
  | _ => none

/-- An estimate of the memory that a matcher spends on one character of the class. -/
def weight : CharClass → Nat
  | nothing => 32
  | range _ last => if last.toNat < 128 then 32 else 128
  | digit => 4000
  | space => 400
  | word => 50000
  | categories _ => 20000
  | script _ => 2000
  | property _ => 20000
  | union a b => max (weight a) (weight b)
  | inter a b => max (weight a) (weight b)
  | diff a b => max (weight a) (weight b)
  | symmDiff a b => max (weight a) (weight b)
  | negate a => max 400 (weight a)
  | fold a => 2 * weight a
  | foldAscii a => weight a

end CharClass

end Profiling
