import Profiling.Url.Percent

/-!
# Query parameters

A query is read as parameters between ampersands, each a name and a value with an
equals sign between them. Blanks are written as plus signs.
-/

namespace Profiling.Url

abbrev Parameter := List Char × List Char

def plusToBlank (c : Char) : Char := if c = '+' then ' ' else c

def decodeParameter (cs : List Char) : List Char := lossyText (decode (cs.map plusToBlank))

/-- The parameters of a query, without empty ones. -/
def readQuery (query : List Char) : List Parameter :=
  ((query.splitOn '&').filter (· ≠ [])).map fun part =>
    (decodeParameter (part.takeWhile (· ≠ '=')),
      decodeParameter ((part.dropWhile (· ≠ '=')).drop 1))

def isPlain (c : Char) : Bool :=
  c.toNat < 128 && (c.isAlphanum || c = '*' || c = '-' || c = '.' || c = '_')

def encodeParameter (cs : List Char) : List Char :=
  cs.flatMap fun c =>
    if isPlain c then [c] else if c = ' ' then ['+'] else (utf8 c).flatMap encodeByte

def writeParameter (p : Parameter) : List Char :=
  encodeParameter p.1 ++ '=' :: encodeParameter p.2

def writeQuery : List Parameter → List Char
  | [] => []
  | [p] => writeParameter p
  | p :: ps => writeParameter p ++ '&' :: writeQuery ps

end Profiling.Url
