import Profiling.Digits

/-!
# Tables of code points

A table names the value of every code point in runs: how many code points there
are, then the name of their value. A set is a list of lengths, of code points
outside and inside the set by turns.
-/

namespace Profiling.Unicode

/-- Splits a table into runs. `n` is the count read so far, `name` the letters
read so far, last first. -/
def readRuns : Nat → List Char → List Char → List (Nat × String)
  | n, name, [] => if name.isEmpty then [] else [(n, String.ofList name.reverse)]
  | n, name, c :: cs =>
    if c.isDigit then
      let digit := c.toNat - '0'.toNat
      if name.isEmpty then readRuns (10 * n + digit) [] cs
      else (n, String.ofList name.reverse) :: readRuns digit [] cs
    else readRuns n (c :: name) cs

/-- The value of a code point. -/
def valueAt : Nat → List (Nat × String) → Option String
  | _, [] => none
  | n, (count, name) :: runs => if n < count then some name else valueAt (n - count) runs

/-- Reads numbers that are set apart by blanks. -/
def readNumbers (text : String) : List Nat := (text.toList.splitOn ' ').map (Digits.number 10)

/-- Whether a code point is in a set; `inside` tells what the first length counts. -/
def inRuns (inside : Bool) : Nat → List Nat → Bool
  | _, [] => inside
  | n, count :: counts => if n < count then inside else inRuns (!inside) (n - count) counts

end Profiling.Unicode
