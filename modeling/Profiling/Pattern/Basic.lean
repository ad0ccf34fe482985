import Profiling.Pattern.CharClass

/-!
# Patterns and what they match

A pattern is matched by carrying a set of positions of the text through it: the
positions where a match may have got to so far. A set of positions is a list of
marks, one before each character and one at the end.
-/

namespace Profiling

/-- What may be asked of a position without moving on. -/
inductive Assertion
  | textStart
  | textEnd
  | lineStart
  | lineEnd
  /-- Line starts and ends where carriage returns count as line ends too. -/
  | lineStartCr
  | lineEndCr
  | boundary (ascii : Bool)
  | notBoundary (ascii : Bool)
  | wordStart (ascii : Bool)
  | wordEnd (ascii : Bool)
  | wordStartHalf (ascii : Bool)
  | wordEndHalf (ascii : Bool)
deriving DecidableEq, Repr

namespace Assertion

def inWord (ascii : Bool) : Option Char → Bool
  | none => false
  | some c => if ascii then CharClass.isAsciiWord c else CharClass.isWord c

/-- Whether the assertion holds between two characters, one of which is missing at
an end of the text. -/
def holds (a : Assertion) (before after : Option Char) : Bool :=
  match a with
  | textStart => before.isNone
  | textEnd => after.isNone
  | lineStart => before.isNone || before == some '\n'
  | lineEnd => after.isNone || after == some '\n'
  | lineStartCr =>
    before.isNone || before == some '\n' || (before == some '\r' && after != some '\n')
  | lineEndCr =>
    after.isNone || after == some '\r' || (after == some '\n' && before != some '\r')
  | boundary ascii => inWord ascii before != inWord ascii after
  | notBoundary ascii => inWord ascii before == inWord ascii after
  | wordStart ascii => !inWord ascii before && inWord ascii after
  | wordEnd ascii => inWord ascii before && !inWord ascii after
  | wordStartHalf ascii => !inWord ascii before
  | wordEndHalf ascii => !inWord ascii after

/-- The positions of a text where the assertion holds. -/
def marks (a : Assertion) : Option Char → List Char → List Bool
  | before, [] => [a.holds before none]
  | before, c :: cs => a.holds before (some c) :: marks a (some c) cs

end Assertion

inductive Pattern
  | empty
  | char (cls : CharClass)
  | look (assertion : Assertion)
  | cat (first second : Pattern)
  | alt (first second : Pattern)
  | repeated (body : Pattern) (least : Nat) (most : Option Nat)
deriving Repr

namespace Pattern

/-- Moves every mark over one character of the class. -/
def advance (cls : CharClass) : List Char → List Bool → List Bool
  | c :: cs, m :: ms => false :: shift cls m c cs ms
  | _, ms => ms.map fun _ => false
where
  shift (cls : CharClass) (m : Bool) (c : Char) : List Char → List Bool → List Bool
    | d :: cs, n :: ms => (m && cls.contains c) :: shift cls n d cs ms
    | [], _ => [m && cls.contains c]
    | _ :: _, [] => [m && cls.contains c]

/-- Applies a step `count` times, or until it changes nothing. -/
def iterate (step : List Bool → List Bool) : Nat → List Bool → List Bool
  | 0, marks => marks
  | count + 1, marks =>
    let next := step marks
    if next = marks then marks else iterate step count next

/-- The marks reached by at most `count` steps. -/
def reach (step : List Bool → List Bool) (count : Nat) (marks : List Bool) : List Bool :=
  iterate (fun ms => List.zipWith (· || ·) ms (step ms)) count marks

/-- Where matches that got to the marks can get to by the pattern. -/
def run (text : List Char) : Pattern → List Bool → List Bool
  | empty, marks => marks
  | char cls, marks => advance cls text marks
  | look a, marks => List.zipWith (· && ·) (a.marks none text) marks
  | cat p q, marks => run text q (run text p marks)
  | alt p q, marks => List.zipWith (· || ·) (run text p marks) (run text q marks)
  | repeated p least most, marks =>
    let further := match most with
      | none => text.length + 1
      | some most => min (most - least) (text.length + 1)
    reach (run text p) further (iterate (run text p) least marks)

/-- Whether some part of the text matches. -/
def isMatch (p : Pattern) (text : String) : Bool :=
  (run text.toList p (List.replicate (text.toList.length + 1) true)).any id

/-- An estimate of the memory that a matcher takes once the pattern has been compiled to an
automaton, which is not done here. -/
def weight : Pattern → Nat
  | empty => 32
  | char cls => cls.weight
  | look _ => 32
  | cat p q => weight p + weight q
  | alt p q => weight p + weight q + 32
  | repeated p least most => weight p * max 1 (most.getD (least + 1)) + 32

/-- Patterns with a higher estimate are refused. -/
def maxWeight : Nat := 10 * 1 <<< 20

end Pattern

end Profiling
