import Profiling.Demangle.Legacy
import Profiling.Demangle.Structured

/-!
# Demangling

A linker's symbol is turned back into the name that it was made from. What is no
mangled symbol stays as it is.
-/

namespace Profiling.Demangle

/-- The mark of a suffix that a compiler adds when it moves a function. -/
def movedMark : List Char := ".llvm.".toList

/-- Where a text is found first. -/
def find? (wanted : List Char) : List Char → Option Nat
  | [] => none
  | c :: cs =>
    if wanted.isPrefixOf (c :: cs) then some 0 else (find? wanted cs).map (· + 1)

def isMovedDigit (c : Char) : Bool := ('A' ≤ c && c ≤ 'F') || ('0' ≤ c && c ≤ '9') || c == '@'

/-- A symbol without the suffix of a moved function. -/
def withoutMoved (cs : List Char) : List Char :=
  match find? movedMark cs with
  | none => cs
  | some i => if (cs.drop (i + movedMark.length)).all isMovedDigit then cs.take i else cs

/-- Words after dots may follow a symbol; anything else means that it is none. -/
def isSuffix (cs : List Char) : Bool :=
  match cs with
  | [] => true
  | c :: _ => c = '.' && cs.all fun c => 32 < c.toNat && c.toNat < 127

/-- The name that a symbol was made from, if it is a mangled one. -/
def demangle? (symbol : String) : Option String :=
  let cs := withoutMoved symbol.toList
  let (name, suffix) := match Legacy.read? cs with
    | some s => (some (Legacy.render s), s.suffix)
    | none =>
      match Structured.read? cs with
      | some s => (some (Structured.render s), s.suffix)
      | none => (none, [])
  if isSuffix suffix then name.map (· ++ String.ofList suffix) else none

def demangle (symbol : String) : String :=
  (demangle? symbol).getD (String.ofList (withoutMoved symbol.toList))

end Profiling.Demangle
