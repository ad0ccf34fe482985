/-!
# Digits

A number is written in digits of a base up to sixteen, the most significant first. Letters count
in either case.
-/

namespace Profiling.Digits

def value? (c : Char) : Option Nat :=
  if '0' ≤ c ∧ c ≤ '9' then some (c.toNat - '0'.toNat)
  else if 'a' ≤ c ∧ c ≤ 'f' then some (c.toNat - 'a'.toNat + 10)
  else if 'A' ≤ c ∧ c ≤ 'F' then some (c.toNat - 'A'.toNat + 10)
  else none

/-- Whether a character is a digit of a base. -/
def isDigit (base : Nat) (c : Char) : Bool := (value? c).any (· < base)

/-- The number that digits stand for. -/
def number (base : Nat) (digits : List Char) : Nat :=
  digits.foldl (fun n c => base * n + (value? c).getD 0) 0

/-- Reads one digit or more as a number below a bound. -/
def read? (base bound : Nat) (digits : List Char) : Option Nat :=
  let n := number base digits
  if digits = [] || !digits.all (isDigit base) || bound ≤ n then none else some n

/-- The text behind a plus sign that it may start with. -/
def dropPlus : List Char → List Char
  | '+' :: rest => rest
  | cs => cs

def isLowerHex (c : Char) : Bool := isDigit 16 c && !c.isUpper

end Profiling.Digits
