/-!
# Binary floating point of double width

A value is held as its 64 bits. Finite values are whole multiples of
2 to the power -1074, so each operation is exact integer arithmetic followed by
one rounding to the nearest value, a tie going to the even significand.
-/

namespace Profiling

structure Binary64 where
  bits : UInt64
deriving DecidableEq, Inhabited, Repr

namespace Binary64

/-- How many of the smallest positive value make one. -/
def one : Nat := 1 <<< 1074

/-- A value by kind; a finite one by its sign and by its size in units of the
smallest positive value. -/
inductive Kind
  | nan
  | infinite (negative : Bool)
  | finite (negative : Bool) (size : Nat)
deriving DecidableEq, Repr

def kind (x : Binary64) : Kind :=
  let n := x.bits.toNat
  let negative := decide (1 <<< 63 ≤ n)
  let exponent := n / 1 <<< 52 % 1 <<< 11
  let fraction := n % 1 <<< 52
  if exponent = 2047 then
    if fraction = 0 then .infinite negative else .nan
  else if exponent = 0 then .finite negative fraction
  else .finite negative ((1 <<< 52 + fraction) * 1 <<< (exponent - 1))

def signBits (negative : Bool) : Nat := if negative then 1 <<< 63 else 0

def infinity (negative : Bool) : Binary64 := ⟨(signBits negative + 2047 * 1 <<< 52).toUInt64⟩

def nan : Binary64 := ⟨0x7ff8000000000000⟩

/-- The quotient rounded to the nearest whole number, a tie to the even one. -/
def divToEven (num den : Nat) : Nat :=
  let q := num / den
  let twice := 2 * (num % den)
  if twice < den then q else if den < twice then q + 1 else q + q % 2

/-- The value nearest to `num / den` units. -/
def round (negative : Bool) (num den : Nat) : Binary64 :=
  let excess := (num / den).log2 - 52
  let significand := divToEven num (den * 1 <<< excess)
  let magnitude := excess * 1 <<< 52 + significand
  if magnitude < 2047 * 1 <<< 52 then ⟨(signBits negative + magnitude).toUInt64⟩
  else infinity negative

def ofInt (n : Int) : Binary64 := round (n < 0) (n.natAbs * one) 1

def ofNat (n : Nat) : Binary64 := ofInt n

def mul (x y : Binary64) : Binary64 :=
  match x.kind, y.kind with
  | .nan, _ => nan
  | _, .nan => nan
  | .infinite s, .infinite t => infinity (s != t)
  | .infinite s, .finite t b => if b = 0 then nan else infinity (s != t)
  | .finite s a, .infinite t => if a = 0 then nan else infinity (s != t)
  | .finite s a, .finite t b => round (s != t) (a * b) one

def div (x y : Binary64) : Binary64 :=
  match x.kind, y.kind with
  | .nan, _ => nan
  | _, .nan => nan
  | .infinite _, .infinite _ => nan
  | .infinite s, .finite t _ => infinity (s != t)
  | .finite s _, .infinite t => round (s != t) 0 1
  | .finite s a, .finite t b =>
    if b = 0 then (if a = 0 then nan else infinity (s != t)) else round (s != t) (a * one) b

/-- The signed size of a finite value in units. -/
def signedSize (negative : Bool) (size : Nat) : Int := if negative then -size else size

/-- Whether `x < y`; nothing is below or above what is not a number. -/
def lt (x y : Binary64) : Bool :=
  match x.kind, y.kind with
  | .nan, _ => false
  | _, .nan => false
  | .infinite s, .infinite t => s && !t
  | .infinite s, .finite _ _ => s
  | .finite _ _, .infinite t => !t
  | .finite s a, .finite t b => signedSize s a < signedSize t b

/-- How far a value lies from one, against `2 ^ -52`, the step of values just above one. -/
inductive Nearness
  | near
  | far
  | incomparable
deriving DecidableEq, Repr

def nearOne (x : Binary64) : Nearness :=
  match x.kind with
  | .nan => .incomparable
  | .infinite _ => .far
  | .finite s a =>
    let distance := (signedSize s a - one).natAbs
    match (round false distance 1).kind with
    | .finite _ d => if d < 1 <<< 1022 then .near else .far
    | _ => .far

/-- A whole number brought into the range of a signed word. -/
def clamp (n : Int) : Int64 :=
  if n < -9223372036854775808 then Int64.minValue
  else if 9223372036854775808 ≤ n then Int64.maxValue
  else Int64.ofInt n

/-- The part before the point as a signed word; out of range it is the nearest
word, and zero for what is not a number. -/
def truncate (x : Binary64) : Int64 :=
  match x.kind with
  | .nan => 0
  | .infinite s => if s then Int64.minValue else Int64.maxValue
  | .finite s a => clamp (signedSize s (a / one))

/-- As `truncate`, of the nearest whole number, a tie going away from zero. -/
def roundAway (x : Binary64) : Int64 :=
  match x.kind with
  | .nan => 0
  | .infinite s => if s then Int64.minValue else Int64.maxValue
  | .finite s a => clamp (signedSize s ((2 * a + one) / (2 * one)))

end Binary64

end Profiling
