/-!
# Durations

A duration counts whole nanoseconds. Its seconds fit a 64-bit word, so sums can
overflow.
-/

namespace Profiling

structure Duration where
  nanos : Nat
deriving DecidableEq, Inhabited, Repr

namespace Duration

def perSecond : Nat := 1000000000

/-- Durations stay below this many nanoseconds. -/
def limit : Nat := 1 <<< 64 * perSecond

def zero : Duration := ⟨0⟩

def ofSeconds (seconds : Nat) : Duration := ⟨seconds * perSecond⟩

def seconds (d : Duration) : Nat := d.nanos / perSecond

def isZero (d : Duration) : Bool := d.nanos == 0

/-- A sum of durations, when it is one. -/
def add? (a b : Duration) : Option Duration :=
  if a.nanos + b.nanos < limit then some ⟨a.nanos + b.nanos⟩ else none

def half (d : Duration) : Duration := ⟨d.nanos / 2⟩

end Duration

end Profiling
