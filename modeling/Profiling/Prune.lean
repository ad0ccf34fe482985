import Profiling.Pattern.Parser
import Profiling.Profile.Error

/-!
# Dropping frames

A filter names functions whose frames are of no interest. Frames are dropped from
the leaf up to and including the last one that matches, but only below a frame
that does not match, so a stack in which everything matches stays as it is.
-/

namespace Profiling

/-- The name without a leading dot and without the list of arguments. Parentheses
that belong to a name are passed over; `done` holds the characters passed, last
first. -/
def simplifyFrom : Nat → List Char → List Char → List Char
  | 0, done, cs => done.reverse ++ cs
  | _, done, [] => done.reverse
  | fuel + 1, done, c :: cs =>
    if c ≠ '(' then simplifyFrom fuel (c :: done) cs
    else if anonymous.isPrefixOf (c :: cs) then
      simplifyFrom fuel (anonymous.reverse ++ done) ((c :: cs).drop anonymous.length)
    else if operator.isPrefixOf done && cs.head? = some ')' then
      simplifyFrom fuel (')' :: '(' :: done) cs.tail
    else done.reverse
where
  anonymous : List Char := "(anonymous namespace)".toList
  operator : List Char := "operator".toList.reverse

def simplifyName (name : String) : String :=
  let cs := match name.toList with
    | '.' :: rest => rest
    | cs => cs
  String.ofList (simplifyFrom (cs.length + 1) [] cs)

/-- A filter has to match the whole of a name. -/
def anchored (filter : String) : Except ProfileError Pattern :=
  match Pattern.parse? ("^(?:" ++ filter ++ ")$") with
  | some p => .ok p
  | none => .error .frameFilter

/-- Which frames go: those that match `drop` and do not match `keep`. -/
structure FrameFilter where
  drop : Pattern
  keep : Option Pattern

namespace FrameFilter

def drops (f : FrameFilter) (name : String) : Bool :=
  let plain := simplifyName name
  !name.isEmpty && f.drop.isMatch plain && !f.keep.any (·.isMatch plain)

end FrameFilter

namespace Location

/-- What a filter leaves of a location: all of it, the lines above the last match,
or nothing when the outermost line matches. -/
inductive Fate
  | kept
  | trimmed
  | dropped
deriving DecidableEq, Repr

/-- The lines after the last one of a dropped function. -/
def linesAbove (dropped : List UInt64) (lines : List Line) : List Line :=
  (lines.reverse.takeWhile fun l => !dropped.contains l.functionId).reverse

def fate (dropped : List UInt64) (l : Location) : Fate :=
  let above := linesAbove dropped l.lines
  if above.length = l.lines.length then .kept
  else if above.isEmpty then .dropped
  else .trimmed

def trim (dropped : List UInt64) (l : Location) : Location :=
  match l.fate dropped with
  | .trimmed => { l with lines := linesAbove dropped l.lines }
  | _ => l

end Location

namespace Profile

/-- How the locations with one number fare together. -/
def fateOf (fates : List (UInt64 × Location.Fate)) (id : UInt64) : Location.Fate :=
  let found := (fates.filter (·.1 = id)).map (·.2)
  if found.contains .dropped then .dropped
  else if found.contains .trimmed then .trimmed
  else .kept

/-- Cuts a stack that is given root first. Frames are kept up to the first that is
kept whole, and from there up to the next that is not; of that one a trimmed
location stays. -/
def cutRootFirst (fate : UInt64 → Location.Fate) : Bool → List UInt64 → List UInt64
  | _, [] => []
  | foundUser, id :: rest =>
    match fate id, foundUser with
    | .kept, _ => id :: cutRootFirst fate true rest
    | _, false => id :: cutRootFirst fate false rest
    | .trimmed, true => [id]
    | .dropped, true => []

def cutStack (fate : UInt64 → Location.Fate) (stack : List UInt64) : List UInt64 :=
  (cutRootFirst fate false stack.reverse).reverse

/-- Drops the frames that a filter names. -/
def prune (p : Profile) (filter : FrameFilter) : Profile :=
  let dropped := (p.functions.filter fun f => filter.drops f.name).map (·.id)
  let fates := p.locations.map fun l => (l.id, l.fate dropped)
  { p with
    locations := p.locations.map (·.trim dropped)
    samples := p.samples.map fun s => { s with stack := cutStack (fateOf fates) s.stack } }

/-- Applies the filters that the profile brings along, if it has any. -/
def removeUninteresting (p : Profile) : Except ProfileError Profile :=
  if p.dropFrames.isEmpty then .ok p
  else do
    let drop ← anchored p.dropFrames
    let keep ← if p.keepFrames.isEmpty then pure none else (anchored p.keepFrames).map some
    return p.prune { drop, keep }

end Profile

end Profiling
