import Profiling.Dwarf.Ranges

/-!
# Functions

The functions of a unit, and the calls in them that were replaced by the body of the
function called. A call inside such a body is one level deeper.
-/

namespace Profiling.Dwarf

/-- The unit with an offset of the section, which stands after the unit's start. -/
def unitAt? (units : List CompileUnit) (offset : Nat) : Option CompileUnit :=
  match (units.takeWhile (·.offset < offset)).getLast? with
  | some u => if units.any (·.offset = offset) then none else some u
  | none => none

/-- What an entry says about its name. -/
structure Naming where
  /-- The name that the linker knows. -/
  linkage : Option (List UInt8) := none
  name : Option (List UInt8) := none
  /-- Another entry for the same function. -/
  other : Option Value := none

namespace Naming

def note (u : CompileUnit) (s : Sections) (n : Naming) : Attribute × Value → Naming
  | (.linkageName, v) => { n with linkage := n.linkage <|> u.text? s v }
  | (.name, v) => { n with name := u.text? s v <|> n.name }
  | (.abstractOrigin, v) => { n with other := some v }
  | (.specification, v) => { n with other := some v }
  | _ => n

def ofEntry (u : CompileUnit) (s : Sections) (entry : Entry) : Naming :=
  entry.attributes.foldl (note u s) {}

end Naming

/-- The name of the function that an entry elsewhere is for. References are followed a
few times; a reference that leads nowhere is a failure. -/
def nameOf? (units : List CompileUnit) (s : Sections) :
    Nat → CompileUnit → Value → Option (Option (List UInt8))
  | 0, _, _ => some none
  | fuel + 1, u, value => do
    let target ← match value with
      | .inUnit offset => some (some (u, offset))
      | .inInfo offset => do
        let unit ← unitAt? units offset
        some (some (unit, offset - unit.offset))
      | _ => some none
    match target with
    | none => some none
    | some (unit, offset) =>
      let naming := Naming.ofEntry unit s (← unit.entryAt? offset)
      match naming.linkage <|> naming.name, naming.other with
      | some name, _ => some (some name)
      | none, some next => nameOf? units s fuel unit next
      | none, none => some none

def referenceLimit : Nat := 16

/-- The name that the attributes of an entry give, in their order: a linkage name
replaces all others, and the rest counts only while there is no name. -/
def ownName? (units : List CompileUnit) (s : Sections) (u : CompileUnit) :
    Option (List UInt8) → Attributes → Option (Option (List UInt8))
  | name, [] => some name
  | name, (.linkageName, v) :: rest => ownName? units s u (u.text? s v <|> name) rest
  | none, (.name, v) :: rest => ownName? units s u (u.text? s v) rest
  | none, (.abstractOrigin, v) :: rest => do
    ownName? units s u (← nameOf? units s referenceLimit u v) rest
  | none, (.specification, v) :: rest => do
    ownName? units s u (← nameOf? units s referenceLimit u v) rest
  | name, _ :: rest => ownName? units s u name rest

/-- A call that the body of the called function stands for. -/
structure InlinedCall where
  name : Option (List UInt8)
  /-- Where the call was. -/
  file : Option Nat
  line : UInt32
  column : UInt32
deriving DecidableEq, Repr

/-- The addresses of an inlined call, and how deep it is. -/
structure InlinedRange where
  depth : Nat
  range : Range
  call : InlinedCall
deriving DecidableEq, Repr

structure FunctionCode where
  name : Option (List UInt8)
  inlined : List InlinedRange
deriving DecidableEq, Repr

/-- The number of an attribute; zero without one. -/
def wordOf (attributes : Attributes) (wanted : Attribute) : UInt32 :=
  .ofNat (((attributes.last? wanted).bind Value.number?).getD 0)

/-- The file of a call. In older units index zero is no file. -/
def callFile? (u : CompileUnit) (attributes : Attributes) : Option Nat :=
  let given := attributes.filterMap fun (a, v) => if a = .callFile then v.number? else none
  (given.filter fun n => 0 < n || 5 ≤ u.encoding.version).getLast?

/-- The entries inside the entry before them, which has a given depth, and the rest.
Fails if the unit ends inside. -/
def inside? (depth last : Int) : List Entry → Option (List Entry × List Entry)
  | [] => if last ≤ depth then some ([], []) else none
  | entry :: rest =>
    if entry.depth ≤ depth then some ([], entry :: rest)
    else (inside? depth last rest).map fun (inner, outer) => (entry :: inner, outer)

/-- The inlined calls among entries. The enclosing calls are given by their depths in
the tree, and `hidden` is the depth of an enclosing function. -/
def inlinedCalls? (units : List CompileUnit) (s : Sections) (u : CompileUnit) :
    List Int → Option Int → List Entry → Option (List InlinedRange)
  | _, _, [] => some []
  | enclosing, hidden, entry :: rest => do
    let enclosing := enclosing.filter (· < entry.depth)
    if hidden.any (· < entry.depth) then inlinedCalls? units s u enclosing hidden rest
    else
      match entry.tag with
      | .subprogram => inlinedCalls? units s u enclosing (some entry.depth) rest
      | .unknown => inlinedCalls? units s u enclosing none rest
      | .inlinedSubroutine => do
        let name ← ownName? units s u none entry.attributes
        let ranges ← (← Extent.ofAttributes? u s entry.attributes).ranges? u s
        let call : InlinedCall :=
          { name, file := callFile? u entry.attributes, line := wordOf entry.attributes .callLine,
            column := wordOf entry.attributes .callColumn }
        let here := ranges.map fun range => ⟨enclosing.length, range, call⟩
        some (here ++ (← inlinedCalls? units s u (entry.depth :: enclosing) none rest))

/-- By depth, and by addresses among those of a depth. -/
def InlinedRange.before (a b : InlinedRange) : Bool :=
  a.depth < b.depth || a.depth = b.depth && a.range.start ≤ b.range.start

/-- The function of an entry, from the entries after it. -/
def functionCode? (units : List CompileUnit) (s : Sections) (u : CompileUnit) (last : Int)
    (entry : Entry) (rest : List Entry) : Option FunctionCode := do
  let name ← ownName? units s u none entry.attributes
  let (inner, _) ← inside? entry.depth last rest
  let inlined ← inlinedCalls? units s u [] none inner
  some ⟨name, inlined.mergeSort InlinedRange.before⟩

/-- The addresses of a function. The function is missing where its entry makes no
sense. -/
structure FunctionRange where
  range : Range
  code : Option FunctionCode
deriving DecidableEq, Repr

/-- The functions among entries that have addresses. -/
def functionRanges? (units : List CompileUnit) (s : Sections) (u : CompileUnit) (last : Int) :
    List Entry → Option (List FunctionRange)
  | [] => some []
  | entry :: rest => do
    let here ←
      if entry.tag = .subprogram then do
        let ranges ← (← Extent.ofAttributes? u s entry.attributes).ranges? u s
        if ranges.isEmpty then some []
        else
          let code := functionCode? units s u last entry rest
          some (ranges.map fun range => (⟨range, code⟩ : FunctionRange))
      else some []
    some (here ++ (← functionRanges? units s u last rest))

/-- The functions of a unit by their addresses. -/
def functions? (units : List CompileUnit) (s : Sections) (u : CompileUnit) :
    Option (List FunctionRange) := do
  let (entries, last) ← u.entries?
  let ranges ← functionRanges? units s u last entries
  some (ranges.mergeSort fun a b => a.range.start ≤ b.range.start)

/-- The function with an address: of those that begin before it the last one. -/
def functionAt? (functions : List FunctionRange) (address : Nat) : Option FunctionRange :=
  (functions.takeWhile (·.range.start ≤ address)).getLast?.filter (·.range.contains address)

/-- Whether a range comes before those of a depth which begin after an address. -/
def InlinedRange.reaches (depth address : Nat) (r : InlinedRange) : Bool :=
  r.depth < depth || r.depth = depth && r.range.start ≤ address

/-- The inlined calls that an address is in, from depth `depth` on, outermost first. -/
def callsFrom (address : Nat) : Nat → Nat → List InlinedRange → List InlinedCall
  | 0, _, _ => []
  | fuel + 1, depth, ranges =>
    let reached := ranges.takeWhile (·.reaches depth address)
    match reached.getLast? with
    | none => []
    | some r =>
      if r.depth = depth ∧ r.range.contains address then
        r.call :: callsFrom address fuel (depth + 1) (ranges.drop reached.length)
      else []

namespace FunctionCode

/-- The inlined calls that an address is in, innermost first. -/
def callsAt (f : FunctionCode) (address : Nat) : List InlinedCall :=
  (callsFrom address (f.inlined.length + 1) 0 f.inlined).reverse

end FunctionCode

end Profiling.Dwarf
