import Profiling.Proofs.Upkeep

/-!
# Lines that are gained

A profile to which nothing is done but adding names: mappings may gain marks, functions are added
behind those that were there, and a location gets lines only if it had none, those of functions
that are known at its address. This composes, and the locations that got lines are counted once.
-/

namespace Profiling

structure Callee where
  name : String
  systemName : String
  filename : String
deriving DecidableEq, Repr

def SourceFrame.callee (frame : SourceFrame) : Callee :=
  ⟨frame.function, frame.function, (frame.location.bind (·.file)).getD ""⟩

namespace Mapping

/-- A mapping with more marks. -/
def Marked (m m' : Mapping) : Prop :=
  ∃ functions filenames lineNumbers inlineFrames : Bool, m' = { m with
    hasFunctions := m.hasFunctions || functions
    hasFilenames := m.hasFilenames || filenames
    hasLineNumbers := m.hasLineNumbers || lineNumbers
    hasInlineFrames := m.hasInlineFrames || inlineFrames }

theorem Marked.refl (m : Mapping) : m.Marked m := ⟨false, false, false, false, by simp⟩

theorem Marked.trans {a b c : Mapping} (h : a.Marked b) (h' : b.Marked c) : a.Marked c := by
  obtain ⟨f, n, l, i, rfl⟩ := h
  obtain ⟨f', n', l', i', rfl⟩ := h'
  exact ⟨f || f', n || n', l || l', i || i', by simp only [Bool.or_assoc]⟩

theorem marked_searched (m : Mapping) : m.Marked m.searched := by
  refine ⟨true, true, true, true, ?_⟩
  simp [searched]

theorem marked_named (m : Mapping) : m.Marked { m with hasFunctions := true } := by
  refine ⟨true, false, false, false, ?_⟩
  simp

end Mapping

/-- Tells which functions are known at an address of a mapping. -/
abbrev Teller := Mapping → UInt64 → List Callee → Prop

def Unmarked (tells : Teller) : Prop :=
  ∀ m m' : Mapping, m.Marked m' →
    ∀ address callees, tells m' address callees → tells m address callees

/-- A location is as it was, or got its first lines: those of the functions that are known at its
address, in a mapping that was not named yet. -/
inductive Location.Gains (tells : Teller) (mappings : List Mapping) (calls : Line → Callee → Prop)
    (l : Location) : Location → Prop
  | same : Gains tells mappings calls l l
  | named {m : Mapping} {lines : List Line} {callees : List Callee} (member : m ∈ mappings)
      (unnamed : m.hasFunctions = false) (lacks : l.lacksLines m = true)
      (told : tells m l.address callees) (some : lines ≠ [])
      (lined : List.Forall₂ calls lines callees) :
      Gains tells mappings calls l { l with lines }

/-- How many locations got their first lines. -/
def countNamed (before after : List Location) : Nat :=
  (before.zip after).countP fun (l, l') => l.lines.isEmpty && !l'.lines.isEmpty

theorem Location.Gains.mono {tells : Teller} {mappings mappings' : List Mapping}
    {calls calls' : Line → Callee → Prop} (more : ∀ m ∈ mappings, m ∈ mappings')
    (callsMore : ∀ ln c, calls ln c → calls' ln c) {l l' : Location}
    (h : l.Gains tells mappings calls l') : l.Gains tells mappings' calls' l' := by
  cases h with
  | same => exact .same
  | named member unnamed lacks told some lined =>
    exact .named (more _ member) unnamed lacks told some (lined.imp callsMore)

theorem countNamed_cons (l l' : Location) (ls ls' : List Location) :
    countNamed (l :: ls) (l' :: ls') = countNamed [l] [l'] + countNamed ls ls' := by
  simp only [countNamed, List.zip_cons_cons, List.zip_nil_left, List.countP_cons, List.countP_nil]
  omega

theorem forall₂_set {R : α → α → Prop} (refl : ∀ x, R x x) {xs : List α} {i : Nat} {x y : α}
    (here : xs[i]? = some x) (related : R x y) : List.Forall₂ R xs (xs.set i y) := by
  induction xs generalizing i with
  | nil => cases here
  | cons z xs ih =>
    cases i with
    | zero =>
      obtain rfl : z = x := Option.some.inj here
      exact .cons related (List.forall₂_same.mpr fun x _ => refl x)
    | succ i => exact .cons (refl z) (ih here)

namespace Profile

/-- The function of a line goes by these names. -/
def Calls (p : Profile) (ln : Line) (c : Callee) : Prop :=
  ∃ f, p.function? ln.functionId = some f ∧ f.isNamed c.name c.systemName c.filename = true

/-- A profile to which nothing was done but adding names. -/
structure Adds (tells : Teller) (p q : Profile) : Prop where
  frame : q = { p with mappings := q.mappings, locations := q.locations, functions := q.functions }
  mappings : List.Forall₂ Mapping.Marked p.mappings q.mappings
  functions : p.functions <+: q.functions
  locations : List.Forall₂ (Location.Gains tells p.mappings q.Calls) p.locations q.locations

/-- The numbers of functions are told apart, and stay so when functions are added until there are
`total` of them. -/
structure RoomFor (p : Profile) (total : Nat) : Prop where
  distinct : p.functionIds.Nodup
  few : p.maxFunctionId.toNat + (total - p.functions.length) < UInt64.size

theorem Calls.mono {p q : Profile} (functions : p.functions <+: q.functions) {ln : Line}
    {c : Callee} (h : p.Calls ln c) : q.Calls ln c := by
  obtain ⟨f, found, named⟩ := h
  refine ⟨f, ?_, named⟩
  obtain ⟨new, more⟩ := functions
  rw [function?, ← more, List.find?_append]
  rw [function?] at found
  rw [found]
  rfl

theorem Adds.refl (tells : Teller) (p : Profile) : p.Adds tells p := by
  refine ⟨rfl, ?_, List.prefix_rfl, ?_⟩
  · exact List.forall₂_same.mpr fun m _ => .refl m
  · exact List.forall₂_same.mpr fun l _ => .same

theorem Adds.mono {tells tells' : Teller} (more : ∀ m address callees,
    tells m address callees → tells' m address callees) {p q : Profile} (h : p.Adds tells q) :
    p.Adds tells' q := by
  refine ⟨h.frame, h.mappings, h.functions, h.locations.imp fun l l' gained => ?_⟩
  cases gained with
  | same => exact .same
  | named member unnamed lacks told some lined =>
    exact .named member unnamed lacks (more _ _ _ told) some lined

theorem Adds.trans {tells : Teller} (unmarked : Unmarked tells) {p q r : Profile}
    (h : p.Adds tells q) (h' : q.Adds tells r) : p.Adds tells r := by
  refine ⟨?_, ?_, h.functions.trans h'.functions, ?_⟩
  · rw [h'.frame, h.frame]
  · exact forall₂_trans (fun _ _ _ first second => first.trans second) h.mappings h'.mappings
  · refine forall₂_trans ?_ h.locations h'.locations
    intro l l' l'' gained gained'
    cases gained with
    | same =>
      cases gained' with
      | same => exact .same
      | named member unnamed lacks told some lined =>
        obtain ⟨m, hm, marks⟩ := exists_of_mem_right h.mappings member
        refine .named hm ?_ ?_ (unmarked _ _ marks _ _ told) some lined
        · obtain ⟨f, _, _, _, rfl⟩ := marks
          exact (Bool.or_eq_false_iff.mp unnamed).1
        · obtain ⟨_, _, _, _, rfl⟩ := marks
          exact lacks
    | named member unnamed lacks told some lined =>
      cases gained' with
      | same =>
        exact .named member unnamed lacks told some (lined.imp fun _ _ => Calls.mono h'.functions)
      | named _ _ lacks' _ _ _ =>
        have bare := (Bool.and_eq_true_iff.mp lacks').2
        exact absurd (List.isEmpty_iff.mp bare) some

/-- A run that adds names and counts the locations that got lines, as long as there are numbers
for the functions that it adds. -/
structure Grows (tells : Teller) (p : Profile) (count : Nat) (q : Profile) : Prop where
  functions : p.functions <+: q.functions
  adds : ∀ total, q.functions.length ≤ total → p.RoomFor total →
    p.Adds tells q ∧ q.RoomFor total ∧ count = countNamed p.locations q.locations

theorem countNamed_self (ls : List Location) : countNamed ls ls = 0 := by
  induction ls with
  | nil => rfl
  | cons l ls ih =>
    rw [countNamed_cons, ih]
    simp [countNamed]

/-- No location gets its first lines twice. -/
theorem countNamed_trans {tells : Teller} {mappings mappings' : List Mapping}
    {calls calls' : Line → Callee → Prop} {ls ls' ls'' : List Location}
    (h : List.Forall₂ (Location.Gains tells mappings calls) ls ls')
    (h' : List.Forall₂ (Location.Gains tells mappings' calls') ls' ls'') :
    countNamed ls ls'' = countNamed ls ls' + countNamed ls' ls'' := by
  induction h generalizing ls'' with
  | nil =>
    cases h'
    rfl
  | @cons l l' ls ls' gained _ ih =>
    cases h' with
    | @cons _ l'' _ ls'' gained' others' =>
      have here : countNamed [l] [l''] = countNamed [l] [l'] + countNamed [l'] [l''] := by
        cases gained with
        | same => rw [countNamed_self, Nat.zero_add]
        | named _ _ _ _ some _ =>
          cases gained' with
          | same => rw [countNamed_self, Nat.add_zero]
          | named _ _ lacks _ _ _ =>
            exact absurd (List.isEmpty_iff.mp (Bool.and_eq_true_iff.mp lacks).2) some
      have all := countNamed_cons l l'' ls ls''
      have before := countNamed_cons l l' ls ls'
      have after := countNamed_cons l' l'' ls' ls''
      have rest := ih others'
      omega

theorem Grows.refl (tells : Teller) (p : Profile) : p.Grows tells 0 p :=
  ⟨List.prefix_rfl, fun _ _ room => ⟨.refl tells p, room, (countNamed_self _).symm⟩⟩

theorem Grows.mono {tells tells' : Teller} (more : ∀ m address callees,
    tells m address callees → tells' m address callees) {p q : Profile} {count : Nat}
    (h : p.Grows tells count q) : p.Grows tells' count q := by
  refine ⟨h.functions, fun total enough room => ?_⟩
  obtain ⟨adds, rest⟩ := h.adds total enough room
  exact ⟨adds.mono more, rest⟩

theorem Grows.trans {tells : Teller} (unmarked : Unmarked tells) {p q r : Profile} {n k : Nat}
    (h : p.Grows tells n q) (h' : q.Grows tells k r) : p.Grows tells (n + k) r := by
  refine ⟨h.functions.trans h'.functions, fun total enough room => ?_⟩
  have fewer := h'.functions.length_le
  obtain ⟨adds, room', count⟩ := h.adds total (by omega) room
  obtain ⟨adds', room'', count'⟩ := h'.adds total enough room'
  refine ⟨adds.trans unmarked adds', room'', ?_⟩
  rw [count, count', ← countNamed_trans adds.locations adds'.locations]

theorem le_foldl_max (fs : List Function) (n : UInt64) :
    n ≤ fs.foldl (fun m f => max m f.id) n ∧
      ∀ f ∈ fs, f.id ≤ fs.foldl (fun m f => max m f.id) n := by
  induction fs generalizing n with
  | nil => exact ⟨UInt64.le_refl n, fun f h => absurd h List.not_mem_nil⟩
  | cons g fs ih =>
    obtain ⟨start, rest⟩ := ih (max n g.id)
    have greater : max n g.id = if n ≤ g.id then g.id else n := rfl
    have bounds : n ≤ max n g.id ∧ g.id ≤ max n g.id := by
      rw [greater]
      split
      · rename_i le
        exact ⟨le, UInt64.le_refl _⟩
      · rename_i gt
        exact ⟨UInt64.le_refl _, UInt64.le_of_lt (UInt64.not_le.mp gt)⟩
    constructor
    · exact UInt64.le_trans bounds.1 start
    · intro f hf
      rcases List.mem_cons.mp hf with rfl | hf
      · exact UInt64.le_trans bounds.2 start
      · exact rest f hf

theorem le_maxFunctionId {p : Profile} {f : Function} (member : f ∈ p.functions) :
    f.id ≤ p.maxFunctionId :=
  (le_foldl_max p.functions 0).2 f member

structure Learns (p q : Profile) (lines : List Line) (callees : List Callee) : Prop where
  frame : q = { p with functions := q.functions }
  functions : p.functions <+: q.functions
  calls : ∀ total, q.functions.length ≤ total → p.RoomFor total →
    q.RoomFor total ∧ List.Forall₂ q.Calls lines callees

theorem Learns.nothing (p : Profile) : p.Learns p [] [] :=
  ⟨rfl, List.prefix_rfl, fun _ _ room => ⟨room, .nil⟩⟩

theorem Learns.append {p q r : Profile} {lines lines' : List Line} {callees callees' : List Callee}
    (h : p.Learns q lines callees) (h' : q.Learns r lines' callees') :
    p.Learns r (lines ++ lines') (callees ++ callees') := by
  refine ⟨?_, h.functions.trans h'.functions, ?_⟩
  · rw [h'.frame, h.frame]
  · intro total enough room
    have fewer := h'.functions.length_le
    obtain ⟨room', called⟩ := h.calls total (by omega) room
    obtain ⟨room'', called'⟩ := h'.calls total enough room'
    exact ⟨room'', List.rel_append (called.imp fun _ _ => Calls.mono h'.functions) called'⟩

theorem maxFunctionId_append (p : Profile) (f : Function) :
    ({ p with functions := p.functions ++ [f] } : Profile).maxFunctionId =
      max p.maxFunctionId f.id := by
  rw [maxFunctionId, List.foldl_append]
  rfl

/-- While there is room the next number is new and the greatest. -/
theorem roomFor_next {p : Profile} {total : Nat} (room : p.RoomFor total)
    (enough : p.functions.length < total) {f : Function} (next : f.id = p.maxFunctionId + 1) :
    ({ p with functions := p.functions ++ [f] } : Profile).RoomFor total := by
  have few := room.few
  have one : (1 : UInt64).toNat = 1 := rfl
  have number : f.id.toNat = p.maxFunctionId.toNat + 1 := by
    rw [next, UInt64.toNat_add, one]
    exact Nat.mod_eq_of_lt (by change _ < UInt64.size; omega)
  have greatest : max p.maxFunctionId f.id = f.id := by
    refine if_pos (UInt64.le_iff_toNat_le.mpr ?_)
    omega
  constructor
  · rw [functionIds, List.map_append, List.map_singleton]
    refine List.nodup_append.mpr ⟨room.distinct, List.nodup_singleton _, ?_⟩
    intro id old id' same equal
    obtain ⟨g, hg, rfl⟩ := List.mem_map.mp old
    have bound := UInt64.le_iff_toNat_le.mp (le_maxFunctionId hg)
    rw [List.mem_singleton.mp same] at equal
    rw [equal] at bound
    omega
  · rw [maxFunctionId_append, greatest, number]
    simp only [List.length_append, List.length_singleton]
    omega

theorem learns_internFunction (p : Profile) (c : Callee) (line column : Int64) :
    p.Learns (p.internFunction c.name c.systemName c.filename).2
      [⟨(p.internFunction c.name c.systemName c.filename).1, line, column⟩] [c] := by
  have interns := p.internFunction_spec c.name c.systemName c.filename
  refine ⟨interns.frame, interns.functions, ?_⟩
  intro total enough room
  rw [internFunction] at enough ⊢
  cases found : p.functions.find? (·.isNamed c.name c.systemName c.filename) with
  | some f =>
    have here : p.function? f.id = some f :=
      (find?_eq_some_iff room.distinct).mpr ⟨List.mem_of_find?_eq_some found, rfl⟩
    have named : f.isNamed c.name c.systemName c.filename = true := by
      simpa using List.find?_some found
    exact ⟨room, .cons ⟨f, here, named⟩ .nil⟩
  | none =>
    simp only [found, List.length_append, List.length_singleton] at enough ⊢
    have room' := roomFor_next room (by omega)
      (f := ⟨p.maxFunctionId + 1, c.name, c.systemName, c.filename, 0⟩) rfl
    refine ⟨room', .cons ⟨_, find?_append_new room'.distinct, ?_⟩ .nil⟩
    simp [Function.isNamed]

end Profile

namespace Symbolize

open Profile

theorem learns_internFrames (frames : List SourceFrame) (p : Profile) :
    p.Learns (internFrames frames p).2 (internFrames frames p).1
      (frames.map SourceFrame.callee) := by
  induction frames generalizing p with
  | nil => exact .nothing p
  | cons frame frames ih =>
    have first := p.learns_internFunction frame.callee (columnOf (frame.location.bind (·.line)))
      (columnOf (frame.location.bind (·.column)))
    exact first.append (ih (internFrame frame p).2)

/-- At the addresses in question lines are found only for functions that are known, and those are
added. -/
def Teaches (wanted : UInt64 → Prop) (known : UInt64 → List Callee → Prop)
    (lines? : UInt64 → Profile → Option (List Line × Profile)) : Prop :=
  ∀ address p lines q, wanted address → lines? address p = some (lines, q) →
    lines ≠ [] ∧ ∃ callees, known address callees ∧ p.Learns q lines callees

def NamesAt (tells : Teller) (i : Nat) (p : Profile) (result : Nat × Profile) : Prop :=
  p.Grows tells result.1 result.2 ∧ ∃ marked, result.2.mappings = p.mappings.set i marked

theorem NamesAt.nothing {tells : Teller} {i : Nat} {p : Profile} {mapping : Mapping}
    (here : p.mappings[i]? = some mapping) : NamesAt tells i p (0, p) := by
  refine ⟨.refl tells p, mapping, ?_⟩
  obtain ⟨inside, same⟩ := List.getElem?_eq_some_iff.mp here
  rw [← same]
  exact (List.set_getElem_self inside).symm

section

variable {tells : Teller} {mapping : Mapping} (unnamed : mapping.hasFunctions = false)
  {lines? : UInt64 → Profile → Option (List Line × Profile)} {wanted : UInt64 → Prop}
  (teaches : Teaches wanted (tells mapping) lines?)
include unnamed teaches

theorem nameStep_gains (count : Nat) (done : List Location) (p : Profile) (l : Location)
    (asked : l.lacksLines mapping = true → wanted l.address) :
    ∃ l' q lines callees,
      nameStep lines? mapping (count, done, p) l =
          (count + countNamed [l] [l'], l' :: done, q) ∧
        p.Learns q lines callees ∧
        ∀ total, q.functions.length ≤ total → p.RoomFor total →
          l.Gains tells [mapping] q.Calls l' := by
  have kept : countNamed [l] [l] = 0 := by simp [countNamed]
  by_cases lacks : l.lacksLines mapping = true
  · cases lined : lines? l.address p with
    | none =>
      refine ⟨l, p, [], [], ?_, .nothing p, fun _ _ _ => .same⟩
      simp [nameStep, lacks, lined, kept]
    | some named =>
      obtain ⟨lines, q⟩ := named
      obtain ⟨some, callees, told, learns⟩ := teaches _ _ _ _ (asked lacks) lined
      have gained : countNamed [l] [{ l with lines }] = 1 := by
        have bare := (Bool.and_eq_true_iff.mp lacks).2
        simp [countNamed, bare, some]
      refine ⟨{ l with lines }, q, lines, callees, ?_, learns, ?_⟩
      · simp [nameStep, lacks, lined, gained]
      · intro total enough room
        exact .named (List.mem_singleton_self _) unnamed lacks told some
          (learns.calls total enough room).2
  · refine ⟨l, p, [], [], ?_, .nothing p, fun _ _ _ => .same⟩
    simp [nameStep, lacks, kept]

theorem nameSteps_gains (ls : List Location) (count : Nat) (done : List Location) (p : Profile)
    (asked : ∀ l ∈ ls, l.lacksLines mapping = true → wanted l.address) :
    ∃ named q lines callees,
      ls.foldl (nameStep lines? mapping) (count, done, p) =
          (count + countNamed ls named, named.reverse ++ done, q) ∧
        p.Learns q lines callees ∧
        ∀ total, q.functions.length ≤ total → p.RoomFor total →
          List.Forall₂ (Location.Gains tells [mapping] q.Calls) ls named := by
  induction ls generalizing count done p with
  | nil => exact ⟨[], p, [], [], rfl, .nothing p, fun _ _ _ => .nil⟩
  | cons l ls ih =>
    obtain ⟨first, rest⟩ := List.forall_mem_cons.mp asked
    obtain ⟨l', q, lines, callees, step, learns, gains⟩ :=
      nameStep_gains unnamed teaches count done p l first
    obtain ⟨named, r, lines', callees', run, learns', others⟩ :=
      ih (count + countNamed [l] [l']) (l' :: done) q rest
    refine ⟨l' :: named, r, lines ++ lines', callees ++ callees', ?_, learns.append learns', ?_⟩
    · rw [List.foldl_cons, step, run, List.reverse_cons, List.append_assoc, Nat.add_assoc,
        ← countNamed_cons]
      rfl
    · intro total enough room
      have fewer := learns'.functions.length_le
      have room' := (learns.calls total (by omega) room).1
      have first := gains total (by omega) room
      exact .cons (first.mono (fun _ h => h) fun _ _ => Calls.mono learns'.functions)
        (others total enough room')

/-- What is done for a mapping adds names and nothing else. -/
theorem nameLocations_adds {p : Profile} {i : Nat} {marked : Mapping}
    (here : p.mappings[i]? = some mapping) (marks : mapping.Marked marked)
    (asked : ∀ l ∈ p.locations, l.lacksLines mapping = true → wanted l.address) :
    NamesAt tells i p ((nameLocations lines? mapping p).1,
      setMapping (nameLocations lines? mapping p).2 i marked) := by
  obtain ⟨named, q, lines, callees, run, learns, gains⟩ :=
    nameSteps_gains unnamed teaches p.locations 0 [] p asked
  have result : nameLocations lines? mapping p =
      (countNamed p.locations named, { p with functions := q.functions, locations := named }) := by
    rw [nameLocations_eq, run, learns.frame]
    simp
  rw [result]
  refine ⟨⟨learns.functions, ?_⟩, marked, rfl⟩
  intro total enough room
  have room' := (learns.calls total enough room).1
  refine ⟨⟨rfl, ?_, learns.functions, ?_⟩, ⟨room'.distinct, room'.few⟩, rfl⟩
  · exact forall₂_set Mapping.Marked.refl here marks
  · have member : mapping ∈ p.mappings := List.mem_of_getElem? here
    refine (gains total enough room).imp fun l l' gained => ?_
    refine gained.mono ?_ fun ln c called => called
    intro m hm
    rw [List.mem_singleton.mp hm]
    exact member

end

end Symbolize

end Profiling
