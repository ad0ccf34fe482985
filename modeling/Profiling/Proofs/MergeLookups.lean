import Profiling.Proofs.NormalForm

/-!
# Lookups of a merge

A merge looks up locations, mappings and functions of its sources by their numbers, and mappings of
the merged profile too. The same merge is said here with any other way to look things up, and stops
where nothing is found. On linked profiles this makes no difference as long as a part is found
wherever it is the only one with its number. So what is looked up is always there, and only once.
-/

namespace Profiling

/-- Exactly one of the parts has the number. -/
def Sole (id : α → UInt64) (n : UInt64) (xs : List α) (x : α) : Prop :=
  xs.filter (id · = n) = [x]

theorem Sole.mem_iff {id : α → UInt64} {n : UInt64} {xs : List α} {x : α} (only : Sole id n xs x)
    (y : α) : y ∈ xs ∧ id y = n ↔ y = x := by
  have listed : y ∈ xs.filter (id · = n) ↔ y = x := by
    rw [Sole] at only
    rw [only, List.mem_singleton]
  rwa [List.mem_filter, decide_eq_true_eq] at listed

theorem sole_of_mem {id : α → UInt64} {xs : List α} (distinct : (xs.map id).Nodup) {x : α}
    (member : x ∈ xs) : Sole id (id x) xs x := by
  have few : (xs.filter (id · = id x)).Nodup := distinct.of_map.filter _
  refine List.perm_singleton.mp ((List.perm_ext_iff_of_nodup few (List.nodup_singleton x)).mpr ?_)
  intro y
  rw [List.mem_filter, List.mem_singleton, decide_eq_true_eq]
  constructor
  · rintro ⟨other, same⟩
    exact List.inj_on_of_nodup_map distinct other member same
  · rintro rfl
    exact ⟨member, rfl⟩

theorem exists_sole {id : α → UInt64} {xs : List α} (distinct : (xs.map id).Nodup) {n : UInt64}
    (known : n ∈ xs.map id) : ∃ x, Sole id n xs x := by
  obtain ⟨x, member, rfl⟩ := List.mem_map.mp known
  exact ⟨x, sole_of_mem distinct member⟩

/-- A way to look up a part by its number. -/
structure Lookup where
  find : {α : Type} → (α → UInt64) → UInt64 → List α → Option α

namespace Lookup

/-- The way that finds nothing where several parts have the number. -/
def sole : Lookup where
  find id n xs :=
    match xs.filter (id · = n) with
    | [x] => some x
    | _ => none

def Exact (look : Lookup) : Prop :=
  ∀ {α : Type} {id : α → UInt64} {n : UInt64} {xs : List α} {x : α},
    Sole id n xs x → look.find id n xs = some x

theorem exact_sole : Lookup.sole.Exact := by
  intro α id n xs x only
  rw [Sole] at only
  simp only [sole, only]

def part (look : Lookup) {α : Type} (id : α → UInt64) (fault : UInt64 → Malformation)
    (n : UInt64) (xs : List α) : Except ProfileError α :=
  match look.find id n xs with
  | some x => .ok x
  | none => .error (.malformed (fault n))

theorem Exact.part_eq {look : Lookup} (exact : look.Exact) {α : Type} {id : α → UInt64}
    {xs : List α} (distinct : (xs.map id).Nodup) (fault : UInt64 → Malformation) {n : UInt64}
    {x : α} (found : xs.find? (id · == n) = some x) : look.part id fault n xs = .ok x := by
  obtain ⟨member, rfl⟩ := (find?_eq_some_iff distinct).mp found
  rw [part, exact (sole_of_mem distinct member)]

/-- What a merge finds is found in every other way too. -/
theorem Exact.exists_part {look : Lookup} (exact : look.Exact) {α : Type} {id : α → UInt64}
    {xs : List α} (distinct : (xs.map id).Nodup) (fault : UInt64 → Malformation) {n : UInt64}
    (known : n ∈ xs.map id) : ∃ x, xs.find? (id · == n) = some x ∧
      Merge.lastWith id n xs = some x ∧ look.part id fault n xs = .ok x := by
  obtain ⟨x, member, rfl⟩ := List.mem_map.mp known
  have found : xs.find? (id · == id x) = some x := (find?_eq_some_iff distinct).mpr ⟨member, rfl⟩
  exact ⟨x, found, (lastWith_eq_find? distinct _).trans found, exact.part_eq distinct fault found⟩

end Lookup

namespace Merge

section

variable (look : Lookup)

def placeMappingBy (s : State) (m : Mapping) : Except ProfileError (State × Target) :=
  match s.mappings.lookup m.key with
  | some id => do
    let n ← look.part Mapping.id .unknownMapping id s.out.mappings
    return (s, ⟨id, n.start - m.start⟩)
  | none => return placeMapping s m

def mapMappingBy (s : State) (m : Mapping) : Except ProfileError (State × Target) :=
  match s.mappingsById.lookup m.id with
  | some t => return (s, t)
  | none => do
    let (s, t) ← placeMappingBy look s m
    return ({ s with mappingsById := (m.id, t) :: s.mappingsById }, t)

def mapLineBy (src : Profile) (s : State) (l : Line) : Except ProfileError (State × Line) := do
  let f ← look.part Function.id .unknownFunction l.functionId src.functions
  let (s, functionId) := mapFunction s f
  return (s, { l with functionId })

def mapBackingBy (src : Profile) (s : State) (l : Location) :
    Except ProfileError (State × Target × UInt64) :=
  if l.mappingId = 0 then return (s, ⟨0, 0⟩, 0)
  else do
    let m ← look.part Mapping.id .unknownMapping l.mappingId src.mappings
    let (s, t) ← mapMappingBy look s m
    let n ← look.part Mapping.id .unknownMapping t.id s.out.mappings
    return (s, t, n.start)

def mapLocationBy (src : Profile) (s : State) (l : Location) :
    Except ProfileError (State × UInt64) :=
  match s.locationsById.lookup l.id with
  | some id => return (s, id)
  | none => do
    let (s, t, start) ← mapBackingBy look src s l
    let (s, lines) ← mapAll (mapLineBy look src) s l.lines
    let (s, id) := placeLocation s start
      { l with mappingId := t.id, address := l.address + t.shift, lines }
    return ({ s with locationsById := (l.id, id) :: s.locationsById }, id)

def mapFrameBy (src : Profile) (s : State) (id : UInt64) :
    Except ProfileError (State × UInt64) := do
  let l ← look.part Location.id .unknownLocation id src.locations
  mapLocationBy look src s l

def mapSampleBy (src : Profile) (s : State) (sample : Sample) : Except ProfileError State := do
  let (s, stack) ← mapAll (mapFrameBy look src) s sample.stack
  return placeSample s { sample with stack }

def startSourceBy (s : State) (src : Profile) : Except ProfileError State :=
  let s := { s with mappingsById := [], functionsById := [], locationsById := [] }
  match s.out.mappings, src.mappings with
  | [], main :: _ => return (← mapMappingBy look s main).1
  | _, _ => return s

def mapSourceBy (s : State) (src : Profile) : Except ProfileError State := do
  let s ← startSourceBy look s src
  (src.samples.filter (!·.isZero)).foldlM (mapSampleBy look src) s

def passBy (first : Profile) (rest : List Profile) : Except ProfileError Profile := do
  rest.forM first.compatible
  let s ← (first :: rest).foldlM (mapSourceBy look) { out := headers first (first :: rest) }
  return s.out

end

end Merge

/-- A merge with another way to look up parts, which fails where nothing is found. -/
def mergeBy (look : Lookup) : List Profile → Except ProfileError Profile
  | [] => .error .empty
  | first :: rest => do
    let merged ← Merge.passBy look first rest
    if merged.samples.any Sample.isZero then Merge.passBy look merged [] else .ok merged

namespace Merge

/-- Two steps that agree wherever a run can come to make the same run. -/
theorem mapAll_congr {f g : State → α → Except ProfileError (State × β)} {I : State → Prop}
    {xs : List α} (same : ∀ x ∈ xs, ∀ s, I s → g s x = f s x)
    (keep : ∀ x ∈ xs, ∀ s s' y, I s → f s x = .ok (s', y) → I s') {s : State} (h : I s) :
    mapAll g s xs = mapAll f s xs := by
  induction xs generalizing s with
  | nil => rfl
  | cons x xs ih =>
    rw [mapAll, mapAll, same x List.mem_cons_self s h]
    cases run : f s x with
    | error e => rfl
    | ok r =>
      have rest := ih (fun x hx => same x (List.mem_cons_of_mem _ hx))
        (fun x hx => keep x (List.mem_cons_of_mem _ hx))
        (keep x List.mem_cons_self s r.1 r.2 h run)
      simp only [bind, Except.bind, rest]

theorem foldlM_congr {f g : σ → α → Except ε σ} {I : σ → Prop} {xs : List α}
    (same : ∀ x ∈ xs, ∀ s, I s → g s x = f s x)
    (keep : ∀ x ∈ xs, ∀ s s', I s → f s x = .ok s' → I s') {s : σ} (h : I s) :
    xs.foldlM g s = xs.foldlM f s := by
  induction xs generalizing s with
  | nil => rfl
  | cons x xs ih =>
    rw [List.foldlM_cons, List.foldlM_cons, same x List.mem_cons_self s h]
    cases run : f s x with
    | error e => rfl
    | ok s' =>
      exact ih (fun x hx => same x (List.mem_cons_of_mem _ hx))
        (fun x hx => keep x (List.mem_cons_of_mem _ hx)) (keep x List.mem_cons_self s s' h run)

variable {P : Supply} {src : Profile} {s : State} {look : Lookup} (exact : look.Exact)
include exact

theorem placeMappingBy_eq (h : Sound P s) (m : Mapping) :
    placeMappingBy look s m = .ok (placeMapping s m) := by
  cases hit : s.mappings.lookup m.key with
  | none => simp [placeMappingBy, hit]; rfl
  | some id =>
    obtain ⟨n, found, -⟩ := h.mappings.find?_of_lookup hit
    have start : s.startOf id = n.start := h.startOf found
    have part := exact.part_eq h.mappings.numbered.nodup .unknownMapping found
    simp only [placeMappingBy, placeMapping, hit, part, start]
    rfl

theorem mapMappingBy_eq (h : Sound P s) (m : Mapping) :
    mapMappingBy look s m = .ok (mapMapping s m) := by
  cases hit : s.mappingsById.lookup m.id with
  | some t => simp only [mapMappingBy, mapMapping, hit]; rfl
  | none =>
    simp only [mapMappingBy, mapMapping, hit, placeMappingBy_eq exact h m]
    rfl

theorem mapLineBy_eq (resolved : src.Resolved) {l : Line} (known : l.functionId ∈ src.functionIds)
    (s : State) : mapLineBy look src s l = mapLine src s l := by
  obtain ⟨f, -, last, part⟩ := exact.exists_part resolved.functions.2 .unknownFunction known
  simp only [mapLineBy, mapLine, last, part]
  rfl

theorem mapBackingBy_eq (small : P.Countable) (resolved : src.Resolved) (drawn : src.DrawsFrom P)
    {l : Location} (member : l ∈ src.locations) (h : Sound P s) (c : Cached src s) :
    mapBackingBy look src s l = mapBacking src s l := by
  by_cases zero : l.mappingId = 0
  · simp [mapBackingBy, mapBacking, zero]; rfl
  · obtain ⟨m, found, last, part⟩ := exact.exists_part resolved.mappings.2 .unknownMapping
      ((resolved.backed l member).resolve_left zero)
    obtain ⟨hm, number⟩ := (find?_eq_some_iff resolved.mappings.2).mp found
    obtain ⟨s', t, run, sound, -, -, -, n, there, -, -⟩ :=
      mapMapping_spec small h c (number ▸ found) (drawn.mappings m hm)
    have part' := exact.part_eq sound.mappings.numbered.nodup .unknownMapping there
    simp only [mapBackingBy, mapBacking, zero, if_false, last, part, bind, Except.bind,
      mapMappingBy_eq exact h m, run, part', sound.startOf there]
    rfl

theorem mapLocationBy_eq (small : P.Countable) (resolved : src.Resolved) (drawn : src.DrawsFrom P)
    {l : Location} (member : l ∈ src.locations) (h : Sound P s) (c : Cached src s) :
    mapLocationBy look src s l = mapLocation src s l := by
  cases hit : s.locationsById.lookup l.id with
  | some id => simp only [mapLocationBy, mapLocation, hit]; rfl
  | none =>
    have lines (s : State) : mapAll (mapLineBy look src) s l.lines =
        mapAll (mapLine src) s l.lines :=
      mapAll_congr (I := fun _ => True)
        (fun ln hln s _ => mapLineBy_eq exact resolved (resolved.lined l member ln hln) s)
        (fun _ _ _ _ _ _ _ => True.intro) True.intro
    simp only [mapLocationBy, mapLocation, hit,
      mapBackingBy_eq exact small resolved drawn member h c, lines]
    rfl

theorem mapFrameBy_eq (small : P.Countable) (resolved : src.Resolved) (drawn : src.DrawsFrom P)
    {id : UInt64} (known : id ∈ src.locationIds) (h : Sound P s) (c : Cached src s) :
    mapFrameBy look src s id = mapFrame src s id := by
  obtain ⟨l, found, last, part⟩ := exact.exists_part resolved.locations.2 .unknownLocation known
  simp only [mapFrameBy, mapFrame, last, part, bind, Except.bind]
  exact mapLocationBy_eq exact small resolved drawn (List.mem_of_find?_eq_some found) h c

theorem mapSampleBy_eq (small : P.Countable) (resolved : src.Resolved) (drawn : src.DrawsFrom P)
    {sample : Sample} (member : sample ∈ src.samples) (tidy : Tidy P s) (c : Cached src s) :
    mapSampleBy look src s sample = mapSample src s sample := by
  have stack : mapAll (mapFrameBy look src) s sample.stack =
      mapAll (mapFrame src) s sample.stack := by
    refine mapAll_congr (I := fun s => Sound P s ∧ Cached src s ∧ s.out.Employed) ?_ ?_
      ⟨tidy.sound, c, tidy.employed⟩
    · intro id hid s h
      have known := resolved.stacked sample member id hid
      exact mapFrameBy_eq exact small resolved drawn known h.1 h.2.1
    · intro id hid s s' n h run
      have known := resolved.stacked sample member id hid
      obtain ⟨_, _, run', kept, -⟩ := mapFrame_spec small resolved drawn known h.1 h.2.1 h.2.2
      obtain ⟨rfl, -⟩ := Prod.mk.inj (Except.ok.inj (run.symm.trans run'))
      exact kept
  simp only [mapSampleBy, mapSample, stack]
  rfl

theorem startSourceBy_eq (h : Sound P s) (src : Profile) :
    startSourceBy look s src = .ok (startSource s src) := by
  cases merged : s.out.mappings with
  | cons m ms => simp only [startSourceBy, startSource, merged]; rfl
  | nil =>
    cases mains : src.mappings with
    | nil => simp only [startSourceBy, startSource, merged, mains]; rfl
    | cons main rest =>
      simp only [startSourceBy, startSource, merged, mains,
        mapMappingBy_eq exact (h.remember [] [] []) main]
      rfl

theorem mapSourceBy_eq (small : P.Countable) (resolved : src.Resolved) (drawn : src.DrawsFrom P)
    (tidy : Tidy P s) : mapSourceBy look s src = mapSource s src := by
  obtain ⟨tidy₀, cached, -, -⟩ := startSource_spec small drawn tidy
  rw [mapSourceBy, startSourceBy_eq exact tidy.sound, mapSource]
  refine foldlM_congr (I := fun s => Tidy P s ∧ Cached src s) ?_ ?_ ⟨tidy₀, cached⟩
  · intro t ht s h
    exact mapSampleBy_eq exact small resolved drawn (List.mem_filter.mp ht).1 h.1 h.2
  · intro t ht s s' h run
    obtain ⟨_, run', tidy', cached', -⟩ :=
      mapSample_spec small resolved drawn (List.mem_filter.mp ht).1 h.1 h.2
    obtain rfl := Except.ok.inj (run.symm.trans run')
    exact ⟨tidy', cached'⟩

theorem passBy_eq {first : Profile} {rest : List Profile} (small : P.Countable)
    (resolved : ∀ src ∈ first :: rest, src.Resolved)
    (drawn : ∀ src ∈ first :: rest, src.DrawsFrom P) :
    passBy look first rest = pass first rest := by
  have sources : (first :: rest).foldlM (mapSourceBy look) { out := headers first (first :: rest) }
      = (first :: rest).foldlM mapSource { out := headers first (first :: rest) } := by
    refine foldlM_congr (I := Tidy P) ?_ ?_ (tidy_headers P first (first :: rest))
    · intro src hsrc s tidy
      exact mapSourceBy_eq exact small (resolved src hsrc) (drawn src hsrc) tidy
    · intro src hsrc s s' tidy run
      obtain ⟨_, run', tidy', -⟩ := mapSource_spec small (resolved src hsrc) (drawn src hsrc) tidy
      obtain rfl := Except.ok.inj (run.symm.trans run')
      exact tidy'
  rw [passBy, pass, sources]

end Merge

open Merge

theorem mergeBy_eq {look : Lookup} (exact : look.Exact) {srcs : List Profile}
    (linked : ∀ src ∈ srcs, src.Linked) (countable : Countable srcs) :
    mergeBy look srcs = merge srcs := by
  cases srcs with
  | nil => rfl
  | cons first rest =>
    have small := countable.supply
    have drawn : ∀ src ∈ first :: rest, src.DrawsFrom (supply (first :: rest)) :=
      fun src => drawsFrom_supply
    have once := passBy_eq exact small (fun src hsrc => (linked src hsrc).toResolved) drawn
    rw [mergeBy, merge, once]
    cases run : pass first rest with
    | error e => rfl
    | ok merged =>
      have compatible : ∀ src ∈ rest, first.compatible src = .ok () := by
        rw [← forM_eq_ok_iff]
        cases checked : rest.forM first.compatible with
        | ok => rfl
        | error e => simp [Merge.pass, checked, bind, Except.bind] at run
      obtain ⟨_, run', made, -⟩ := pass_spec small linked drawn compatible
      obtain rfl := Except.ok.inj (run.symm.trans run')
      have again : passBy look merged [] = pass merged [] :=
        passBy_eq exact small (by simpa using made.linked.toResolved) (by simpa using made.drawn)
      simp only [bind, Except.bind, again]

end Profiling
