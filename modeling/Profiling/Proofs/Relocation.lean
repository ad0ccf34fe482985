import Profiling.DebugFile
import Profiling.Proofs.Filing
import Profiling.Proofs.NormalForm
import Profiling.Proofs.Regrouping
import Profiling.Symbolize

/-!
# Locations that move

Merging moves a location along with its mapping, and may number it anew. The merge is run again
with a record of where the locations of each source went. Through any number of merges a location
keeps its distance from the start of its mapping, so that symbolization finds the address that it
had at first.
-/

namespace Profiling

namespace Merge

/-- The new number of each location that is moved. -/
abbrev Moves := UInt64 → Option UInt64

def Moves.andThen (first second : Moves) : Moves := fun id => (first id).bind second

/-- Brings sources together, and tells for each where its locations went. -/
def moveSources : State → List Profile → Except ProfileError (State × List Moves)
  | s, [] => .ok (s, [])
  | s, src :: srcs => do
    let s ← mapSource s src
    let (last, moves) ← moveSources s srcs
    .ok (last, (List.lookup · s.locationsById) :: moves)

def movePass (first : Profile) (rest : List Profile) :
    Except ProfileError (Profile × List Moves) := do
  rest.forM first.compatible
  let (s, moves) ← moveSources { out := headers first (first :: rest) } (first :: rest)
  return (s.out, moves)

/-- As `merge`, with a record. Locations that the second pass drops go nowhere. -/
def move : List Profile → Except ProfileError (Profile × List Moves)
  | [] => .error .empty
  | first :: rest => do
    let (merged, moves) ← movePass first rest
    if merged.samples.any Sample.isZero then
      let (out, again) ← movePass merged []
      return (out, moves.map (·.andThen (again.headD fun _ => none)))
    else .ok (merged, moves)

theorem moveSources_fst (s : State) (srcs : List Profile) :
    (moveSources s srcs).map Prod.fst = srcs.foldlM mapSource s := by
  induction srcs generalizing s with
  | nil => rfl
  | cons src srcs ih =>
    rw [moveSources, List.foldlM_cons]
    cases mapSource s src with
    | error e => rfl
    | ok s' =>
      simp only [bind, Except.bind] at ih ⊢
      rw [← ih s']
      cases moveSources s' srcs <;> rfl

theorem movePass_fst (first : Profile) (rest : List Profile) :
    (movePass first rest).map Prod.fst = pass first rest := by
  rw [movePass, pass, ← moveSources_fst]
  cases rest.forM first.compatible with
  | error e => rfl
  | ok =>
    cases moveSources { out := headers first (first :: rest) } (first :: rest) <;> rfl

/-- The record does not change what is merged. -/
theorem move_fst (srcs : List Profile) : (move srcs).map Prod.fst = merge srcs := by
  match srcs with
  | [] => rfl
  | first :: rest =>
    rw [move, merge, ← movePass_fst]
    cases movePass first rest with
    | error e => rfl
    | ok result =>
      obtain ⟨merged, moves⟩ := result
      by_cases cancelled : merged.samples.any Sample.isZero
      · simp only [bind, Except.bind, Except.map, cancelled, if_true, ← movePass_fst merged []]
        cases movePass merged [] <;> rfl
      · simp only [bind, Except.bind, Except.map, cancelled]
        rfl

/-- What is remembered of locations stays remembered. -/
def Retains (s s' : State) : Prop :=
  ∀ old new, s.locationsById.lookup old = some new → s'.locationsById.lookup old = some new

theorem Retains.of_eq {s s' : State} (same : s'.locationsById = s.locationsById) :
    Retains s s' := by
  intro old new hit
  rwa [same]

theorem Retains.trans {s s' s'' : State} (h : Retains s s') (h' : Retains s' s'') :
    Retains s s'' :=
  fun old new hit => h' old new (h old new hit)

theorem locationsById_placeMapping (s : State) (m : Mapping) :
    (placeMapping s m).1.locationsById = s.locationsById := by
  rw [placeMapping]
  split <;> rfl

theorem locationsById_mapMapping (s : State) (m : Mapping) :
    (mapMapping s m).1.locationsById = s.locationsById := by
  rw [mapMapping]
  split
  · rfl
  · exact locationsById_placeMapping s m

theorem locationsById_placeFunction (s : State) (f : Function) :
    (placeFunction s f).1.locationsById = s.locationsById := by
  rw [placeFunction]
  split <;> rfl

theorem locationsById_mapFunction (s : State) (f : Function) :
    (mapFunction s f).1.locationsById = s.locationsById := by
  rw [mapFunction]
  split
  · rfl
  · exact locationsById_placeFunction s f

theorem locationsById_placeLocation (s : State) (start : UInt64) (l : Location) :
    (placeLocation s start l).1.locationsById = s.locationsById := by
  rw [placeLocation]
  dsimp only
  split <;> rfl

theorem locationsById_placeSample (s : State) (t : Sample) :
    (placeSample s t).locationsById = s.locationsById := by
  rw [placeSample]
  dsimp only
  split <;> rfl

section

variable {src : Profile} {s s' : State}

theorem locationsById_mapBacking {l : Location} {t : Target} {start : UInt64}
    (run : mapBacking src s l = .ok (s', t, start)) : s'.locationsById = s.locationsById := by
  rw [mapBacking] at run
  split at run
  · rw [← (Prod.mk.inj (Except.ok.inj run)).1]
  · split at run
    · cases run
    · rw [← (Prod.mk.inj (Except.ok.inj run)).1]
      exact locationsById_mapMapping s _

theorem locationsById_mapLines {lines ys : List Line}
    (run : mapAll (mapLine src) s lines = .ok (s', ys)) : s'.locationsById = s.locationsById := by
  refine (mapAll_ok (I := fun _ => True)
    (R := fun s s' _ => s'.locationsById = s.locationsById) (fun _ => rfl)
    (fun head rest => rest.trans head) ?_ trivial run).2
  intro l _ s s' y _ step
  rw [mapLine] at step
  split at step
  · cases step
  · rw [← (Prod.mk.inj (Except.ok.inj step)).1]
    exact ⟨trivial, locationsById_mapFunction s _⟩

theorem mapLocation_moves {l : Location} {new : UInt64}
    (run : mapLocation src s l = .ok (s', new)) :
    Retains s s' ∧ s'.locationsById.lookup l.id = some new := by
  rw [mapLocation] at run
  cases hit : s.locationsById.lookup l.id with
  | some id =>
    rw [hit] at run
    obtain ⟨rfl, rfl⟩ := Prod.mk.inj (Except.ok.inj run)
    exact ⟨.of_eq rfl, hit⟩
  | none =>
    rw [hit] at run
    obtain ⟨⟨s₁, t, start⟩, backing, run⟩ := bind_eq_ok_iff.mp run
    obtain ⟨⟨s₂, lines⟩, lining, run⟩ := bind_eq_ok_iff.mp run
    let moved : Location :=
      { l with mappingId := t.id, address := l.address + t.shift, lines }
    rcases placed : placeLocation s₂ start moved with ⟨s₃, n⟩
    have same : s₃.locationsById = s.locationsById := by
      have kept := locationsById_placeLocation s₂ start moved
      rwa [placed, locationsById_mapLines lining, locationsById_mapBacking backing] at kept
    dsimp only at run
    rw [show placeLocation s₂ start _ = (s₃, n) from placed] at run
    obtain ⟨rfl, rfl⟩ := Prod.mk.inj (Except.ok.inj run)
    refine ⟨?_, List.lookup_cons_self⟩
    intro old new known
    have other : old ≠ l.id := by
      rintro rfl
      rw [hit] at known
      cases known
    rw [List.lookup_cons, beq_false_of_ne other, same]
    exact known

/-- The stack of a sample is moved as a whole. -/
theorem mapStack_moves {stack ids : List UInt64}
    (run : mapAll (mapFrame src) s stack = .ok (s', ids)) :
    Retains s s' ∧ stack.mapM (List.lookup · s'.locationsById) = some ids := by
  induction stack generalizing s ids with
  | nil =>
    obtain ⟨rfl, rfl⟩ := Prod.mk.inj (Except.ok.inj run)
    exact ⟨.of_eq rfl, rfl⟩
  | cons id stack ih =>
    obtain ⟨⟨s₁, new⟩, head, run⟩ := bind_eq_ok_iff.mp run
    obtain ⟨⟨s₂, ids'⟩, tail, run⟩ := bind_eq_ok_iff.mp run
    obtain ⟨rfl, rfl⟩ := Prod.mk.inj (Except.ok.inj run)
    rw [mapFrame] at head
    split at head
    · cases head
    rename_i l found
    obtain ⟨-, rfl⟩ := lastWith_mem found
    obtain ⟨kept, moved⟩ := mapLocation_moves head
    obtain ⟨kept', moved'⟩ := ih tail
    refine ⟨kept.trans kept', ?_⟩
    rw [List.mapM_cons, kept' _ _ moved, moved']
    rfl

theorem mapSample_moves {t : Sample} (run : mapSample src s t = .ok s') :
    Retains s s' ∧ ∃ stack, t.stack.mapM (List.lookup · s'.locationsById) = some stack := by
  obtain ⟨⟨s₁, stack⟩, stacked, run⟩ := bind_eq_ok_iff.mp run
  obtain rfl := Except.ok.inj run
  obtain ⟨kept, moved⟩ := mapStack_moves stacked
  have same : (placeSample s₁ { t with stack }).locationsById = s₁.locationsById :=
    locationsById_placeSample s₁ _
  refine ⟨kept.trans (.of_eq same), stack, ?_⟩
  rwa [same]

theorem mapSamples_moves {samples : List Sample}
    (run : samples.foldlM (mapSample src) s = .ok s') :
    Retains s s' ∧
      ∀ t ∈ samples, ∃ stack, t.stack.mapM (List.lookup · s'.locationsById) = some stack := by
  induction samples generalizing s with
  | nil =>
    obtain rfl := Except.ok.inj run
    exact ⟨.of_eq rfl, fun _ h => nomatch h⟩
  | cons t samples ih =>
    rw [List.foldlM_cons] at run
    obtain ⟨s₁, head, tail⟩ := bind_eq_ok_iff.mp run
    obtain ⟨kept, stack, moved⟩ := mapSample_moves head
    obtain ⟨kept', moved'⟩ := ih tail
    refine ⟨kept.trans kept', List.forall_mem_cons.mpr ⟨⟨stack, ?_⟩, moved'⟩⟩
    exact mapM_mono kept' moved

theorem mapSource_moves (run : mapSource s src = .ok s') :
    ∀ t ∈ src.samples, t.isZero = false →
      ∃ stack, t.stack.mapM (List.lookup · s'.locationsById) = some stack := by
  intro t ht counts
  refine (mapSamples_moves run).2 t (List.mem_filter.mpr ⟨ht, ?_⟩)
  rw [counts, Bool.not_false]

end

/-- Every location that is moved has the same frame in both profiles. -/
def Faithful (src out : Profile) (moves : Moves) : Prop :=
  ∀ old new, moves old = some new →
    ∃ fr, src.frame? old = some fr ∧ out.frame? new = some fr

/-- All stacks that count are moved. -/
def Complete (src : Profile) (moves : Moves) : Prop :=
  ∀ t ∈ src.samples, t.isZero = false → ∃ stack, t.stack.mapM moves = some stack

/-- Locations are moved to those with the same frames, and a stack that counts is moved to the
stack of the merged sample. -/
structure Moved (src out : Profile) (moves : Moves) : Prop where
  faithful : Faithful src out moves
  stacked : ∀ t ∈ src.samples, t.isZero = false →
    ∀ t' ∈ out.samples, out.trace? t' = src.trace? t → t.stack.mapM moves = some t'.stack

theorem Faithful.grow {src out out' : Profile} {moves : Moves} (h : Faithful src out moves)
    (parts : out.Extends out') : Faithful src out' moves := by
  intro old new hit
  obtain ⟨fr, before, after⟩ := h old new hit
  exact ⟨fr, before, parts.frame? after⟩

theorem Faithful.andThen {src between out : Profile} {first second : Moves}
    (h : Faithful src between first) (h' : Faithful between out second) :
    Faithful src out (first.andThen second) := by
  intro old new hit
  obtain ⟨middle, here, there⟩ := Option.bind_eq_some_iff.mp hit
  obtain ⟨fr, before, found⟩ := h old middle here
  obtain ⟨fr', found', after⟩ := h' middle new there
  obtain rfl : fr = fr' := Option.some.inj (found.symm.trans found')
  exact ⟨fr, before, after⟩

/-- Where no two locations have the same frame, the stack of a merged sample is no other. -/
theorem Faithful.moved {P : Supply} {s : State} {src : Profile} {moves : Moves}
    (h : Faithful src s.out moves) (sound : Sound P s) (complete : Complete src moves) :
    Moved src s.out moves := by
  refine ⟨h, ?_⟩
  intro t ht counts t' ht' same
  obtain ⟨stack, moved⟩ := complete t ht counts
  have agree : List.Forall₂ (fun old new => ∃ fr, src.frame? old = some fr ∧
      s.out.frame? new = some fr) t.stack stack :=
    (mapM_eq_some_iff.mp moved).imp h
  obtain ⟨frames, before, after⟩ := exists_mapM_of_forall₂ agree
  have read : src.trace? t = some ⟨frames, t.labels⟩ := by simp [Profile.trace?, before]
  rw [read, Profile.trace?, Option.map_eq_some_iff] at same
  obtain ⟨frames', after', same⟩ := same
  obtain rfl : frames' = frames := congrArg Trace.frames same
  rw [moved, mapM_inj sound.frame?_inj after after']

theorem mapM_andThen {first second : Moves} {stack middle last : List UInt64}
    (h : stack.mapM first = some middle) (h' : middle.mapM second = some last) :
    stack.mapM (first.andThen second) = some last := by
  rw [mapM_eq_some_iff] at h h' ⊢
  induction h generalizing last with
  | nil =>
    cases h'
    exact .nil
  | cons head _ ih =>
    cases h' with
    | cons head' tail' => exact .cons (by simp [Moves.andThen, head, head']) (ih tail')

theorem Moved.andThen {src between out : Profile} {first second : Moves}
    (h : Moved src between first) (h' : Moved between out second)
    (left : ∀ t' ∈ out.samples, ∃ v ∈ between.samples,
      v.isZero = false ∧ out.trace? t' = between.trace? v) :
    Moved src out (first.andThen second) := by
  refine ⟨h.faithful.andThen h'.faithful, ?_⟩
  intro t ht counts t' ht' same
  obtain ⟨v, hv, live, between⟩ := left t' ht'
  exact mapM_andThen (h.stacked t ht counts v hv (between.symm.trans same))
    (h'.stacked v hv live t' ht' between)

section

variable {P : Supply} (small : P.Countable)
include small

theorem moveSources_spec {s s' : State} {srcs : List Profile} {moves : List Moves}
    (resolved : ∀ src ∈ srcs, src.Resolved) (drawn : ∀ src ∈ srcs, src.DrawsFrom P)
    (tidy : Tidy P s) (run : moveSources s srcs = .ok (s', moves)) :
    Tidy P s' ∧ s.out.Extends s'.out ∧
      List.Forall₂ (fun src moves => Faithful src s'.out moves ∧ Complete src moves)
        srcs moves := by
  induction srcs generalizing s moves with
  | nil =>
    obtain ⟨rfl, rfl⟩ := Prod.mk.inj (Except.ok.inj run)
    exact ⟨tidy, .refl _, .nil⟩
  | cons src srcs ih =>
    obtain ⟨resolvedHead, resolvedTail⟩ := List.forall_mem_cons.mp resolved
    obtain ⟨drawnHead, drawnTail⟩ := List.forall_mem_cons.mp drawn
    obtain ⟨s₁, runHead, tidy₁, cached, gains, -⟩ :=
      mapSource_spec small resolvedHead drawnHead tidy
    obtain ⟨s₂, head, run⟩ := bind_eq_ok_iff.mp run
    obtain rfl : s₁ = s₂ := Except.ok.inj (runHead.symm.trans head)
    obtain ⟨⟨last, moves'⟩, runTail, run⟩ := bind_eq_ok_iff.mp run
    obtain ⟨rfl, rfl⟩ := Prod.mk.inj (Except.ok.inj run)
    obtain ⟨tidy', parts, faithful⟩ := ih resolvedTail drawnTail tidy₁ runTail
    have here : Faithful src s₁.out (List.lookup · s₁.locationsById) := cached.locations
    exact ⟨tidy', gains.parts.trans parts,
      .cons ⟨here.grow parts, mapSource_moves head⟩ faithful⟩

theorem movePass_spec {first out : Profile} {rest : List Profile} {moves : List Moves}
    (resolved : ∀ src ∈ first :: rest, src.Resolved)
    (drawn : ∀ src ∈ first :: rest, src.DrawsFrom P)
    (run : movePass first rest = .ok (out, moves)) :
    List.Forall₂ (fun src moves => Moved src out moves) (first :: rest) moves := by
  obtain ⟨-, -, run⟩ := bind_eq_ok_iff.mp run
  obtain ⟨⟨s, moves'⟩, moved, run⟩ := bind_eq_ok_iff.mp run
  obtain ⟨rfl, rfl⟩ := Prod.mk.inj (Except.ok.inj run)
  obtain ⟨tidy, -, each⟩ := moveSources_spec small resolved drawn (tidy_headers P _ _) moved
  exact each.imp fun src moves h => h.1.moved tidy.sound h.2

/-- Samples of a single profile that was passed come from those that count. -/
theorem exists_sample_of_pass {between out : Profile} (resolved : between.Resolved)
    (drawn : between.DrawsFrom P) (run : pass between [] = .ok out) :
    ∀ t' ∈ out.samples, ∃ v ∈ between.samples,
      v.isZero = false ∧ out.trace? t' = between.trace? v := by
  intro t' ht'
  obtain ⟨s, run', -, -, readings, -⟩ :=
    @pass_tidy P between [] small (by simpa using resolved) (by simpa using drawn) (by simp)
  obtain rfl : out = s.out := Except.ok.inj (run.symm.trans run')
  have known : s.out.trace? t' ∈ Ledger.keys (entries [between]).live := by
    apply Ledger.mem_keys_of_mem_keys_tally
    rw [← readings]
    exact List.mem_map_of_mem (List.mem_map_of_mem ht')
  rw [live_entries, List.flatMap_singleton, readings_live, Ledger.keys, List.map_map] at known
  obtain ⟨v, hv, same⟩ := List.mem_map.mp known
  obtain ⟨member, live⟩ := List.mem_filter.mp hv
  exact ⟨v, member, by simpa using live, same.symm⟩

theorem move_spec {srcs : List Profile} {out : Profile} {moves : List Moves}
    (linked : ∀ src ∈ srcs, src.Linked) (drawn : ∀ src ∈ srcs, src.DrawsFrom P)
    (run : move srcs = .ok (out, moves)) :
    List.Forall₂ (fun src moves => Moved src out moves) srcs moves := by
  have merged : merge srcs = .ok out := by
    rw [← move_fst, run]
    rfl
  match srcs with
  | [] => cases run
  | first :: rest =>
    have resolved : ∀ src ∈ first :: rest, src.Resolved :=
      fun src hsrc => (linked src hsrc).toResolved
    obtain ⟨between, once, made, -⟩ := pass_spec small linked drawn (compatible_of_merge merged)
    obtain ⟨⟨between', firstMoves⟩, firstRun, run⟩ := bind_eq_ok_iff.mp run
    obtain rfl : between' = between := by
      rw [← movePass_fst, firstRun] at once
      exact Except.ok.inj once
    have movedOnce := movePass_spec small resolved drawn firstRun
    dsimp only at run
    split at run
    · obtain ⟨⟨out', again⟩, secondRun, run⟩ := bind_eq_ok_iff.mp run
      obtain ⟨rfl, rfl⟩ := Prod.mk.inj (Except.ok.inj run)
      have twice : pass between' [] = .ok out' := by
        rw [← movePass_fst, secondRun]
        rfl
      have left := exists_sample_of_pass small made.linked.toResolved made.drawn twice
      have movedTwice := movePass_spec small (by simpa using made.linked.toResolved)
        (by simpa using made.drawn) secondRun
      rw [List.forall₂_map_right_iff]
      refine movedOnce.imp fun src moves moved => moved.andThen ?_ left
      cases movedTwice with
      | cons moved' _ => exact moved'
    · obtain ⟨rfl, rfl⟩ := Prod.mk.inj (Except.ok.inj run)
      exact movedOnce

end

/-- A location of a profile goes through merges, each together with any other profiles. -/
inductive Carried (p : Profile) (id : UInt64) : Profile → UInt64 → Prop
  | start : Carried p id p id
  | merged {srcs : List Profile} {records : List Moves} {src out : Profile} {moves : Moves}
      {old new : UInt64} : Carried p id src old → (∀ src ∈ srcs, src.checkValid = .ok ()) →
      Countable srcs → move srcs = .ok (out, records) → (src, moves) ∈ srcs.zip records →
      moves old = some new → Carried p id out new

theorem Carried.frame {p out : Profile} {old new : UInt64} {fr : Frame}
    (carried : Carried p old out new) (here : p.frame? old = some fr) :
    out.frame? new = some fr := by
  induction carried with
  | start => exact here
  | merged _ valid countable run source moved ih =>
    have linked := fun src hsrc => Profile.checkValid_eq_ok_iff.mp (valid src hsrc)
    have each := move_spec countable.supply linked (fun src => drawsFrom_supply) run
    obtain ⟨fr', before, after⟩ := (List.forall₂_zip each source).faithful _ _ moved
    obtain rfl : fr = fr' := Option.some.inj (ih.symm.trans before)
    exact after

/-- It is enough to look where one number goes from each source. -/
theorem Carried.merged_of_map {p src out : Profile} {id old new : UInt64} {srcs : List Profile}
    {news : List (Option UInt64)} (carried : Carried p id src old)
    (valid : ∀ src ∈ srcs, src.checkValid = .ok ()) (countable : Countable srcs)
    (run : (move srcs).map (fun r => (r.1, r.2.map fun moves => moves old)) = .ok (out, news))
    (source : (src, some new) ∈ srcs.zip news) : Carried p id out new := by
  cases moved : move srcs with
  | error e => simp [moved, Except.map] at run
  | ok result =>
    obtain ⟨out', records⟩ := result
    simp only [moved, Except.map, Except.ok.injEq, Prod.mk.injEq] at run
    obtain ⟨rfl, rfl⟩ := run
    rw [List.zip_map_right, List.mem_map] at source
    obtain ⟨⟨src', moves⟩, listed, same⟩ := source
    obtain ⟨rfl, there⟩ := Prod.mk.inj same
    exact .merged carried valid countable moved listed there

end Merge

open Merge

/-- A location keeps its distance from the start of its mapping and the mapping its offset through
any number of merges. So both ways of symbolization find the first address again: a server where
the profile came from, and a relocatable binary. -/
theorem carried_relocates {p out : Profile} {l : Location} {new : UInt64}
    (valid : p.checkValid = .ok ()) (member : l ∈ p.locations)
    (carried : Carried p l.id out new) :
    ∃ L, out.location? new = some L ∧
      (l.mappingId = 0 → L.mappingId = 0 ∧ L.address = l.address) ∧
      ∀ m ∈ p.mappings, m.id = l.mappingId → ∃ M, out.mapping? L.mappingId = some M ∧
        L.address - M.start = l.address - m.start ∧ M.offset = m.offset ∧
        (∀ source, Symbolize.addressAt ⟨source, m.start⟩ M L.address = l.address) ∧
        DebugFile.objectAddress true M L.address = DebugFile.objectAddress true m l.address := by
  have linked : p.Linked := Profile.checkValid_eq_ok_iff.mp valid
  obtain ⟨fr, here⟩ := linked.exists_frameOf? member
  have found : p.location? l.id = some l :=
    (find?_eq_some_iff linked.locations.2).mpr ⟨member, rfl⟩
  have there : out.frame? new = some fr := carried.frame (by simp [Profile.frame?, found, here])
  simp only [Profile.frame?, Option.bind_eq_some_iff] at there
  obtain ⟨L, located, there⟩ := there
  simp only [Profile.frameOf?, Option.bind_eq_bind, Option.bind_eq_some_iff,
    Option.some.injEq] at here there
  obtain ⟨m, backing, lines, -, rfl⟩ := here
  obtain ⟨M, backing', lines', -, same⟩ := there
  obtain ⟨keys, distance, -, -⟩ := Frame.mk.inj same
  refine ⟨L, located, ?_, ?_⟩
  · intro bare
    obtain rfl : m = none := by simpa [Profile.backing?, bare] using backing.symm
    obtain rfl : M = none := Option.map_eq_none_iff.mp keys
    exact ⟨Profile.eq_zero_of_backing? backing', by simpa using distance⟩
  · intro m' hm' number
    have known : p.mapping? l.mappingId = some m' :=
      (find?_eq_some_iff linked.mappings.2).mpr ⟨hm', number⟩
    have nonzero : l.mappingId ≠ 0 := by
      intro zero
      exact linked.mappings.1 (zero ▸ number ▸ List.mem_map_of_mem hm')
    obtain rfl : m = some m' := by simpa [Profile.backing?, nonzero, known] using backing.symm
    obtain ⟨M', rfl, key⟩ := Option.map_eq_some_iff.mp keys
    have offset : M'.offset = m'.offset := congrArg Mapping.Key.offset key
    have away : L.address - M'.start = l.address - m'.start := distance
    refine ⟨M', Profile.mapping?_of_backing? backing', away, offset, ?_, ?_⟩
    · intro source
      rw [Symbolize.addressAt, away]
      exact UInt64.sub_add_cancel l.address m'.start
    · simp only [DebugFile.objectAddress, if_true, away, offset]

/-- A binary above the middle of the address space is merged with itself below the middle, and
the two of them with itself far below. -/
theorem carried_relocates_lone :
    ∃ L M, (Profile.lone 0x400000 9).location? 1 = some L ∧
      (Profile.lone 0x400000 9).mapping? L.mappingId = some M ∧
      ∀ source, Symbolize.addressAt ⟨source, 0x8000000000001000⟩ M L.address =
        0x8000000000001010 := by
  have below : (move [.lone 0x7fffffffffff0000 5, .lone 0x8000000000001000 3]).map
      (fun r => (r.1, r.2.map fun moves => moves 1)) =
        .ok (.lone 0x7fffffffffff0000 8, [some 1, some 1]) := by
    decide +kernel
  have farBelow : (move [.lone 0x400000 1, .lone 0x7fffffffffff0000 8]).map
      (fun r => (r.1, r.2.map fun moves => moves 1)) =
        .ok (.lone 0x400000 9, [some 1, some 1]) := by
    decide +kernel
  have once : Carried (.lone 0x8000000000001000 3) 1 (.lone 0x7fffffffffff0000 8) 1 :=
    Carried.start.merged_of_map (by decide) ⟨by decide, by decide, by decide⟩ below (by decide)
  have twice : Carried (.lone 0x8000000000001000 3) 1 (.lone 0x400000 9) 1 :=
    once.merged_of_map (by decide) ⟨by decide, by decide, by decide⟩ farBelow (by decide)
  obtain ⟨L, located, -, mapped⟩ := carried_relocates
    (p := .lone 0x8000000000001000 3) (l := ⟨1, 1, 0x8000000000001010, [⟨1, 7, 0⟩], false⟩)
    (by decide) (by decide) twice
  obtain ⟨M, found, -, -, asked, -⟩ := mapped
    { id := 1, start := 0x8000000000001000, limit := 0x8000000000003000, file := "/bin/sh" }
    (by decide) rfl
  exact ⟨L, M, located, found, asked⟩

end Profiling
