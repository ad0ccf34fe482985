import Profiling.Aggregate
import Profiling.Proofs.AddressSpaces
import Profiling.Proofs.Requests
import Profiling.Proofs.StackFrames

/-!
# Profiles stay linked

Between the check of a source and the check of the whole a profile is scaled, pointed at
binaries, brought to other units, symbolized, pruned and renamed. Each of these works on the parts
where they are: mappings and locations keep their numbers, functions are only added, and a sample
keeps to the locations that it had. So a linked profile stays linked whatever files and servers
say.
-/

namespace Profiling

theorem forall₂_trans {R : α → β → Prop} {S : β → γ → Prop} {T : α → γ → Prop}
    (comp : ∀ a b c, R a b → S b c → T a c) {xs : List α} {ys : List β} {zs : List γ}
    (first : List.Forall₂ R xs ys) (second : List.Forall₂ S ys zs) : List.Forall₂ T xs zs := by
  induction first generalizing zs with
  | nil =>
    cases second
    exact .nil
  | cons head _ ih =>
    cases second with
    | cons head' tail' => exact .cons (comp _ _ _ head head') (ih tail')

theorem map_eq_of_forall₂ {f : α → β} {R : α → α → Prop} {xs ys : List α}
    (same : ∀ x y, R x y → f y = f x) (related : List.Forall₂ R xs ys) : ys.map f = xs.map f := by
  induction related with
  | nil => rfl
  | cons head _ ih => rw [List.map_cons, List.map_cons, same _ _ head, ih]

theorem exists_of_mem_right {R : α → β → Prop} {xs : List α} {ys : List β}
    (related : List.Forall₂ R xs ys) {y : β} (member : y ∈ ys) : ∃ x ∈ xs, R x y := by
  induction related with
  | nil => cases member
  | cons head _ ih =>
    rcases List.mem_cons.mp member with rfl | rest
    · exact ⟨_, List.mem_cons_self, head⟩
    · obtain ⟨x, hx, here⟩ := ih rest
      exact ⟨x, List.mem_cons_of_mem _ hx, here⟩

namespace Profile

/-- The lines that a location gets are lines that it had or are in known functions. -/
structure Relined (functions : List UInt64) (l l' : Location) : Prop where
  id : l'.id = l.id
  mapping : l'.mappingId = l.mappingId
  lines : ∀ ln ∈ l'.lines, ln ∈ l.lines ∨ ln.functionId ∈ functions

structure Reworked (p q : Profile) : Prop where
  mappings : q.mappingIds = p.mappingIds
  functions : p.functions <+: q.functions
  locations : List.Forall₂ (Relined q.functionIds) p.locations q.locations
  types : q.sampleTypes.length = p.sampleTypes.length
  samples : ∀ s ∈ q.samples, ∃ t ∈ p.samples,
    s.stack ⊆ t.stack ∧ s.values.length = t.values.length

theorem relined_same (functions : List UInt64) (ls : List Location) :
    List.Forall₂ (Relined functions) ls ls :=
  List.forall₂_same.mpr fun _ _ => ⟨rfl, rfl, fun _ => Or.inl⟩

theorem samples_same (samples : List Sample) : ∀ s ∈ samples, ∃ t ∈ samples,
    s.stack ⊆ t.stack ∧ s.values.length = t.values.length :=
  fun s hs => ⟨s, hs, List.Subset.refl _, rfl⟩

namespace Reworked

theorem refl (p : Profile) : p.Reworked p :=
  ⟨rfl, List.prefix_rfl, relined_same _ _, rfl, samples_same _⟩

theorem functionIds {p q : Profile} (h : p.Reworked q) : p.functionIds ⊆ q.functionIds :=
  (h.functions.map Function.id).subset

theorem trans {p q r : Profile} (h : p.Reworked q) (h' : q.Reworked r) : p.Reworked r := by
  refine ⟨h'.mappings.trans h.mappings, h.functions.trans h'.functions, ?_,
    h'.types.trans h.types, ?_⟩
  · refine forall₂_trans ?_ h.locations h'.locations
    intro a b c first second
    refine ⟨second.id.trans first.id, second.mapping.trans first.mapping, ?_⟩
    intro ln hln
    rcases second.lines ln hln with old | new
    · exact (first.lines ln old).imp_right fun known => h'.functionIds known
    · exact Or.inr new
  · intro s hs
    obtain ⟨t, ht, stack, values⟩ := h'.samples s hs
    obtain ⟨u, hu, stack', values'⟩ := h.samples t ht
    exact ⟨u, hu, List.Subset.trans stack stack', values.trans values'⟩

theorem locationIds {p q : Profile} (h : p.Reworked q) : q.locationIds = p.locationIds :=
  map_eq_of_forall₂ (fun _ _ relined => relined.id) h.locations

/-- References are found as long as the numbers of the functions are told apart. -/
theorem linked {p q : Profile} (h : p.Reworked q) (linked : p.Linked)
    (distinct : Distinct q.functionIds) : q.Linked := by
  refine ⟨⟨?_, distinct, ?_, ?_, ?_, ?_⟩, ?_, ?_⟩
  · rw [h.mappings]
    exact linked.mappings
  · rw [h.locationIds]
    exact linked.locations
  · intro l' hl'
    obtain ⟨l, hl, relined⟩ := exists_of_mem_right h.locations hl'
    rw [relined.mapping, h.mappings]
    exact linked.backed l hl
  · intro l' hl' ln hln
    obtain ⟨l, hl, relined⟩ := exists_of_mem_right h.locations hl'
    rcases relined.lines ln hln with old | new
    · exact h.functionIds (linked.lined l hl ln old)
    · exact new
  · intro s hs id hid
    obtain ⟨t, ht, stack, -⟩ := h.samples s hs
    rw [h.locationIds]
    exact linked.stacked t ht id (stack hid)
  · intro some_sample untyped
    obtain ⟨s, hs⟩ := List.exists_mem_of_ne_nil _ some_sample
    obtain ⟨t, ht, -, -⟩ := h.samples s hs
    have types : p.sampleTypes = [] := by
      rw [← List.length_eq_zero_iff, ← h.types, untyped, List.length_nil]
    exact linked.typed (List.ne_nil_of_mem ht) types
  · intro s hs
    obtain ⟨t, ht, -, values⟩ := h.samples s hs
    rw [values, h.types]
    exact linked.valued t ht

/-- Without new functions nothing else is needed. -/
theorem linked_of_eq {p q : Profile} (h : p.Reworked q) (linked : p.Linked)
    (same : q.functions = p.functions) : q.Linked := by
  refine h.linked linked ?_
  rw [Profile.functionIds, same]
  exact linked.functions

end Reworked

theorem length_scaledValues (vs : List Int64) (ratios : List Binary64) :
    (Sample.scaledValues vs ratios).length = vs.length := by
  induction vs generalizing ratios with
  | nil => cases ratios <;> rfl
  | cons v vs ih =>
    cases ratios with
    | nil => rfl
    | cons r rs => rw [Sample.scaledValues, List.length_cons, ih, List.length_cons]

/-- A sample is scaled as it is, or dropped. -/
theorem samples_scaleEach {p q : Profile} {ratios : List Binary64}
    (scaled : p.scaleEach ratios = .ok q) : ∀ s ∈ q.samples, ∃ t ∈ p.samples,
      s.stack ⊆ t.stack ∧ s.values.length = t.values.length := by
  rw [scaleEach] at scaled
  split at scaled
  · cases scaled
  · split at scaled
    · obtain rfl := Except.ok.inj scaled
      exact samples_same _
    · obtain rfl := Except.ok.inj scaled
      intro s hs
      obtain ⟨t, ht, rfl⟩ := List.mem_map.mp hs
      exact ⟨t, (List.mem_filter.mp ht).1, List.Subset.refl _, length_scaledValues _ _⟩

theorem reworked_scaleEach {p q : Profile} {ratios : List Binary64}
    (scaled : p.scaleEach ratios = .ok q) : p.Reworked q := by
  have samples := samples_scaleEach scaled
  rw [scaleEach_frame scaled] at samples ⊢
  exact ⟨rfl, List.prefix_rfl, relined_same _ _, rfl, samples⟩

theorem linked_scale {p : Profile} (linked : p.Linked) (ratio : Binary64) :
    (p.scale ratio).Linked := by
  rw [scale]
  split
  · exact linked
  · split
    · rename_i q scaled
      refine (reworked_scaleEach scaled).linked_of_eq linked ?_
      rw [scaleEach_frame scaled]
    · exact linked

theorem reworked_retyped (p : Profile) {types : List ValueType}
    (width : types.length = p.sampleTypes.length) (period : Int64)
    (periodType : Option ValueType) :
    p.Reworked { p with sampleTypes := types, period, periodType } :=
  ⟨rfl, List.prefix_rfl, relined_same _ _, width, samples_same _⟩

theorem linked_convertTo {p q : Profile} {common : CommonTypes} (linked : p.Linked)
    (ok : convertTo common p = .ok q) : q.Linked := by
  obtain ⟨period, periodType, frame⟩ := retyped_frame common p
  have width := length_retypeEach p.sampleTypes common.values
  simp only [convertTo, frame] at ok
  refine Reworked.linked_of_eq ((p.reworked_retyped width period periodType).trans
    (reworked_scaleEach ok)) linked ?_
  rw [scaleEach_frame ok]

theorem linked_harmonize {profiles out : List Profile} (linked : ∀ p ∈ profiles, p.Linked)
    (ok : harmonize profiles = .ok out) : ∀ q ∈ out, q.Linked := by
  rcases harmonize_eq_ok ok with ⟨-, rfl⟩ | ⟨first, -, common, found, converted⟩
  · exact fun _ h => absurd h List.not_mem_nil
  · intro q hq
    obtain ⟨p, hp, converted⟩ := exists_of_mem_right converted hq
    exact linked_convertTo (linked p hp) converted

/-- Mappings may be changed as long as they keep their numbers. -/
theorem reworked_mappings (p : Profile) {mappings : List Mapping}
    (same : mappings.map Mapping.id = p.mappingIds) : p.Reworked { p with mappings } :=
  ⟨same, List.prefix_rfl, relined_same _ _, rfl, samples_same _⟩

theorem linked_mappings {p : Profile} (linked : p.Linked) {mappings : List Mapping}
    (same : mappings.map Mapping.id = p.mappingIds) : ({ p with mappings } : Profile).Linked :=
  (p.reworked_mappings same).linked_of_eq linked rfl

end Profile

namespace Provenance

theorem id_nameAfter (source : String) (m : Mapping) : (nameAfter source m).id = m.id := by
  rw [nameAfter]
  split <;> rfl

theorem linked_collect {p : Profile} (linked : p.Linked) (source : String) :
    (collect p source).2.Linked := by
  refine Profile.linked_mappings linked ?_
  rw [List.map_map, Profile.mappingIds]
  exact List.map_congr_left fun m _ => id_nameAfter source m

theorem linked_unsource (sources : Provenance) {p : Profile} (linked : p.Linked) :
    (sources.unsource p).Linked := by
  refine Profile.linked_mappings linked ?_
  rw [List.map_map, Profile.mappingIds]
  refine List.map_congr_left fun m _ => ?_
  rw [Function.comp_apply]
  split <;> rfl

end Provenance

theorem Location.linesAbove_subset (dropped : List UInt64) (lines : List Line) :
    Location.linesAbove dropped lines ⊆ lines := by
  intro ln hln
  have member := (List.takeWhile_sublist _).subset (List.mem_reverse.mp hln)
  exact List.mem_reverse.mp member

namespace Profile

theorem relined_trim (functions dropped : List UInt64) (l : Location) :
    Relined functions l (l.trim dropped) := by
  rw [Location.trim]
  split
  · exact ⟨rfl, rfl, fun ln hln => Or.inl (Location.linesAbove_subset dropped l.lines hln)⟩
  · exact ⟨rfl, rfl, fun _ => Or.inl⟩

theorem reworked_prune (p : Profile) (filter : FrameFilter) : p.Reworked (p.prune filter) := by
  refine ⟨rfl, List.prefix_rfl, ?_, rfl, ?_⟩
  · rw [prune, List.forall₂_map_right_iff, List.forall₂_same]
    exact fun l _ => relined_trim _ _ l
  · intro s hs
    obtain ⟨t, ht, rfl⟩ := List.mem_map.mp hs
    exact ⟨t, ht, (isSuffix_cutStack _ t.stack).subset, rfl⟩

/-- A filter that cannot be read is like none. -/
theorem withoutNoise_cases (p : Profile) :
    p.withoutNoise = p ∨ ∃ filter, p.withoutNoise = p.prune filter := by
  rw [withoutNoise]
  cases removed : p.removeUninteresting with
  | error e => exact Or.inl rfl
  | ok q =>
    rw [removeUninteresting] at removed
    split at removed
    · exact Or.inl (Except.ok.inj removed).symm
    · obtain ⟨drop, -, removed⟩ := Merge.bind_eq_ok_iff.mp removed
      dsimp only at removed
      split at removed
      · exact Or.inr ⟨_, (Except.ok.inj removed).symm⟩
      · obtain ⟨keep, -, removed⟩ := Merge.bind_eq_ok_iff.mp removed
        exact Or.inr ⟨_, (Except.ok.inj removed).symm⟩

theorem linked_withoutNoise {p : Profile} (linked : p.Linked) : p.withoutNoise.Linked := by
  rcases p.withoutNoise_cases with same | ⟨filter, pruned⟩
  · rw [same]
    exact linked
  · rw [pruned]
    exact (p.reworked_prune filter).linked_of_eq linked rfl

structure Interns (p q : Profile) (ids : List UInt64) : Prop where
  frame : q = { p with functions := q.functions }
  functions : p.functions <+: q.functions
  known : ids ⊆ q.functionIds
  numbered : q.functions.length < UInt64.size → Numbered p.functionIds → Numbered q.functionIds

namespace Interns

theorem nothing (p : Profile) : p.Interns p [] :=
  ⟨rfl, List.prefix_rfl, List.nil_subset _, fun _ h => h⟩

theorem trans {p q r : Profile} {a b : List UInt64} (h : p.Interns q a) (h' : q.Interns r b) :
    p.Interns r (a ++ b) := by
  refine ⟨?_, h.functions.trans h'.functions, ?_, ?_⟩
  · rw [h'.frame, h.frame]
  · exact List.append_subset.mpr
      ⟨List.Subset.trans h.known (h'.functions.map Function.id).subset, h'.known⟩
  · intro few numbered
    exact h'.numbered few
      (h.numbered (Nat.lt_of_le_of_lt h'.functions.length_le few) numbered)

end Interns

theorem toNat_foldl_max {ids : List UInt64} (numbered : Numbered ids) :
    (ids.foldl max 0).toNat = ids.length := by
  induction ids using List.reverseRecOn with
  | nil => rfl
  | append_singleton ids id ih =>
    have before := ih numbered.of_append
    have last : id.toNat = ids.length + 1 := by
      simpa using numbered.toNat_getElem ids.length (by simp)
    have greater : max (ids.foldl max 0) id = id := by
      refine if_pos (UInt64.le_iff_toNat_le.mpr ?_)
      omega
    rw [List.foldl_append, List.foldl_cons, List.foldl_nil, greater, last, List.length_append]
    rfl

/-- Where functions are numbered in order the greatest number is their count. -/
theorem maxFunctionId_eq {p : Profile} (numbered : Numbered p.functionIds) :
    p.maxFunctionId = p.functions.length.toUInt64 := by
  have greatest : p.maxFunctionId = p.functionIds.foldl max 0 := by
    rw [maxFunctionId, functionIds, List.foldl_map]
  have few := numbered.length_lt
  apply UInt64.toNat_inj.mp
  rw [greatest, toNat_foldl_max numbered]
  rw [functionIds, List.length_map] at few ⊢
  exact (UInt64.toNat_ofNat_of_lt' few).symm

theorem internFunction_spec (p : Profile) (name systemName filename : String) :
    p.Interns (p.internFunction name systemName filename).2
      [(p.internFunction name systemName filename).1] := by
  rw [internFunction]
  split
  · rename_i f found
    refine ⟨rfl, List.prefix_rfl, ?_, fun _ h => h⟩
    intro id hid
    rw [List.mem_singleton.mp hid]
    exact List.mem_map_of_mem (List.mem_of_find?_eq_some found)
  · refine ⟨rfl, List.prefix_append _ _, ?_, ?_⟩
    · simp [functionIds]
    · intro few numbered
      have next := numbered.append (by simpa [functionIds] using few)
      rw [Merge.idAt, functionIds, List.length_map, ← maxFunctionId_eq numbered] at next
      simpa [functionIds] using next

structure Enriched (p q : Profile) : Prop extends Reworked p q where
  numbered : q.functions.length < UInt64.size → Numbered p.functionIds → Numbered q.functionIds

namespace Enriched

theorem refl (p : Profile) : p.Enriched p := ⟨.refl p, fun _ h => h⟩

theorem trans {p q r : Profile} (h : p.Enriched q) (h' : q.Enriched r) : p.Enriched r := by
  refine ⟨h.toReworked.trans h'.toReworked, ?_⟩
  intro few numbered
  have fewer := Nat.lt_of_le_of_lt h'.functions.length_le few
  exact h'.numbered few (h.numbered fewer numbered)

theorem linked {p q : Profile} (h : p.Enriched q) (linked : p.Linked)
    (numbered : Numbered p.functionIds) (few : q.functions.length < UInt64.size) : q.Linked :=
  h.toReworked.linked linked (Merge.distinct_of_numbered (h.numbered few numbered))

end Enriched

end Profile

/-- From every state a run ends with a result that has a property. -/
def Always {σ α : Type} (holds : α → Prop) (x : StateM σ α) : Prop :=
  ∀ world, holds (x.run world).1

namespace Always

variable {σ α β : Type} {holds : α → Prop} {then_holds : β → Prop}

theorem pure {a : α} (h : holds a) : Always (σ := σ) holds (Pure.pure a) := fun _ => h

theorem trivial (x : StateM σ α) : Always (fun _ => True) x := fun _ => True.intro

theorem bind {x : StateM σ α} {f : α → StateM σ β} (h : Always holds x)
    (next : ∀ a, holds a → Always then_holds (f a)) : Always then_holds (x >>= f) :=
  fun world => next _ (h world) _

theorem mapM {f : α → StateM σ β} {R : α → β → Prop} (h : ∀ a, Always (R a) (f a))
    (xs : List α) : Always (List.Forall₂ R xs) (xs.mapM f) := by
  induction xs with
  | nil => exact .pure .nil
  | cons x xs ih =>
    rw [List.mapM_cons]
    exact .bind (h x) fun y head => .bind ih fun ys tail => .pure (.cons head tail)

end Always

namespace Symbolize

def Supplies (lines? : UInt64 → Profile → Option (List Line × Profile)) : Prop :=
  ∀ address p lines q, lines? address p = some (lines, q) →
    p.Interns q (lines.map Line.functionId)

theorem internFrames_spec (frames : List SourceFrame) (p : Profile) :
    p.Interns (internFrames frames p).2 ((internFrames frames p).1.map Line.functionId) := by
  induction frames generalizing p with
  | nil => exact .nothing p
  | cons frame frames ih =>
    have first : p.Interns (internFrame frame p).2 [(internFrame frame p).1.functionId] :=
      p.internFunction_spec _ _ _
    exact first.trans (ih (internFrame frame p).2)

theorem supplies_linesIn (binary : DebugFile) (mapping : Mapping) :
    Supplies (linesIn? binary mapping) := by
  intro address p lines q found
  rw [linesIn?] at found
  split at found
  · have named := internFrames_spec
      (binary.resolve (DebugFile.objectAddress binary.isRelocatable mapping address)) p
    rwa [Option.some.inj found] at named
  · cases found

theorem supplies_lineFrom (names : Symbolz.Names) (origin : Origin) (mapping : Mapping) :
    Supplies (lineFrom? names origin mapping) := by
  intro address p lines q found
  obtain ⟨raw, -, rest⟩ := Option.map_eq_some_iff.mp found
  obtain ⟨rfl, rfl⟩ := Prod.mk.inj rest
  exact p.internFunction_spec (Demangle.demangle raw) raw ""

section

variable {lines? : UInt64 → Profile → Option (List Line × Profile)} (mapping : Mapping)
  (supplies : Supplies lines?)
include supplies

theorem nameStep_interns (count : Nat) (done : List Location) (p : Profile) (l : Location) :
    ∃ count' l' q ids, nameStep lines? mapping (count, done, p) l = (count', l' :: done, q) ∧
      p.Interns q ids ∧ Profile.Relined q.functionIds l l' := by
  have unchanged : Profile.Relined p.functionIds l l := ⟨rfl, rfl, fun _ => Or.inl⟩
  by_cases lacks : l.lacksLines mapping = true
  · cases found : lines? l.address p with
    | none => exact ⟨count, l, p, [], by simp [nameStep, lacks, found], .nothing p, unchanged⟩
    | some named =>
      obtain ⟨lines, q⟩ := named
      have interns := supplies l.address p lines q found
      refine ⟨count + 1, { l with lines }, q, _, by simp [nameStep, lacks, found], interns,
        rfl, rfl, ?_⟩
      exact fun ln hln => Or.inr (interns.known (List.mem_map_of_mem hln))
  · exact ⟨count, l, p, [], by simp [nameStep, lacks], .nothing p, unchanged⟩

theorem nameSteps_interns (ls : List Location) (count : Nat) (done : List Location)
    (p : Profile) : ∃ count' named q ids,
      ls.foldl (nameStep lines? mapping) (count, done, p) =
        (count', named.reverse ++ done, q) ∧
      p.Interns q ids ∧ List.Forall₂ (Profile.Relined q.functionIds) ls named := by
  induction ls generalizing count done p with
  | nil => exact ⟨count, [], p, [], rfl, .nothing p, .nil⟩
  | cons l ls ih =>
    obtain ⟨count₁, l', p₁, ids, step, interns, relined⟩ :=
      nameStep_interns mapping supplies count done p l
    obtain ⟨count₂, rest, q, ids', run, interns', others⟩ := ih count₁ (l' :: done) p₁
    have known : p₁.functionIds ⊆ q.functionIds := (interns'.functions.map Function.id).subset
    refine ⟨count₂, l' :: rest, q, ids ++ ids', ?_, interns.trans interns', .cons ?_ others⟩
    · rw [List.foldl_cons, step, run, List.reverse_cons, List.append_assoc]
      rfl
    · exact ⟨relined.id, relined.mapping,
        fun ln hln => (relined.lines ln hln).imp_right fun h => known h⟩

theorem nameLocations_enriches (p : Profile) :
    p.Enriched (nameLocations lines? mapping p).2 ∧
      (nameLocations lines? mapping p).2.mappings = p.mappings := by
  obtain ⟨count, named, q, ids, run, interns, relined⟩ :=
    nameSteps_interns mapping supplies p.locations 0 [] p
  have result : (nameLocations lines? mapping p).2 =
      { p with functions := q.functions, locations := named } := by
    rw [nameLocations_eq, run, interns.frame]
    simp
  rw [result]
  exact ⟨⟨⟨rfl, interns.functions, relined, rfl, Profile.samples_same _⟩, interns.numbered⟩, rfl⟩

end

theorem enriched_setMapping {p : Profile} {i : Nat} {mapping : Mapping}
    (here : p.mappingIds[i]? = some mapping.id) : p.Enriched (setMapping p i mapping) := by
  refine ⟨p.reworked_mappings ?_, fun _ h => h⟩
  obtain ⟨inside, same⟩ := List.getElem?_eq_some_iff.mp here
  rw [List.map_set, ← same]
  exact List.set_getElem_self inside

section

variable {σ : Type} (machine : Machine (StateM σ))

def Enriches (name : Mapping → Nat → Profile → StateM σ (Nat × Profile)) : Prop :=
  ∀ mapping i p, p.mappingIds[i]? = some mapping.id →
    Always (fun r => p.Enriched r.2) (name mapping i p)

theorem always_nameFromFile : Enriches (nameFromFile machine) := by
  intro mapping i p here
  rw [nameFromFile]
  split
  · exact .pure (.refl p)
  · refine .bind (.trivial _) fun present _ => ?_
    split
    · exact .pure (.refl p)
    · refine .bind (.trivial _) fun opened _ => ?_
      cases opened with
      | error e => exact .pure (.refl p)
      | ok binary =>
        obtain ⟨enriched, mappings⟩ :=
          nameLocations_enriches mapping (supplies_linesIn binary mapping) p
        refine .pure (enriched.trans (enriched_setMapping ?_))
        rwa [enriched.mappings]

theorem always_nameFromOrigins (patience : Patience) (mapping : Mapping) (i : Nat) (p : Profile)
    (addresses : List UInt64) (origins : List Origin)
    (here : p.mappingIds[i]? = some mapping.id) :
    Always (fun r => p.Enriched r.2)
      (nameFromOrigins machine patience mapping i p addresses origins) := by
  induction origins with
  | nil => exact .pure (.refl p)
  | cons origin rest ih =>
    rw [nameFromOrigins]
    split
    · exact ih
    · refine .bind (.trivial _) fun answer _ => ?_
      cases answer with
      | none => exact ih
      | some names =>
        obtain ⟨enriched, mappings⟩ :=
          nameLocations_enriches mapping (supplies_lineFrom names origin mapping) p
        refine .pure (enriched.trans (enriched_setMapping ?_))
        rwa [enriched.mappings]

theorem always_nameFromServers (patience : Patience) (sources : Provenance) :
    Enriches (nameFromServers machine patience sources) := by
  intro mapping i p here
  rw [nameFromServers]
  split
  · exact .pure (.refl p)
  · exact always_nameFromOrigins machine patience mapping i p _ _ here

/-- Every mapping is named where it stands, whatever was done for those before it. -/
theorem always_forMappings {name : Mapping → Nat → Profile → StateM σ (Nat × Profile)}
    (enriches : Enriches name) (rest : List Mapping) (done : List UInt64) (p : Profile)
    (ids : p.mappingIds = done ++ rest.map Mapping.id) :
    Always (fun r => p.Enriched r.2) (forMappings name rest done.length p) := by
  induction rest generalizing done p with
  | nil => exact .pure (.refl p)
  | cons mapping rest ih =>
    have here : p.mappingIds[done.length]? = some mapping.id := by simp [ids]
    refine .bind (enriches mapping done.length p here) fun first enriched => ?_
    have later : first.2.mappingIds = (done ++ [mapping.id]) ++ rest.map Mapping.id := by
      rw [enriched.mappings, ids, List.map_cons, List.append_assoc, List.singleton_append]
    have others := ih (done ++ [mapping.id]) first.2 later
    rw [List.length_append, List.length_singleton] at others
    exact .bind others fun second enriched' => .pure (enriched.trans enriched')

end

end Symbolize

/-- In every mode a profile is only enriched. -/
theorem always_symbolize {σ : Type} (machine : Machine (StateM σ)) (patience : Symbolize.Patience)
    (mode : SymbolMode) (sources : Provenance) (p : Profile) :
    Always (fun q => p.Enriched q) (symbolize machine mode sources p patience) := by
  have files : ∀ p : Profile,
      Always (fun r => p.Enriched r.2) (Symbolize.fromFiles machine p) := fun p =>
    Symbolize.always_forMappings (Symbolize.always_nameFromFile machine) p.mappings [] p rfl
  have servers : ∀ p : Profile,
      Always (fun r => p.Enriched r.2) (Symbolize.fromServers machine sources p patience) :=
    fun p => Symbolize.always_forMappings
      (Symbolize.always_nameFromServers machine patience sources) p.mappings [] p rfl
  have last : ∀ q, p.Enriched q → Always (fun r => p.Enriched r)
      (if mode.usesRemote && !sources.isEmpty then
        Symbolize.fromServers machine sources q patience >>= fun r => pure r.2
      else pure q) := by
    intro q enriched
    split
    · exact .bind (servers q) fun r enriched' => .pure (enriched.trans enriched')
    · exact .pure enriched
  rw [symbolize]
  split
  · exact .bind (files p) fun r enriched => .bind (.pure enriched) last
  · exact .bind (.pure (.refl p)) last

end Profiling
