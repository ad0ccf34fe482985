import Profiling.Proofs.FilingRun

/-!
# Copying

Merging a profile alone copies it part by part when its parts are numbered in the order of
first use: each number is handed out again to the part that had it.
-/

namespace Profiling

theorem lookup_map_eq_some {κ : Type} [DecidableEq κ] {key : α → κ} {value : α → ν} {xs : List α}
    (distinct : (xs.map key).Nodup) {x : α} (member : x ∈ xs) :
    (xs.map fun y => (key y, value y)).lookup (key x) = some (value x) := by
  induction xs with
  | nil => cases member
  | cons y ys ih =>
    obtain ⟨fresh, distinct⟩ := List.nodup_cons.mp distinct
    rw [List.map_cons, List.lookup_cons]
    rcases List.mem_cons.mp member with rfl | member
    · simp
    · have other : (key x == key y) = false := by
        rw [beq_eq_false_iff_ne]
        rintro same
        exact fresh (same ▸ List.mem_map_of_mem member)
      simp only [other]
      exact ih distinct member

theorem lookup_map_eq_none {κ : Type} [DecidableEq κ] {key : α → κ} {value : α → ν} {xs : List α}
    {k : κ} (fresh : ∀ x ∈ xs, key x ≠ k) : (xs.map fun y => (key y, value y)).lookup k = none := by
  rw [List.lookup_eq_none_iff]
  intro e he
  obtain ⟨x, hx, rfl⟩ := List.mem_map.mp he
  simpa using Ne.symm (fresh x hx)

/-- A part that is used after `n` of them is one of these, or it is the next one. -/
theorem known_or_next {id : α → UInt64} {xs : List α} (numbered : Numbered (xs.map id)) {x : α}
    (member : x ∈ xs) {n k : Nat} (reached : reach n [id x] = some k) :
    (x ∈ xs.take n ∧ k = n) ∨
      (xs.take (n + 1) = xs.take n ++ [x] ∧ Merge.idAt n = id x ∧ k = n + 1) := by
  obtain ⟨i, hi, rfl⟩ := List.getElem_of_mem member
  have place := numbered.toNat_getElem i (by simpa using hi)
  rw [List.getElem_map] at place
  rw [reach] at reached
  split at reached
  · obtain rfl := Option.some.inj reached
    exact Or.inl ⟨List.mem_take_iff_getElem.mpr ⟨i, by omega, rfl⟩, rfl⟩
  · split at reached
    · obtain rfl := Option.some.inj reached
      obtain rfl : i = n := by omega
      have small := (id xs[i]).toNat_lt_size
      refine Or.inr ⟨(List.take_append_getElem hi).symm, UInt64.toNat_inj.mp ?_, rfl⟩
      rw [Numbered.toNat_idAt (by omega), place]
    · cases reached

theorem nodup_taken {key : α → κ} {xs : List α} (distinct : (xs.map key).Nodup) (n : Nat) :
    ((xs.take n).reverse.map key).Nodup := by
  rw [List.map_reverse, List.nodup_reverse]
  exact distinct.sublist ((List.take_sublist n xs).map key)

theorem key_ne_of_next {key : α → κ} {xs : List α} (distinct : (xs.map key).Nodup) {x : α}
    {n : Nat} (next : xs.take (n + 1) = xs.take n ++ [x]) :
    ∀ y ∈ (xs.take n).reverse, key y ≠ key x := by
  have fresh := nodup_taken distinct (n + 1)
  rw [next, List.reverse_append, List.reverse_singleton, List.singleton_append, List.map_cons,
    List.nodup_cons] at fresh
  exact fun y hy same => fresh.1 (same ▸ List.mem_map_of_mem hy)

theorem map_next {g : α → β} {xs : List α} {x : α} {n : Nat}
    (next : xs.take (n + 1) = xs.take n ++ [x]) :
    (xs.take (n + 1)).reverse.map g = g x :: (xs.take n).reverse.map g := by
  rw [next, List.reverse_append, List.reverse_singleton, List.singleton_append, List.map_cons]

theorem length_of_next {xs : List α} {x : α} {n : Nat}
    (next : xs.take (n + 1) = xs.take n ++ [x]) : (xs.take n).length = n := by
  have lengths := congrArg List.length next
  simp only [List.length_append, List.length_take, List.length_singleton] at lengths ⊢
  omega

theorem reach_next_of_append {n m k : Nat} {a b c : List UInt64}
    (counted : reach n (a ++ (b ++ c)) = some k) (first : reach n a = some m) :
    ∃ j, reach m b = some j ∧ reach j c = some k := by
  rw [reach_append, first, Option.bind_some, reach_append, Option.bind_eq_some_iff] at counted
  exact counted

namespace Merge

/-- The state of a merge in which the first parts of a profile are copied, so many of each. -/
def copied (p : Profile) (mappings functions locations samples : Nat) : State where
  out :=
    { p with
      mappings := p.mappings.take mappings
      functions := p.functions.take functions
      locations := p.locations.take locations
      samples := p.samples.take samples }
  mappings := (p.mappings.take mappings).reverse.map fun m => (m.key, m.id)
  functions := (p.functions.take functions).reverse.map fun f => (f.key, f.id)
  locations := (p.locations.take locations).reverse.map fun l => (p.locationKey l, l.id)
  samples := (p.samples.take samples).zipIdx.reverse.map fun s => (.of s.1, s.2)
  mappingsById := (p.mappings.take mappings).reverse.map fun m => (m.id, ⟨m.id, 0⟩)
  functionsById := (p.functions.take functions).reverse.map fun f => (f.id, f.id)
  locationsById := (p.locations.take locations).reverse.map fun l => (l.id, l.id)

theorem exists_lastWith {id : α → UInt64} {xs : List α} (distinct : (xs.map id).Nodup)
    {n : UInt64} (known : n ∈ xs.map id) : ∃ x ∈ xs, id x = n ∧ lastWith id n xs = some x := by
  obtain ⟨x, member, rfl⟩ := List.mem_map.mp known
  refine ⟨x, member, rfl, (lastWith_eq_find? distinct _).trans ?_⟩
  exact (find?_eq_some_iff distinct).mpr ⟨member, rfl⟩

/-- A run of steps that leave their parts as they are, each using one number. -/
theorem mapAll_same {step : State → α → Except ProfileError (State × α)} {use : α → UInt64}
    {I : Nat → State → Prop} {xs : List α}
    (each : ∀ x ∈ xs, ∀ n k s, I n s → reach n [use x] = some k →
      ∃ s', step s x = .ok (s', x) ∧ I k s') {n k : Nat} {s : State} (holds : I n s)
    (reached : reach n (xs.map use) = some k) :
    ∃ s', mapAll step s xs = .ok (s', xs) ∧ I k s' := by
  induction xs generalizing n s with
  | nil =>
    obtain rfl := Option.some.inj reached
    exact ⟨s, rfl, holds⟩
  | cons x xs ih =>
    rw [List.map_cons, ← List.singleton_append, reach_append, Option.bind_eq_some_iff] at reached
    obtain ⟨j, first, rest⟩ := reached
    obtain ⟨s₁, run, holds₁⟩ := each x List.mem_cons_self n j s holds first
    obtain ⟨s₂, runs, holds₂⟩ := ih (fun x hx => each x (List.mem_cons_of_mem _ hx)) holds₁ rest
    exact ⟨s₂, by simp [mapAll, run, runs, bind, Except.bind], holds₂⟩

section

variable {p : Profile} (h : p.Ordered) {m f l n k : Nat}
include h

theorem mapMapping_copied {x : Mapping} (member : x ∈ p.mappings)
    (reached : reach m [x.id] = some k) :
    mapMapping (copied p m f l n) x = (copied p k f l n, ⟨x.id, 0⟩) := by
  rcases known_or_next h.mappingIds member reached with ⟨known, rfl⟩ | ⟨next, number, rfl⟩
  · have hit : (copied p k f l n).mappingsById.lookup x.id = some ⟨x.id, 0⟩ :=
      lookup_map_eq_some (nodup_taken h.mappingIds.nodup k) (List.mem_reverse.mpr known)
    rw [mapMapping, hit]
  · have unknown : (copied p m f l n).mappingsById.lookup x.id = none :=
      lookup_map_eq_none (key_ne_of_next h.mappingIds.nodup next)
    have unfiled : (copied p m f l n).mappings.lookup x.key = none :=
      lookup_map_eq_none (key_ne_of_next h.mappings next)
    simp only [mapMapping, unknown, placeMapping, unfiled]
    simp only [copied, map_next next, length_of_next next, number]
    rw [next]

theorem mapFunction_copied {x : Function} (member : x ∈ p.functions)
    (reached : reach f [x.id] = some k) :
    mapFunction (copied p m f l n) x = (copied p m k l n, x.id) := by
  rcases known_or_next h.functionIds member reached with ⟨known, rfl⟩ | ⟨next, number, rfl⟩
  · have hit : (copied p m k l n).functionsById.lookup x.id = some x.id :=
      lookup_map_eq_some (nodup_taken h.functionIds.nodup k) (List.mem_reverse.mpr known)
    rw [mapFunction, hit]
  · have unknown : (copied p m f l n).functionsById.lookup x.id = none :=
      lookup_map_eq_none (key_ne_of_next h.functionIds.nodup next)
    have unfiled : (copied p m f l n).functions.lookup x.key = none :=
      lookup_map_eq_none (key_ne_of_next h.functions next)
    simp only [mapFunction, unknown, placeFunction, unfiled]
    simp only [copied, map_next next, length_of_next next, number]
    rw [next]

theorem mapLine_copied {x : Line} (known : x.functionId ∈ p.functionIds)
    (reached : reach f [x.functionId] = some k) :
    mapLine p (copied p m f l n) x = .ok (copied p m k l n, x) := by
  obtain ⟨g, member, same, found⟩ := exists_lastWith h.functionIds.nodup known
  rw [← same] at reached
  simp only [mapLine, found, mapFunction_copied h member reached, same]

theorem mapLines_copied {lines : List Line} (known : ∀ x ∈ lines, x.functionId ∈ p.functionIds)
    (reached : reach f (lines.map Line.functionId) = some k) :
    mapAll (mapLine p) (copied p m f l n) lines = .ok (copied p m k l n, lines) := by
  obtain ⟨s, run, rfl⟩ := mapAll_same (I := fun j s => s = copied p m j l n)
    (fun x hx i j s same reached => ⟨_, same ▸ mapLine_copied h (known x hx) reached, rfl⟩)
    rfl reached
  exact run

theorem startOf_copied {x : Mapping} (member : x ∈ p.mappings) (copied : x.id.toNat ≤ m) :
    (Merge.copied p m f l n).startOf x.id = p.startAt x.id := by
  have found : p.mapping? x.id = some x := (find?_eq_some_iff h.mappingIds.nodup).mpr ⟨member, rfl⟩
  have place := h.mappingIds.getElem?_of_find? found
  have positive : x.id ≠ 0 := fun zero =>
    h.mappingIds.zero_not_mem (zero ▸ List.mem_map_of_mem member)
  have inside : (x.id - 1).toNat < m := by
    have : x.id.toNat ≠ 0 := fun zero => positive (UInt64.toNat_inj.mp zero)
    rw [UInt64.toNat_sub_of_le _ _ (by rw [UInt64.le_iff_toNat_le]; simp; omega)]
    simp
    omega
  rw [State.startOf, Merge.copied, List.getElem?_take_of_lt inside, place, Profile.startAt,
    if_neg positive, found]

theorem mapBacking_copied {x : Location} (member : x ∈ p.locations)
    (reached : reach m [x.mappingId] = some k) :
    mapBacking p (copied p m f l n) x =
      .ok (copied p k f l n, ⟨x.mappingId, 0⟩, p.startAt x.mappingId) := by
  rw [mapBacking]
  split
  · rename_i zero
    rw [zero] at reached ⊢
    obtain rfl : m = k := Option.some.inj reached
    rfl
  · rename_i nonzero
    obtain ⟨y, hy, same, found⟩ :=
      exists_lastWith h.mappingIds.nodup ((h.backed x member).resolve_left nonzero)
    rw [← same] at reached
    have inside : y.id.toNat ≤ k := (le_of_reach reached).2 y.id List.mem_cons_self
    have starts := @startOf_copied p h k f l n y hy inside
    rw [same] at starts
    simp only [found, mapMapping_copied h hy reached, same, starts]

end

/-- So many mappings and functions are used by the first locations. The first mapping is there
from the start. -/
structure Upto (p : Profile) (mappings functions locations : Nat) : Prop where
  main : mappings = 0 → p.mappings = []
  backings : reach 1 ((p.locations.take locations).map Location.mappingId) =
    some (max 1 mappings)
  lines : reach 0 ((p.locations.take locations).flatMap fun l => l.lines.map Line.functionId) =
    some functions

section

variable {p : Profile} (h : p.Ordered) {m f l n k : Nat}
include h

/-- The next location comes with the mapping and the functions that it uses. -/
theorem Upto.next (upto : Upto p m f l) {x : Location} (member : x ∈ p.locations)
    (next : p.locations.take (l + 1) = p.locations.take l ++ [x]) :
    ∃ m' f', reach m [x.mappingId] = some m' ∧ reach f (x.lines.map Line.functionId) = some f' ∧
      Upto p m' f' (l + 1) := by
  have whole : p.locations = p.locations.take l ++ ([x] ++ p.locations.drop (l + 1)) := by
    rw [← List.append_assoc, ← next, List.take_append_drop]
  have backings := h.backings
  have lines := h.lines
  rw [whole, List.map_append, List.map_append, List.map_singleton] at backings
  rw [whole, List.flatMap_append, List.flatMap_append, List.flatMap_singleton] at lines
  obtain ⟨f', uses, -⟩ := reach_next_of_append lines upto.lines
  obtain ⟨c, backing, -⟩ := reach_next_of_append backings upto.backings
  have lined : reach 0 ((p.locations.take (l + 1)).flatMap fun l => l.lines.map Line.functionId) =
      some f' := by
    rw [next, List.flatMap_append, List.flatMap_singleton]
    exact reach_trans upto.lines uses
  by_cases bare : m = 0
  · -- without a mapping there is none to refer to
    have none : x.mappingId = 0 := (h.backed x member).resolve_right fun known => by
      simp [Profile.mappingIds, upto.main bare] at known
    subst bare
    refine ⟨0, f', by simp [none, reach], uses, upto.main, ?_, lined⟩
    rw [next, List.map_append, List.map_singleton, none]
    exact reach_trans upto.backings rfl
  · rw [Nat.max_eq_right (by omega)] at backing
    have more := (le_of_reach backing).1
    refine ⟨c, f', backing, uses, fun zero => by omega, ?_, lined⟩
    rw [next, List.map_append, List.map_singleton]
    exact reach_one upto.backings backing

theorem mapLocation_copied (upto : Upto p m f l) {x : Location} (member : x ∈ p.locations)
    (reached : reach l [x.id] = some k) :
    ∃ m' f', mapLocation p (copied p m f l n) x = .ok (copied p m' f' k n, x.id) ∧
      Upto p m' f' k := by
  rcases known_or_next h.locationIds member reached with ⟨known, rfl⟩ | ⟨next, number, rfl⟩
  · have hit : (copied p m f k n).locationsById.lookup x.id = some x.id :=
      lookup_map_eq_some (nodup_taken h.locationIds.nodup k) (List.mem_reverse.mpr known)
    exact ⟨m, f, by rw [mapLocation, hit], upto⟩
  · -- the address stays where it is, since the mapping is not moved
    obtain ⟨m', f', backing, lines, upto'⟩ := upto.next h member next
    have unknown : (copied p m f l n).locationsById.lookup x.id = none :=
      lookup_map_eq_none (key_ne_of_next h.locationIds.nodup next)
    have unfiled : (copied p m' f' l n).locations.lookup (p.locationKey x) = none :=
      lookup_map_eq_none (key_ne_of_next h.locations next)
    refine ⟨m', f', ?_, upto'⟩
    simp only [mapLocation, unknown, mapBacking_copied h member backing,
      mapLines_copied h (h.lined x member) lines, bind, Except.bind, UInt64.add_zero]
    simp only [placeLocation]
    rw [show (copied p m' f' l n).locations.lookup (.of (p.startAt x.mappingId) _) = none from
      unfiled]
    simp only [copied, map_next next, length_of_next next, number]
    rw [next]
    rfl

theorem mapFrame_copied (upto : Upto p m f l) {id : UInt64} (known : id ∈ p.locationIds)
    (reached : reach l [id] = some k) :
    ∃ m' f', mapFrame p (copied p m f l n) id = .ok (copied p m' f' k n, id) ∧ Upto p m' f' k := by
  obtain ⟨x, member, rfl, found⟩ := exists_lastWith h.locationIds.nodup known
  rw [mapFrame, found]
  exact mapLocation_copied h upto member reached

theorem mapSample_copied (upto : Upto p m f l) {x : Sample} (member : x ∈ p.samples)
    (next : p.samples.take (n + 1) = p.samples.take n ++ [x])
    (reached : reach l x.stack = some k) :
    ∃ m' f', mapSample p (copied p m f l n) x = .ok (copied p m' f' k (n + 1)) ∧
      Upto p m' f' k := by
  obtain ⟨s, run, m', f', upto', rfl⟩ :=
    mapAll_same (I := fun l s => ∃ m f, Upto p m f l ∧ s = copied p m f l n)
      (fun id hid j k s ⟨m, f, upto, same⟩ reached => by
        obtain ⟨m', f', run, upto'⟩ :=
          mapFrame_copied h upto (h.stacked x member id hid) reached
        exact ⟨_, same ▸ run, m', f', upto', rfl⟩)
      ⟨m, f, upto, rfl⟩ (x.stack.map_id'.symm ▸ reached)
  -- no sample before this one has its key, so it is not added to any
  have unfiled : (copied p m' f' k n).samples.lookup (.of x) = none := by
    refine lookup_map_eq_none fun y hy => ?_
    have there := List.fst_mem_of_mem_zipIdx (List.mem_reverse.mp hy)
    exact key_ne_of_next h.samples next y.1 (List.mem_reverse.mpr there)
  refine ⟨m', f', ?_, upto'⟩
  have places : (p.samples.take (n + 1)).zipIdx.reverse =
      (x, n) :: (p.samples.take n).zipIdx.reverse := by
    rw [next, List.zipIdx_append, length_of_next next, List.reverse_append]
    simp
  simp only [mapSample, run, bind, Except.bind, placeSample]
  rw [show (copied p m' f' k n).samples.lookup (.of { x with stack := x.stack }) = none
    from unfiled]
  simp only [copied, places, length_of_next next, List.map_cons]
  rw [next]

/-- With all locations and samples, all mappings and functions are there. -/
theorem out_copied (upto : Upto p m f p.locations.length) :
    (copied p m f p.locations.length p.samples.length).out = p := by
  have lines := upto.lines
  have backings := upto.backings
  rw [List.take_length] at lines backings
  obtain rfl : p.functions.length = f := Option.some.inj (h.lines.symm.trans lines)
  have most : max 1 p.mappings.length = max 1 m :=
    Option.some.inj (h.backings.symm.trans backings)
  have all : p.mappings.length ≤ m := by
    by_cases bare : m = 0
    · simp [upto.main bare]
    · omega
  simp [copied, List.take_of_length_le all]

theorem mapSamples_copied {done todo : List Sample} (whole : p.samples = done ++ todo)
    (upto : Upto p m f l) (reached : reach 0 (done.flatMap Sample.stack) = some l) :
    ∃ s, todo.foldlM (mapSample p) (copied p m f l done.length) = .ok s ∧ s.out = p := by
  induction todo generalizing done m f l with
  | nil =>
    rw [List.append_nil] at whole
    subst whole
    obtain rfl : p.locations.length = l := Option.some.inj (h.stackOrder.symm.trans reached)
    exact ⟨_, rfl, out_copied h upto⟩
  | cons x todo ih =>
    have next : p.samples.take (done.length + 1) = p.samples.take done.length ++ [x] := by
      rw [whole, List.take_left' rfl, List.append_cons, List.take_left' (by simp)]
    have stackOrder := h.stackOrder
    rw [whole, List.append_cons, List.flatMap_append, List.flatMap_append, List.flatMap_singleton,
      List.append_assoc] at stackOrder
    obtain ⟨k, stack, -⟩ := reach_next_of_append stackOrder reached
    obtain ⟨m', f', run, upto'⟩ := mapSample_copied h upto (by simp [whole]) next stack
    rw [List.append_cons] at whole
    obtain ⟨s, runs, same⟩ := ih whole upto' (by
      rw [List.flatMap_append, List.flatMap_singleton]
      exact reach_trans reached stack)
    rw [List.length_append, List.length_singleton] at runs
    exact ⟨s, by rw [List.foldlM_cons, run]; exact runs, same⟩

omit h in
theorem foldl_addComment {done todo : List String} (distinct : (done ++ todo).Nodup) :
    todo.foldl addComment done = done ++ todo := by
  induction todo generalizing done with
  | nil => simp
  | cons c todo ih =>
    have new : c ∉ done := fun known =>
      List.disjoint_of_nodup_append distinct known List.mem_cons_self
    rw [List.append_cons] at distinct ⊢
    rw [List.foldl_cons, addComment, if_neg new, ih distinct]

/-- The headers of one profile are its own. -/
theorem headers_copied : headers p [p] = (copied p 0 0 0 0).out := by
  have time : earlier 0 p.timeNanos = p.timeNanos := by simp [earlier]
  have period : longer 0 p.period = p.period := by simp [longer]
  have comments : p.comments.foldl addComment [] = p.comments := by
    simpa using @foldl_addComment [] p.comments h.comments
  simp [headers, mergeHeader, copied, time, period, comments, orElseText]

theorem startSource_copied :
    startSource { out := headers p [p] } p = copied p (min 1 p.mappings.length) 0 0 0 := by
  have start : ({ out := headers p [p] } : State) = copied p 0 0 0 0 := by
    rw [headers_copied h]
    rfl
  rw [start]
  cases mains : p.mappings with
  | nil => simp [startSource, copied, mains]
  | cons main rest =>
    have member : main ∈ p.mappings := by simp [mains]
    have one : main.id.toNat = 1 := by
      have numbered := h.mappingIds
      rw [Profile.mappingIds, mains] at numbered
      exact numbered.toNat_getElem 0 (by simp)
    have run := @mapMapping_copied p h 0 0 0 0 1 main member (reach_next one)
    have same : startSource (copied p 0 0 0 0) p = (mapMapping (copied p 0 0 0 0) main).1 := by
      simp [startSource, copied, mains]
    rw [same, run]
    simp

/-- A profile in order without zero samples comes out of a pass as it went in. -/
theorem pass_copied (live : ∀ t ∈ p.samples, t.isZero = false) : pass p [] = .ok p := by
  have upto : Upto p (min 1 p.mappings.length) 0 0 := by
    refine ⟨fun bare => List.length_eq_zero_iff.mp (by omega), ?_, rfl⟩
    rw [List.take_zero, List.map_nil, reach]
    exact congrArg some (by omega)
  obtain ⟨s, run, same⟩ := @mapSamples_copied p h _ 0 0 [] p.samples rfl upto rfl
  have all : p.samples.filter (!·.isZero) = p.samples :=
    List.filter_eq_self.mpr fun t ht => by simp [live t ht]
  have source : mapSource { out := headers p [p] } p = .ok s := by
    rw [mapSource, all, startSource_copied h]
    exact run
  have passed : pass p [] = .ok s.out := by
    simp [pass, source, bind, Except.bind, pure, Except.pure]
  rw [passed, same]

end

end Merge

end Profiling
