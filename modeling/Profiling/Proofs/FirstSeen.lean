import Profiling.Proofs.Relocation

/-!
# Mappings as they are first seen

Sources are gone through along their samples, and of the mappings with one key the first that is
come across becomes the merged one, with its flags. Locations of the others are moved to it. So a
location may come to be under a mapping that is marked as having functions though its own was not,
and both ways of symbolization then pass over it.
-/

namespace Profiling

/-- The mapping of the location with a number. -/
def Profile.mappingAt? (p : Profile) (id : UInt64) : Option Mapping :=
  (p.location? id).bind fun l => (p.backing? l.mappingId).join

/-- The mappings of all that was sampled, in the order of the samples that count. -/
def Profile.visited (p : Profile) : List Mapping :=
  (p.samples.filter (!·.isZero)).flatMap fun t => t.stack.filterMap p.mappingAt?

theorem Profile.mapping_of_frame? {p : Profile} {id : UInt64} {fr : Frame}
    (read : p.frame? id = some fr) : fr.mapping = (p.mappingAt? id).map Mapping.key := by
  simp only [Profile.frame?, Profile.frameOf?, Option.bind_eq_bind, Option.bind_eq_some_iff,
    Option.some.injEq] at read
  obtain ⟨l, located, m, backing, lines, -, rfl⟩ := read
  simp [Profile.mappingAt?, located, backing]

/-- Locations with the same frame are in mappings with the same key. -/
theorem Profile.exists_mappingAt? {p q : Profile} {id id' : UInt64} {fr : Frame} {m : Mapping}
    (read : p.frame? id = some fr) (read' : q.frame? id' = some fr)
    (own : p.mappingAt? id = some m) : ∃ n, q.mappingAt? id' = some n ∧ n.key = m.key := by
  have keys : (q.mappingAt? id').map Mapping.key = some m.key := by
    rw [← mapping_of_frame? read', mapping_of_frame? read, own]
    rfl
  exact Option.map_eq_some_iff.mp keys

theorem Profile.exists_location_of_frame? {p : Profile} {id : UInt64} {fr : Frame}
    (read : p.frame? id = some fr) :
    ∃ l, p.location? id = some l ∧ l.lines.length = fr.lines.length := by
  simp only [Profile.frame?, Profile.frameOf?, Option.bind_eq_bind, Option.bind_eq_some_iff,
    Option.some.injEq] at read
  obtain ⟨l, located, m, -, lines, lined, rfl⟩ := read
  exact ⟨l, located, (mapM_eq_some_iff.mp lined).length_eq⟩

theorem Profile.mapping?_of_mappingAt? {p : Profile} {id : UInt64} {l : Location} {m : Mapping}
    (located : p.location? id = some l) (found : p.mappingAt? id = some m) :
    p.mapping? l.mappingId = some m := by
  obtain ⟨l', located', backing⟩ := Option.bind_eq_some_iff.mp found
  obtain rfl : l = l' := Option.some.inj (located.symm.trans located')
  exact mapping?_of_backing? (Option.join_eq_some_iff.mp backing)

theorem Profile.mem_of_mappingAt? {p : Profile} {id : UInt64} {m : Mapping}
    (found : p.mappingAt? id = some m) : m ∈ p.mappings := by
  obtain ⟨l, located, -⟩ := Option.bind_eq_some_iff.mp found
  exact List.mem_of_find?_eq_some (mapping?_of_mappingAt? located found)

theorem Profile.mem_of_mem_visited {p : Profile} {m : Mapping} (visited : m ∈ p.visited) :
    m ∈ p.mappings := by
  obtain ⟨t, -, visited⟩ := List.mem_flatMap.mp visited
  obtain ⟨id, -, found⟩ := List.mem_filterMap.mp visited
  exact Profile.mem_of_mappingAt? found

namespace Merge

/-- All mappings as sources are gone through. The first that there is comes before those that
samples need. -/
def seen (srcs : List Profile) : List Mapping :=
  (srcs.flatMap Profile.mappings).head?.toList ++ srcs.flatMap Profile.visited

def place (placed : List Mapping) (m : Mapping) : List Mapping :=
  if m.key ∈ placed.map Mapping.key then placed
  else placed ++ [{ m with id := idAt placed.length }]

section

variable {placed : List Mapping} {m : Mapping}

theorem place_of_mem (known : m.key ∈ placed.map Mapping.key) : place placed m = placed :=
  if_pos known

theorem mem_keys_place (placed : List Mapping) (m : Mapping) :
    ∃ n ∈ place placed m, n.key = m.key := by
  by_cases known : m.key ∈ placed.map Mapping.key
  · rw [place_of_mem known]
    exact List.mem_map.mp known
  · rw [place, if_neg known]
    exact ⟨_, List.mem_append_right _ List.mem_cons_self, rfl⟩

theorem mem_place {n : Mapping} (member : n ∈ place placed m) :
    n ∈ placed ∨ (∀ k ∈ placed, k.key ≠ m.key) ∧ { m with id := n.id } = n := by
  by_cases known : m.key ∈ placed.map Mapping.key
  · rw [place_of_mem known] at member
    exact Or.inl member
  · rw [place, if_neg known] at member
    rcases List.mem_append.mp member with old | new
    · exact Or.inl old
    · obtain rfl := List.mem_singleton.mp new
      refine Or.inr ⟨?_, rfl⟩
      intro k hk same
      exact known (List.mem_map.mpr ⟨k, hk, same⟩)

theorem extends_place (placed : List Mapping) (m : Mapping) : placed <+: place placed m := by
  rw [place]
  split
  · exact List.prefix_rfl
  · exact List.prefix_append _ _

theorem extends_foldl_place (placed seen : List Mapping) : placed <+: seen.foldl place placed := by
  induction seen generalizing placed with
  | nil => exact List.prefix_rfl
  | cons m seen ih => exact (extends_place placed m).trans (ih _)

/-- Whatever is placed beyond what was there is the first of its key. -/
theorem mem_foldl_place {seen : List Mapping} (member : m ∈ seen.foldl place placed) :
    m ∈ placed ∨ (∀ k ∈ placed, k.key ≠ m.key) ∧
      ∃ n, seen.find? (·.key = m.key) = some n ∧ { n with id := m.id } = m := by
  induction seen generalizing placed with
  | nil => exact Or.inl member
  | cons n seen ih =>
    rcases ih member with early | ⟨others, first⟩
    · rcases mem_place early with old | ⟨others, renumbered⟩
      · exact Or.inl old
      · have same : n.key = m.key := (congrArg Mapping.key renumbered :)
        refine Or.inr ⟨same ▸ others, n, ?_, renumbered⟩
        exact List.find?_cons_of_pos (by simpa using same)
    · obtain ⟨k, hk, same⟩ := mem_keys_place placed n
      have other : n.key ≠ m.key := same ▸ others k hk
      refine Or.inr ⟨fun k hk => others k ((extends_place placed n).subset hk), ?_⟩
      rwa [List.find?_cons_of_neg (by simpa using other)]

end

section

variable {P : Supply} {src : Profile} {s s' : State}

theorem mappings_mapMapping (h : Sound P s) (c : Cached src s) {m : Mapping}
    (here : src.mapping? m.id = some m) :
    (mapMapping s m).1.out.mappings = place s.out.mappings m := by
  rw [mapMapping]
  cases hit : s.mappingsById.lookup m.id with
  | some t =>
    obtain ⟨m', found, n, held, same, -⟩ := c.mappings m.id t hit
    obtain rfl : m = m' := Option.some.inj (here.symm.trans found)
    exact (place_of_mem (List.mem_map.mpr ⟨n, List.mem_of_find?_eq_some held, same⟩)).symm
  | none =>
    dsimp only
    rw [placeMapping]
    cases known : s.mappings.lookup m.key with
    | some id =>
      obtain ⟨n, found, same⟩ := h.mappings.find?_of_lookup known
      exact (place_of_mem (List.mem_map.mpr ⟨n, List.mem_of_find?_eq_some found, same⟩)).symm
    | none =>
      have new : m.key ∉ s.out.mappings.map Mapping.key := by
        rw [List.mem_map]
        rintro ⟨n, hn, same⟩
        exact h.mappings.key_ne_of_lookup known n hn same
      rw [place, if_neg new]

theorem mappings_placeFunction (s : State) (f : Function) :
    (placeFunction s f).1.out.mappings = s.out.mappings := by
  rw [placeFunction]
  split <;> rfl

theorem mappings_mapFunction (s : State) (f : Function) :
    (mapFunction s f).1.out.mappings = s.out.mappings := by
  rw [mapFunction]
  split
  · rfl
  · exact mappings_placeFunction s f

theorem mappings_mapLines {lines ys : List Line}
    (run : mapAll (mapLine src) s lines = .ok (s', ys)) : s'.out.mappings = s.out.mappings := by
  refine (mapAll_ok (I := fun _ => True)
    (R := fun s s' _ => s'.out.mappings = s.out.mappings) (fun _ => rfl)
    (fun head rest => rest.trans head) ?_ trivial run).2
  intro l _ s s' y _ step
  rw [mapLine] at step
  split at step
  · cases step
  · rw [← (Prod.mk.inj (Except.ok.inj step)).1]
    exact ⟨trivial, mappings_mapFunction s _⟩

theorem mappings_placeLocation (s : State) (start : UInt64) (l : Location) :
    (placeLocation s start l).1.out.mappings = s.out.mappings := by
  rw [placeLocation]
  dsimp only
  split <;> rfl

theorem mappings_placeSample (s : State) (t : Sample) :
    (placeSample s t).out.mappings = s.out.mappings := by
  rw [placeSample]
  dsimp only
  split <;> rfl

theorem mappings_mapBacking (resolved : src.Resolved) {l : Location} {t : Target} {start : UInt64}
    (h : Sound P s) (c : Cached src s) (run : mapBacking src s l = .ok (s', t, start)) :
    s'.out.mappings =
      (src.backing? l.mappingId).join.elim s.out.mappings (place s.out.mappings) := by
  rw [mapBacking] at run
  split at run
  · rename_i zero
    obtain ⟨rfl, -⟩ := Prod.mk.inj (Except.ok.inj run)
    simp [Profile.backing?, zero]
  · rename_i nonzero
    split at run
    · cases run
    · rename_i m found
      rw [lastWith_eq_find? resolved.mappings.2] at found
      obtain ⟨member, number⟩ := (find?_eq_some_iff resolved.mappings.2).mp found
      have here : src.mapping? m.id = some m := by rwa [number]
      have backing : src.backing? l.mappingId = some (some m) := by
        rw [number] at here
        simp [Profile.backing?, nonzero, here]
      obtain ⟨rfl, -⟩ := Prod.mk.inj (Except.ok.inj run)
      rw [backing]
      exact mappings_mapMapping h c here

/-- A location's mapping is placed. If the location was moved before, its mapping is there. -/
theorem mappings_mapLocation (resolved : src.Resolved) {l : Location} {id : UInt64}
    (here : src.location? l.id = some l) (h : Sound P s) (c : Cached src s)
    (run : mapLocation src s l = .ok (s', id)) :
    s'.out.mappings = (src.mappingAt? l.id).elim s.out.mappings (place s.out.mappings) := by
  have backed : src.mappingAt? l.id = (src.backing? l.mappingId).join := by
    simp [Profile.mappingAt?, here]
  rw [mapLocation] at run
  cases hit : s.locationsById.lookup l.id with
  | some n =>
    rw [hit] at run
    obtain ⟨rfl, rfl⟩ := Prod.mk.inj (Except.ok.inj run)
    obtain ⟨fr, before, after⟩ := c.locations l.id n hit
    cases found : src.mappingAt? l.id with
    | none => rfl
    | some m =>
      obtain ⟨k, held, same⟩ := Profile.exists_mappingAt? before after found
      have known := List.mem_map.mpr ⟨k, Profile.mem_of_mappingAt? held, same⟩
      exact (place_of_mem known).symm
  | none =>
    rw [hit] at run
    obtain ⟨⟨s₁, t, start⟩, backing, run⟩ := bind_eq_ok_iff.mp run
    obtain ⟨⟨s₂, lines⟩, lining, run⟩ := bind_eq_ok_iff.mp run
    have kept := mappings_placeLocation s₂ start
      { l with mappingId := t.id, address := l.address + t.shift, lines }
    obtain ⟨rfl, rfl⟩ := Prod.mk.inj (Except.ok.inj run)
    rw [backed, ← mappings_mapBacking resolved h c backing, ← mappings_mapLines lining]
    exact kept

theorem mappings_startSource (tidy : Tidy P s) : (startSource s src).out.mappings =
    if s.out.mappings = [] then src.mappings.head?.toList.foldl place [] else s.out.mappings := by
  cases merged : s.out.mappings with
  | cons m ms => simp [startSource, merged]
  | nil =>
    cases mains : src.mappings with
    | nil => simp [startSource, merged, mains]
    | cons main rest =>
      have here : src.mapping? main.id = some main := by simp [Profile.mapping?, mains]
      have placed := mappings_mapMapping (tidy.sound.remember [] [] []) (cached_nothing src s) here
      simpa [startSource, merged, mains] using placed

end

section

variable {P : Supply} {src : Profile} {s s' : State} (small : P.Countable)
  (resolved : src.Resolved) (drawn : src.DrawsFrom P)
include small resolved drawn

theorem mappings_mapStack {stack ids : List UInt64}
    (known : ∀ id ∈ stack, id ∈ src.locationIds) (h : Sound P s) (c : Cached src s)
    (e : s.out.Employed) (run : mapAll (mapFrame src) s stack = .ok (s', ids)) :
    s'.out.mappings = (stack.filterMap src.mappingAt?).foldl place s.out.mappings := by
  induction stack generalizing s ids with
  | nil =>
    obtain ⟨rfl, -⟩ := Prod.mk.inj (Except.ok.inj run)
    rfl
  | cons id stack ih =>
    obtain ⟨knownHead, knownTail⟩ := List.forall_mem_cons.mp known
    obtain ⟨⟨s₁, new⟩, head, run⟩ := bind_eq_ok_iff.mp run
    obtain ⟨⟨s₂, ids'⟩, tail, run⟩ := bind_eq_ok_iff.mp run
    obtain ⟨rfl, rfl⟩ := Prod.mk.inj (Except.ok.inj run)
    obtain ⟨s₁', new', head', ⟨h₁, c₁, e₁⟩, -⟩ :=
      mapFrame_spec small resolved drawn knownHead h c e
    obtain ⟨rfl, rfl⟩ := Prod.mk.inj (Except.ok.inj (head.symm.trans head'))
    rw [ih knownTail h₁ c₁ e₁ tail]
    obtain ⟨l, located⟩ := resolved.exists_location? knownHead
    obtain ⟨-, rfl⟩ := (find?_eq_some_iff resolved.locations.2).mp located
    have last : lastWith Location.id l.id src.locations = some l :=
      (lastWith_eq_find? resolved.locations.2 _).trans located
    have step : mapLocation src s l = .ok (s₁, new) := by
      simpa [mapFrame, last] using head
    rw [mappings_mapLocation resolved located h c step, List.filterMap_cons]
    cases src.mappingAt? l.id <;> rfl

theorem mappings_mapSamples {samples : List Sample} (members : ∀ t ∈ samples, t ∈ src.samples)
    (tidy : Tidy P s) (c : Cached src s) (run : samples.foldlM (mapSample src) s = .ok s') :
    s'.out.mappings =
      (samples.flatMap fun t => t.stack.filterMap src.mappingAt?).foldl place s.out.mappings := by
  induction samples generalizing s with
  | nil =>
    obtain rfl := Except.ok.inj run
    rfl
  | cons t samples ih =>
    obtain ⟨member, members⟩ := List.forall_mem_cons.mp members
    rw [List.foldlM_cons] at run
    obtain ⟨s₁, head, tail⟩ := bind_eq_ok_iff.mp run
    obtain ⟨s₁', head', tidy₁, c₁, -⟩ := mapSample_spec small resolved drawn member tidy c
    obtain rfl := Except.ok.inj (head.symm.trans head')
    obtain ⟨⟨s₀, stack⟩, stacked, placed⟩ := bind_eq_ok_iff.mp head
    obtain rfl := Except.ok.inj placed
    have kept := mappings_placeSample s₀ { t with stack }
    rw [ih members tidy₁ c₁ tail, List.flatMap_cons, List.foldl_append, ← mappings_mapStack small
      resolved drawn (resolved.stacked t member) tidy.sound c tidy.employed stacked, kept]

theorem mappings_mapSource (tidy : Tidy P s) (run : mapSource s src = .ok s') :
    s'.out.mappings = src.visited.foldl place (startSource s src).out.mappings := by
  obtain ⟨tidy₀, cached, -, -⟩ := startSource_spec small drawn tidy
  exact mappings_mapSamples small resolved drawn (fun t ht => (List.mem_filter.mp ht).1) tidy₀
    cached run

end

section

variable {P : Supply} (small : P.Countable) {s s' : State} {srcs : List Profile}
  (resolved : ∀ src ∈ srcs, src.Resolved) (drawn : ∀ src ∈ srcs, src.DrawsFrom P)
include small resolved drawn

/-- Once there is a mapping, sources add what their samples need. -/
theorem mappings_mapSources (tidy : Tidy P s) (some_mapping : s.out.mappings ≠ [])
    (run : srcs.foldlM mapSource s = .ok s') :
    s'.out.mappings = (srcs.flatMap Profile.visited).foldl place s.out.mappings := by
  induction srcs generalizing s with
  | nil =>
    obtain rfl := Except.ok.inj run
    rfl
  | cons src srcs ih =>
    obtain ⟨resolvedHead, resolvedTail⟩ := List.forall_mem_cons.mp resolved
    obtain ⟨drawnHead, drawnTail⟩ := List.forall_mem_cons.mp drawn
    rw [List.foldlM_cons] at run
    obtain ⟨s₁, head, tail⟩ := bind_eq_ok_iff.mp run
    obtain ⟨s₁', head', tidy₁, -⟩ := mapSource_spec small resolvedHead drawnHead tidy
    obtain rfl := Except.ok.inj (head.symm.trans head')
    have here := mappings_mapSource small resolvedHead drawnHead tidy head
    rw [mappings_startSource tidy, if_neg some_mapping] at here
    have still : s₁.out.mappings ≠ [] := by
      rw [here]
      exact (extends_foldl_place _ _).ne_nil some_mapping
    rw [ih resolvedTail drawnTail tidy₁ still tail, here, List.flatMap_cons, List.foldl_append]

/-- The first mapping of the first source that has one comes first. -/
theorem mappings_mapSources_seen (tidy : Tidy P s) (none_yet : s.out.mappings = [])
    (run : srcs.foldlM mapSource s = .ok s') :
    s'.out.mappings = (seen srcs).foldl place [] := by
  induction srcs generalizing s with
  | nil =>
    obtain rfl := Except.ok.inj run
    exact none_yet
  | cons src srcs ih =>
    obtain ⟨resolvedHead, resolvedTail⟩ := List.forall_mem_cons.mp resolved
    obtain ⟨drawnHead, drawnTail⟩ := List.forall_mem_cons.mp drawn
    rw [List.foldlM_cons] at run
    obtain ⟨s₁, head, tail⟩ := bind_eq_ok_iff.mp run
    obtain ⟨s₁', head', tidy₁, -⟩ := mapSource_spec small resolvedHead drawnHead tidy
    obtain rfl := Except.ok.inj (head.symm.trans head')
    have here := mappings_mapSource small resolvedHead drawnHead tidy head
    rw [mappings_startSource tidy, if_pos none_yet] at here
    cases mains : src.mappings with
    | nil =>
      have nothing : src.visited = [] := by
        refine List.eq_nil_iff_forall_not_mem.mpr fun m visited => ?_
        have member := Profile.mem_of_mem_visited visited
        rw [mains] at member
        exact List.not_mem_nil member
      rw [mains, nothing] at here
      rw [ih resolvedTail drawnTail tidy₁ here tail]
      simp [seen, mains, nothing]
    | cons main rest =>
      have some_mapping : s₁.out.mappings ≠ [] := by
        rw [here, mains]
        exact (extends_foldl_place _ _).ne_nil (by simp [place])
      rw [mappings_mapSources small resolvedTail drawnTail tidy₁ some_mapping tail, here, mains]
      simp [seen, mains, List.foldl_append]

end

theorem mem_of_mem_seen {srcs : List Profile} {m : Mapping} (member : m ∈ seen srcs) :
    m ∈ srcs.flatMap Profile.mappings := by
  rcases List.mem_append.mp member with main | visited
  · exact List.mem_of_mem_head? (Option.mem_toList.mp main)
  · obtain ⟨src, hsrc, visited⟩ := List.mem_flatMap.mp visited
    exact List.mem_flatMap.mpr ⟨src, hsrc, Profile.mem_of_mem_visited visited⟩

section

variable {P : Supply} (small : P.Countable)
include small

theorem firstSeen_of_pass {first out : Profile} {rest : List Profile}
    (resolved : ∀ src ∈ first :: rest, src.Resolved)
    (drawn : ∀ src ∈ first :: rest, src.DrawsFrom P) (run : pass first rest = .ok out) :
    ∀ m ∈ out.mappings, ∃ n, (seen (first :: rest)).find? (·.key = m.key) = some n ∧
      { n with id := m.id } = m := by
  obtain ⟨-, -, started⟩ := bind_eq_ok_iff.mp run
  obtain ⟨s, merged, made⟩ := bind_eq_ok_iff.mp started
  obtain rfl : s.out = out := Except.ok.inj made
  obtain ⟨none_yet, -⟩ := headers_parts first (first :: rest)
  have placed := mappings_mapSources_seen small resolved drawn (tidy_headers P _ _) none_yet merged
  intro m hm
  rw [placed] at hm
  rcases mem_foldl_place hm with old | ⟨-, found⟩
  · exact absurd old List.not_mem_nil
  · exact found

/-- Every merged mapping is, but for its number, the first of its key that was seen. -/
theorem firstSeen_of_merge {srcs : List Profile} {out : Profile}
    (linked : ∀ src ∈ srcs, src.Linked) (drawn : ∀ src ∈ srcs, src.DrawsFrom P)
    (run : merge srcs = .ok out) :
    ∀ m ∈ out.mappings, ∃ n, (seen srcs).find? (·.key = m.key) = some n ∧
      { n with id := m.id } = m := by
  match srcs with
  | [] => cases run
  | first :: rest =>
    have resolved : ∀ src ∈ first :: rest, src.Resolved :=
      fun src hsrc => (linked src hsrc).toResolved
    obtain ⟨between, once, made, -⟩ := pass_spec small linked drawn (compatible_of_merge run)
    have before := firstSeen_of_pass small resolved drawn once
    rw [merge, once] at run
    dsimp only [bind, Except.bind] at run
    split at run
    · have after := firstSeen_of_pass small (by simpa using made.linked.toResolved)
        (by simpa using made.drawn) run
      intro m hm
      obtain ⟨k, again, renumbered⟩ := after m hm
      have member : k ∈ between.mappings := by
        simpa using mem_of_mem_seen (List.mem_of_find?_eq_some again)
      obtain ⟨n, found, same⟩ := before k member
      have key : k.key = m.key := (congrArg Mapping.key renumbered :)
      refine ⟨n, key ▸ found, Eq.trans ?_ renumbered⟩
      exact congrArg (fun x : Mapping => { x with id := m.id }) same
    · obtain rfl : between = out := Except.ok.inj run
      exact before

end

end Merge

open Merge

/-- A location without lines stays without lines, and comes under the mapping of its mapping's key
that is seen first, marks included. Symbolization passes over marked mappings. So whether it looks
at the location may depend on the order of the sources, unless no mapping of the key is marked. -/
theorem marks_of_move {srcs : List Profile} {out src : Profile} {records : List Moves}
    {moves : Moves} {l : Location} {m : Mapping} {new : UInt64}
    (valid : ∀ src ∈ srcs, src.checkValid = .ok ()) (countable : Countable srcs)
    (run : move srcs = .ok (out, records)) (listed : (src, moves) ∈ srcs.zip records)
    (hl : l ∈ src.locations) (hm : m ∈ src.mappings) (backing : m.id = l.mappingId)
    (moved : moves l.id = some new) :
    ∃ L M n, out.location? new = some L ∧ out.mapping? L.mappingId = some M ∧
      (L.lines = [] ↔ l.lines = []) ∧ M.key = m.key ∧
      (seen srcs).find? (·.key = m.key) = some n ∧ { n with id := M.id } = M ∧
      ((∀ k ∈ srcs.flatMap Profile.mappings, k.key = m.key → k.hasFunctions = false) →
        M.hasFunctions = false) := by
  have linked : ∀ src ∈ srcs, src.Linked :=
    fun src hsrc => Profile.checkValid_eq_ok_iff.mp (valid src hsrc)
  have merged : merge srcs = .ok out := by
    rw [← move_fst, run]
    rfl
  have here := (linked src (List.of_mem_zip listed).1).toResolved
  have each := move_spec countable.supply linked (fun src => drawsFrom_supply) run
  obtain ⟨fr, before, after⟩ := (List.forall₂_zip each listed).faithful _ _ moved
  have located : src.location? l.id = some l :=
    (find?_eq_some_iff here.locations.2).mpr ⟨hl, rfl⟩
  have mapped : src.mapping? l.mappingId = some m :=
    (find?_eq_some_iff here.mappings.2).mpr ⟨hm, backing⟩
  have nonzero : l.mappingId ≠ 0 := by
    intro zero
    exact here.mappings.1 (zero ▸ backing ▸ List.mem_map_of_mem hm)
  have own : src.mappingAt? l.id = some m := by
    simp [Profile.mappingAt?, located, Profile.backing?, nonzero, mapped]
  obtain ⟨l', located', count⟩ := Profile.exists_location_of_frame? before
  obtain rfl : l = l' := Option.some.inj (located.symm.trans located')
  obtain ⟨L, there, count'⟩ := Profile.exists_location_of_frame? after
  obtain ⟨M, at_new, key⟩ := Profile.exists_mappingAt? before after own
  have found := Profile.mapping?_of_mappingAt? there at_new
  obtain ⟨n, first, renumbered⟩ := firstSeen_of_merge countable.supply linked
    (fun src => drawsFrom_supply) merged M (Profile.mem_of_mappingAt? at_new)
  rw [key] at first
  refine ⟨L, M, n, there, found, ?_, key, first, renumbered, ?_⟩
  · rw [← List.length_eq_zero_iff, count', ← count, List.length_eq_zero_iff]
  · intro unmarked
    have member := mem_of_mem_seen (List.mem_of_find?_eq_some first)
    have own : n.key = m.key := by simpa using List.find?_some first
    exact (congrArg Mapping.hasFunctions renumbered).symm.trans (unmarked n member own)

def Profile.raw : Profile where
  sampleTypes := [⟨"cpu", "ns"⟩]
  samples := [{ stack := [1], values := [3] }]
  mappings := [{ id := 1, start := 0x1000, limit := 0x3000, file := "/bin/sh" }]
  locations := [{ id := 1, mappingId := 1, address := 0x1020 }]

def Profile.symbolized : Profile where
  sampleTypes := [⟨"cpu", "ns"⟩]
  samples := [{ stack := [1], values := [5] }]
  mappings :=
    [{ id := 1, start := 0x1000, limit := 0x3000, file := "/bin/sh", hasFunctions := true }]
  locations := [{ id := 1, mappingId := 1, address := 0x1010, lines := [⟨1, 7, 0⟩] }]
  functions := [{ id := 1, name := "main" }]

/-- When the raw profile is listed first, its location is still looked at. -/
theorem marks_of_move_rawFirst :
    ∃ out L M, merge [.raw, .symbolized] = .ok out ∧ out.location? 1 = some L ∧ L.lines = [] ∧
      out.mapping? L.mappingId = some M ∧ M.hasFunctions = false := by
  have runs : (move [.raw, .symbolized]).map (fun r => r.2.map fun moves => moves 1) =
      .ok [some 1, some 2] := by
    decide +kernel
  cases run : move [.raw, .symbolized] with
  | error e => simp [run, Except.map] at runs
  | ok result =>
    obtain ⟨out, records⟩ := result
    rw [run] at runs
    obtain ⟨moves, others, rfl, moved, -⟩ := List.map_eq_cons_iff.mp (Except.ok.inj runs)
    have listed : (Profile.raw, moves) ∈ [Profile.raw, .symbolized].zip (moves :: others) :=
      List.mem_cons_self
    have member : { id := 1, mappingId := 1, address := 0x1020 } ∈ Profile.raw.locations :=
      List.mem_cons_self
    have main : { id := 1, start := 0x1000, limit := 0x3000, file := "/bin/sh" } ∈
        Profile.raw.mappings := List.mem_cons_self
    obtain ⟨L, M, n, located, found, bare, -, first, renumbered, -⟩ :=
      marks_of_move (by decide) ⟨by decide, by decide, by decide⟩ run listed member main rfl moved
    have merged : merge [.raw, .symbolized] = .ok out := by
      rw [← move_fst, run]
      rfl
    have raw : (seen [.raw, .symbolized]).find? (fun k => k.key = ⟨0x2000, 0, "/bin/sh"⟩) =
        some { id := 1, start := 0x1000, limit := 0x3000, file := "/bin/sh" } := by
      decide
    obtain rfl := Option.some.inj (raw.symm.trans first)
    exact ⟨out, L, M, merged, located, bare.mpr rfl, found, by rw [← renumbered]⟩

def Profile.symbolizedFirst : Profile :=
  { Profile.symbolized with
    samples := [{ stack := [1], values := [5] }, { stack := [2], values := [3] }]
    locations := Profile.symbolized.locations ++ [{ id := 2, mappingId := 1, address := 0x1020 }] }

/-- When it is listed last, its location comes under a mapping that is passed over. -/
theorem move_hides_raw :
    (∀ p ∈ [Profile.symbolized, .raw], p.checkValid = .ok ()) ∧
      Profile.raw.locations = [{ id := 1, mappingId := 1, address := 0x1020 }] ∧
      (∀ m ∈ Profile.raw.mappings, m.id = 1 ∧ m.hasFunctions = false) ∧
      (move [.symbolized, .raw]).map (fun r => (r.1, r.2.map fun moves => moves 1)) =
        .ok (.symbolizedFirst, [some 1, some 2]) ∧
      ∃ L M, Profile.symbolizedFirst.location? 2 = some L ∧ L.lines = [] ∧
        Profile.symbolizedFirst.mapping? L.mappingId = some M ∧ M.hasFunctions = true := by
  refine ⟨by decide, rfl, by decide, by decide +kernel, ?_⟩
  exact ⟨_, _, rfl, rfl, rfl, rfl⟩

end Profiling
