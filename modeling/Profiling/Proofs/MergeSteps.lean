import Profiling.Proofs.LabelOrder
import Profiling.Proofs.MergeState

/-!
# The steps of a merge

Each step keeps the tables in order, and the number that it gives for a part of the
source reads in the merged profile as the part does in the source.
-/

namespace Profiling.Merge

variable {P : Supply} {src : Profile} {s : State}

theorem Sound.startOf (h : Sound P s) {id : UInt64} {m : Mapping}
    (found : s.out.mapping? id = some m) : s.startOf id = m.start := by
  simp [State.startOf, h.mappings.numbered.getElem?_of_find? found]

theorem placeMapping_spec (small : P.Countable) (h : Sound P s) (m : Mapping)
    (drawn : m.key ∈ P.mappings) :
    ∃ s' t, placeMapping s m = (s', t) ∧ Sound P s' ∧ Recalls s s' ∧ Grows s s' ∧
      Adds s s' [t.id] [] [] ∧ s'.out.HoldsMapping m t := by
  cases hit : s.mappings.lookup m.key with
  | some id =>
    obtain ⟨n, found, same⟩ := h.mappings.find?_of_lookup hit
    refine ⟨s, ⟨id, s.startOf id - m.start⟩, by simp [placeMapping, hit], h, .refl s, .refl s,
      .nothing s _ _ _, n, found, same, ?_⟩
    rw [h.startOf found]
  | none =>
    let n : Mapping := { m with id := idAt s.out.mappings.length }
    let s' : State :=
      { s with
        out := { s.out with mappings := s.out.mappings ++ [n] }
        mappings := (m.key, n.id) :: s.mappings }
    have parts : s.out.Extends s'.out :=
      ⟨List.prefix_append _ _, List.prefix_rfl, List.prefix_rfl⟩
    obtain ⟨catalogue, mappingsDrawn⟩ :
        Catalogue s'.mappings Mapping.key Mapping.id s'.out.mappings ∧
          ∀ m ∈ s'.out.mappings, m.key ∈ P.mappings :=
      h.mappings.append_drawn (x := n) hit rfl small.mappings h.drawn.mappings drawn
    refine ⟨s', ⟨n.id, 0⟩, by simp [placeMapping, hit, s', n],
      h.grow parts catalogue h.functions mappingsDrawn h.drawn.functions rfl rfl rfl rfl,
      ⟨rfl, rfl, rfl⟩, ⟨parts, rfl, rfl⟩,
      ⟨forall_mem_append_singleton (fun _ => Or.inl) (Or.inr (by simp)), fun _ => Or.inl,
        fun _ => Or.inl⟩,
      n, find?_append_new catalogue.numbered.nodup, rfl, by simp [n]⟩

theorem mapMapping_spec (small : P.Countable) (h : Sound P s) (c : Cached src s) {m : Mapping}
    (here : src.mapping? m.id = some m) (drawn : m.key ∈ P.mappings) :
    ∃ s' t, mapMapping s m = (s', t) ∧ Sound P s' ∧ Cached src s' ∧ Grows s s' ∧
      Adds s s' [t.id] [] [] ∧ s'.out.HoldsMapping m t := by
  cases hit : s.mappingsById.lookup m.id with
  | some t =>
    obtain ⟨m', found, holds⟩ := c.mappings m.id t hit
    obtain rfl : m = m' := Option.some.inj (here.symm.trans found)
    exact ⟨s, t, by simp [mapMapping, hit], h, c, .refl s, .nothing s _ _ _, holds⟩
  | none =>
    obtain ⟨s', t, run, sound, same, grows, adds, holds⟩ := placeMapping_spec small h m drawn
    have cached := c.grow grows.parts same
    refine ⟨{ s' with mappingsById := (m.id, t) :: s'.mappingsById }, t,
      by simp [mapMapping, hit, run], sound.remember _ _ _,
      ⟨fun id u known => ?_, cached.functions, cached.locations⟩,
      ⟨grows.parts, grows.samples, grows.header⟩,
      ⟨adds.mappings, adds.functions, adds.locations⟩, holds⟩
    rcases lookup_cons_eq_some known with ⟨rfl, rfl⟩ | old
    · exact ⟨m, here, holds⟩
    · exact cached.mappings id u old

theorem placeFunction_spec (small : P.Countable) (h : Sound P s) (f : Function)
    (drawn : f.key ∈ P.functions) :
    ∃ s' id, placeFunction s f = (s', id) ∧ Sound P s' ∧ Recalls s s' ∧ Grows s s' ∧
      Adds s s' [] [id] [] ∧ s'.out.HoldsFunction f id := by
  cases hit : s.functions.lookup f.key with
  | some id =>
    obtain ⟨g, found, same⟩ := h.functions.find?_of_lookup hit
    exact ⟨s, id, by simp [placeFunction, hit], h, .refl s, .refl s, .nothing s _ _ _, g, found,
      same⟩
  | none =>
    let g : Function := { f with id := idAt s.out.functions.length }
    let s' : State :=
      { s with
        out := { s.out with functions := s.out.functions ++ [g] }
        functions := (f.key, g.id) :: s.functions }
    have parts : s.out.Extends s'.out :=
      ⟨List.prefix_rfl, List.prefix_append _ _, List.prefix_rfl⟩
    obtain ⟨catalogue, functionsDrawn⟩ :
        Catalogue s'.functions Function.key Function.id s'.out.functions ∧
          ∀ f ∈ s'.out.functions, f.key ∈ P.functions :=
      h.functions.append_drawn (x := g) hit rfl small.functions h.drawn.functions drawn
    refine ⟨s', g.id, by simp [placeFunction, hit, s', g],
      h.grow parts h.mappings catalogue h.drawn.mappings functionsDrawn rfl rfl rfl rfl,
      ⟨rfl, rfl, rfl⟩, ⟨parts, rfl, rfl⟩,
      ⟨fun _ => Or.inl, forall_mem_append_singleton (fun _ => Or.inl) (Or.inr (by simp)),
        fun _ => Or.inl⟩,
      g, find?_append_new catalogue.numbered.nodup, rfl⟩

theorem mapFunction_spec (small : P.Countable) (h : Sound P s) (c : Cached src s) {f : Function}
    (here : src.function? f.id = some f) (drawn : f.key ∈ P.functions) :
    ∃ s' id, mapFunction s f = (s', id) ∧ Sound P s' ∧ Cached src s' ∧ Grows s s' ∧
      Adds s s' [] [id] [] ∧ s'.out.HoldsFunction f id := by
  cases hit : s.functionsById.lookup f.id with
  | some id =>
    obtain ⟨f', found, holds⟩ := c.functions f.id id hit
    obtain rfl : f = f' := Option.some.inj (here.symm.trans found)
    exact ⟨s, id, by simp [mapFunction, hit], h, c, .refl s, .nothing s _ _ _, holds⟩
  | none =>
    obtain ⟨s', id, run, sound, same, grows, adds, holds⟩ := placeFunction_spec small h f drawn
    have cached := c.grow grows.parts same
    refine ⟨{ s' with functionsById := (f.id, id) :: s'.functionsById }, id,
      by simp [mapFunction, hit, run], sound.remember _ _ _,
      ⟨cached.mappings, fun k n known => ?_, cached.locations⟩,
      ⟨grows.parts, grows.samples, grows.header⟩,
      ⟨adds.mappings, adds.functions, adds.locations⟩, holds⟩
    rcases lookup_cons_eq_some known with ⟨rfl, rfl⟩ | old
    · exact ⟨f, here, holds⟩
    · exact cached.functions k n old

/-- Runs of `mapAll` are described by what a step keeps (`I`), what it changes (`R`, which
collects results) and what it says of its argument (`Q`, which later steps keep). -/
theorem mapAll_spec {f : State → α → Except ProfileError (State × β)} {I : State → Prop}
    {R : State → State → List β → Prop} {Q : State → α → β → Prop}
    (start : ∀ s, R s s []) (more : ∀ {s s' s'' y ys}, R s s' [y] → R s' s'' ys → R s s'' (y :: ys))
    (keep : ∀ {s s' ys x y}, R s s' ys → Q s x y → Q s' x y) {xs : List α}
    (step : ∀ x ∈ xs, ∀ s, I s → ∃ s' y, f s x = .ok (s', y) ∧ I s' ∧ R s s' [y] ∧ Q s' x y)
    (s : State) (h : I s) :
    ∃ s' ys, mapAll f s xs = .ok (s', ys) ∧ I s' ∧ R s s' ys ∧ List.Forall₂ (Q s') xs ys := by
  induction xs generalizing s with
  | nil => exact ⟨s, [], rfl, h, start s, .nil⟩
  | cons x xs ih =>
    obtain ⟨s', y, runHead, kept, changed, agree⟩ := step x List.mem_cons_self s h
    obtain ⟨s'', ys, runTail, kept', changed', agree'⟩ :=
      ih (fun x hx => step x (List.mem_cons_of_mem _ hx)) s' kept
    refine ⟨s'', y :: ys, ?_, kept', more changed changed', .cons (keep changed' agree) agree'⟩
    simp [mapAll, runHead, runTail, bind, Except.bind]

/-- Two lists that read the same, one in each of two ways. -/
theorem exists_mapM_of_forall₂ {f : α → Option γ} {g : β → Option γ} {xs : List α} {ys : List β}
    (h : List.Forall₂ (fun x y => ∃ z, f x = some z ∧ g y = some z) xs ys) :
    ∃ zs, xs.mapM f = some zs ∧ ys.mapM g = some zs := by
  induction h with
  | nil => exact ⟨[], rfl, rfl⟩
  | cons head _ ih =>
    obtain ⟨z, hx, hy⟩ := head
    obtain ⟨zs, hxs, hys⟩ := ih
    exact ⟨z :: zs, by simp [hx, hxs], by simp [hy, hys]⟩

theorem mapLine_spec (small : P.Countable) (resolved : src.Resolved) (drawn : src.DrawsFrom P)
    {l : Line} (known : l.functionId ∈ src.functionIds) (h : Sound P s) (c : Cached src s) :
    ∃ s' y, mapLine src s l = .ok (s', y) ∧ (Sound P s' ∧ Cached src s') ∧
      (Grows s s' ∧ Adds s s' [] [y.functionId] []) ∧
      ∃ x, src.frameLine? l = some x ∧ s'.out.frameLine? y = some x := by
  obtain ⟨f, found⟩ := resolved.exists_function? known
  obtain ⟨member, same⟩ := (find?_eq_some_iff resolved.functions.2).mp found
  obtain ⟨s', id, run, sound, cached, grows, adds, g, hg, key⟩ :=
    mapFunction_spec small h c (same ▸ found) (drawn.functions f member)
  have last : lastWith Function.id l.functionId src.functions = some f :=
    (lastWith_eq_find? resolved.functions.2 _).trans found
  refine ⟨s', { l with functionId := id }, by simp [mapLine, last, run], ⟨sound, cached⟩,
    ⟨grows, adds⟩, ⟨f.key, l.line, l.column⟩, by simp [Profile.frameLine?, found], ?_⟩
  simp [Profile.frameLine?, hg, key]

theorem mapLines_spec (small : P.Countable) (resolved : src.Resolved) (drawn : src.DrawsFrom P)
    {lines : List Line} (known : ∀ l ∈ lines, l.functionId ∈ src.functionIds)
    (h : Sound P s) (c : Cached src s) :
    ∃ s' ys, mapAll (mapLine src) s lines = .ok (s', ys) ∧ Sound P s' ∧ Cached src s' ∧
      Grows s s' ∧ Adds s s' [] (ys.map Line.functionId) [] ∧
      ∃ xs, lines.mapM src.frameLine? = some xs ∧ ys.mapM s'.out.frameLine? = some xs := by
  obtain ⟨s', ys, run, ⟨sound, cached⟩, ⟨grows, adds⟩, agree⟩ :=
    mapAll_spec (I := fun s => Sound P s ∧ Cached src s)
      (R := fun s s' ys => Grows s s' ∧ Adds s s' [] (ys.map Line.functionId) [])
      (Q := fun s l y => ∃ x, src.frameLine? l = some x ∧ s.out.frameLine? y = some x)
      (fun s => ⟨.refl s, .nothing s _ _ _⟩)
      (fun a b => ⟨a.1.trans b.1, a.2.trans b.2⟩)
      (fun r ⟨x, hx, hy⟩ => ⟨x, hx, r.1.parts.frameLine? hy⟩)
      (fun l hl s h => mapLine_spec small resolved drawn (known l hl) h.1 h.2) s ⟨h, c⟩
  exact ⟨s', ys, run, sound, cached, grows, adds, exists_mapM_of_forall₂ agree⟩

/-- A location's mapping in the source and in the merged profile. -/
theorem mapBacking_spec (small : P.Countable) (resolved : src.Resolved) (drawn : src.DrawsFrom P)
    {l : Location} (member : l ∈ src.locations) (h : Sound P s) (c : Cached src s) :
    ∃ s' t start, mapBacking src s l = .ok (s', t, start) ∧ Sound P s' ∧ Cached src s' ∧
      Grows s s' ∧ Adds s s' [t.id] [] [] ∧
      ∃ m n, src.backing? l.mappingId = some m ∧ s'.out.backing? t.id = some n ∧
        n.map Mapping.key = m.map Mapping.key ∧ start = n.elim 0 Mapping.start ∧
        t.shift = n.elim 0 Mapping.start - m.elim 0 Mapping.start := by
  by_cases zero : l.mappingId = 0
  · exact ⟨s, ⟨0, 0⟩, 0, by simp [mapBacking, zero], h, c, .refl s, .nothing s _ _ _, none, none,
      by simp [Profile.backing?, zero], by simp [Profile.backing?], rfl, rfl, rfl⟩
  · obtain ⟨m, hm, number⟩ := List.mem_map.mp ((resolved.backed l member).resolve_left zero)
    have found : src.mapping? l.mappingId = some m :=
      (find?_eq_some_iff resolved.mappings.2).mpr ⟨hm, number⟩
    have last : lastWith Mapping.id l.mappingId src.mappings = some m :=
      (lastWith_eq_find? resolved.mappings.2 _).trans found
    obtain ⟨s', t, run, sound, cached, grows, adds, n, hn, key, shift⟩ :=
      mapMapping_spec small h c (number ▸ found) (drawn.mappings m hm)
    have positive : t.id ≠ 0 := by
      intro ht
      obtain ⟨hn, number⟩ := (find?_eq_some_iff sound.mappings.numbered.nodup).mp hn
      exact sound.mappings.numbered.zero_not_mem
        (ht ▸ number ▸ List.mem_map_of_mem hn)
    refine ⟨s', t, s'.startOf t.id, by simp [mapBacking, zero, last, run], sound, cached, grows,
      adds, some m, some n, by simp [Profile.backing?, zero, found],
      by simp [Profile.backing?, positive, hn], by simp [key], sound.startOf hn, shift⟩

/-- A location that is not in the table reads as none of the merged ones does. -/
theorem Sound.length_locations_lt (h : Sound P s) {l : Location} {fr : Frame}
    (framed : s.out.frameOf? l = some fr) (drawn : fr ∈ P.frames)
    (missing : s.locations.lookup (s.out.locationKey l) = none) :
    s.out.locations.length < P.frames.length := by
  have fresh : ∀ k ∈ s.out.locations, s.out.frameOf? k ≠ some fr := by
    intro k hk reads
    rw [Profile.frameOf?_eq_keyFrame?] at framed reads
    exact h.locations.key_ne_of_lookup missing k hk (h.keyFrame?_inj reads framed)
  have known : ∀ k ∈ s.out.locations, s.out.frameOf? k ∈ P.frames.map some := by
    intro k hk
    obtain ⟨fr', reads⟩ := h.framed k hk
    exact reads ▸ List.mem_map_of_mem (h.drawn.frames k hk fr' reads)
  simpa using length_lt_of_new h.nodup_frames known (List.mem_map_of_mem drawn) fresh

theorem placeLocation_spec (small : P.Countable) (h : Sound P s) (l : Location) {fr : Frame}
    (framed : s.out.frameOf? l = some fr) (drawn : fr ∈ P.frames) :
    ∃ s' id, placeLocation s (s.out.startAt l.mappingId) l = (s', id) ∧ Sound P s' ∧
      Recalls s s' ∧ Grows s s' ∧ Adds s s' [] [] [id] ∧ s'.out.frame? id = some fr ∧
      ∃ n ∈ s'.out.locations, n.mappingId = l.mappingId ∧ n.lines = l.lines := by
  cases hit : s.locations.lookup (.of (s.out.startAt l.mappingId) l) with
  | some id =>
    obtain ⟨n, found, same⟩ := h.locations.find?_of_lookup hit
    change s.out.locationKey n = s.out.locationKey l at same
    have reads : s.out.frameOf? n = some fr := by
      rw [Profile.frameOf?_eq_keyFrame?, same, ← Profile.frameOf?_eq_keyFrame?, framed]
    have member := ((find?_eq_some_iff h.locations.numbered.nodup).mp found).1
    have found' : s.out.location? id = some n := found
    simp only [Profile.locationKey, LocationKey.of, LocationKey.mk.injEq] at same
    exact ⟨s, id, by simp only [placeLocation, hit], h, .refl s, .refl s, .nothing s _ _ _,
      by simp [Profile.frame?, found', reads], n, member, same.1, same.2.2.1⟩
  | none =>
    let n : Location := { l with id := idAt s.out.locations.length }
    let s' : State :=
      { s with
        out := { s.out with locations := s.out.locations ++ [n] }
        locations := (s.out.locationKey l, n.id) :: s.locations }
    have parts : s.out.Extends s'.out :=
      ⟨List.prefix_rfl, List.prefix_rfl, List.prefix_append _ _⟩
    have room := h.length_locations_lt framed drawn hit
    have catalogue : Catalogue s'.locations s'.out.locationKey Location.id s'.out.locations :=
      h.locations.append (x := n) hit rfl (Nat.lt_of_le_of_lt room small.frames)
    have reads : s'.out.frameOf? n = some fr := framed
    have framed' : ∀ k ∈ s'.out.locations, ∃ fr ∈ P.frames, s'.out.frameOf? k = some fr := by
      refine forall_mem_append_singleton (fun k hk => ?_) ⟨fr, drawn, reads⟩
      obtain ⟨fr', reads'⟩ := h.framed k hk
      exact ⟨fr', h.drawn.frames k hk fr' reads', reads'⟩
    have found : s'.out.location? n.id = some n := find?_append_new catalogue.numbered.nodup
    refine ⟨s', n.id, by simp only [placeLocation, hit]; rfl,
      ⟨h.mappings, h.functions, catalogue, h.samples,
        ⟨h.drawn.mappings, h.drawn.functions, fun k hk fr' reads' => ?_⟩, fun k hk => ?_,
        fun t ht => ?_⟩,
      ⟨rfl, rfl, rfl⟩, ⟨parts, rfl, rfl⟩,
      ⟨fun _ => Or.inl, fun _ => Or.inl,
        forall_mem_append_singleton (fun _ => Or.inl) (Or.inr (by simp))⟩,
      by simp [Profile.frame?, found, reads],
      n, List.mem_append_right _ (List.mem_singleton_self _), rfl, rfl⟩
    · obtain ⟨fr'', hfr'', reads''⟩ := framed' k hk
      rwa [Option.some.inj (reads'.symm.trans reads'')]
    · obtain ⟨fr', -, reads'⟩ := framed' k hk
      exact ⟨fr', reads'⟩
    · obtain ⟨tr, htr⟩ := h.traced t ht
      exact ⟨tr, parts.trace? htr⟩

end Profiling.Merge
