import Profiling.Proofs.FirstUse
import Profiling.Proofs.MergeRun

/-!
# Filing parts

What holds while any source is merged, whether or not its references resolve: the tables find
every part of the merged profile, whose own references resolve, and parts are numbered in the
order of their first use.
-/

namespace Profiling

theorem Profile.Extends.startAt {p q : Profile} (h : p.Extends q) {id : UInt64}
    (backed : id = 0 ∨ id ∈ p.mappingIds) : q.startAt id = p.startAt id := by
  rcases backed with rfl | member
  · rfl
  · cases found : p.mapping? id with
    | none =>
      obtain ⟨m, hm, rfl⟩ := List.mem_map.mp member
      simpa using List.find?_eq_none.mp found m hm
    | some m => rw [Profile.startAt, Profile.startAt, found, h.mapping? found]

theorem Profile.Extends.ids {p q : Profile} (h : p.Extends q) :
    p.mappingIds ⊆ q.mappingIds ∧ p.functionIds ⊆ q.functionIds ∧ p.locationIds ⊆ q.locationIds :=
  ⟨List.map_subset _ h.mappings.subset, List.map_subset _ h.functions.subset,
    List.map_subset _ h.locations.subset⟩

namespace Merge

structure Stock where
  mappings : List Mapping
  functions : List Function

structure Stock.Countable (stock : Stock) : Prop where
  mappings : stock.mappings.length < UInt64.size
  functions : stock.functions.length < UInt64.size

/-- The tables find every part of the merged profile, whose references resolve. Its mappings and
functions are those of sources under new numbers. -/
structure Filed (stock : Stock) (s : State) : Prop where
  mappings : Catalogue s.mappings Mapping.key Mapping.id s.out.mappings
  functions : Catalogue s.functions Function.key Function.id s.out.functions
  locations : Catalogue s.locations s.out.locationKey Location.id s.out.locations
  samples : ∀ k i, s.samples.lookup k = some i ↔ (s.out.samples.map SampleKey.of)[i]? = some k
  mappingsFrom : ∀ m ∈ s.out.mappings, ∃ n ∈ stock.mappings, { n with id := m.id } = m
  functionsFrom : ∀ f ∈ s.out.functions, ∃ g ∈ stock.functions, { g with id := f.id } = f
  backed : ∀ l ∈ s.out.locations, l.mappingId = 0 ∨ l.mappingId ∈ s.out.mappingIds
  lined : ∀ l ∈ s.out.locations, ∀ ln ∈ l.lines, ln.functionId ∈ s.out.functionIds
  stacked : ∀ t ∈ s.out.samples, ∀ id ∈ t.stack, id ∈ s.out.locationIds

/-- What is remembered of a source leads to parts of the merged profile. Since the source began,
at most one location was placed for each that is remembered. -/
structure Knows (src : Profile) (base : Nat) (s : State) : Prop where
  mappings : ∀ id t, s.mappingsById.lookup id = some t → t.id ∈ s.out.mappingIds
  functions : ∀ id n, s.functionsById.lookup id = some n → n ∈ s.out.functionIds
  locations : ∀ id n, s.locationsById.lookup id = some n → n ∈ s.out.locationIds
  distinct : (s.locationsById.map Prod.fst).Nodup
  known : ∀ e ∈ s.locationsById, e.1 ∈ src.locationIds
  count : s.out.locations.length ≤ base + s.locationsById.length

/-- The numbers of mappings and functions that are used on the way from one state to another, by
first use. Locations are left alone meanwhile. -/
structure Uses (s s' : State) (mappings functions : List UInt64) : Prop where
  mappings : reach s.out.mappings.length mappings = some s'.out.mappings.length
  functions : reach s.out.functions.length functions = some s'.out.functions.length
  locations : s'.out.locations = s.out.locations
  remembered : s'.locationsById = s.locationsById

theorem Uses.nothing (s : State) : Uses s s [] [] := ⟨rfl, rfl, rfl, rfl⟩

theorem Uses.trans {s s' s'' : State} {a b a' b' : List UInt64} (h : Uses s s' a b)
    (h' : Uses s' s'' a' b') : Uses s s'' (a ++ a') (b ++ b') :=
  ⟨reach_trans h.mappings h'.mappings, reach_trans h.functions h'.functions,
    h'.locations.trans h.locations, h'.remembered.trans h.remembered⟩

theorem Knows.grow {src : Profile} {base : Nat} {s s' : State} (k : Knows src base s)
    (parts : s.out.Extends s'.out) (same : Recalls s s')
    (locations : s'.out.locations = s.out.locations) : Knows src base s' := by
  obtain ⟨mappings, functions, places⟩ := parts.ids
  refine ⟨fun id t hit => mappings (k.mappings id t (same.mappings ▸ hit)),
    fun id n hit => functions (k.functions id n (same.functions ▸ hit)),
    fun id n hit => places (k.locations id n (same.locations ▸ hit)), ?_, ?_, ?_⟩
  · rw [same.locations]
    exact k.distinct
  · rw [same.locations]
    exact k.known
  · rw [same.locations, locations]
    exact k.count

/-- Parts that are others under new numbers have the keys of these. -/
theorem keys_drawn {key : α → κ} (renumbered : α → α → α)
    (same : ∀ y x, key (renumbered y x) = key y) {xs ys : List α}
    (origins : ∀ x ∈ xs, ∃ y ∈ ys, renumbered y x = x) : ∀ x ∈ xs, key x ∈ ys.map key := by
  intro x hx
  obtain ⟨y, hy, renumber⟩ := origins x hx
  rw [← renumber, same]
  exact List.mem_map_of_mem hy

variable {stock : Stock} {src : Profile} {base : Nat} {s s' : State}

namespace Filed

variable (h : Filed stock s)
include h

theorem remember (ms : List (UInt64 × Target)) (fs ls : List (UInt64 × UInt64)) :
    Filed stock { s with mappingsById := ms, functionsById := fs, locationsById := ls } :=
  ⟨h.mappings, h.functions, h.locations, h.samples, h.mappingsFrom, h.functionsFrom, h.backed,
    h.lined, h.stacked⟩

/-- With new mappings and functions alone, locations and samples are filed as before. -/
theorem grow (parts : s.out.Extends s'.out)
    (mappings : Catalogue s'.mappings Mapping.key Mapping.id s'.out.mappings)
    (functions : Catalogue s'.functions Function.key Function.id s'.out.functions)
    (mappingsFrom : ∀ m ∈ s'.out.mappings, ∃ n ∈ stock.mappings, { n with id := m.id } = m)
    (functionsFrom : ∀ f ∈ s'.out.functions, ∃ g ∈ stock.functions, { g with id := f.id } = f)
    (locations : s'.out.locations = s.out.locations) (samples : s'.out.samples = s.out.samples)
    (locationTable : s'.locations = s.locations) (sampleTable : s'.samples = s.samples) :
    Filed stock s' := by
  obtain ⟨mappingIds, functionIds, -⟩ := parts.ids
  refine ⟨mappings, functions, ?_, ?_, mappingsFrom, functionsFrom, ?_, ?_, ?_⟩
  · rw [locations, locationTable]
    refine h.locations.congr fun l hl => ?_
    rw [Profile.locationKey, Profile.locationKey, parts.startAt (h.backed l hl)]
  · rw [samples, sampleTable]
    exact h.samples
  · rw [locations]
    exact fun l hl => (h.backed l hl).imp_right fun member => mappingIds member
  · rw [locations]
    exact fun l hl ln hln => functionIds (h.lined l hl ln hln)
  · rw [samples, Profile.locationIds, locations]
    exact h.stacked

theorem placeMapping (small : stock.Countable) {m : Mapping} (member : m ∈ stock.mappings) :
    ∃ s' t, placeMapping s m = (s', t) ∧ Filed stock s' ∧ Recalls s s' ∧ Grows s s' ∧
      Uses s s' [t.id] [] ∧ t.id ∈ s'.out.mappingIds := by
  cases hit : s.mappings.lookup m.key with
  | some id =>
    obtain ⟨n, hn, -, rfl⟩ := (h.mappings.finds _ _).mp hit
    have known : n.id ∈ s.out.mappingIds := List.mem_map_of_mem hn
    have old := h.mappings.numbered.toNat_le known
    refine ⟨s, ⟨n.id, s.startOf n.id - m.start⟩, by simp [Merge.placeMapping, hit], h, .refl s,
      .refl s, ⟨reach_of_le ?_, rfl, rfl, rfl⟩, known⟩
    simpa using old
  | none =>
    let n : Mapping := { m with id := idAt s.out.mappings.length }
    let s' : State :=
      { s with
        out := { s.out with mappings := s.out.mappings ++ [n] }
        mappings := (m.key, n.id) :: s.mappings }
    have parts : s.out.Extends s'.out :=
      ⟨List.prefix_append _ _, List.prefix_rfl, List.prefix_rfl⟩
    have drawn : ∀ k ∈ s.out.mappings, k.key ∈ stock.mappings.map Mapping.key :=
      keys_drawn (fun n m : Mapping => { n with id := m.id }) (fun _ _ => rfl) h.mappingsFrom
    have fresh : m.key ∈ stock.mappings.map Mapping.key := List.mem_map_of_mem member
    obtain ⟨catalogue, -⟩ :
        Catalogue s'.mappings Mapping.key Mapping.id s'.out.mappings ∧ _ :=
      h.mappings.append_drawn (x := n) hit rfl (by simpa using small.mappings) drawn fresh
    have next : n.id.toNat = s.out.mappings.length + 1 := catalogue.toNat_last
    have origins : ∀ k ∈ s'.out.mappings, ∃ k' ∈ stock.mappings, { k' with id := k.id } = k :=
      forall_mem_append_singleton h.mappingsFrom ⟨m, member, rfl⟩
    refine ⟨s', ⟨n.id, 0⟩, by simp [Merge.placeMapping, hit, s', n],
      h.grow parts catalogue h.functions origins h.functionsFrom rfl rfl rfl rfl,
      ⟨rfl, rfl, rfl⟩, ⟨parts, rfl, rfl⟩, ⟨?_, rfl, rfl, rfl⟩, by simp [Profile.mappingIds, s']⟩
    simpa [s'] using reach_next next

theorem placeFunction (small : stock.Countable) {f : Function} (member : f ∈ stock.functions) :
    ∃ s' id, placeFunction s f = (s', id) ∧ Filed stock s' ∧ Recalls s s' ∧ Grows s s' ∧
      Uses s s' [] [id] ∧ id ∈ s'.out.functionIds := by
  cases hit : s.functions.lookup f.key with
  | some id =>
    obtain ⟨g, hg, -, rfl⟩ := (h.functions.finds _ _).mp hit
    have known : g.id ∈ s.out.functionIds := List.mem_map_of_mem hg
    have old := h.functions.numbered.toNat_le known
    refine ⟨s, g.id, by simp [Merge.placeFunction, hit], h, .refl s, .refl s,
      ⟨rfl, reach_of_le ?_, rfl, rfl⟩, known⟩
    simpa using old
  | none =>
    let g : Function := { f with id := idAt s.out.functions.length }
    let s' : State :=
      { s with
        out := { s.out with functions := s.out.functions ++ [g] }
        functions := (f.key, g.id) :: s.functions }
    have parts : s.out.Extends s'.out :=
      ⟨List.prefix_rfl, List.prefix_append _ _, List.prefix_rfl⟩
    have drawn : ∀ k ∈ s.out.functions, k.key ∈ stock.functions.map Function.key :=
      keys_drawn (fun g f : Function => { g with id := f.id }) (fun _ _ => rfl) h.functionsFrom
    have fresh : f.key ∈ stock.functions.map Function.key := List.mem_map_of_mem member
    obtain ⟨catalogue, -⟩ :
        Catalogue s'.functions Function.key Function.id s'.out.functions ∧ _ :=
      h.functions.append_drawn (x := g) hit rfl (by simpa using small.functions) drawn fresh
    have next : g.id.toNat = s.out.functions.length + 1 := catalogue.toNat_last
    have origins : ∀ k ∈ s'.out.functions, ∃ k' ∈ stock.functions, { k' with id := k.id } = k :=
      forall_mem_append_singleton h.functionsFrom ⟨f, member, rfl⟩
    refine ⟨s', g.id, by simp [Merge.placeFunction, hit, s', g],
      h.grow parts h.mappings catalogue h.mappingsFrom origins rfl rfl rfl rfl,
      ⟨rfl, rfl, rfl⟩, ⟨parts, rfl, rfl⟩, ⟨rfl, ?_, rfl, rfl⟩, by simp [Profile.functionIds, s']⟩
    simpa [s'] using reach_next next

end Filed

structure Merging (stock : Stock) (src : Profile) (base : Nat) (s : State) : Prop where
  filed : Filed stock s
  knows : Knows src base s

structure Stock.Covers (stock : Stock) (src : Profile) : Prop where
  mappings : src.mappings ⊆ stock.mappings
  functions : src.functions ⊆ stock.functions

namespace Merging

variable (h : Merging stock src base s)
include h

theorem mapMapping (small : stock.Countable) {m : Mapping} (member : m ∈ stock.mappings) :
    ∃ s' t, mapMapping s m = (s', t) ∧ Merging stock src base s' ∧ Grows s s' ∧
      Uses s s' [t.id] [] ∧ t.id ∈ s'.out.mappingIds := by
  cases hit : s.mappingsById.lookup m.id with
  | some t =>
    have known := h.knows.mappings m.id t hit
    have old := h.filed.mappings.numbered.toNat_le known
    refine ⟨s, t, by simp [Merge.mapMapping, hit], h, .refl s, ⟨reach_of_le ?_, rfl, rfl, rfl⟩,
      known⟩
    simpa using old
  | none =>
    obtain ⟨s', t, run, filed, same, grows, uses, known⟩ := h.filed.placeMapping small member
    have knows := h.knows.grow grows.parts same uses.locations
    refine ⟨{ s' with mappingsById := (m.id, t) :: s'.mappingsById }, t,
      by simp [Merge.mapMapping, hit, run], ⟨filed.remember _ _ _, ?_, knows.functions,
      knows.locations, knows.distinct, knows.known, knows.count⟩,
      ⟨grows.parts, grows.samples, grows.header⟩,
      ⟨uses.mappings, uses.functions, uses.locations, uses.remembered⟩, known⟩
    intro id u found
    rcases lookup_cons_eq_some found with ⟨-, rfl⟩ | old
    · exact known
    · exact knows.mappings id u old

theorem mapFunction (small : stock.Countable) {f : Function} (member : f ∈ stock.functions) :
    ∃ s' id, mapFunction s f = (s', id) ∧ Merging stock src base s' ∧ Grows s s' ∧
      Uses s s' [] [id] ∧ id ∈ s'.out.functionIds := by
  cases hit : s.functionsById.lookup f.id with
  | some id =>
    have known := h.knows.functions f.id id hit
    have old := h.filed.functions.numbered.toNat_le known
    refine ⟨s, id, by simp [Merge.mapFunction, hit], h, .refl s, ⟨rfl, reach_of_le ?_, rfl, rfl⟩,
      known⟩
    simpa using old
  | none =>
    obtain ⟨s', id, run, filed, same, grows, uses, known⟩ := h.filed.placeFunction small member
    have knows := h.knows.grow grows.parts same uses.locations
    refine ⟨{ s' with functionsById := (f.id, id) :: s'.functionsById }, id,
      by simp [Merge.mapFunction, hit, run], ⟨filed.remember _ _ _, knows.mappings, ?_,
      knows.locations, knows.distinct, knows.known, knows.count⟩,
      ⟨grows.parts, grows.samples, grows.header⟩,
      ⟨uses.mappings, uses.functions, uses.locations, uses.remembered⟩, known⟩
    intro k n found
    rcases lookup_cons_eq_some found with ⟨-, rfl⟩ | old
    · exact known
    · exact knows.functions k n old

end Merging

/-- Of what succeeds, each step has succeeded. -/
theorem bind_eq_ok_iff {x : Except ε α} {f : α → Except ε β} {r : β} :
    (x >>= f) = .ok r ↔ ∃ a, x = .ok a ∧ f a = .ok r := by
  cases x with
  | error e => exact ⟨fun h => (nomatch h), fun ⟨_, h, _⟩ => nomatch h⟩
  | ok a => exact ⟨fun h => ⟨a, rfl, h⟩, fun ⟨b, same, h⟩ => Except.ok.inj same ▸ h⟩

theorem lastWith_mem {id : α → UInt64} {n : UInt64} {xs : List α} {x : α}
    (found : lastWith id n xs = some x) : x ∈ xs ∧ id x = n := by
  have member := List.mem_of_find?_eq_some found
  exact ⟨List.mem_reverse.mp member, by simpa using List.find?_some found⟩

/-- Where `mapAll` succeeds, each step has succeeded: what a step keeps (`I`) is kept, and what
steps change (`R`, which collects results) comes together. -/
theorem mapAll_ok {f : State → α → Except ProfileError (State × β)} {I : State → Prop}
    {R : State → State → List β → Prop} (start : ∀ s, R s s [])
    (more : ∀ {s s' s'' y ys}, R s s' [y] → R s' s'' ys → R s s'' (y :: ys)) {xs : List α}
    (step : ∀ x ∈ xs, ∀ s s' y, I s → f s x = .ok (s', y) → I s' ∧ R s s' [y])
    {s s' : State} {ys : List β} (h : I s) (run : mapAll f s xs = .ok (s', ys)) :
    I s' ∧ R s s' ys := by
  induction xs generalizing s ys with
  | nil =>
    obtain ⟨rfl, rfl⟩ := Prod.mk.inj (Except.ok.inj run)
    exact ⟨h, start s⟩
  | cons x xs ih =>
    obtain ⟨⟨s₁, y⟩, head, run⟩ := bind_eq_ok_iff.mp run
    obtain ⟨⟨s₂, ys'⟩, tail, run⟩ := bind_eq_ok_iff.mp run
    obtain ⟨rfl, rfl⟩ := Prod.mk.inj (Except.ok.inj run)
    obtain ⟨kept, changed⟩ := step x List.mem_cons_self s s₁ y h head
    obtain ⟨kept', changed'⟩ := ih (fun x hx => step x (List.mem_cons_of_mem _ hx)) kept tail
    exact ⟨kept', more changed changed'⟩

/-- The place of a mapping tells where it starts. -/
theorem Filed.startOf (h : Filed stock s) {id : UInt64} (member : id ∈ s.out.mappingIds) :
    s.startOf id = s.out.startAt id := by
  obtain ⟨m, hm, rfl⟩ := List.mem_map.mp member
  have found : s.out.mapping? m.id = some m :=
    (find?_eq_some_iff h.mappings.numbered.nodup).mpr ⟨hm, rfl⟩
  have positive : m.id ≠ 0 := fun zero =>
    h.mappings.numbered.zero_not_mem (zero ▸ List.mem_map_of_mem hm)
  rw [State.startOf, h.mappings.numbered.getElem?_of_find? found, Profile.startAt,
    if_neg positive, found]

namespace Merging

section

variable (small : stock.Countable) (covers : stock.Covers src)
include small covers

theorem mapLine (h : Merging stock src base s) {l y : Line}
    (run : mapLine src s l = .ok (s', y)) : Merging stock src base s' ∧ Grows s s' ∧
      Uses s s' [] [y.functionId] ∧ y.functionId ∈ s'.out.functionIds := by
  rw [Merge.mapLine] at run
  split at run
  · cases run
  · rename_i f found
    obtain ⟨s₁, id, mapped, merging, grows, uses, known⟩ :=
      h.mapFunction small (covers.functions (lastWith_mem found).1)
    rw [mapped] at run
    obtain ⟨rfl, rfl⟩ := Prod.mk.inj (Except.ok.inj run)
    exact ⟨merging, grows, uses, known⟩

theorem mapLines (h : Merging stock src base s) {lines ys : List Line}
    (run : mapAll (Merge.mapLine src) s lines = .ok (s', ys)) : Merging stock src base s' ∧
      Grows s s' ∧ Uses s s' [] (ys.map Line.functionId) ∧
        ∀ y ∈ ys, y.functionId ∈ s'.out.functionIds := by
  refine mapAll_ok (I := Merging stock src base)
    (R := fun s s' ys => Grows s s' ∧ Uses s s' [] (ys.map Line.functionId) ∧
      ∀ y ∈ ys, y.functionId ∈ s'.out.functionIds)
    (fun s => ⟨.refl s, .nothing s, fun _ h => nomatch h⟩) ?_ ?_ h run
  · intro s s' s'' y ys first rest
    obtain ⟨grows, uses, known⟩ := first
    obtain ⟨grows', uses', known'⟩ := rest
    refine ⟨grows.trans grows', uses.trans uses', List.forall_mem_cons.mpr ⟨?_, known'⟩⟩
    exact grows'.parts.ids.2.1 (known y List.mem_cons_self)
  · intro l _ s s' y merging step
    obtain ⟨merging', grows, uses, known⟩ := mapLine small covers merging step
    exact ⟨merging', grows, uses, by simpa using known⟩

theorem mapBacking (h : Merging stock src base s) {l : Location} {t : Target} {start : UInt64}
    (run : mapBacking src s l = .ok (s', t, start)) : Merging stock src base s' ∧ Grows s s' ∧
      Uses s s' [t.id] [] ∧ (t.id = 0 ∨ t.id ∈ s'.out.mappingIds) ∧
        start = s'.out.startAt t.id := by
  rw [Merge.mapBacking] at run
  split at run
  · obtain ⟨rfl, same⟩ := Prod.mk.inj (Except.ok.inj run)
    obtain ⟨rfl, rfl⟩ := Prod.mk.inj same
    exact ⟨h, .refl s, ⟨reach_of_le (by simp), rfl, rfl, rfl⟩, Or.inl rfl, rfl⟩
  · split at run
    · cases run
    · rename_i m found
      obtain ⟨s₁, t₁, mapped, merging, grows, uses, known⟩ :=
        h.mapMapping small (covers.mappings (lastWith_mem found).1)
      rw [mapped] at run
      obtain ⟨rfl, same⟩ := Prod.mk.inj (Except.ok.inj run)
      obtain ⟨rfl, rfl⟩ := Prod.mk.inj same
      exact ⟨merging, grows, uses, Or.inr known, merging.filed.startOf known⟩

end

theorem key_not_mem {table : List (UInt64 × UInt64)} {key : UInt64}
    (missing : table.lookup key = none) : key ∉ table.map Prod.fst := by
  intro known
  obtain ⟨e, he, rfl⟩ := List.mem_map.mp known
  simpa using List.lookup_eq_none_iff.mp missing e he

/-- A location that is not remembered yet can be numbered. -/
theorem room (h : Merging stock src base s) (fits : base + src.locations.length < UInt64.size)
    {l : Location} (member : l ∈ src.locations) (new : s.locationsById.lookup l.id = none) :
    s.out.locations.length + 1 < UInt64.size := by
  have distinct : (l.id :: s.locationsById.map Prod.fst).Nodup :=
    List.nodup_cons.mpr ⟨key_not_mem new, h.knows.distinct⟩
  have subset : l.id :: s.locationsById.map Prod.fst ⊆ src.locationIds := by
    refine List.cons_subset.mpr ⟨List.mem_map_of_mem member, fun id hid => ?_⟩
    obtain ⟨e, he, rfl⟩ := List.mem_map.mp hid
    exact h.knows.known e he
  have fewer := (List.subperm_of_subset distinct subset).length_le
  have count := h.knows.count
  simp only [List.length_cons, List.length_map, Profile.locationIds] at fewer
  omega

end Merging

/-- What a location brought along that was there before is not new. -/
theorem Filed.uses_known {s₀ : State} (before : Filed stock s₀) {l : Location}
    (member : l ∈ s₀.out.locations)
    (uses : Uses s₀ s [l.mappingId] (l.lines.map Line.functionId)) :
    s.out.mappings.length = s₀.out.mappings.length ∧
      s.out.functions.length = s₀.out.functions.length := by
  have backing : reach s₀.out.mappings.length [l.mappingId] = some s₀.out.mappings.length := by
    refine reach_of_le fun id hid => ?_
    rw [List.mem_singleton.mp hid]
    rcases before.backed l member with zero | known
    · rw [zero]
      exact Nat.zero_le _
    · simpa using before.mappings.numbered.toNat_le known
  have lines : reach s₀.out.functions.length (l.lines.map Line.functionId) =
      some s₀.out.functions.length := by
    refine reach_of_le fun id hid => ?_
    obtain ⟨ln, hln, rfl⟩ := List.mem_map.mp hid
    simpa using before.functions.numbered.toNat_le (before.lined l member ln hln)
  exact ⟨Option.some.inj (uses.mappings.symm.trans backing),
    Option.some.inj (uses.functions.symm.trans lines)⟩

/-- A location is placed after its mapping and its functions. If an equal one is there, it has
the same mapping and functions, so these are not new either. -/
theorem Filed.placeLocation {s₀ : State} (before : Filed stock s₀) (order : s₀.out.InOrder)
    (h : Filed stock s) {l : Location}
    (uses : Uses s₀ s [l.mappingId] (l.lines.map Line.functionId))
    (backed : l.mappingId = 0 ∨ l.mappingId ∈ s.out.mappingIds)
    (lined : ∀ ln ∈ l.lines, ln.functionId ∈ s.out.functionIds)
    (room : s.out.locations.length + 1 < UInt64.size) :
    ∃ s' id, placeLocation s (s.out.startAt l.mappingId) l = (s', id) ∧ Filed stock s' ∧
      Recalls s s' ∧ Grows s s' ∧ s'.out.InOrder ∧
      reach s.out.locations.length [id] = some s'.out.locations.length ∧
      id ∈ s'.out.locationIds ∧ s'.out.locations.length ≤ s.out.locations.length + 1 := by
  have same : s.out.locations = s₀.out.locations := uses.locations
  cases hit : s.locations.lookup (.of (s.out.startAt l.mappingId) l) with
  | some id =>
    obtain ⟨n, hn, key, rfl⟩ := (h.locations.finds _ _).mp hit
    simp only [Profile.locationKey, LocationKey.of, LocationKey.mk.injEq] at key
    obtain ⟨mapping, -, lines, -⟩ := key
    rw [← mapping, ← lines] at uses
    obtain ⟨mappings, functions⟩ := before.uses_known (same ▸ hn) uses
    have known : n.id ∈ s.out.locationIds := List.mem_map_of_mem hn
    refine ⟨s, n.id, by simp only [Merge.placeLocation, hit], h, .refl s, .refl s, ⟨?_, ?_⟩,
      reach_of_le ?_, known, Nat.le_succ _⟩
    · rw [same, mappings]
      exact order.backings
    · rw [same, functions]
      exact order.lines
    · simpa using h.locations.numbered.toNat_le known
  | none =>
    let n : Location := { l with id := idAt s.out.locations.length }
    let s' : State :=
      { s with
        out := { s.out with locations := s.out.locations ++ [n] }
        locations := (s.out.locationKey l, n.id) :: s.locations }
    have parts : s.out.Extends s'.out :=
      ⟨List.prefix_rfl, List.prefix_rfl, List.prefix_append _ _⟩
    have catalogue : Catalogue s'.locations s'.out.locationKey Location.id s'.out.locations :=
      h.locations.append (x := n) hit rfl room
    have next : n.id.toNat = s.out.locations.length + 1 := catalogue.toNat_last
    refine ⟨s', n.id, by simp only [Merge.placeLocation, hit]; rfl,
      ⟨h.mappings, h.functions, catalogue, h.samples, h.mappingsFrom, h.functionsFrom,
        forall_mem_append_singleton h.backed backed,
        forall_mem_append_singleton h.lined lined,
        fun t ht id hid => parts.ids.2.2 (h.stacked t ht id hid)⟩,
      ⟨rfl, rfl, rfl⟩, ⟨parts, rfl, rfl⟩, ⟨?_, ?_⟩, ?_, by simp [Profile.locationIds, s'],
      by simp [s']⟩
    · have first := order.backings
      rw [← same] at first
      simpa [s'] using reach_one first uses.mappings
    · have first := order.lines
      rw [← same] at first
      simpa [s'] using reach_trans first uses.functions
    · simpa [s'] using reach_next next

namespace Merging

section

variable (small : stock.Countable) (covers : stock.Covers src)
  (fits : base + src.locations.length < UInt64.size)
include small covers fits

theorem mapLocation (h : Merging stock src base s) (order : s.out.InOrder) {l : Location}
    (member : l ∈ src.locations) {id : UInt64} (run : mapLocation src s l = .ok (s', id)) :
    (Merging stock src base s' ∧ s'.out.InOrder) ∧ Grows s s' ∧
      reach s.out.locations.length [id] = some s'.out.locations.length ∧
      id ∈ s'.out.locationIds := by
  rw [Merge.mapLocation] at run
  cases hit : s.locationsById.lookup l.id with
  | some n =>
    rw [hit] at run
    obtain ⟨rfl, rfl⟩ := Prod.mk.inj (Except.ok.inj run)
    have known := h.knows.locations l.id n hit
    refine ⟨⟨h, order⟩, .refl s, reach_of_le ?_, known⟩
    simpa using h.filed.locations.numbered.toNat_le known
  | none =>
    rw [hit] at run
    obtain ⟨⟨s₁, t, start⟩, backing, run⟩ := bind_eq_ok_iff.mp run
    obtain ⟨⟨s₂, lines⟩, lining, run⟩ := bind_eq_ok_iff.mp run
    obtain ⟨merging₁, grows₁, uses₁, backed, rfl⟩ := mapBacking small covers h backing
    obtain ⟨merging₂, grows₂, uses₂, lined⟩ := mapLines small covers merging₁ lining
    let moved : Location :=
      { l with mappingId := t.id, address := l.address + t.shift, lines }
    have uses : Uses s s₂ [t.id] (lines.map Line.functionId) := by
      simpa using uses₁.trans uses₂
    have stays : s₂.out.startAt t.id = s₁.out.startAt t.id := grows₂.parts.startAt backed
    have backed' : t.id = 0 ∨ t.id ∈ s₂.out.mappingIds :=
      backed.imp_right fun known => grows₂.parts.ids.1 known
    have recalled : s₂.locationsById = s.locationsById := uses.remembered
    have room : s₂.out.locations.length + 1 < UInt64.size :=
      merging₂.room fits member (recalled ▸ hit)
    obtain ⟨s₃, n, placed, filed, recalls, grows₃, order', reached, known, more⟩ :=
      h.filed.placeLocation order merging₂.filed (l := moved) uses backed'
        lined room
    dsimp only at run
    have run₃ : Merge.placeLocation s₂ (s₁.out.startAt t.id) moved = (s₃, n) := stays ▸ placed
    rw [show Merge.placeLocation s₂ (s₁.out.startAt t.id) _ = (s₃, n) from run₃] at run
    obtain ⟨rfl, rfl⟩ := Prod.mk.inj (Except.ok.inj run)
    have grows := (grows₁.trans grows₂).trans grows₃
    have unchanged : s₂.out.locations = s.out.locations := uses.locations
    have same : s₃.locationsById = s.locationsById := recalls.locations.trans recalled
    obtain ⟨mappingIds, functionIds, locationIds⟩ := grows₃.parts.ids
    have knows := merging₂.knows
    refine ⟨⟨⟨filed.remember _ _ _, ?_, ?_, ?_, ?_, ?_, ?_⟩, order'⟩,
      ⟨grows.parts, grows.samples, grows.header⟩, unchanged ▸ reached, known⟩
    · exact fun id t hit => mappingIds (knows.mappings id t (recalls.mappings ▸ hit))
    · exact fun id n hit => functionIds (knows.functions id n (recalls.functions ▸ hit))
    · intro id n hit
      rcases lookup_cons_eq_some hit with ⟨-, rfl⟩ | old
      · exact known
      · exact locationIds (knows.locations id n (recalls.locations ▸ old))
    · rw [List.map_cons, same]
      exact List.nodup_cons.mpr ⟨key_not_mem hit, h.knows.distinct⟩
    · rw [same]
      exact List.forall_mem_cons.mpr ⟨List.mem_map_of_mem member, h.knows.known⟩
    · -- one more location at most, and one more that is remembered
      have count := h.knows.count
      rw [← unchanged] at count
      simp only [List.length_cons, same]
      omega

theorem mapFrame (h : Merging stock src base s) (order : s.out.InOrder) {id n : UInt64}
    (run : mapFrame src s id = .ok (s', n)) :
    (Merging stock src base s' ∧ s'.out.InOrder) ∧ Grows s s' ∧
      reach s.out.locations.length [n] = some s'.out.locations.length ∧
      n ∈ s'.out.locationIds := by
  rw [Merge.mapFrame] at run
  split at run
  · cases run
  · rename_i l found
    exact mapLocation small covers fits h order (lastWith_mem found).1 run

theorem mapStack (h : Merging stock src base s) (order : s.out.InOrder) {ids stack : List UInt64}
    (run : mapAll (Merge.mapFrame src) s ids = .ok (s', stack)) :
    (Merging stock src base s' ∧ s'.out.InOrder) ∧ Grows s s' ∧
      reach s.out.locations.length stack = some s'.out.locations.length ∧
      ∀ id ∈ stack, id ∈ s'.out.locationIds := by
  refine mapAll_ok (I := fun s => Merging stock src base s ∧ s.out.InOrder)
    (R := fun s s' ids => Grows s s' ∧
      reach s.out.locations.length ids = some s'.out.locations.length ∧
      ∀ id ∈ ids, id ∈ s'.out.locationIds)
    (fun s => ⟨.refl s, rfl, fun _ h => nomatch h⟩) ?_ ?_ ⟨h, order⟩ run
  · intro s s' s'' y ys first rest
    obtain ⟨grows, reached, known⟩ := first
    obtain ⟨grows', reached', known'⟩ := rest
    refine ⟨grows.trans grows', reach_trans reached reached', List.forall_mem_cons.mpr
      ⟨?_, known'⟩⟩
    exact grows'.parts.ids.2.2 (known y List.mem_cons_self)
  · intro id _ s s' n merging step
    obtain ⟨kept, grows, reached, known⟩ := mapFrame small covers fits merging.1 merging.2 step
    exact ⟨kept, grows, reached, by simpa using known⟩

end

end Merging

end Merge

end Profiling
