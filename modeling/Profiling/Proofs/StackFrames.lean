import Mathlib.Data.List.TakeWhile
import Profiling.Prune
import Profiling.Proofs.Reading

/-!
# Frames of a stack

A stack is read from the root to the leaf, one frame for each line of each of its locations. A
filter works on locations: it keeps one whole, cuts off its inner lines, or takes it away. What
becomes of the frames of a location is said once here, and so is where a stack is cut.
-/

namespace Profiling

/-- A frame is told by its place: how many locations lie between its own and the root, and how
many lines of its own location lie around it. -/
structure StackFrame where
  site : Nat
  depth : Nat
  line : Option Line
deriving DecidableEq, Repr

namespace StackFrame

/-- The first frame is nearer to the root. -/
def Calls (g f : StackFrame) : Prop := g.site < f.site ∨ g.site = f.site ∧ g.depth < f.depth

instance (g f : StackFrame) : Decidable (g.Calls f) :=
  inferInstanceAs (Decidable (_ ∨ _))

/-- A frame is no nearer to the root than what calls it. -/
theorem outside_of_eq_or_calls {f g : StackFrame} (called : g = f ∨ g.Calls f) :
    g.site < f.site ∨ g.site = f.site ∧ g.depth ≤ f.depth := by
  rcases called with rfl | above | ⟨same, around⟩
  · exact Or.inr ⟨rfl, Nat.le_refl _⟩
  · exact Or.inl above
  · exact Or.inr ⟨same, Nat.le_of_lt around⟩

end StackFrame

/-- The lines of a location, outermost first. A location without lines is one frame. -/
def Location.calls (l : Location) : List (Option Line) :=
  if l.lines = [] then [none] else l.lines.reverse.map some

namespace Profile

def callsAt (p : Profile) (id : UInt64) : List (Option Line) :=
  (p.location? id).elim [] Location.calls

/-- The frames of a stack from the root to the leaf. -/
def frames (p : Profile) (stack : List UInt64) : List StackFrame :=
  stack.reverse.zipIdx.flatMap fun (id, site) =>
    (p.callsAt id).zipIdx.map fun (line, depth) => ⟨site, depth, line⟩

theorem mem_frames {p : Profile} {stack : List UInt64} {f : StackFrame} :
    f ∈ p.frames stack ↔
      ∃ id, stack.reverse[f.site]? = some id ∧ (p.callsAt id)[f.depth]? = some f.line := by
  simp only [frames, List.mem_flatMap, List.mem_map, Prod.exists, List.mk_mem_zipIdx_iff_getElem?]
  constructor
  · rintro ⟨id, site, here, line, depth, called, rfl⟩
    exact ⟨id, here, called⟩
  · rintro ⟨id, here, called⟩
    exact ⟨id, f.site, here, f.line, f.depth, called, rfl⟩

theorem pairwise_zipIdx (xs : List α) : xs.zipIdx.Pairwise fun a b => a.2 < b.2 := by
  have order : (xs.zipIdx.map Prod.snd).Pairwise (· < ·) := by
    rw [List.zipIdx_map_snd]
    exact List.pairwise_lt_range'
  exact List.pairwise_map.mp order

/-- Every frame calls those after it. -/
theorem pairwise_frames (p : Profile) (stack : List UInt64) :
    (p.frames stack).Pairwise StackFrame.Calls := by
  refine List.pairwise_flatMap.mpr ⟨?_, ?_⟩
  · rintro ⟨id, site⟩ -
    exact List.pairwise_map.mpr ((pairwise_zipIdx _).imp fun order => Or.inr ⟨rfl, order⟩)
  · refine (pairwise_zipIdx _).imp fun order f hf g hg => ?_
    obtain ⟨-, -, rfl⟩ := List.mem_map.mp hf
    obtain ⟨-, -, rfl⟩ := List.mem_map.mp hg
    exact Or.inl order

theorem nodup_frames (p : Profile) (stack : List UInt64) : (p.frames stack).Nodup := by
  refine (p.pairwise_frames stack).imp fun {f g} calls same => ?_
  subst same
  rcases calls with site | ⟨-, depth⟩
  · exact Nat.lt_irrefl _ site
  · exact Nat.lt_irrefl _ depth

/-- A frame that is no nearer to the root than another is that one or called from it. -/
theorem eq_or_calls {p : Profile} {stack : List UInt64} {f g : StackFrame}
    (hf : f ∈ p.frames stack) (hg : g ∈ p.frames stack)
    (outside : g.site < f.site ∨ g.site = f.site ∧ g.depth ≤ f.depth) : g = f ∨ g.Calls f := by
  rcases outside with above | ⟨site, around⟩
  · exact Or.inr (Or.inl above)
  · rcases Nat.eq_or_lt_of_le around with depth | inside
    · obtain ⟨id, here, called⟩ := mem_frames.mp hf
      obtain ⟨id', here', called'⟩ := mem_frames.mp hg
      rw [site, here] at here'
      obtain rfl := Option.some.inj here'
      rw [depth, called] at called'
      left
      cases f
      cases g
      simp_all
    · exact Or.inr (Or.inr ⟨site, inside⟩)

end Profile

namespace Location

def spares (dropped : List UInt64) (call : Option Line) : Bool :=
  !call.any fun ln => dropped.contains ln.functionId

/-- What can become of the frames of a location, outermost first. -/
inductive Treated (spares : Option Line → Bool) :
    Fate → List (Option Line) → List (Option Line) → Prop
  | kept (call : Option Line) (calls : List (Option Line))
      (spared : ∀ c ∈ call :: calls, spares c = true) :
      Treated spares .kept (call :: calls) (call :: calls)
  | dropped (call : Option Line) (calls : List (Option Line)) (hit : spares call = false) :
      Treated spares .dropped (call :: calls) (call :: calls)
  | trimmed (above : List (Option Line)) (call : Option Line) (below : List (Option Line))
      (some_above : above ≠ []) (spared : ∀ c ∈ above, spares c = true)
      (hit : spares call = false) :
      Treated spares .trimmed (above ++ call :: below) above

theorem calls_of_lines {l : Location} (lined : l.lines ≠ []) :
    l.calls = l.lines.reverse.map some := by
  rw [calls, if_neg lined]

theorem calls_ne_nil (l : Location) : l.calls ≠ [] := by
  by_cases lined : l.lines = [] <;> simp [calls, lined]

/-- The lines of a location outside of its outermost hit. -/
theorem takeWhile_calls (dropped : List UInt64) {l : Location} (lined : l.lines ≠ []) :
    l.calls.takeWhile (spares dropped) = (linesAbove dropped l.lines).reverse.map some := by
  rw [calls_of_lines lined, List.takeWhile_map, linesAbove, List.reverse_reverse]
  rfl

/-- With nothing to drop a location is kept. -/
theorem fate_of_spared {dropped : List UInt64} {l : Location}
    (spared : ∀ c ∈ l.calls, spares dropped c = true) : l.fate dropped = .kept := by
  by_cases lined : l.lines = []
  · simp [fate, linesAbove, lined]
  · have all := takeWhile_calls dropped lined
    rw [List.takeWhile_eq_self_iff.mpr spared, calls_of_lines lined] at all
    have width := congrArg List.length all
    simp only [List.length_map, List.length_reverse] at width
    rw [fate, if_pos width.symm]

/-- With a hit in it a location goes, or its inner lines do. -/
theorem fate_of_hit {dropped : List UInt64} {l : Location} (lined : l.lines ≠ [])
    {call : Option Line} {below : List (Option Line)}
    (inside : l.calls.dropWhile (spares dropped) = call :: below) :
    l.fate dropped = if linesAbove dropped l.lines = [] then .dropped else .trimmed := by
  have fewer : (linesAbove dropped l.lines).length ≠ l.lines.length := by
    have split := List.takeWhile_append_dropWhile (p := spares dropped) (l := l.calls)
    have lengths := congrArg List.length split
    rw [inside, takeWhile_calls dropped lined, calls_of_lines lined] at lengths
    simp only [List.length_append, List.length_map, List.length_reverse, List.length_cons]
      at lengths
    omega
  simp only [fate, fewer, if_false, List.isEmpty_iff]

/-- Unless the outermost line is hit, a location keeps the lines around its outermost hit. -/
theorem treated_of_hit {dropped : List UInt64} {l : Location} {call : Option Line}
    {below : List (Option Line)} (inside : l.calls.dropWhile (spares dropped) = call :: below) :
    Treated (spares dropped) (l.fate dropped) l.calls (l.trim dropped).calls := by
  have split := List.takeWhile_append_dropWhile (p := spares dropped) (l := l.calls)
  rw [inside] at split
  have hit : spares dropped call = false := by
    have first := List.head?_dropWhile_not (spares dropped) l.calls
    simpa [inside] using first
  have lined : l.lines ≠ [] := by
    intro none
    simp [calls, none, spares] at inside
  have outside := takeWhile_calls dropped lined
  have fated := fate_of_hit lined inside
  by_cases above : linesAbove dropped l.lines = []
  · rw [if_pos above] at fated
    have same : l.trim dropped = l := by rw [trim, fated]
    rw [outside, above] at split
    rw [fated, same, ← split]
    exact .dropped call below hit
  · rw [if_neg above] at fated
    have left : (l.trim dropped).calls = l.calls.takeWhile (spares dropped) := by
      rw [outside, trim, fated, calls_of_lines above]
    rw [fated, left]
    nth_rewrite 1 [← split]
    exact .trimmed _ call below (by simpa [outside] using above)
      (fun c hc => List.mem_takeWhile_imp hc) hit

theorem treated (dropped : List UInt64) (l : Location) :
    Treated (spares dropped) (l.fate dropped) l.calls (l.trim dropped).calls := by
  cases inside : l.calls.dropWhile (spares dropped) with
  | nil =>
    have spared := List.dropWhile_eq_nil_iff.mp inside
    have kept := fate_of_spared spared
    have same : l.trim dropped = l := by rw [trim, kept]
    rw [kept, same]
    obtain ⟨call, calls, listed⟩ := List.exists_cons_of_ne_nil l.calls_ne_nil
    rw [listed] at spared ⊢
    exact .kept call calls spared
  | cons call below => exact treated_of_hit inside

theorem trim_of_untrimmed {dropped : List UInt64} {l : Location}
    (untrimmed : l.fate dropped ≠ .trimmed) : l.trim dropped = l := by
  rw [trim]
  split
  · contradiction
  · rfl

/-- There is nothing left to trim in what was trimmed. -/
theorem fate_trim (dropped : List UInt64) (l : Location) :
    (l.trim dropped).fate dropped ≠ .trimmed := by
  have left := treated dropped l
  cases cut : l.fate dropped with
  | trimmed =>
    rw [cut] at left
    generalize l.calls = calls at left
    cases left with
    | trimmed above call below some_above spared hit =>
      rw [fate_of_spared spared]
      exact Fate.noConfusion
  | kept =>
    rw [trim, cut, cut]
    exact Fate.noConfusion
  | dropped =>
    rw [trim, cut, cut]
    exact Fate.noConfusion

end Location

theorem getElem?_of_isPrefix {xs ys : List α} (h : xs <+: ys) {i : Nat} {x : α}
    (here : xs[i]? = some x) : ys[i]? = some x := by
  obtain ⟨rest, rfl⟩ := h
  obtain ⟨inside, -⟩ := List.getElem?_eq_some_iff.mp here
  rw [List.getElem?_append_left inside, here]

/-- As far as a prefix reaches it has the same elements. -/
theorem getElem?_isPrefix_of_le {xs ys : List α} (h : xs <+: ys) {i j : Nat} {x y : α}
    (here : ys[i]? = some x) (further : xs[j]? = some y) (le : i ≤ j) : xs[i]? = some x := by
  obtain ⟨rest, rfl⟩ := h
  obtain ⟨inside, -⟩ := List.getElem?_eq_some_iff.mp further
  rwa [List.getElem?_append_left (by omega)] at here

namespace Profile

/-- One step of a cut, for each fate of a location and whether one was kept before. -/
theorem cutRootFirst_cons (fate : UInt64 → Location.Fate) (foundUser : Bool) (id : UInt64)
    (rest : List UInt64) :
    (fate id = .kept ∧
      cutRootFirst fate foundUser (id :: rest) = id :: cutRootFirst fate true rest) ∨
    (fate id ≠ .kept ∧ foundUser = false ∧
      cutRootFirst fate foundUser (id :: rest) = id :: cutRootFirst fate false rest) ∨
    (fate id = .trimmed ∧ foundUser = true ∧ cutRootFirst fate foundUser (id :: rest) = [id]) ∨
    (fate id = .dropped ∧ foundUser = true ∧ cutRootFirst fate foundUser (id :: rest) = []) := by
  cases here : fate id <;> cases foundUser <;> simp [cutRootFirst, here]

theorem isPrefix_cutRootFirst (fate : UInt64 → Location.Fate) (foundUser : Bool)
    (ids : List UInt64) : cutRootFirst fate foundUser ids <+: ids := by
  induction ids generalizing foundUser with
  | nil => exact List.prefix_rfl
  | cons id rest ih =>
    rcases cutRootFirst_cons fate foundUser id rest with
      ⟨-, step⟩ | ⟨-, -, step⟩ | ⟨-, -, step⟩ | ⟨-, -, step⟩
    · exact step ▸ (List.prefix_cons_inj id).mpr (ih true)
    · exact step ▸ (List.prefix_cons_inj id).mpr (ih false)
    · exact step ▸ (List.prefix_cons_inj id).mpr List.nil_prefix
    · exact step ▸ List.nil_prefix

theorem isSuffix_cutStack (fate : UInt64 → Location.Fate) (stack : List UInt64) :
    cutStack fate stack <:+ stack := by
  have cut := isPrefix_cutRootFirst fate false stack.reverse
  rwa [← List.reverse_suffix, List.reverse_reverse] at cut

/-- A stack stays whole, or it is cut at a location with something to drop that is called from
one that is kept. -/
theorem cutRootFirst_split (fate : UInt64 → Location.Fate) (foundUser : Bool)
    (ids : List UInt64) : cutRootFirst fate foundUser ids = ids ∨
      ∃ before id after, ids = before ++ id :: after ∧
        (foundUser = true ∨ ∃ user ∈ before, fate user = .kept) ∧
        (fate id = .dropped ∧ cutRootFirst fate foundUser ids = before ∨
          fate id = .trimmed ∧ cutRootFirst fate foundUser ids = before ++ [id]) := by
  induction ids generalizing foundUser with
  | nil => exact Or.inl rfl
  | cons id rest ih =>
    rcases cutRootFirst_cons fate foundUser id rest with
      ⟨kept, step⟩ | ⟨-, unfound, step⟩ | ⟨trimmed, found, step⟩ | ⟨dropped, found, step⟩
    · rcases ih true with whole | ⟨before, last, after, rfl, -, cut⟩
      · exact Or.inl (by rw [step, whole])
      · refine Or.inr ⟨id :: before, last, after, rfl, Or.inr ⟨id, List.mem_cons_self, kept⟩, ?_⟩
        simpa [step] using cut
    · rcases ih false with whole | ⟨before, last, after, rfl, user, cut⟩
      · exact Or.inl (by rw [step, whole])
      · obtain ⟨user, member, kept⟩ := user.resolve_left Bool.false_ne_true
        refine Or.inr ⟨id :: before, last, after, rfl,
          Or.inr ⟨user, List.mem_cons_of_mem _ member, kept⟩, ?_⟩
        simpa [step] using cut
    · exact Or.inr ⟨[], id, rest, rfl, Or.inl found, Or.inr ⟨trimmed, step⟩⟩
    · exact Or.inr ⟨[], id, rest, rfl, Or.inl found, Or.inl ⟨dropped, step⟩⟩

/-- Something is always left of a stack. -/
theorem cutStack_ne_nil (fate : UInt64 → Location.Fate) {stack : List UInt64}
    (some_location : stack ≠ []) : cutStack fate stack ≠ [] := by
  rw [cutStack, ne_eq, List.reverse_eq_nil_iff]
  rcases cutRootFirst_split fate false stack.reverse with
    whole | ⟨before, id, after, -, user, ends⟩
  · rwa [whole, List.reverse_eq_nil_iff]
  · obtain ⟨user, member, -⟩ := user.resolve_left Bool.false_ne_true
    rcases ends with ⟨-, left⟩ | ⟨-, left⟩
    · exact left ▸ List.ne_nil_of_mem member
    · simp [left]

/-- What is left beneath a location that is kept is kept itself, but for a trimmed location at
the end. -/
theorem cutRootFirst_beneath {fate : UInt64 → Location.Fate} {foundUser : Bool}
    {ids : List UInt64} {j : Nat} {id : UInt64}
    (left : (cutRootFirst fate foundUser ids)[j]? = some id)
    (beneath : foundUser = true ∨ ∃ i < j, ∃ user, ids[i]? = some user ∧ fate user = .kept) :
    fate id = .kept ∨
      fate id = .trimmed ∧ (cutRootFirst fate foundUser ids).length = j + 1 := by
  induction ids generalizing foundUser j with
  | nil => cases left
  | cons first rest ih =>
    rcases cutRootFirst_cons fate foundUser first rest with
      ⟨kept, step⟩ | ⟨other, unfound, step⟩ | ⟨trimmed, found, step⟩ | ⟨-, -, step⟩
    · rw [step] at left ⊢
      cases j with
      | zero =>
        obtain rfl := Option.some.inj left
        exact Or.inl kept
      | succ j => simpa using ih left (Or.inl rfl)
    · rw [step] at left ⊢
      obtain ⟨i, before, user, here, kept⟩ :=
        beneath.resolve_left (by rw [unfound]; exact Bool.false_ne_true)
      cases i with
      | zero =>
        obtain rfl := Option.some.inj here
        exact absurd kept other
      | succ i =>
        cases j with
        | zero => omega
        | succ j => simpa using ih left (Or.inr ⟨i, by omega, user, here, kept⟩)
    · rw [step] at left ⊢
      cases j with
      | zero =>
        obtain rfl := Option.some.inj left
        exact Or.inr ⟨trimmed, rfl⟩
      | succ j => cases left
    · rw [step] at left
      cases left

/-- Where nothing is trimmed a second cut changes nothing. -/
theorem cutStack_cutStack {fate : UInt64 → Location.Fate} (untrimmed : ∀ id, fate id ≠ .trimmed)
    (stack : List UInt64) : cutStack fate (cutStack fate stack) = cutStack fate stack := by
  have left := isPrefix_cutRootFirst fate false stack.reverse
  rcases cutRootFirst_split fate false (cutRootFirst fate false stack.reverse) with
    whole | ⟨before, id, after, split, user, cut⟩
  · rw [cutStack, cutStack, List.reverse_reverse, whole]
  · -- the first cut leaves nothing to drop beneath the location that is kept
    obtain ⟨user, member, kept⟩ := user.resolve_left Bool.false_ne_true
    obtain ⟨i, inside, rfl⟩ := List.getElem_of_mem member
    have here : (cutRootFirst fate false stack.reverse)[before.length]? = some id := by
      simp [split]
    have above : stack.reverse[i]? = some before[i] := by
      refine getElem?_of_isPrefix left ?_
      rw [split, List.getElem?_append_left inside, List.getElem?_eq_getElem inside]
    have spared := cutRootFirst_beneath here (Or.inr ⟨i, inside, _, above, kept⟩)
    rcases spared with also | ⟨trimmed, -⟩
    · rcases cut with ⟨dropped, -⟩ | ⟨trimmed, -⟩
      · rw [also] at dropped
        cases dropped
      · exact absurd trimmed (untrimmed id)
    · exact absurd trimmed (untrimmed id)

/-- The numbers of the functions that a filter names. -/
def droppedIds (p : Profile) (filter : FrameFilter) : List UInt64 :=
  (p.functions.filter fun f => filter.drops f.name).map (·.id)

def fateAt (p : Profile) (filter : FrameFilter) : UInt64 → Location.Fate :=
  fateOf (p.locations.map fun l => (l.id, l.fate (p.droppedIds filter)))

theorem prune_eq (p : Profile) (filter : FrameFilter) :
    p.prune filter =
      { p with
        locations := p.locations.map (·.trim (p.droppedIds filter))
        samples := p.samples.map fun s =>
          { s with stack := cutStack (p.fateAt filter) s.stack } } :=
  rfl

def drops (p : Profile) (filter : FrameFilter) (call : Option Line) : Bool :=
  call.any fun ln => (p.function? ln.functionId).any fun f => filter.drops f.name

theorem drops_prune (p : Profile) (filter : FrameFilter) :
    (p.prune filter).drops filter = p.drops filter := rfl

variable {p : Profile} {filter : FrameFilter}

theorem mem_droppedIds (linked : p.Linked) (id : UInt64) :
    id ∈ p.droppedIds filter ↔ ∃ f, p.function? id = some f ∧ filter.drops f.name = true := by
  simp only [droppedIds, List.mem_map, List.mem_filter]
  constructor
  · rintro ⟨f, ⟨member, drops⟩, same⟩
    exact ⟨f, (find?_eq_some_iff linked.functions.2).mpr ⟨member, same⟩, drops⟩
  · rintro ⟨f, found, drops⟩
    obtain ⟨member, same⟩ := (find?_eq_some_iff linked.functions.2).mp found
    exact ⟨f, ⟨member, drops⟩, same⟩

/-- A frame is spared if the filter does not name its function. -/
theorem spares_eq (linked : p.Linked) (call : Option Line) :
    Location.spares (p.droppedIds filter) call = !p.drops filter call := by
  cases call with
  | none => rfl
  | some ln =>
    have named : (p.droppedIds filter).contains ln.functionId =
        (p.function? ln.functionId).any fun f => filter.drops f.name := by
      rw [Bool.eq_iff_iff, List.contains_iff_mem, mem_droppedIds linked, Option.any_eq_true]
    rw [Location.spares, drops, Option.any_some, Option.any_some, named]

theorem id_trim (dropped : List UInt64) (l : Location) : (l.trim dropped).id = l.id := by
  rw [Location.trim]
  split <;> rfl

theorem location?_prune (p : Profile) (filter : FrameFilter) (id : UInt64) :
    (p.prune filter).location? id = (p.location? id).map (·.trim (p.droppedIds filter)) := by
  rw [location?, prune_eq, List.find?_map]
  simp only [Function.comp_def, id_trim]
  rfl

/-- No location is trimmed twice. -/
theorem fate_of_mem_prune (p : Profile) (filter : FrameFilter) :
    ∀ l ∈ (p.prune filter).locations, l.fate ((p.prune filter).droppedIds filter) ≠ .trimmed := by
  intro l hl
  obtain ⟨k, -, rfl⟩ := List.mem_map.mp hl
  exact k.fate_trim _

theorem fateAt_of_untrimmed
    (untrimmed : ∀ l ∈ p.locations, l.fate (p.droppedIds filter) ≠ .trimmed) (id : UInt64) :
    p.fateAt filter id ≠ .trimmed := by
  have none : .trimmed ∉ ((p.locations.map fun l =>
      (l.id, l.fate (p.droppedIds filter))).filter (·.1 = id)).map (·.2) := by
    simp only [List.mem_map, List.mem_filter, not_exists, not_and]
    rintro - ⟨⟨l, hl, rfl⟩, -⟩
    exact untrimmed l hl
  rw [fateAt, fateOf]
  simp only [List.contains_iff_mem, none, if_false]
  split <;> exact Location.Fate.noConfusion

/-- Where nothing is trimmed pruning works on stacks alone. -/
theorem prune_of_untrimmed
    (untrimmed : ∀ l ∈ p.locations, l.fate (p.droppedIds filter) ≠ .trimmed) :
    p.prune filter = { p with
      samples := p.samples.map fun s =>
        { s with stack := cutStack (p.fateAt filter) s.stack } } := by
  have each : ∀ l ∈ p.locations, l.trim (p.droppedIds filter) = id l :=
    fun l hl => Location.trim_of_untrimmed (untrimmed l hl)
  rw [prune_eq, List.map_congr_left each, List.map_id]

theorem prune_of_whole (untrimmed : ∀ l ∈ p.locations, l.fate (p.droppedIds filter) ≠ .trimmed)
    (whole : ∀ s ∈ p.samples, cutStack (p.fateAt filter) s.stack = s.stack) :
    p.prune filter = p := by
  have each : ∀ s ∈ p.samples,
      { s with stack := cutStack (p.fateAt filter) s.stack } = id s := fun s hs => by
    rw [whole s hs, id]
  rw [prune_of_untrimmed untrimmed, List.map_congr_left each, List.map_id]

/-- Where nothing is trimmed pruning once is enough. -/
theorem prune_prune (untrimmed : ∀ l ∈ p.locations, l.fate (p.droppedIds filter) ≠ .trimmed) :
    (p.prune filter).prune filter = p.prune filter := by
  rw [prune_of_untrimmed untrimmed]
  refine prune_of_whole untrimmed fun t ht => ?_
  obtain ⟨s, -, rfl⟩ := List.mem_map.mp ht
  exact cutStack_cutStack (fateAt_of_untrimmed untrimmed) s.stack

theorem fateAt_eq (linked : p.Linked) {id : UInt64} {l : Location}
    (found : p.location? id = some l) : p.fateAt filter id = l.fate (p.droppedIds filter) := by
  obtain ⟨member, rfl⟩ := (find?_eq_some_iff linked.locations.2).mp found
  have fates : ∀ fate, fate ∈ ((p.locations.map fun k =>
      (k.id, k.fate (p.droppedIds filter))).filter (·.1 = l.id)).map (·.2) ↔
      fate = l.fate (p.droppedIds filter) := by
    intro fate
    simp only [List.mem_map, List.mem_filter, decide_eq_true_eq]
    constructor
    · rintro ⟨-, ⟨⟨k, hk, rfl⟩, same⟩, rfl⟩
      rw [List.inj_on_of_nodup_map linked.locations.2 hk member same]
    · rintro rfl
      exact ⟨_, ⟨⟨l, member, rfl⟩, rfl⟩, rfl⟩
  rw [fateAt, fateOf]
  simp only [List.contains_iff_mem, fates]
  cases l.fate (p.droppedIds filter) <;> simp

/-- What becomes of the frames of a location. -/
theorem treatedAt (filter : FrameFilter) (linked : p.Linked) {id : UInt64}
    (known : id ∈ p.locationIds) :
    Location.Treated (fun call => !p.drops filter call) (p.fateAt filter id) (p.callsAt id)
      ((p.prune filter).callsAt id) := by
  obtain ⟨l, member, rfl⟩ := List.mem_map.mp known
  have found : p.location? l.id = some l :=
    (find?_eq_some_iff linked.locations.2).mpr ⟨member, rfl⟩
  rw [fateAt_eq linked found, callsAt, callsAt, location?_prune, found,
    ← funext (spares_eq linked)]
  exact l.treated (p.droppedIds filter)

end Profile

end Profiling
