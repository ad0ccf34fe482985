import Mathlib.Data.List.Flatten
import Profiling.Proofs.StackFrames
import Profiling.Proofs.Upkeep

/-!
# Pruning

Pruning is to remove a frame that a filter names together with all that it calls, as long as
something else calls it. It never removes more than that. It removes as much where the call
comes through a location without any frame to drop; a location that keeps its outer lines does
not count as such until the next time.
-/

namespace Profiling

theorem isPrefix_zipIdx {xs ys : List α} (h : xs <+: ys) (n : Nat) :
    xs.zipIdx n <+: ys.zipIdx n := by
  obtain ⟨rest, rfl⟩ := h
  rw [List.zipIdx_append]
  exact List.prefix_append _ _

/-- Of a prefix that misses an element only places before it are left. -/
theorem length_le_of_missing {xs ys : List α} (h : xs <+: ys) {i : Nat} {x : α}
    (here : ys[i]? = some x) (missing : xs[i]? ≠ some x) : xs.length ≤ i := by
  by_contra inside
  obtain ⟨rest, rfl⟩ := h
  rw [List.getElem?_append_left (by omega)] at here
  exact missing here

namespace Location.Treated

variable {spares : Option Line → Bool} {fate : Fate} {before after : List (Option Line)}

/-- The outer frames of a location stay, in their order. -/
theorem isPrefix_left (h : Treated spares fate before after) : after <+: before := by
  cases h with
  | kept call calls spared => exact List.prefix_rfl
  | dropped call calls hit => exact List.prefix_rfl
  | trimmed above call below some_above spared hit => exact List.prefix_append _ _

theorem left_of_untrimmed (h : Treated spares fate before after) (untrimmed : fate ≠ .trimmed) :
    after = before := by
  cases h with
  | kept call calls spared => rfl
  | dropped call calls hit => rfl
  | trimmed above call below some_above spared hit => exact absurd rfl untrimmed

/-- A location without anything to drop is kept. -/
theorem kept_of_spared (h : Treated spares fate before after)
    (spared : ∀ c ∈ before, spares c = true) : fate = .kept := by
  cases h with
  | kept call calls _ => rfl
  | dropped call calls hit => simp [spared call List.mem_cons_self] at hit
  | trimmed above call below some_above _ hit => simp [spared call (by simp)] at hit

theorem spared_of_kept (h : Treated spares fate before after) (kept : fate = .kept) :
    (∃ c, before[0]? = some c) ∧ ∀ c ∈ before, spares c = true := by
  cases h with
  | kept call calls spared => exact ⟨⟨call, rfl⟩, spared⟩
  | dropped call calls hit => cases kept
  | trimmed above call below some_above spared hit => cases kept

/-- The outermost frame of a dropped location is one to drop. -/
theorem hit_of_dropped (h : Treated spares fate before after) (dropped : fate = .dropped) :
    ∃ c, before[0]? = some c ∧ spares c = false := by
  cases h with
  | kept call calls spared => cases dropped
  | dropped call calls hit => exact ⟨call, rfl, hit⟩
  | trimmed above call below some_above spared hit => cases dropped

/-- The first frame that a trimmed location loses is one to drop, and its outermost is not. -/
theorem hit_of_trimmed (h : Treated spares fate before after) (trimmed : fate = .trimmed) :
    (∀ c ∈ after, spares c = true) ∧ 0 < after.length ∧ (∃ c, before[0]? = some c ∧ c ∈ after) ∧
      ∃ c, before[after.length]? = some c ∧ spares c = false := by
  cases h with
  | kept call calls spared => cases trimmed
  | dropped call calls hit => cases trimmed
  | trimmed above call below some_above spared hit =>
    refine ⟨spared, List.length_pos_iff.mpr some_above, ?_, call, by simp, hit⟩
    obtain ⟨user, rest, rfl⟩ := List.exists_cons_of_ne_nil some_above
    exact ⟨user, rfl, List.mem_cons_self⟩

end Location.Treated

namespace Profile

/-- A frame to drop that is called from one that stays. -/
def Unwanted (p : Profile) (filter : FrameFilter) (stack : List UInt64) (g : StackFrame) : Prop :=
  g ∈ p.frames stack ∧ p.drops filter g.line = true ∧
    ∃ u ∈ p.frames stack, u.Calls g ∧ p.drops filter u.line = false

instance (p : Profile) (filter : FrameFilter) (stack : List UInt64) (g : StackFrame) :
    Decidable (p.Unwanted filter stack g) :=
  inferInstanceAs (Decidable (_ ∧ _ ∧ ∃ u ∈ p.frames stack, _))

/-- A location in which nothing is dropped. -/
def Untouched (p : Profile) (filter : FrameFilter) (stack : List UInt64) (site : Nat) : Prop :=
  ∀ c ∈ p.frames stack, c.site = site → p.drops filter c.line = false

instance (p : Profile) (filter : FrameFilter) (stack : List UInt64) (site : Nat) :
    Decidable (p.Untouched filter stack site) :=
  inferInstanceAs (Decidable (∀ c ∈ p.frames stack, _))

section

variable {p : Profile} (filter : FrameFilter) {stack : List UInt64}
  (linked : p.Linked) (known : ∀ id ∈ stack, id ∈ p.locationIds)
include linked known

theorem treated_getElem {i : Nat} {id : UInt64} (here : stack.reverse[i]? = some id) :
    Location.Treated (fun call => !p.drops filter call) (p.fateAt filter id) (p.callsAt id)
      ((p.prune filter).callsAt id) :=
  p.treatedAt filter linked (known id (List.mem_reverse.mp (List.mem_of_getElem? here)))

variable {filter}

/-- What is left of a stack are frames of it, in their order. -/
theorem frames_prune_sublist :
    ((p.prune filter).frames (cutStack (p.fateAt filter) stack)).Sublist (p.frames stack) := by
  have cut := isPrefix_cutRootFirst (p.fateAt filter) false stack.reverse
  have outer : (cutStack (p.fateAt filter) stack).reverse.zipIdx <+: stack.reverse.zipIdx := by
    rw [cutStack, List.reverse_reverse]
    exact isPrefix_zipIdx cut 0
  refine List.Sublist.trans (List.Sublist.flatMap_right _ ?_) (outer.sublist.flatMap _)
  rintro ⟨id, site⟩ member
  have here : stack.reverse[site]? = some id :=
    List.mk_mem_zipIdx_iff_getElem?.mp (outer.subset member)
  exact ((isPrefix_zipIdx (treated_getElem filter linked known here).isPrefix_left 0).sublist).map _

/-- The outermost line that a location loses is unwanted. -/
theorem exists_unwanted_of_trimmed {site : Nat} {id : UInt64}
    (here : stack.reverse[site]? = some id) (trimmed : p.fateAt filter id = .trimmed) :
    ∃ g, p.Unwanted filter stack g ∧ g.site = site ∧
      g.depth = ((p.prune filter).callsAt id).length := by
  obtain ⟨spared, some_above, ⟨user, outermost, above⟩, hit, first, drops⟩ :=
    (treated_getElem filter linked known here).hit_of_trimmed trimmed
  have hit_mem : ⟨site, _, hit⟩ ∈ p.frames stack := mem_frames.mpr ⟨id, here, first⟩
  have user_mem : ⟨site, 0, user⟩ ∈ p.frames stack := mem_frames.mpr ⟨id, here, outermost⟩
  refine ⟨_, ⟨hit_mem, by simpa using drops, _, user_mem, Or.inr ⟨rfl, some_above⟩, ?_⟩, rfl, rfl⟩
  simpa using spared user above

/-- The outermost line of a dropped location is unwanted beneath one that is kept. -/
theorem exists_unwanted_of_dropped {site user : Nat} {id above : UInt64}
    (here : stack.reverse[site]? = some id) (dropped : p.fateAt filter id = .dropped)
    (there : stack.reverse[user]? = some above) (kept : p.fateAt filter above = .kept)
    (beneath : user < site) : ∃ g, p.Unwanted filter stack g ∧ g.site = site ∧ g.depth = 0 := by
  obtain ⟨⟨caller, outermost⟩, spared⟩ :=
    (treated_getElem filter linked known there).spared_of_kept kept
  obtain ⟨hit, first, drops⟩ := (treated_getElem filter linked known here).hit_of_dropped dropped
  have hit_mem : ⟨site, 0, hit⟩ ∈ p.frames stack := mem_frames.mpr ⟨_, here, first⟩
  have user_mem : ⟨user, 0, caller⟩ ∈ p.frames stack := mem_frames.mpr ⟨_, there, outermost⟩
  refine ⟨_, ⟨hit_mem, by simpa using drops, _, user_mem, Or.inl beneath, ?_⟩, rfl, rfl⟩
  simpa using spared caller (List.mem_of_getElem? outermost)

/-- A frame is only missing from its location because of an unwanted one around it. -/
theorem unwanted_of_trimmed {f : StackFrame} {id : UInt64} (member : f ∈ p.frames stack)
    (here : stack.reverse[f.site]? = some id) (called : (p.callsAt id)[f.depth]? = some f.line)
    (lost : ((p.prune filter).callsAt id)[f.depth]? ≠ some f.line) :
    ∃ g, p.Unwanted filter stack g ∧ (g = f ∨ g.Calls f) := by
  have treated := treated_getElem filter linked known here
  have trimmed : p.fateAt filter id = .trimmed := by
    by_contra untrimmed
    exact lost (treated.left_of_untrimmed untrimmed ▸ called)
  have beyond := length_le_of_missing treated.isPrefix_left called lost
  obtain ⟨g, unwanted, site, depth⟩ := exists_unwanted_of_trimmed linked known here trimmed
  exact ⟨g, unwanted, eq_or_calls member unwanted.1 (Or.inr ⟨site, depth ▸ beyond⟩)⟩

/-- Where a stack is cut, the first frame that goes is unwanted. -/
theorem unwanted_of_cut {f : StackFrame} {id : UInt64} (member : f ∈ p.frames stack)
    (here : stack.reverse[f.site]? = some id)
    (gone : (cutRootFirst (p.fateAt filter) false stack.reverse)[f.site]? ≠ some id) :
    ∃ g, p.Unwanted filter stack g ∧ (g = f ∨ g.Calls f) := by
  have cut := isPrefix_cutRootFirst (p.fateAt filter) false stack.reverse
  have beyond := length_le_of_missing cut here gone
  rcases cutRootFirst_split (p.fateAt filter) false stack.reverse with
    whole | ⟨before, last, after, split, found, ends⟩
  · exact absurd (by rw [whole, here]) gone
  have there : stack.reverse[before.length]? = some last := by simp [split]
  rcases ends with ⟨dropped, left⟩ | ⟨trimmed, left⟩
  · -- a location goes whole, called from one that is kept
    obtain ⟨user, among, kept⟩ := found.resolve_left Bool.false_ne_true
    obtain ⟨i, inside, rfl⟩ := List.getElem_of_mem among
    have above : stack.reverse[i]? = some before[i] := by
      rw [split, List.getElem?_append_left inside, List.getElem?_eq_getElem inside]
    obtain ⟨g, unwanted, site, depth⟩ :=
      exists_unwanted_of_dropped linked known there dropped above kept inside
    rw [left] at beyond
    exact ⟨g, unwanted, eq_or_calls member unwanted.1 (by omega)⟩
  · -- a trimmed location is the last
    obtain ⟨g, unwanted, site, -⟩ := exists_unwanted_of_trimmed linked known there trimmed
    rw [left, List.length_append, List.length_singleton] at beyond
    exact ⟨g, unwanted, eq_or_calls member unwanted.1 (Or.inl (by omega))⟩

/-- No frame is missing without an unwanted one that is the frame itself or calls it. -/
theorem unwanted_of_missing {f : StackFrame} (member : f ∈ p.frames stack)
    (missing : f ∉ (p.prune filter).frames (cutStack (p.fateAt filter) stack)) :
    ∃ g, p.Unwanted filter stack g ∧ (g = f ∨ g.Calls f) := by
  obtain ⟨id, here, called⟩ := mem_frames.mp member
  by_cases stays : (cutRootFirst (p.fateAt filter) false stack.reverse)[f.site]? = some id
  · refine unwanted_of_trimmed linked known member here called fun left => missing ?_
    exact mem_frames.mpr ⟨id, by rwa [cutStack, List.reverse_reverse], left⟩
  · exact unwanted_of_cut linked known member here stays

theorem kept_of_untouched {site : Nat} {id : UInt64} (untouched : p.Untouched filter stack site)
    (here : stack.reverse[site]? = some id) : p.fateAt filter id = .kept := by
  refine (treated_getElem filter linked known here).kept_of_spared fun c hc => ?_
  obtain ⟨depth, called⟩ := List.getElem?_of_mem hc
  simpa using untouched ⟨site, depth, c⟩ (mem_frames.mpr ⟨id, here, called⟩) rfl

/-- A frame to drop that is called through an untouched location goes with all that it calls. -/
theorem missing_beneath {site : Nat} {f g : StackFrame} (untouched : p.Untouched filter stack site)
    (hg : g ∈ p.frames stack) (drops : p.drops filter g.line = true) (beneath : site < g.site)
    (called : g = f ∨ g.Calls f) :
    f ∉ (p.prune filter).frames (cutStack (p.fateAt filter) stack) := by
  intro hf
  obtain ⟨id, here, hit⟩ := mem_frames.mp hg
  obtain ⟨last, left, stays⟩ := mem_frames.mp hf
  rw [cutStack, List.reverse_reverse] at left
  have cut := isPrefix_cutRootFirst (p.fateAt filter) false stack.reverse
  have order := StackFrame.outside_of_eq_or_calls called
  have there := getElem?_isPrefix_of_le cut here left (by omega)
  obtain ⟨user, above⟩ : ∃ user, stack.reverse[site]? = some user := by
    obtain ⟨inside, -⟩ := List.getElem?_eq_some_iff.mp here
    exact ⟨_, List.getElem?_eq_getElem (by omega)⟩
  have kept := kept_of_untouched linked known untouched above
  have treated := treated_getElem filter linked known here
  rcases cutRootFirst_beneath there (Or.inr ⟨site, beneath, user, above, kept⟩) with
    also | ⟨trimmed, ends⟩
  · have spared := (treated.spared_of_kept also).2 g.line (List.mem_of_getElem? hit)
    simp [drops] at spared
  · -- the location is the last one left, and the frame is not among those that it keeps
    obtain ⟨inside, -⟩ := List.getElem?_eq_some_iff.mp left
    obtain ⟨same, around⟩ := order.resolve_left (by omega)
    rw [← same, there] at left
    obtain rfl := Option.some.inj left
    have outer := getElem?_isPrefix_of_le treated.isPrefix_left hit stays around
    have spared := (treated.hit_of_trimmed trimmed).1 g.line (List.mem_of_getElem? outer)
    simp [drops] at spared

/-- A stack without unwanted frames stays whole where nothing is trimmed. -/
theorem cutStack_of_wanted
    (untrimmed : ∀ l ∈ p.locations, l.fate (p.droppedIds filter) ≠ .trimmed)
    (wanted : ∀ g, ¬p.Unwanted filter stack g) : cutStack (p.fateAt filter) stack = stack := by
  rcases cutRootFirst_split (p.fateAt filter) false stack.reverse with
    whole | ⟨before, last, after, split, -, ends⟩
  · rw [cutStack, whole, List.reverse_reverse]
  · rcases ends with ⟨dropped, left⟩ | ⟨trimmed, -⟩
    · have there : stack.reverse[before.length]? = some last := by simp [split]
      obtain ⟨hit, first, -⟩ := (treated_getElem filter linked known there).hit_of_dropped dropped
      have member : ⟨before.length, 0, hit⟩ ∈ p.frames stack := mem_frames.mpr ⟨_, there, first⟩
      have gone : (cutRootFirst (p.fateAt filter) false stack.reverse)[before.length]? ≠
          some last := by simp [left]
      obtain ⟨g, unwanted, -⟩ := unwanted_of_cut linked known member there gone
      exact absurd unwanted (wanted g)
    · exact absurd trimmed (fateAt_of_untrimmed untrimmed last)

end

/-- What pruning leaves of a sample. A frame is missing only because of an unwanted one, which
is the frame itself or calls it. -/
structure PrunedTo (p : Profile) (filter : FrameFilter) (s t : Sample) : Prop where
  values : t.values = s.values
  labels : t.labels = s.labels
  stack : t.stack <:+ s.stack
  some_location : s.stack ≠ [] → t.stack ≠ []
  frames : ((p.prune filter).frames t.stack).Sublist (p.frames s.stack)
  blamed : ∀ f ∈ p.frames s.stack, f ∉ (p.prune filter).frames t.stack →
    ∃ g, p.Unwanted filter s.stack g ∧ (g = f ∨ g.Calls f)
  whole : (∀ f ∈ p.frames s.stack, p.drops filter f.line = true) →
    (p.prune filter).frames t.stack = p.frames s.stack

/-- Pruning never removes too much: it leaves a consistent profile with the same samples, of which
no frame is missing without an unwanted one to blame. -/
theorem prune_blames {p : Profile} (valid : p.checkValid = .ok ()) (filter : FrameFilter) :
    (p.prune filter).checkValid = .ok () ∧
      List.Forall₂ (p.PrunedTo filter) p.samples (p.prune filter).samples := by
  have linked := checkValid_eq_ok_iff.mp valid
  refine ⟨checkValid_eq_ok_iff.mpr ((p.reworked_prune filter).linked_of_eq linked rfl), ?_⟩
  rw [prune_eq, List.forall₂_map_right_iff, List.forall₂_same]
  intro s hs
  have known := linked.stacked s hs
  have blamed : ∀ f ∈ p.frames s.stack, f ∉ (p.prune filter).frames _ → _ :=
    fun f hf missing => unwanted_of_missing linked known hf missing
  have sublist : ((p.prune filter).frames _).Sublist _ := frames_prune_sublist linked known
  refine ⟨rfl, rfl, isSuffix_cutStack _ _, cutStack_ne_nil _, sublist, blamed, fun all => ?_⟩
  have kept : p.frames s.stack ⊆ (p.prune filter).frames (cutStack (p.fateAt filter) s.stack) := by
    intro f hf
    by_contra missing
    obtain ⟨g, ⟨-, -, user, member, -, spared⟩, -⟩ := blamed f hf missing
    simp [all user member] at spared
  exact sublist.eq_of_length_le ((p.nodup_frames s.stack).subperm kept).length_le

def allocatorFrames : FrameFilter := ⟨(anchored "malloc|alloc_.*").toOption.getD .empty, none⟩

def inlinedAllocation : Profile where
  sampleTypes := [⟨"alloc_space", "bytes"⟩]
  samples := [{ stack := [1, 2, 3], values := [8] }]
  locations := [{ id := 1, lines := [⟨1, 0, 0⟩] }, { id := 2, lines := [⟨2, 0, 0⟩, ⟨3, 0, 0⟩] },
    { id := 3, lines := [⟨4, 0, 0⟩] }]
  functions := [{ id := 1, name := "malloc" }, { id := 2, name := "alloc_buffer" },
    { id := 3, name := "handle" }, { id := 4, name := "main" }]

/-- What the allocator calls is missing because of the inlined call. -/
theorem prune_blames_inlined : inlinedAllocation.checkValid = .ok () ∧
    inlinedAllocation.PrunedTo allocatorFrames { stack := [1, 2, 3], values := [8] }
      { stack := [2, 3], values := [8] } ∧
    ∃ g, inlinedAllocation.Unwanted allocatorFrames [1, 2, 3] g ∧
      (g = ⟨2, 0, some ⟨1, 0, 0⟩⟩ ∨ g.Calls ⟨2, 0, some ⟨1, 0, 0⟩⟩) := by
  have valid : inlinedAllocation.checkValid = .ok () := by decide
  obtain ⟨-, pruned⟩ := prune_blames valid allocatorFrames
  have samples : (inlinedAllocation.prune allocatorFrames).samples =
      [{ stack := [2, 3], values := [8] }] := by decide +kernel
  rw [samples] at pruned
  obtain ⟨here, -⟩ := List.forall₂_cons.mp pruned
  exact ⟨valid, here, here.blamed _ (by decide +kernel) (by decide +kernel)⟩

/-- As long as only locations with something to drop come, from the root on, all their frames are
to drop. -/
def Unmixed (p : Profile) (filter : FrameFilter) (stack : List UInt64) : Prop :=
  ∀ f ∈ p.frames stack, (∀ site ≤ f.site, ¬p.Untouched filter stack site) →
    p.drops filter f.line = true

instance (p : Profile) (filter : FrameFilter) (stack : List UInt64) :
    Decidable (p.Unmixed filter stack) :=
  inferInstanceAs (Decidable (∀ f ∈ p.frames stack, (∀ site ≤ f.site, _) → _))

/-- In an unmixed stack the call of an unwanted frame comes through an untouched location. -/
theorem Unmixed.exists_untouched {p : Profile} {filter : FrameFilter} {stack : List UInt64}
    (unmixed : p.Unmixed filter stack) {g : StackFrame} (unwanted : p.Unwanted filter stack g) :
    ∃ site < g.site, p.Untouched filter stack site := by
  obtain ⟨member, drops, user, hu, calls, spared⟩ := unwanted
  by_contra none
  have above : user.site ≤ g.site := by
    rcases calls with site | ⟨site, -⟩
    · exact Nat.le_of_lt site
    · exact Nat.le_of_eq site
  have dropped := unmixed user hu fun site le untouched => ?_
  · rw [spared] at dropped
    cases dropped
  · rcases Nat.lt_or_eq_of_le (Nat.le_trans le above) with less | same
    · exact none ⟨site, less, untouched⟩
    · rw [untouched g member same.symm] at drops
      cases drops

structure ClearedTo (p : Profile) (filter : FrameFilter) (s t : Sample) : Prop where
  beneath : ∀ g ∈ p.frames s.stack, p.drops filter g.line = true →
    (∃ site < g.site, p.Untouched filter s.stack site) →
      ∀ f, g = f ∨ g.Calls f → f ∉ (p.prune filter).frames t.stack
  unmixed : p.Unmixed filter s.stack →
    (∀ g, p.Unwanted filter s.stack g →
      ∀ f, g = f ∨ g.Calls f → f ∉ (p.prune filter).frames t.stack) ∧
    ∀ g, ¬(p.prune filter).Unwanted filter t.stack g

theorem clearedTo_prune {p : Profile} (linked : p.Linked) (filter : FrameFilter) :
    List.Forall₂ (p.ClearedTo filter) p.samples (p.prune filter).samples := by
  rw [prune_eq, List.forall₂_map_right_iff, List.forall₂_same]
  intro s hs
  have known := linked.stacked s hs
  have beneath : ∀ g ∈ p.frames s.stack, p.drops filter g.line = true →
      (∃ site < g.site, p.Untouched filter s.stack site) → ∀ f, g = f ∨ g.Calls f →
        f ∉ (p.prune filter).frames (cutStack (p.fateAt filter) s.stack) := by
    rintro g hg drops ⟨site, less, untouched⟩ f called
    exact missing_beneath linked known untouched hg drops less called
  have gone : p.Unmixed filter s.stack → ∀ g, p.Unwanted filter s.stack g → ∀ f, g = f ∨ g.Calls f →
      f ∉ (p.prune filter).frames (cutStack (p.fateAt filter) s.stack) :=
    fun unmixed g unwanted =>
      beneath g unwanted.1 unwanted.2.1 (unmixed.exists_untouched unwanted)
  refine ⟨beneath, fun unmixed => ⟨gone unmixed, ?_⟩⟩
  rintro g ⟨hg, drops, user, hu, calls, spared⟩
  rw [drops_prune] at drops spared
  have sublist : ((p.prune filter).frames _).Sublist _ := frames_prune_sublist linked known
  have old := sublist.subset
  exact gone unmixed g ⟨old hg, drops, user, old hu, calls, spared⟩ g (Or.inl rfl) hg

/-- Pruning removes each frame to drop that is called through an untouched location, with all
that it calls. In unmixed stacks these are all the unwanted ones, so none is left and pruning
again changes nothing. In any case it changes nothing after the second time. -/
theorem prune_clears {p : Profile} (valid : p.checkValid = .ok ()) (filter : FrameFilter) :
    List.Forall₂ (p.ClearedTo filter) p.samples (p.prune filter).samples ∧
      ((∀ s ∈ p.samples, p.Unmixed filter s.stack) →
        (p.prune filter).prune filter = p.prune filter) ∧
      ((p.prune filter).prune filter).prune filter = (p.prune filter).prune filter := by
  have linked := checkValid_eq_ok_iff.mp valid
  have cleared := clearedTo_prune linked filter
  have untrimmed := p.fate_of_mem_prune filter
  refine ⟨cleared, fun unmixed => prune_of_whole untrimmed fun t ht => ?_, prune_prune untrimmed⟩
  have pruned := (p.reworked_prune filter).linked_of_eq linked rfl
  obtain ⟨s, hs, clear⟩ := exists_of_mem_right cleared ht
  exact cutStack_of_wanted pruned (pruned.stacked t ht) untrimmed (clear.unmixed (unmixed s hs)).2

theorem prune_clears_inlined :
    (∀ s ∈ inlinedAllocation.samples, inlinedAllocation.Unmixed allocatorFrames s.stack) ∧
      inlinedAllocation.ClearedTo allocatorFrames { stack := [1, 2, 3], values := [8] }
        { stack := [2, 3], values := [8] } ∧
      (inlinedAllocation.prune allocatorFrames).prune allocatorFrames =
        inlinedAllocation.prune allocatorFrames := by
  have unmixed : ∀ s ∈ inlinedAllocation.samples,
      inlinedAllocation.Unmixed allocatorFrames s.stack := by decide +kernel
  obtain ⟨cleared, once, -⟩ :=
    prune_clears (p := inlinedAllocation) (by decide) allocatorFrames
  have samples : (inlinedAllocation.prune allocatorFrames).samples =
      [{ stack := [2, 3], values := [8] }] := by decide +kernel
  rw [samples] at cleared
  obtain ⟨here, -⟩ := List.forall₂_cons.mp cleared
  exact ⟨unmixed, here, once unmixed⟩

def allocatingRoot : Profile where
  sampleTypes := [⟨"alloc_space", "bytes"⟩]
  samples := [{ stack := [2, 1], values := [8] }]
  locations := [{ id := 1, lines := [⟨1, 0, 0⟩, ⟨2, 0, 0⟩] }, { id := 2, lines := [⟨1, 0, 0⟩] }]
  functions := [{ id := 1, name := "malloc" }, { id := 2, name := "main" }]

/-- The root loses its inlined line and does not count as a caller, so the other call stays until
the profile is pruned again. -/
theorem prune_leaves_unwanted : allocatingRoot.checkValid = .ok () ∧
    (∃ t ∈ (allocatingRoot.prune allocatorFrames).samples,
      ∃ g, (allocatingRoot.prune allocatorFrames).Unwanted allocatorFrames t.stack g) ∧
    (allocatingRoot.prune allocatorFrames).prune allocatorFrames ≠
      allocatingRoot.prune allocatorFrames := by
  refine ⟨by decide, ⟨{ stack := [2, 1], values := [8] }, by decide +kernel,
    ⟨1, 0, some ⟨1, 0, 0⟩⟩, by decide +kernel⟩, by decide +kernel⟩

end Profile

end Profiling
