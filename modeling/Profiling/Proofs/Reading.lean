import Mathlib.Data.Multiset.Defs
import Profiling.Proofs.Catalogue
import Profiling.Proofs.Consistency
import Profiling.Proofs.Tally

/-!
# Reading samples

A sample means the same in two profiles when its frames and labels do, whatever the
numbers of its locations. A frame is read through the location, mapping and functions
that the numbers refer to, with the address counted from the start of the mapping.
-/

namespace Profiling

structure FrameLine where
  function : Function.Key
  line : Int64
  column : Int64
deriving DecidableEq, Repr

/-- What a location says, free of the numbers of its profile. -/
structure Frame where
  mapping : Option Mapping.Key
  /-- Counted from the start of the mapping. -/
  address : UInt64
  lines : List FrameLine
  isFolded : Bool
deriving DecidableEq, Repr

/-- What is sampled: frames, leaf first, and labels in any order. -/
structure Trace where
  frames : List Frame
  labels : Multiset Label
deriving DecidableEq

namespace Profile

def mapping? (p : Profile) (id : UInt64) : Option Mapping := p.mappings.find? (·.id == id)

def location? (p : Profile) (id : UInt64) : Option Location := p.locations.find? (·.id == id)

def frameLine? (p : Profile) (l : Line) : Option FrameLine :=
  (p.function? l.functionId).map fun f => ⟨f.key, l.line, l.column⟩

/-- The mapping with a number; zero stands for none. -/
def backing? (p : Profile) (id : UInt64) : Option (Option Mapping) :=
  if id = 0 then some none else (p.mapping? id).map some

theorem eq_zero_of_backing? {p : Profile} {id : UInt64} (found : p.backing? id = some none) :
    id = 0 := by
  by_contra nonzero
  simp [backing?, nonzero] at found

theorem mapping?_of_backing? {p : Profile} {id : UInt64} {m : Mapping}
    (found : p.backing? id = some (some m)) : p.mapping? id = some m := by
  by_cases zero : id = 0
  · simp [backing?, zero] at found
  · simpa [backing?, zero] using found

def frameOf? (p : Profile) (l : Location) : Option Frame := do
  let mapping ← p.backing? l.mappingId
  let lines ← l.lines.mapM p.frameLine?
  some ⟨mapping.map Mapping.key, l.address - mapping.elim 0 Mapping.start, lines, l.isFolded⟩

def frame? (p : Profile) (id : UInt64) : Option Frame := (p.location? id).bind p.frameOf?

def trace? (p : Profile) (s : Sample) : Option Trace :=
  (s.stack.mapM p.frame?).map fun frames => ⟨frames, s.labels⟩

/-- The values of a profile under what they are measured at. -/
def readings (p : Profile) : Ledger (Option Trace) :=
  p.samples.map fun s => (p.trace? s, s.values)

end Profile

theorem mapM_eq_some_iff {f : α → Option β} {xs : List α} {ys : List β} :
    xs.mapM f = some ys ↔ List.Forall₂ (fun x y => f x = some y) xs ys := by
  induction xs generalizing ys with
  | nil => cases ys <;> simp
  | cons x xs ih =>
    rw [List.mapM_cons]
    cases hx : f x with
    | none => cases ys <;> simp [hx]
    | some y =>
      cases rest : xs.mapM f with
      | none =>
        cases ys with
        | nil => simp
        | cons z zs => simp [hx, ← ih, rest]
      | some ws =>
        cases ys with
        | nil => simp
        | cons z zs => simp [hx, ← ih, rest]

theorem exists_mapM_eq_some {f : α → Option β} {xs : List α}
    (each : ∀ x ∈ xs, ∃ y, f x = some y) : ∃ ys, xs.mapM f = some ys := by
  induction xs with
  | nil => exact ⟨[], rfl⟩
  | cons x xs ih =>
    obtain ⟨y, hy⟩ := each x List.mem_cons_self
    obtain ⟨ys, hys⟩ := ih fun x hx => each x (List.mem_cons_of_mem _ hx)
    exact ⟨y :: ys, by simp [hy, hys]⟩

theorem exists_of_mem_of_mapM {f : α → Option β} {xs : List α} {ys : List β}
    (h : xs.mapM f = some ys) {x : α} (member : x ∈ xs) : ∃ y ∈ ys, f x = some y := by
  rw [mapM_eq_some_iff] at h
  induction h with
  | nil => cases member
  | cons head _ ih =>
    rcases List.mem_cons.mp member with rfl | rest
    · exact ⟨_, List.mem_cons_self, head⟩
    · obtain ⟨y, hy, found⟩ := ih rest
      exact ⟨y, List.mem_cons_of_mem _ hy, found⟩

theorem mapM_mono {f g : α → Option β} (grows : ∀ x y, f x = some y → g x = some y)
    {xs : List α} {ys : List β} (h : xs.mapM f = some ys) : xs.mapM g = some ys := by
  rw [mapM_eq_some_iff] at h ⊢
  exact h.imp fun x y => grows x y

/-- Results that tell their arguments apart do so for whole lists. -/
theorem mapM_inj {f : α → Option β}
    (inj : ∀ x y z, f x = some z → f y = some z → x = y) {xs ys : List α} {zs : List β}
    (hx : xs.mapM f = some zs) (hy : ys.mapM f = some zs) : xs = ys := by
  rw [mapM_eq_some_iff] at hx hy
  induction hx generalizing ys with
  | nil => cases hy; rfl
  | cons head tail ih =>
    cases hy with
    | cons head' tail' => rw [inj _ _ _ head head', ih tail']

namespace Profile

/-- The second profile has all parts of the first at their places, and maybe more. -/
structure Extends (p q : Profile) : Prop where
  mappings : p.mappings <+: q.mappings
  functions : p.functions <+: q.functions
  locations : p.locations <+: q.locations

namespace Extends

theorem refl (p : Profile) : p.Extends p := ⟨List.prefix_rfl, List.prefix_rfl, List.prefix_rfl⟩

theorem trans {p q r : Profile} (h : p.Extends q) (h' : q.Extends r) : p.Extends r :=
  ⟨h.mappings.trans h'.mappings, h.functions.trans h'.functions, h.locations.trans h'.locations⟩

variable {p q : Profile} (h : p.Extends q)
include h

theorem mapping? {id : UInt64} {m : Mapping} (found : p.mapping? id = some m) :
    q.mapping? id = some m := h.mappings.find?_eq_some found

theorem function? {id : UInt64} {f : Function} (found : p.function? id = some f) :
    q.function? id = some f := h.functions.find?_eq_some found

theorem location? {id : UInt64} {l : Location} (found : p.location? id = some l) :
    q.location? id = some l := h.locations.find?_eq_some found

theorem backing? {id : UInt64} {m : Option Mapping} (found : p.backing? id = some m) :
    q.backing? id = some m := by
  by_cases zero : id = 0
  · simpa [Profile.backing?, zero] using found
  · simp only [Profile.backing?, zero, if_false, Option.map_eq_some_iff] at found ⊢
    obtain ⟨n, hn, rfl⟩ := found
    exact ⟨n, h.mapping? hn, rfl⟩

theorem frameLine? {l : Line} {x : FrameLine} (found : p.frameLine? l = some x) :
    q.frameLine? l = some x := by
  simp only [Profile.frameLine?, Option.map_eq_some_iff] at found ⊢
  obtain ⟨f, hf, rfl⟩ := found
  exact ⟨f, h.function? hf, rfl⟩

theorem frameOf? {l : Location} {fr : Frame} (found : p.frameOf? l = some fr) :
    q.frameOf? l = some fr := by
  simp only [Profile.frameOf?, Option.bind_eq_bind, Option.bind_eq_some_iff] at found ⊢
  obtain ⟨m, hm, lines, hlines, rest⟩ := found
  exact ⟨m, h.backing? hm, lines, mapM_mono (fun _ _ => h.frameLine?) hlines, rest⟩

theorem frame? {id : UInt64} {fr : Frame} (found : p.frame? id = some fr) :
    q.frame? id = some fr := by
  simp only [Profile.frame?, Option.bind_eq_some_iff] at found ⊢
  obtain ⟨l, hl, hfr⟩ := found
  exact ⟨l, h.location? hl, h.frameOf? hfr⟩

theorem trace? {s : Sample} {t : Trace} (found : p.trace? s = some t) : q.trace? s = some t := by
  simp only [Profile.trace?, Option.map_eq_some_iff] at found ⊢
  obtain ⟨frames, hframes, rfl⟩ := found
  exact ⟨frames, mapM_mono (fun _ _ => h.frame?) hframes, rfl⟩

end Extends

namespace Resolved

variable {p : Profile} (h : p.Resolved)
include h

theorem exists_function? {id : UInt64} (known : id ∈ p.functionIds) :
    ∃ f, p.function? id = some f := by
  obtain ⟨f, hf, rfl⟩ := List.mem_map.mp known
  exact ⟨f, (find?_eq_some_iff h.functions.2).mpr ⟨hf, rfl⟩⟩

theorem exists_backing? {id : UInt64} (known : id = 0 ∨ id ∈ p.mappingIds) :
    ∃ m, p.backing? id = some m := by
  by_cases zero : id = 0
  · exact ⟨none, by simp [Profile.backing?, zero]⟩
  · obtain ⟨m, hm, rfl⟩ := List.mem_map.mp (known.resolve_left zero)
    have found : p.mapping? m.id = some m := (find?_eq_some_iff h.mappings.2).mpr ⟨hm, rfl⟩
    exact ⟨some m, by simp [Profile.backing?, zero, found]⟩

theorem exists_frameOf? {l : Location} (member : l ∈ p.locations) :
    ∃ fr, p.frameOf? l = some fr := by
  obtain ⟨m, hm⟩ := h.exists_backing? (h.backed l member)
  obtain ⟨lines, hlines⟩ : ∃ lines, l.lines.mapM p.frameLine? = some lines := by
    refine exists_mapM_eq_some fun ln hln => ?_
    obtain ⟨f, hf⟩ := h.exists_function? (h.lined l member ln hln)
    exact ⟨⟨f.key, ln.line, ln.column⟩, by simp [Profile.frameLine?, hf]⟩
  exact ⟨_, by simp [Profile.frameOf?, hm, hlines]; rfl⟩

theorem exists_location? {id : UInt64} (known : id ∈ p.locationIds) :
    ∃ l, p.location? id = some l := by
  obtain ⟨l, hl, rfl⟩ := List.mem_map.mp known
  exact ⟨l, (find?_eq_some_iff h.locations.2).mpr ⟨hl, rfl⟩⟩

theorem exists_frame? {id : UInt64} (known : id ∈ p.locationIds) :
    ∃ fr, p.frame? id = some fr := by
  obtain ⟨l, hl⟩ := h.exists_location? known
  obtain ⟨fr, hfr⟩ := h.exists_frameOf? (List.mem_of_find?_eq_some hl)
  exact ⟨fr, by simp [Profile.frame?, hl, hfr]⟩

theorem exists_trace? {s : Sample} (member : s ∈ p.samples) : ∃ t, p.trace? s = some t := by
  obtain ⟨frames, hframes⟩ :=
    exists_mapM_eq_some fun id hid => h.exists_frame? (h.stacked s member id hid)
  exact ⟨⟨frames, s.labels⟩, by simp [Profile.trace?, hframes]⟩

end Resolved

theorem Linked.wide_readings {p : Profile} (h : p.Linked) :
    Ledger.Wide p.sampleTypes.length p.readings := by
  intro e he
  obtain ⟨s, hs, rfl⟩ := List.mem_map.mp he
  exact h.valued s hs

end Profile

end Profiling
