import Profiling.Proofs.MergeSums
import Profiling.Proofs.Rounding

/-!
# Differences of profiles

A profile scaled by minus one is what a base contributes. Merged with the profiles that it was
made from it leaves, at every trace, what rounding left of each value. Nothing is left of values
that are doubles, apart from the least word.
-/

namespace Profiling

open Merge (addValues entries)
open Binary64 (minusOne nearest remnant)

theorem Binary64.nearOne_minusOne : minusOne.nearOne = .far := by decide +kernel

open Binary64 (nearOne_minusOne)

namespace Sample

def opposite (s : Sample) : Sample := { s with values := s.values.map minusOne.scaleWord }

theorem scale_minusOne (s : Sample) :
    s.scale (List.replicate s.values.length minusOne) = s.opposite := by
  obtain ⟨stack, values, labels⟩ := s
  simp only [scale, opposite, mk.injEq, true_and, and_true]
  induction values with
  | nil => rfl
  | cons v vs ih =>
    have word : scaleValue v minusOne = minusOne.scaleWord v := if_pos nearOne_minusOne
    rw [List.length_cons, List.replicate_succ, scaledValues, ih, word, List.map_cons]

/-- With only one ratio, which is not one, a sample survives unless it comes out zero. -/
theorem survives_minusOne (s : Sample) :
    s.survives (List.replicate s.values.length minusOne) = !s.opposite.isZero := by
  obtain ⟨stack, values, labels⟩ := s
  simp only [survives, opposite, isZero]
  induction values with
  | nil => rfl
  | cons v vs ih =>
    have far : decide (minusOne.nearOne = .far) = true := decide_eq_true nearOne_minusOne
    have word : scaleValue v minusOne = minusOne.scaleWord v := if_pos nearOne_minusOne
    rw [List.length_cons, List.replicate_succ, List.zip_cons_cons, List.any_cons, ih,
      List.map_cons, List.all_cons, Bool.not_and, far, word, Bool.true_and]
    rfl

end Sample

namespace Profile

theorem scale_minusOne {p : Profile} (linked : p.Linked) :
    p.scale minusOne =
      { p with samples := (p.samples.map Sample.opposite).filter fun s => !s.isZero } := by
  have width : ∀ s ∈ p.samples, s.values.length = p.sampleTypes.length := linked.valued
  have other : ¬minusOne.nearOne = .near := by decide +kernel
  rw [scale, if_neg other, scaleEach, if_neg (by simp)]
  by_cases untyped : p.sampleTypes = []
  · -- without types there are no samples that could change
    have none : p.samples = [] := by
      by_contra some
      exact linked.typed some untyped
    simp only [untyped, List.length_nil, List.replicate_zero, List.all_nil, if_true, none,
      List.map_nil, List.filter_nil]
    rw [← none, ← untyped]
  · have scaled : ¬(List.replicate p.sampleTypes.length minusOne).all (·.nearOne = .near) := by
      simp [untyped, other]
    have survivors : p.samples.filter (·.survives (List.replicate p.sampleTypes.length minusOne)) =
        p.samples.filter fun s => !s.opposite.isZero := by
      apply List.filter_congr
      intro s hs
      rw [← width s hs, Sample.survives_minusOne]
    have negated : ∀ live : Sample → Bool, (p.samples.filter live).map
        (·.scale (List.replicate p.sampleTypes.length minusOne)) =
          (p.samples.filter live).map Sample.opposite := by
      intro live
      apply List.map_congr_left
      intro s hs
      rw [← width s (List.mem_filter.mp hs).1, Sample.scale_minusOne]
    rw [if_neg scaled, survivors, negated, List.filter_map]
    rfl

theorem linked_scale_minusOne {p : Profile} (linked : p.Linked) : (p.scale minusOne).Linked := by
  rw [scale_minusOne linked]
  have drawn : ∀ s ∈ (p.samples.map Sample.opposite).filter fun s => !s.isZero,
      ∃ t ∈ p.samples, s = t.opposite := by
    intro s hs
    obtain ⟨t, ht, rfl⟩ := List.mem_map.mp (List.mem_filter.mp hs).1
    exact ⟨t, ht, rfl⟩
  refine ⟨⟨linked.mappings, linked.functions, linked.locations, linked.backed, linked.lined, ?_⟩,
    ?_, ?_⟩
  · intro s hs
    obtain ⟨t, ht, rfl⟩ := drawn s hs
    exact linked.stacked t ht
  · intro some
    obtain ⟨s, hs⟩ := List.exists_mem_of_ne_nil _ some
    obtain ⟨t, ht, rfl⟩ := drawn s hs
    exact linked.typed (List.ne_nil_of_mem ht)
  · intro s hs
    obtain ⟨t, ht, rfl⟩ := drawn s hs
    rw [Sample.opposite, List.length_map]
    exact linked.valued t ht

end Profile

theorem addValues_map (f : Int64 → Int64) (vs : List Int64) :
    addValues vs (vs.map f) = vs.map fun v => v + f v := by
  induction vs with
  | nil => rfl
  | cons v vs ih => rw [List.map_cons, addValues, ih, List.map_cons]

theorem addValues_interchange {a b c d : List Int64} (hb : a.length = b.length)
    (hc : a.length = c.length) (hd : a.length = d.length) :
    addValues (addValues a b) (addValues c d) = addValues (addValues a c) (addValues b d) := by
  have bc : b.length = c.length := hb.symm.trans hc
  have cd : c.length = d.length := hc.symm.trans hd
  calc addValues (addValues a b) (addValues c d)
      = addValues a (addValues b (addValues c d)) :=
        addValues_assoc hb (bc.trans (length_addValues cd).symm)
    _ = addValues a (addValues (addValues b c) d) := by rw [addValues_assoc bc cd]
    _ = addValues a (addValues (addValues c b) d) := by rw [addValues_comm bc]
    _ = addValues a (addValues c (addValues b d)) := by
        rw [addValues_assoc bc.symm (bc.trans cd)]
    _ = addValues (addValues a c) (addValues b d) := by
        rw [addValues_assoc hc (bc.symm.trans (length_addValues (bc.trans cd)).symm)]

namespace Ledger

variable {κ : Type}

def mapValues (f : Int64 → Int64) (entries : Ledger κ) : Ledger κ :=
  entries.map fun e => (e.1, e.2.map f)

theorem Wide.mapValues {n : Nat} {entries : Ledger κ} (wide : Wide n entries) (f : Int64 → Int64) :
    Wide n (entries.mapValues f) := by
  intro e he
  obtain ⟨d, hd, rfl⟩ := List.mem_map.mp he
  rw [List.length_map]
  exact wide d hd

variable [DecidableEq κ]

/-- A sum in which each value stands beside its image is the sum of both. -/
theorem amount_mapValues_add {n : Nat} {k : κ} {entries : Ledger κ} (wide : Wide n entries)
    (f : Int64 → Int64) :
    amount n k (entries.mapValues fun v => v + f v) =
      addValues (amount n k entries) (amount n k (entries.mapValues f)) := by
  induction entries with
  | nil =>
    have zeros := addValues_zeros (List.replicate n 0)
    rw [List.length_replicate] at zeros
    exact zeros.symm
  | cons e rest ih =>
    obtain ⟨head, tail⟩ := wide_cons.mp wide
    have left : (amount n k rest).length = n := length_amount tail
    have right : (amount n k (mapValues f rest)).length = n := length_amount (tail.mapValues f)
    have image : (e.2.map f).length = n := by rw [List.length_map, head]
    by_cases h : e.1 = k
    · simp only [mapValues, List.map_cons, amount, h, if_true]
      simp only [mapValues] at ih right
      rw [ih tail, ← addValues_map, addValues_interchange] <;> simp only [head, image, left, right]
    · simp only [mapValues, List.map_cons, amount, h, if_false]
      exact ih tail

theorem amount_mapValues_zero {n : Nat} {k : κ} {entries : Ledger κ} {f : Int64 → Int64}
    (wide : Wide n entries) (zero : ∀ e ∈ entries, ∀ v ∈ e.2, f v = 0) :
    amount n k (entries.mapValues f) = List.replicate n 0 := by
  induction entries with
  | nil => rfl
  | cons e rest ih =>
    obtain ⟨head, tail⟩ := wide_cons.mp wide
    obtain ⟨here, later⟩ := List.forall_mem_cons.mp zero
    have nothing : e.2.map f = List.replicate n 0 := by
      rw [List.eq_replicate_iff, List.length_map, List.forall_mem_map]
      exact ⟨head, here⟩
    have zeros := addValues_zeros (List.replicate n 0)
    rw [List.length_replicate] at zeros
    have rest' := ih tail later
    simp only [mapValues] at rest'
    simp only [mapValues, List.map_cons, amount, nothing, rest', zeros, ite_self]

end Ledger

namespace Profile

/-- A scaled sample is read as it was, and those that come out zero are not there. -/
theorem readings_scale_minusOne {p : Profile} (linked : p.Linked) :
    (p.scale minusOne).readings = (p.readings.mapValues minusOne.scaleWord).live := by
  have frames : (p.scale minusOne).frame? = p.frame? := by
    rw [scale_minusOne linked]
    rfl
  have traces : ∀ s : Sample, (p.scale minusOne).trace? s.opposite = p.trace? s := by
    intro s
    rw [trace?, frames]
    rfl
  have samples : (p.scale minusOne).samples =
      (p.samples.map Sample.opposite).filter fun s => !s.isZero := by
    rw [scale_minusOne linked]
  rw [readings, samples, Ledger.live, Ledger.mapValues, readings, List.map_map, List.filter_map,
    List.filter_map, List.map_map]
  apply List.map_congr_left
  intro s _
  rw [Function.comp_apply, traces]
  rfl

/-- A profile without samples is one that has a value for no trace. -/
theorem samples_eq_nil_iff {p : Profile} (linked : p.Linked) :
    p.samples = [] ↔ ∀ t, p.valuesAt t = [] := by
  constructor
  · intro none t
    rw [valuesAt, readings, none]
    rfl
  · intro nothing
    rw [List.eq_nil_iff_forall_not_mem]
    intro s hs
    obtain ⟨t, trace⟩ := linked.exists_trace? hs
    have member : (some t, s.values) ∈ p.readings := trace ▸ List.mem_map_of_mem hs
    have held := nothing t
    rw [valuesAt, Ledger.valuesOf, List.map_eq_nil_iff, List.filter_eq_nil_iff] at held
    exact held _ member (by simp)

end Profile

namespace Merge

/-- What rounding leaves of the sums of sources, word by word. -/
def remnantsAt (srcs : List Profile) (t : Trace) : List Int64 :=
  ((entries srcs).mapValues remnant).amount (srcs.head?.elim 0 (·.sampleTypes.length)) (some t)

theorem entries_scale_minusOne {srcs : List Profile} (linked : ∀ src ∈ srcs, src.Linked) :
    entries (srcs.map (·.scale minusOne)) =
      ((entries srcs).mapValues minusOne.scaleWord).live := by
  induction srcs with
  | nil => rfl
  | cons src srcs ih =>
    obtain ⟨head, tail⟩ := List.forall_mem_cons.mp linked
    simp only [entries, Ledger.live, Ledger.mapValues] at ih
    simp only [entries, List.map_cons, List.flatMap_cons, Profile.readings_scale_minusOne head,
      ih tail, Ledger.live, Ledger.mapValues, List.map_append, List.filter_append]

theorem linked_withMinus {srcs : List Profile} (linked : ∀ src ∈ srcs, src.Linked) :
    ∀ src ∈ srcs ++ srcs.map (·.scale minusOne), src.Linked := by
  intro src hsrc
  rcases List.mem_append.mp hsrc with hsrc | hsrc
  · exact linked src hsrc
  · obtain ⟨p, hp, rfl⟩ := List.mem_map.mp hsrc
    exact Profile.linked_scale_minusOne (linked p hp)

theorem compatible_withMinus {first : Profile} {rest : List Profile}
    (linked : ∀ src ∈ first :: rest, src.Linked)
    (compatible : ∀ src ∈ rest, first.compatible src = .ok ()) :
    ∀ src ∈ rest ++ (first :: rest).map (·.scale minusOne), first.compatible src = .ok () := by
  intro src hsrc
  rcases List.mem_append.mp hsrc with hsrc | hsrc
  · exact compatible src hsrc
  · obtain ⟨p, hp, rfl⟩ := List.mem_map.mp hsrc
    rw [Profile.scale_minusOne (linked p hp)]
    rcases List.mem_cons.mp hp with rfl | hp
    · exact Profile.compatible_eq_ok_iff.mpr ⟨rfl, rfl⟩
    · exact compatible p hp

theorem wordsAt_minus {first : Profile} {rest : List Profile}
    (linked : ∀ src ∈ first :: rest, src.Linked)
    (compatible : ∀ src ∈ rest, first.compatible src = .ok ()) (t : Trace) :
    wordsAt (first :: rest ++ (first :: rest).map (·.scale minusOne)) t =
      remnantsAt (first :: rest) t := by
  have wide : Ledger.Wide first.sampleTypes.length (entries (first :: rest)) :=
    wide_compatible linked compatible
  have opposite := wide.mapValues minusOne.scaleWord
  calc wordsAt (first :: rest ++ (first :: rest).map (·.scale minusOne)) t
      = Ledger.amount first.sampleTypes.length (some t)
          (entries (first :: rest) ++ entries ((first :: rest).map (·.scale minusOne))) := by
        rw [wordsAt, entries, List.flatMap_append]
        rfl
    _ = addValues (Ledger.amount first.sampleTypes.length (some t) (entries (first :: rest)))
          (Ledger.amount first.sampleTypes.length (some t)
            (Ledger.mapValues minusOne.scaleWord (entries (first :: rest)))) := by
        rw [entries_scale_minusOne linked, Ledger.amount_append wide opposite.live,
          Ledger.amount_live opposite]
    _ = remnantsAt (first :: rest) t := (Ledger.amount_mapValues_add wide _).symm

/-- Nothing is left of words that are held exactly. -/
theorem remnantsAt_exact {first : Profile} {rest : List Profile}
    (linked : ∀ src ∈ first :: rest, src.Linked)
    (compatible : ∀ src ∈ rest, first.compatible src = .ok ())
    (held : ∀ src ∈ first :: rest, ∀ s ∈ src.samples, ∀ v ∈ s.values, remnant v = 0) (t : Trace) :
    (remnantsAt (first :: rest) t).all (· == 0) = true := by
  have zero : ∀ e ∈ entries (first :: rest), ∀ v ∈ e.2, remnant v = 0 := by
    intro e he v hv
    obtain ⟨src, hsrc, he⟩ := List.mem_flatMap.mp he
    obtain ⟨s, hs, rfl⟩ := List.mem_map.mp he
    exact held src hsrc s hs v hv
  have zeros : remnantsAt (first :: rest) t = List.replicate first.sampleTypes.length 0 :=
    Ledger.amount_mapValues_zero (wide_compatible linked compatible) zero
  rw [zeros]
  simp

end Merge

open Merge

/-- A difference of profiles with themselves exists and holds what rounding leaves of their sums,
even if those wrap around. It is empty when every value is a double other than the least word. -/
theorem merge_minus_itself (first : Profile) (rest : List Profile)
    (valid : ∀ src ∈ first :: rest, src.checkValid = .ok ())
    (compatible : ∀ src ∈ rest, first.compatible src = .ok ())
    (countable : Countable (first :: rest ++ (first :: rest).map (·.scale minusOne))) :
    ∃ out, merge (first :: rest ++ (first :: rest).map (·.scale minusOne)) = .ok out ∧
      (∀ t, out.valuesAt t = if (remnantsAt (first :: rest) t).all (· == 0) then []
        else [remnantsAt (first :: rest) t]) ∧
      (out.samples = [] ↔ ∀ t, (remnantsAt (first :: rest) t).all (· == 0)) ∧
      ((∀ src ∈ first :: rest, ∀ s ∈ src.samples, ∀ v ∈ s.values,
          nearest v.toInt.natAbs = v.toInt.natAbs ∧ v ≠ Int64.minValue) → out.samples = []) := by
  have linked : ∀ src ∈ first :: rest, src.Linked :=
    fun src hsrc => Profile.checkValid_eq_ok_iff.mp (valid src hsrc)
  have allLinked := linked_withMinus linked
  have drawn : ∀ src ∈ first :: rest ++ (first :: rest).map (·.scale minusOne),
      src.DrawsFrom (supply (first :: rest ++ (first :: rest).map (·.scale minusOne))) :=
    fun src => drawsFrom_supply
  obtain ⟨out, run, made, -⟩ :=
    merge_spec countable.supply allLinked drawn (compatible_withMinus linked compatible)
  have values : ∀ t, out.valuesAt t = if (remnantsAt (first :: rest) t).all (· == 0) then []
      else [remnantsAt (first :: rest) t] := by
    intro t
    rw [← wordsAt_minus linked compatible t]
    exact valuesAt_merge countable.supply allLinked drawn run t
  have empty : out.samples = [] ↔ ∀ t, (remnantsAt (first :: rest) t).all (· == 0) := by
    rw [Profile.samples_eq_nil_iff made.linked]
    refine forall_congr' fun t => ?_
    rw [values t]
    split <;> simp [*]
  refine ⟨out, run, values, empty, ?_⟩
  intro exact_values
  refine empty.mpr (remnantsAt_exact linked compatible ?_)
  intro src hsrc s hs v hv
  exact Binary64.remnant_eq_zero_iff.mpr (Or.inl (exact_values src hsrc s hs v hv))

theorem merge_minus_itself_lone :
    ∃ out, merge ([.lone 0x1000 5, .lone 0x8000 7] ++
        [Profile.lone 0x1000 5, .lone 0x8000 7].map (·.scale minusOne)) = .ok out ∧
      out.samples = [] := by
  obtain ⟨out, run, -, -, empty⟩ := merge_minus_itself (.lone 0x1000 5) [.lone 0x8000 7]
    (by decide) (by decide) ⟨by decide +kernel, by decide +kernel, by decide +kernel⟩
  refine ⟨out, run, empty ?_⟩
  intro src hsrc s hs v hv
  rcases List.mem_pair.mp hsrc with rfl | rfl
  · obtain rfl := List.mem_singleton.mp hs
    obtain rfl := List.mem_singleton.mp hv
    decide +kernel
  · obtain rfl := List.mem_singleton.mp hs
    obtain rfl := List.mem_singleton.mp hv
    decide +kernel

/-- Rounded to even, a value with 54 digits leaves one behind. -/
theorem merge_minus_itself_odd :
    (Profile.lone 0x1000 9007199254740993).checkValid = .ok () ∧
      (9007199254740993 : Int64) ≠ Int64.minValue ∧
      merge ([.lone 0x1000 9007199254740993] ++
        [Profile.lone 0x1000 9007199254740993].map (·.scale minusOne)) =
          .ok (.lone 0x1000 1) := by
  refine ⟨by decide, by decide, ?_⟩
  have scaled : (Profile.lone 0x1000 9007199254740993).scale minusOne =
      .lone 0x1000 (-9007199254740992) := by
    decide +kernel
  rw [List.map_singleton, scaled]
  decide +kernel

end Profiling
