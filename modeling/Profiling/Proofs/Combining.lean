import Profiling.Grab
import Profiling.Proofs.CommonUnits
import Profiling.Proofs.MergeSums
import Profiling.Proofs.Origins
import Profiling.Proofs.Regrouping

/-!
# Aggregates

An aggregate says the same about its fragments in whatever groups they were combined.
Groups are combined a second time, so the profile of an aggregate is again one that can
be combined.
-/

namespace Profiling

open Merge

/-- The profile can go into one aggregate with profiles like another. -/
structure Profile.Fits (P : Supply) (p like : Profile) : Prop where
  linked : p.Linked
  drawn : p.DrawsFrom P
  compatible : like.compatible p = .ok ()

variable {P : Supply} {like : Profile}

namespace Profile.Fits

variable {p : Profile} (h : p.Fits P like)
include h

theorem types : p.sampleTypes = like.sampleTypes ∧ p.periodType = like.periodType :=
  (compatible_eq_ok_iff.mp h.compatible).symm.imp Eq.symm Eq.symm

/-- The period is only a number. -/
theorem withPeriod (period : Int64) : Profile.Fits P { p with period } like := by
  obtain ⟨linked, drawn, compatible⟩ := h
  refine ⟨?_, ⟨drawn.mappings, drawn.functions, drawn.frames⟩, compatible⟩
  exact ⟨⟨linked.mappings, linked.functions, linked.locations, linked.backed, linked.lined,
    linked.stacked⟩, linked.typed, linked.valued⟩

theorem wide : Ledger.Wide like.sampleTypes.length p.readings :=
  h.types.1 ▸ h.linked.wide_readings

end Profile.Fits

theorem Merge.Merged.fits {srcs : List Profile} {out : Profile} (h : Merged P like srcs out) :
    out.Fits P like :=
  ⟨h.linked, h.drawn,
    Profile.compatible_eq_ok_iff.mpr ⟨h.periodType.symm, h.sampleTypes.symm⟩⟩

theorem fits_headD {profiles : List Profile} (valid : ∀ p ∈ profiles, p.checkValid = .ok ())
    (compatible : ∀ p ∈ profiles, ∀ q ∈ profiles, p.compatible q = .ok ()) :
    ∀ p ∈ profiles, p.Fits (supply profiles) (profiles.headD {}) := by
  intro p hp
  refine ⟨Profile.checkValid_eq_ok_iff.mp (valid p hp), drawsFrom_supply hp, ?_⟩
  cases profiles with
  | nil => cases hp
  | cons first rest => exact compatible first List.mem_cons_self p hp

theorem wide_of_fits {profiles : List Profile} (fits : ∀ p ∈ profiles, p.Fits P like) :
    Ledger.Wide like.sampleTypes.length (entries profiles) :=
  wide_entries (fun p hp => (fits p hp).linked) fun p hp => congrArg _ (fits p hp).types.1

/-- Profiles of the same types are combined just as they are merged. -/
theorem combine_spec {profiles : List Profile} (small : P.Countable) (some_profile : profiles ≠ [])
    (fits : ∀ p ∈ profiles, p.Fits P like) (sources : List Provenance) :
    ∃ out, combine profiles sources = .ok (out, sources.foldl .append .empty) ∧
      Merged P like profiles out ∧ out.readings = (entries profiles).compact := by
  obtain ⟨period, harmonized⟩ := Profile.harmonize_eq fun p hp => (fits p hp).types
  let kept : Profile → Profile := fun p => { p with period := period p }
  have keptFits : ∀ p ∈ profiles.map kept, p.Fits P like := by
    intro p hp
    obtain ⟨q, hq, rfl⟩ := List.mem_map.mp hp
    exact (fits q hq).withPeriod _
  have mappings : (profiles.map kept).flatMap Profile.mappings = profiles.flatMap Profile.mappings :=
    List.flatMap_map ..
  have readings : entries (profiles.map kept) = entries profiles := List.flatMap_map ..
  cases profiles with
  | nil => exact absurd rfl some_profile
  | cons first rest =>
    have compatible : ∀ p ∈ rest.map kept, (kept first).compatible p = .ok () := by
      intro p hp
      have types := (keptFits p (List.mem_cons_of_mem _ hp)).types
      have firstTypes := (keptFits (kept first) List.mem_cons_self).types
      exact Profile.compatible_eq_ok_iff.mpr
        ⟨firstTypes.2.trans types.2.symm, firstTypes.1.trans types.1.symm⟩
    obtain ⟨out, run, made, summed⟩ := merge_spec small (fun p hp => (keptFits p hp).linked)
      (fun p hp => (keptFits p hp).drawn) compatible
    have types := (fits first List.mem_cons_self).types
    refine ⟨out, ?_, ?_, ?_⟩
    · rw [combine, harmonized]
      simp only [bind, Except.bind]
      rw [show merge (List.map kept (first :: rest)) = .ok out from run]
      rfl
    · exact ⟨made.linked, made.normal, made.drawn, made.sampleTypes.trans types.1,
        made.periodType.trans types.2, made.main.trans (by rw [← List.map_cons, mappings])⟩
    · rw [summed, ← List.map_cons, readings]

def profiles (fragments : List Fragment) : List Profile := fragments.map (·.profile)

theorem entries_append (a b : List Profile) : entries (a ++ b) = entries a ++ entries b :=
  List.flatMap_append

namespace Grab

/-- The grab says what the fragments say together. Values are kept up to the order of the
samples, and samples in their order if nothing can cancel out. -/
structure Covers (P : Supply) (like : Profile) (fragments : List Fragment) (grab : Grab) :
    Prop where
  merged : Merged P like (profiles fragments) grab.profile
  settled : grab.profile.readings.compact = grab.profile.readings
  amounts : ∀ k, Ledger.amount like.sampleTypes.length k grab.profile.readings =
    Ledger.amount like.sampleTypes.length k (entries (profiles fragments))
  ordered : Ledger.Gaining (entries (profiles fragments)) →
    (∀ k, Ledger.Words (Ledger.total like.sampleTypes.length k (entries (profiles fragments)))) →
    grab.profile.readings = (entries (profiles fragments)).compact
  origins : ∀ key, grab.sources.originsOf key = fragments.flatMap (·.sources.originsOf key)
  remote : grab.remote = fragments.any (·.remote)
  count : grab.count = fragments.length

theorem ofFragments_spec {fragments : List Fragment} (small : P.Countable)
    (some_fragment : fragments ≠ []) (fits : ∀ p ∈ profiles fragments, p.Fits P like) :
    ∃ grab, ofFragments fragments = .ok grab ∧ grab.Covers P like fragments := by
  obtain ⟨out, run, made, readings⟩ := combine_spec small
    (by simpa [profiles] using some_fragment) fits (fragments.map (·.sources))
  let sources := (fragments.map (·.sources)).foldl Provenance.append .empty
  refine ⟨⟨out, sources, fragments.any (·.remote), fragments.length⟩, ?_, made, ?_, ?_,
    fun _ _ => readings, ?_, rfl, rfl⟩
  · rw [ofFragments, ← profiles, run]
    rfl
  · rw [readings, Ledger.compact_compact]
  · intro k
    rw [readings, Ledger.amount_compact (wide_of_fits fits)]
  · intro key
    rw [Provenance.originsOf_foldl, List.flatMap_map]
    rfl

/-- The first mapping has its number already. -/
theorem head?_append_main {xs ys xs' ys' : List Mapping}
    (hx : xs.head? = xs'.head?.map fun m => { m with id := 1 })
    (hy : ys.head? = ys'.head?.map fun m => { m with id := 1 }) :
    ((xs ++ ys).head?.map fun m => { m with id := 1 }) =
      (xs' ++ ys').head?.map fun m => { m with id := 1 } := by
  rw [List.head?_append, List.head?_append, hx, hy]
  cases xs'.head? <;> cases ys'.head? <;> rfl

/-- Two aggregates come to one of all their fragments. -/
theorem add_spec {a b : Grab} {fs gs : List Fragment} (small : P.Countable)
    (fits : ∀ p ∈ profiles (fs ++ gs), p.Fits P like) (ha : a.Covers P like fs)
    (hb : b.Covers P like gs) :
    ∃ c, a.add b = .ok c ∧ c.Covers P like (fs ++ gs) := by
  have split : profiles (fs ++ gs) = profiles fs ++ profiles gs := List.map_append
  rw [split] at fits
  obtain ⟨fitsA, fitsB⟩ := List.forall_mem_append.mp fits
  have wideA := wide_of_fits fitsA
  have wideB := wide_of_fits fitsB
  have pair : ∀ p ∈ [a.profile, b.profile], p.Fits P like := by
    simp [ha.merged.fits, hb.merged.fits]
  obtain ⟨out, run, made, readings⟩ :=
    combine_spec small (List.cons_ne_nil _ _) pair [a.sources, b.sources]
  have two : entries [a.profile, b.profile] = a.profile.readings ++ b.profile.readings := by
    simp [entries]
  rw [two] at readings
  have wide := Ledger.wide_append.mpr ⟨ha.merged.fits.wide, hb.merged.fits.wide⟩
  let sources := [a.sources, b.sources].foldl Provenance.append .empty
  refine ⟨⟨out, sources, a.remote || b.remote, a.count + b.count⟩, ?_,
    ⟨made.linked, made.normal, made.drawn, made.sampleTypes, made.periodType, ?_⟩,
    ?_, ?_, ?_, ?_, ?_, ?_⟩
  · rw [add, run]
    rfl
  · rw [made.main, split, List.flatMap_append]
    simp only [List.flatMap_cons, List.flatMap_nil, List.append_nil]
    exact head?_append_main ha.merged.main hb.merged.main
  · rw [readings, Ledger.compact_compact]
  · intro k
    rw [readings, Ledger.amount_compact wide,
      Ledger.amount_append ha.merged.fits.wide hb.merged.fits.wide, ha.amounts, hb.amounts, split,
      entries_append, Ledger.amount_append wideA wideB]
  · rw [split, entries_append]
    intro gaining words
    obtain ⟨gainingA, gainingB⟩ := List.forall_mem_append.mp gaining
    have parts := fun k => Ledger.words_of_append wideA wideB gaining (words k)
    rw [readings, ha.ordered gainingA fun k => (parts k).1, hb.ordered gainingB fun k => (parts k).2,
      Ledger.compact_append wideA wideB gaining words]
  · intro key
    have joined := Provenance.originsOf_foldl [a.sources, b.sources] .empty key
    simp only [List.flatMap_cons, List.flatMap_nil, List.append_nil, ha.origins, hb.origins,
      ← List.flatMap_append] at joined
    exact joined
  · simp [ha.remote, hb.remote]
  · simp [ha.count, hb.count]

/-- The grab agrees with the profile and the provenance of all fragments combined at once. -/
structure Agrees (grab : Grab) (fragments : List Fragment) (profile : Profile)
    (sources : Provenance) : Prop where
  valid : grab.profile.checkValid = .ok ()
  count : grab.count = fragments.length
  remote : grab.remote = true ↔ ∃ f ∈ fragments, f.remote = true
  origins : ∀ key, grab.sources.originsOf key = fragments.flatMap (·.sources.originsOf key)
  joined : ∀ key, sources.originsOf key = grab.sources.originsOf key
  main : grab.profile.mappings.head? =
    (fragments.findSome? (·.profile.mappings.head?)).map fun main => { main with id := 1 }
  values : ∀ t, grab.profile.valuesAt t = profile.valuesAt t
  order : (∀ f ∈ fragments, ∀ s ∈ f.profile.samples, ∀ v ∈ s.values, 0 ≤ v) →
    (∀ t, Ledger.Words (totalAt (profiles fragments) t)) →
    grab.profile.readings = profile.readings

theorem gaining_entries {fragments : List Fragment}
    (gaining : ∀ f ∈ fragments, ∀ s ∈ f.profile.samples, ∀ v ∈ s.values, 0 ≤ v) :
    Ledger.Gaining (entries (profiles fragments)) := by
  intro e he v hv
  obtain ⟨p, hp, he⟩ := List.mem_flatMap.mp he
  obtain ⟨f, hf, rfl⟩ := List.mem_map.mp hp
  obtain ⟨s, hs, rfl⟩ := List.mem_map.mp he
  simpa using Int64.le_iff_toInt_le.mp (gaining f hf s hs v hv)

theorem words_entries {fragments : List Fragment} (some_fragment : fragments ≠ [])
    (fits : ∀ p ∈ profiles fragments, p.Fits P like)
    (words : ∀ t, Ledger.Words (totalAt (profiles fragments) t)) (k : Option Trace) :
    Ledger.Words (Ledger.total like.sampleTypes.length k (entries (profiles fragments))) := by
  cases k with
  | none =>
    have readable : none ∉ Ledger.keys (entries (profiles fragments)) := by
      intro unreadable
      obtain ⟨e, he, none⟩ := List.mem_map.mp unreadable
      obtain ⟨p, hp, he⟩ := List.mem_flatMap.mp he
      obtain ⟨s, hs, rfl⟩ := List.mem_map.mp he
      obtain ⟨t, ht⟩ := (fits p hp).linked.exists_trace? hs
      exact Option.some_ne_none t (ht.symm.trans none)
    rw [Ledger.total_of_not_mem readable]
    intro x hx
    rw [List.eq_of_mem_replicate hx]
    decide
  | some t =>
    cases fragments with
    | nil => exact absurd rfl some_fragment
    | cons f fs =>
      have types : f.profile.sampleTypes = like.sampleTypes :=
        (fits f.profile List.mem_cons_self).types.1
      rw [← types]
      exact words t

theorem Covers.agrees {fragments : List Fragment} {grab : Grab} (small : P.Countable)
    (some_fragment : fragments ≠ []) (fits : ∀ p ∈ profiles fragments, p.Fits P like)
    (covers : grab.Covers P like fragments) :
    ∃ profile sources,
      combine (profiles fragments) (fragments.map (·.sources)) = .ok (profile, sources) ∧
      grab.Agrees fragments profile sources := by
  obtain ⟨out, run, made, readings⟩ := combine_spec small
    (by simpa [profiles] using some_fragment) fits (fragments.map (·.sources))
  refine ⟨out, _, run, Profile.checkValid_eq_ok_iff.mpr covers.merged.linked, covers.count, ?_,
    covers.origins, ?_, ?_, ?_, ?_⟩
  · rw [covers.remote, List.any_eq_true]
  · intro key
    rw [Provenance.originsOf_foldl, List.flatMap_map, covers.origins]
    rfl
  · rw [covers.merged.main, List.head?_flatMap, profiles, List.findSome?_map]
    rfl
  · intro t
    have wide := wide_of_fits fits
    rw [Profile.valuesAt, Profile.valuesAt, readings, ← covers.settled,
      Ledger.valuesOf_compact covers.merged.fits.wide, Ledger.valuesOf_compact wide,
      covers.amounts]
  · intro gaining words
    rw [readings]
    exact covers.ordered (gaining_entries gaining) (words_entries some_fragment fits words)

end Grab

end Profiling
