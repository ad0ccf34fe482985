import Mathlib.Data.List.DropRight
import Profiling.Proofs.Fixpoint

/-!
# Start times

The start time of a merged profile is made up from those of the sources, one after the other.
Zero stands both for a time that is not known and for having seen no source yet, so a source of
unknown time undoes all that was known before it: the earliest time is taken of those after the
last such source.
-/

namespace Profiling

namespace Merge

/-- The earliest of the times that are known; zero when none is. -/
def EarliestKnown (times : List Int64) (t : Int64) : Prop :=
  (t ≠ 0 ∧ t ∈ times ∧ ∀ s ∈ times, s ≠ 0 → t ≤ s) ∨ (t = 0 ∧ ∀ s ∈ times, s = 0)

-- there are too many times to go through them all, so only those of the list are tried
instance (times : List Int64) (t : Int64) : Decidable (EarliestKnown times t) :=
  decidable_of_iff ((t ≠ 0 ∧ t ∈ times ∧ times.all fun s => s = 0 || t ≤ s) ∨
      (t = 0 ∧ times.all fun s => s = 0)) (by
    simp only [EarliestKnown, List.all_eq_true, Bool.or_eq_true, decide_eq_true_eq,
      or_iff_not_imp_left, ne_eq])

/-- The times after the last one that is not known. -/
def lateTimes (times : List Int64) : List Int64 := times.rtakeWhile (· != 0)

/-- The start time that sources come to one after the other. -/
def startTime (times : List Int64) : Int64 := times.foldl earlier 0

variable {times : List Int64} {t : Int64}

theorem mem_of_mem_lateTimes {s : Int64} (late : s ∈ lateTimes times) : s ∈ times :=
  (List.rtakeWhile_suffix _ times).subset late

theorem ne_zero_of_mem_lateTimes {s : Int64} (late : s ∈ lateTimes times) : s ≠ 0 := by
  simpa using List.mem_rtakeWhile_imp late

theorem lateTimes_eq_self (known : ∀ s ∈ times, s ≠ 0) : lateTimes times = times := by
  rw [lateTimes, List.rtakeWhile_eq_self_iff]
  simpa using known

/-- A time that is not known undoes what was known. -/
theorem earlier_unknown {time : Int64} (low : 0 ≤ time) : earlier time 0 = 0 := by
  rw [earlier]
  split
  · rfl
  · rename_i later
    obtain ⟨known, notAfter⟩ := not_or.mp later
    exact (known (Int64.le_antisymm (Int64.not_lt.mp notAfter) low)).elim

theorem EarliestKnown.next (h : EarliestKnown times t) {other : Int64} (known : other ≠ 0) :
    EarliestKnown (times ++ [other]) (earlier t other) := by
  left
  rcases h with ⟨some, member, least⟩ | ⟨rfl, none⟩
  · by_cases before : other < t
    · rw [earlier, if_pos (Or.inr before)]
      refine ⟨known, List.mem_append_right _ List.mem_cons_self, ?_⟩
      apply forall_mem_append_singleton
      · intro s hs nonzero
        exact Int64.le_trans (Int64.le_of_lt before) (least s hs nonzero)
      · exact fun _ => Int64.le_refl other
    · rw [earlier, if_neg (not_or.mpr ⟨some, before⟩)]
      refine ⟨some, List.mem_append_left _ member, ?_⟩
      exact forall_mem_append_singleton least fun _ => Int64.not_lt.mp before
  · rw [earlier, if_pos (Or.inl rfl)]
    refine ⟨known, List.mem_append_right _ List.mem_cons_self, ?_⟩
    apply forall_mem_append_singleton
    · intro s hs nonzero
      exact absurd (none s hs) nonzero
    · exact fun _ => Int64.le_refl other

theorem EarliestKnown.nonneg (h : EarliestKnown times t) (low : ∀ s ∈ times, 0 ≤ s) : 0 ≤ t := by
  rcases h with ⟨-, member, -⟩ | ⟨rfl, -⟩
  · exact low t member
  · exact Int64.le_refl 0

theorem earliestKnown_startTime (low : ∀ s ∈ times, 0 ≤ s) :
    EarliestKnown (lateTimes times) (startTime times) := by
  induction times using List.reverseRecOn with
  | nil => exact Or.inr ⟨rfl, by simp [lateTimes]⟩
  | append_singleton times other ih =>
    obtain ⟨lowBefore, -⟩ := List.forall_mem_append.mp low
    have before := ih lowBefore
    rw [startTime, List.foldl_append]
    change EarliestKnown _ (earlier (startTime times) other)
    by_cases known : other = 0
    · subst known
      have cut : lateTimes (times ++ [0]) = [] := List.rtakeWhile_concat_neg _ _ _ (by decide)
      have undone := earlier_unknown
        (before.nonneg fun s hs => lowBefore s (mem_of_mem_lateTimes hs))
      rw [cut, undone]
      exact Or.inr ⟨rfl, by simp⟩
    · have kept : lateTimes (times ++ [other]) = lateTimes times ++ [other] :=
        List.rtakeWhile_concat_pos _ _ _ (by simpa using known)
      rw [kept]
      exact before.next known

/-- The start time is right if no time is known, or one of the earliest is after the last unknown
one. -/
theorem earliestKnown_iff (h : EarliestKnown (lateTimes times) t) :
    EarliestKnown times t ↔
      (∀ s ∈ times, s = 0) ∨ ∃ s ∈ lateTimes times, EarliestKnown times s := by
  constructor
  · rintro (earliest | ⟨-, none⟩)
    · rcases h with ⟨-, late, -⟩ | ⟨rfl, -⟩
      · exact Or.inr ⟨t, late, Or.inl earliest⟩
      · exact absurd rfl earliest.1
    · exact Or.inl none
  · rintro (none | ⟨s, late, earliest⟩)
    · rcases h with ⟨known, late, -⟩ | ⟨rfl, -⟩
      · exact absurd (none t (mem_of_mem_lateTimes late)) known
      · exact Or.inr ⟨rfl, none⟩
    · have known := ne_zero_of_mem_lateTimes late
      rcases h with ⟨some, member, least⟩ | ⟨-, none⟩
      · obtain ⟨-, -, first⟩ | ⟨unknown, -⟩ := earliest
        · have same : t = s := Int64.le_antisymm (least s late known)
            (first t (mem_of_mem_lateTimes member) some)
          subst same
          exact Or.inl ⟨some, mem_of_mem_lateTimes member, first⟩
        · exact absurd unknown known
      · exact absurd (none s late) known

theorem timeNanos_headers (first : Profile) (srcs : List Profile) :
    (headers first srcs).timeNanos = startTime (srcs.map Profile.timeNanos) := by
  rw [startTime, List.foldl_map]
  exact (List.foldl_hom Profile.timeNanos fun _ _ => rfl).symm

theorem timeNanos_pass {first out : Profile} {rest : List Profile}
    (countable : Countable (first :: rest)) (run : pass first rest = .ok out) :
    Countable [out] ∧
      out.timeNanos = startTime ((first :: rest).map Profile.timeNanos) := by
  obtain ⟨s, rfl, filed, -, header, -⟩ := pass_filed countable run
  refine ⟨filed.countable, ?_⟩
  exact (congrArg Profile.timeNanos header).trans (timeNanos_headers first (first :: rest))

/-- The second pass, which drops what cancelled out, keeps the start time of the first. -/
theorem timeNanos_merge {srcs : List Profile} {out : Profile} (countable : Countable srcs)
    (run : merge srcs = .ok out) : out.timeNanos = startTime (srcs.map Profile.timeNanos) := by
  cases srcs with
  | nil => cases run
  | cons first rest =>
    obtain ⟨merged, passed, second⟩ := bind_eq_ok_iff.mp run
    obtain ⟨countable', time⟩ := timeNanos_pass countable passed
    split at second
    · obtain ⟨-, again⟩ := timeNanos_pass countable' second
      rw [again, ← time]
      rfl
    · obtain rfl : merged = out := Except.ok.inj second
      exact time

end Merge

open Merge

/-- Compatible valid profiles are merged into one that has the earliest start time of those
listed after the last source of unknown time. That is the earliest known time of them all if
every time is known, whatever the order, and otherwise exactly if no time is known or one of the
earliest is listed after every unknown one. -/
theorem merge_startTime (first : Profile) (rest : List Profile)
    (valid : ∀ src ∈ first :: rest, src.checkValid = .ok ())
    (compatible : ∀ p ∈ first :: rest, ∀ q ∈ first :: rest, p.compatible q = .ok ())
    (countable : Countable (first :: rest)) (low : ∀ src ∈ first :: rest, 0 ≤ src.timeNanos) :
    let times := (first :: rest).map Profile.timeNanos
    ∃ out, merge (first :: rest) = .ok out ∧ EarliestKnown (lateTimes times) out.timeNanos ∧
      (EarliestKnown times out.timeNanos ↔
        (∀ s ∈ times, s = 0) ∨ ∃ s ∈ lateTimes times, EarliestKnown times s) ∧
      ((∀ s ∈ times, s ≠ 0) → EarliestKnown times out.timeNanos) := by
  intro times
  obtain ⟨merges, -⟩ := merge_normal (first :: rest) valid countable
  obtain ⟨out, run⟩ := merges.mpr ⟨first, rest, rfl, fun src hsrc =>
    compatible first List.mem_cons_self src (List.mem_cons_of_mem _ hsrc)⟩
  have earliest : EarliestKnown (lateTimes times) out.timeNanos := by
    rw [timeNanos_merge countable run]
    exact earliestKnown_startTime (List.forall_mem_map.mpr low)
  refine ⟨out, run, earliest, earliestKnown_iff earliest, fun known => ?_⟩
  rwa [lateTimes_eq_self known] at earliest

def Profile.takenAt (time : Int64) : Profile where
  sampleTypes := [⟨"cpu", "ns"⟩]
  timeNanos := time

/-- Times that are known do not depend on their order, and an unknown one does no harm in front. -/
theorem merge_startTime_unknownFirst :
    ∃ out, merge [.takenAt 0, .takenAt 50, .takenAt 20] = .ok out ∧
      EarliestKnown [0, 50, 20] out.timeNanos := by
  obtain ⟨out, run, -, exact_when, -⟩ :=
    merge_startTime (.takenAt 0) [.takenAt 50, .takenAt 20] (by decide) (by decide)
      ⟨by decide, by decide, by decide⟩ (by decide)
  exact ⟨out, run, exact_when.mpr (Or.inr ⟨20, by decide, by decide⟩)⟩

/-- Behind known times an unknown one makes the start time unknown, though all are the same
profiles in another order. -/
theorem merge_loses_startTime :
    (∀ p ∈ [Profile.takenAt 50, .takenAt 0], p.checkValid = .ok ()) ∧
      (∀ p ∈ [Profile.takenAt 50, .takenAt 0], ∀ q ∈ [Profile.takenAt 50, .takenAt 0],
        p.compatible q = .ok ()) ∧
      merge [.takenAt 50, .takenAt 0] = .ok (.takenAt 0) ∧
      merge [.takenAt 0, .takenAt 50] = .ok (.takenAt 50) ∧
      ¬EarliestKnown [50, 0] (Profile.takenAt 0).timeNanos := by
  decide

end Profiling
