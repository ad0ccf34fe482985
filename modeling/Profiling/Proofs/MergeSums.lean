import Profiling.Proofs.NormalForm

/-!
# The sums of merged profiles

A merged profile holds, at every trace, what its sources hold there together. A trace at
which they come to zero is gone.
-/

namespace Profiling

namespace Profile

/-- The values of all samples at a trace. -/
def valuesAt (p : Profile) (t : Trace) : List (List Int64) := p.readings.valuesOf (some t)

end Profile

namespace Merge

/-- The whole sum, sample type by sample type, of what sources hold at a trace. -/
def totalAt (srcs : List Profile) (t : Trace) : List Int :=
  (entries srcs).total (srcs.head?.elim 0 (·.sampleTypes.length)) (some t)

/-- The same sum in words, which wrap around. -/
def wordsAt (srcs : List Profile) (t : Trace) : List Int64 :=
  (entries srcs).amount (srcs.head?.elim 0 (·.sampleTypes.length)) (some t)

theorem wide_compatible {first : Profile} {rest : List Profile}
    (linked : ∀ src ∈ first :: rest, src.Linked)
    (compatible : ∀ src ∈ rest, first.compatible src = .ok ()) :
    Ledger.Wide first.sampleTypes.length (entries (first :: rest)) := by
  refine wide_entries linked fun src hsrc => ?_
  rcases List.mem_cons.mp hsrc with rfl | hsrc
  · rfl
  · rw [(Profile.compatible_eq_ok_iff.mp (compatible src hsrc)).2]

theorem valuesAt_merge {P : Supply} {first : Profile} {rest : List Profile} {out : Profile}
    (small : P.Countable) (linked : ∀ src ∈ first :: rest, src.Linked)
    (drawn : ∀ src ∈ first :: rest, src.DrawsFrom P)
    (run : merge (first :: rest) = .ok out) (t : Trace) :
    out.valuesAt t =
      if (wordsAt (first :: rest) t).all (· == 0) then [] else [wordsAt (first :: rest) t] := by
  obtain ⟨out', run', made, readings⟩ :=
    merge_spec small linked drawn (compatible_of_merge run)
  obtain rfl : out = out' := Except.ok.inj (run.symm.trans run')
  rw [Profile.valuesAt, readings,
    Ledger.valuesOf_compact (wide_compatible linked (compatible_of_merge run))]
  rfl

end Merge

open Merge

/-- Compatible valid profiles are merged into the sum of them all, trace by trace. Only the
whole sums must be words; on the way to them a sum may wrap around. -/
theorem merge_sums (first : Profile) (rest : List Profile)
    (valid : ∀ src ∈ first :: rest, src.checkValid = .ok ())
    (compatible : ∀ src ∈ rest, first.compatible src = .ok ())
    (countable : Countable (first :: rest))
    (words : ∀ t, Ledger.Words (totalAt (first :: rest) t)) :
    ∃ out, merge (first :: rest) = .ok out ∧
      (∀ s ∈ out.samples, ∃ t, out.trace? s = some t) ∧
      ∀ t, (out.valuesAt t).map (List.map Int64.toInt) =
        if (totalAt (first :: rest) t).all (· == 0) then [] else [totalAt (first :: rest) t] := by
  have linked : ∀ src ∈ first :: rest, src.Linked :=
    fun src hsrc => Profile.checkValid_eq_ok_iff.mp (valid src hsrc)
  have drawn : ∀ src ∈ first :: rest, src.DrawsFrom (supply (first :: rest)) :=
    fun src => drawsFrom_supply
  obtain ⟨out, run, made, -⟩ := merge_spec countable.supply linked drawn compatible
  refine ⟨out, run, fun s hs => made.linked.exists_trace? hs, fun t => ?_⟩
  have whole : (wordsAt (first :: rest) t).map Int64.toInt = totalAt (first :: rest) t :=
    Ledger.toInt_amount (wide_compatible linked compatible) (words t)
  rw [valuesAt_merge countable.supply linked drawn run, ← whole, Ledger.all_zero_toInt]
  split
  · rfl
  · rfl

def Trace.lone : Trace :=
  ⟨[⟨some ⟨0x2000, 0, "/bin/sh"⟩, 0x10, [⟨⟨0, "main", "", ""⟩, 7, 0⟩], false⟩],
    (([] : List Label) : Multiset Label)⟩

theorem merge_sums_lone : ∃ out, merge [.lone 0x1000 5, .lone 0x8000 7] = .ok out ∧
    (out.valuesAt .lone).map (List.map Int64.toInt) = [[12]] := by
  have same : entries [.lone 0x1000 5, .lone 0x8000 7] =
      [(some .lone, [5]), (some .lone, [7])] := by
    decide
  have total : ∀ t, totalAt [.lone 0x1000 5, .lone 0x8000 7] t =
      if .lone = t then [12] else [0] := by
    intro t
    by_cases here : .lone = t
    · subst here
      decide
    · simp only [totalAt, same, Ledger.total, Option.some.injEq, here, if_false]
      rfl
  have words : ∀ t, Ledger.Words (totalAt [.lone 0x1000 5, .lone 0x8000 7] t) := by
    intro t
    rw [total]
    split <;> decide
  obtain ⟨out, run, -, sums⟩ := merge_sums (.lone 0x1000 5) [.lone 0x8000 7] (by decide)
    (by decide) ⟨by decide, by decide, by decide⟩ words
  exact ⟨out, run, by simp [sums, total]⟩

end Profiling
