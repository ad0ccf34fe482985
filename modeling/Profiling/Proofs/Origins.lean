import Mathlib.Data.List.Basic
import Profiling.Provenance

/-!
# Lists of origins

Joining provenance maps puts the lists of each key one after the other: nothing is
dropped, said twice or moved.
-/

namespace Profiling.Provenance

theorem lookup_eq_none {key : ImageKey} {entries : List (ImageKey × List Origin)}
    (missing : ∀ e ∈ entries, e.1 ≠ key) : entries.lookup key = none := by
  rw [List.lookup_eq_none_iff]
  intro e he
  simpa using (missing e he).symm

theorem lookup_appendTo {key : ImageKey} {origins : List Origin}
    {entries : List (ImageKey × List Origin)} (sorted : entries.Pairwise fun a b => a.1.before b.1)
    (k : ImageKey) :
    (appendTo key origins entries).lookup k =
      if k = key then some ((entries.lookup key).getD [] ++ origins) else entries.lookup k := by
  induction entries with
  | nil =>
    by_cases here : k = key
    · simp [appendTo, here]
    · have other : (k == key) = false := by simpa using here
      simp [appendTo, List.lookup_cons, here, other]
  | cons e rest ih =>
    obtain ⟨first, others⟩ := List.pairwise_cons.mp sorted
    obtain ⟨k', found⟩ := e
    by_cases same : k' = key
    · subst same
      by_cases here : k = k'
      · simp [appendTo, here]
      · have other : (k == k') = false := by simpa using here
        simp [appendTo, List.lookup_cons, here, other]
    · by_cases before : key.before k'
      · -- all keys that come after are different from a key that comes before
        have missing : ((k', found) :: rest).lookup key = none := by
          refine lookup_eq_none fun e he equal => ?_
          rcases List.mem_cons.mp he with rfl | he
          · exact same equal
          · have later := ImageKey.before_trans before (first e he)
            exact ImageKey.not_before_self key (equal ▸ later)
        by_cases here : k = key
        · simp [appendTo, same, before, here, missing]
        · have other : (k == key) = false := by simpa using here
          simp [appendTo, same, before, here, List.lookup_cons, other]
      · have differs : (key == k') = false := by simpa using Ne.symm same
        cases here : k == k' with
        | true =>
          have other : k ≠ key := fun equal => same ((beq_iff_eq.mp here).symm.trans equal)
          simp [appendTo, same, before, List.lookup_cons, here, other]
        | false => simp [appendTo, same, before, List.lookup_cons, here, differs, ih others]

theorem originsOf_add (p : Provenance) (key : ImageKey) (origins : List Origin) (k : ImageKey) :
    (p.add key origins).originsOf k = p.originsOf k ++ if k = key then origins else [] := by
  simp only [originsOf, get?, add, lookup_appendTo p.sorted]
  by_cases here : k = key <;> simp [here]

theorem originsOf_append (p q : Provenance) (k : ImageKey) :
    (p.append q).originsOf k = p.originsOf k ++ q.originsOf k := by
  obtain ⟨entries, sorted⟩ := q
  simp only [append, originsOf, get?]
  induction entries generalizing p with
  | nil => simp
  | cons e rest ih =>
    obtain ⟨first, others⟩ := List.pairwise_cons.mp sorted
    obtain ⟨key, origins⟩ := e
    have added := originsOf_add p key origins k
    simp only [originsOf, get?] at added
    rw [List.foldl_cons, ih (p.add key origins) others, added, List.lookup_cons]
    by_cases here : k = key
    · have missing : rest.lookup k = none := by
        refine lookup_eq_none fun e he equal => ?_
        have := first e he
        rw [equal, here] at this
        exact ImageKey.not_before_self key this
      simp [here, here ▸ missing]
    · have other : (k == key) = false := by simpa using here
      simp [here, other]

/-- Maps that are joined in order. -/
theorem originsOf_foldl (sources : List Provenance) (p : Provenance) (k : ImageKey) :
    (sources.foldl append p).originsOf k = p.originsOf k ++ sources.flatMap (·.originsOf k) := by
  induction sources generalizing p with
  | nil => simp
  | cons q sources ih => simp [ih, originsOf_append]

end Profiling.Provenance
