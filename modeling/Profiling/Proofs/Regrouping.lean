import Profiling.Proofs.Tally

/-!
# Tallies of tallies

A ledger may be tallied part by part, and the parts together. Sums stay the same in any
case. Where nothing is negative and no sum wraps around nothing cancels out, and then the
entries keep their order too.
-/

namespace Profiling

open Merge (addValues)

namespace Ledger

variable {κ : Type} [DecidableEq κ] {n : Nat}

/-- The order of two posts does not matter if the key of one is there already. -/
theorem post_comm {entries : Ledger κ} {e f : κ × List Int64} (wide : Wide n entries)
    (he : e.2.length = n) (hf : f.2.length = n) (known : e.1 ∈ entries.keys) :
    post (post entries f) e = post (post entries e) f := by
  induction entries with
  | nil => cases known
  | cons g rest ih =>
    obtain ⟨head, tail⟩ := wide_cons.mp wide
    by_cases atF : g.1 = f.1
    · by_cases atE : g.1 = e.1
      · have swap : addValues (addValues g.2 f.2) e.2 = addValues (addValues g.2 e.2) f.2 := by
          rw [addValues_assoc (head.trans hf.symm) (hf.trans he.symm),
            addValues_comm (hf.trans he.symm),
            addValues_assoc (head.trans he.symm) (he.trans hf.symm)]
        simp [post, atF, ← atE, swap]
      · simp [post, atF, atF ▸ atE]
    · by_cases atE : g.1 = e.1
      · simp [post, atE, atE ▸ atF]
      · have known' : e.1 ∈ keys rest := (List.mem_cons.mp known).resolve_left (Ne.symm atE)
        simp [post, atF, atE, ih tail known']

/-- Two posts under one key come to one post of the sum. -/
theorem post_post {entries : Ledger κ} {k : κ} {vs ws : List Int64} (wide : Wide n entries)
    (hv : vs.length = n) (hw : ws.length = n) :
    post (post entries (k, vs)) (k, ws) = post entries (k, addValues vs ws) := by
  induction entries with
  | nil => simp [post]
  | cons g rest ih =>
    obtain ⟨head, tail⟩ := wide_cons.mp wide
    by_cases here : g.1 = k
    · simp [post, here, addValues_assoc (head.trans hv.symm) (hv.trans hw.symm)]
    · simp [post, here, ih tail]

theorem mem_keys_post {entries : Ledger κ} {e : κ × List Int64} {k : κ} :
    k ∈ (post entries e).keys ↔ k ∈ entries.keys ∨ k = e.1 := by
  rw [keys_post]
  split
  · rename_i known
    exact ⟨Or.inl, fun h => h.elim id fun same => same ▸ known⟩
  · simp

theorem foldl_post_comm {entries start : Ledger κ} {e : κ × List Int64} (wide : Wide n entries)
    (start_wide : Wide n start) (he : e.2.length = n) (known : e.1 ∈ start.keys) :
    entries.foldl post (post start e) = post (entries.foldl post start) e := by
  induction entries generalizing start with
  | nil => rfl
  | cons f rest ih =>
    obtain ⟨head, tail⟩ := wide_cons.mp wide
    rw [List.foldl_cons, List.foldl_cons, ← post_comm start_wide he head known]
    exact ih tail (start_wide.post head) (mem_keys_post.mpr (Or.inl known))

/-- A post to the entries themselves can wait until they have been posted elsewhere. -/
theorem foldl_post_post {entries start : Ledger κ} {e : κ × List Int64} (wide : Wide n entries)
    (start_wide : Wide n start) (he : e.2.length = n) :
    (post entries e).foldl post start = post (entries.foldl post start) e := by
  induction entries generalizing start with
  | nil => rfl
  | cons f rest ih =>
    obtain ⟨head, tail⟩ := wide_cons.mp wide
    by_cases same : f.1 = e.1
    · -- the sum is posted at once; its second part moves behind the rest
      have sum : post (f :: rest) e = (e.1, addValues f.2 e.2) :: rest := by simp [post, same]
      have parts : f = (e.1, f.2) := by rw [← same]
      rw [sum, List.foldl_cons, ← post_post start_wide head he, List.foldl_cons, ← parts]
      exact foldl_post_comm tail (start_wide.post head) he
        (mem_keys_post.mpr (Or.inr same.symm))
    · have other : post (f :: rest) e = f :: post rest e := by simp [post, same]
      rw [other, List.foldl_cons, List.foldl_cons]
      exact ih tail (start_wide.post head)

theorem tally_tally_append (a b : Ledger κ) : tally (a.tally ++ b) = tally (a ++ b) := by
  rw [tally_append, tally_append, tally_of_nodup (nodup_keys_tally a)]

theorem tally_append_tally {a b : Ledger κ} (ha : Wide n a) (hb : Wide n b) :
    tally (a ++ b.tally) = tally (a ++ b) := by
  induction b using List.reverseRecOn with
  | nil => rfl
  | append_singleton b e ih =>
    obtain ⟨hb, he⟩ := wide_append.mp hb
    have last : e.2.length = n := he e (List.mem_singleton_self e)
    rw [tally_append b [e], List.foldl_cons, List.foldl_nil, tally_append a,
      foldl_post_post hb.tally ha.tally last, ← tally_append, ih hb, ← List.append_assoc,
      tally_append (a ++ b)]
    rfl

theorem mem_keys_of_mem_keys_tally {entries : Ledger κ} {k : κ} (h : k ∈ entries.tally.keys) :
    k ∈ entries.keys := by
  induction entries using List.reverseRecOn with
  | nil => exact h
  | append_singleton entries e ih =>
    rw [tally_append, List.foldl_cons, List.foldl_nil, mem_keys_post] at h
    rw [keys, List.map_append, List.mem_append]
    exact h.imp ih fun same => by simp [same]

theorem amount_of_mem {entries : Ledger κ} {e : κ × List Int64} (wide : Wide n entries)
    (distinct : entries.keys.Nodup) (member : e ∈ entries) : amount n e.1 entries = e.2 := by
  induction entries with
  | nil => cases member
  | cons f rest ih =>
    obtain ⟨head, tail⟩ := wide_cons.mp wide
    obtain ⟨new, distinct⟩ := List.nodup_cons.mp distinct
    rcases List.mem_cons.mp member with rfl | member
    · simp [amount, amount_of_not_mem new, ← head, addValues_zeros]
    · have other : f.1 ≠ e.1 := fun same => new (same ▸ List.mem_map_of_mem member)
      simp [amount, other, ih tail distinct member]

def Gaining (entries : Ledger κ) : Prop := ∀ e ∈ entries, ∀ v ∈ e.2, 0 ≤ v.toInt

/-- The whole sum of one column. -/
def sum (j : Nat) (k : κ) : Ledger κ → Int
  | [] => 0
  | e :: rest => if e.1 = k then (e.2[j]?.elim 0 Int64.toInt) + sum j k rest else sum j k rest

theorem getElem?_total {entries : Ledger κ} (wide : Wide n entries) (k : κ) {j : Nat}
    (inside : j < n) : (total n k entries)[j]? = some (sum j k entries) := by
  induction entries with
  | nil => simp [total, sum, inside]
  | cons e rest ih =>
    obtain ⟨head, tail⟩ := wide_cons.mp wide
    by_cases here : e.1 = k
    · have value : e.2[j]? = some e.2[j] := List.getElem?_eq_getElem (head ▸ inside)
      simp [total, sum, here, ih tail, value, List.getElem?_zipWith]
    · simp [total, sum, here, ih tail]

theorem mem_total {entries : Ledger κ} (wide : Wide n entries) {k : κ} {x : Int} :
    x ∈ total n k entries ↔ ∃ j < n, sum j k entries = x := by
  rw [List.mem_iff_getElem?]
  constructor
  · rintro ⟨j, here⟩
    have inside : j < n := by
      rw [← length_total wide]
      exact (List.getElem?_eq_some_iff.mp here).1
    exact ⟨j, inside, Option.some.inj ((getElem?_total wide k inside).symm.trans here)⟩
  · rintro ⟨j, inside, rfl⟩
    exact ⟨j, getElem?_total wide k inside⟩

theorem sum_append (j : Nat) (k : κ) (a b : Ledger κ) :
    sum j k (a ++ b) = sum j k a + sum j k b := by
  induction a with
  | nil => simp [sum]
  | cons e rest ih =>
    by_cases here : e.1 = k
    · simp [sum, here, ih, Int.add_assoc]
    · simp [sum, here, ih]

theorem sum_nonneg {entries : Ledger κ} (gaining : Gaining entries) (j : Nat) (k : κ) :
    0 ≤ sum j k entries := by
  induction entries with
  | nil => exact Int.le_refl 0
  | cons e rest ih =>
    obtain ⟨head, tail⟩ := List.forall_mem_cons.mp gaining
    have later := ih tail
    by_cases here : e.1 = k
    · cases value : e.2[j]? with
      | none => simpa [sum, here, value] using later
      | some v =>
        have := head v (List.mem_of_getElem? value)
        simp only [sum, here, if_true, value, Option.elim_some]
        omega
    · simpa [sum, here] using later

theorem le_sum_of_mem {entries : Ledger κ} (gaining : Gaining entries) {e : κ × List Int64}
    (member : e ∈ entries) {j : Nat} {v : Int64} (value : e.2[j]? = some v) :
    v.toInt ≤ sum j e.1 entries := by
  obtain ⟨before, after, rfl⟩ := List.append_of_mem member
  obtain ⟨first, last⟩ := List.forall_mem_append.mp gaining
  have low := sum_nonneg first j e.1
  have high := sum_nonneg (List.forall_mem_cons.mp last).2 j e.1
  rw [sum_append, sum, if_pos rfl, value, Option.elim_some]
  omega

/-- The sums of a part are words if those of the whole are. -/
theorem words_of_append {a b : Ledger κ} {k : κ} (ha : Wide n a) (hb : Wide n b)
    (gaining : Gaining (a ++ b)) (words : Words (total n k (a ++ b))) :
    Words (total n k a) ∧ Words (total n k b) := by
  obtain ⟨first, last⟩ := List.forall_mem_append.mp gaining
  have bound : ∀ j < n, sum j k a + sum j k b ≤ Int64.maxValue.toInt := fun j inside =>
    sum_append j k a b ▸ (words _ ((mem_total (wide_append.mpr ⟨ha, hb⟩)).mpr ⟨j, inside, rfl⟩)).2
  have low : Int64.minValue.toInt ≤ 0 := by decide
  constructor
  · intro x hx
    obtain ⟨j, inside, rfl⟩ := (mem_total ha).mp hx
    have := bound j inside
    have := sum_nonneg first j k
    have := sum_nonneg last j k
    omega
  · intro x hx
    obtain ⟨j, inside, rfl⟩ := (mem_total hb).mp hx
    have := bound j inside
    have := sum_nonneg first j k
    have := sum_nonneg last j k
    omega

theorem exists_positive {vs : List Int64} (live : vs.all (· == 0) = false)
    (gaining : ∀ v ∈ vs, 0 ≤ v.toInt) : ∃ (j : Nat) (v : Int64), vs[j]? = some v ∧ 0 < v.toInt := by
  obtain ⟨v, hv, nonzero⟩ := List.all_eq_false.mp live
  obtain ⟨j, here⟩ := List.mem_iff_getElem?.mp hv
  have zero : v.toInt ≠ 0 := by
    intro zero
    refine nonzero ?_
    rw [beq_iff_eq, ← Int64.toInt_inj, zero, Int64.toInt_zero]
  have := gaining v hv
  exact ⟨j, v, here, by omega⟩

/-- A key with a live entry has a sum that is not zero. -/
theorem amount_ne_zero {entries : Ledger κ} {e : κ × List Int64} (wide : Wide n entries)
    (gaining : Gaining entries) (words : Words (total n e.1 entries))
    (member : e ∈ entries.live) : (amount n e.1 entries).all (· == 0) = false := by
  obtain ⟨he, live⟩ := List.mem_filter.mp member
  obtain ⟨j, v, value, positive⟩ := exists_positive (by simpa using live) (gaining e he)
  have inside : j < n := wide e he ▸ (List.getElem?_eq_some_iff.mp value).1
  have large := le_sum_of_mem gaining he value
  rw [← all_zero_toInt, toInt_amount wide words, List.all_eq_false]
  refine ⟨_, (mem_total wide).mpr ⟨j, inside, rfl⟩, ?_⟩
  rw [beq_iff_eq]
  omega

theorem compact_eq_tally {entries : Ledger κ} (wide : Wide n entries) (gaining : Gaining entries)
    (words : ∀ k, Words (total n k entries)) : entries.compact = entries.live.tally := by
  refine List.filter_eq_self.mpr fun e he => ?_
  have known : e.1 ∈ keys entries.live :=
    mem_keys_of_mem_keys_tally (List.mem_map_of_mem he)
  obtain ⟨f, hf, same⟩ := List.mem_map.mp known
  have sum : e.2 = amount n e.1 entries := by
    rw [← amount_of_mem wide.live.tally (nodup_keys_tally _) he, amount_tally wide.live,
      amount_live wide]
  have nonzero := amount_ne_zero wide gaining (words f.1) hf
  rw [sum, ← same, nonzero]
  rfl

/-- Nothing moves when parts are compacted first. -/
theorem compact_append {a b : Ledger κ} (ha : Wide n a) (hb : Wide n b)
    (gaining : Gaining (a ++ b)) (words : ∀ k, Words (total n k (a ++ b))) :
    (a.compact ++ b.compact).compact = (a ++ b).compact := by
  obtain ⟨first, last⟩ := List.forall_mem_append.mp gaining
  have wordsA : ∀ k, Words (total n k a) := fun k => (words_of_append ha hb gaining (words k)).1
  have wordsB : ∀ k, Words (total n k b) := fun k => (words_of_append ha hb gaining (words k)).2
  have live : (a.compact ++ b.compact).live = a.compact ++ b.compact := by
    rw [Ledger.live, List.filter_append]
    exact congrArg₂ (· ++ ·) (live_live _) (live_live _)
  have together : (a ++ b).live = a.live ++ b.live := List.filter_append a b
  rw [compact, live, compact_eq_tally ha first wordsA, compact_eq_tally hb last wordsB,
    tally_tally_append, tally_append_tally ha.live hb.live, ← together]
  rfl

end Ledger

end Profiling
