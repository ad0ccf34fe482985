import Mathlib.Data.List.Induction
import Mathlib.Data.List.Nodup
import Profiling.Merge

/-!
# Tallies

Values under keys are added up key by key, and the keys keep the order in which they
first come. Sums of words wrap around, so they do not depend on how they are grouped.
-/

namespace Profiling

open Merge (addValues)

theorem length_addValues {vs ws : List Int64} (same : vs.length = ws.length) :
    (addValues vs ws).length = vs.length := by
  induction vs generalizing ws with
  | nil => cases ws <;> rfl
  | cons v vs ih =>
    cases ws with
    | nil => rfl
    | cons w ws => simp [addValues, ih (by simpa using same)]

theorem addValues_comm {vs ws : List Int64} (same : vs.length = ws.length) :
    addValues vs ws = addValues ws vs := by
  induction vs generalizing ws with
  | nil => rw [List.length_eq_zero_iff.mp same.symm]
  | cons v vs ih =>
    cases ws with
    | nil => cases same
    | cons w ws => simp [addValues, ih (by simpa using same), Int64.add_comm v w]

theorem addValues_assoc {us vs ws : List Int64} (first : us.length = vs.length)
    (second : vs.length = ws.length) :
    addValues (addValues us vs) ws = addValues us (addValues vs ws) := by
  induction us generalizing vs ws with
  | nil =>
    obtain rfl := List.length_eq_zero_iff.mp first.symm
    obtain rfl := List.length_eq_zero_iff.mp second.symm
    rfl
  | cons u us ih =>
    cases vs with
    | nil => cases first
    | cons v vs =>
      cases ws with
      | nil => cases second
      | cons w ws =>
        simp only [addValues, ih (Nat.succ.inj first) (Nat.succ.inj second), Int64.add_assoc]

theorem addValues_zeros (vs : List Int64) : addValues vs (List.replicate vs.length 0) = vs := by
  induction vs with
  | nil => rfl
  | cons v vs ih => simp [List.replicate_succ, addValues, ih]

theorem zeros_addValues (vs : List Int64) : addValues (List.replicate vs.length 0) vs = vs := by
  rw [addValues_comm (by simp), addValues_zeros]

theorem eq_zeros_of_all {vs : List Int64} (zero : vs.all (· == 0)) :
    vs = List.replicate vs.length 0 := by
  rw [List.eq_replicate_iff]
  exact ⟨rfl, fun v hv => by simpa using List.all_eq_true.mp zero v hv⟩

/-- Values under keys. -/
abbrev Ledger (κ : Type) := List (κ × List Int64)

namespace Ledger

variable {κ : Type}

/-- The entries that are not zero throughout. -/
def live (entries : Ledger κ) : Ledger κ := entries.filter fun e => !e.2.all (· == 0)

def keys (entries : Ledger κ) : List κ := entries.map Prod.fst

def Wide (n : Nat) (entries : Ledger κ) : Prop := ∀ e ∈ entries, e.2.length = n

theorem wide_cons {n : Nat} {e : κ × List Int64} {entries : Ledger κ} :
    Wide n (e :: entries) ↔ e.2.length = n ∧ Wide n entries := List.forall_mem_cons

theorem wide_append {n : Nat} {a b : Ledger κ} : Wide n (a ++ b) ↔ Wide n a ∧ Wide n b :=
  List.forall_mem_append

theorem Wide.live {n : Nat} {entries : Ledger κ} (h : Wide n entries) : Wide n entries.live :=
  fun e he => h e (List.mem_filter.mp he).1

theorem live_live (entries : Ledger κ) : entries.live.live = entries.live := by
  simp [live, List.filter_filter]

theorem nodup_keys_live {entries : Ledger κ} (distinct : entries.keys.Nodup) :
    (keys entries.live).Nodup :=
  distinct.sublist (List.filter_sublist.map _)

variable [DecidableEq κ]

/-- Adds values to the entry of their key, or makes an entry. -/
def post : Ledger κ → κ × List Int64 → Ledger κ
  | [], e => [e]
  | (k, vs) :: rest, e =>
    if k = e.1 then (k, addValues vs e.2) :: rest else (k, vs) :: post rest e

def tally (entries : Ledger κ) : Ledger κ := entries.foldl post []

/-- The sum of all values of a key, of which there are `n` in each entry. -/
def amount (n : Nat) (k : κ) : Ledger κ → List Int64
  | [] => List.replicate n 0
  | e :: rest => if e.1 = k then addValues e.2 (amount n k rest) else amount n k rest

theorem length_amount {n : Nat} {k : κ} {entries : Ledger κ} (wide : Wide n entries) :
    (amount n k entries).length = n := by
  induction entries with
  | nil => simp [amount]
  | cons e rest ih =>
    obtain ⟨head, tail⟩ := wide_cons.mp wide
    by_cases h : e.1 = k
    · simp [amount, h, length_addValues (head.trans (ih tail).symm), head]
    · simp [amount, h, ih tail]

theorem zeros_add_amount {n : Nat} {k : κ} {entries : Ledger κ} (wide : Wide n entries) :
    addValues (List.replicate n 0) (amount n k entries) = amount n k entries := by
  have := zeros_addValues (amount n k entries)
  rwa [length_amount wide] at this

theorem amount_append {n : Nat} {k : κ} {a b : Ledger κ} (ha : Wide n a) (hb : Wide n b) :
    amount n k (a ++ b) = addValues (amount n k a) (amount n k b) := by
  induction a with
  | nil => exact (zeros_add_amount hb).symm
  | cons e rest ih =>
    obtain ⟨head, tail⟩ := wide_cons.mp ha
    by_cases h : e.1 = k
    · simp only [List.cons_append, amount, h, if_true, ih tail]
      rw [addValues_assoc] <;> simp [length_amount, tail, hb, head]
    · simp [amount, h, ih tail]

/-- Zeros add nothing. -/
theorem amount_live {n : Nat} {k : κ} {entries : Ledger κ} (wide : Wide n entries) :
    amount n k entries.live = amount n k entries := by
  induction entries with
  | nil => rfl
  | cons e rest ih =>
    obtain ⟨head, tail⟩ := wide_cons.mp wide
    cases zero : e.2.all (· == 0) with
    | false => simp only [live, List.filter_cons, zero, Bool.not_false, if_true, amount, ← ih tail]
    | true =>
      have nothing : addValues e.2 (amount n k rest) = amount n k rest := by
        rw [eq_zeros_of_all zero, head, zeros_add_amount tail]
      simp only [live, List.filter_cons, zero, Bool.not_true, amount, nothing, ite_self]
      exact ih tail

theorem keys_post (entries : Ledger κ) (e : κ × List Int64) :
    keys (post entries e) = if e.1 ∈ entries.keys then entries.keys else entries.keys ++ [e.1] := by
  induction entries with
  | nil => simp [post, keys]
  | cons f rest ih =>
    simp only [keys] at ih ⊢
    by_cases h : f.1 = e.1
    · simp [post, h]
    · by_cases known : e.1 ∈ rest.map Prod.fst
      · simp [post, h, Ne.symm h, ih, known]
      · simp [post, h, Ne.symm h, ih, known]

theorem nodup_keys_post {entries : Ledger κ} (distinct : entries.keys.Nodup) (e : κ × List Int64) :
    (keys (post entries e)).Nodup := by
  rw [keys_post]
  split
  · exact distinct
  · rename_i new
    exact List.Nodup.append distinct (List.nodup_singleton _)
      (List.disjoint_singleton.mpr new)

theorem post_of_not_mem {entries : Ledger κ} {e : κ × List Int64} (new : e.1 ∉ entries.keys) :
    post entries e = entries ++ [e] := by
  induction entries with
  | nil => rfl
  | cons f rest ih =>
    simp only [keys, List.map_cons, List.mem_cons, not_or] at new
    simp [post, Ne.symm new.1, ih new.2]

theorem post_of_getElem? {entries : Ledger κ} (distinct : entries.keys.Nodup)
    {e f : κ × List Int64} {i : Nat} (here : entries[i]? = some f) (same : f.1 = e.1) :
    post entries e = entries.modify i fun f => (f.1, addValues f.2 e.2) := by
  induction entries generalizing i with
  | nil => cases here
  | cons g rest ih =>
    simp only [keys, List.map_cons, List.nodup_cons] at distinct
    cases i with
    | zero =>
      obtain rfl : g = f := by simpa using here
      simp [post, same]
    | succ i =>
      have member : f ∈ rest := List.mem_of_getElem? (by simpa using here)
      have other : g.1 ≠ e.1 := fun h =>
        distinct.1 (h.trans same.symm ▸ List.mem_map_of_mem member)
      simp [post, other, ih distinct.2 (by simpa using here)]

theorem Wide.post {n : Nat} {entries : Ledger κ} (wide : Wide n entries) {e : κ × List Int64}
    (he : e.2.length = n) : Wide n (post entries e) := by
  induction entries with
  | nil => simpa [Wide, Ledger.post] using he
  | cons f rest ih =>
    obtain ⟨head, tail⟩ := wide_cons.mp wide
    by_cases h : f.1 = e.1
    · simp only [Ledger.post, h, if_true, wide_cons]
      exact ⟨(length_addValues (head.trans he.symm)).trans head, tail⟩
    · simp only [Ledger.post, h, if_false, wide_cons]
      exact ⟨head, ih tail⟩

/-- Posting comes to the same as appending. -/
theorem amount_post {n : Nat} {k : κ} {entries : Ledger κ} (wide : Wide n entries)
    {e : κ × List Int64} (he : e.2.length = n) :
    amount n k (post entries e) = amount n k (entries ++ [e]) := by
  have one : Wide n [e] := by simpa [Wide] using he
  induction entries with
  | nil => rfl
  | cons f rest ih =>
    obtain ⟨head, tail⟩ := wide_cons.mp wide
    by_cases h : f.1 = e.1
    · have behind : amount n k (rest ++ [e]) = amount n k (e :: rest) := by
        rw [amount_append tail one, addValues_comm (by rw [length_amount tail, length_amount one]),
          ← amount_append one tail, List.singleton_append]
      by_cases hk : e.1 = k
      · simp only [post, h, if_true, List.cons_append, amount, hk, behind]
        exact addValues_assoc (head.trans he.symm) (he.trans (length_amount tail).symm)
      · simp [post, h, amount, hk, behind]
    · simp [post, h, amount, ih tail]

theorem tally_append (a b : Ledger κ) : tally (a ++ b) = b.foldl post (tally a) := by
  simp [tally]

theorem nodup_keys_tally (entries : Ledger κ) : (tally entries).keys.Nodup := by
  induction entries using List.reverseRecOn with
  | nil => exact List.nodup_nil
  | append_singleton entries e ih =>
    rw [tally_append]
    exact nodup_keys_post ih e

theorem Wide.tally {n : Nat} {entries : Ledger κ} (wide : Wide n entries) :
    Wide n entries.tally := by
  induction entries using List.reverseRecOn with
  | nil => simp [Wide, Ledger.tally]
  | append_singleton entries e ih =>
    rw [wide_append] at wide
    rw [tally_append]
    exact (ih wide.1).post (wide.2 e (List.mem_singleton_self e))

theorem amount_tally {n : Nat} {k : κ} {entries : Ledger κ} (wide : Wide n entries) :
    amount n k entries.tally = amount n k entries := by
  induction entries using List.reverseRecOn with
  | nil => rfl
  | append_singleton entries e ih =>
    rw [wide_append] at wide
    have he : e.2.length = n := wide.2 e (List.mem_singleton_self e)
    rw [tally_append, List.foldl_cons, List.foldl_nil, amount_post wide.1.tally he,
      amount_append wide.1.tally wide.2, ih wide.1, ← amount_append wide.1 wide.2]

/-- A ledger in which no key comes twice is its own tally. -/
theorem tally_of_nodup {entries : Ledger κ} (distinct : entries.keys.Nodup) :
    entries.tally = entries := by
  induction entries using List.reverseRecOn with
  | nil => rfl
  | append_singleton entries e ih =>
    simp only [keys, List.map_append, List.map_cons, List.map_nil, List.nodup_append] at distinct
    have new : e.1 ∉ keys entries := fun h => distinct.2.2 e.1 h e.1 (by simp) rfl
    rw [tally_append, ih distinct.1, List.foldl_cons, List.foldl_nil, post_of_not_mem new]

theorem amount_of_not_mem {n : Nat} {k : κ} {entries : Ledger κ} (missing : k ∉ entries.keys) :
    amount n k entries = List.replicate n 0 := by
  induction entries with
  | nil => rfl
  | cons e rest ih =>
    simp only [keys, List.map_cons, List.mem_cons, not_or] at missing
    simp [amount, Ne.symm missing.1, ih missing.2]

def valuesOf (k : κ) (entries : Ledger κ) : List (List Int64) :=
  (entries.filter (·.1 = k)).map Prod.snd

theorem valuesOf_of_not_mem {k : κ} {entries : Ledger κ} (missing : k ∉ entries.keys) :
    valuesOf k entries = [] := by
  simp only [valuesOf, List.map_eq_nil_iff, List.filter_eq_nil_iff, decide_eq_true_eq]
  intro e he same
  exact missing (same ▸ List.mem_map_of_mem he)

/-- Where no key comes twice and no entry is zero, a key has one entry or none, as its
sum tells. -/
theorem valuesOf_eq {n : Nat} {entries : Ledger κ} (wide : Wide n entries)
    (distinct : entries.keys.Nodup) (nonzero : ∀ e ∈ entries, e.2.all (· == 0) = false) (k : κ) :
    valuesOf k entries =
      if (amount n k entries).all (· == 0) then [] else [amount n k entries] := by
  induction entries with
  | nil => simp [valuesOf, amount]
  | cons e rest ih =>
    obtain ⟨head, tail⟩ := wide_cons.mp wide
    simp only [keys, List.map_cons, List.nodup_cons] at distinct
    by_cases h : e.1 = k
    · have missing : k ∉ keys rest := h ▸ distinct.1
      have only : amount n k (e :: rest) = e.2 := by
        simp [amount, h, amount_of_not_mem missing, ← head, addValues_zeros]
      have := valuesOf_of_not_mem missing
      simp only [only, nonzero e List.mem_cons_self]
      simpa [valuesOf, h] using this
    · have := ih tail distinct.2 fun f hf => nonzero f (List.mem_cons_of_mem _ hf)
      simpa [valuesOf, amount, h] using this

/-- The tally of the entries that are not zero, again without zeros. -/
def compact (entries : Ledger κ) : Ledger κ := entries.live.tally.live

theorem Wide.compact {n : Nat} {entries : Ledger κ} (wide : Wide n entries) :
    Wide n entries.compact :=
  wide.live.tally.live

theorem nodup_keys_compact (entries : Ledger κ) : (keys entries.compact).Nodup :=
  nodup_keys_live (nodup_keys_tally _)

theorem compact_compact (entries : Ledger κ) : entries.compact.compact = entries.compact := by
  have live : entries.compact.live = entries.compact := live_live _
  rw [compact, live, tally_of_nodup (nodup_keys_compact entries), live]

theorem amount_compact {n : Nat} {entries : Ledger κ} (wide : Wide n entries) (k : κ) :
    amount n k entries.compact = amount n k entries := by
  rw [compact, amount_live wide.live.tally, amount_tally wide.live, amount_live wide]

theorem valuesOf_compact {n : Nat} {entries : Ledger κ} (wide : Wide n entries) (k : κ) :
    valuesOf k entries.compact =
      if (amount n k entries).all (· == 0) then [] else [amount n k entries] := by
  rw [← amount_compact wide]
  refine valuesOf_eq wide.compact (nodup_keys_compact entries) (fun e he => ?_) k
  simpa using (List.mem_filter.mp he).2

/-- The sum of all values of a key in whole numbers. -/
def total (n : Nat) (k : κ) : Ledger κ → List Int
  | [] => List.replicate n 0
  | e :: rest =>
    if e.1 = k then List.zipWith (fun v sum => v.toInt + sum) e.2 (total n k rest)
    else total n k rest

theorem length_total {n : Nat} {k : κ} {entries : Ledger κ} (wide : Wide n entries) :
    (total n k entries).length = n := by
  induction entries with
  | nil => simp [total]
  | cons e rest ih =>
    obtain ⟨head, tail⟩ := wide_cons.mp wide
    by_cases h : e.1 = k
    · simp [total, h, head, ih tail]
    · simp [total, h, ih tail]

theorem total_of_not_mem {n : Nat} {k : κ} {entries : Ledger κ} (missing : k ∉ entries.keys) :
    total n k entries = List.replicate n 0 := by
  induction entries with
  | nil => rfl
  | cons e rest ih =>
    simp only [keys, List.map_cons, List.mem_cons, not_or] at missing
    simp [total, Ne.symm missing.1, ih missing.2]

theorem addValues_ofInt {vs : List Int64} {sums : List Int} (same : vs.length = sums.length) :
    addValues vs (sums.map Int64.ofInt) =
      (List.zipWith (fun v sum => v.toInt + sum) vs sums).map Int64.ofInt := by
  induction vs generalizing sums with
  | nil => rw [List.length_eq_zero_iff.mp same.symm]; rfl
  | cons v vs ih =>
    cases sums with
    | nil => cases same
    | cons x sums => simp [addValues, ih (Nat.succ.inj same), Int64.ofInt_add]

/-- Words add up to the whole sum, wrapped around. -/
theorem amount_eq_total {n : Nat} {k : κ} {entries : Ledger κ} (wide : Wide n entries) :
    amount n k entries = (total n k entries).map Int64.ofInt := by
  induction entries with
  | nil => simp [amount, total]
  | cons e rest ih =>
    obtain ⟨head, tail⟩ := wide_cons.mp wide
    by_cases h : e.1 = k
    · simp only [amount, total, h, if_true, ih tail]
      exact addValues_ofInt (head.trans (length_total tail).symm)
    · simp only [amount, total, h, if_false, ih tail]

def Words (xs : List Int) : Prop :=
  ∀ x ∈ xs, Int64.minValue.toInt ≤ x ∧ x ≤ Int64.maxValue.toInt

instance (xs : List Int) : Decidable (Words xs) :=
  inferInstanceAs (Decidable (∀ x ∈ xs, _))

theorem toInt_amount {n : Nat} {k : κ} {entries : Ledger κ} (wide : Wide n entries)
    (words : Words (total n k entries)) :
    (amount n k entries).map Int64.toInt = total n k entries := by
  rw [amount_eq_total wide, List.map_map]
  refine (List.map_congr_left fun x hx => ?_).trans (List.map_id _)
  obtain ⟨low, high⟩ := words x hx
  have limit : Int64.maxValue.toInt = 9223372036854775807 := rfl
  exact Int64.toInt_ofInt_of_le low (by omega)

theorem all_zero_toInt (vs : List Int64) :
    (vs.map Int64.toInt).all (· == 0) = vs.all (· == 0) := by
  have same : ∀ v : Int64, (v.toInt == 0) = (v == 0) := by
    intro v
    rw [Bool.eq_iff_iff, beq_iff_eq, beq_iff_eq, ← Int64.toInt_inj, Int64.toInt_zero]
  simp only [List.all_map, Function.comp_def, same]

end Ledger

end Profiling
