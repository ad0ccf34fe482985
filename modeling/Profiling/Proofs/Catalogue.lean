import Mathlib.Data.List.Nodup
import Mathlib.Data.List.Perm.Subperm
import Profiling.Merge

/-!
# Catalogues

The parts of a merged profile are numbered from one, and a table finds the number
of a part by its key. A part joins the catalogue only when its key is new.
-/

namespace Profiling

/-- On distinct numbers it does not matter from which end a part is looked up. -/
theorem find?_eq_some_iff {id : α → UInt64} {xs : List α} (distinct : (xs.map id).Nodup)
    {n : UInt64} {x : α} : xs.find? (id · == n) = some x ↔ x ∈ xs ∧ id x = n := by
  constructor
  · intro h
    exact ⟨List.mem_of_find?_eq_some h, by simpa using List.find?_some h⟩
  · rintro ⟨member, rfl⟩
    cases found : xs.find? (id · == id x) with
    | none => simpa using List.find?_eq_none.mp found x member
    | some y =>
      have same : id y = id x := by simpa using List.find?_some found
      rw [List.inj_on_of_nodup_map distinct (List.mem_of_find?_eq_some found) member same]

/-- The number of a new part finds it. -/
theorem find?_append_new {id : α → UInt64} {xs : List α} {x : α}
    (distinct : ((xs ++ [x]).map id).Nodup) : (xs ++ [x]).find? (id · == id x) = some x :=
  (find?_eq_some_iff distinct).mpr ⟨by simp, rfl⟩

theorem lastWith_eq_find? {id : α → UInt64} {xs : List α} (distinct : (xs.map id).Nodup)
    (n : UInt64) : Merge.lastWith id n xs = xs.find? (id · == n) := by
  have turned : (xs.reverse.map id).Nodup := by simpa using distinct
  ext x
  simp only [Merge.lastWith, ← Bool.beq_eq_decide_eq]
  rw [find?_eq_some_iff turned, find?_eq_some_iff distinct, List.mem_reverse]

/-- The numbers are 1, 2 and so on, in order. -/
def Numbered (ids : List UInt64) : Prop := ids.map UInt64.toNat = List.range' 1 ids.length

namespace Numbered

theorem nil : Numbered [] := rfl

theorem nodup {ids : List UInt64} (h : Numbered ids) : ids.Nodup := by
  have : (ids.map UInt64.toNat).Nodup := h ▸ List.nodup_range'
  exact this.of_map

theorem zero_not_mem {ids : List UInt64} (h : Numbered ids) : 0 ∉ ids := by
  intro zero
  have : (0 : UInt64).toNat ∈ List.range' 1 ids.length := h ▸ List.mem_map_of_mem zero
  simp at this

theorem toNat_getElem {ids : List UInt64} (h : Numbered ids) (i : Nat) (hi : i < ids.length) :
    ids[i].toNat = i + 1 := by
  have := congrArg (·[i]?) h
  simp only [List.getElem?_map, List.getElem?_eq_getElem hi, Option.map_some,
    List.getElem?_range' hi] at this
  simpa [Nat.add_comm] using this

theorem toNat_le {ids : List UInt64} (h : Numbered ids) {id : UInt64} (member : id ∈ ids) :
    id.toNat ≤ ids.length := by
  obtain ⟨i, hi, rfl⟩ := List.getElem_of_mem member
  have place := h.toNat_getElem i hi
  omega

/-- Numbers are words, so there are fewer of them than words. -/
theorem length_lt {ids : List UInt64} (h : Numbered ids) : ids.length < UInt64.size := by
  cases Nat.eq_zero_or_pos ids.length with
  | inl none => simp [none, UInt64.size]
  | inr some_id =>
    have last := h.toNat_getElem (ids.length - 1) (by omega)
    have small := ids[ids.length - 1].toNat_lt_size
    omega

theorem toNat_idAt {i : Nat} (small : i + 1 < UInt64.size) : (Merge.idAt i).toNat = i + 1 := by
  have h1 : i % UInt64.size = i := Nat.mod_eq_of_lt (by omega)
  simp only [UInt64.size] at small h1
  simp only [Merge.idAt, Nat.toUInt64, UInt64.toNat_add, UInt64.toNat_ofNat', UInt64.toNat_one]
  omega

theorem append {ids : List UInt64} (h : Numbered ids) (small : ids.length + 1 < UInt64.size) :
    Numbered (ids ++ [Merge.idAt ids.length]) := by
  simp only [Numbered, List.map_append, List.map_cons, List.map_nil, List.length_append,
    List.length_cons, List.length_nil, toNat_idAt small]
  rw [show ids.map UInt64.toNat = _ from h, List.range'_concat, Nat.one_mul, Nat.add_comm 1]

theorem of_append {ids others : List UInt64} (h : Numbered (ids ++ others)) : Numbered ids := by
  have all : ids.map UInt64.toNat ++ others.map UInt64.toNat =
      List.range' 1 ids.length ++ List.range' (1 + ids.length) others.length := by
    rw [← List.map_append, List.range'_append_1, ← List.length_append]
    exact h
  exact (List.append_inj all (by rw [List.length_map, List.length_range'])).1

/-- A part stands at the place that its number tells. -/
theorem getElem?_of_find? {id : α → UInt64} {xs : List α} (h : Numbered (xs.map id))
    {n : UInt64} {x : α} (found : xs.find? (id · == n) = some x) :
    xs[(n - 1).toNat]? = some x := by
  obtain ⟨member, rfl⟩ := (find?_eq_some_iff h.nodup).mp found
  obtain ⟨i, hi, rfl⟩ := List.getElem_of_mem member
  have place := h.toNat_getElem i (by simpa using hi)
  rw [List.getElem_map] at place
  have : (id xs[i] - 1).toNat = i := by
    rw [UInt64.toNat_sub_of_le _ _ (by rw [UInt64.le_iff_toNat_le]; simp; omega)]
    simp [place]
  rw [this, List.getElem?_eq_getElem hi]

end Numbered

theorem forall_mem_append_singleton {p : α → Prop} {xs : List α} {x : α} (old : ∀ y ∈ xs, p y)
    (new : p x) : ∀ y ∈ xs ++ [x], p y := by
  simpa [or_imp, forall_and] using ⟨old, new⟩

/-- Parts with different keys are no more than the keys to choose from. -/
theorem length_le_of_drawn {key : α → β} {xs : List α} {stock : List β}
    (distinct : (xs.map key).Nodup) (drawn : ∀ x ∈ xs, key x ∈ stock) :
    xs.length ≤ stock.length := by
  have subset : xs.map key ⊆ stock := by
    intro y hy
    obtain ⟨x, hx, rfl⟩ := List.mem_map.mp hy
    exact drawn x hx
  simpa using (List.subperm_of_subset distinct subset).length_le

/-- With a key that none of the parts has, a stock of keys holds more than the parts. -/
theorem length_lt_of_new {key : α → β} {xs : List α} {stock : List β}
    (distinct : (xs.map key).Nodup) (drawn : ∀ x ∈ xs, key x ∈ stock) {new : β}
    (member : new ∈ stock) (fresh : ∀ x ∈ xs, key x ≠ new) : xs.length < stock.length := by
  have nodup : (new :: xs.map key).Nodup := by
    refine List.nodup_cons.mpr ⟨?_, distinct⟩
    rw [List.mem_map]
    rintro ⟨x, hx, same⟩
    exact fresh x hx same
  have subset : new :: xs.map key ⊆ stock := by
    intro y hy
    rcases List.mem_cons.mp hy with rfl | hy
    · exact member
    · obtain ⟨x, hx, rfl⟩ := List.mem_map.mp hy
      exact drawn x hx
  have := (List.subperm_of_subset nodup subset).length_le
  simpa [Nat.succ_le_iff] using this

theorem lookup_cons_eq_some {κ : Type} [DecidableEq κ] {k k' : κ} {v w : ν}
    {table : List (κ × ν)} (h : ((k, v) :: table).lookup k' = some w) :
    (k' = k ∧ v = w) ∨ table.lookup k' = some w := by
  rw [List.lookup_cons] at h
  cases same : k' == k with
  | true => exact Or.inl ⟨by simpa using same, by simpa [same] using h⟩
  | false => exact Or.inr (by simpa [same] using h)

structure Catalogue [DecidableEq κ] (table : List (κ × UInt64)) (key : α → κ) (id : α → UInt64)
    (xs : List α) : Prop where
  numbered : Numbered (xs.map id)
  finds : ∀ k n, table.lookup k = some n ↔ ∃ x ∈ xs, key x = k ∧ id x = n

namespace Catalogue

variable [DecidableEq κ] {table : List (κ × UInt64)} {key : α → κ} {id : α → UInt64}
  {xs : List α}

theorem empty : Catalogue (κ := κ) [] key id [] := ⟨.nil, by simp⟩

theorem toNat_last {x : α} (h : Catalogue table key id (xs ++ [x])) :
    (id x).toNat = xs.length + 1 := by
  have place := h.numbered.toNat_getElem xs.length (by simp)
  simpa using place

theorem find?_of_lookup (h : Catalogue table key id xs) {k : κ} {n : UInt64}
    (found : table.lookup k = some n) : ∃ x, xs.find? (id · == n) = some x ∧ key x = k := by
  obtain ⟨x, member, hk, hn⟩ := (h.finds k n).mp found
  exact ⟨x, (find?_eq_some_iff h.numbered.nodup).mpr ⟨member, hn⟩, hk⟩

theorem key_ne_of_lookup (h : Catalogue table key id xs) {k : κ} (missing : table.lookup k = none) :
    ∀ x ∈ xs, key x ≠ k := by
  intro x member same
  rw [(h.finds k (id x)).mpr ⟨x, member, same, rfl⟩] at missing
  cases missing

theorem eq_of_key_eq (h : Catalogue table key id xs) {x y : α} (hx : x ∈ xs) (hy : y ∈ xs)
    (same : key x = key y) : x = y := by
  have atX := (h.finds (key x) (id x)).mpr ⟨x, hx, rfl, rfl⟩
  have atY := (h.finds (key x) (id y)).mpr ⟨y, hy, same.symm, rfl⟩
  exact List.inj_on_of_nodup_map h.numbered.nodup hx hy (Option.some.inj (atX.symm.trans atY))

theorem nodup_keys (h : Catalogue table key id xs) : (xs.map key).Nodup :=
  h.numbered.nodup.of_map.map_on fun _ hx _ hy => h.eq_of_key_eq hx hy

theorem congr {key' : α → κ} (h : Catalogue table key id xs) (same : ∀ x ∈ xs, key x = key' x) :
    Catalogue table key' id xs := by
  refine ⟨h.numbered, fun k n => (h.finds k n).trans ?_⟩
  constructor
  · rintro ⟨x, hx, hk, hn⟩
    exact ⟨x, hx, (same x hx) ▸ hk, hn⟩
  · rintro ⟨x, hx, hk, hn⟩
    exact ⟨x, hx, (same x hx).trans hk, hn⟩

theorem append (h : Catalogue table key id xs) {x : α} (missing : table.lookup (key x) = none)
    (next : id x = Merge.idAt xs.length) (small : xs.length + 1 < UInt64.size) :
    Catalogue ((key x, id x) :: table) key id (xs ++ [x]) := by
  constructor
  · have := h.numbered.append (by simpa using small)
    simpa [next] using this
  intro k n
  have old : (∃ y ∈ xs ++ [x], key y = k ∧ id y = n) ↔
      (∃ y ∈ xs, key y = k ∧ id y = n) ∨ (key x = k ∧ id x = n) := by
    simp only [List.mem_append, List.mem_singleton, or_and_right, exists_or, exists_eq_left]
  rw [old, ← h.finds k n, List.lookup_cons]
  by_cases hk : k = key x
  · subst hk
    simp [missing]
  · have other : (k == key x) = false := by simpa using hk
    simp [other, Ne.symm hk]

/-- A part whose key comes from a stock can be numbered as long as the stock can. -/
theorem append_drawn (h : Catalogue table key id xs) {x : α} {stock : List κ}
    (missing : table.lookup (key x) = none) (next : id x = Merge.idAt xs.length)
    (small : stock.length < UInt64.size) (drawn : ∀ y ∈ xs, key y ∈ stock)
    (member : key x ∈ stock) :
    Catalogue ((key x, id x) :: table) key id (xs ++ [x]) ∧ ∀ y ∈ xs ++ [x], key y ∈ stock := by
  have room : xs.length < stock.length :=
    length_lt_of_new h.nodup_keys drawn member (h.key_ne_of_lookup missing)
  exact ⟨h.append missing next (Nat.lt_of_le_of_lt room small),
    forall_mem_append_singleton drawn member⟩

end Catalogue

end Profiling
