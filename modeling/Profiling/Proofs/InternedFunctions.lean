import Mathlib.Data.Finset.Card
import Mathlib.Data.Finset.Dedup
import Profiling.Proofs.GainedLines

/-!
# Functions that are interned one after the other

A call is answered with the number of the first function of its names, and functions are only
added at the end, so every later call with the same names gets the same answer. New numbers go on
from the greatest, whatever gaps the numbers before it leave.
-/

namespace Profiling

namespace Function

/-- The names that a function goes by; its first line does not count. -/
def callee (f : Function) : Callee := ⟨f.name, f.systemName, f.filename⟩

theorem isNamed_iff {f : Function} {c : Callee} :
    f.isNamed c.name c.systemName c.filename = true ↔ f.callee = c := by
  obtain ⟨name, systemName, filename⟩ := c
  simp [isNamed, callee, and_assoc]

end Function

namespace Profile

/-- Interns functions in order. Tells the number that each call was answered with, and the profile
that is left. -/
def internAll (p : Profile) : List Callee → List UInt64 × Profile
  | [] => ([], p)
  | c :: cs =>
    let (id, q) := p.internFunction c.name c.systemName c.filename
    let (ids, r) := q.internAll cs
    (id :: ids, r)

/-- The first function of these names. -/
def named? (p : Profile) (c : Callee) : Option Function :=
  p.functions.find? (·.isNamed c.name c.systemName c.filename)

/-- The calls that add a function, each counted once. -/
def newcomers (p : Profile) (cs : List Callee) : Finset Callee :=
  {c ∈ cs.toFinset | c ∉ p.functions.map Function.callee}

variable {p q : Profile}

theorem callee_of_named? {c : Callee} {f : Function} (found : p.named? c = some f) :
    f ∈ p.functions ∧ f.callee = c :=
  ⟨List.mem_of_find?_eq_some found, Function.isNamed_iff.mp (List.find?_some found :)⟩

theorem named?_eq_none_iff {c : Callee} :
    p.named? c = none ↔ c ∉ p.functions.map Function.callee := by
  simp [named?, List.find?_eq_none, Function.isNamed_iff]

theorem named?_mono (more : p.functions <+: q.functions) {c : Callee} {f : Function}
    (found : p.named? c = some f) : q.named? c = some f :=
  more.find?_eq_some found

/-- The function that a call adds if there is none of its names. -/
def newcomer (p : Profile) (c : Callee) : Function :=
  { id := p.maxFunctionId + 1, name := c.name, systemName := c.systemName, filename := c.filename }

theorem callee_newcomer (p : Profile) (c : Callee) : (p.newcomer c).callee = c := rfl

theorem internFunction_cases (p : Profile) (c : Callee) :
    (∃ f, p.named? c = some f ∧
      p.internFunction c.name c.systemName c.filename = (f.id, p)) ∨
    (p.named? c = none ∧ p.internFunction c.name c.systemName c.filename =
      (p.maxFunctionId + 1, { p with functions := p.functions ++ [p.newcomer c] })) := by
  rw [internFunction]
  cases found : p.functions.find? (·.isNamed c.name c.systemName c.filename) with
  | some f => exact Or.inl ⟨f, found, rfl⟩
  | none => exact Or.inr ⟨found, rfl⟩

/-- Whether a call adds a function or not, it is answered with the first one of its names. -/
theorem named?_internFunction (p : Profile) (c : Callee) :
    ∃ f, (p.internFunction c.name c.systemName c.filename).2.named? c = some f ∧
      f.id = (p.internFunction c.name c.systemName c.filename).1 := by
  rcases p.internFunction_cases c with ⟨f, found, run⟩ | ⟨missing, run⟩
  · rw [run]
    exact ⟨f, found, rfl⟩
  · rw [run]
    refine ⟨p.newcomer c, ?_, rfl⟩
    rw [named?] at missing
    have own : (p.newcomer c).isNamed c.name c.systemName c.filename = true :=
      Function.isNamed_iff.mpr (p.callee_newcomer c)
    simp [named?, List.find?_append, missing, own]

/-- The number after the greatest is new as long as it is a word. -/
theorem distinct_newcomer (distinct : Distinct p.functionIds)
    (fits : p.maxFunctionId.toNat + 1 < UInt64.size) (c : Callee) :
    Distinct (p.functionIds ++ [(p.newcomer c).id]) ∧
      ({ p with functions := p.functions ++ [p.newcomer c] } : Profile).maxFunctionId.toNat =
        p.maxFunctionId.toNat + 1 := by
  have number : (p.newcomer c).id.toNat = p.maxFunctionId.toNat + 1 := by
    have one : (1 : UInt64).toNat = 1 := rfl
    rw [newcomer, UInt64.toNat_add, one]
    exact Nat.mod_eq_of_lt fits
  have room : p.RoomFor (p.functions.length + 1) := ⟨distinct.2, by omega⟩
  have next := (roomFor_next room (Nat.lt_succ_self _) (f := p.newcomer c) rfl).distinct
  rw [functionIds, List.map_append, List.map_singleton] at next
  refine ⟨⟨?_, next⟩, ?_⟩
  · rw [List.mem_append, List.mem_singleton]
    rintro (old | new)
    · exact distinct.1 old
    · rw [← new] at number
      simp at number
  · have greatest : max p.maxFunctionId (p.newcomer c).id = (p.newcomer c).id := by
      refine if_pos (UInt64.le_iff_toNat_le.mpr ?_)
      omega
    rw [maxFunctionId_append, greatest, number]

theorem newcomers_known {c : Callee} {f : Function} (known : p.named? c = some f)
    (cs : List Callee) : p.newcomers (c :: cs) = p.newcomers cs := by
  have there : c ∈ p.functions.map Function.callee := by
    obtain ⟨member, rfl⟩ := callee_of_named? known
    exact List.mem_map_of_mem member
  ext d
  simp only [newcomers, List.toFinset_cons, Finset.mem_filter, Finset.mem_insert]
  constructor
  · rintro ⟨rfl | later, new⟩
    · exact absurd there new
    · exact ⟨later, new⟩
  · rintro ⟨later, new⟩
    exact ⟨Or.inr later, new⟩

/-- A call that adds a function is not counted again in what follows. -/
theorem card_newcomers {c : Callee} (missing : p.named? c = none) (cs : List Callee) :
    (p.newcomers (c :: cs)).card =
      (({ p with functions := p.functions ++ [p.newcomer c] } : Profile).newcomers cs).card +
        1 := by
  have new := named?_eq_none_iff.mp missing
  have split : p.newcomers (c :: cs) =
      insert c (({ p with functions := p.functions ++ [p.newcomer c] } : Profile).newcomers
        cs) := by
    ext d
    simp only [newcomers, List.toFinset_cons, List.map_append, List.map_singleton,
      callee_newcomer, Finset.mem_filter, Finset.mem_insert, List.mem_append, List.mem_singleton,
      not_or]
    constructor
    · rintro ⟨rfl | later, fresh⟩
      · exact Or.inl rfl
      · by_cases same : d = c
        · exact Or.inl same
        · exact Or.inr ⟨later, fresh, same⟩
    · rintro (rfl | ⟨later, fresh, -⟩)
      · exact ⟨Or.inl rfl, new⟩
      · exact ⟨Or.inr later, fresh⟩
  rw [split, Finset.card_insert_of_notMem]
  simp [newcomers, callee_newcomer]

theorem internAll_append (p : Profile) (cs ds : List Callee) :
    p.internAll (cs ++ ds) =
      ((p.internAll cs).1 ++ ((p.internAll cs).2.internAll ds).1,
        ((p.internAll cs).2.internAll ds).2) := by
  induction cs generalizing p with
  | nil => rfl
  | cons c cs ih =>
    simp only [List.cons_append, internAll, ih]

/-- A run leaves everything but the functions alone and adds functions at the end only. -/
theorem internAll_frame (p : Profile) (cs : List Callee) :
    (p.internAll cs).2 = { p with functions := (p.internAll cs).2.functions } ∧
      p.functions <+: (p.internAll cs).2.functions := by
  induction cs generalizing p with
  | nil => exact ⟨rfl, List.prefix_rfl⟩
  | cons c cs ih =>
    have step := p.internFunction_spec c.name c.systemName c.filename
    obtain ⟨frame, functions⟩ := ih (p.internFunction c.name c.systemName c.filename).2
    refine ⟨?_, step.functions.trans functions⟩
    rw [internAll]
    dsimp only
    rw [frame, step.frame]

/-- In the profile that a run leaves, each answer is the number of the first function of the names
that were asked for. -/
theorem named?_internAll (p : Profile) (cs : List Callee) :
    List.Forall₂ (fun c id => ∃ f, (p.internAll cs).2.named? c = some f ∧ f.id = id) cs
      (p.internAll cs).1 := by
  induction cs generalizing p with
  | nil => exact .nil
  | cons c cs ih =>
    obtain ⟨f, found, answer⟩ := p.named?_internFunction c
    have later := (internAll_frame (p.internFunction c.name c.systemName c.filename).2 cs).2
    exact .cons ⟨f, named?_mono later found, answer⟩ (ih _)

theorem distinct_internAll (cs : List Callee) (distinct : Distinct p.functionIds)
    (fits : p.maxFunctionId.toNat + (p.newcomers cs).card < UInt64.size) :
    Distinct (p.internAll cs).2.functionIds := by
  induction cs generalizing p with
  | nil => exact distinct
  | cons c cs ih =>
    rw [internAll]
    rcases p.internFunction_cases c with ⟨f, known, run⟩ | ⟨missing, run⟩
    · rw [newcomers_known known] at fits
      rw [run]
      exact ih distinct fits
    · rw [card_newcomers missing] at fits
      obtain ⟨distinct', greatest⟩ := distinct_newcomer distinct (by omega) c
      rw [run]
      refine ih ?_ ?_
      · rw [functionIds, List.map_append]
        exact distinct'
      · rw [greatest]
        omega

/-- A function is found by the number that its names were answered with. -/
theorem function?_of_named? (distinct : Distinct p.functionIds) {c : Callee} {f : Function}
    (found : p.named? c = some f) : p.function? f.id = some f :=
  (find?_eq_some_iff distinct.2).mpr ⟨(callee_of_named? found).1, rfl⟩

/-- On distinct numbers two calls have the same answer just if they ask for the same names. -/
theorem answer_eq_iff (distinct : Distinct p.functionIds) {c d : Callee} {f g : Function}
    (hc : p.named? c = some f) (hd : p.named? d = some g) : f.id = g.id ↔ c = d := by
  constructor
  · intro same
    obtain ⟨hf, rfl⟩ := callee_of_named? hc
    obtain ⟨hg, rfl⟩ := callee_of_named? hd
    rw [List.inj_on_of_nodup_map distinct.2 hf hg same]
  · rintro rfl
    rw [Option.some.inj (hc.symm.trans hd)]

/-- Answers are told apart just as the calls are. -/
theorem answers_eq_iff (distinct : Distinct q.functionIds) {cs : List Callee} {ids : List UInt64}
    (answered : List.Forall₂ (fun c id => ∃ f, q.named? c = some f ∧ f.id = id) cs ids)
    (i j : Nat) : ids[i]? = ids[j]? ↔ cs[i]? = cs[j]? := by
  have at? : ∀ k : Nat, (cs[k]? = none ∧ ids[k]? = none) ∨
      ∃ c f, cs[k]? = some c ∧ ids[k]? = some f.id ∧ q.named? c = some f := by
    intro k
    have same := answered.length_eq
    rcases Nat.lt_or_ge k cs.length with inside | outside
    · obtain ⟨f, found, answer⟩ := answered.get inside (same ▸ inside)
      refine Or.inr ⟨cs[k], f, List.getElem?_eq_getElem inside, ?_, found⟩
      rw [List.getElem?_eq_getElem (same ▸ inside), answer]
      rfl
    · exact Or.inl ⟨List.getElem?_eq_none outside, List.getElem?_eq_none (same ▸ outside)⟩
  rcases at? i with ⟨hi, hi'⟩ | ⟨c, f, hi, hi', hf⟩
  · rcases at? j with ⟨hj, hj'⟩ | ⟨d, g, hj, hj', hg⟩
    · simp [hi, hi', hj, hj']
    · simp [hi, hi', hj, hj']
  · rcases at? j with ⟨hj, hj'⟩ | ⟨d, g, hj, hj', hg⟩
    · simp [hi, hi', hj, hj']
    · rw [hi, hi', hj, hj', Option.some_inj, Option.some_inj, answer_eq_iff distinct hf hg]

/-- However many functions are interned, those of the profile stay in front as they were, and no
number is zero or used twice. Whenever one looks, the answers so far find functions of the names
that were asked for, the same ones as after all further calls, and two calls have the same answer
just if they ask for the same names. There have to be words enough to number the functions that
are added. -/
theorem internAll_stable (p : Profile) (cs : List Callee) (distinct : Distinct p.functionIds)
    (fits : p.maxFunctionId.toNat + (p.newcomers cs).card < UInt64.size) :
    p.functions <+: (p.internAll cs).2.functions ∧
    Distinct (p.internAll cs).2.functionIds ∧
    (∀ early late, cs = early ++ late →
      (p.internAll early).1 <+: (p.internAll cs).1 ∧
      List.Forall₂ (fun c id => ∃ f, (p.internAll early).2.function? id = some f ∧
        (p.internAll cs).2.function? id = some f ∧ f.callee = c) early (p.internAll early).1) ∧
    ∀ i j : Nat, (p.internAll cs).1[i]? = (p.internAll cs).1[j]? ↔ cs[i]? = cs[j]? := by
  have distinct' := distinct_internAll cs distinct fits
  refine ⟨(internAll_frame p cs).2, distinct', ?_,
    answers_eq_iff distinct' (named?_internAll p cs)⟩
  rintro early late rfl
  rw [internAll_append] at distinct' ⊢
  refine ⟨List.prefix_append _ _, (named?_internAll p early).imp fun c id answered => ?_⟩
  obtain ⟨f, found, rfl⟩ := answered
  have more := (internAll_frame (p.internAll early).2 late).2
  have so_far : Distinct (p.internAll early).2.functionIds :=
    ⟨fun zero => distinct'.1 ((more.map Function.id).subset zero),
      distinct'.2.sublist (more.map Function.id).sublist⟩
  exact ⟨f, function?_of_named? so_far found,
    function?_of_named? distinct' (named?_mono more found), (callee_of_named? found).2⟩

def nearlyNumbered : Profile where
  functions := [{ id := 18446744073709551613, name := "main", startLine := 3 },
    { id := 7, name := "main", startLine := 9 }]

theorem internAll_stable_nearlyNumbered :
    let calls : List Callee := [⟨"run", "run", "a.c"⟩, ⟨"main", "", ""⟩, ⟨"run", "run", "b.c"⟩,
      ⟨"run", "run", "a.c"⟩]
    (nearlyNumbered.internAll calls).1 =
      [18446744073709551614, 18446744073709551613, 18446744073709551615, 18446744073709551614] ∧
    Distinct (nearlyNumbered.internAll calls).2.functionIds := by
  intro calls
  exact ⟨by decide, (internAll_stable nearlyNumbered calls ⟨by decide, by decide⟩ (by decide)).2.1⟩

end Profile

end Profiling
