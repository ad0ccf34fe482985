import Mathlib.Data.String.Basic
import Profiling.Prune

/-!
# Names without their arguments

The arguments of a name start at its first parenthesis that is not part of the name itself. A scan
by offsets in bytes, which goes on behind the parentheses that are part of a name, cuts only between
characters, takes at most one turn for each parenthesis and one more, and finds the same place as
passing the characters one by one.
-/

namespace Profiling

open String (utf8Len)

/-- The arguments start between the two parts of a name. -/
structure OpensArguments (before behind : List Char) : Prop where
  opens : ['('] <+: behind
  notAnonymous : ¬"(anonymous namespace)".toList <+: behind
  notOperator : ¬("operator".toList <:+ before ∧ "()".toList <+: behind)

/-- A name up to its first arguments, or all of it if there are none. -/
inductive Shortened (name : List Char) : List Char → Prop
  | cut {before behind : List Char} : name = before ++ behind → OpensArguments before behind →
    (∀ before' behind', name = before' ++ behind' → OpensArguments before' behind' →
      before.length ≤ before'.length) → Shortened name before
  | whole : (∀ before behind, name = before ++ behind → ¬OpensArguments before behind) →
    Shortened name name

theorem Shortened.unique {name plain plain' : List Char} (h : Shortened name plain)
    (h' : Shortened name plain') : plain = plain' := by
  cases h with
  | whole none =>
    cases h' with
    | whole => rfl
    | cut split opens => exact absurd opens (none _ _ split)
  | cut split opens first =>
    cases h' with
    | whole none => exact absurd opens (none _ _ split)
    | cut split' opens' first' =>
      have long : plain.length = plain'.length :=
        Nat.le_antisymm (first _ _ split' opens') (first' _ _ split opens)
      exact (List.append_inj (split.symm.trans split') long).1

/-- No arguments start within the first part. -/
def Passed (done rest : List Char) : Prop :=
  ∀ before behind, done ++ rest = before ++ behind → before.length < done.length →
    ¬OpensArguments before behind

namespace Passed

variable {done mid rest : List Char} {c : Char}

theorem nil (cs : List Char) : Passed [] cs :=
  fun _ _ _ short => absurd short (Nat.not_lt_zero _)

theorem step (h : Passed done (c :: rest)) (shut : ¬OpensArguments done (c :: rest)) :
    Passed (done ++ [c]) rest := by
  intro before behind split short
  rw [List.append_assoc, List.singleton_append] at split
  rw [List.length_append, List.length_singleton] at short
  rcases Nat.lt_succ_iff_lt_or_eq.mp short with short | here
  · exact h before behind split short
  · obtain ⟨rfl, rfl⟩ := List.append_inj split here.symm
    exact shut

/-- Only a parenthesis can open arguments. -/
theorem beyond (plain : '(' ∉ mid) (h : Passed done (mid ++ rest)) : Passed (done ++ mid) rest := by
  induction mid generalizing done with
  | nil => rwa [List.append_nil]
  | cons c mid ih =>
    have shut : ¬OpensArguments done (c :: (mid ++ rest)) := by
      rintro ⟨opens, -, -⟩
      obtain ⟨rfl, -⟩ := List.cons_prefix_cons.mp opens
      exact plain List.mem_cons_self
    have passed := ih (fun member => plain (List.mem_cons_of_mem c member)) (h.step shut)
    rwa [List.append_assoc] at passed

theorem beyondAnonymous (h : Passed done ("(anonymous namespace)".toList ++ rest)) :
    Passed (done ++ "(anonymous namespace)".toList) rest := by
  have shut : ¬OpensArguments done ("(anonymous namespace)".toList ++ rest) :=
    fun opens => opens.notAnonymous (List.prefix_append _ rest)
  have plain : '(' ∉ "anonymous namespace)".toList := by decide
  have passed := beyond plain (h.step shut)
  rwa [List.append_assoc] at passed

theorem beyondOperator (h : Passed done ("()".toList ++ rest)) (named : "operator".toList <:+ done) :
    Passed (done ++ "()".toList) rest := by
  have shut : ¬OpensArguments done ("()".toList ++ rest) :=
    fun opens => opens.notOperator ⟨named, List.prefix_append _ rest⟩
  have plain : '(' ∉ [')'] := by decide
  have passed := beyond plain (h.step shut)
  rwa [List.append_assoc] at passed

theorem cut (h : Passed done rest) (opens : OpensArguments done rest) :
    Shortened (done ++ rest) done :=
  .cut rfl opens fun before behind split opens' =>
    Nat.le_of_not_lt fun short => h before behind split short opens'

theorem whole (h : Passed done []) : Shortened done done := by
  refine .whole fun before behind split opens => ?_
  have passed := h before behind (by rwa [List.append_nil])
  by_cases short : before.length < done.length
  · exact passed short opens
  · have all : behind = [] := by
      have := congrArg List.length split
      rw [List.length_append] at this
      exact List.eq_nil_of_length_eq_zero (by omega)
    subst all
    exact absurd opens.opens (by simp)

end Passed

theorem operator_isPrefixOf_iff {done : List Char} :
    simplifyFrom.operator.isPrefixOf done = true ↔ "operator".toList <:+ done.reverse := by
  rw [List.isPrefixOf_iff_prefix, simplifyFrom.operator, ← List.reverse_suffix,
    List.reverse_reverse]

/-- With fuel for all characters the name is left up to its arguments. -/
theorem simplifyFrom_shortens (fuel : Nat) (done : List Char) {rest : List Char}
    (enough : rest.length < fuel) (passed : Passed done.reverse rest) :
    Shortened (done.reverse ++ rest) (simplifyFrom fuel done rest) := by
  induction fuel generalizing done rest with
  | zero => exact absurd enough (Nat.not_lt_zero _)
  | succ fuel ih =>
    -- What was passed is added to `done`, last first, and the rest is shorter.
    have turn (mid rest' : List Char) (split : rest = mid ++ rest') (moves : mid ≠ [])
        (passed : Passed (done.reverse ++ mid) rest') :
        Shortened (done.reverse ++ rest) (simplifyFrom fuel (mid.reverse ++ done) rest') := by
      have shorter : rest'.length < fuel := by
        have := List.length_pos_of_ne_nil moves
        rw [split, List.length_append] at enough
        omega
      have reversed : (mid.reverse ++ done).reverse = done.reverse ++ mid := by simp
      have shortened := ih _ shorter (reversed ▸ passed)
      rwa [reversed, List.append_assoc, ← split] at shortened
    cases rest with
    | nil =>
      have ended : simplifyFrom (fuel + 1) done [] = done.reverse := rfl
      rw [List.append_nil, ended]
      exact passed.whole
    | cons c rest =>
      rw [simplifyFrom]
      split_ifs with plain anonymous operator
      · have other : '(' ∉ [c] := by simpa using Ne.symm plain
        exact turn [c] rest rfl (List.cons_ne_nil c []) (passed.beyond other)
      · obtain ⟨rest', split⟩ := List.isPrefixOf_iff_prefix.mp anonymous
        have left : (c :: rest).drop simplifyFrom.anonymous.length = rest' := by
          rw [← split, List.drop_left]
        rw [left]
        exact turn _ rest' split.symm (by decide) (split ▸ passed).beyondAnonymous
      · rw [Bool.and_eq_true, operator_isPrefixOf_iff, decide_eq_true_eq] at operator
        obtain ⟨named, closes⟩ := operator
        obtain ⟨rest', rfl⟩ := List.head?_eq_some_iff.mp closes
        obtain rfl : c = '(' := by simpa using plain
        exact turn "()".toList rest' rfl (by decide) (passed.beyondOperator named)
      · obtain rfl : c = '(' := by simpa using plain
        refine passed.cut ⟨⟨rest, rfl⟩, ?_, ?_⟩
        · rwa [List.isPrefixOf_iff_prefix] at anonymous
        · rintro ⟨named, rest', closes⟩
          obtain rfl : ')' :: rest' = rest := by simpa using closes
          rw [Bool.and_eq_true, operator_isPrefixOf_iff] at operator
          exact operator ⟨named, rfl⟩

/-- A text cut at an offset, which has to be between two characters or at an end. -/
def cutAt? : List Char → Nat → Option (List Char × List Char)
  | cs, 0 => some ([], cs)
  | [], _ => none
  | c :: cs, offset =>
    if c.utf8Size ≤ offset then
      (cutAt? cs (offset - c.utf8Size)).map fun (before, behind) => (c :: before, behind)
    else none

theorem cutAt?_append (before behind : List Char) :
    cutAt? (before ++ behind) (utf8Len before) = some (before, behind) := by
  induction before with
  | nil => rw [List.nil_append, String.utf8Len_nil, cutAt?]
  | cons c before ih =>
    have moves : utf8Len before + c.utf8Size ≠ 0 := by
      have := c.utf8Size_pos
      omega
    rw [List.cons_append, String.utf8Len_cons, cutAt?.eq_3 _ _ _ moves,
      if_pos (Nat.le_add_left _ _), Nat.add_sub_cancel, ih]
    rfl

def parenthesis? (cs : List Char) : Option Nat :=
  if '(' ∈ cs then some (utf8Len (cs.takeWhile (· ≠ '('))) else none

/-- How a turn ends: the name has no arguments, or they start behind this part of it, or they are
looked for again from an offset on. -/
inductive Turn
  | whole
  | cut (before : List Char)
  | on (start : Nat)

def turnAt (offset : Nat) (before behind : List Char) : Turn :=
  if simplifyFrom.anonymous.isPrefixOf behind then .on (offset + utf8Len simplifyFrom.anonymous)
  else if "operator".toList.isSuffixOf before && "()".toList.isPrefixOf behind then
    .on (offset + 2)
  else .cut before

def turn? (cs : List Char) (start : Nat) : Option Turn := do
  let (_, rest) ← cutAt? cs start
  match parenthesis? rest with
  | none => return .whole
  | some gap =>
    let (before, behind) ← cutAt? cs (start + gap)
    return turnAt (start + gap) before behind

/-- Looks for the arguments from an offset on, in at most so many turns. -/
def scan? (cs : List Char) : Nat → Nat → Option (List Char)
  | 0, _ => none
  | turns + 1, start => do
    match ← turn? cs start with
    | .whole => return cs
    | .cut before => return before
    | .on next => scan? cs turns next

theorem split_of_parenthesis? {cs : List Char} {gap : Nat} (found : parenthesis? cs = some gap) :
    ∃ mid rest, cs = mid ++ '(' :: rest ∧ '(' ∉ mid ∧ gap = utf8Len mid := by
  rw [parenthesis?] at found
  split_ifs at found with member
  obtain ⟨mid, rest, rfl, plain⟩ := List.eq_append_cons_of_mem member
  have other : ∀ c ∈ mid, decide (c ≠ '(') = true := fun c member =>
    decide_eq_true fun same => plain (same ▸ member)
  have first : (mid ++ '(' :: rest).takeWhile (· ≠ '(') = mid := by
    rw [List.takeWhile_append_of_pos other]
    simp
  rw [first] at found
  exact ⟨mid, rest, rfl, plain, (Option.some.inj found).symm⟩

/-- A turn is right: what it ends with is what is left of the name, and if it goes on then behind a
parenthesis, with no arguments before. -/
def Turn.Right (cs : List Char) (left : Nat) : Turn → Prop
  | .whole => Shortened cs cs
  | .cut before => Shortened cs before
  | .on start => ∃ done rest, cs = done ++ rest ∧ start = utf8Len done ∧ Passed done rest ∧
      rest.count '(' < left

theorem right_turnAt {done rest : List Char} (passed : Passed done ('(' :: rest)) :
    (turnAt (utf8Len done) done ('(' :: rest)).Right (done ++ '(' :: rest)
      (List.count '(' ('(' :: rest)) := by
  have goes (word rest' : List Char) (split : word ++ rest' = '(' :: rest) (opens : '(' ∈ word)
      (passed : Passed (done ++ word) rest') :
      (Turn.on (utf8Len done + utf8Len word)).Right (done ++ '(' :: rest)
        (List.count '(' ('(' :: rest)) := by
    refine ⟨done ++ word, rest', ?_, (String.utf8Len_append done word).symm, passed, ?_⟩
    · rw [List.append_assoc, split]
    · have := List.count_pos_iff.mpr opens
      rw [← split, List.count_append]
      omega
  rw [turnAt]
  split_ifs with anonymous operator
  · obtain ⟨rest', split⟩ := List.isPrefixOf_iff_prefix.mp anonymous
    exact goes _ rest' split (by decide) (split ▸ passed).beyondAnonymous
  · rw [Bool.and_eq_true, List.isSuffixOf_iff_suffix, List.isPrefixOf_iff_prefix] at operator
    obtain ⟨named, rest', split⟩ := operator
    exact goes "()".toList rest' split (by decide) ((split ▸ passed).beyondOperator named)
  · rw [List.isPrefixOf_iff_prefix] at anonymous
    rw [Bool.and_eq_true, List.isSuffixOf_iff_suffix, List.isPrefixOf_iff_prefix] at operator
    exact passed.cut ⟨⟨rest, rfl⟩, anonymous, operator⟩

theorem right_turn? {done rest : List Char} (passed : Passed done rest) :
    ∃ turn, turn? (done ++ rest) (utf8Len done) = some turn ∧
      turn.Right (done ++ rest) (rest.count '(') := by
  have here : cutAt? (done ++ rest) (utf8Len done) = some (done, rest) := cutAt?_append done rest
  cases found : parenthesis? rest with
  | none =>
    have plain : '(' ∉ rest := by simpa [parenthesis?] using found
    rw [← List.append_nil rest] at passed
    refine ⟨.whole, ?_, (passed.beyond plain).whole⟩
    simp only [turn?, here, found, Option.bind_eq_bind, Option.bind_some]
    rfl
  | some gap =>
    obtain ⟨mid, behind, rfl, plain, rfl⟩ := split_of_parenthesis? found
    have there := cutAt?_append (done ++ mid) ('(' :: behind)
    rw [List.append_assoc] at there
    have right := right_turnAt (passed.beyond plain)
    have left : (mid ++ '(' :: behind).count '(' = ('(' :: behind).count '(' := by
      rw [List.count_append, List.count_eq_zero.mpr plain, Nat.zero_add]
    rw [List.append_assoc, ← left, String.utf8Len_append] at right
    rw [String.utf8Len_append] at there
    refine ⟨_, ?_, right⟩
    simp only [turn?, here, found, there, Option.bind_eq_bind, Option.bind_some]
    rfl

theorem scan?_shortens (turns : Nat) {done rest : List Char} (passed : Passed done rest)
    (enough : rest.count '(' < turns) :
    ∃ plain, scan? (done ++ rest) turns (utf8Len done) = some plain ∧
      Shortened (done ++ rest) plain := by
  induction turns generalizing done rest with
  | zero => exact absurd enough (Nat.not_lt_zero _)
  | succ turns ih =>
    obtain ⟨turn, made, right⟩ := right_turn? passed
    simp only [scan?, made, Option.bind_eq_bind, Option.bind_some]
    cases turn with
    | whole => exact ⟨_, rfl, right⟩
    | cut before => exact ⟨before, rfl, right⟩
    | on start =>
      obtain ⟨done', rest', split, rfl, passed, fewer⟩ := right
      rw [split]
      exact ih passed (by omega)

def undotted : List Char → List Char
  | '.' :: cs => cs
  | cs => cs

theorem simplifyName_eq (name : String) :
    simplifyName name = String.ofList
      (simplifyFrom ((undotted name.toList).length + 1) [] (undotted name.toList)) :=
  rfl

/-- The scan ends, without a cut inside of a character, with what is left of the name, and this is
the name less a leading dot up to where its arguments start. -/
theorem simplifyName_shortened (name : String) :
    let cs := undotted name.toList
    scan? cs (cs.count '(' + 1) 0 = some (simplifyName name).toList ∧
    ∀ plain, Shortened cs plain ↔ plain = (simplifyName name).toList := by
  intro cs
  have shortened : Shortened cs (simplifyName name).toList := by
    have passing := simplifyFrom_shortens (cs.length + 1) [] (Nat.lt_succ_self _) (Passed.nil cs)
    rwa [simplifyName_eq, String.toList_ofList]
  obtain ⟨plain, scanned, shortened'⟩ :=
    scan?_shortens (cs.count '(' + 1) (Passed.nil cs) (Nat.lt_succ_self _)
  obtain rfl := shortened'.unique shortened
  exact ⟨scanned, fun plain => ⟨fun h => h.unique shortened, fun h => h ▸ shortened⟩⟩

example : simplifyName ".(anonymous namespace)::Σ::operator()(int)" =
    "(anonymous namespace)::Σ::operator()" := by
  decide

end Profiling
