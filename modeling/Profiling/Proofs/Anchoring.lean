import Profiling.Aggregate
import Profiling.Proofs.LocalPatterns
import Profiling.Proofs.Matching

/-!
# Anchored filters

A filter is put between `^(?:` and `)$`, and only then read. The closing parenthesis ends the
group unless the filter ends in a comment, or closes the group itself.
-/

namespace Profiling.Pattern

def readText (cs : List Char) : Option (Read × List Char) :=
  branches (cs.length + 1) {} [] [] [] cs

/-- The reader takes the whole of a pattern. -/
def Reads (pattern : String) (item : Item) : Prop :=
  ∃ known, readText pattern.toList = some ((item, known), [])

/-- The reader comes to a closing parenthesis that no group was opened for. -/
def Unmatched (pattern : String) : Prop :=
  ∃ read rest, readText pattern.toList = some (read, ')' :: rest)

/-- A closing parenthesis behind the pattern is not seen, because the pattern ends in a comment. -/
def HidesParenthesis (pattern : String) : Prop :=
  (∃ item, Reads pattern item) ∧ ∃ item, Reads (pattern ++ ")") item

/-- The reader takes the whole of a pattern, which leaves some room below the limits. The one on
nesting is exact; the one on size is a limit of `Pattern.weight`, which is an estimate. -/
def RoomFor (pattern : String) (nest weight : Nat) : Prop :=
  ∃ item, Reads pattern item ∧ item.nest + nest ≤ maxNest ∧ item.pattern.weight + weight ≤ maxWeight

theorem unmatched_iff (pattern : String) :
    Unmatched pattern ↔
      ((readText pattern.toList).any fun read => read.2.head? = some ')') = true := by
  rw [Option.any_eq_true]
  constructor
  · rintro ⟨read, rest, same⟩
    exact ⟨(read, ')' :: rest), same, rfl⟩
  · rintro ⟨⟨read, rest⟩, same, head⟩
    obtain ⟨rest, rfl⟩ := List.head?_eq_some_iff.mp (of_decide_eq_true head)
    exact ⟨read, rest, same⟩

theorem exists_reads_iff (pattern : String) (holds : Item → Bool) :
    (∃ item, Reads pattern item ∧ holds item = true) ↔
      ((readText pattern.toList).any fun read => read.2.isEmpty && holds read.1.1) = true := by
  rw [Option.any_eq_true]
  constructor
  · rintro ⟨item, ⟨known, same⟩, fits⟩
    exact ⟨((item, known), []), same, fits⟩
  · rintro ⟨⟨⟨item, known⟩, rest⟩, same, both⟩
    obtain ⟨nothing, fits⟩ := Bool.and_eq_true_iff.mp both
    obtain rfl := List.isEmpty_iff.mp nothing
    exact ⟨item, ⟨known, same⟩, fits⟩

instance (pattern : String) : Decidable (Unmatched pattern) :=
  decidable_of_iff _ (unmatched_iff pattern).symm

instance (pattern : String) : Decidable (∃ item, Reads pattern item) :=
  decidable_of_iff _ ((exists_reads_iff pattern fun _ => true).symm.trans (by simp))

instance (pattern : String) : Decidable (HidesParenthesis pattern) :=
  inferInstanceAs (Decidable (_ ∧ _))

instance (pattern : String) (nest weight : Nat) : Decidable (RoomFor pattern nest weight) :=
  decidable_of_iff _ ((exists_reads_iff pattern fun item => item.nest + nest ≤ maxNest &&
    item.pattern.weight + weight ≤ maxWeight).symm.trans (by simp [RoomFor]))

theorem parse?_eq_some_iff (pattern : String) (p : Pattern) :
    parse? pattern = some p ↔
      ∃ item, Reads pattern item ∧ item.nest ≤ maxNest ∧ item.pattern.weight ≤ maxWeight ∧
        item.pattern = p := by
  have read : readText pattern.toList = (readAlternatives (pattern.toList.length + 1)
      { input := pattern.toList } [] []).map fun found =>
        ((found.1, found.2.flags, found.2.names), found.2.input) :=
    rfl
  simp only [Reads, read, parse?, bind, Option.bind]
  cases readAlternatives (pattern.toList.length + 1) { input := pattern.toList } [] [] with
  | none => simp
  | some found =>
    obtain ⟨item, flags, names, input⟩ := found
    simp only [Option.map_some, Bool.and_eq_true, List.isEmpty_iff, decide_eq_true_eq]
    constructor
    · intro accepted
      split_ifs at accepted with fits
      obtain ⟨⟨rfl, shallow⟩, light⟩ := fits
      exact ⟨item, ⟨(flags, names), rfl⟩, shallow, light, Option.some.inj accepted⟩
    · rintro ⟨_, ⟨known, ⟨⟩⟩, shallow, light, rfl⟩
      rw [if_pos ⟨⟨rfl, shallow⟩, light⟩]

def Item.framed (item : Item) : Item where
  pattern := item.pattern.framed
  nest := item.nest + 2

theorem readText_anchors (cs : List Char) :
    readText ("^(?:".toList ++ (cs ++ ")$".toList)) =
      (branches (cs.length + 5) {} [] [] [] (cs ++ [')', '$'])).bind fun inner =>
        closeGroup inner.1.1 (fun item => branches (cs.length + 5) {} inner.1.2.2
          [item, { pattern := .look .textStart }] []) inner.2 := by
  have length_eq : ("^(?:".toList ++ (cs ++ ")$".toList)).length + 1 = cs.length + 7 := by
    simp
  rw [readText, length_eq, branches_succ]
  change branches (cs.length + 6) {} [] [{ pattern := .look .textStart }] []
    ('(' :: '?' :: ':' :: (cs ++ [')', '$'])) = _
  rw [branches_succ]
  rfl

theorem readText_anchors_closed {cs : List Char} {item : Item} {known : Flags × List String}
    (inner : branches (cs.length + 5) {} [] [] [] (cs ++ [')', '$']) =
      some ((item, known), [')', '$'])) :
    readText ("^(?:".toList ++ (cs ++ ")$".toList)) = some ((item.framed, {}, known.2), []) := by
  rw [readText_anchors, inner, Option.bind_some, closeGroup, onHead, if_pos rfl, branches_succ]
  change branches (cs.length + 4) {} known.2 _ [] [] = _
  rw [branches_nil (by omega)]
  have whole : Item.alternatives [Item.sequence [{ pattern := .look .textEnd },
      { pattern := item.pattern, nest := item.nest + 1 }, { pattern := .look .textStart }]] =
      item.framed := by
    simp only [Item.alternatives, Item.sequence, Item.framed, List.foldl_cons, List.foldl_nil,
      framed, Item.mk.injEq, true_and, and_true]
    omega
  rw [joined, ← whole]
  rfl

theorem readText_anchors_open {cs : List Char}
    (inner : Leaves ['$'] (branches (cs.length + 5) {} [] [] [] (cs ++ [')', '$']))) :
    readText ("^(?:".toList ++ (cs ++ ")$".toList)) = none := by
  rw [readText_anchors, Option.bind_eq_none_iff]
  rintro ⟨read, rest⟩ found
  rcases List.suffix_cons_iff.mp (inner read rest found) with rfl | nothing
  · rfl
  · rw [List.suffix_nil.mp nothing]
    rfl

theorem fenced_readText (cs : List Char) :
    Fenced (readText cs) fun u =>
      branches (cs.length + 3 * u.length + 2) {} [] [] [] (cs ++ ')' :: u) :=
  fenced_branches {} [] [] [] (Nat.lt_succ_self _) fun u => by omega

theorem readText_parenthesis (pattern : String) :
    readText (pattern ++ ")").toList =
      branches (pattern.toList.length + 2) {} [] [] [] (pattern.toList ++ [')']) := by
  rw [String.toList_append, readText, List.length_append]
  rfl

theorem rest_eq_nil {pattern : String} (balanced : ¬Unmatched pattern) {read : Read}
    {rest : List Char} (found : readText pattern.toList = some (read, rest)) : rest = [] := by
  refine (stops_branches _ _ _ _ _ _ _ _ found).resolve_right fun head => balanced ?_
  obtain ⟨more, rfl⟩ := List.head?_eq_some_iff.mp head
  exact ⟨read, more, found⟩

/-- Where the reader takes the whole of a pattern and a parenthesis behind it would be seen, the
parenthesis closes the group; in no other case is the group closed at the right place. -/
theorem readText_anchors_iff {pattern : String} (balanced : ¬Unmatched pattern) (item : Item) :
    (∃ known, readText ("^(?:".toList ++ (pattern.toList ++ ")$".toList)) =
        some ((item, known), [])) ↔
      ∃ body, Reads pattern body ∧ ¬HidesParenthesis pattern ∧ item = body.framed := by
  have fenced := fenced_readText pattern.toList
  cases alone : readText pattern.toList with
  | none =>
    rw [alone] at fenced
    cases fenced with
    | runsOut past =>
      rw [readText_anchors_open (past ['$'] (by decide))]
      simp [Reads, alone]
  | some found =>
    obtain ⟨⟨body, known⟩, rest⟩ := found
    obtain rfl := rest_eq_nil balanced alone
    rw [alone] at fenced
    cases fenced with
    | stops left =>
      have seen : ¬HidesParenthesis pattern := by
        rintro ⟨-, item, known, same⟩
        rw [readText_parenthesis] at same
        cases (left [] (by decide)).symm.trans same
      rw [readText_anchors_closed (left ['$'] (by decide))]
      constructor
      · rintro ⟨_, ⟨⟩⟩
        exact ⟨body, ⟨known, alone⟩, seen, rfl⟩
      · rintro ⟨_, ⟨_, same⟩, -, rfl⟩
        cases alone.symm.trans same
        exact ⟨_, rfl⟩
    | hides same =>
      have hides : HidesParenthesis pattern :=
        ⟨⟨body, known, alone⟩, body, known,
          (readText_parenthesis pattern).trans (same [] (by decide))⟩
      rw [readText_anchors_open]
      · simp [hides]
      · intro read rest found
        cases (same ['$'] (by decide)).symm.trans found
        exact List.nil_suffix

theorem exists_parse?_iff (pattern : String) :
    (∃ body, parse? pattern = some body) ↔ RoomFor pattern 0 0 := by
  simp only [parse?_eq_some_iff]
  constructor
  · rintro ⟨_, item, read, shallow, light, rfl⟩
    exact ⟨item, read, shallow, light⟩
  · rintro ⟨item, read, shallow, light⟩
    exact ⟨item.pattern, item, read, shallow, light, rfl⟩

theorem Reads.unique {pattern : String} {item other : Item} (h : Reads pattern item)
    (h' : Reads pattern other) : item = other := by
  obtain ⟨known, read⟩ := h
  obtain ⟨known', read'⟩ := h'
  cases read.symm.trans read'
  rfl

theorem Reads.not_unmatched {pattern : String} {item : Item} (h : Reads pattern item) :
    ¬Unmatched pattern := by
  obtain ⟨known, read⟩ := h
  rintro ⟨other, rest, read'⟩
  cases read.symm.trans read'

theorem weight_framed (p : Pattern) : p.framed.weight = p.weight + 64 := by
  simp only [framed, weight]
  omega

end Profiling.Pattern

namespace Profiling

open Pattern

theorem toList_anchors (pattern : String) :
    ("^(?:" ++ pattern ++ ")$").toList = "^(?:".toList ++ (pattern.toList ++ ")$".toList) := by
  rw [String.toList_append, String.toList_append, List.append_assoc]

theorem anchored_eq_ok_iff {pattern : String} (balanced : ¬Unmatched pattern) (q : Pattern) :
    anchored pattern = .ok q ↔
      ∃ item, Reads pattern item ∧ ¬HidesParenthesis pattern ∧ item.nest + 2 ≤ maxNest ∧
        item.pattern.weight + 64 ≤ maxWeight ∧ q = item.pattern.framed := by
  have accepted : anchored pattern = .ok q ↔ parse? ("^(?:" ++ pattern ++ ")$") = some q := by
    rw [anchored]
    cases parse? ("^(?:" ++ pattern ++ ")$") <;> simp
  rw [accepted, parse?_eq_some_iff]
  simp only [Reads, toList_anchors]
  constructor
  · rintro ⟨item, known, shallow, light, rfl⟩
    obtain ⟨body, read, seen, rfl⟩ := (readText_anchors_iff balanced item).mp known
    exact ⟨body, read, seen, shallow, weight_framed body.pattern ▸ light, rfl⟩
  · rintro ⟨body, read, seen, shallow, light, rfl⟩
    have known := (readText_anchors_iff balanced body.framed).mpr ⟨body, read, seen, rfl⟩
    exact ⟨body.framed, known, shallow, (weight_framed body.pattern).symm ▸ light, rfl⟩

/-- A pattern that can be read by itself is accepted, unless it hides the parenthesis or there is
no room for the anchors. -/
theorem exists_anchored_iff {pattern : String} {body : Pattern}
    (valid : parse? pattern = some body) :
    (∃ q, anchored pattern = .ok q) ↔ ¬HidesParenthesis pattern ∧ RoomFor pattern 2 64 := by
  obtain ⟨item, read, -⟩ := (parse?_eq_some_iff pattern body).mp valid
  simp only [anchored_eq_ok_iff read.not_unmatched]
  constructor
  · rintro ⟨_, item, read, seen, shallow, light, -⟩
    exact ⟨seen, item, read, shallow, light⟩
  · rintro ⟨seen, item, read, shallow, light⟩
    exact ⟨_, item, read, seen, shallow, light, rfl⟩

theorem isMatch_anchored {pattern : String} {body q : Pattern} (valid : parse? pattern = some body)
    (accepted : anchored pattern = .ok q) (name : String) :
    q.isMatch name = true ↔ body.MatchesWhole name := by
  obtain ⟨item, read, -, -, rfl⟩ := (parse?_eq_some_iff pattern body).mp valid
  obtain ⟨other, read', -, -, -, rfl⟩ := (anchored_eq_ok_iff read.not_unmatched q).mp accepted
  rw [read'.unique read, isMatch_framed]

theorem exists_parse?_of_anchored {pattern : String} {q : Pattern} (balanced : ¬Unmatched pattern)
    (accepted : anchored pattern = .ok q) : ∃ body, parse? pattern = some body := by
  obtain ⟨item, read, -, shallow, light, -⟩ := (anchored_eq_ok_iff balanced q).mp accepted
  exact (exists_parse?_iff pattern).mpr ⟨item, read, by omega, by omega⟩

/-- What is put around the pattern does its work: no parenthesis of the pattern closes the group,
no comment hides the one that does, and the limits leave room for them. -/
structure Ordinary (pattern : String) : Prop where
  balanced : ¬Unmatched pattern
  seen : ¬HidesParenthesis pattern
  room : RoomFor pattern 0 0 → RoomFor pattern 2 64

instance (pattern : String) : Decidable (Ordinary pattern) :=
  decidable_of_iff (¬Unmatched pattern ∧ ¬HidesParenthesis pattern ∧
      (RoomFor pattern 0 0 → RoomFor pattern 2 64))
    ⟨fun ⟨balanced, seen, room⟩ => ⟨balanced, seen, room⟩, fun h => ⟨h.balanced, h.seen, h.room⟩⟩

theorem Ordinary.accepted_iff {pattern : String} (h : Ordinary pattern) :
    (∃ q, anchored pattern = .ok q) ↔ ∃ body, parse? pattern = some body := by
  constructor
  · rintro ⟨q, accepted⟩
    exact exists_parse?_of_anchored h.balanced accepted
  · rintro ⟨body, valid⟩
    have room := h.room ((exists_parse?_iff pattern).mp ⟨body, valid⟩)
    exact (exists_anchored_iff valid).mpr ⟨h.seen, room⟩

theorem anchored_eq_error_iff (pattern : String) (e : ProfileError) :
    anchored pattern = .error e ↔ e = .frameFilter ∧ ¬∃ q, anchored pattern = .ok q := by
  rw [anchored]
  cases parse? ("^(?:" ++ pattern ++ ")$") with
  | none => simp [eq_comm]
  | some q => simp

namespace Profile

variable (p : Profile)

/-- The filter is missing, or it is accepted. -/
theorem removeUninteresting_eq_error_iff (e : ProfileError) :
    p.removeUninteresting = .error e ↔
      e = .frameFilter ∧ p.dropFrames ≠ "" ∧ ((¬∃ q, anchored p.dropFrames = .ok q) ∨
        p.keepFrames ≠ "" ∧ ¬∃ q, anchored p.keepFrames = .ok q) := by
  have isEmpty_iff (text : String) : text.isEmpty = true ↔ text = "" := String.isEmpty_iff
  rw [removeUninteresting]
  by_cases noDrop : p.dropFrames = ""
  · simp [noDrop]
  rw [if_neg (by rwa [isEmpty_iff])]
  cases dropped : anchored p.dropFrames with
  | error cause =>
    obtain ⟨rfl, -⟩ := (anchored_eq_error_iff p.dropFrames cause).mp dropped
    constructor
    · rintro ⟨⟩
      exact ⟨rfl, noDrop, .inl nofun⟩
    · rintro ⟨rfl, -⟩
      rfl
  | ok drop =>
    by_cases noKeep : p.keepFrames = ""
    · simp [noKeep, bind, Except.bind, pure, Except.pure]
    simp only [bind, Except.bind, if_neg ((isEmpty_iff p.keepFrames).not.mpr noKeep)]
    cases kept : anchored p.keepFrames with
    | error cause =>
      obtain ⟨rfl, -⟩ := (anchored_eq_error_iff p.keepFrames cause).mp kept
      constructor
      · rintro ⟨⟩
        exact ⟨rfl, noDrop, .inr ⟨noKeep, nofun⟩⟩
      · rintro ⟨rfl, -⟩
        rfl
    | ok keep => simp [Except.map, pure, Except.pure]

end Profile

def Profile.allocating (filter : String) : Profile where
  sampleTypes := [⟨"alloc_space", "bytes"⟩]
  dropFrames := filter
  functions := [{ id := 1, name := "malloc" }, { id := 2, name := "main" }]
  locations :=
    [{ id := 1, lines := [{ functionId := 1 }] }, { id := 2, lines := [{ functionId := 2 }] }]
  samples := [{ stack := [1, 2], values := [8] }]

end Profiling
