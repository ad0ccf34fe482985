import Profiling.Proofs.LocalParts

/-!
# Patterns and what stands behind them

A closing parenthesis behind a pattern ends the reading of the pattern, unless the pattern is
incomplete or ends in a comment.
-/

namespace Profiling.Pattern

variable {α : Type}

abbrev Read := Item × Flags × List String

def branches (fuel : Nat) (f : Flags) (names : List String) (items before : List Item) :
    Reader Read := fun cs =>
  (readAlternatives fuel { flags := f, names, input := cs } items before).map fun (item, s) =>
    ((item, s.flags, s.names), s.input)

def joined (f : Flags) (names : List String) (items before : List Item) : Read :=
  (.alternatives (.sequence items :: before), f, names)

def closeGroup (body : Item) (read : Item → Reader Read) : Reader Read :=
  onHead fun c rest =>
    if c = ')' then read { pattern := body.pattern, nest := body.nest + 1 } rest else none

section

variable (again : Flags → List String → List Item → List Item → Reader Read)
variable (f : Flags) (names : List String) (items before : List Item)

def repeatTurn (least : Nat) (most : Option Nat) : Reader Read := fun rest =>
  (repeatLast items least most).bind fun items => again f names items before (dropLazy rest)

def groupTurn : Reader Read := fun rest =>
  (groupHead f names rest).bind fun head =>
    if head.1.1 then
      (again head.1.2.1 head.1.2.2 [] [] head.2).bind fun inner =>
        closeGroup inner.1.1 (fun item => again f inner.1.2.2 (item :: items) before) inner.2
    else again head.1.2.1 head.1.2.2 ({ pattern := .empty, bare := true } :: items) before head.2

/-- One turn of reading alternatives; `again` reads on. -/
def branchTurn (c : Char) : Reader Read := fun rest =>
  if c = '|' then again f names [] (.sequence items :: before) rest
  else if c = '?' || c = '*' || c = '+' then
    repeatTurn again f names items before (if c = '+' then 1 else 0)
      (if c = '?' then some 1 else none) rest
  else if c = '\x7b' then
    (bounds f rest).bind fun read => repeatTurn again f names items before read.1.1 read.1.2 read.2
  else if c = '(' then groupTurn again f names items before rest
  else (readAtom f (c :: rest)).bind fun read => again f names (read.1 :: items) before read.2

end

theorem branches_succ (fuel : Nat) (f : Flags) (names : List String) (items before : List Item)
    (cs : List Char) :
    branches (fuel + 1) f names items before cs = match f.skip cs with
      | [] => some (joined f names items before, [])
      | c :: rest =>
        if c = ')' then some (joined f names items before, c :: rest)
        else branchTurn (branches fuel) f names items before c rest := by
  rw [branches, readAlternatives]
  dsimp only
  generalize f.skip cs = text
  cases text with
  | nil => rfl
  | cons c rest =>
    dsimp only
    split
    · rfl
    unfold branchTurn
    split
    · rfl
    split
    · rw [repeatTurn]
      cases repeatLast items _ _ <;> rfl
    split
    · rw [bounds]
      cases readBounds f rest with
      | none => rfl
      | some read =>
        dsimp only [Option.map_some, Option.bind_some, repeatTurn]
        cases repeatLast items read.1 read.2.1 <;> rfl
    split
    · have same : readGroupHead { flags := f, names, input := cs } rest =
          readGroupHead { flags := f, names, input := [] } rest := rfl
      rw [groupTurn, groupHead, same]
      cases readGroupHead { flags := f, names, input := [] } rest with
      | none => rfl
      | some head =>
        cases head with
        | flags s => rfl
        | body inner =>
          dsimp only [Option.map_some, Option.bind_some, GroupHead.view]
          rw [if_pos rfl, branches]
          change _ = (Option.map _ (readAlternatives fuel inner [] [])).bind _
          cases readAlternatives fuel inner [] [] with
          | none => rfl
          | some read =>
            obtain ⟨body, after⟩ := read
            obtain ⟨flags, names, input⟩ := after
            dsimp only [Option.map_some, Option.bind_some, closeGroup]
            cases input with
            | nil => rfl
            | cons d rest =>
              rw [onHead]
              by_cases close : d = ')'
              · subst close
                rfl
              · simp [close]
    · cases readAtom f (c :: rest) <;> rfl

section

variable {again : Flags → List String → List Item → List Item → Reader Read}
variable (leaves : ∀ f names items before cs, Leaves cs (again f names items before cs))
include leaves

theorem leaves_repeatTurn (f : Flags) (names : List String) (items before : List Item) (least : Nat)
    (most : Option Nat) (rest : List Char) :
    Leaves rest (repeatTurn again f names items before least most rest) := by
  rw [repeatTurn]
  cases repeatLast items least most with
  | none => exact .none rest
  | some items => exact (leaves _ _ _ _ _).of_suffix (local_dropLazy.leaves rest _ _ rfl)

theorem leaves_closeGroup (body : Item) (f : Flags) (names : List String)
    (items before : List Item) (rest : List Char) :
    Leaves rest (closeGroup body (fun item => again f names (item :: items) before) rest) := by
  cases rest with
  | nil => exact .none []
  | cons c rest =>
    rw [closeGroup, onHead]
    split
    · exact (leaves _ _ _ _ rest).of_suffix (List.suffix_cons c rest)
    · exact .none _

theorem leaves_groupTurn (f : Flags) (names : List String) (items before : List Item)
    (rest : List Char) : Leaves rest (groupTurn again f names items before rest) := by
  refine ((local_groupHead f names).leaves rest).bind fun head rest => ?_
  dsimp only
  split
  · exact (leaves _ _ _ _ rest).bind fun inner rest => leaves_closeGroup leaves _ _ _ _ _ rest
  · exact leaves _ _ _ _ rest

theorem leaves_branchTurn (f : Flags) (names : List String) (items before : List Item) (c : Char)
    (rest : List Char) : Leaves rest (branchTurn again f names items before c rest) := by
  unfold branchTurn
  split
  · exact leaves _ _ _ _ rest
  split
  · exact leaves_repeatTurn leaves _ _ _ _ _ _ rest
  split
  · exact ((local_bounds f).leaves rest).bind fun read rest =>
      leaves_repeatTurn leaves _ _ _ _ _ _ rest
  split
  · exact leaves_groupTurn leaves f names items before rest
  · exact (leaves_readAtom f c rest).bind fun item rest => leaves _ _ _ _ rest

end

section

variable {again : Flags → List String → List Item → List Item → Reader Read}
variable {again' : List Char → Flags → List String → List Item → List Item → Reader Read}

/-- What reads on is stopped by a parenthesis in texts of up to a certain length. -/
structure Stopped (again : Flags → List String → List Item → List Item → Reader Read)
    (again' : List Char → Flags → List String → List Item → List Item → Reader Read)
    (length : Nat) : Prop where
  fenced : ∀ f names items before cs, cs.length ≤ length →
    Fenced (again f names items before cs) fun u => again' u f names items before (cs ++ ')' :: u)
  leaves : ∀ f names items before cs, Leaves cs (again f names items before cs)
  leaves' : ∀ u f names items before cs, Leaves cs (again' u f names items before cs)
  atEnd : ∀ u f names items before, again' u f names items before [] = again f names items before []
  /-- Nothing can come of a brace that is not closed. -/
  brace : ∀ u f names items before cs, '\n' ∉ u → f.skip cs = [] →
    again' u f names items before ('\x7b' :: (cs ++ ')' :: u)) = none

variable {rest : List Char} (h : Stopped again again' rest.length)
include h

theorem fenced_repeatTurn (f : Flags) (names : List String) (items before : List Item) (least : Nat)
    (most : Option Nat) {cs : List Char} (short : cs.length ≤ rest.length) :
    Fenced (repeatTurn again f names items before least most cs)
      fun u => repeatTurn (again' u) f names items before least most (cs ++ ')' :: u) := by
  unfold repeatTurn
  cases repeatLast items least most with
  | none => exact Local.fail.fenced cs
  | some items =>
    exact (local_dropLazy.fenced cs).bind
      (g := fun read => again f names items before read.2)
      (k := fun u read => again' u f names items before read.2)
      (fun _ more same => h.fenced f names items before more
        (Nat.le_trans (local_dropLazy.leaves cs _ more same).length_le short))
      (fun u _ more => h.leaves' u f names items before more)
      fun u _ _ => h.atEnd u f names items before

theorem repeatTurn_nil (u : List Char) (f : Flags) (names : List String) (items before : List Item)
    (least : Nat) (most : Option Nat) :
    repeatTurn (again' u) f names items before least most [] =
      repeatTurn again f names items before least most [] := by
  rw [repeatTurn, repeatTurn]
  cases repeatLast items least most with
  | none => rfl
  | some items => exact h.atEnd u f names items before

theorem fenced_closeGroup (body : Item) (f : Flags) (names : List String)
    (items before : List Item) {cs : List Char} (short : cs.length ≤ rest.length) :
    Fenced (closeGroup body (fun item => again f names (item :: items) before) cs)
      fun u => closeGroup body (fun item => again' u f names (item :: items) before)
        (cs ++ ')' :: u) := by
  cases cs with
  | nil => exact .runsOut fun u _ => h.leaves' u _ _ _ _ u
  | cons c cs =>
    simp only [closeGroup, onHead, List.cons_append]
    rw [List.length_cons] at short
    split
    · exact h.fenced _ _ _ _ cs (by omega)
    · exact Local.fail.fenced cs

theorem fenced_groupTurn (f : Flags) (names : List String) (items before : List Item) :
    Fenced (groupTurn again f names items before rest)
      fun u => groupTurn (again' u) f names items before (rest ++ ')' :: u) := by
  unfold groupTurn
  refine ((local_groupHead f names).fenced rest).bind (fun head cs same => ?_)
    (fun u head cs => ?_) fun u head _ => ?_
  · have short := ((local_groupHead f names).leaves rest head cs same).length_le
    dsimp only
    split
    · refine (h.fenced _ _ _ _ cs short).bind (fun inner more found => ?_) (fun u inner more => ?_)
        fun _ _ _ => rfl
      · have shorter := (h.leaves _ _ _ _ cs inner more found).length_le
        exact fenced_closeGroup h _ _ _ _ _ (Nat.le_trans shorter short)
      · exact leaves_closeGroup (h.leaves' u) _ _ _ _ _ more
    · exact h.fenced _ _ _ _ cs short
  · dsimp only
    split
    · exact (h.leaves' u _ _ _ _ cs).bind fun inner rest =>
        leaves_closeGroup (h.leaves' u) _ _ _ _ _ rest
    · exact h.leaves' u _ _ _ _ cs
  · dsimp only
    split
    · rw [h.atEnd]
      cases found : again head.2.1 head.2.2 [] [] [] with
      | none => rfl
      | some read =>
        obtain ⟨inner, more⟩ := read
        obtain rfl := List.suffix_nil.mp (h.leaves _ _ _ _ [] inner more found)
        rfl
    · exact h.atEnd u _ _ _ _

theorem fenced_atomTurn (f : Flags) (names : List String) (items before : List Item) (c : Char) :
    Fenced ((readAtom f (c :: rest)).bind fun read => again f names (read.1 :: items) before read.2)
      fun u => (readAtom f (c :: (rest ++ ')' :: u))).bind fun read =>
        again' u f names (read.1 :: items) before read.2 := by
  by_cases settled : c = '\\' → ∀ more, rest = 'b' :: more → ¬OpenBrace f more
  · exact (fenced_readAtom f settled).bind
      (g := fun read => again f names (read.1 :: items) before read.2)
      (k := fun u read => again' u f names (read.1 :: items) before read.2)
      (fun item more same => h.fenced f names _ before more
        (leaves_readAtom f c rest item more same).length_le)
      (fun u item more => h.leaves' u f names _ before more)
      fun u item _ => h.atEnd u f names _ before
  · -- The brace is then read as the start of a count, and there is none.
    push Not at settled
    obtain ⟨rfl, more, rfl, braced⟩ := settled
    obtain ⟨alone, longer⟩ := readEscape_openBrace f braced
    rw [readAtom_escape, alone]
    refine .runsOut fun u line => ?_
    rw [List.cons_append, readAtom_escape]
    rcases longer u line with none | boundary
    · rw [none]
      exact .none u
    · obtain ⟨blanks, rfl, blank⟩ := braced
      rw [boundary]
      change Leaves u (again' u f names _ before ('\x7b' :: (blanks ++ ')' :: u)))
      rw [h.brace u f names _ before blanks line blank]
      exact .none u

theorem fenced_branchTurn (f : Flags) (names : List String) (items before : List Item) (c : Char) :
    Fenced (branchTurn again f names items before c rest)
      fun u => branchTurn (again' u) f names items before c (rest ++ ')' :: u) := by
  unfold branchTurn
  split
  · exact h.fenced _ _ _ _ rest (Nat.le_refl _)
  split
  · exact fenced_repeatTurn h _ _ _ _ _ _ (Nat.le_refl _)
  split
  · exact ((local_bounds f).fenced rest).bind
      (g := fun read => repeatTurn again f names items before read.1.1 read.1.2 read.2)
      (k := fun u read => repeatTurn (again' u) f names items before read.1.1 read.1.2 read.2)
      (fun read more same => fenced_repeatTurn h _ _ _ _ _ _
        ((local_bounds f).leaves rest read more same).length_le)
      (fun u read more => leaves_repeatTurn (h.leaves' u) _ _ _ _ _ _ more)
      fun u read _ => repeatTurn_nil h u _ _ _ _ _ _
  split
  · exact fenced_groupTurn h f names items before
  · exact fenced_atomTurn h f names items before c

end

theorem leaves_branches (fuel : Nat) (f : Flags) (names : List String) (items before : List Item)
    (cs : List Char) : Leaves cs (branches fuel f names items before cs) := by
  induction fuel generalizing f names items before cs with
  | zero => exact .none cs
  | succ fuel ih =>
    rw [branches_succ]
    have suffix := f.skip_suffix cs
    generalize f.skip cs = text at suffix
    cases text with
    | nil => exact .some suffix _
    | cons c rest =>
      dsimp only
      split
      · exact .some suffix _
      · exact (leaves_branchTurn ih f names items before c rest).of_suffix
          ((List.suffix_cons c rest).trans suffix)

theorem branches_nil {fuel : Nat} (positive : 0 < fuel) (f : Flags) (names : List String)
    (items before : List Item) :
    branches fuel f names items before [] = some (joined f names items before, []) := by
  obtain ⟨fuel, rfl⟩ := Nat.exists_eq_add_one_of_ne_zero positive.ne'
  rw [branches_succ, f.skip_nil]

theorem branches_brace (fuel : Nat) (f : Flags) (names : List String) (items before : List Item)
    {cs u : List Char} (line : '\n' ∉ u) (blank : f.skip cs = []) :
    branches fuel f names items before ('\x7b' :: (cs ++ ')' :: u)) = none := by
  cases fuel with
  | zero => rfl
  | succ fuel =>
    have stays (rest : List Char) : f.skip ('\x7b' :: rest) = '\x7b' :: rest := by
      rw [Flags.skip]
      split <;> rfl
    rw [branches_succ, stays]
    dsimp only
    rw [if_neg (by decide)]
    unfold branchTurn
    rw [if_neg (by decide), if_neg (by decide), if_pos rfl, bounds_of_skip f blank line]
    rfl

theorem stopped_branches {fuel length : Nat} {more : List Char → Nat} (positive : 0 < fuel)
    (positive' : ∀ u, 0 < more u)
    (fenced : ∀ f names items before cs, cs.length ≤ length →
      Fenced (branches fuel f names items before cs)
        fun u => branches (more u) f names items before (cs ++ ')' :: u)) :
    Stopped (branches fuel) (fun u => branches (more u)) length where
  fenced := fenced
  leaves := leaves_branches fuel
  leaves' u := leaves_branches (more u)
  atEnd u f names items before := by rw [branches_nil (positive' u), branches_nil positive]
  brace u f names items before _ := branches_brace (more u) f names items before

theorem fenced_branches {fuel : Nat} {more : List Char → Nat} (f : Flags) (names : List String)
    (items before : List Item) {cs : List Char} (few : cs.length < fuel)
    (enough : ∀ u, cs.length + u.length + 1 < more u) :
    Fenced (branches fuel f names items before cs)
      fun u => branches (more u) f names items before (cs ++ ')' :: u) := by
  induction fuel generalizing f names items before cs more with
  | zero => omega
  | succ fuel ih =>
    obtain ⟨less, rfl, room⟩ := exists_less enough
    simp only [branches_succ]
    have skipped := (local_skip f).fenced cs
    generalize found : f.skip cs = text at skipped
    cases skipped with
    | stops left =>
      have left (u : List Char) (line : '\n' ∉ u) : f.skip (cs ++ ')' :: u) = text ++ ')' :: u :=
        congrArg Prod.snd (Option.some.inj (left u line))
      cases text with
      | nil =>
        refine .stops fun u line => ?_
        rw [left u line]
        rfl
      | cons c rest =>
        have shorter := Flags.length_of_skip found
        have stopped : Stopped (branches fuel) (fun u => branches (less u)) rest.length :=
          stopped_branches (by omega) (fun u => by have := room u; omega)
            fun f names items before cs short =>
              ih f names items before (by omega) fun u => by have := room u; omega
        refine Fenced.congr ?_ fun u line => by rw [left u line, List.cons_append]
        dsimp only
        split
        · exact .stops fun _ _ => rfl
        · exact fenced_branchTurn stopped f names items before c
    | hides same =>
      refine .hides fun u line => ?_
      have nothing : f.skip (cs ++ ')' :: u) = [] :=
        congrArg Prod.snd (Option.some.inj (same u line))
      rw [nothing]

def Stops (found : Option (Read × List Char)) : Prop :=
  ∀ read rest, found = some (read, rest) → rest = [] ∨ rest.head? = some ')'

theorem Stops.none : Stops none := nofun

theorem Stops.bind {found : Option (α × List Char)}
    {next : α × List Char → Option (Read × List Char)} (h : ∀ read, Stops (next read)) :
    Stops (found.bind next) := by
  cases found with
  | none => exact .none
  | some read => exact h read

theorem stops_branchTurn {again : Flags → List String → List Item → List Item → Reader Read}
    (h : ∀ f names items before cs, Stops (again f names items before cs)) (f : Flags)
    (names : List String) (items before : List Item) (c : Char) (rest : List Char) :
    Stops (branchTurn again f names items before c rest) := by
  have repeats (least : Nat) (most : Option Nat) (rest : List Char) :
      Stops (repeatTurn again f names items before least most rest) := by
    rw [repeatTurn]
    cases repeatLast items least most with
    | none => exact .none
    | some items => exact h f names items before _
  have closes (body : Item) (names : List String) (rest : List Char) :
      Stops (closeGroup body (fun item => again f names (item :: items) before) rest) := by
    cases rest with
    | nil => exact .none
    | cons c rest =>
      rw [closeGroup, onHead]
      split
      · exact h f names _ before rest
      · exact .none
  unfold branchTurn
  split
  · exact h f names [] _ rest
  split
  · exact repeats _ _ rest
  split
  · exact .bind fun read => repeats _ _ _
  split
  · refine .bind fun head => ?_
    split
    · exact .bind fun inner => closes _ _ _
    · exact h _ _ _ before _
  · exact .bind fun read => h f names _ before _

theorem stops_branches (fuel : Nat) (f : Flags) (names : List String) (items before : List Item)
    (cs : List Char) : Stops (branches fuel f names items before cs) := by
  induction fuel generalizing f names items before cs with
  | zero => exact .none
  | succ fuel ih =>
    rw [branches_succ]
    cases f.skip cs with
    | nil =>
      rintro _ _ ⟨⟩
      exact .inl rfl
    | cons c rest =>
      dsimp only
      split
      · rename_i close
        rintro _ _ ⟨⟩
        exact .inr (congrArg some close)
      · exact stops_branchTurn ih f names items before c rest

end Profiling.Pattern
