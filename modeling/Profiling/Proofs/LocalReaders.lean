import Mathlib.Data.List.Infix
import Profiling.Pattern.Class

/-!
# Readers and what stands behind their text

A reader that gets a text with a closing parenthesis behind it does with the text what it does
with the text alone, and leaves the parenthesis. There are two other ways. If it fails for want of
text, it may go on past the parenthesis; and if the text ends in a comment, everything behind it
on the line is part of that comment.
-/

namespace Profiling.Pattern

abbrev Reader (α : Type) := List Char → Option (α × List Char)

variable {α β : Type}

def Leaves (cs : List Char) (found : Option (α × List Char)) : Prop :=
  ∀ a rest, found = some (a, rest) → rest <:+ cs

/-- What is found in a text alone, and what with a closing parenthesis and the rest of a line
behind it. -/
inductive Fenced : Option (α × List Char) → (List Char → Option (α × List Char)) → Prop
  | stops {a : α} {rest : List Char} {longer : List Char → Option (α × List Char)}
      (left : ∀ u, '\n' ∉ u → longer u = some (a, rest ++ ')' :: u)) :
      Fenced (some (a, rest)) longer
  | runsOut {longer : List Char → Option (α × List Char)}
      (past : ∀ u, '\n' ∉ u → Leaves u (longer u)) : Fenced none longer
  | hides {a : α} {longer : List Char → Option (α × List Char)}
      (same : ∀ u, '\n' ∉ u → longer u = some (a, [])) : Fenced (some (a, [])) longer

/-- A closing parenthesis stops the reader, and what it leaves is an end of its text. -/
structure Local (read : Reader α) : Prop where
  leaves : ∀ cs, Leaves cs (read cs)
  fenced : ∀ cs, Fenced (read cs) fun u => read (cs ++ ')' :: u)

theorem Leaves.none (cs : List Char) : Leaves cs (none : Option (α × List Char)) := nofun

theorem Leaves.some {cs rest : List Char} (h : rest <:+ cs) (a : α) :
    Leaves cs (some (a, rest)) := by
  rintro _ _ ⟨⟩
  exact h

theorem Leaves.of_suffix {cs front : List Char} {found : Option (α × List Char)}
    (h : Leaves front found) (suffix : front <:+ cs) : Leaves cs found :=
  fun a rest same => (h a rest same).trans suffix

theorem Leaves.bind {cs : List Char} {found : Option (α × List Char)} (h : Leaves cs found)
    {next : α × List Char → Option (β × List Char)} (h' : ∀ a rest, Leaves rest (next (a, rest))) :
    Leaves cs (found.bind next) := by
  cases found with
  | none => exact .none cs
  | some read => exact (h' read.1 read.2).of_suffix (h read.1 read.2 rfl)

theorem Leaves.map {cs : List Char} {found : Option (α × List Char)} (h : Leaves cs found)
    (f : α → β) : Leaves cs (found.map fun (a, rest) => (f a, rest)) := by
  rintro b rest same
  obtain ⟨⟨a, rest⟩, read, ⟨⟩⟩ := Option.map_eq_some_iff.mp same
  exact h a rest read

namespace Fenced

theorem congr {alone : Option (α × List Char)} {longer longer' : List Char → Option (α × List Char)}
    (h : Fenced alone longer) (same : ∀ u, '\n' ∉ u → longer' u = longer u) :
    Fenced alone longer' := by
  cases h with
  | stops left => exact .stops fun u line => (same u line).trans (left u line)
  | runsOut past => exact .runsOut fun u line => same u line ▸ past u line
  | hides nothing => exact .hides fun u line => (same u line).trans (nothing u line)

/-- The second reader may be another one for the longer text, such as one with more fuel. -/
theorem bind {alone : Option (α × List Char)} {longer : List Char → Option (α × List Char)}
    (h : Fenced alone longer) {g : α × List Char → Option (β × List Char)}
    {k : List Char → α × List Char → Option (β × List Char)}
    (each : ∀ a rest, alone = some (a, rest) →
      Fenced (g (a, rest)) fun u => k u (a, rest ++ ')' :: u))
    (leaves : ∀ u a rest, Leaves rest (k u (a, rest)))
    (atEnd : ∀ u a, alone = some (a, []) → k u (a, []) = g (a, [])) :
    Fenced (alone.bind g) fun u => (longer u).bind (k u) := by
  cases h with
  | stops left =>
    rename_i a rest
    have after := each a rest rfl
    rw [Option.bind_some]
    generalize g (a, rest) = found at after
    cases after with
    | stops left' =>
      refine .stops fun u line => ?_
      rw [left u line, Option.bind_some]
      exact left' u line
    | runsOut past =>
      refine .runsOut fun u line => ?_
      rw [left u line, Option.bind_some]
      exact past u line
    | hides same =>
      refine .hides fun u line => ?_
      rw [left u line, Option.bind_some]
      exact same u line
  | runsOut past => exact .runsOut fun u line => (past u line).bind (leaves u)
  | hides same =>
    rename_i a
    rw [Option.bind_some]
    cases found : g (a, []) with
    | none =>
      refine .runsOut fun u line => ?_
      rw [same u line, Option.bind_some, atEnd u a rfl, found]
      exact .none u
    | some read =>
      obtain ⟨b, rest⟩ := read
      have nothing : rest <:+ [] := leaves [] a [] b rest ((atEnd [] a rfl).trans found)
      obtain rfl := List.suffix_nil.mp nothing
      refine .hides fun u line => ?_
      rw [same u line, Option.bind_some, atEnd u a rfl, found]

theorem map {alone : Option (α × List Char)} {longer : List Char → Option (α × List Char)}
    (h : Fenced alone longer) (f : α → β) :
    Fenced (alone.map fun (a, rest) => (f a, rest))
      fun u => (longer u).map fun (a, rest) => (f a, rest) := by
  cases h with
  | stops left => exact .stops fun u line => by rw [left u line]; rfl
  | runsOut past => exact .runsOut fun u line => (past u line).map f
  | hides same => exact .hides fun u line => by rw [same u line]; rfl

end Fenced

namespace Local

theorem pure (a : α) : Local fun cs => some (a, cs) where
  leaves _ := .some List.suffix_rfl a
  fenced _ := .stops fun _ _ => rfl

theorem fail : Local fun _ => (none : Option (α × List Char)) where
  leaves := .none
  fenced _ := .runsOut fun u _ => .none u

theorem bind {read : Reader α} (h : Local read) {g : α × List Char → Option (β × List Char)}
    (h' : ∀ a, Local fun rest => g (a, rest)) : Local fun cs => (read cs).bind g where
  leaves cs := (h.leaves cs).bind fun a rest => (h' a).leaves rest
  fenced cs := (h.fenced cs).bind (fun a rest _ => (h' a).fenced rest)
    (fun _ a rest => (h' a).leaves rest) fun _ _ _ => rfl

theorem map {read : Reader α} (h : Local read) (f : α → β) :
    Local fun cs => (read cs).map fun (a, rest) => (f a, rest) where
  leaves cs := (h.leaves cs).map f
  fenced cs := (h.fenced cs).map f

/-- A value that may be missing does not depend on the text. -/
theorem given {γ : Type} (found : Option γ) {next : γ → Reader α} (h : ∀ a, Local (next a)) :
    Local fun cs => found.bind fun a => next a cs := by
  cases found with
  | none => exact .fail
  | some a => exact h a

/-- A condition that does not depend on the text. -/
theorem ite {p : Prop} [Decidable p] {first other : Reader α} (h : p → Local first)
    (h' : ¬p → Local other) : Local fun cs => if p then first cs else other cs := by
  by_cases condition : p
  · simpa only [condition, if_true] using h condition
  · simpa only [condition, if_false] using h' condition

/-- A reader that takes a first character. -/
theorem of_cons {read : Reader α} (nil : read [] = none)
    (each : ∀ c, Local fun rest => read (c :: rest)) : Local read where
  leaves cs := by
    cases cs with
    | nil => rw [nil]; exact .none []
    | cons c rest => exact ((each c).leaves rest).of_suffix (List.suffix_cons c rest)
  fenced cs := by
    cases cs with
    | nil =>
      rw [nil]
      exact .runsOut fun u _ => (each ')').leaves u
    | cons c rest => exact (each c).fenced rest

/-- A reader that takes a certain character if it comes first. -/
theorem of_head {read other : Reader α} {c : Char} (inner : c ≠ ')')
    (first : Local fun rest => read (c :: rest)) (h : Local other)
    (no : ∀ cs, cs.head? ≠ some c → read cs = other cs) : Local read where
  leaves cs := by
    by_cases head : cs.head? = some c
    · obtain ⟨rest, rfl⟩ := List.head?_eq_some_iff.mp head
      exact (first.leaves rest).of_suffix (List.suffix_cons c rest)
    · rw [no cs head]
      exact h.leaves cs
  fenced cs := by
    by_cases head : cs.head? = some c
    · obtain ⟨rest, rfl⟩ := List.head?_eq_some_iff.mp head
      exact first.fenced rest
    · rw [no cs head]
      refine (h.fenced cs).congr fun u _ => no _ ?_
      cases cs with
      | nil => exact fun same => inner (Option.some.inj same).symm
      | cons d rest => exact head

/-- A reader that only looks whether a certain character comes first. -/
theorem of_peek {read other : Reader α} {c : Char} (inner : c ≠ ')') (a : α)
    (yes : ∀ rest, read (c :: rest) = some (a, c :: rest)) (h : Local other)
    (no : ∀ cs, cs.head? ≠ some c → read cs = other cs) : Local read where
  leaves cs := by
    by_cases head : cs.head? = some c
    · obtain ⟨rest, rfl⟩ := List.head?_eq_some_iff.mp head
      rw [yes rest]
      exact .some List.suffix_rfl a
    · rw [no cs head]
      exact h.leaves cs
  fenced cs := by
    by_cases head : cs.head? = some c
    · obtain ⟨rest, rfl⟩ := List.head?_eq_some_iff.mp head
      rw [yes rest]
      exact .stops fun u _ => yes _
    · rw [no cs head]
      refine (h.fenced cs).congr fun u _ => no _ ?_
      cases cs with
      | nil => exact fun same => inner (Option.some.inj same).symm
      | cons d rest => exact head

end Local

theorem dropBlanks_suffix (comment : Bool) (cs : List Char) : dropBlanks comment cs <:+ cs := by
  induction cs generalizing comment with
  | nil => exact List.suffix_rfl
  | cons c cs ih =>
    have later {d : Bool} := (ih d).trans (List.suffix_cons c cs)
    cases comment with
    | true => exact later
    | false =>
      rw [dropBlanks]
      split
      · exact later
      · split
        · exact later
        · exact List.suffix_rfl

theorem dropBlanks_comment {u : List Char} (line : '\n' ∉ u) : dropBlanks true u = [] := by
  induction u with
  | nil => rfl
  | cons c u ih =>
    obtain ⟨head, rest⟩ := not_or.mp (List.mem_cons.not.mp line)
    rw [dropBlanks, decide_eq_true (Ne.symm head)]
    exact ih rest

theorem fenced_dropBlanks (comment : Bool) (cs : List Char) :
    Fenced (some ((), dropBlanks comment cs))
      fun u => some ((), dropBlanks comment (cs ++ ')' :: u)) := by
  induction cs generalizing comment with
  | nil =>
    cases comment with
    | true =>
      refine .hides fun u line => ?_
      rw [List.nil_append, dropBlanks_comment]
      simp [line]
    | false => exact .stops fun u _ => rfl
  | cons c cs ih =>
    cases comment with
    | true => exact ih _
    | false =>
      simp only [List.cons_append, dropBlanks]
      split
      · exact ih false
      · split
        · exact ih true
        · exact .stops fun _ _ => rfl

theorem Flags.skip_suffix (f : Flags) (cs : List Char) : f.skip cs <:+ cs := by
  rw [skip]
  split
  · exact dropBlanks_suffix false cs
  · exact List.suffix_rfl

theorem Flags.skip_nil (f : Flags) : f.skip [] = [] :=
  List.suffix_nil.mp (f.skip_suffix [])

theorem local_skip (f : Flags) : Local fun cs => some ((), f.skip cs) where
  leaves cs := .some (f.skip_suffix cs) ()
  fenced cs := by
    simp only [Flags.skip]
    split
    · exact fenced_dropBlanks false cs
    · exact .stops fun _ _ => rfl

/-- Only what is behind a comment at the end of the text is skipped with the text. -/
theorem Flags.skip_append (f : Flags) (cs : List Char) {u : List Char} (line : '\n' ∉ u) :
    f.skip (cs ++ ')' :: u) = f.skip cs ++ ')' :: u ∨
      f.skip cs = [] ∧ f.skip (cs ++ ')' :: u) = [] := by
  have skipped := (local_skip f).fenced cs
  generalize f.skip cs = text at skipped
  cases skipped with
  | stops left => exact .inl (congrArg Prod.snd (Option.some.inj (left u line)))
  | hides same => exact .inr ⟨rfl, congrArg Prod.snd (Option.some.inj (same u line))⟩

theorem Flags.skip_append_of_cons {f : Flags} {cs rest u : List Char} {c : Char}
    (found : f.skip cs = c :: rest) (line : '\n' ∉ u) :
    f.skip (cs ++ ')' :: u) = c :: (rest ++ ')' :: u) := by
  rcases f.skip_append cs line with same | ⟨nothing, -⟩
  · rw [same, found, List.cons_append]
  · rw [found] at nothing
    cases nothing

theorem Local.skip {read : Reader α} (h : Local read) (f : Flags) :
    Local fun cs => read (f.skip cs) := by
  have whole : Local fun cs => (some ((), f.skip cs)).bind fun skipped => read skipped.2 :=
    (local_skip f).bind fun _ => h
  exact whole

theorem Flags.length_of_skip {f : Flags} {cs rest : List Char} {c : Char}
    (found : f.skip cs = c :: rest) : rest.length < cs.length := by
  have short := (f.skip_suffix cs).length_le
  rw [found, List.length_cons] at short
  omega

def onHead (turn : Char → Reader α) : Reader α
  | [] => none
  | c :: rest => turn c rest

theorem local_onHead {turn : Char → Reader α} (h : ∀ c, Local (turn c)) : Local (onHead turn) :=
  .of_cons rfl h

theorem Leaves.turn {f : Flags} {cs : List Char} {turn : Char → Reader α}
    (h : ∀ c rest, Leaves rest (turn c rest)) : Leaves cs (onHead turn (f.skip cs)) := by
  cases found : f.skip cs with
  | nil => exact .none cs
  | cons c rest =>
    exact (h c rest).of_suffix
      ((List.suffix_cons c rest).trans (found ▸ f.skip_suffix cs))

/-- A turn that is taken with different fuel in the longer text. -/
theorem Fenced.turn {f : Flags} {cs : List Char} {turn : Char → Reader α}
    {turn' : List Char → Char → Reader α} (past : ∀ u, Leaves u (turn' u ')' u))
    (each : ∀ c rest, f.skip cs = c :: rest →
      Fenced (turn c rest) fun u => turn' u c (rest ++ ')' :: u)) :
    Fenced (onHead turn (f.skip cs)) fun u => onHead (turn' u) (f.skip (cs ++ ')' :: u)) := by
  have skipped := (local_skip f).fenced cs
  generalize found : f.skip cs = text at skipped
  cases skipped with
  | stops left =>
    have left (u : List Char) (line : '\n' ∉ u) : f.skip (cs ++ ')' :: u) = text ++ ')' :: u :=
      congrArg Prod.snd (Option.some.inj (left u line))
    cases text with
    | nil =>
      refine .runsOut fun u line => ?_
      rw [left u line]
      exact past u
    | cons c rest =>
      have after := each c rest found
      rw [onHead]
      generalize turn c rest = result at after
      cases after with
      | stops left' => exact .stops fun u line => by rw [left u line]; exact left' u line
      | runsOut past => exact .runsOut fun u line => by rw [left u line]; exact past u line
      | hides same => exact .hides fun u line => by rw [left u line]; exact same u line
  | hides same =>
    refine .runsOut fun u line => ?_
    have nothing : f.skip (cs ++ ')' :: u) = [] :=
      congrArg Prod.snd (Option.some.inj (same u line))
    rw [nothing]
    exact .none u

theorem exists_less {n : Nat} {more : List Char → Nat} (enough : ∀ u, n + u.length + 1 < more u) :
    ∃ less : List Char → Nat, (more = fun u => less u + 1) ∧
      ∀ u, n + u.length + 1 ≤ less u := by
  refine ⟨fun u => more u - 1, funext fun u => ?_, fun u => Nat.le_pred_of_lt (enough u)⟩
  exact (Nat.succ_pred_eq_of_pos (Nat.zero_lt_of_lt (enough u))).symm

theorem length_before (cs u : List Char) :
    cs.length + u.length + 1 < (cs ++ ')' :: u).length + 1 := by
  rw [List.length_append, List.length_cons]
  omega

end Profiling.Pattern
