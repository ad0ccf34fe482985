import Profiling.Proofs.LocalReaders

/-!
# Escapes and what stands behind them

The readers of escapes stop at a closing parenthesis behind their text. Only after `\b` it takes
the character behind an opening brace to tell whether the brace starts a name.
-/

namespace Profiling.Pattern

/-- A hexadecimal digit and those that `again` takes behind it. -/
def digitTurn (again : Reader (List Char)) (c : Char) : Reader (List Char) := fun rest =>
  if Digits.isDigit 16 c then (again rest).map fun read => (c :: read.1, read.2) else none

theorem leaves_digitTurn {again : Reader (List Char)} {c : Char} {rest : List Char}
    (h : Leaves rest (again rest)) : Leaves rest (digitTurn again c rest) := by
  rw [digitTurn]
  split
  · exact h.map (c :: ·)
  · exact .none rest

theorem fenced_digitTurn {again : Reader (List Char)} {longer : List Char → Reader (List Char)}
    {c : Char} {rest : List Char}
    (h : Fenced (again rest) fun u => longer u (rest ++ ')' :: u)) :
    Fenced (digitTurn again c rest) fun u => digitTurn (longer u) c (rest ++ ')' :: u) := by
  simp only [digitTurn]
  split
  · exact h.map (c :: ·)
  · exact .runsOut fun u _ => .none u

theorem takeHex_succ (f : Flags) (count : Nat) (cs : List Char) :
    takeHex f (count + 1) cs = onHead (digitTurn (takeHex f count)) (f.skip cs) := by
  rw [takeHex]
  cases f.skip cs <;> rfl

theorem local_takeHex (f : Flags) (count : Nat) : Local (takeHex f count) := by
  induction count with
  | zero => exact .pure []
  | succ count ih =>
    have turn (c : Char) : Local (digitTurn (takeHex f count) c) :=
      ⟨fun rest => leaves_digitTurn (ih.leaves rest), fun rest => fenced_digitTurn (ih.fenced rest)⟩
    rw [funext (takeHex_succ f count)]
    exact (local_onHead turn).skip f

section

variable (f : Flags)

theorem takeBraced_succ (fuel : Nat) (cs : List Char) :
    takeBraced f (fuel + 1) cs = onHead (fun c rest =>
      if c = '}' then some ([], rest) else digitTurn (takeBraced f fuel) c rest) (f.skip cs) := by
  rw [takeBraced]
  cases f.skip cs with
  | nil => rfl
  | cons c rest =>
    by_cases brace : c = '}'
    · subst brace
      rfl
    · simp only [onHead, brace, if_false]
      rfl

theorem leaves_takeBraced (fuel : Nat) (cs : List Char) : Leaves cs (takeBraced f fuel cs) := by
  induction fuel generalizing cs with
  | zero => exact .none cs
  | succ fuel ih =>
    rw [takeBraced_succ]
    refine .turn fun c rest => ?_
    split
    · exact .some List.suffix_rfl []
    · exact leaves_digitTurn (ih rest)

theorem fenced_takeBraced {fuel : Nat} {more : List Char → Nat} {cs : List Char}
    (few : cs.length < fuel) (enough : ∀ u, cs.length + u.length + 1 < more u) :
    Fenced (takeBraced f fuel cs) fun u => takeBraced f (more u) (cs ++ ')' :: u) := by
  induction fuel generalizing cs more with
  | zero => omega
  | succ fuel ih =>
    obtain ⟨less, rfl, room⟩ := exists_less enough
    simp only [takeBraced_succ]
    refine .turn (fun u => .none u) fun c rest found => ?_
    have shorter := Flags.length_of_skip found
    split
    · exact .stops fun _ _ => rfl
    · exact fenced_digitTurn (ih (by omega) fun u => by have := room u; omega)

theorem local_takeBraced : Local fun cs => takeBraced f (cs.length + 1) cs where
  leaves cs := leaves_takeBraced f _ cs
  fenced cs := fenced_takeBraced f (Nat.lt_succ_self _) (length_before cs)

def codeAt (count : Nat) : Reader Escaped := fun cs =>
  if cs.head? = some '\x7b' then
    (takeBraced f (cs.tail.length + 1) cs.tail).bind fun read =>
      (charAt? read.1).bind fun c => some (.literal c false, read.2)
  else
    (takeHex f count cs).bind fun read =>
      (charAt? read.1).bind fun c => some (.literal c (count = 2), read.2)

theorem readCode_eq (count : Nat) (cs : List Char) :
    readCode f count cs = codeAt f count (f.skip cs) := by
  unfold readCode
  split
  · rename_i brace
    rw [brace]
    rfl
  · rename_i other
    rw [codeAt, if_neg]
    · rfl
    · intro head
      obtain ⟨rest, brace⟩ := List.head?_eq_some_iff.mp head
      exact other rest brace

theorem local_readCode (count : Nat) : Local (readCode f count) := by
  have braced : Local fun rest => (takeBraced f (rest.length + 1) rest).bind fun read =>
      (charAt? read.1).bind fun c => some (Escaped.literal c false, read.2) :=
    (local_takeBraced f).bind fun digits => .given (charAt? digits) fun c => .pure _
  have digits : Local fun cs => (takeHex f count cs).bind fun read =>
      (charAt? read.1).bind fun c => some (Escaped.literal c (count = 2), read.2) :=
    (local_takeHex f count).bind fun digits => .given (charAt? digits) fun c => .pure _
  have either : Local (codeAt f count) :=
    .of_head (by decide : '\x7b' ≠ ')') braced digits fun cs other => if_neg other
  rw [funext (readCode_eq f count)]
  exact either.skip f

theorem takeName_succ (fuel : Nat) (cs : List Char) :
    takeName f (fuel + 1) cs = onHead (fun c rest =>
      if c = '\x7d' then some ([], rest)
      else (takeName f fuel rest).map fun (name, rest) => (c :: name, rest)) (f.skip cs) := by
  rw [takeName]
  cases f.skip cs with
  | nil => rfl
  | cons c rest =>
    by_cases brace : c = '\x7d'
    · subst brace
      rfl
    · simp only [onHead, brace, if_false]

theorem leaves_takeName (fuel : Nat) (cs : List Char) : Leaves cs (takeName f fuel cs) := by
  induction fuel generalizing cs with
  | zero => exact .none cs
  | succ fuel ih =>
    rw [takeName_succ]
    refine .turn fun c rest => ?_
    split
    · exact .some List.suffix_rfl []
    · exact (ih rest).map _

theorem fenced_takeName {fuel : Nat} {more : List Char → Nat} {cs : List Char}
    (few : cs.length < fuel) (enough : ∀ u, cs.length + u.length + 1 < more u) :
    Fenced (takeName f fuel cs) fun u => takeName f (more u) (cs ++ ')' :: u) := by
  induction fuel generalizing cs more with
  | zero => omega
  | succ fuel ih =>
    obtain ⟨less, rfl, room⟩ := exists_less enough
    simp only [takeName_succ]
    refine .turn (fun u => (leaves_takeName f _ u).map _) fun c rest found => ?_
    have shorter := Flags.length_of_skip found
    split
    · exact .stops fun _ _ => rfl
    · exact (ih (by omega) fun u => by have := room u; omega).map _

theorem local_takeName : Local fun cs => takeName f (cs.length + 1) cs where
  leaves cs := leaves_takeName f _ cs
  fenced cs := fenced_takeName f (Nat.lt_succ_self _) (length_before cs)

def propertyAt : Reader (Bool × CharClass) := fun cs =>
  if cs.head? = some '\x7b' then
    (takeName f (cs.tail.length + 1) cs.tail).bind fun read =>
      (classNamed read.1).bind fun found => some (found, read.2)
  else
    onHead (fun c rest => if c = '\\' then none else
      (CharClass.ofCategoryName (CharClass.plainName (String.singleton c))).bind fun cls =>
        some ((false, cls), rest)) cs

theorem readProperty_eq (negated : Bool) (cs : List Char) :
    readProperty f negated cs = (propertyAt f (f.skip cs)).bind fun read =>
      if f.unicode then
        some (.cls (.negateIf (negated != read.1.1) (f.fold read.1.2)), read.2)
      else none := by
  unfold readProperty
  generalize f.skip cs = text
  cases text with
  | nil => rfl
  | cons c rest =>
    by_cases brace : c = '\x7b'
    · subst brace
      rfl
    · simp only [propertyAt, List.head?_cons, Option.some.injEq, brace, if_false, onHead]
      rfl

theorem local_propertyAt : Local (propertyAt f) := by
  have braced : Local fun rest => (takeName f (rest.length + 1) rest).bind fun read =>
      (classNamed read.1).bind fun found => some (found, read.2) :=
    (local_takeName f).bind fun name => .given (classNamed name) fun found => .pure found
  have lone (c : Char) : Local fun rest => if c = '\\' then none else
      (CharClass.ofCategoryName (CharClass.plainName (String.singleton c))).bind fun cls =>
        some ((false, cls), rest) := by
    split
    · exact .fail
    · exact .given _ fun cls => .pure (false, cls)
  exact .of_head (by decide : '\x7b' ≠ ')') braced (local_onHead lone)
    fun cs other => if_neg other

theorem local_readProperty (negated : Bool) : Local (readProperty f negated) := by
  rw [funext (readProperty_eq f negated)]
  refine ((local_propertyAt f).skip f).bind fun found => ?_
  dsimp only
  split
  · exact .pure _
  · exact .fail

def namedBoundary (f : Flags) : Reader Escaped := fun cs =>
  (takeName f (cs.length + 1) cs).bind fun read =>
    (boundaryNamed (!f.unicode) (String.ofList read.1)).bind fun a => some (.look a, read.2)

theorem local_namedBoundary : Local (namedBoundary f) :=
  (local_takeName f).bind fun name =>
    .given (boundaryNamed (!f.unicode) (String.ofList name)) fun a => .pure (Escaped.look a)

theorem readBoundary_of_head {cs : List Char} (other : cs.head? ≠ some '\x7b') :
    readBoundary f cs = some (.look (.boundary (!f.unicode)), cs) := by
  unfold readBoundary
  split
  · simp at other
  · rfl

theorem readBoundary_of_skip {rest more : List Char} {c : Char} (found : f.skip rest = c :: more) :
    readBoundary f ('\x7b' :: rest) =
      if c.isAlpha || c = '-' then namedBoundary f rest
      else some (.look (.boundary (!f.unicode)), '\x7b' :: rest) := by
  simp only [readBoundary, found]
  rfl

theorem leaves_readBoundary (cs : List Char) : Leaves cs (readBoundary f cs) := by
  by_cases brace : cs.head? = some '\x7b'
  · obtain ⟨rest, rfl⟩ := List.head?_eq_some_iff.mp brace
    cases found : f.skip rest with
    | nil =>
      simp only [readBoundary, found]
      exact .none _
    | cons c more =>
      rw [readBoundary_of_skip f found]
      split
      · exact ((local_namedBoundary f).leaves rest).of_suffix (List.suffix_cons _ rest)
      · exact .some List.suffix_rfl _
  · rw [readBoundary_of_head f brace]
    exact .some List.suffix_rfl _

/-- A brace with nothing but blanks behind it: what comes next tells what it is for. -/
def OpenBrace (cs : List Char) : Prop := ∃ rest, cs = '\x7b' :: rest ∧ f.skip rest = []

theorem fenced_readBoundary {cs : List Char} (settled : ¬OpenBrace f cs) :
    Fenced (readBoundary f cs) fun u => readBoundary f (cs ++ ')' :: u) := by
  by_cases brace : cs.head? = some '\x7b'
  · obtain ⟨rest, rfl⟩ := List.head?_eq_some_iff.mp brace
    cases found : f.skip rest with
    | nil => exact absurd ⟨rest, rfl, found⟩ settled
    | cons c more =>
      rw [readBoundary_of_skip f found]
      refine Fenced.congr ?_ fun u line =>
        readBoundary_of_skip f (Flags.skip_append_of_cons found line)
      split
      · exact (local_namedBoundary f).fenced rest
      · exact .stops fun _ _ => rfl
  · rw [readBoundary_of_head f brace]
    refine .stops fun u _ => readBoundary_of_head f ?_
    cases cs with
    | nil => exact nofun
    | cons c rest => exact brace

theorem local_readEscape {c : Char} (b : c ≠ 'b') : Local fun cs => readEscape f (c :: cs) := by
  unfold readEscape
  dsimp only
  refine .ite (fun _ => local_readCode f 2) fun _ => ?_
  refine .ite (fun _ => local_readCode f 4) fun _ => ?_
  refine .ite (fun _ => local_readCode f 8) fun _ => ?_
  refine .ite (fun _ => local_readProperty f false) fun _ => ?_
  refine .ite (fun _ => local_readProperty f true) fun _ => ?_
  -- All other escapes end with this character.
  refine .ite (fun _ => .pure _) fun _ => .ite (fun _ => .pure _) fun _ => ?_
  refine .ite (fun same => absurd same b) fun _ => .ite (fun _ => .pure _) fun _ => ?_
  refine .ite (fun _ => .pure _) fun _ => .ite (fun _ => .pure _) fun _ => ?_
  cases perlClass f c with
  | some cls => exact .pure _
  | none =>
    cases perlClass f c.toLower with
    | some cls => exact .pure _
    | none =>
      cases controlChar c with
      | some control => exact .pure _
      | none =>
        dsimp only
        split
        · exact .pure _
        · exact .fail

theorem leaves_readEscape (cs : List Char) : Leaves cs (readEscape f cs) := by
  cases cs with
  | nil => exact .none []
  | cons c rest =>
    refine Leaves.of_suffix ?_ (List.suffix_cons c rest)
    by_cases b : c = 'b'
    · subst b
      exact leaves_readBoundary f rest
    · exact (local_readEscape f b).leaves rest

theorem fenced_readEscape {cs : List Char}
    (settled : ∀ rest, cs = 'b' :: rest → ¬OpenBrace f rest) :
    Fenced (readEscape f cs) fun u => readEscape f (cs ++ ')' :: u) := by
  cases cs with
  | nil =>
    have closing : Local fun rest => readEscape f (')' :: rest) :=
      local_readEscape f (by decide)
    exact .runsOut fun u _ => closing.leaves u
  | cons c rest =>
    by_cases b : c = 'b'
    · subst b
      exact fenced_readBoundary f (settled rest rfl)
    · exact (local_readEscape f b).fenced rest

/-- Whether the brace starts a name is not known at the end of the text, and a parenthesis tells
that it does not. -/
theorem readEscape_openBrace {cs : List Char} (h : OpenBrace f cs) :
    readEscape f ('b' :: cs) = none ∧ ∀ u, '\n' ∉ u →
      readEscape f ('b' :: (cs ++ ')' :: u)) = none ∨
      readEscape f ('b' :: (cs ++ ')' :: u)) =
        some (.look (.boundary (!f.unicode)), cs ++ ')' :: u) := by
  obtain ⟨rest, rfl, blank⟩ := h
  have unread {rest : List Char} (blank : f.skip rest = []) :
      readBoundary f ('\x7b' :: rest) = none := by
    simp only [readBoundary, blank]
  refine ⟨unread blank, fun u line => ?_⟩
  rcases f.skip_append rest line with same | ⟨-, nothing⟩
  · rw [blank, List.nil_append] at same
    exact .inr (readBoundary_of_skip f same)
  · exact .inl (unread nothing)

/-- A boundary is nothing but an assertion. -/
theorem exists_look {cs rest : List Char} {escaped : Escaped}
    (found : readBoundary f cs = some (escaped, rest)) : ∃ a, escaped = .look a := by
  by_cases brace : cs.head? = some '\x7b'
  · obtain ⟨more, rfl⟩ := List.head?_eq_some_iff.mp brace
    cases skipped : f.skip more with
    | nil =>
      simp only [readBoundary, skipped] at found
      cases found
    | cons c last =>
      rw [readBoundary_of_skip f skipped] at found
      split at found
      · obtain ⟨named, -, looks⟩ := Option.bind_eq_some_iff.mp found
        obtain ⟨a, -, ⟨⟩⟩ := Option.bind_eq_some_iff.mp looks
        exact ⟨a, rfl⟩
      · cases found
        exact ⟨_, rfl⟩
  · rw [readBoundary_of_head f brace] at found
    cases found
    exact ⟨_, rfl⟩

end

end Profiling.Pattern
