import Mathlib.Data.List.TakeWhile
import Profiling.Proofs.LocalEscapes

/-!
# Classes and what stands behind them

A class is not complete before its closing bracket, so what stands behind the bracket does not
matter, and without the bracket everything on the line is read as part of the class.
-/

namespace Profiling.Pattern

variable (f : Flags)

def memberOf (f : Flags) : Escaped × List Char → Option (Member × List Char)
  | (.literal c byte, rest) =>
    if f.unicode || c.toNat < 128 || byte then some (.one c, rest) else none
  | (.cls cls, rest) => some (.set cls, rest)
  | (.look _, _) => none

theorem readMember_escape (cs : List Char) :
    readMember f ('\\' :: cs) = (readEscape f cs).bind (memberOf f) := by
  rw [readMember]
  cases readEscape f cs with
  | none => rfl
  | some read =>
    obtain ⟨escaped, rest⟩ := read
    cases escaped <;> rfl

theorem local_memberOf (escaped : Escaped) : Local fun rest => memberOf f (escaped, rest) := by
  cases escaped with
  | literal c byte =>
    simp only [memberOf]
    split
    · exact .pure _
    · exact .fail
  | cls cls => exact .pure _
  | look a => exact .fail

theorem readMember_boundary (cs : List Char) : readMember f ('\\' :: 'b' :: cs) = none := by
  rw [readMember_escape, Option.bind_eq_none_iff]
  rintro ⟨escaped, rest⟩ found
  obtain ⟨a, rfl⟩ := exists_look f found
  rfl

theorem local_readMember (c : Char) : Local fun rest => readMember f (c :: rest) := by
  by_cases escape : c = '\\'
  · subst escape
    refine .of_cons (by rw [readMember_escape]; rfl) fun c => ?_
    by_cases b : c = 'b'
    · subst b
      rw [funext (readMember_boundary f)]
      exact .fail
    · simp only [readMember_escape]
      exact (local_readEscape f b).bind (local_memberOf f)
  · have plain (rest : List Char) : readMember f (c :: rest) =
        if f.unicode || c.toNat < 128 then some (.one c, rest) else none := by
      unfold readMember
      split
      · contradiction
      · simp_all
      · simp_all
    rw [funext plain]
    split
    · exact .pure _
    · exact .fail

def Member.upTo : Member → Member → Option CharClass
  | .one a, .one b => if a ≤ b then some (.range a b) else none
  | _, _ => none

def rangeEnd (f : Flags) (first : Member) : Reader CharClass := fun cs =>
  (readMember f (f.skip cs)).bind fun read => (first.upTo read.1).bind fun cls => some (cls, read.2)

def rangeFrom (f : Flags) (first : Member) : Reader CharClass := fun cs =>
  if opensRange f cs then rangeEnd f first cs.tail else some (first.toClass, cs)

theorem readRange_eq (cs : List Char) :
    readRange f cs = (readMember f cs).bind fun read => rangeFrom f read.1 (f.skip read.2) := by
  refine congrArg (readMember f cs).bind (funext fun read => ?_)
  obtain ⟨first, rest⟩ := read
  rw [rangeFrom]
  refine if_congr Iff.rfl ?_ rfl
  refine congrArg (Option.bind _) (funext fun read => ?_)
  obtain ⟨last, rest⟩ := read
  cases first with
  | set cls => rfl
  | one a =>
    cases last with
    | set cls => rfl
    | one b =>
      dsimp only [Member.upTo]
      split <;> rfl

theorem local_rangeEnd (first : Member) : Local (rangeEnd f first) := by
  have member : Local (readMember f) := .of_cons rfl (local_readMember f)
  exact (member.skip f).bind fun last => .given (first.upTo last) fun cls => .pure cls

theorem opensRange_of_ne {c : Char} (other : c ≠ '-') (rest : List Char) :
    opensRange f (c :: rest) = false := by
  unfold opensRange
  split <;> simp_all

theorem opensRange_append (cs : List Char) {u : List Char} (line : '\n' ∉ u) :
    opensRange f (cs ++ ')' :: u) = opensRange f cs := by
  cases cs with
  | nil => rfl
  | cons c rest =>
    by_cases hyphen : c = '-'
    · subst hyphen
      rw [List.cons_append, opensRange, opensRange]
      rcases f.skip_append rest line with same | ⟨nothing, nothing'⟩
      · rw [same]
        cases f.skip rest <;> rfl
      · rw [nothing, nothing']
    · rw [List.cons_append, opensRange_of_ne f hyphen, opensRange_of_ne f hyphen]

theorem local_rangeFrom (first : Member) : Local (rangeFrom f first) where
  leaves cs := by
    rw [rangeFrom]
    split
    · exact ((local_rangeEnd f first).leaves _).of_suffix (List.tail_suffix cs)
    · exact .some List.suffix_rfl _
  fenced cs := by
    have longer (u : List Char) (line : '\n' ∉ u) : rangeFrom f first (cs ++ ')' :: u) =
        if opensRange f cs then rangeEnd f first (cs ++ ')' :: u).tail
        else some (first.toClass, cs ++ ')' :: u) := by
      rw [rangeFrom, opensRange_append f cs line]
    refine Fenced.congr ?_ longer
    rw [rangeFrom]
    cases cs with
    | nil => exact .stops fun _ _ => rfl
    | cons c rest =>
      split
      · exact (local_rangeEnd f first).fenced rest
      · exact .stops fun _ _ => rfl

theorem local_readRange (c : Char) : Local fun rest => readRange f (c :: rest) := by
  simp only [readRange_eq]
  exact (local_readMember f c).bind fun first => (local_rangeFrom f first).skip f

theorem asciiNamed_of_mem {name : List Char} (other : ')' ∈ name) :
    CharClass.asciiNamed (String.ofList name) = none := by
  have apart {text : String} (letters : ')' ∉ text.toList) : String.ofList name ≠ text := by
    rintro rfl
    exact letters (by rwa [String.toList_ofList])
  unfold CharClass.asciiNamed
  split
  all_goals first | rfl | exact absurd ‹_› (apart (by decide))

def asciiClassNamed (f : Flags) (negated : Bool) : Reader CharClass := fun cs =>
  match cs.dropWhile (· ≠ ':') with
  | ':' :: ']' :: rest =>
    (CharClass.asciiNamed (String.ofList (cs.takeWhile (· ≠ ':')))).map fun cls =>
      (.negateIf negated (f.fold cls), rest)
  | _ => none

theorem asciiClassOf_eq (cs : List Char) :
    asciiClassOf f cs =
      if cs.head? = some '^' then asciiClassNamed f true cs.tail
      else asciiClassNamed f false cs := by
  unfold asciiClassOf
  split
  rename_i negated rest split_eq
  split at split_eq
  · cases split_eq
    rfl
  · cases split_eq
    rw [if_neg]
    · rfl
    · intro head
      obtain ⟨more, rfl⟩ := List.head?_eq_some_iff.mp head
      simp_all

theorem asciiClassNamed_colon (negated : Bool) {front : List Char} (first : ':' ∉ front)
    (back : List Char) :
    asciiClassNamed f negated (front ++ ':' :: back) =
      if back.head? = some ']' then
        (CharClass.asciiNamed (String.ofList front)).map fun cls =>
          (.negateIf negated (f.fold cls), back.tail)
      else none := by
  have plain : ∀ c ∈ front, decide (c ≠ ':') = true := by
    intro c member
    rw [decide_eq_true_eq]
    rintro rfl
    exact first member
  rw [asciiClassNamed, List.dropWhile_append_of_pos plain, List.takeWhile_append_of_pos plain]
  simp only [List.dropWhile, List.takeWhile, ne_eq, not_true, decide_false, List.append_nil]
  cases back with
  | nil => rfl
  | cons c back =>
    by_cases bracket : c = ']'
    · subst bracket
      rfl
    · rw [List.head?_cons, if_neg fun head => bracket (Option.some.inj head)]
      split
      · simp_all
      · rfl

/-- With a colon in the text nothing behind the text matters, and without one the parenthesis
would be part of the name. -/
theorem asciiClassNamed_append (negated : Bool) (cs u : List Char) :
    asciiClassNamed f negated (cs ++ ')' :: u) =
      (asciiClassNamed f negated cs).map fun (cls, rest) => (cls, rest ++ ')' :: u) := by
  by_cases colon : ':' ∈ cs
  · obtain ⟨front, back, rfl, first⟩ := List.eq_append_cons_of_mem colon
    rw [List.append_assoc, List.cons_append, asciiClassNamed_colon f negated first,
      asciiClassNamed_colon f negated first]
    cases back with
    | nil => rfl
    | cons c back =>
      rw [List.cons_append, List.head?_cons, List.tail_cons, List.head?_cons, List.tail_cons]
      split
      · cases CharClass.asciiNamed (String.ofList front) <;> rfl
      · rfl
  · have plain : ∀ c ∈ cs, decide (c ≠ ':') = true := by
      intro c member
      rw [decide_eq_true_eq]
      rintro rfl
      exact colon member
    have alone : asciiClassNamed f negated cs = none := by
      rw [asciiClassNamed, List.dropWhile_eq_nil_iff.mpr plain]
    rw [alone, asciiClassNamed, List.takeWhile_append_of_pos plain]
    split
    · rw [asciiNamed_of_mem]
      · rfl
      · simp
    · rfl

theorem readAsciiClass_append (cs u : List Char) :
    readAsciiClass f (cs ++ ')' :: u) =
      (readAsciiClass f cs).map fun (cls, rest) => (cls, rest ++ ')' :: u) := by
  cases cs with
  | nil => rfl
  | cons c rest =>
    by_cases colon : c = ':'
    · subst colon
      rw [List.cons_append, readAsciiClass, readAsciiClass, asciiClassOf_eq, asciiClassOf_eq]
      cases rest with
      | nil => exact asciiClassNamed_append f false [] u
      | cons d rest =>
        rw [List.cons_append, List.head?_cons, List.head?_cons, List.tail_cons, List.tail_cons]
        split
        · exact asciiClassNamed_append f true rest u
        · exact asciiClassNamed_append f false (d :: rest) u
    · have none (rest : List Char) : readAsciiClass f (c :: rest) = none := by
        unfold readAsciiClass
        split
        · simp_all
        · rfl
      rw [List.cons_append, none, none]
      rfl

theorem leaves_asciiClassNamed (negated : Bool) (cs : List Char) :
    Leaves cs (asciiClassNamed f negated cs) := by
  unfold asciiClassNamed
  split
  · rename_i rest found
    have suffix : rest <:+ cs := by
      refine List.IsSuffix.trans ?_ (List.dropWhile_suffix (· ≠ ':'))
      rw [found]
      exact (List.suffix_cons ']' rest).trans (List.suffix_cons ':' _)
    cases CharClass.asciiNamed _ with
    | none => exact .none cs
    | some cls => exact .some suffix _
  · exact .none cs

theorem leaves_readAsciiClass (cs : List Char) : Leaves cs (readAsciiClass f cs) := by
  unfold readAsciiClass
  split
  · rename_i rest
    rw [asciiClassOf_eq]
    refine Leaves.of_suffix ?_ (List.suffix_cons ':' rest)
    split
    · exact (leaves_asciiClassNamed f true _).of_suffix (List.tail_suffix rest)
    · exact leaves_asciiClassNamed f false rest
  · exact .none _

/-- The characters before the first that is of another kind, where the parenthesis is. -/
theorem local_span {p : Char → Bool} (other : p ')' = false) :
    Local fun cs => some (cs.takeWhile p, cs.dropWhile p) where
  leaves cs := .some (List.dropWhile_suffix p) _
  fenced cs := by
    refine .stops fun u _ => ?_
    induction cs with
    | nil => simp [other]
    | cons c cs ih =>
      simp only [Option.some.injEq, Prod.mk.injEq] at ih
      cases kind : p c <;> simp [kind, ih]

theorem drop_length_takeWhile (p : Char → Bool) (cs : List Char) :
    cs.drop (cs.takeWhile p).length = cs.dropWhile p := by
  induction cs with
  | nil => rfl
  | cons c cs ih => cases kind : p c <;> simp [kind, ih]

def leadingAfter (f : Flags) (hyphens : List Char) : Reader CharClass := fun cs =>
  if hyphens.contains '-' then some (.single '-', cs)
  else if cs.head? = some ']' then some (.single ']', f.skip cs.tail)
  else some (.nothing, cs)

theorem readLeading_eq (cs : List Char) :
    some (readLeading f cs) =
      (some (cs.takeWhile fun c => c = '-' || (f.ignoreSpace && Unicode.isWhiteSpace c),
        cs.dropWhile fun c => c = '-' || (f.ignoreSpace && Unicode.isWhiteSpace c))).bind
        fun read => leadingAfter f read.1 (f.skip read.2) := by
  rw [Option.bind_some, readLeading]
  dsimp only
  rw [drop_length_takeWhile]
  generalize f.skip _ = rest
  unfold leadingAfter
  split
  · rfl
  · cases rest with
    | nil => rfl
    | cons c rest =>
      by_cases bracket : c = ']'
      · subst bracket
        rfl
      · simp [bracket]

theorem local_leadingAfter (hyphens : List Char) : Local (leadingAfter f hyphens) := by
  unfold leadingAfter
  split
  · exact .pure _
  · exact .of_head (by decide : ']' ≠ ')') ((Local.pure (CharClass.single ']')).skip f)
      (.pure CharClass.nothing) fun cs other => if_neg other

theorem local_readLeading : Local fun cs => some (readLeading f cs) := by
  have hyphens := local_span (p := fun c => c = '-' || (f.ignoreSpace && Unicode.isWhiteSpace c))
    (by cases f.ignoreSpace <;> rfl)
  rw [funext (readLeading_eq f)]
  exact hyphens.bind fun read => (local_leadingAfter f read).skip f

def openAt : Reader ClassState := fun cs =>
  if cs.head? = some '^' then
    (some (readLeading f (f.skip cs.tail))).bind fun read =>
      some ({ negated := true, members := read.1 }, read.2)
  else
    (some (readLeading f cs)).bind fun read =>
      some ({ negated := false, members := read.1 }, read.2)

theorem openClass_eq (cs : List Char) : some (openClass f cs) = openAt f (f.skip cs) := by
  unfold openClass
  generalize f.skip cs = text
  cases text with
  | nil => rfl
  | cons c rest =>
    by_cases negation : c = '^'
    · subst negation
      rfl
    · simp [openAt, negation]

theorem local_openClass : Local fun cs => some (openClass f cs) := by
  have members (negated : Bool) : Local fun cs =>
      (some (readLeading f cs)).bind fun read =>
        some (({ negated, members := read.1 } : ClassState), read.2) :=
    (local_readLeading f).bind fun members => .pure ({ negated, members } : ClassState)
  have either : Local (openAt f) :=
    .of_head (by decide : '^' ≠ ')') ((members true).skip f) (members false)
      fun cs other => if_neg other
  rw [funext (openClass_eq f)]
  exact either.skip f

def operator? (c : Char) (rest : List Char) : Option ClassOp :=
  if rest.head? ≠ some c then none
  else if c = '&' then some .inter
  else if c = '-' then some .diff
  else if c = '~' then some .symmDiff
  else none

theorem operator?_append (c : Char) (rest u : List Char) :
    operator? c (rest ++ ')' :: u) = operator? c rest := by
  cases rest with
  | cons d rest => rfl
  | nil =>
    by_cases paren : c = ')'
    · subst paren
      rfl
    · have other : some ')' ≠ some c := fun same => paren (Option.some.inj same).symm
      simp [operator?, other]

theorem ne_nil_of_operator? {c : Char} {rest : List Char} {op : ClassOp}
    (found : operator? c rest = some op) : rest = c :: rest.tail := by
  cases rest with
  | nil => simp [operator?] at found
  | cons d rest =>
    by_cases same : d = c
    · rw [same, List.tail_cons]
    · simp [operator?, same] at found

/-- One turn of reading the members of a class; `again` reads on. -/
def memberTurn (f : Flags) (again : List ClassState → ClassState → Reader CharClass)
    (outer : List ClassState) (s : ClassState) (c : Char) : Reader CharClass := fun rest =>
  if c = '[' then
    match readAsciiClass f rest with
    | some (cls, rest) => again outer (s.add cls) rest
    | none => again (s :: outer) (openClass f rest).1 (openClass f rest).2
  else if c = ']' then
    match outer with
    | [] => some (s.close f, rest)
    | around :: outer => again outer (around.add (s.close f)) rest
  else
    match operator? c rest with
    | some op => again outer (s.operate f op) rest.tail
    | none => (readRange f (c :: rest)).bind fun read => again outer (s.add read.1) read.2

theorem readMembers_succ (fuel : Nat) (outer : List ClassState) (s : ClassState) (cs : List Char) :
    readMembers f (fuel + 1) outer s cs =
      onHead (memberTurn f (readMembers f fuel) outer s) (f.skip cs) := by
  unfold readMembers
  generalize f.skip cs = text
  cases text with
  | nil => rfl
  | cons c rest =>
    rw [onHead]
    unfold memberTurn
    by_cases opening : c = '['
    · subst opening
      rfl
    by_cases closing : c = ']'
    · subst closing
      rfl
    rw [if_neg opening, if_neg closing]
    cases found : operator? c rest with
    | some op =>
      obtain ⟨rest, rfl⟩ : ∃ more, rest = c :: more := ⟨_, ne_nil_of_operator? found⟩
      simp only [operator?, List.head?_cons, ne_eq, not_true, if_false] at found
      split_ifs at found with inter diff symmDiff
      · subst inter
        cases found
        rfl
      · subst diff
        cases found
        rfl
      · subst symmDiff
        cases found
        rfl
    | none =>
      split
      · simp_all
      · simp_all
      · simp_all
      · rename_i same
        cases same
        simp [operator?] at found
      · rename_i same
        cases same
        simp [operator?] at found
      · rename_i same
        cases same
        simp [operator?] at found
      · cases readRange f (c :: rest) <;> rfl

section

variable {again : List ClassState → ClassState → Reader CharClass}

theorem leaves_memberTurn (leaves : ∀ outer s cs, Leaves cs (again outer s cs))
    (outer : List ClassState) (s : ClassState) (c : Char) (rest : List Char) :
    Leaves rest (memberTurn f again outer s c rest) := by
  unfold memberTurn
  split
  · split
    · rename_i cls more named
      exact (leaves outer _ more).of_suffix (leaves_readAsciiClass f rest cls more named)
    · exact (leaves _ _ _).of_suffix ((local_openClass f).leaves rest _ _ rfl)
  split
  · cases outer with
    | nil => exact .some List.suffix_rfl _
    | cons around outer => exact leaves outer _ rest
  split
  · exact (leaves outer _ _).of_suffix (List.tail_suffix rest)
  · exact ((local_readRange f c).leaves rest).bind fun cls more => leaves outer _ more

theorem fenced_memberTurn
    (again' : List Char → List ClassState → ClassState → Reader CharClass) {rest : List Char}
    (shorter : ∀ outer s cs, cs.length ≤ rest.length →
      Fenced (again outer s cs) fun u => again' u outer s (cs ++ ')' :: u))
    (leaves : ∀ u outer s cs, Leaves cs (again' u outer s cs))
    (atEnd : ∀ u outer s, again' u outer s [] = again outer s [])
    (outer : List ClassState) (s : ClassState) (c : Char) :
    Fenced (memberTurn f again outer s c rest)
      fun u => memberTurn f (again' u) outer s c (rest ++ ')' :: u) := by
  unfold memberTurn
  split
  · simp only [readAsciiClass_append]
    cases named : readAsciiClass f rest with
    | some read =>
      exact shorter outer _ read.2 (leaves_readAsciiClass f rest read.1 read.2 named).length_le
    | none =>
      have opened := (local_openClass f).fenced rest
      exact opened.bind (g := fun read => again (s :: outer) read.1 read.2)
        (k := fun u read => again' u (s :: outer) read.1 read.2)
        (fun inner more same => shorter _ inner more
          ((local_openClass f).leaves rest inner more same).length_le)
        (fun u => leaves u _) fun u inner _ => atEnd u _ inner
  split
  · cases outer with
    | nil => exact .stops fun _ _ => rfl
    | cons around outer => exact shorter outer _ rest (Nat.le_refl _)
  simp only [operator?_append]
  cases found : operator? c rest with
  | some op =>
    have tail := ne_nil_of_operator? found
    rw [tail]
    exact shorter outer _ rest.tail (by simp)
  | none =>
    have read := (local_readRange f c).fenced rest
    exact read.bind (g := fun read => again outer (s.add read.1) read.2)
      (k := fun u read => again' u outer (s.add read.1) read.2)
      (fun cls more same => shorter _ _ more
        ((local_readRange f c).leaves rest cls more same).length_le)
      (fun u cls more => leaves u outer (s.add cls) more) fun u cls _ => atEnd u outer (s.add cls)

end

theorem leaves_readMembers (fuel : Nat) (outer : List ClassState) (s : ClassState)
    (cs : List Char) : Leaves cs (readMembers f fuel outer s cs) := by
  induction fuel generalizing outer s cs with
  | zero => exact .none cs
  | succ fuel ih =>
    rw [readMembers_succ]
    exact .turn (leaves_memberTurn f ih outer s)

theorem readMembers_nil (fuel : Nat) (outer : List ClassState) (s : ClassState) :
    readMembers f fuel outer s [] = none := by
  cases fuel with
  | zero => rfl
  | succ fuel => rw [readMembers_succ, f.skip_nil, onHead]

theorem fenced_readMembers {fuel : Nat} {more : List Char → Nat} (outer : List ClassState)
    (s : ClassState) {cs : List Char} (few : cs.length < fuel)
    (enough : ∀ u, cs.length + u.length + 1 < more u) :
    Fenced (readMembers f fuel outer s cs)
      fun u => readMembers f (more u) outer s (cs ++ ')' :: u) := by
  induction fuel generalizing outer s cs more with
  | zero => omega
  | succ fuel ih =>
    obtain ⟨less, rfl, room⟩ := exists_less enough
    simp only [readMembers_succ]
    refine .turn (fun u => leaves_memberTurn f (leaves_readMembers f _) outer s ')' u)
      fun c rest found => ?_
    have shorter := Flags.length_of_skip found
    refine fenced_memberTurn f (fun u => readMembers f (less u)) ?_
      (fun u => leaves_readMembers f _) ?_ outer s c
    · intro outer s cs short
      exact ih outer s (by omega) fun u => by have := room u; omega
    · intro u outer s
      rw [readMembers_nil, readMembers_nil]

theorem local_readClass : Local (readClass f) := by
  have textual (cls : CharClass) :
      Local fun rest => if isTextual f cls then some (cls, rest) else none := by
    split
    · exact .pure cls
    · exact .fail
  have members : Local fun cs => (some (openClass f cs)).bind fun opened =>
      readMembers f (cs.length + 1) [] opened.1 opened.2 := by
    constructor
    · intro cs
      exact ((local_openClass f).leaves cs).bind (leaves_readMembers f _ [])
    · intro cs
      refine ((local_openClass f).fenced cs).bind
        (k := fun u opened => readMembers f ((cs ++ ')' :: u).length + 1) [] opened.1 opened.2)
        (fun s rest opened => ?_) (fun u => leaves_readMembers f _ []) fun u s _ => ?_
      · have short := ((local_openClass f).leaves cs s rest opened).length_le
        dsimp only
        exact fenced_readMembers f [] s (by omega) fun u => by have := length_before cs u; omega
      · rw [readMembers_nil, readMembers_nil]
  exact members.bind (g := fun read => if isTextual f read.1 then some read else none) textual

end Profiling.Pattern
