import Profiling.Pattern.Parser
import Profiling.Proofs.LocalClasses

/-!
# Parts of a pattern and what stands behind them

The head of a group, the bounds of a repetition and an atom are complete with their last
character, so a closing parenthesis behind one is left where it is. One that is not complete may
go on past the parenthesis.
-/

namespace Profiling.Pattern

def flagList (seen : List Char) (f : Flags) : Reader (List Char × Flags × Char) := fun cs =>
  (readFlags cs seen f).map fun (seen, f, stop, rest) => ((seen, f, stop), rest)

theorem flagList_cons (seen : List Char) (f : Flags) (c : Char) (cs : List Char) :
    flagList seen f (c :: cs) =
      if c = ':' || c = ')' then
        if seen.head? = some '-' then none else some ((seen, f, c), cs)
      else if seen.contains c then none
      else if c = '-' then flagList ('-' :: seen) f cs
      else (f.set c (!seen.contains '-')).bind fun f => flagList (c :: seen) f cs := by
  simp only [flagList, readFlags]
  split
  · split <;> rfl
  split
  · rfl
  split
  · rfl
  · cases f.set c (!seen.contains '-') <;> rfl

theorem leaves_flagList (seen : List Char) (f : Flags) (cs : List Char) :
    Leaves cs (flagList seen f cs) := by
  induction cs generalizing seen f with
  | nil => exact .none []
  | cons c cs ih =>
    refine Leaves.of_suffix ?_ (List.suffix_cons c cs)
    rw [flagList_cons]
    split
    · split
      · exact .none cs
      · exact .some List.suffix_rfl _
    split
    · exact .none cs
    split
    · exact ih _ f
    · cases f.set c (!seen.contains '-') with
      | none => exact .none cs
      | some f => exact ih _ f

theorem local_flagList (seen : List Char) (f : Flags) : Local (flagList seen f) where
  leaves := leaves_flagList seen f
  fenced cs := by
    induction cs generalizing seen f with
    | nil =>
      refine .runsOut fun u _ => ?_
      rw [List.nil_append, flagList_cons]
      simp only [decide_true, Bool.or_true, if_true]
      split
      · exact .none u
      · exact .some List.suffix_rfl _
    | cons c cs ih =>
      simp only [List.cons_append, flagList_cons]
      split
      · split
        · exact Local.fail.fenced cs
        · exact .stops fun _ _ => rfl
      split
      · exact Local.fail.fenced cs
      split
      · exact ih _ f
      · cases f.set c (!seen.contains '-') with
        | none => exact Local.fail.fenced cs
        | some f => exact ih _ f

theorem readGroupName_append_of_mem {cs : List Char} (closed : '>' ∈ cs) (u : List Char) :
    readGroupName (cs ++ u) = (readGroupName cs).map fun (name, rest) => (name, rest ++ u) := by
  obtain ⟨front, back, rfl, first⟩ := List.eq_append_cons_of_mem closed
  have plain : ∀ c ∈ front, decide (c ≠ '>') = true := by
    intro c member
    rw [decide_eq_true_eq]
    rintro rfl
    exact first member
  have read (back : List Char) : readGroupName (front ++ '>' :: back) =
      match front with
      | c :: more =>
        if isNameStart c && more.all isNamePart then some (String.ofList front, back) else none
      | [] => none := by
    unfold readGroupName
    rw [List.takeWhile_append_of_pos plain, List.dropWhile_append_of_pos plain]
    cases front with
    | nil => rfl
    | cons c more => simp
  rw [List.append_assoc, List.cons_append, read, read]
  cases front with
  | nil => rfl
  | cons c more =>
    dsimp only
    split <;> rfl

theorem leaves_readGroupName (cs : List Char) :
    Leaves (cs.dropWhile (· ≠ '>')) (readGroupName cs) := by
  unfold readGroupName
  dsimp only
  split
  · rename_i rest _ after
    rw [after]
    split
    · exact .some (List.suffix_cons '>' rest) _
    · exact .none _
  · exact .none _

theorem local_readGroupName : Local readGroupName where
  leaves cs := (leaves_readGroupName cs).of_suffix (List.dropWhile_suffix _)
  fenced cs := by
    by_cases closed : '>' ∈ cs
    · simp only [readGroupName_append_of_mem closed]
      cases readGroupName cs with
      | none => exact .runsOut fun u _ => .none u
      | some read => exact .stops fun _ _ => rfl
    · have unclosed : ∀ c ∈ cs, decide (c ≠ '>') = true := by
        intro c member
        rw [decide_eq_true_eq]
        rintro rfl
        exact closed member
      have alone : readGroupName cs = none := by
        unfold readGroupName
        rw [List.dropWhile_eq_nil_iff.mpr unclosed]
        dsimp only
        split
        · rename_i missing
          cases missing
        · rfl
      rw [alone]
      refine .runsOut fun u _ => (leaves_readGroupName _).of_suffix ?_
      rw [List.dropWhile_append_of_pos unclosed, List.dropWhile_cons_of_pos (by decide)]
      exact List.dropWhile_suffix _

section

variable (f : Flags) (names : List String)

/-- The state that a parenthesis leads to, and whether it opens a group. -/
def GroupHead.view : GroupHead → (Bool × Flags × List String) × List Char
  | .body s => ((true, s.flags, s.names), s.input)
  | .flags s => ((false, s.flags, s.names), s.input)

def groupHead : Reader (Bool × Flags × List String) := fun cs =>
  (readGroupHead { flags := f, names, input := [] } cs).map GroupHead.view

def namedGroup : Reader (Bool × Flags × List String) := fun cs =>
  (readGroupName cs).bind fun read =>
    if names.contains read.1 then none else some ((true, f, read.1 :: names), read.2)

def groupFlags : Reader (Bool × Flags × List String) := fun cs =>
  (flagList [] f cs).bind fun read =>
    if read.1.2.2 = ':' then some ((true, read.1.2.1, names), read.2)
    else if read.1.1.isEmpty then none
    else some ((false, read.1.2.1, names), read.2)

theorem local_namedGroup : Local (namedGroup f names) := by
  have fresh (name : String) : Local fun rest =>
      if names.contains name then none else some ((true, f, name :: names), rest) := by
    split
    · exact .fail
    · exact .pure _
  exact local_readGroupName.bind fresh

theorem local_groupFlags : Local (groupFlags f names) := by
  have named (read : List Char × Flags × Char) : Local fun rest =>
      if read.2.2 = ':' then some ((true, read.2.1, names), rest)
      else if read.1.isEmpty then none
      else some ((false, read.2.1, names), rest) := by
    split
    · exact .pure _
    split
    · exact .fail
    · exact .pure _
  exact (local_flagList [] f).bind named

/-- Refuses what looks ahead or behind. -/
def unlessLook (read : Reader (Bool × Flags × List String)) : Reader (Bool × Flags × List String) :=
  fun cs => if cs.head? = some '=' then none else if cs.head? = some '!' then none else read cs

def questionHead : Reader (Bool × Flags × List String) :=
  unlessLook fun cs =>
    if cs.head? = some '<' then unlessLook (namedGroup f names) cs.tail
    else if cs.head? = some 'P' && cs.tail.head? = some '<' then namedGroup f names cs.tail.tail
    else groupFlags f names cs

theorem local_unlessLook {read : Reader (Bool × Flags × List String)} (h : Local read) :
    Local (unlessLook read) := by
  have behind : Local fun cs => if cs.head? = some '!' then none else read cs :=
    .of_head (by decide : '!' ≠ ')') .fail h fun cs other => if_neg other
  exact .of_head (by decide : '=' ≠ ')') .fail behind fun cs other => if_neg other

theorem local_questionHead : Local (questionHead f names) := by
  have noFlag (rest : List Char) : groupFlags f names ('P' :: rest) = none := by
    rw [groupFlags, flagList_cons]
    rfl
  have python : Local fun cs : List Char => if cs.head? = some 'P' && cs.tail.head? = some '<' then
      namedGroup f names cs.tail.tail else groupFlags f names cs := by
    refine .of_head (by decide : 'P' ≠ ')') ?_ (local_groupFlags f names) fun cs other => ?_
    · refine .of_head (by decide : '<' ≠ ')') (local_namedGroup f names) .fail fun rest other => ?_
      simp [other, noFlag]
    · simp [other]
  refine local_unlessLook (.of_head (by decide : '<' ≠ ')') ?_ python fun cs other => if_neg other)
  exact local_unlessLook (local_namedGroup f names)

theorem head_ne {text : List Char} {c : Char} (never : ∀ rest, text = c :: rest → False) :
    text.head? ≠ some c := by
  intro head
  obtain ⟨rest, same⟩ := List.head?_eq_some_iff.mp head
  exact never rest same

theorem groupHead_eq (cs : List Char) :
    groupHead f names cs =
      if (f.skip cs).head? = some '?' then questionHead f names (f.skip cs).tail
      else some ((true, f, names), f.skip cs) := by
  have named (rest : List Char) : (readNamed { flags := f, names, input := [] } rest).map
      GroupHead.view = namedGroup f names rest := by
    rw [readNamed, namedGroup]
    cases readGroupName rest with
    | none => rfl
    | some read =>
      simp only [bind, Option.bind]
      split <;> rfl
  unfold groupHead readGroupHead
  dsimp only
  generalize f.skip cs = text
  split
  · rfl
  · rfl
  · rfl
  · rfl
  · exact named _
  · rename_i rest ahead behind
    rw [named]
    simp [questionHead, unlessLook, head_ne ahead, head_ne behind]
  · rename_i rest equal mark _ _ python angle
    have other : ¬(rest.head? = some 'P' && rest.tail.head? = some '<') = true := by
      intro both
      obtain ⟨head, next⟩ := by simpa only [Bool.and_eq_true, decide_eq_true_eq] using both
      obtain ⟨more, rfl⟩ := List.head?_eq_some_iff.mp head
      obtain ⟨last, rfl⟩ := List.head?_eq_some_iff.mp next
      exact python last rfl
    rw [List.head?_cons, if_pos rfl, List.tail_cons, questionHead, unlessLook,
      if_neg (head_ne equal), if_neg (head_ne mark), if_neg (head_ne angle), if_neg other,
      groupFlags, flagList]
    cases readFlags rest [] f with
    | none => rfl
    | some read =>
      simp only [bind, Option.bind, Option.map_some]
      split
      · rfl
      · split <;> rfl
  · rename_i other
    rw [if_neg (head_ne other)]
    rfl

theorem local_groupHead : Local (groupHead f names) := by
  have either : Local fun cs : List Char => if cs.head? = some '?' then questionHead f names cs.tail
      else some ((true, f, names), cs) :=
    .of_head (by decide : '?' ≠ ')') (local_questionHead f names) (.pure _)
      fun cs other => if_neg other
  rw [funext (groupHead_eq f names)]
  exact either.skip f

end

section

variable (f : Flags)

theorem local_dropLazy : Local fun cs => some ((), dropLazy cs) := by
  refine .of_head (by decide : '?' ≠ ')') (.pure ()) (.pure ()) fun cs other => ?_
  unfold dropLazy
  split
  · simp at other
  · rfl

theorem readDigits_cons (fuel : Nat) (c : Char) (rest : List Char) :
    readDigits f (fuel + 1) (c :: rest) =
      if Digits.isDigit 10 c then
        (c :: (readDigits f fuel (f.skip rest)).1, (readDigits f fuel (f.skip rest)).2)
      else ([], c :: rest) :=
  rfl

theorem readDigits_nil (fuel : Nat) : readDigits f fuel [] = ([], []) := by
  cases fuel <;> rfl

theorem readDigits_suffix (fuel : Nat) (cs : List Char) : (readDigits f fuel cs).2 <:+ cs := by
  induction fuel generalizing cs with
  | zero => exact List.suffix_rfl
  | succ fuel ih =>
    cases cs with
    | nil => exact List.suffix_rfl
    | cons c rest =>
      rw [readDigits_cons]
      split
      · exact (ih _).trans ((f.skip_suffix rest).trans (List.suffix_cons c rest))
      · exact List.suffix_rfl

theorem fenced_readDigits {fuel : Nat} {more : List Char → Nat} {cs : List Char}
    (few : cs.length < fuel) (enough : ∀ u, cs.length + u.length + 1 < more u) :
    Fenced (some (readDigits f fuel cs))
      fun u => some (readDigits f (more u) (cs ++ ')' :: u)) := by
  induction fuel generalizing cs more with
  | zero => omega
  | succ fuel ih =>
    obtain ⟨less, rfl, room⟩ := exists_less enough
    cases cs with
    | nil => exact .stops fun u _ => rfl
    | cons c rest =>
      simp only [List.cons_append, readDigits_cons, List.length_cons] at few room ⊢
      split
      · have skipped := (local_skip f).fenced rest
        exact skipped.bind
          (g := fun read => some (c :: (readDigits f fuel read.2).1, (readDigits f fuel read.2).2))
          (k := fun u read => some (c :: (readDigits f (less u) read.2).1,
            (readDigits f (less u) read.2).2))
          (fun _ more same => by
            have short := ((local_skip f).leaves rest _ more same).length_le
            dsimp only
            exact (ih (by omega) fun u => by have := room u; omega).map (c :: ·))
          (fun u _ more => .some (readDigits_suffix f _ more) _)
          fun u _ _ => by rw [readDigits_nil, readDigits_nil]
      · exact .stops fun _ _ => rfl

theorem local_readDigits : Local fun cs => some (readDigits f (cs.length + 1) cs) where
  leaves cs := .some (readDigits_suffix f (cs.length + 1) cs) (readDigits f (cs.length + 1) cs).1
  fenced cs := fenced_readDigits f (Nat.lt_succ_self _) (length_before cs)

theorem local_dropSpace : Local fun cs => some ((), cs.dropWhile Unicode.isWhiteSpace) :=
  (local_span (p := Unicode.isWhiteSpace) rfl).map fun _ => ()

theorem readCount_eq (cs : List Char) :
    readCount f cs = (some ((), cs.dropWhile Unicode.isWhiteSpace)).bind fun blank =>
      (some (readDigits f (blank.2.length + 1) blank.2)).bind fun read =>
        (Digits.read? 10 (1 <<< 32) read.1).bind fun n =>
          (some ((), read.2.dropWhile Unicode.isWhiteSpace)).bind fun blank =>
            some (n, f.skip blank.2) := by
  simp only [readCount, Option.bind_some]
  cases Digits.read? 10 (1 <<< 32) _ <;> rfl

theorem local_readCount : Local (readCount f) := by
  have after (n : Nat) : Local fun rest => (some ((), rest.dropWhile Unicode.isWhiteSpace)).bind
      fun blank => some (n, f.skip blank.2) :=
    local_dropSpace.bind fun _ => (Local.pure n).skip f
  rw [funext (readCount_eq f)]
  refine local_dropSpace.bind fun _ => (local_readDigits f).bind fun digits => ?_
  exact .given (Digits.read? 10 (1 <<< 32) digits) after

def upperBound : Reader (Option Nat) := fun cs =>
  if cs.head? = some '\x7d' then some (none, cs)
  else (readCount f cs).map fun (most, rest) => (some most, rest)

def boundAfter (least : Nat) : Reader (Option Nat) := fun cs =>
  if cs.head? = some ',' then upperBound f (f.skip cs.tail) else some (some least, cs)

def closeBounds (least : Nat) (most : Option Nat) : Reader (Nat × Option Nat) :=
  onHead fun c rest =>
    if c = '\x7d' then
      if most.getD least < least then none else some ((least, most), f.skip rest)
    else none

def bounds : Reader (Nat × Option Nat) := fun cs =>
  (readBounds f cs).map fun (least, most, rest) => ((least, most), rest)

theorem upperBound_eq (cs : List Char) :
    upperBound f cs = match cs with
      | '\x7d' :: rest => some (none, '\x7d' :: rest)
      | rest => (readCount f rest).map fun (most, rest) => (some most, rest) := by
  unfold upperBound
  split
  · rename_i head
    obtain ⟨rest, rfl⟩ := List.head?_eq_some_iff.mp head
    rfl
  · split
    · simp_all
    · rfl

theorem boundAfter_eq (least : Nat) (cs : List Char) :
    boundAfter f least cs = match cs with
      | ',' :: rest => upperBound f (f.skip rest)
      | rest => some (some least, rest) := by
  unfold boundAfter
  split
  · rename_i head
    obtain ⟨rest, rfl⟩ := List.head?_eq_some_iff.mp head
    rfl
  · split
    · simp_all
    · rfl

theorem closeBounds_eq (least : Nat) (most : Option Nat) (cs : List Char) :
    closeBounds f least most cs = (match cs with
      | '\x7d' :: rest =>
        if most.getD least < least then none else some (least, most, f.skip rest)
      | _ => none).map fun (least, most, rest) => ((least, most), rest) := by
  cases cs with
  | nil => rfl
  | cons c rest =>
    by_cases closing : c = '\x7d'
    · subst closing
      simp only [closeBounds, onHead, if_true]
      split <;> rfl
    · simp [closeBounds, onHead, closing]

theorem bounds_eq (cs : List Char) :
    bounds f cs = (readCount f (f.skip cs)).bind fun low =>
      (boundAfter f low.1 low.2).bind fun high => closeBounds f low.1 high.1 high.2 := by
  simp only [boundAfter_eq, upperBound_eq, closeBounds_eq]
  rw [bounds, readBounds]
  cases readCount f (f.skip cs) with
  | none => rfl
  | some low =>
    simp only [bind, Option.bind_some]
    exact Option.map_bind

theorem local_upperBound : Local (upperBound f) :=
  .of_peek (by decide : '\x7d' ≠ ')') none (fun _ => rfl) ((local_readCount f).map some)
    fun cs other => if_neg other

theorem local_boundAfter (least : Nat) : Local (boundAfter f least) :=
  .of_head (by decide : ',' ≠ ')') ((local_upperBound f).skip f) (.pure (some least))
    fun cs other => if_neg other

theorem local_closeBounds (least : Nat) (most : Option Nat) : Local (closeBounds f least most) := by
  refine local_onHead fun c => ?_
  split
  · split
    · exact .fail
    · exact (Local.pure (least, most)).skip f
  · exact .fail

theorem local_bounds : Local (bounds f) := by
  have high (least : Nat) : Local fun rest => (boundAfter f least rest).bind fun high =>
      closeBounds f least high.1 high.2 :=
    (local_boundAfter f least).bind (local_closeBounds f least)
  rw [funext (bounds_eq f)]
  exact ((local_readCount f).skip f).bind high

/-- Bounds that stop after their brace are none. -/
theorem bounds_of_skip {cs u : List Char} (blank : f.skip cs = []) (line : '\n' ∉ u) :
    bounds f (cs ++ ')' :: u) = none := by
  rw [bounds_eq]
  rcases f.skip_append cs line with same | ⟨-, nothing⟩
  · rw [same, blank]
    rfl
  · rw [nothing]
    rfl

theorem local_escapedItem (escaped : Escaped) :
    Local fun rest => (escapedItem f escaped).bind fun item => some (item, rest) :=
  .given (escapedItem f escaped) fun item => .pure item

theorem readAtom_escape (rest : List Char) :
    readAtom f ('\\' :: rest) = (readEscape f rest).bind fun read =>
      (escapedItem f read.1).bind fun item => some (item, read.2) :=
  rfl

theorem local_readAtom {c : Char} (plain : c ≠ '\\') :
    Local fun rest => readAtom f (c :: rest) := by
  by_cases bracket : c = '['
  · subst bracket
    exact (local_readClass f).map fun cls => ({ pattern := .char cls, nest := 1 } : Item)
  by_cases dot : c = '.'
  · subst dot
    have any (rest : List Char) : readAtom f ('.' :: rest) =
        f.dot.bind fun cls => some ({ pattern := .char cls }, rest) := by
      rw [readAtom]
      cases f.dot <;> rfl
    rw [funext any]
    exact .given f.dot fun cls => .pure ({ pattern := .char cls } : Item)
  by_cases start : c = '^'
  · subst start
    exact .pure _
  by_cases stop : c = '$'
  · subst stop
    exact .pure _
  have literal (rest : List Char) : readAtom f (c :: rest) =
      (f.literal c false).bind fun cls => some ({ pattern := .char cls }, rest) := by
    simp only [readAtom]
    cases f.literal c false <;> rfl
  rw [funext literal]
  exact .given (f.literal c false) fun cls => .pure ({ pattern := .char cls } : Item)

theorem leaves_readAtom (c : Char) (rest : List Char) : Leaves rest (readAtom f (c :: rest)) := by
  by_cases escape : c = '\\'
  · subst escape
    rw [readAtom_escape]
    exact (leaves_readEscape f rest).bind fun escaped => (local_escapedItem f escaped).leaves
  · exact (local_readAtom f escape).leaves rest

theorem fenced_readAtom {c : Char} {rest : List Char}
    (settled : c = '\\' → ∀ more, rest = 'b' :: more → ¬OpenBrace f more) :
    Fenced (readAtom f (c :: rest)) fun u => readAtom f (c :: (rest ++ ')' :: u)) := by
  by_cases escape : c = '\\'
  · subst escape
    simp only [readAtom_escape]
    exact (fenced_readEscape f (settled rfl)).bind (fun escaped rest _ =>
      (local_escapedItem f escaped).fenced rest)
      (fun _ escaped rest => (local_escapedItem f escaped).leaves rest) fun _ _ _ => rfl
  · exact (local_readAtom f escape).fenced rest

end

end Profiling.Pattern
