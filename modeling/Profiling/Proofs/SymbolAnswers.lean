import Mathlib.Data.List.DropRight
import Profiling.Proofs.Digits
import Profiling.Proofs.QueryCodec
import Profiling.Symbolz

/-!
# Answers of symbol servers

Each line of an answer is read by itself: it tells the name of an address, or it tells nothing. The
names of an answer are those that its lines tell, and where several lines name one address, the
last of them counts. So whatever else stands between the lines changes nothing.
-/

namespace Profiling.Symbolz

namespace Names

theorem get?_cons (a : UInt64) (n : String) (names : Names) (address : UInt64) :
    get? ((a, n) :: names) address = if address = a then some n else names.get? address := by
  rw [get?, List.lookup_cons, beq_eq_decide]
  by_cases same : address = a <;> simp [same, get?]

theorem get?_insert (address : UInt64) (name : String) (names : Names) (other : UInt64) :
    (names.insert address name).get? other =
      if other = address then some name else names.get? other := by
  induction names with
  | nil => exact get?_cons address name [] other
  | cons entry rest ih =>
    obtain ⟨a, n⟩ := entry
    rw [insert]
    split_ifs with below here <;> simp only [get?_cons, ih] <;> grind

theorem mem_insert {address other : UInt64} {name text : String} {names : Names}
    (member : (other, text) ∈ names.insert address name) :
    other = address ∨ (other, text) ∈ names := by
  induction names with
  | nil => simp_all [insert]
  | cons entry rest ih =>
    obtain ⟨a, n⟩ := entry
    rw [insert] at member
    split_ifs at member with below here <;> grind

/-- Names stand by ascending address, so that there is one for each. -/
def Sorted (names : Names) : Prop := names.Pairwise fun entry later => entry.1 < later.1

theorem Sorted.insert {names : Names} (sorted : names.Sorted) (address : UInt64) (name : String) :
    (names.insert address name).Sorted := by
  induction names with
  | nil => exact List.pairwise_singleton _ _
  | cons entry rest ih =>
    obtain ⟨a, n⟩ := entry
    obtain ⟨lower, ordered⟩ := List.pairwise_cons.mp sorted
    rw [Names.insert]
    split_ifs with below here
    · refine List.pairwise_cons.mpr ⟨fun other member => ?_, sorted⟩
      rcases List.mem_cons.mp member with rfl | later
      · exact below
      · exact UInt64.lt_trans below (lower other later)
    · subst here
      exact List.pairwise_cons.mpr ⟨lower, ordered⟩
    · refine List.pairwise_cons.mpr ⟨fun other member => ?_, ih ordered⟩
      rcases mem_insert member with same | before
      · rw [same]
        exact UInt64.lt_of_le_of_ne (UInt64.not_lt.mp below) (Ne.symm here)
      · exact lower other before

end Names

def enter (told : List (UInt64 × String)) (names : Names) : Names :=
  told.foldl (fun names (a, n) => names.insert a n) names

theorem get?_enter (told : List (UInt64 × String)) (names : Names) (address : UInt64) :
    (enter told names).get? address = (told.reverse.lookup address).or (names.get? address) := by
  induction told generalizing names with
  | nil => rfl
  | cons entry told ih =>
    obtain ⟨a, n⟩ := entry
    have step : enter ((a, n) :: told) names = enter told (names.insert a n) := rfl
    have single : List.lookup address [(a, n)] = if address = a then some n else none :=
      Names.get?_cons a n [] address
    rw [step, ih, Names.get?_insert, List.reverse_cons, List.lookup_append, Option.or_assoc, single]
    split_ifs <;> rfl

theorem sorted_enter {names : Names} (sorted : names.Sorted) (told : List (UInt64 × String)) :
    (enter told names).Sorted := by
  induction told generalizing names with
  | nil => exact sorted
  | cons entry told ih => exact ih (sorted.insert entry.1 entry.2)

theorem sorted_parse (body : String) : (parse body).Sorted :=
  sorted_enter List.Pairwise.nil _

/-- What lines tell of an address: the last one that tells anything counts. -/
def lastTold (lines : List (List Char)) (address : UInt64) : Option String :=
  (lines.filterMap readLine?).reverse.lookup address

theorem get?_parse (body : String) (address : UInt64) :
    (parse body).get? address = lastTold (lines body.toList) address := by
  have entered : parse body = enter ((lines body.toList).filterMap readLine?) [] := rfl
  rw [entered, get?_enter]
  exact Option.or_none

theorem lastTold_append (before after : List (List Char)) (address : UInt64) :
    lastTold (before ++ after) address = (lastTold after address).or (lastTold before address) := by
  rw [lastTold, List.filterMap_append, List.reverse_append, List.lookup_append]
  rfl

theorem lastTold_singleton (line : List Char) (address : UInt64) (name : String) :
    lastTold [line] address = some name ↔ readLine? line = some (address, name) := by
  rw [lastTold]
  cases told : readLine? line with
  | none => simp [told]
  | some entry =>
    obtain ⟨a, n⟩ := entry
    have single : List.lookup address [(a, n)] = if address = a then some n else none :=
      Names.get?_cons a n [] address
    simp only [List.filterMap_cons, told, List.filterMap_nil, List.reverse_singleton, single]
    grind

theorem lastTold_eq_none_iff (lines : List (List Char)) (address : UInt64) :
    lastTold lines address = none ↔ ∀ l ∈ lines, ∀ name, readLine? l ≠ some (address, name) := by
  induction lines with
  | nil => simp [lastTold]
  | cons line lines ih =>
    have split : line :: lines = [line] ++ lines := rfl
    have alone : lastTold [line] address = none ↔
        ∀ name, readLine? line ≠ some (address, name) := by
      rw [Option.eq_none_iff_forall_ne_some]
      exact forall_congr' fun name => not_congr (lastTold_singleton line address name)
    rw [split, lastTold_append, Option.or_eq_none_iff, ih, alone]
    simp [and_comm]

theorem lastTold_eq_some_iff (lines : List (List Char)) (address : UInt64) (name : String) :
    lastTold lines address = some name ↔
      ∃ before line after, lines = before ++ line :: after ∧
        readLine? line = some (address, name) ∧
        ∀ l ∈ after, ∀ other, readLine? l ≠ some (address, other) := by
  constructor
  · intro told
    induction lines with
    | nil => cases told
    | cons line lines ih =>
      have split : line :: lines = [line] ++ lines := rfl
      rw [split, lastTold_append] at told
      cases later : lastTold lines address with
      | some n =>
        obtain rfl : n = name := by simpa [later] using told
        obtain ⟨before, l, after, rfl, reads, silent⟩ := ih later
        exact ⟨line :: before, l, after, rfl, reads, silent⟩
      | none =>
        have reads : lastTold [line] address = some name := by simpa [later] using told
        exact ⟨[], line, lines, rfl, (lastTold_singleton line address name).mp reads,
          (lastTold_eq_none_iff lines address).mp later⟩
  · rintro ⟨before, line, after, rfl, reads, silent⟩
    have split : before ++ line :: after = before ++ ([line] ++ after) := rfl
    rw [split, lastTold_append, lastTold_append, (lastTold_eq_none_iff after address).mpr silent,
      (lastTold_singleton line address name).mpr reads]
    rfl

def Blank (cs : List Char) : Prop := ∀ c ∈ cs, Unicode.isWhiteSpace c = true

theorem blank_nil : Blank [] := fun _ member => nomatch member

structure Trimmed (cs : List Char) : Prop where
  first : ∀ c ∈ cs.head?, Unicode.isWhiteSpace c = false
  last : ∀ c ∈ cs.getLast?, Unicode.isWhiteSpace c = false

theorem dropWhile_blank_append {before : List Char} (blank : Blank before) (rest : List Char) :
    (before ++ rest).dropWhile Unicode.isWhiteSpace = rest.dropWhile Unicode.isWhiteSpace :=
  List.dropWhile_append_of_pos blank

theorem dropWhile_eq_self {cs : List Char}
    (first : ∀ c ∈ cs.head?, Unicode.isWhiteSpace c = false) :
    cs.dropWhile Unicode.isWhiteSpace = cs := by
  cases cs with
  | nil => rfl
  | cons c cs => exact List.dropWhile_cons_of_neg (by simp [first c rfl])

theorem trim_surrounded {before text after : List Char} (front : Blank before) (back : Blank after)
    (trimmed : Trimmed text) : trim (before ++ (text ++ after)) = text := by
  have back : Blank after.reverse := fun c member => back c (List.mem_reverse.mp member)
  have last : ∀ c ∈ text.reverse.head?, Unicode.isWhiteSpace c = false := by
    rw [List.head?_reverse]
    exact trimmed.last
  rw [trim, dropWhile_blank_append front]
  cases text with
  | nil =>
    have gone : after.dropWhile Unicode.isWhiteSpace = [] :=
      List.dropWhile_eq_nil_iff.mpr fun c member => back c (List.mem_reverse.mpr member)
    rw [List.nil_append, gone]
    rfl
  | cons c text =>
    have first : ∀ d ∈ ((c :: text) ++ after).head?, Unicode.isWhiteSpace d = false := trimmed.first
    rw [dropWhile_eq_self first, List.reverse_append, dropWhile_blank_append back,
      dropWhile_eq_self last, List.reverse_reverse]

theorem trim_eq_rdropWhile (cs : List Char) :
    trim cs = (cs.dropWhile Unicode.isWhiteSpace).rdropWhile Unicode.isWhiteSpace :=
  rfl

theorem trimmed_trim (cs : List Char) : Trimmed (trim cs) := by
  rw [trim_eq_rdropWhile]
  refine ⟨fun c head => ?_, fun c last => ?_⟩
  · obtain ⟨rest, whole⟩ := List.rdropWhile_prefix Unicode.isWhiteSpace
      (l := cs.dropWhile Unicode.isWhiteSpace)
    have first : (cs.dropWhile Unicode.isWhiteSpace).head? = some c := by
      rw [← whole, List.head?_append, Option.mem_def.mp head]
      rfl
    have := List.head?_dropWhile_not Unicode.isWhiteSpace cs
    rw [first] at this
    exact this
  · have filled : (cs.dropWhile Unicode.isWhiteSpace).rdropWhile Unicode.isWhiteSpace ≠ [] := by
      intro none
      simp [none] at last
    have same := List.getLast_of_getLast?_eq_some (Option.mem_def.mp last)
    have := List.rdropWhile_last_not Unicode.isWhiteSpace _ filled
    simpa [same] using this

theorem exists_trim (cs : List Char) :
    ∃ before after, Blank before ∧ Blank after ∧ cs = before ++ (trim cs ++ after) := by
  refine ⟨cs.takeWhile Unicode.isWhiteSpace,
    (cs.dropWhile Unicode.isWhiteSpace).rtakeWhile Unicode.isWhiteSpace,
    fun _ member => List.mem_takeWhile_imp member, fun _ member => List.mem_rtakeWhile_imp member,
    ?_⟩
  rw [trim_eq_rdropWhile, List.rdropWhile_append_rtakeWhile, List.takeWhile_append_dropWhile]

/-- A text stands for a number: digits of either case, perhaps after a plus sign. Zeros in front
do not count. -/
def Spells (text : List Char) (n : UInt64) : Prop :=
  ∃ digits, (text = digits ∨ text = '+' :: digits) ∧ digits ≠ [] ∧
    (∀ c ∈ digits, Digits.isDigit 16 c = true) ∧ Digits.number 16 digits = n.toNat

theorem toUInt64_eq_iff {v : Nat} (small : v < 1 <<< 64) (n : UInt64) :
    v.toUInt64 = n ↔ v = n.toNat := by
  have same : v.toUInt64.toNat = v := Nat.mod_eq_of_lt small
  rw [← UInt64.toNat_inj, same]

theorem map_read?_eq_some_iff (digits : List Char) (n : UInt64) :
    (Digits.read? 16 (1 <<< 64) digits).map Nat.toUInt64 = some n ↔
      digits ≠ [] ∧ (∀ c ∈ digits, Digits.isDigit 16 c = true) ∧
        Digits.number 16 digits = n.toNat := by
  have bound : n.toNat < 1 <<< 64 := n.toNat_lt
  simp only [Option.map_eq_some_iff, Digits.read?_eq_some_iff]
  constructor
  · rintro ⟨v, ⟨filled, valid, value, small⟩, same⟩
    exact ⟨filled, valid, value.trans ((toUInt64_eq_iff small n).mp same)⟩
  · rintro ⟨filled, valid, value⟩
    exact ⟨n.toNat, ⟨filled, valid, value, bound⟩, (toUInt64_eq_iff bound n).mpr rfl⟩

theorem readHex?_eq_some_iff (text : List Char) (n : UInt64) :
    readHex? text = some n ↔ Spells text n := by
  rw [readHex?, map_read?_eq_some_iff, Digits.dropPlus.eq_def]
  constructor
  · intro number
    split at number
    · rename_i rest
      exact ⟨rest, .inr rfl, number⟩
    · exact ⟨text, .inl rfl, number⟩
  · rintro ⟨digits, rfl | rfl, number⟩
    · split
      · exact absurd (number.2.1 '+' List.mem_cons_self) (by decide)
      · exact number
    · exact number

/-- An address as it is asked for is one spelling of it. -/
theorem spells_toDigits (address : UInt64) : Spells (Nat.toDigits 16 address.toNat) address := by
  obtain ⟨value, valid⟩ := Digits.number_toDigits (by decide) (le_refl 16) address.toNat
  exact ⟨_, .inl rfl, Nat.toDigits_ne_nil, valid, value⟩

theorem isWhiteSpace_of_visible {c : Char} (visible : 33 ≤ c.toNat ∧ c.toNat < 128) :
    Unicode.isWhiteSpace c = false := by
  have table : ∀ n < 128, 33 ≤ n → Unicode.inRuns false n Unicode.whiteSpaceRuns = false := by
    decide +kernel
  exact table c.toNat visible.2 visible.1

theorem Spells.not_blank {text : List Char} {n : UInt64} (spelled : Spells text n) :
    ∀ c ∈ text, Unicode.isWhiteSpace c = false := by
  obtain ⟨digits, sign, -, valid, -⟩ := spelled
  intro c member
  have visible : c = '+' ∨ c ∈ digits := by
    rcases sign with rfl | rfl
    · exact .inr member
    · exact List.mem_cons.mp member
  rcases visible with rfl | digit
  · exact isWhiteSpace_of_visible (by decide)
  · exact isWhiteSpace_of_visible (Digits.visible_of_isDigit (valid c digit))

/-- What a line tells: an address after 0x, blanks and a name. Blanks may stand around it. -/
def Tells (line : List Char) (address : UInt64) (name : String) : Prop :=
  ∃ before number gap after,
    line = before ++ ('0' :: 'x' :: number ++ (gap ++ name.toList) ++ after) ∧
    Blank before ∧ Spells number address ∧ gap ≠ [] ∧ Blank gap ∧ name ≠ "" ∧
    Trimmed name.toList ∧ Blank after

theorem Trimmed.append {front back : List Char} (filled : front ≠ []) (filled' : back ≠ [])
    (first : ∀ c ∈ front.head?, Unicode.isWhiteSpace c = false)
    (last : ∀ c ∈ back.getLast?, Unicode.isWhiteSpace c = false) : Trimmed (front ++ back) := by
  constructor
  · rwa [List.head?_append_of_ne_nil _ filled]
  · rwa [List.getLast?_append_of_ne_nil _ filled']

/-- A word ends at the first blank. -/
theorem split_word {word rest : List Char} (dark : ∀ c ∈ word, Unicode.isWhiteSpace c = false)
    (next : ∀ c ∈ rest.head?, Unicode.isWhiteSpace c = true) :
    (word ++ rest).takeWhile (!Unicode.isWhiteSpace ·) = word ∧
      (word ++ rest).dropWhile (!Unicode.isWhiteSpace ·) = rest := by
  have dark : ∀ c ∈ word, (!Unicode.isWhiteSpace c) = true := by
    intro c member
    rw [dark c member]
    rfl
  rw [List.takeWhile_append_of_pos dark, List.dropWhile_append_of_pos dark]
  cases rest with
  | nil => exact ⟨List.append_nil word, rfl⟩
  | cons c rest =>
    have light : ¬(!Unicode.isWhiteSpace c) = true := by simp [next c rfl]
    exact ⟨by rw [List.takeWhile_cons_of_neg (by exact light), List.append_nil],
      List.dropWhile_cons_of_neg (by exact light)⟩

theorem toList_ne_nil {name : String} (named : name ≠ "") : name.toList ≠ [] :=
  fun none => named (String.toList_eq_nil_iff.mp none)

theorem readLine?_of_tells {line : List Char} {address : UInt64} {name : String}
    (tells : Tells line address name) : readLine? line = some (address, name) := by
  obtain ⟨before, number, gap, after, rfl, front, spelled, spaced, blank, named, trimmed, back⟩ :=
    tells
  have dark : ∀ c ∈ '0' :: 'x' :: number, Unicode.isWhiteSpace c = false := by
    simp only [List.forall_mem_cons]
    exact ⟨isWhiteSpace_of_visible (by decide), isWhiteSpace_of_visible (by decide),
      spelled.not_blank⟩
  have letters : gap ++ name.toList ≠ [] := by simp [spaced]
  have last : ∀ c ∈ (gap ++ name.toList).getLast?, Unicode.isWhiteSpace c = false := by
    rw [List.getLast?_append_of_ne_nil _ (toList_ne_nil named)]
    exact trimmed.last
  have next : ∀ c ∈ (gap ++ name.toList).head?, Unicode.isWhiteSpace c = true := by
    rw [List.head?_append_of_ne_nil _ spaced]
    exact fun c head => blank c (List.mem_of_mem_head? head)
  have whole : trim (before ++ ('0' :: 'x' :: number ++ (gap ++ name.toList) ++ after)) =
      '0' :: 'x' :: number ++ (gap ++ name.toList) :=
    trim_surrounded front back (.append (List.cons_ne_nil _ _) letters
      (fun c head => dark c (List.mem_of_mem_head? head)) last)
  have inner : trim (gap ++ name.toList) = name.toList := by
    simpa using trim_surrounded blank blank_nil trimmed
  obtain ⟨c, cs, spelling⟩ := List.exists_cons_of_ne_nil (toList_ne_nil named)
  obtain ⟨word, rest⟩ := split_word dark next
  have name_eq : String.ofList (c :: cs) = name := by rw [← spelling, String.ofList_toList]
  rw [readLine?, whole, word, rest, inner, spelling]
  change (readHex? number).map _ = _
  rw [(readHex?_eq_some_iff number address).mpr spelled, Option.map_some, name_eq]

theorem tells_of_readLine? {line : List Char} {address : UInt64} {name : String}
    (read : readLine? line = some (address, name)) : Tells line address name := by
  obtain ⟨before, after, front, back, whole⟩ := exists_trim line
  rw [readLine?] at read
  split at read
  · rename_i digits c cs word text
    obtain ⟨n, number, same⟩ := Option.map_eq_some_iff.mp read
    obtain ⟨rfl, rfl⟩ := Prod.mk.inj same
    obtain ⟨gap, after', blank, back', rest⟩ :=
      exists_trim ((trim line).dropWhile (!Unicode.isWhiteSpace ·))
    have parts := List.takeWhile_append_dropWhile (p := (!Unicode.isWhiteSpace ·)) (l := trim line)
    have trimmed := trimmed_trim ((trim line).dropWhile (!Unicode.isWhiteSpace ·))
    rw [text] at rest trimmed
    rw [word, rest] at parts
    refine ⟨before, digits, gap, after' ++ after, ?_, front,
      (readHex?_eq_some_iff digits n).mp number, ?_, blank, ?_, ?_, ?_⟩
    · rw [whole, ← parts]
      simp
    · -- the character that ended the word is blank, so the name does not start at once
      rintro rfl
      have stop := List.head?_dropWhile_not (!Unicode.isWhiteSpace ·) (trim line)
      rw [rest] at stop
      have first := trimmed.first c rfl
      simp [first] at stop
    · intro empty
      have := congrArg String.toList empty
      simp at this
    · rwa [String.toList_ofList]
    · intro d member
      rcases List.mem_append.mp member with inner | outer
      · exact back' d inner
      · exact back d outer
  · cases read

theorem readLine?_eq_some_iff (line : List Char) (address : UInt64) (name : String) :
    readLine? line = some (address, name) ↔ Tells line address name :=
  ⟨tells_of_readLine?, readLine?_of_tells⟩

structure Row where
  address : UInt64
  name : String
  gap : List Char
  /-- Whether a carriage return stands before the line feed. -/
  crlf : Bool
  named : name ≠ ""
  name_inline : '\n' ∉ name.toList
  name_trimmed : Trimmed name.toList
  spaced : gap ≠ []
  gap_blank : ∀ c ∈ gap, c = ' ' ∨ c = '\t'

namespace Row

/-- A row without its line feed. -/
def line (r : Row) : List Char :=
  (hexAddress r.address).toList ++ r.gap ++ r.name.toList ++ (if r.crlf then ['\r'] else [])

def render (r : Row) : String := String.ofList (r.line ++ ['\n'])

theorem blank_gap (r : Row) : Blank r.gap := by
  intro c member
  rcases r.gap_blank c member with rfl | rfl <;> decide +kernel

theorem blank_ending (r : Row) : Blank (if r.crlf then ['\r'] else []) := by
  intro c member
  obtain rfl : c = '\r' := by
    split at member
    · exact List.mem_singleton.mp member
    · cases member
  decide +kernel

theorem tells (r : Row) : Tells r.line r.address r.name := by
  refine ⟨[], Nat.toDigits 16 r.address.toNat, r.gap, _, ?_, blank_nil, spells_toDigits r.address,
    r.spaced, r.blank_gap, r.named, r.name_trimmed, r.blank_ending⟩
  simp [line, hexAddress]

theorem inline (r : Row) : '\n' ∉ r.line := by
  have number : '\n' ∉ (hexAddress r.address).toList := by
    intro member
    rw [hexAddress, String.toList_append] at member
    rcases List.mem_append.mp member with sign | digit
    · exact absurd sign (by decide)
    · rw [String.toList_ofList] at digit
      have valid := (Digits.number_toDigits (by decide) (le_refl 16) r.address.toNat).2 '\n' digit
      exact absurd valid (by decide)
  have gap : '\n' ∉ r.gap := fun member => by simpa using r.gap_blank _ member
  have ending : '\n' ∉ (if r.crlf then ['\r'] else []) := by
    split <;> decide
  simp only [line, List.mem_append, number, gap, r.name_inline, ending, or_self, not_false_eq_true]

end Row

def render (rows : List Row) : String := String.join (rows.map Row.render)

theorem lines_append (a b : List Char) : lines (a ++ '\n' :: b) = lines a ++ lines b :=
  List.splitOn_append_cons_self a b

theorem lines_render (rows : List Row) :
    lines (render rows).toList = rows.map Row.line ++ [[]] := by
  induction rows with
  | nil => rfl
  | cons r rows ih =>
    have split : (render (r :: rows)).toList = r.line ++ '\n' :: (render rows).toList := by
      simp [render, Row.render, String.join_cons]
    rw [split, lines, List.splitOn_append_cons_self_of_not_mem r.inline]
    exact congrArg (r.line :: ·) ih

theorem lastTold_map_line (rows : List Row) (address : UInt64) :
    lastTold (rows.map Row.line) address =
      (rows.reverse.find? (·.address = address)).map Row.name := by
  induction rows with
  | nil => rfl
  | cons r rows ih =>
    have split : (r :: rows).map Row.line = [r.line] ++ rows.map Row.line := rfl
    have alone : lastTold [r.line] address = if r.address = address then some r.name else none := by
      refine Option.ext fun name => ?_
      rw [lastTold_singleton, readLine?_of_tells r.tells]
      grind
    rw [split, lastTold_append, ih, alone, List.reverse_cons, List.find?_append, Option.map_or]
    by_cases same : r.address = address <;> simp [same]

/-- Every line is read by itself. What is written for some addresses is read back, with the last
name of each; what comes later counts more; and what an answer holds for an address is exactly what
the last line tells that tells anything of it. -/
theorem parse_linewise :
    (∀ rows address, (parse (render rows)).get? address =
      (rows.reverse.find? (·.address = address)).map Row.name) ∧
    (∀ a b address, (parse (a ++ "\n" ++ b)).get? address =
      ((parse b).get? address).or ((parse a).get? address)) ∧
    (∀ body address name, (parse body).get? address = some name ↔
      ∃ before line after, lines body.toList = before ++ line :: after ∧
        Tells line address name ∧ ∀ l ∈ after, ∀ other, ¬Tells l address other) ∧
    ∀ body, (parse body).Sorted := by
  refine ⟨fun rows address => ?_, fun a b address => ?_, fun body address name => ?_, sorted_parse⟩
  · rw [get?_parse, lines_render, lastTold_append, lastTold_map_line]
    rfl
  · rw [get?_parse, get?_parse, get?_parse, ← lastTold_append, ← lines_append]
    simp
  · rw [get?_parse, lastTold_eq_some_iff]
    simp only [ne_eq, readLine?_eq_some_iff]

def Row.spacious : Row where
  address := 0xffffffffffffffff
  name := "operator new(unsigned long)"
  gap := [' ', '\t', ' ']
  crlf := true
  named := by decide
  name_inline := by decide
  name_trimmed := ⟨by rintro _ ⟨⟩; decide +kernel, by rintro _ ⟨⟩; decide +kernel⟩
  spaced := by decide
  gap_blank := by simp

theorem parse_linewise_spacious :
    (parse (render [.spacious])).get? 0xffffffffffffffff = some "operator new(unsigned long)" :=
  (parse_linewise.1 [.spacious] 0xffffffffffffffff).trans (by decide +kernel)

example : parse "num_symbols: 2\n0x1020\tfoo::bar\n0x1010 main\r\nbogus\n0x1010 main.handler\n" =
    [(0x1010, "main.handler"), (0x1020, "foo::bar")] := by
  decide +kernel

end Profiling.Symbolz
