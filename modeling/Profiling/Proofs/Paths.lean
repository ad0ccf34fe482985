import Mathlib.Data.List.Induction
import Mathlib.Data.List.TakeWhile
import Profiling.Locate

/-!
# Paths and their names

The names on a path decide where it leads. Joining appends them, cleaning keeps them, and going
through them with a stack gives the normal form of a path, in which a name that is followed by a
step up has gone. What is joined to a directory stays beneath it just if its own normal form takes
no step up.
-/

namespace Profiling.Path

theorem not_mem_of_mem_splitOn {separator : Char} {cs part : List Char}
    (h : part ∈ cs.splitOn separator) : separator ∉ part := by
  induction cs generalizing part with
  | nil => simp_all
  | cons c cs ih =>
    obtain ⟨first, parts, split⟩ := List.exists_cons_of_ne_nil (List.splitOn_ne_nil separator cs)
    rw [List.splitOn_cons_eq_if_modifyHead, split] at h
    rw [split] at ih
    split_ifs at h with same
    · rcases List.mem_cons.mp h with rfl | later
      · simp
      · exact ih later
    · rcases List.mem_cons.mp h with rfl | later
      · rw [List.mem_cons, not_or]
        exact ⟨fun equal => same (beq_iff_eq.mpr equal.symm), ih List.mem_cons_self⟩
      · exact ih (List.mem_cons_of_mem _ later)

theorem exists_mem_splitOn {separator c : Char} {cs : List Char} (h : c ∈ cs)
    (other : c ≠ separator) : ∃ part ∈ cs.splitOn separator, c ∈ part := by
  induction cs with
  | nil => cases h
  | cons d cs ih =>
    obtain ⟨first, parts, split⟩ := List.exists_cons_of_ne_nil (List.splitOn_ne_nil separator cs)
    rw [split] at ih
    rw [List.splitOn_cons_eq_if_modifyHead, split, List.modifyHead_cons]
    rcases List.mem_cons.mp h with rfl | later
    · exact ⟨c :: first, by simp [other], List.mem_cons_self⟩
    · obtain ⟨part, listed, inside⟩ := ih later
      by_cases cut : d = separator
      · exact ⟨part, by simpa [cut] using Or.inr (List.mem_cons.mp listed), inside⟩
      · rcases List.mem_cons.mp listed with rfl | rest
        · exact ⟨d :: part, by simp [cut], List.mem_cons_of_mem d inside⟩
        · exact ⟨part, by simp [cut, rest], inside⟩

theorem whole_of_mem_parts {path part : String} (h : part ∈ parts path) :
    '/' ∉ part.toList ∧ part ≠ "" := by
  rw [parts, List.mem_map] at h
  obtain ⟨cs, kept, rfl⟩ := h
  rw [List.mem_filter, decide_eq_true_iff] at kept
  refine ⟨by simpa using not_mem_of_mem_splitOn kept.1, fun e => kept.2 ?_⟩
  simpa using congrArg String.toList e

theorem names_eq_filter_parts (path : String) :
    names path = (parts path).filter fun part => part ≠ "" ∧ part ≠ "." := by
  rw [names, parts, List.filter_map, List.filter_filter]
  congr 1
  apply List.filter_congr
  intro part _
  have empty : String.ofList part = "" ↔ part = [] := by simp [← String.toList_inj]
  have dot : String.ofList part = "." ↔ part = ['.'] := by simp [← String.toList_inj]
  simpa [empty, dot] using fun h _ => h

theorem names_ne_nil {path : String} {c : Char} (h : c ∈ path.toList) (slash : c ≠ '/')
    (dot : c ≠ '.') : names path ≠ [] := by
  obtain ⟨part, listed, inside⟩ := exists_mem_splitOn h slash
  refine List.ne_nil_of_mem (a := String.ofList part) ?_
  refine List.mem_map_of_mem (List.mem_filter.mpr ⟨listed, decide_eq_true ⟨?_, ?_⟩⟩)
  · rintro rfl
    cases inside
  · rintro rfl
    exact dot (List.mem_singleton.mp inside)

theorem parts_part {part : String} (whole : '/' ∉ part.toList) (nonempty : part ≠ "") :
    parts part = [part] := by
  have : part.toList ≠ [] := fun e => nonempty (String.ext e)
  simp [parts, List.splitOn_eq_singleton whole, this]

theorem names_part {part : String} (whole : '/' ∉ part.toList) :
    names part = [part].filter fun part => part ≠ "" ∧ part ≠ "." := by
  by_cases empty : part = ""
  · rw [empty]
    decide
  · rw [names_eq_filter_parts, parts_part whole empty]

/-- A name that can stand in a directory. -/
def IsName (name : String) : Prop := '/' ∉ name.toList ∧ name ≠ "" ∧ name ≠ "." ∧ name ≠ ".."

theorem IsName.names_eq {name : String} (h : IsName name) : names name = [name] := by
  obtain ⟨whole, nonempty, dot, -⟩ := h
  simp [names_part whole, nonempty, dot]

theorem isName_of_head? {path : String} {first : Char} (head : path.toList.head? = some first)
    (dot : first ≠ '.') (whole : '/' ∉ path.toList) : IsName path := by
  refine ⟨whole, ?_, ?_, ?_⟩
  · rintro rfl
    cases head
  all_goals
    rintro rfl
    exact dot (Option.some.inj head).symm

theorem isName_of_fileName? {path name : String} (h : fileName? path = some name) :
    IsName name := by
  rw [fileName?] at h
  split at h
  · next last named =>
    split_ifs at h with up
    obtain rfl := Option.some.inj h
    have listed := List.mem_of_getLast? named
    rw [names_eq_filter_parts, List.mem_filter, decide_eq_true_iff] at listed
    exact ⟨(whole_of_mem_parts listed.1).1, listed.2.1, listed.2.2, up⟩
  · cases h

theorem isAbsolute_eq_false {path : String} (h : '/' ∉ path.toList) : isAbsolute path = false := by
  rw [isAbsolute, decide_eq_false_iff_not]
  exact fun head => h (List.mem_of_head? head)

theorem parts_append_slash (path below : String) :
    parts (path ++ "/" ++ below) = parts path ++ parts below := by
  have : (path ++ "/" ++ below).toList = path.toList ++ '/' :: below.toList := by simp
  rw [parts, this, List.splitOn_append_cons_self, List.filter_append, List.map_append, parts, parts]

@[simp] theorem parts_empty : parts "" = [] := by decide

theorem names_append_slash (path below : String) :
    names (path ++ "/" ++ below) = names path ++ names below := by
  simp only [names_eq_filter_parts, parts_append_slash, List.filter_append]

@[simp] theorem names_empty : names "" = [] := by decide

theorem slash_names (path : String) : names ("/" ++ path) = names path := by
  simpa using names_append_slash "" path

theorem isAbsolute_append {dir : String} (h : dir ≠ "") (path : String) :
    isAbsolute (dir ++ path) = isAbsolute dir := by
  obtain ⟨c, cs, split⟩ := List.exists_cons_of_ne_nil (fun e => h (String.ext e) : dir.toList ≠ [])
  simp [isAbsolute, split]

theorem isAbsolute_join (dir path : String) :
    isAbsolute (join dir path) = (isAbsolute path || isAbsolute dir) := by
  rw [join]
  split_ifs with alone slash
  · have : isAbsolute path = true ∨ dir = "" := by simpa using alone
    rcases this with absolute | rfl
    · simp [absolute]
    · simp [isAbsolute]
  all_goals
    obtain ⟨relative, inside⟩ : isAbsolute path = false ∧ dir ≠ "" := by simpa using alone
    simp [relative, isAbsolute_append, inside]

theorem parts_join (dir path : String) (relative : isAbsolute path = false) :
    parts (join dir path) = parts dir ++ parts path := by
  rw [join]
  split_ifs with alone slash
  · have : dir = "" := by simpa [relative] using alone
    rw [this, parts_empty, List.nil_append]
  · obtain ⟨front, split⟩ := List.getLast?_eq_some_iff.mp slash
    have : dir = String.ofList front ++ "/" ++ "" := String.ext (by simp [split])
    rw [this, parts_append_slash, parts_empty, List.append_nil, String.append_empty,
      parts_append_slash]
  · rw [parts_append_slash]

theorem names_join (dir path : String) (relative : isAbsolute path = false) :
    names (join dir path) = names dir ++ names path := by
  simp only [names_eq_filter_parts, parts_join dir path relative, List.filter_append]

theorem names_intercalate {parts : List String} (whole : ∀ part ∈ parts, '/' ∉ part.toList) :
    names ("/".intercalate parts) = parts.filter fun part => part ≠ "" ∧ part ≠ "." := by
  induction parts with
  | nil => exact names_empty
  | cons part parts ih =>
    obtain ⟨first, others⟩ := List.forall_mem_cons.mp whole
    by_cases last : parts = []
    · rw [last, String.intercalate_singleton, names_part first]
    · rw [String.intercalate_cons_of_ne_nil last, names_append_slash, names_part first, ih others,
        ← List.filter_append, List.singleton_append]

theorem isAbsolute_intercalate {parts : List String}
    (whole : ∀ part ∈ parts, '/' ∉ part.toList ∧ part ≠ "") :
    isAbsolute ("/".intercalate parts) = false := by
  cases parts with
  | nil => rfl
  | cons part parts =>
    obtain ⟨first, nonempty⟩ := whole part List.mem_cons_self
    by_cases last : parts = []
    · rw [last, String.intercalate_singleton, isAbsolute_eq_false first]
    · rw [String.intercalate_cons_of_ne_nil last, String.append_assoc, isAbsolute_append nonempty,
        isAbsolute_eq_false first]

theorem names_plain (path : String) : names (plain path) = names path := by
  have whole : ∀ part ∈ parts path, '/' ∉ part.toList := fun _ h => (whole_of_mem_parts h).1
  rw [plain]
  split_ifs with absolute
  · rw [slash_names, names_intercalate whole, ← names_eq_filter_parts]
  · have dots : ((parts path).takeWhile (fun part => decide (part = "."))).filter
        (fun part => part ≠ "" ∧ part ≠ ".") = [] := by
      rw [List.filter_eq_nil_iff]
      intro part h
      simpa using fun _ => List.mem_takeWhile_imp h
    rw [names_intercalate fun part h => whole part (List.dropWhile_subset _ h), names_eq_filter_parts,
      ← List.nil_append (List.filter _ _), ← dots, ← List.filter_append,
      List.takeWhile_append_dropWhile]

theorem isAbsolute_plain (path : String) : isAbsolute (plain path) = isAbsolute path := by
  rw [plain]
  split_ifs with absolute
  · rw [absolute]
    simp [isAbsolute]
  · rw [isAbsolute_intercalate fun part h => whole_of_mem_parts (List.dropWhile_subset _ h)]
    simpa using absolute

/-- A path leads to something directly in a directory. -/
def Inside (dir path : String) : Prop :=
  ∃ name, IsName name ∧ isAbsolute path = isAbsolute dir ∧ names path = names dir ++ [name]

theorem IsName.inside_join {name : String} (h : IsName name) (dir : String) :
    Inside dir (join dir name) := by
  have relative : isAbsolute name = false := isAbsolute_eq_false h.1
  refine ⟨name, h, ?_, ?_⟩
  · rw [isAbsolute_join, relative, Bool.false_or]
  · rw [names_join dir name relative, h.names_eq]

/-- A text that starts and ends with letters is a name unless there is a slash between them. -/
theorem inside_join_iff {dir path : String} {first last : Char}
    (head : path.toList.head? = some first) (first_slash : first ≠ '/') (first_dot : first ≠ '.')
    (tail : path.toList.getLast? = some last) (last_slash : last ≠ '/') (last_dot : last ≠ '.') :
    Inside dir (join dir path) ↔ '/' ∉ path.toList := by
  constructor
  · -- A slash has a name on each side of it, so there would be two.
    rintro ⟨name, -, -, led⟩ slash
    have relative : isAbsolute path = false := by simpa [isAbsolute, head] using first_slash
    rw [names_join dir path relative, List.append_cancel_left_eq] at led
    obtain ⟨front, back, split⟩ := List.append_of_mem slash
    have cut : path = String.ofList front ++ "/" ++ String.ofList back := String.ext (by simp [split])
    have front_named : names (String.ofList front) ≠ [] := by
      rw [split, List.head?_append] at head
      cases started : front.head? with
      | none => simp [started, Ne.symm first_slash] at head
      | some c =>
        obtain rfl : c = first := by simpa [started] using head
        exact names_ne_nil (by simpa using List.mem_of_head? started) first_slash first_dot
    have back_named : names (String.ofList back) ≠ [] := by
      rw [split, List.getLast?_append, List.getLast?_cons] at tail
      cases ended : back.getLast? with
      | none => simp [ended, Ne.symm last_slash] at tail
      | some c =>
        obtain rfl : c = last := by simpa [ended] using tail
        exact names_ne_nil (by simpa using List.mem_of_getLast? ended) last_slash last_dot
    have lengths := congrArg List.length led
    rw [cut, names_append_slash, List.length_append, List.length_singleton] at lengths
    have := List.length_pos_iff.mpr front_named
    have := List.length_pos_iff.mpr back_named
    omega
  · intro whole
    exact (isName_of_head? head first_dot whole).inside_join dir

theorem inside_plain_iff {dir path : String} : Inside (plain dir) path ↔ Inside dir path := by
  rw [Inside, Inside, isAbsolute_plain, names_plain]

/-- One more name below the names on a stack, the last of them on top. There is nothing above the
root of an absolute path. -/
def descend (absolute : Bool) : List String → String → List String
  | [], name => if name ≠ ".." then [name] else if absolute then [] else [".."]
  | top :: stack, name =>
    if name ≠ ".." then name :: top :: stack
    else if top = ".." then ".." :: top :: stack
    else stack

/-- The names on a path after every step up that can be taken. -/
def normal (path : String) : List String :=
  ((names path).foldl (descend (isAbsolute path)) []).reverse

/-- A path leads from a directory strictly down. -/
def Beneath (dir path : String) : Prop :=
  isAbsolute path = isAbsolute dir ∧
    ∃ below, normal path = normal dir ++ below ∧ below ≠ [] ∧ ".." ∉ below

/-- A path that leads, from wherever it starts, not up. -/
def Confined (path : String) : Prop := isAbsolute path = false ∧ ".." ∉ normal path

theorem confined_empty : Confined "" := by
  simp [Confined, normal, isAbsolute]

theorem descend_name {name : String} (h : name ≠ "..") (absolute : Bool) (stack : List String) :
    descend absolute stack name = name :: stack := by
  cases stack <;> simp [descend, h]

/-- Names that take no step up from nothing take none from anywhere. -/
theorem foldl_descend_append {steps : List String}
    (h : ".." ∉ steps.foldl (descend false) []) (absolute : Bool) (stack : List String) :
    steps.foldl (descend absolute) stack = steps.foldl (descend false) [] ++ stack := by
  induction steps using List.reverseRecOn with
  | nil => rfl
  | append_singleton steps name ih =>
    -- A last step up must take away one of the steps before it, or it would be left itself.
    simp only [List.foldl_append, List.foldl_cons, List.foldl_nil] at h ⊢
    by_cases up : name = ".."
    · subst up
      cases before : steps.foldl (descend false) [] with
      | nil => simp [before, descend] at h
      | cons top rest =>
        rw [before] at h ih
        have down : top ≠ ".." := fun e => h (by simp [descend, e])
        have rest_down : ".." ∉ rest := by simpa [descend, down] using h
        rw [ih (by simp [Ne.symm down, rest_down])]
        simp [descend, down]
    · rw [descend_name up, List.mem_cons, not_or] at h
      rw [ih h.2, descend_name up, descend_name up, List.cons_append]

theorem Confined.normal_join {below : String} (h : Confined below) (dir : String) :
    normal (join dir below) = normal dir ++ normal below := by
  obtain ⟨relative, down⟩ := h
  rw [normal, relative, List.mem_reverse] at down
  rw [normal, normal, normal, isAbsolute_join, names_join dir below relative, relative,
    Bool.false_or, List.foldl_append, foldl_descend_append down, List.reverse_append]

theorem Inside.normal_eq {dir path : String} (h : Inside dir path) :
    ∃ name, IsName name ∧ normal path = normal dir ++ [name] := by
  obtain ⟨name, proper, absolute, named⟩ := h
  refine ⟨name, proper, ?_⟩
  rw [normal, normal, absolute, named, List.foldl_append, List.foldl_cons, List.foldl_nil,
    descend_name proper.2.2.2, List.reverse_cons]

theorem Inside.beneath {dir path : String} (h : Inside dir path) : Beneath dir path := by
  obtain ⟨name, proper, led⟩ := h.normal_eq
  obtain ⟨-, -, absolute, -⟩ := h
  exact ⟨absolute, [name], led, by simp, by simpa using proper.2.2.2.symm⟩

theorem Inside.beneath_join {dir below path : String} (h : Inside (join dir below) path)
    (confined : Confined below) : Beneath dir path := by
  obtain ⟨name, proper, led⟩ := h.normal_eq
  obtain ⟨-, -, absolute, -⟩ := h
  rw [isAbsolute_join, confined.1, Bool.false_or] at absolute
  rw [confined.normal_join, List.append_assoc] at led
  exact ⟨absolute, _, led, by simp, by simp [confined.2, proper.2.2.2.symm]⟩

/-- From the working directory, only what is confined leads beneath it. -/
theorem Inside.confined {below path : String} (h : Inside (join "." below) path)
    (beneath : Beneath "." path) : Confined below := by
  obtain ⟨name, proper, led⟩ := h.normal_eq
  obtain ⟨-, -, absolute, -⟩ := h
  obtain ⟨relative, steps, down, -, no_up⟩ := beneath
  have here : names "." = [] := by decide
  have below_relative : isAbsolute below = false := by
    rw [isAbsolute_join, relative] at absolute
    simpa [isAbsolute] using absolute.symm
  refine ⟨below_relative, fun up => no_up ?_⟩
  have same : normal (join "." below) = normal below := by
    rw [normal, normal, names_join "." below below_relative, isAbsolute_join, below_relative, here]
    rfl
  have start : normal "." = [] := by simp [normal, here]
  rw [led, same, start, List.nil_append] at down
  rw [← down]
  exact List.mem_append_left _ up

end Profiling.Path
