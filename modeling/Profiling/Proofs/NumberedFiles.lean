import Profiling.Proofs.SavedPlaces

/-!
# Numbered files

Whoever asks for a numbered file gets the least number whose name is free at that moment. Nothing
else on the disk changes, and nothing at all if no name is free or a file cannot be made. So over
time no file takes the place of another one, whatever comes and goes in between.
-/

namespace Profiling

theorem ofDigitChars_paddedIndex (index : Nat) :
    Nat.ofDigitChars 10 (paddedIndex index).toList 0 = index := by
  rw [paddedIndex, String.toList_ofList, Nat.ofDigitChars_append, Nat.ofDigitChars_replicate_zero,
    Nat.mul_zero, Nat.ofDigitChars_ten_toDigits]

/-- Numbers are told apart by their digits, also where one has more than another. -/
theorem numberedName_injective (stem ending : String) :
    Function.Injective (numberedName stem ending) := by
  intro i j same
  have same := congrArg String.toList same
  rw [numberedName, numberedName, String.toList_append, String.toList_append,
    String.toList_append, String.toList_append] at same
  have digits := List.append_cancel_left (List.append_cancel_right same)
  rw [← ofDigitChars_paddedIndex i, digits, ofDigitChars_paddedIndex]

theorem three_le_length_paddedIndex (index : Nat) : 3 ≤ (paddedIndex index).length := by
  rw [← String.length_toList, paddedIndex, String.toList_ofList, List.length_append,
    List.length_replicate]
  omega

theorem exists_digit_numberedName (stem ending : String) (index : Nat) :
    ∃ c ∈ (numberedName stem ending index).toList, c.isDigit := by
  obtain ⟨c, cs, digits⟩ := List.exists_cons_of_ne_nil (Nat.toDigits_ne_nil (n := index) (b := 10))
  have digit : c ∈ Nat.toDigits 10 index := digits ▸ List.mem_cons_self
  refine ⟨c, ?_, Nat.isDigit_of_mem_toDigits (by decide) (by decide) digit⟩
  simp [numberedName, paddedIndex, digit]

theorem isName_numberedName {stem ending : String} (stem_plain : '/' ∉ stem.toList)
    (ending_plain : '/' ∉ ending.toList) (index : Nat) :
    Path.IsName (numberedName stem ending index) := by
  obtain ⟨c, member, digit⟩ := exists_digit_numberedName stem ending index
  have other {name : String} (letters : ∀ d ∈ name.toList, ¬d.isDigit) :
      numberedName stem ending index ≠ name := by
    rintro rfl
    exact letters c member digit
  refine ⟨?_, other (by simp), other (by simp), other (by simp)⟩
  simp [numberedName, stem_plain, ending_plain, slash_not_mem_paddedIndex]

namespace Disk

/-- Something lies where a path leads. -/
def Occupied (d : Disk) (path : String) : Prop := ∃ found, d.nodeAt path = .ok found

/-- One disk is another one with an empty file at a place where nothing was. -/
structure Gains (d d' : Disk) (place : Place) : Prop where
  free : d.node? place = none
  there : d'.node? place = some (.file [])
  others : ∀ other ≠ place, d'.node? other = d.node? other
  working : d'.working = d.working

theorem gains_put {d : Disk} {place : Place} (free : d.node? place = none) :
    d.Gains (d.put place (.file [])) place := by
  have below : place ≠ [] := by
    rintro rfl
    cases free
  exact ⟨free, node?_put_self d below _, fun _ apart => node?_put_of_ne d apart _, rfl⟩

theorem alreadyThere_of_checkPath {path : String} {cause : DiskError}
    (failed : checkPath path = .error cause) : cause.alreadyThere = false := by
  rw [checkPath] at failed
  split_ifs at failed <;> cases failed <;> rfl

/-- No way ends because something is there already. -/
theorem alreadyThere_of_resolve {d : Disk} {here : Place} {names : List String} {cause : DiskError}
    (failed : d.resolve here names = .error cause) : cause.alreadyThere = false := by
  induction names generalizing here with
  | nil => cases failed
  | cons name rest ih =>
    rw [resolve] at failed
    split at failed
    · cases failed
      rfl
    · cases failed
      rfl
    · split_ifs at failed with stays up long
      · exact ih failed
      · exact ih failed
      · cases failed
        rfl
      · exact ih failed

theorem alreadyThere_of_find {d : Disk} {path : String} {cause : DiskError}
    (failed : d.find path = .error cause) : cause.alreadyThere = false := by
  rw [find] at failed
  cases checked : checkPath path with
  | error e =>
    rw [checked] at failed
    cases failed
    exact alreadyThere_of_checkPath checked
  | ok =>
    rw [checked] at failed
    exact alreadyThere_of_resolve failed

theorem findNew_eq_find {path : String} (named : endsWithSlash path = false) (d : Disk) :
    d.findNew path = d.find path := by
  rw [findNew, find, named]
  cases checkPath path with
  | error e => rfl
  | ok =>
    simp only [bind, Except.bind, Bool.false_and, Bool.false_eq_true, if_false, List.append_nil]
    cases d.resolve (d.start path) (Path.parts path) with
    | error e => rfl
    | ok place => dsimp only; split <;> rfl

theorem resolve_append_eq_ok {d : Disk} {here there : Place} {front back : List String}
    (found : d.resolve here (front ++ back) = .ok there) :
    ∃ middle, d.resolve here front = .ok middle ∧ d.resolve middle back = .ok there := by
  induction front generalizing here with
  | nil => exact ⟨here, rfl, found⟩
  | cons name rest ih =>
    rw [List.cons_append, resolve] at found
    rw [resolve]
    split at found
    · cases found
    · cases found
    · split_ifs at found ⊢ with stays up long
      · exact ih found
      · exact ih found
      · exact ih found

/-- A way to a name in a directory leads through that directory. -/
theorem leadsTo_of_find {d : Disk} {dir name : String} {place : Place} (proper : Path.IsName name)
    (found : d.find (Path.join dir name) = .ok place) :
    ∃ here, d.LeadsTo dir here ∧ place = name :: here := by
  have relative : Path.isAbsolute name = false := Path.isAbsolute_eq_false proper.1
  have start : d.start (Path.join dir name) = d.start dir := by
    rw [start, start, Path.isAbsolute_join, relative, Bool.false_or]
  rw [← findNew_eq_find (proper.endsWithSlash_join dir)] at found
  obtain ⟨-, resolved⟩ := findNew_eq_ok found
  obtain ⟨whole, named, dot, up⟩ := proper
  rw [start, Path.parts_join dir name relative, Path.parts_part whole named] at resolved
  obtain ⟨here, led, last⟩ := resolve_append_eq_ok resolved
  rw [resolve] at last
  split at last
  · cases last
  · cases last
  · rename_i directory
    rw [if_neg dot, if_neg up] at last
    split_ifs at last with long
    exact ⟨here, ⟨led, directory⟩, (Except.ok.inj last).symm⟩

/-- What can become of a file that is to have a name in a directory. -/
theorem createNew_cases (d : Disk) (dir : String) {name : String} (proper : Path.IsName name) :
    (d.Occupied (Path.join dir name) ∧
      d.createNew (Path.join dir name) = .error .alreadyExists) ∨
    (¬d.Occupied (Path.join dir name) ∧ ∃ cause, cause.alreadyThere = false ∧
      d.createNew (Path.join dir name) = .error cause) ∨
    (¬d.Occupied (Path.join dir name) ∧ ∃ here, d.LeadsTo dir here ∧
      d.findNew (Path.join dir name) = .ok (name :: here) ∧ d.node? (name :: here) = none ∧
      d.createNew (Path.join dir name) = .ok (d.put (name :: here) (.file []))) := by
  have same := findNew_eq_find (proper.endsWithSlash_join dir) d
  cases found : d.find (Path.join dir name) with
  | error cause =>
    refine .inr (.inl ⟨?_, cause, alreadyThere_of_find found, ?_⟩)
    · rintro ⟨node, there⟩
      rw [nodeAt, found] at there
      cases there
    · rw [createNew, same, found]
      rfl
  | ok place =>
    cases there : d.node? place with
    | some node =>
      refine .inl ⟨⟨(place, node), ?_⟩, ?_⟩
      · rw [nodeAt, found]
        simp only [bind, Except.bind, there]
      · rw [createNew, same, found]
        simp only [bind, Except.bind, there]
    | none =>
      obtain ⟨here, led, rfl⟩ := leadsTo_of_find proper found
      refine .inr (.inr ⟨?_, here, led, same.trans found, there, ?_⟩)
      · rintro ⟨node, occupied⟩
        rw [nodeAt, found] at occupied
        simp only [bind, Except.bind, there] at occupied
        cases occupied
      · rw [createNew, same, found]
        simp only [bind, Except.bind, there]

theorem createNew_eq_ok {d d' : Disk} {path : String} (made : d.createNew path = .ok d') :
    ∃ place, d.findNew path = .ok place ∧ d.Gains d' place := by
  rw [createNew] at made
  cases found : d.findNew path with
  | error cause =>
    rw [found] at made
    cases made
  | ok place =>
    rw [found] at made
    cases there : d.node? place with
    | some node =>
      simp only [bind, Except.bind, there] at made
      cases made
    | none =>
      simp only [bind, Except.bind, there] at made
      cases made
      exact ⟨place, rfl, gains_put there⟩

theorem createNew_eq_alreadyExists_iff (d : Disk) (dir : String) {name : String}
    (proper : Path.IsName name) :
    d.createNew (Path.join dir name) = .error .alreadyExists ↔ d.Occupied (Path.join dir name) := by
  rcases d.createNew_cases dir proper with
    ⟨there, failed⟩ | ⟨absent, cause, other, failed⟩ | ⟨absent, here, -, -, -, made⟩
  · exact iff_of_true failed there
  · refine iff_of_false ?_ absent
    rw [failed]
    rintro ⟨⟩
    cases other
  · refine iff_of_false ?_ absent
    rw [made]
    nofun

end Disk

namespace Host

section

variable (h : Host) (path : Nat → String) (exhausted : DiskError)

/-- How a search ends that starts with the number `first` and may try `count` numbers: what it
tells, and which paths it asked for. The first `n` are there already. -/
inductive Search (first count : Nat) (asked : List String) :
    (Except DiskError String × Host) × List String → Prop
  | made (n : Nat) (few : n < count)
      (taken : ∀ k < n, h.disk.createNew (path (first + k)) = .error .alreadyExists)
      {disk : Disk} (free : h.disk.createNew (path (first + n)) = .ok disk) :
      Search first count asked ((.ok (path (first + n)), { h with disk }),
        asked ++ (List.range' first (n + 1)).map path)
  | stopped (n : Nat) (few : n < count)
      (taken : ∀ k < n, h.disk.createNew (path (first + k)) = .error .alreadyExists)
      {cause : DiskError} (failed : h.disk.createNew (path (first + n)) = .error cause)
      (other : cause ≠ .alreadyExists) :
      Search first count asked ((.error cause, h), asked ++ (List.range' first (n + 1)).map path)
  | exhausted
      (taken : ∀ k < count, h.disk.createNew (path (first + k)) = .error .alreadyExists) :
      Search first count asked ((.error exhausted, h), asked ++ (List.range' first count).map path)

/-- Trying one more number first, which is taken, is the same search. -/
theorem Search.succ {h : Host} {path : Nat → String} {exhausted : DiskError} {first count : Nat}
    {asked : List String} {ended : (Except DiskError String × Host) × List String}
    (taken : h.disk.createNew (path first) = .error .alreadyExists)
    (search : Search h path exhausted (first + 1) count (asked ++ [path first]) ended) :
    Search h path exhausted first (count + 1) asked ended := by
  have all {n : Nat}
      (later : ∀ k < n, h.disk.createNew (path (first + 1 + k)) = .error .alreadyExists) :
      ∀ k < n + 1, h.disk.createNew (path (first + k)) = .error .alreadyExists := by
    intro k below
    cases k with
    | zero => exact taken
    | succ k =>
      rw [← Nat.add_assoc, Nat.add_right_comm]
      exact later k (by omega)
  have log (n : Nat) : asked ++ [path first] ++ (List.range' (first + 1) n).map path =
      asked ++ (List.range' first (n + 1)).map path := by
    rw [List.range'_succ, List.map_cons, List.append_assoc, List.singleton_append]
  cases search with
  | made n few later free =>
    rw [log, Nat.add_right_comm first 1 n, Nat.add_assoc first n 1] at *
    exact .made (n + 1) (by omega) (all later) free
  | stopped n few later failed other =>
    rw [log]
    exact .stopped (n + 1) (by omega) (all later)
      (by rwa [Nat.add_right_comm first 1 n, Nat.add_assoc first n 1] at failed) other
  | exhausted later =>
    rw [log]
    exact .exhausted (all later)

theorem search_createFrom (count first : Nat) (asked : List String) :
    Search h path exhausted first count asked
      (createFrom recording path exhausted count first h asked) := by
  induction count generalizing first asked with
  | zero =>
    have nothing : Search h path exhausted first 0 asked _ := .exhausted nofun
    rwa [List.range'_zero, List.map_nil, List.append_nil] at nothing
  | succ count ih =>
    rw [run_createFrom_succ]
    cases made : h.disk.createNew (path first) with
    | ok disk => exact .made 0 (by omega) nofun made
    | error cause =>
      cases cause with
      | alreadyExists => exact .succ made (ih (first + 1) (asked ++ [path first]))
      | _ => exact .stopped 0 (by omega) nofun made nofun

end

end Host

/-- One request for a numbered file, what came of it, and the paths that were tried. -/
structure Call where
  directory : String
  stem : String
  ending : String
  before : Host
  outcome : Except DiskError String
  after : Host
  tried : List String

def Host.ask (h : Host) (directory stem ending : String) : Call :=
  let ((outcome, after), tried) := createNumbered Host.recording directory stem ending h []
  { directory, stem, ending, before := h, outcome, after, tried }

namespace Call

def name (c : Call) (index : Nat) : String := numberedName c.stem c.ending index

def path (c : Call) (index : Nat) : String := Path.join c.directory (c.name index)

def Plain (c : Call) : Prop := '/' ∉ c.stem.toList ∧ '/' ∉ c.ending.toList

instance (c : Call) : Decidable c.Plain := inferInstanceAs (Decidable (_ ∧ _))

/-- All names with lower numbers are taken. -/
def TakenBelow (c : Call) (index : Nat) : Prop :=
  ∀ i, 1 ≤ i → i < index → c.before.disk.Occupied (c.path i)

def made? (c : Call) : Option Place :=
  match c.outcome with
  | .ok path => (c.before.disk.findNew path).toOption
  | .error _ => none

/-- What a request may do: make a file that has the least free number, or fail and change nothing.
It fails for want of a free name just if there is none, and at once if the cause is another. -/
structure Fair (c : Call) : Prop where
  made : ∀ path, c.outcome = .ok path → ∃ index, 1 ≤ index ∧ index ≤ maxIndex ∧
    path = c.path index ∧ c.TakenBelow index ∧ ¬c.before.disk.Occupied path ∧
    c.tried = (List.range' 1 index).map c.path ∧
    c.after = { c.before with disk := c.after.disk } ∧
    ∃ here, c.before.disk.LeadsTo c.directory here ∧ c.made? = some (c.name index :: here) ∧
      c.before.disk.Gains c.after.disk (c.name index :: here)
  unchanged : ∀ cause, c.outcome = .error cause → c.after = c.before
  taken : (∃ cause, c.outcome = .error cause ∧ cause.alreadyThere) ↔ c.TakenBelow (maxIndex + 1)
  stopped : ∀ cause, c.outcome = .error cause → cause.alreadyThere = false →
    ∃ index, 1 ≤ index ∧ index ≤ maxIndex ∧ c.TakenBelow index ∧
      c.before.disk.createNew (c.path index) = .error cause ∧
      c.tried = (List.range' 1 index).map c.path

end Call

namespace Call

variable {c : Call}

theorem Plain.isName (plain : c.Plain) (index : Nat) : Path.IsName (c.name index) :=
  isName_numberedName plain.1 plain.2 index

theorem Plain.takenBelow_iff (plain : c.Plain) (n : Nat) :
    c.TakenBelow (1 + n) ↔
      ∀ k < n, c.before.disk.createNew (c.path (1 + k)) = .error .alreadyExists := by
  have taken_iff (index : Nat) :=
    c.before.disk.createNew_eq_alreadyExists_iff c.directory (plain.isName index)
  constructor
  · intro taken k below
    exact (taken_iff (1 + k)).mpr (taken (1 + k) (by omega) (by omega))
  · intro taken i positive below
    obtain ⟨k, rfl⟩ := Nat.exists_eq_add_of_le positive
    exact (taken_iff (1 + k)).mp (taken k (by omega))

theorem Plain.fair_of_made (plain : c.Plain) {n : Nat} {disk : Disk} (few : n < maxIndex)
    (taken : ∀ k < n, c.before.disk.createNew (c.path (1 + k)) = .error .alreadyExists)
    (free : c.before.disk.createNew (c.path (1 + n)) = .ok disk)
    (outcome : c.outcome = .ok (c.path (1 + n))) (after : c.after = { c.before with disk })
    (tried : c.tried = (List.range' 1 (1 + n)).map c.path) : c.Fair := by
  rcases c.before.disk.createNew_cases c.directory (plain.isName (1 + n)) with
    ⟨-, failed⟩ | ⟨-, cause, -, failed⟩ | ⟨absent, here, led, found, nothing, created⟩
  · cases failed.symm.trans free
  · cases failed.symm.trans free
  have same := Except.ok.inj (free.symm.trans created)
  refine ⟨?_, ?_, iff_of_false ?_ ?_, ?_⟩
  · intro path made
    obtain rfl := Except.ok.inj (outcome.symm.trans made)
    refine ⟨1 + n, by omega, by omega, rfl, (plain.takenBelow_iff n).mpr taken, absent, tried, ?_,
      here, led, ?_, ?_⟩
    · rw [after]
    · rw [made?, outcome]
      exact congrArg Except.toOption found
    · rw [after, same]
      exact Disk.gains_put nothing
  · intro cause failed
    cases outcome.symm.trans failed
  · rintro ⟨cause, failed, -⟩
    cases outcome.symm.trans failed
  · exact fun all => absent (all (1 + n) (by omega) (by omega))
  · intro cause failed
    cases outcome.symm.trans failed

theorem Plain.fair_of_stopped (plain : c.Plain) {n : Nat} {cause : DiskError} (few : n < maxIndex)
    (taken : ∀ k < n, c.before.disk.createNew (c.path (1 + k)) = .error .alreadyExists)
    (failed : c.before.disk.createNew (c.path (1 + n)) = .error cause)
    (other : cause ≠ .alreadyExists) (outcome : c.outcome = .error cause)
    (after : c.after = c.before) (tried : c.tried = (List.range' 1 (1 + n)).map c.path) :
    c.Fair := by
  rcases c.before.disk.createNew_cases c.directory (plain.isName (1 + n)) with
    ⟨-, there⟩ | ⟨absent, _, strange, again⟩ | ⟨-, here, -, -, -, made⟩
  · exact absurd (Except.error.inj (failed.symm.trans there)) other
  · obtain rfl := Except.error.inj (failed.symm.trans again)
    refine ⟨?_, fun _ _ => after, iff_of_false ?_ ?_, ?_⟩
    · intro path made
      cases outcome.symm.trans made
    · rintro ⟨_, told, there⟩
      cases outcome.symm.trans told
      exact absurd there (by rw [strange]; nofun)
    · exact fun all => absent (all (1 + n) (by omega) (by omega))
    · intro _ told _
      cases outcome.symm.trans told
      exact ⟨1 + n, by omega, by omega, (plain.takenBelow_iff n).mpr taken, failed, tried⟩
  · cases failed.symm.trans made

theorem Plain.fair_of_exhausted (plain : c.Plain) {form : String}
    (taken : ∀ k < maxIndex, c.before.disk.createNew (c.path (1 + k)) = .error .alreadyExists)
    (outcome : c.outcome = .error (.allTaken form)) (after : c.after = c.before) : c.Fair := by
  refine ⟨?_, fun _ _ => after, iff_of_true ⟨_, outcome, rfl⟩ ?_, ?_⟩
  · intro path made
    cases outcome.symm.trans made
  · rw [Nat.add_comm]
    exact (plain.takenBelow_iff maxIndex).mpr taken
  · intro _ told strange
    cases outcome.symm.trans told
    cases strange

theorem fair_of_search (plain : c.Plain)
    (search : Host.Search c.before c.path (.allTaken (c.stem ++ "NNN" ++ c.ending)) 1 maxIndex []
      ((c.outcome, c.after), c.tried)) : c.Fair := by
  generalize told : ((c.outcome, c.after), c.tried) = ended at search
  cases search with
  | made n few taken free =>
    obtain ⟨⟨outcome, after⟩, tried⟩ := by simpa only [Prod.mk.injEq] using told
    rw [List.nil_append, Nat.add_comm n 1] at tried
    exact plain.fair_of_made few taken free outcome after tried
  | stopped n few taken failed other =>
    obtain ⟨⟨outcome, after⟩, tried⟩ := by simpa only [Prod.mk.injEq] using told
    rw [List.nil_append, Nat.add_comm n 1] at tried
    exact plain.fair_of_stopped few taken failed other outcome after tried
  | exhausted taken =>
    obtain ⟨⟨outcome, after⟩, -⟩ := by simpa only [Prod.mk.injEq] using told
    exact plain.fair_of_exhausted taken outcome after

/-- Whatever is asked for, a file comes to a place where nothing was, or nothing changes. -/
theorem step_of_search {exhausted : DiskError} {first count : Nat} {asked : List String}
    (search : Host.Search c.before c.path exhausted first count asked
      ((c.outcome, c.after), c.tried)) :
    (c.made? = none ∧ c.after = c.before) ∨
      ∃ place, c.made? = some place ∧ c.before.disk.Gains c.after.disk place := by
  generalize told : ((c.outcome, c.after), c.tried) = ended at search
  cases search with
  | made n few taken free =>
    obtain ⟨⟨outcome, after⟩, -⟩ := by simpa only [Prod.mk.injEq] using told
    obtain ⟨place, found, gains⟩ := Disk.createNew_eq_ok free
    refine .inr ⟨place, ?_, by rwa [after]⟩
    rw [made?, outcome]
    exact congrArg Except.toOption found
  | stopped n few taken failed other =>
    obtain ⟨⟨outcome, after⟩, -⟩ := by simpa only [Prod.mk.injEq] using told
    exact .inl ⟨by rw [made?, outcome], after⟩
  | exhausted taken =>
    obtain ⟨⟨outcome, after⟩, -⟩ := by simpa only [Prod.mk.injEq] using told
    exact .inl ⟨by rw [made?, outcome], after⟩

end Call

theorem Host.search_ask (h : Host) (directory stem ending : String) :
    let c := h.ask directory stem ending
    Host.Search h c.path (.allTaken (stem ++ "NNN" ++ ending)) 1 maxIndex []
      ((c.outcome, c.after), c.tried) := by
  have search := h.search_createFrom
    (fun index => Path.join directory (numberedName stem ending index))
    (.allTaken (stem ++ "NNN" ++ ending)) maxIndex 1 []
  rw [ask, createNumbered]
  generalize createFrom Host.recording _ _ maxIndex 1 h [] = ended at search ⊢
  exact search

theorem Host.fair_ask (h : Host) {directory stem ending : String}
    (plain : (h.ask directory stem ending).Plain) : (h.ask directory stem ending).Fair :=
  Call.fair_of_search plain (h.search_ask directory stem ending)

/-- A file is asked for, or something else happens to the machine. -/
inductive Move
  | ask (directory stem ending : String)
  | meanwhile (change : Host → Host)

def Move.Keeps : Move → Prop
  | ask .. => True
  | meanwhile change => ∀ h place, h.disk.node? place ≠ none → (change h).disk.node? place ≠ none

namespace Host

/-- The requests among some moves, each with the machine that it finds. -/
def calls (h : Host) : List Move → List Call
  | [] => []
  | .ask directory stem ending :: moves =>
    h.ask directory stem ending :: (h.ask directory stem ending).after.calls moves
  | .meanwhile change :: moves => (change h).calls moves

theorem exists_of_mem_calls {h : Host} {moves : List Move} {c : Call}
    (member : c ∈ h.calls moves) :
    ∃ h' directory stem ending, c = Host.ask h' directory stem ending := by
  induction moves generalizing h with
  | nil => cases member
  | cons move moves ih =>
    cases move with
    | ask directory stem ending =>
      rcases List.mem_cons.mp member with rfl | later
      · exact ⟨h, directory, stem, ending, rfl⟩
      · exact ih later
    | meanwhile change => exact ih member

theorem step_ask (h : Host) (directory stem ending : String) :
    ((h.ask directory stem ending).made? = none ∧ (h.ask directory stem ending).after = h) ∨
      ∃ place, (h.ask directory stem ending).made? = some place ∧
        h.disk.Gains (h.ask directory stem ending).after.disk place :=
  Call.step_of_search (h.search_ask directory stem ending)

/-- Files that are made come to different places, none of which was taken at the start. -/
theorem made_calls {h : Host} {moves : List Move} (keeps : ∀ m ∈ moves, m.Keeps) :
    ((h.calls moves).filterMap Call.made?).Nodup ∧
      ∀ place ∈ (h.calls moves).filterMap Call.made?, h.disk.node? place = none := by
  induction moves generalizing h with
  | nil => exact ⟨List.nodup_nil, nofun⟩
  | cons move moves ih =>
    have later {h' : Host} := @ih h' fun m member => keeps m (List.mem_cons_of_mem move member)
    cases move with
    | meanwhile change =>
      have kept := keeps _ List.mem_cons_self
      refine ⟨later.1, fun place member => ?_⟩
      by_contra there
      exact kept h place there (later.2 place member)
    | ask directory stem ending =>
      rw [calls]
      rcases h.step_ask directory stem ending with ⟨nothing, same⟩ | ⟨place, made, gains⟩
      · rw [List.filterMap_cons_none nothing, same]
        exact later
      · rw [List.filterMap_cons_some made]
        have new : ∀ other ∈ List.filterMap Call.made?
            ((h.ask directory stem ending).after.calls moves), other ≠ place := by
          rintro _ member rfl
          have absent := later.2 _ member
          rw [gains.there] at absent
          cases absent
        refine ⟨List.nodup_cons.mpr ⟨fun member => new place member rfl, later.1⟩, ?_⟩
        intro other member
        rcases List.mem_cons.mp member with rfl | member
        · exact gains.free
        · rw [← gains.others other (new other member)]
          exact later.2 other member

end Host

def secondElsewhere : Move :=
  .meanwhile fun h => { h with disk := h.disk.put ["cpu.002.pb.gz", "saved"] (.file [1]) }

theorem keeps_secondElsewhere : secondElsewhere.Keeps := by
  intro h place there
  by_cases same : place = ["cpu.002.pb.gz", "saved"]
  · rw [same, Disk.node?_put_self _ (by decide)]
    nofun
  · rwa [Disk.node?_put_of_ne _ same]

def askTwice : List Move :=
  [.ask "/saved" "cpu." ".pb.gz", secondElsewhere, .ask "/saved" "cpu." ".pb.gz"]

end Profiling
