import Profiling.Proofs.Paths
import Profiling.Proofs.SavedFiles

/-!
# Where profiles are saved

The name of a saved file is made of texts that come with the profile. The file of its first
mapping adds only its last name, but the kinds of its values stand there as they are, so that a
slash in one of them makes the name a path. Without any, a profile that is saved lies directly in
the directory that was chosen for it, and nothing that it holds leads anywhere else.
-/

namespace Profiling

def savedName (p : Profile) (index : Nat) : String := numberedName (savePrefix p) ".pb.gz" index

def savedPath (directory : String) (p : Profile) (index : Nat) : String :=
  Path.join directory (savedName p index)

def noneFree (p : Profile) : DiskError := .allTaken (savePrefix p ++ "NNN" ++ ".pb.gz")

/-- No kind of value of a profile has a slash in it. -/
def Profile.KindsWhole (p : Profile) : Prop := ∀ t ∈ p.sampleTypes, '/' ∉ t.kind.toList

instance (p : Profile) : Decidable p.KindsWhole :=
  inferInstanceAs (Decidable (∀ t ∈ p.sampleTypes, _))

theorem slash_not_mem_paddedIndex (index : Nat) : '/' ∉ (paddedIndex index).toList := by
  intro slash
  rw [paddedIndex, String.toList_ofList, List.mem_append] at slash
  rcases slash with zeros | digits
  · exact absurd (List.eq_of_mem_replicate zeros) (by decide)
  · exact absurd (Nat.isDigit_of_mem_toDigits (by decide) (by decide) digits) (by decide)

theorem slash_mem_savePrefix {p : Profile} :
    '/' ∈ (savePrefix p).toList ↔ ∃ t ∈ p.sampleTypes, '/' ∈ t.kind.toList := by
  have binary_whole : ∀ name ∈ (p.mappings.head?.bind fun m => Path.fileName? m.file).toList,
      '/' ∉ name.toList := by
    intro name listed
    obtain ⟨m, -, named⟩ := Option.bind_eq_some_iff.mp (Option.mem_toList.mp listed)
    exact (Path.isName_of_fileName? named).1
  rw [savePrefix, String.toList_join, List.mem_flatMap]
  constructor
  · rintro ⟨part, listed, slash⟩
    rcases List.mem_cons.mp listed with rfl | dotted
    · exact absurd slash (by decide)
    · obtain ⟨text, among, rfl⟩ := List.mem_map.mp dotted
      have slash : '/' ∈ text.toList := by simpa using slash
      rcases List.mem_append.mp among with binary | kind
      · exact absurd slash (binary_whole text binary)
      · obtain ⟨t, typed, rfl⟩ := List.mem_map.mp kind
        exact ⟨t, typed, slash⟩
  · rintro ⟨t, listed, slash⟩
    refine ⟨t.kind ++ ".", List.mem_cons_of_mem _ (List.mem_map_of_mem ?_), by simp [slash]⟩
    exact List.mem_append_right _ (List.mem_map_of_mem listed)

theorem slash_not_mem_savedName {p : Profile} {index : Nat} :
    '/' ∉ (savedName p index).toList ↔ p.KindsWhole := by
  have ending : '/' ∉ (".pb.gz" : String).toList := by decide
  simp only [savedName, numberedName, String.toList_append, List.mem_append, slash_mem_savePrefix,
    ending, slash_not_mem_paddedIndex, or_false, not_exists, not_and]
  rfl

theorem head?_savedName (p : Profile) (index : Nat) :
    (savedName p index).toList.head? = some 'p' := by
  rw [savedName, numberedName, savePrefix, String.join_cons]
  simp

theorem isName_savedName {p : Profile} (whole : p.KindsWhole) (index : Nat) :
    Path.IsName (savedName p index) :=
  Path.isName_of_head? (head?_savedName p index) (by decide) (slash_not_mem_savedName.mpr whole)

theorem inside_savedPath_iff {directory : String} {p : Profile} {index : Nat} :
    Path.Inside directory (savedPath directory p index) ↔ p.KindsWhole := by
  have tail : (savedName p index).toList.getLast? = some 'z' := getLast?_append_text _ (by decide)
  rw [savedPath, Path.inside_join_iff (head?_savedName p index) (by decide) (by decide) tail
    (by decide) (by decide), slash_not_mem_savedName]

namespace Path

theorem IsName.endsWithSlash_join {name : String} (h : IsName name) (dir : String) :
    Disk.endsWithSlash (join dir name) = false := by
  have : name.toList ≠ [] := fun e => h.2.1 (String.ext e)
  have last := getLast?_join dir (List.getLast?_eq_some_getLast this)
  have whole := List.getLast_mem this
  rw [Disk.endsWithSlash, last, decide_eq_false_iff_not]
  intro slash
  exact h.1 (Option.some.inj slash ▸ whole)

end Path

namespace Disk

/-- A path leads to a directory that is there. -/
def LeadsTo (d : Disk) (path : String) (place : Place) : Prop :=
  d.resolve (d.start path) (Path.parts path) = .ok place ∧ d.node? place = some .directory

theorem resolve_append {d : Disk} {here there : Place} {front : List String}
    (found : d.resolve here front = .ok there) (back : List String) :
    d.resolve here (front ++ back) = d.resolve there back := by
  induction front generalizing here with
  | nil =>
    obtain rfl := Except.ok.inj found
    rfl
  | cons name rest ih =>
    rw [resolve] at found
    rw [List.cons_append, resolve]
    split at found
    · cases found
    · cases found
    · split_ifs at found ⊢ with stays up long
      · exact ih found
      · exact ih found
      · exact ih found

/-- Why a path cannot be that of a new file with a name, whatever lies on the disk. -/
inductive Unfit (path name : String) : DiskError → Prop
  | nul : '\x00' ∈ path.toList → Unfit path name .nulInPath
  | longName : maxName < name.utf8ByteSize → Unfit path name .nameTooLong
  | longPath : pathLimit ≤ path.utf8ByteSize → Unfit path name .nameTooLong

theorem checkPath_cases {path : String} (nonempty : path ≠ "") (name : String) :
    checkPath path = .ok () ∨ ∃ cause, Unfit path name cause ∧ checkPath path = .error cause := by
  rw [checkPath]
  split_ifs with nul empty long
  · exact .inr ⟨.nulInPath, .nul (by simpa using nul), rfl⟩
  · exact absurd (by simpa using empty) nonempty
  · exact .inr ⟨.nameTooLong, .longPath long, rfl⟩
  · exact .inl rfl

variable {d : Disk} {dir name : String} {place : Place}

/-- A file with a proper name belongs into the directory, if anywhere. -/
theorem findNew_join (led : d.LeadsTo dir place) (proper : Path.IsName name) :
    d.findNew (Path.join dir name) = .ok (name :: place) ∨
      ∃ cause, Unfit (Path.join dir name) name cause ∧
        d.findNew (Path.join dir name) = .error cause := by
  have relative : Path.isAbsolute name = false := Path.isAbsolute_eq_false proper.1
  have nonempty : Path.join dir name ≠ "" := by
    intro e
    have named := Path.names_join dir name relative
    simp [e, proper.names_eq] at named
  have way : d.resolve (d.start (Path.join dir name)) (Path.parts (Path.join dir name)) =
      if maxName < name.utf8ByteSize then .error .nameTooLong else .ok (name :: place) := by
    have start : d.start (Path.join dir name) = d.start dir := by
      rw [start, start, Path.isAbsolute_join, relative, Bool.false_or]
    obtain ⟨whole, named, dot, up⟩ := proper
    rw [start, Path.parts_join dir name relative, resolve_append led.1, Path.parts_part whole named,
      resolve, led.2]
    simp only [dot, up, if_false, resolve]
  rcases checkPath_cases nonempty name with fits | ⟨cause, unfit, refused⟩
  · by_cases long : maxName < name.utf8ByteSize
    · refine .inr ⟨.nameTooLong, .longName long, ?_⟩
      rw [findNew, fits, way, if_pos long]
      rfl
    · left
      rw [findNew, fits, way, if_neg long, proper.endsWithSlash_join]
      simp only [bind, Except.bind, Bool.false_and, Bool.false_eq_true, if_false]
      split <;> rfl
  · refine .inr ⟨cause, unfit, ?_⟩
    rw [findNew, refused]
    rfl

theorem createNew_join (led : d.LeadsTo dir place) (proper : Path.IsName name) :
    (∃ cause, Unfit (Path.join dir name) name cause ∧
      d.createNew (Path.join dir name) = .error cause) ∨
    (d.node? (name :: place) ≠ none ∧ d.createNew (Path.join dir name) = .error .alreadyExists) ∨
    (d.node? (name :: place) = none ∧ d.findNew (Path.join dir name) = .ok (name :: place) ∧
      d.createNew (Path.join dir name) = .ok (d.put (name :: place) (.file []))) := by
  rw [createNew]
  rcases findNew_join led proper with found | ⟨cause, unfit, found⟩
  · rw [found]
    cases there : d.node? (name :: place) with
    | some node => exact .inr (.inl ⟨by simp, by simp only [bind, Except.bind, there]⟩)
    | none => exact .inr (.inr ⟨rfl, rfl, by simp only [bind, Except.bind, there]⟩)
  · rw [found]
    exact .inl ⟨cause, unfit, rfl⟩

theorem taken_of_createNew (led : d.LeadsTo dir place) (proper : Path.IsName name)
    (failed : d.createNew (Path.join dir name) = .error .alreadyExists) :
    d.node? (name :: place) ≠ none := by
  rcases createNew_join led proper with ⟨cause, unfit, refused⟩ | ⟨taken, -⟩ | ⟨-, -, made⟩
  · obtain rfl := Except.error.inj (failed.symm.trans refused)
    cases unfit
  · exact taken
  · cases failed.symm.trans made

theorem put_put (d : Disk) (place : Place) (before after : Node) :
    (d.put place before).put place after = d.put place after := by
  simp [put, List.filter_filter]

theorem findNew_put {path : String} {there : Place} (leaf : d.node? place ≠ some .directory)
    (node : Node) (found : d.findNew path = .ok there) :
    (d.put place node).findNew path = .ok there := by
  obtain ⟨checked, resolved⟩ := findNew_eq_ok found
  have way := resolve_put leaf node resolved
  rw [findNew, checked, resolved] at found
  rw [findNew, checked]
  change ((d.put place node).resolve (d.start path) (Path.parts path) >>= _) = _
  rw [way]
  exact found

/-- A file that was just made can be written. -/
theorem write_put_new {path : String} (found : d.findNew path = .ok place)
    (free : d.node? place = none) (content : List UInt8) :
    (d.put place (.file [])).write path content = .ok (d.put place (.file content)) := by
  have below : place ≠ [] := by
    rintro rfl
    cases free
  have leaf : d.node? place ≠ some .directory := by simp [free]
  rw [write, findNew_put leaf (.file []) found]
  simp only [bind, Except.bind, node?_put_self d below, put_put]

end Disk

namespace Host

def recording : Machine (StateT Host (StateM (List String))) :=
  { Host.machine (StateM (List String)) with
    createNew := fun path h asked => (h.change (h.disk.createNew path), asked ++ [path]) }

/-- The files of a profile with lower numbers are there already. -/
def Taken (h : Host) (place : Place) (p : Profile) (index : Nat) : Prop :=
  ∀ i, 1 ≤ i → i < index → h.disk.node? (savedName p i :: place) ≠ none

inductive Saved (h : Host) (directory : String) (place : Place) (p : Profile) :
    Except FetchError String × Host → Prop
  | kept (index : Nat) (number : 1 ≤ index ∧ index ≤ maxIndex) (taken : h.Taken place p index)
      (free : h.disk.node? (savedName p index :: place) = none) :
      Saved h directory place p (.ok (savedPath directory p index),
        { h with disk := h.disk.put (savedName p index :: place) (.file p.write) })
  | unfit (index : Nat) (number : 1 ≤ index ∧ index ≤ maxIndex) (taken : h.Taken place p index)
      {cause : DiskError}
      (unfit : Disk.Unfit (savedPath directory p index) (savedName p index) cause) :
      Saved h directory place p (.error (.disk cause), h)
  | noneFree (taken : h.Taken place p (maxIndex + 1)) :
      Saved h directory place p (.error (.disk (noneFree p)), h)

theorem bind_apply {α β : Type} (x : StateT Host (StateM (List String)) α)
    (f : α → StateT Host (StateM (List String)) β) (h : Host) (asked : List String) :
    (x >>= f) h asked = f (x h asked).1.1 (x h asked).1.2 (x h asked).2 :=
  rfl

theorem createNew_apply (path : String) (h : Host) (asked : List String) :
    recording.createNew path h asked = (h.change (h.disk.createNew path), asked ++ [path]) :=
  rfl

section

variable (path : Nat → String) (exhausted : DiskError)

theorem run_createFrom_succ (count index : Nat) (h : Host) (asked : List String) :
    createFrom recording path exhausted (count + 1) index h asked =
      match h.disk.createNew (path index) with
      | .ok disk => ((.ok (path index), { h with disk }), asked ++ [path index])
      | .error .alreadyExists =>
        createFrom recording path exhausted count (index + 1) h (asked ++ [path index])
      | .error cause => ((.error cause, h), asked ++ [path index]) := by
  rw [createFrom, bind_apply, createNew_apply]
  cases h.disk.createNew (path index) with
  | ok disk => rfl
  | error cause => cases cause <;> rfl

/-- Files are asked for in the order of their numbers. -/
theorem asked_createFrom (count index : Nat) (h : Host) (asked : List String) :
    ∃ n ≤ count, (createFrom recording path exhausted count index h asked).2 =
      asked ++ (List.range' index n).map path := by
  induction count generalizing index asked with
  | zero => exact ⟨0, le_rfl, (List.append_nil asked).symm⟩
  | succ count ih =>
    rw [run_createFrom_succ]
    split
    · exact ⟨1, by omega, rfl⟩
    · obtain ⟨n, few, log⟩ := ih (index + 1) (asked ++ [path index])
      refine ⟨n + 1, by omega, ?_⟩
      rw [log, List.range'_succ, List.map_cons, List.append_assoc, List.singleton_append]
    · exact ⟨1, by omega, rfl⟩

/-- The first number counts whose file is not there already. -/
theorem run_createFrom (count index : Nat) (h : Host) (asked : List String) :
    (createFrom recording path exhausted count index h asked).1 =
      match (List.range' index count).find?
        (fun i => h.disk.createNew (path i) ≠ .error .alreadyExists) with
      | none => (.error exhausted, h)
      | some i =>
        match h.disk.createNew (path i) with
        | .ok disk => (.ok (path i), { h with disk })
        | .error cause => (.error cause, h) := by
  induction count generalizing index asked with
  | zero => rfl
  | succ count ih =>
    rw [run_createFrom_succ, List.range'_succ, List.find?_cons]
    cases made : h.disk.createNew (path index) with
    | ok disk => simp [made]
    | error cause => cases cause <;> simp [made, ih]

end

theorem asked_firstUsable (directories : List String) (h : Host) (asked : List String) :
    (firstUsable recording directories h asked).2 = asked := by
  induction directories generalizing h with
  | nil => rfl
  | cons directory others ih =>
    rw [firstUsable, bind_apply]
    have made : recording.createDirectories directory h asked =
        (h.change (h.disk.createDirectories directory), asked) := rfl
    rw [made]
    cases h.disk.createDirectories directory with
    | ok disk => rfl
    | error cause => exact ih _

theorem asked_saveDirectory (env : Environment) (h : Host) (asked : List String) :
    (saveDirectory recording env h asked).2 = asked := by
  rw [saveDirectory]
  cases env.tmpDir with
  | some directory => rfl
  | none => exact asked_firstUsable _ h asked

variable {env : Environment} {h h' : Host} {directory : String}

theorem run_saveProfile (p : Profile)
    (chosen : (saveDirectory recording env h []).1 = (.ok directory, h')) :
    let created := createNumbered recording directory (savePrefix p) ".pb.gz" h' []
    saveProfile recording env p h [] = (match created.1 with
      | (.error cause, h'') => (.error (.disk cause), h'')
      | (.ok path, h'') =>
        match h''.disk.write path p.write with
        | .ok disk => (.ok path, { h'' with disk })
        | .error cause => (.error (.disk cause), (h''.change (h''.disk.removeFile path)).2),
      created.2) := by
  have start : saveDirectory recording env h [] = ((.ok directory, h'), []) :=
    Prod.ext chosen (asked_saveDirectory env h [])
  dsimp only
  rw [saveProfile, bind_apply, start]
  dsimp only
  rw [bind_apply]
  rcases createNumbered recording directory (savePrefix p) ".pb.gz" h' [] with
    ⟨⟨outcome, h''⟩, asked⟩
  cases outcome with
  | error cause => rfl
  | ok path =>
    dsimp only
    rw [bind_apply]
    have wrote : recording.write path p.write h'' asked =
        (h''.change (h''.disk.write path p.write), asked) := rfl
    rw [wrote]
    cases h''.disk.write path p.write with
    | ok disk => rfl
    | error cause => rfl

theorem createNumbered_eq (directory : String) (p : Profile) :
    createNumbered recording directory (savePrefix p) ".pb.gz" =
      createFrom recording (savedPath directory p) (noneFree p) maxIndex 1 :=
  rfl

theorem asked_saveProfile (p : Profile)
    (chosen : (saveDirectory recording env h []).1 = (.ok directory, h')) :
    ∃ n ≤ maxIndex,
      (saveProfile recording env p h []).2 = (List.range' 1 n).map (savedPath directory p) := by
  obtain ⟨n, few, log⟩ := asked_createFrom (savedPath directory p) (noneFree p) maxIndex 1 h' []
  refine ⟨n, few, ?_⟩
  rw [run_saveProfile p chosen, createNumbered_eq, log, List.nil_append]

/-- A profile whose name is no path is kept in the directory that was chosen, if that is there. -/
theorem saved_saveProfile {p : Profile} (whole : p.KindsWhole)
    (chosen : (saveDirectory recording env h []).1 = (.ok directory, h')) {place : Place}
    (led : h'.disk.LeadsTo directory place) :
    h'.Saved directory place p (saveProfile recording env p h []).1 := by
  have taken {i : Nat} (failed : h'.disk.createNew (savedPath directory p i) =
      .error .alreadyExists) : h'.disk.node? (savedName p i :: place) ≠ none :=
    Disk.taken_of_createNew led (isName_savedName whole i) failed
  have run := run_createFrom (savedPath directory p) (noneFree p) maxIndex 1 h' []
  rw [run_saveProfile p chosen, createNumbered_eq]
  dsimp only
  rw [run]
  cases found : (List.range' 1 maxIndex).find?
      (fun i => h'.disk.createNew (savedPath directory p i) ≠ .error .alreadyExists) with
  | none =>
    rw [List.find?_range'_eq_none] at found
    refine .noneFree fun i positive below => taken ?_
    simpa using found i positive (by omega)
  | some i =>
    obtain ⟨stops, inside, before⟩ := List.find?_range'_eq_some.mp found
    have number : 1 ≤ i ∧ i ≤ maxIndex := by
      rw [List.mem_range'_1] at inside
      omega
    have earlier : h'.Taken place p i := fun j positive below =>
      taken (by simpa using before j positive below)
    rcases Disk.createNew_join led (isName_savedName whole i) with
      ⟨cause, unfit, refused⟩ | ⟨-, there⟩ | ⟨free, new, made⟩
    · dsimp only
      rw [savedPath, refused]
      exact .unfit i number earlier unfit
    · exact absurd there (of_decide_eq_true stops)
    · dsimp only
      rw [savedPath, made]
      dsimp only
      rw [Disk.write_put_new new free]
      exact .kept i number earlier free

end Host

/-- All paths at which a file is asked for are inside the directory that was chosen, just if no
kind of value has a slash in it. If so, and the directory is there, the profile is kept in it or
nothing is changed: then a path is too long or holds a NUL, or all numbers are taken. -/
theorem saved_inside (p : Profile) :
    (∀ directory index, Path.Inside directory (savedPath directory p index) ↔ p.KindsWhole) ∧
    ∀ env h directory h', (saveDirectory Host.recording env h []).1 = (.ok directory, h') →
      (∃ n ≤ maxIndex, (saveProfile Host.recording env p h []).2 =
        (List.range' 1 n).map (savedPath directory p)) ∧
      (p.KindsWhole → ∀ place, h'.disk.LeadsTo directory place →
        h'.Saved directory place p (saveProfile Host.recording env p h []).1) :=
  ⟨fun _ _ => inside_savedPath_iff, fun _ _ _ _ chosen =>
    ⟨Host.asked_saveProfile p chosen, fun whole _ led => Host.saved_saveProfile whole chosen led⟩⟩

def Host.fresh : Host := { disk := { nodes := [(["saved"], .directory)] } }

def Environment.saving : Environment := { tmpDir := some "/saved" }

def Profile.ofKind (kind : String) : Profile where
  sampleTypes := [⟨kind, "ns"⟩]

theorem saved_inside_fresh :
    Host.fresh.Saved "/saved" ["saved"] (.ofKind "cpu")
      (saveProfile Host.recording .saving (.ofKind "cpu") .fresh []).1 :=
  ((saved_inside (.ofKind "cpu")).2 .saving .fresh "/saved" .fresh rfl).2 (by decide) ["saved"]
    ⟨by decide +kernel, by decide +kernel⟩

/-- With a slash in the kind there is a directory missing that nobody chose. -/
theorem saved_strays :
    (Profile.ofKind "cpu/wall").checkValid = .ok () ∧
      savedPath "/saved" (.ofKind "cpu/wall") 1 = "/saved/pprof.cpu/wall.001.pb.gz" ∧
      ¬Path.Inside "/saved" (savedPath "/saved" (.ofKind "cpu/wall") 1) ∧
      (saveProfile (Host.machine Id) .saving (.ofKind "cpu/wall") .fresh).1 =
        .error (.disk .notFound) := by
  refine ⟨by decide +kernel, by decide +kernel, ?_, by decide +kernel⟩
  rw [inside_savedPath_iff]
  decide

end Profiling
