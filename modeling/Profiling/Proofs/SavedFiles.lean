import Profiling.Machine.InMemory
import Profiling.Proofs.Encoding
import Profiling.Proofs.Filing
import Profiling.Proofs.StoredBlocks
import Profiling.Save

/-!
# Files hold what was written

A file that could be written is found again under its path, with what was written last. Writing
changes what lies at one place, and no path leads through a file, so the way there stays as it was.
-/

namespace Profiling

open Merge

namespace Disk

theorem lookup_filter_ne {place other : Place} (apart : other ≠ place)
    (nodes : List (Place × Node)) :
    (nodes.filter (·.1 ≠ place)).lookup other = nodes.lookup other := by
  induction nodes with
  | nil => rfl
  | cons entry nodes ih =>
    obtain ⟨here, node⟩ := entry
    by_cases dropped : here = place
    · have differs : (other == here) = false := by simpa [dropped] using apart
      rw [List.filter_cons_of_neg (by simpa using dropped), ih, List.lookup_cons, differs]
    · rw [List.filter_cons_of_pos (by simpa using dropped), List.lookup_cons, List.lookup_cons, ih]

theorem node?_put_self (d : Disk) {place : Place} (below : place ≠ []) (node : Node) :
    (d.put place node).node? place = some node := by
  rw [node?, if_neg below, put, List.lookup_cons_self]

theorem node?_put_of_ne (d : Disk) {place other : Place} (apart : other ≠ place) (node : Node) :
    (d.put place node).node? other = d.node? other := by
  have differs : (other == place) = false := by simpa using apart
  rw [node?, node?]
  split
  · rfl
  · rw [put, List.lookup_cons, differs]
    exact lookup_filter_ne apart d.nodes

/-- What is not a directory is not on the way to anywhere. -/
theorem resolve_put {d : Disk} {place : Place} (leaf : d.node? place ≠ some .directory)
    (node : Node) {here there : Place} {names : List String}
    (found : d.resolve here names = .ok there) :
    (d.put place node).resolve here names = .ok there := by
  induction names generalizing here with
  | nil => exact found
  | cons name rest ih =>
    cases passed : d.node? here with
    | none => simp [resolve, passed] at found
    | some n =>
      cases n with
      | file content => simp [resolve, passed] at found
      | directory =>
        have apart : here ≠ place := by
          rintro rfl
          exact leaf passed
        rw [resolve, passed] at found
        rw [resolve, node?_put_of_ne d apart, passed]
        dsimp only at found ⊢
        split_ifs at found ⊢ with stays up long
        · exact ih found
        · exact ih found
        · exact ih found

theorem findNew_eq_ok {d : Disk} {path : String} {place : Place}
    (found : d.findNew path = .ok place) :
    checkPath path = .ok () ∧ d.resolve (d.start path) (Path.parts path) = .ok place := by
  obtain ⟨_, checked, found⟩ := bind_eq_ok_iff.mp found
  obtain ⟨there, resolved, found⟩ := bind_eq_ok_iff.mp found
  refine ⟨checked, ?_⟩
  rw [resolved]
  split at found
  · split at found
    · cases found
    · exact found
  · exact found

/-- What was written is read, whatever the file held before. -/
theorem contents_write {d d' : Disk} {path : String} {content : List UInt8}
    (named : endsWithSlash path = false) (written : d.write path content = .ok d') :
    d'.contents path = .ok content := by
  obtain ⟨place, found, written⟩ := bind_eq_ok_iff.mp written
  obtain ⟨checked, resolved⟩ := findNew_eq_ok found
  have leaf : d.node? place ≠ some .directory := by
    intro directory
    rw [directory] at written
    cases written
  have made : d' = d.put place (.file content) := by
    cases here : d.node? place with
    | none =>
      rw [here] at written
      exact (Except.ok.inj written).symm
    | some node =>
      cases node with
      | directory => exact absurd here leaf
      | file before =>
        rw [here] at written
        exact (Except.ok.inj written).symm
  have below : place ≠ [] := by
    rintro rfl
    exact leaf rfl
  have again : d'.find path = .ok place := by
    have way := resolve_put leaf (.file content) resolved
    rw [find, checked, named, made]
    simp only [bind, Except.bind, Bool.false_eq_true, if_false, List.append_nil]
    exact way
  have there : d'.nodeAt path = .ok (place, .file content) := by
    rw [nodeAt, again]
    simp only [bind, Except.bind, made, node?_put_self d below]
  rw [contents, there]
  rfl

end Disk

namespace Profile

theorem isCompressed_write (p : Profile) : isCompressed p.write = true := rfl

/-- A profile is read back from the file that it is kept in. -/
theorem parse_write {p : Profile} (fits : p.encode.length < UInt64.size) :
    parse p.write = .ok p := by
  have some_byte : p.write.isEmpty = false := rfl
  have content : decompressed p.write = .ok p.encode := by
    rw [decompressed, if_pos p.isCompressed_write, write, Gzip.decompress_compress]
  simp only [parse, some_byte, content, bind, Except.bind, decode_encode fits]
  rfl

end Profile

theorem getLast?_append_text (a : String) {b : String} {c : Char}
    (last : b.toList.getLast? = some c) : (a ++ b).toList.getLast? = some c := by
  rw [String.toList_append, List.getLast?_append, last]
  rfl

theorem getLast?_join (directory : String) {name : String} {c : Char}
    (last : name.toList.getLast? = some c) :
    (Path.join directory name).toList.getLast? = some c := by
  rw [Path.join]
  split
  · exact last
  · split
    · exact getLast?_append_text directory last
    · exact getLast?_append_text (directory ++ "/") last

section

variable {σ : Type} {machine : Machine (StateM σ)} {world after : σ} {path : String}

theorem exists_of_createFrom {name : Nat → String} {exhausted : DiskError} {count index : Nat}
    (created : (createFrom machine name exhausted count index).run world = (.ok path, after)) :
    ∃ i, path = name i := by
  induction count generalizing index world with
  | zero => cases created
  | succ count ih =>
    rw [createFrom, StateT.run_bind] at created
    rcases made : (machine.createNew (name index)).run world with ⟨outcome, middle⟩
    rw [made] at created
    cases outcome with
    | ok =>
      obtain ⟨same, -⟩ := Prod.mk.inj created
      exact ⟨index, (Except.ok.inj same).symm⟩
    | error cause =>
      cases cause with
      | alreadyExists => exact ih created
      | _ => cases created

/-- A profile that was saved was written to a file, in its compressed form. -/
theorem exists_of_saveProfile {env : Environment} {p : Profile}
    (saved : (saveProfile machine env p).run world = (.ok path, after)) :
    Disk.endsWithSlash path = false ∧
      ∃ before, (machine.write path p.write).run before = (.ok (), after) := by
  rw [saveProfile, StateT.run_bind] at saved
  rcases chosen : (saveDirectory machine env).run world with ⟨directory, world₁⟩
  rw [chosen] at saved
  cases directory with
  | error e => cases saved
  | ok directory =>
    change StateT.run (createNumbered machine directory (savePrefix p) ".pb.gz" >>= _) world₁ = _
      at saved
    rw [StateT.run_bind] at saved
    rcases created : (createNumbered machine directory (savePrefix p) ".pb.gz").run world₁ with
      ⟨name, world₂⟩
    rw [created] at saved
    cases name with
    | error e => cases saved
    | ok name =>
      change StateT.run (machine.write name p.write >>= _) world₂ = _ at saved
      rw [StateT.run_bind] at saved
      rcases written : (machine.write name p.write).run world₂ with ⟨outcome, world₃⟩
      rw [written] at saved
      cases outcome with
      | error cause => cases saved
      | ok =>
        obtain ⟨same, rfl⟩ := Prod.mk.inj saved
        obtain rfl := Except.ok.inj same
        refine ⟨?_, world₂, written⟩
        obtain ⟨i, rfl⟩ := exists_of_createFrom created
        have ending : (".pb.gz" : String).toList.getLast? = some 'z' := by decide
        have last := getLast?_join directory
          (getLast?_append_text (savePrefix p ++ paddedIndex i) ending)
        rw [Disk.endsWithSlash, numberedName, last]
        decide

/-- The files of a machine lie on a disk. Reading and warnings leave it as it is. -/
structure Machine.KeepsFiles (machine : Machine (StateM σ)) (disk : σ → Disk) : Prop where
  read : ∀ path world, ((machine.readFile path).run world).1 = (disk world).contents path
  untouched : ∀ path world, disk ((machine.readFile path).run world).2 = disk world
  written : ∀ path content world after, (machine.write path content).run world = (.ok (), after) →
    (disk world).write path content = .ok (disk after)
  warned : ∀ text world, disk ((machine.warn text).run world).2 = disk world

/-- So does the machine in memory, whatever servers it is connected to. -/
theorem Host.keepsFiles (exchange : HttpRequest → StateM Host (Option HttpResponse)) :
    Machine.KeepsFiles { Host.machine Id with exchange } Host.disk := by
  refine ⟨fun _ _ => rfl, fun _ _ => rfl, ?_, fun _ _ => rfl⟩
  intro path content world after run
  change Host.change world (world.disk.write path content) = _ at run
  cases written : world.disk.write path content with
  | error cause =>
    rw [written] at run
    cases run
  | ok d =>
    rw [written] at run
    obtain ⟨-, rfl⟩ := Prod.mk.inj run
    rfl

/-- What was saved can be read, also after a message about it. -/
theorem contents_of_saveProfile {disk : σ → Disk} (files : machine.KeepsFiles disk)
    {env : Environment} {p : Profile}
    (saved : (saveProfile machine env p).run world = (.ok path, after)) :
    (disk after).contents path = .ok p.write := by
  obtain ⟨named, before, written⟩ := exists_of_saveProfile saved
  exact Disk.contents_write named (files.written path p.write before after written)

end

end Profiling
