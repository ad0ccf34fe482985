import Mathlib.Data.List.Forall2
import Mathlib.Data.List.Nodup
import Profiling.Profile.Check
import Profiling.Symbolize

/-!
# Requests for names

What the two passes ask of servers. Servers are asked about a mapping as if no binary had been
looked for, unless the binary of the mapping could be opened: then they are not asked at all,
whether it named anything or not.
-/

namespace Profiling

/-- What there is outside the program: files on this machine, and what servers answer. -/
structure Outside where
  readFile : String → Except DiskError (List UInt8)
  isFile : String → Bool
  answer : HttpRequest → Option HttpResponse

def Outside.machine (o : Outside) : Machine (StateM (List HttpRequest)) where
  readFile path := pure (o.readFile path)
  isFile path := pure (o.isFile path)
  names _ := pure []
  createDirectories _ := pure (.error .notPermitted)
  createNew _ := pure (.error .notPermitted)
  write _ _ := pure (.error .notPermitted)
  removeFile _ := pure (.error .notFound)
  tempDirectory := pure "/tmp"
  scratchFile _ _ := pure (.error .notPermitted)
  run _ _ := pure (.error .notFound)
  exchange request := fun log => (o.answer request, log ++ [request])
  print _ := pure ()
  warn _ := pure ()

def Profile.unnamed (p : Profile) (m : Mapping) : List Location :=
  p.locations.filter (·.lacksLines m)

def Mapping.searched (m : Mapping) : Mapping :=
  { m with
    hasFunctions := true, hasFilenames := true, hasLineNumbers := true, hasInlineFrames := true }

namespace Symbolize

section

variable (lines? : UInt64 → Profile → Option (List Line × Profile)) (mapping : Mapping)

def nameStep (state : Nat × List Location × Profile) (l : Location) :
    Nat × List Location × Profile :=
  let (count, done, p) := state
  if l.lacksLines mapping then
    match lines? l.address p with
    | some (lines, p) => (count + 1, { l with lines } :: done, p)
    | none => (count, l :: done, p)
  else (count, l :: done, p)

theorem nameLocations_eq (p : Profile) : nameLocations lines? mapping p =
    let (count, locations, q) := p.locations.foldl (nameStep lines? mapping) (0, [], p)
    (count, { q with locations := locations.reverse }) :=
  rfl

end

/-- A location that may have been named for a mapping. -/
def Named (mapping : Mapping) (l l' : Location) : Prop :=
  l' = l ∨ l.mappingId = mapping.id ∧ ∃ lines, l' = { l with lines }

def KeepsMappings (lines? : UInt64 → Profile → Option (List Line × Profile)) : Prop :=
  ∀ address p lines p', lines? address p = some (lines, p') → p'.mappings = p.mappings

variable {lines? : UInt64 → Profile → Option (List Line × Profile)} {mapping : Mapping}

theorem nameStep_spec (keeps : KeepsMappings lines?) (count : Nat) (done : List Location)
    (p : Profile) (l : Location) : ∃ count' l' p',
      nameStep lines? mapping (count, done, p) l = (count', l' :: done, p') ∧
        Named mapping l l' ∧ p'.mappings = p.mappings := by
  by_cases lacks : l.lacksLines mapping = true
  · have own : l.mappingId = mapping.id := by
      simp only [Location.lacksLines, Bool.and_eq_true, beq_iff_eq] at lacks
      exact lacks.1
    cases found : lines? l.address p with
    | none => exact ⟨count, l, p, by simp [nameStep, lacks, found], Or.inl rfl, rfl⟩
    | some named =>
      obtain ⟨lines, p'⟩ := named
      exact ⟨count + 1, { l with lines }, p', by simp [nameStep, lacks, found],
        Or.inr ⟨own, lines, rfl⟩, keeps _ _ _ _ found⟩
  · exact ⟨count, l, p, by simp [nameStep, lacks], Or.inl rfl, rfl⟩

theorem nameSteps_spec (keeps : KeepsMappings lines?) (ls : List Location) (count : Nat)
    (done : List Location) (p : Profile) : ∃ count' named p',
      ls.foldl (nameStep lines? mapping) (count, done, p) =
        (count', named.reverse ++ done, p') ∧
        List.Forall₂ (Named mapping) ls named ∧ p'.mappings = p.mappings := by
  induction ls generalizing count done p with
  | nil => exact ⟨count, [], p, rfl, .nil, rfl⟩
  | cons l ls ih =>
    obtain ⟨count₁, l', p₁, step, named, same⟩ := nameStep_spec keeps count done p l
    obtain ⟨count₂, rest, p₂, run, others, same'⟩ := ih count₁ (l' :: done) p₁
    refine ⟨count₂, l' :: rest, p₂, ?_, .cons named others, same'.trans same⟩
    rw [List.foldl_cons, step, run, List.reverse_cons, List.append_assoc]
    rfl

theorem nameLocations_spec (keeps : KeepsMappings lines?) (p : Profile) : ∃ count p',
    nameLocations lines? mapping p = (count, p') ∧
      List.Forall₂ (Named mapping) p.locations p'.locations ∧ p'.mappings = p.mappings := by
  obtain ⟨count, named, q, run, others, same⟩ := nameSteps_spec keeps p.locations 0 [] p
  refine ⟨count, { q with locations := named }, ?_, others, same⟩
  rw [nameLocations_eq, run]
  simp

/-- Naming for one mapping does not touch the locations of others. -/
theorem unnamed_eq {p p' : Profile} {other : Mapping}
    (named : List.Forall₂ (Named mapping) p.locations p'.locations)
    (foreign : other.id ≠ mapping.id) :
    p'.unnamed other = p.unnamed other := by
  rw [Profile.unnamed, Profile.unnamed]
  generalize p.locations = ls, p'.locations = ls' at named
  induction named with
  | nil => rfl
  | @cons l l' ls ls' here _ ih =>
    rcases here with rfl | ⟨own, lines, rfl⟩
    · rw [List.filter_cons, List.filter_cons, ih]
    · have apart : ∀ lines, ({ l with lines } : Location).lacksLines other = false := by
        intro lines
        simp [Location.lacksLines, own, Ne.symm foreign]
      rw [List.filter_cons_of_neg (by simp [apart lines]), ih,
        List.filter_cons_of_neg (by simp [apart l.lines])]

theorem mappings_internFunction (p : Profile) (name systemName filename : String) :
    (p.internFunction name systemName filename).2.mappings = p.mappings := by
  rw [Profile.internFunction]
  split <;> rfl

theorem mappings_internFrames (frames : List SourceFrame) (p : Profile) :
    (internFrames frames p).2.mappings = p.mappings := by
  induction frames generalizing p with
  | nil => rfl
  | cons frame frames ih => exact (ih _).trans (mappings_internFunction p _ _ _)

theorem keepsMappings_linesIn (binary : DebugFile) (m : Mapping) :
    KeepsMappings (linesIn? binary m) := by
  intro address p lines p' found
  rw [linesIn?] at found
  split at found
  · obtain rfl : _ = p' := (Prod.ext_iff.mp (Option.some.inj found)).2
    exact mappings_internFrames _ p
  · cases found

theorem keepsMappings_lineFrom (names : Symbolz.Names) (origin : Origin) (m : Mapping) :
    KeepsMappings (lineFrom? names origin m) := by
  intro address p lines p' found
  obtain ⟨raw, -, rest⟩ := Option.map_eq_some_iff.mp found
  obtain rfl : _ = p' := (Prod.ext_iff.mp rest).2
  exact mappings_internFunction p _ raw ""

theorem run_forMappings_cons {name : Mapping → Nat → Profile → StateM σ (Nat × Profile)}
    {m : Mapping} {rest : List Mapping} {i count others : Nat} {p p₁ p₂ : Profile} {s s₁ s₂ : σ}
    (first : (name m i p).run s = pure ((count, p₁), s₁))
    (later : (forMappings name rest (i + 1) p₁).run s₁ = pure ((others, p₂), s₂)) :
    (forMappings name (m :: rest) i p).run s = pure ((count + others, p₂), s₂) := by
  simp only [forMappings, StateT.run_bind, first, later, pure_bind]
  rfl

end Symbolize

namespace Outside

variable (o : Outside)

def binary? (path : String) : Option DebugFile :=
  match o.readFile path with
  | .ok content => (DebugFile.ofImage content.toArray).toOption
  | .error _ => none

/-- Whether the binary of a mapping is looked into. -/
def opens (m : Mapping) : Bool :=
  !m.hasFunctions && !m.file.isEmpty && o.isFile m.file && (o.binary? m.file).isSome

def searched (m : Mapping) : Mapping := if o.opens m then m.searched else m

theorem run_isFile (path : String) (log : List HttpRequest) :
    (o.machine.isFile path).run log = pure (o.isFile path, log) :=
  rfl

theorem run_openFile (path : String) (log : List HttpRequest) : ∃ result,
    (DebugFile.openFile o.machine path).run log = pure (result, log) ∧
      result.toOption = o.binary? path := by
  have read : (o.machine.readFile path).run log = pure (o.readFile path, log) := rfl
  rw [DebugFile.openFile, StateT.run_bind, read, pure_bind]
  cases content : o.readFile path with
  | error cause => exact ⟨.error .unreadable, rfl, by simp [binary?, content, Except.toOption]⟩
  | ok content' => exact ⟨DebugFile.ofImage content'.toArray, rfl, by simp [binary?, content]⟩

/-- A binary that cannot be opened leaves everything as it is. -/
theorem nameFromFile_closed {mapping : Mapping} (closed : o.opens mapping = false) (i : Nat)
    (p : Profile) (log : List HttpRequest) :
    (Symbolize.nameFromFile o.machine mapping i p).run log = pure ((0, p), log) := by
  rw [Symbolize.nameFromFile]
  split
  · rfl
  rename_i named
  rw [StateT.run_bind, run_isFile, pure_bind]
  cases present : o.isFile mapping.file with
  | false => rfl
  | true =>
    obtain ⟨result, run, binary⟩ := run_openFile o mapping.file log
    have fails : o.binary? mapping.file = none := by
      simpa [opens, present, ← Bool.not_or, named] using closed
    cases result with
    | ok opened => simp [fails, Except.toOption] at binary
    | error fault =>
      simp only [Bool.not_true, Bool.false_eq_true, if_false, StateT.run_bind, run, pure_bind]
      rfl

theorem nameFromFile_opened {mapping : Mapping} (opened : o.opens mapping = true) (i : Nat)
    (p : Profile) (log : List HttpRequest) : ∃ count p',
    (Symbolize.nameFromFile o.machine mapping i p).run log = pure ((count, p'), log) ∧
      p'.mappings = p.mappings.set i mapping.searched ∧
        List.Forall₂ (Symbolize.Named mapping) p.locations p'.locations := by
  simp only [opens, Bool.and_eq_true, ← Bool.not_or, Bool.not_eq_true'] at opened
  obtain ⟨⟨unnamed, present⟩, found⟩ := opened
  obtain ⟨result, run, binary⟩ := run_openFile o mapping.file log
  cases result with
  | error fault => simp [← binary, Except.toOption] at found
  | ok file =>
    obtain ⟨count, q, names, named, same⟩ :=
      Symbolize.nameLocations_spec (Symbolize.keepsMappings_linesIn file mapping) p
    refine ⟨count, Symbolize.setMapping q i mapping.searched, ?_, by rw [← same]; rfl, named⟩
    rw [Symbolize.nameFromFile, if_neg (by rw [unnamed]; decide), StateT.run_bind, run_isFile,
      pure_bind]
    simp only [present, Bool.not_true, Bool.false_eq_true, if_false, StateT.run_bind, run,
      pure_bind, names]
    rfl

/-- The pass over files looks into the binaries that can be opened and touches nothing else. -/
theorem fromFiles_spec (rest done : List Mapping) (p : Profile) (log : List HttpRequest)
    (mappings : p.mappings = done ++ rest) : ∃ count p',
    (Symbolize.forMappings (Symbolize.nameFromFile o.machine) rest done.length p).run log =
      pure ((count, p'), log) ∧
      p'.mappings = done ++ rest.map o.searched ∧
        ∀ other : Mapping, (∀ m ∈ rest, o.opens m = true → other.id ≠ m.id) →
          p'.unnamed other = p.unnamed other := by
  induction rest generalizing done p with
  | nil => exact ⟨0, p, rfl, by simpa using mappings, fun _ _ => rfl⟩
  | cons m rest ih =>
    obtain ⟨count, p₁, run, mappings₁, foreign⟩ : ∃ count p₁,
        (Symbolize.nameFromFile o.machine m done.length p).run log = pure ((count, p₁), log) ∧
          p₁.mappings = (done ++ [o.searched m]) ++ rest ∧
            ∀ other : Mapping, (o.opens m = true → other.id ≠ m.id) →
              p₁.unnamed other = p.unnamed other := by
      cases opened : o.opens m with
      | false =>
        refine ⟨0, p, nameFromFile_closed o opened done.length p log, ?_, fun _ _ => rfl⟩
        simp [mappings, searched, opened]
      | true =>
        obtain ⟨count, p₁, run, mappings₁, named⟩ := nameFromFile_opened o opened done.length p log
        refine ⟨count, p₁, run, ?_, fun other apart => Symbolize.unnamed_eq named (apart rfl)⟩
        simp [mappings₁, mappings, searched, opened]
    obtain ⟨others, p₂, run₂, mappings₂, foreign₂⟩ := ih (done ++ [o.searched m]) p₁ mappings₁
    refine ⟨count + others, p₂, ?_, by rw [mappings₂]; simp, fun other apart => ?_⟩
    · rw [List.length_append, List.length_singleton] at run₂
      exact Symbolize.run_forMappings_cons run run₂
    · obtain ⟨head, tail⟩ := List.forall_mem_cons.mp apart
      exact (foreign₂ other tail).trans (foreign other head)

variable (patience : Symbolize.Patience)

/-- The request for the names of the addresses of a mapping, as they were at an origin. -/
def question (mapping : Mapping) (addresses : List UInt64) (origin : Origin) (url : Url) :
    HttpRequest where
  url
  post := some (Symbolz.request (addresses.map (Symbolize.addressAt origin mapping)))
  timeout := patience.transport

def names? (request : HttpRequest) : Option Symbolz.Names :=
  match o.answer request with
  | none => none
  | some response =>
    if response.isFailure then none
    else response.body.map fun body => Symbolz.parse (String.ofList (Url.lossyText body))

/-- What the origins of a mapping are asked: one after the other, until one answers. -/
def asks (mapping : Mapping) (addresses : List UInt64) : List Origin → List HttpRequest
  | [] => []
  | origin :: rest =>
    match Symbolz.endpoint? origin.source with
    | none => asks mapping addresses rest
    | some url =>
      let request := question patience mapping addresses origin url
      if (o.names? request).isSome then [request] else request :: asks mapping addresses rest

/-- What servers are asked about a mapping of a profile. -/
def posts (sources : Provenance) (p : Profile) (m : Mapping) : List HttpRequest :=
  if m.hasFunctions || (p.unnamed m).isEmpty then []
  else o.asks patience m ((p.unnamed m).map (·.address)) (sources.sourcesFor m)

theorem run_askNames (mapping : Mapping) (addresses : List UInt64) (origin : Origin) (url : Url)
    (log : List HttpRequest) :
    (Symbolize.askNames o.machine patience url
      (addresses.map (Symbolize.addressAt origin mapping))).run log =
      pure (o.names? (question patience mapping addresses origin url),
        log ++ [question patience mapping addresses origin url]) := by
  have exchange : ∀ request, (o.machine.exchange request).run log =
      pure (o.answer request, log ++ [request]) := fun _ => rfl
  rw [Symbolize.askNames]
  simp only [StateT.run_bind, exchange, pure_bind]
  rw [names?, question]
  cases o.answer _ with
  | none => rfl
  | some response =>
    dsimp only
    split <;> rfl

theorem run_nameFromOrigins (mapping : Mapping) (i : Nat) (p : Profile) (addresses : List UInt64)
    (origins : List Origin) (log : List HttpRequest) : ∃ count p',
    (Symbolize.nameFromOrigins o.machine patience mapping i p addresses origins).run log =
      pure ((count, p'), log ++ o.asks patience mapping addresses origins) ∧
        ∀ other : Mapping, other.id ≠ mapping.id → p'.unnamed other = p.unnamed other := by
  induction origins generalizing log with
  | nil =>
    refine ⟨0, p, ?_, fun _ _ => rfl⟩
    rw [asks, List.append_nil]
    rfl
  | cons origin rest ih =>
    rw [Symbolize.nameFromOrigins, asks]
    cases endpoint : Symbolz.endpoint? origin.source with
    | none => exact ih log
    | some url =>
      dsimp only
      rw [StateT.run_bind, run_askNames, pure_bind]
      cases answer : o.names? (question patience mapping addresses origin url) with
      | none =>
        obtain ⟨count, p', run, foreign⟩ :=
          ih (log ++ [question patience mapping addresses origin url])
        refine ⟨count, p', ?_, foreign⟩
        rw [List.append_assoc] at run
        exact run
      | some names =>
        obtain ⟨count, q, run, named, -⟩ :=
          Symbolize.nameLocations_spec (Symbolize.keepsMappings_lineFrom names origin mapping) p
        refine ⟨count, Symbolize.setMapping q i { mapping with hasFunctions := true }, ?_,
          fun other apart => Symbolize.unnamed_eq named apart⟩
        simp only [run]
        rfl

theorem run_nameFromServers (sources : Provenance) (mapping : Mapping) (i : Nat) (p : Profile)
    (log : List HttpRequest) : ∃ count p',
    (Symbolize.nameFromServers o.machine patience sources mapping i p).run log =
      pure ((count, p'), log ++ o.posts patience sources p mapping) ∧
        ∀ other : Mapping, other.id ≠ mapping.id → p'.unnamed other = p.unnamed other := by
  rw [Symbolize.nameFromServers, posts, Profile.unnamed]
  by_cases skip : (mapping.hasFunctions ||
      (p.locations.filter (·.lacksLines mapping)).isEmpty) = true
  · rw [if_pos skip, if_pos skip, List.append_nil]
    exact ⟨0, p, rfl, fun _ _ => rfl⟩
  · rw [if_neg skip, if_neg skip]
    exact run_nameFromOrigins o patience mapping i p _ _ log

/-- What is asked about a mapping depends on its own locations alone. -/
theorem posts_congr {sources : Provenance} {p p' : Profile} {m : Mapping}
    (same : p'.unnamed m = p.unnamed m) :
    o.posts patience sources p' m = o.posts patience sources p m := by
  rw [posts, posts, same]

theorem run_fromServers (sources : Provenance) (rest : List Mapping) (i : Nat) (p : Profile)
    (log : List HttpRequest) (distinct : (rest.map (·.id)).Nodup) : ∃ count p',
    (Symbolize.forMappings (Symbolize.nameFromServers o.machine patience sources) rest i p).run
      log = pure ((count, p'), log ++ rest.flatMap (o.posts patience sources p)) := by
  induction rest generalizing i p log with
  | nil => exact ⟨0, p, by rw [List.flatMap_nil, List.append_nil]; rfl⟩
  | cons m rest ih =>
    obtain ⟨fresh, distinct⟩ := List.nodup_cons.mp distinct
    obtain ⟨count, p₁, run, foreign⟩ := run_nameFromServers o patience sources m i p log
    obtain ⟨others, p₂, later⟩ := ih (i + 1) p₁ (log ++ o.posts patience sources p m) distinct
    have unchanged : rest.flatMap (o.posts patience sources p₁) =
        rest.flatMap (o.posts patience sources p) := by
      refine List.flatMap_congr fun other member =>
        posts_congr o patience (foreign other fun same => ?_)
      have known : other.id ∈ rest.map (·.id) := List.mem_map_of_mem member
      rw [same] at known
      exact fresh known
    rw [unchanged, List.append_assoc, ← List.flatMap_cons] at later
    exact ⟨count + others, p₂, Symbolize.run_forMappings_cons run later⟩

/-- The requests to servers while a profile is symbolized. -/
def posted (mode : SymbolMode) (sources : Provenance) (p : Profile) : List HttpRequest :=
  ((symbolize o.machine mode sources p patience).run []).2

/-- What servers are asked about a mapping in a mode. -/
def postsIn (mode : SymbolMode) (sources : Provenance) (p : Profile) (m : Mapping) :
    List HttpRequest :=
  if mode.usesRemote && !(mode.usesLocal && o.opens m) then o.posts patience sources p m else []

theorem posts_empty {sources : Provenance} (none : sources.isEmpty = true) (p : Profile)
    (m : Mapping) : o.posts patience sources p m = [] := by
  have nowhere : sources.sourcesFor m = [] := by
    have missing : ∀ key, sources.originsOf key = [] := by
      intro key
      rw [Provenance.isEmpty, List.isEmpty_iff] at none
      simp [Provenance.originsOf, Provenance.get?, none]
    simp [Provenance.sourcesFor, missing, Provenance.matchingFirst]
  rw [posts, nowhere, asks, ite_self]

theorem searched_id (m : Mapping) : (o.searched m).id = m.id := by
  rw [searched]
  split <;> rfl

/-- After the pass over files only mappings without an opened binary are asked about. -/
theorem posts_searched {sources : Provenance} {p p' : Profile}
    (distinct : p.mappingIds.Nodup)
    (foreign : ∀ other : Mapping, (∀ m ∈ p.mappings, o.opens m = true → other.id ≠ m.id) →
      p'.unnamed other = p.unnamed other) {m : Mapping} (member : m ∈ p.mappings) :
    o.posts patience sources p' (o.searched m) =
      if o.opens m then [] else o.posts patience sources p m := by
  cases opened : o.opens m with
  | true => simp [searched, opened, posts, Mapping.searched]
  | false =>
    rw [searched, opened, if_neg Bool.false_ne_true, if_neg Bool.false_ne_true]
    refine posts_congr o patience (foreign m fun m' member' opened' same => ?_)
    have equal : m = m' := List.inj_on_of_nodup_map distinct member member' same
    rw [equal, opened'] at opened
    cases opened

/-- The pass over files, then the one over servers. -/
theorem symbolize_eq {m : Type → Type} [Monad m] [LawfulMonad m] (machine : Machine m)
    (mode : SymbolMode) (sources : Provenance) (p : Profile) :
    symbolize machine mode sources p patience =
      (if mode.usesLocal then Prod.snd <$> Symbolize.fromFiles machine p else pure p) >>= fun p =>
        if mode.usesRemote && !sources.isEmpty then
          Prod.snd <$> Symbolize.fromServers machine sources p patience
        else pure p := by
  rw [symbolize]
  split <;> split <;> simp

/-- What the pass over files leaves to be asked. -/
theorem run_files (mode : SymbolMode) (sources : Provenance) (p : Profile)
    (distinct : p.mappingIds.Nodup) : ∃ p',
    (if mode.usesLocal then Prod.snd <$> Symbolize.fromFiles o.machine p else pure p).run [] =
      pure (p', []) ∧
      p'.mappingIds = p.mappingIds ∧
        p'.mappings.flatMap (o.posts patience sources p') = p.mappings.flatMap fun m =>
          if mode.usesLocal && o.opens m then [] else o.posts patience sources p m := by
  cases files : mode.usesLocal with
  | false => exact ⟨p, rfl, rfl, by simp⟩
  | true =>
    obtain ⟨count, p', run, mappings, foreign⟩ := fromFiles_spec o p.mappings [] p [] rfl
    rw [List.nil_append] at mappings
    refine ⟨p', ?_, ?_, ?_⟩
    · rw [if_pos rfl, StateT.run_map]
      exact congrArg (Prod.map Prod.snd id <$> ·) run
    · rw [Profile.mappingIds, mappings, List.map_map]
      exact List.map_congr_left fun m _ => searched_id o m
    · rw [mappings, List.flatMap_map]
      refine List.flatMap_congr fun m member => ?_
      rw [posts_searched o patience distinct foreign member, Bool.true_and]

theorem run_servers (mode : SymbolMode) (sources : Provenance) (p : Profile)
    (distinct : p.mappingIds.Nodup) : ∃ p',
    (if mode.usesRemote && !sources.isEmpty then
        Prod.snd <$> Symbolize.fromServers o.machine sources p patience
      else pure p).run [] =
      pure (p',
        if mode.usesRemote then p.mappings.flatMap (o.posts patience sources p) else []) := by
  by_cases servers : (mode.usesRemote && !sources.isEmpty) = true
  · obtain ⟨count, p', run⟩ := run_fromServers o patience sources p.mappings 0 p [] distinct
    have remote : mode.usesRemote = true := (Bool.and_eq_true_iff.mp servers).1
    rw [if_pos servers, if_pos remote, StateT.run_map]
    exact ⟨p', congrArg (Prod.map Prod.snd id <$> ·) run⟩
  · refine ⟨p, ?_⟩
    rw [if_neg servers]
    cases remote : mode.usesRemote with
    | false => rfl
    | true =>
      have none : sources.isEmpty = true := by simpa [remote] using servers
      have quiet : p.mappings.flatMap (o.posts patience sources p) = [] :=
        List.flatMap_eq_nil_iff.mpr fun m _ => posts_empty o patience none p m
      rw [quiet]
      rfl

/-- In every mode servers are asked about one mapping after the other, and not at all about a
mapping whose binary was looked into. With both passes a mapping is asked about as without the
pass over files exactly if its binary could not be opened, or nothing would be asked anyway. -/
theorem posted_spec (mode : SymbolMode) (sources : Provenance) (p : Profile)
    (distinct : p.mappingIds.Nodup) :
    o.posted patience mode sources p = p.mappings.flatMap (o.postsIn patience mode sources p) ∧
      ∀ m, o.postsIn patience .auto sources p m = o.postsIn patience .remote sources p m ↔
        (o.opens m = true → o.postsIn patience .remote sources p m = []) := by
  constructor
  · obtain ⟨p', files, ids, left⟩ := run_files o patience mode sources p distinct
    obtain ⟨p'', servers⟩ := run_servers o patience mode sources p' (ids ▸ distinct)
    rw [posted, symbolize_eq, StateT.run_bind, files, pure_bind, servers, left]
    change (if mode.usesRemote then _ else []) = _
    cases remote : mode.usesRemote with
    | false => simp [postsIn, remote]
    | true =>
      rw [if_pos rfl]
      refine List.flatMap_congr fun m _ => ?_
      cases skipped : mode.usesLocal && o.opens m <;> simp [postsIn, remote, skipped]
  · intro m
    have auto : o.postsIn patience .auto sources p m =
        if o.opens m then [] else o.posts patience sources p m := by
      cases opened : o.opens m <;>
        simp [postsIn, SymbolMode.usesRemote, SymbolMode.usesLocal, opened]
    have remote : o.postsIn patience .remote sources p m = o.posts patience sources p m := by
      simp [postsIn, SymbolMode.usesRemote, SymbolMode.usesLocal]
    rw [auto, remote]
    cases opened : o.opens m with
    | false => exact iff_of_true rfl fun opens => nomatch opens
    | true => exact ⟨fun same _ => same.symm, fun nothing => (nothing rfl).symm⟩

def header : List UInt8 := [0x7f, 0x45, 0x4c, 0x46, 2, 1, 1] ++ List.replicate 57 0

def bare : Outside where
  readFile path := if path = "/bin/app" then .ok header else .error .notFound
  isFile path := path = "/bin/app"
  answer _ := none

def bareProfile : Profile where
  mappings :=
    [{ id := 1, start := 0x400000, limit := 0x800000, file := "/bin/app" },
     { id := 2, start := 0x900000, limit := 0xa00000, file := "/bin/gone" }]
  locations :=
    [{ id := 1, mappingId := 1, address := 0x401010 },
     { id := 2, mappingId := 2, address := 0x900020 }]

def bareSources : Provenance :=
  (Provenance.collect bareProfile "http://[::1]/debug/pprof/profile").1

def bareQuestion (address : String) : HttpRequest where
  url :=
    { scheme := "http", host := some (.ipv6 [0, 0, 0, 0, 0, 0, 0, 1]),
      path := "/debug/pprof/symbol" }
  post := some address
  timeout := .ofSeconds 35

theorem posted_spec_bare : bareProfile.mappingIds.Nodup ∧
    bare.posted .usual .auto bareSources bareProfile = [bareQuestion "0x900020"] := by
  have distinct : bareProfile.mappingIds.Nodup := by decide
  have alone : bareProfile.mappings.flatMap (bare.postsIn .usual .auto bareSources bareProfile) =
      [bareQuestion "0x900020"] := by decide +kernel
  exact ⟨distinct, (posted_spec bare .usual .auto bareSources bareProfile distinct).1.trans alone⟩

/-- The pass over files names nothing, and yet only the address that is in no binary is asked
about. -/
theorem bare_left_out :
    (∀ m ∈ bareProfile.mappings, m.hasFunctions = false) ∧
      ((symbolize bare.machine .localFiles bareSources bareProfile).run []).1.locations =
        bareProfile.locations ∧
      bare.posted .usual .remote bareSources bareProfile =
        [bareQuestion "0x401010", bareQuestion "0x900020"] ∧
      bare.posted .usual .auto bareSources bareProfile = [bareQuestion "0x900020"] := by
  refine ⟨by decide, ?_, ?_, ?_⟩ <;> decide +kernel

end Outside

end Profiling
