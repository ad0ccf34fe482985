import Profiling.Proofs.Findings
import Profiling.Proofs.GainedLines

/-!
# Symbolization only adds

What both passes leave of a profile, whatever files and servers say. The names that a location gets
are those that the binary of its mapping knows at its address, or the one that a server has given
for it; all else stays as it was. Each pass counts the locations that it gave lines to.
-/

namespace Profiling

/-- The binary of a mapping has been read, and these are the functions at an address. -/
def InBinary (found : List Finding) (m : Mapping) (address : UInt64) (callees : List Callee) :
    Prop :=
  ∃ content binary, .content m.file (.ok content) ∈ found ∧
    DebugFile.ofImage content.toArray = .ok binary ∧
      let frames := binary.resolve (DebugFile.objectAddress binary.isRelocatable m address)
      DebugFile.isKnown frames = true ∧ callees = frames.map SourceFrame.callee

/-- A server that a mapping was seen at has been asked about an address, as it was there, and has
named it. -/
def FromServer (sources : Provenance) (found : List Finding) (m : Mapping) (address : UInt64)
    (callees : List Callee) : Prop :=
  ∃ origin ∈ sources.sourcesFor m, ∃ request response addresses body raw,
    .reply request (some response) ∈ found ∧
      Symbolz.endpoint? origin.source = some request.url ∧
      request.post = some (Symbolz.request addresses) ∧
      Symbolize.addressAt origin m address ∈ addresses ∧
      response.isFailure = false ∧ response.body = some body ∧
      (Symbolz.parse (String.ofList (Url.lossyText body))).get?
        (Symbolize.addressAt origin m address) = some raw ∧
      callees = [⟨Demangle.demangle raw, raw, ""⟩]

namespace Symbolize

theorem teaches_linesIn {found : List Finding} {m : Mapping} {content : List UInt8}
    {binary : DebugFile} (read : .content m.file (.ok content) ∈ found)
    (opened : DebugFile.ofImage content.toArray = .ok binary) :
    Teaches (fun _ => True) (InBinary found m) (linesIn? binary m) := by
  intro address p lines q _ lined
  rw [linesIn?] at lined
  split at lined
  · rename_i known
    obtain ⟨rfl, rfl⟩ := Prod.mk.inj (Option.some.inj lined)
    refine ⟨?_, _, ⟨content, binary, read, opened, known, rfl⟩, learns_internFrames _ p⟩
    generalize binary.resolve _ = frames at known
    cases frames with
    | nil => cases known
    | cons frame frames => exact List.cons_ne_nil _ _
  · cases lined

theorem teaches_lineFrom {sources : Provenance} {found : List Finding} {m : Mapping}
    {origin : Origin} {url : Url} {addresses : List UInt64} {names : Symbolz.Names}
    (seen : origin ∈ sources.sourcesFor m) (endpoint : Symbolz.endpoint? origin.source = some url)
    (answered : Answered found url (addresses.map (addressAt origin m)) names) :
    Teaches (· ∈ addresses) (FromServer sources found m) (lineFrom? names origin m) := by
  obtain ⟨request, response, body, reply, rfl, posted, fine, content, rfl⟩ := answered
  intro address p lines q asked lined
  obtain ⟨raw, get, rest⟩ := Option.map_eq_some_iff.mp lined
  obtain ⟨rfl, rfl⟩ := Prod.mk.inj rest
  have named : FromServer sources found m address [⟨Demangle.demangle raw, raw, ""⟩] :=
    ⟨origin, seen, request, response, _, body, raw, reply, endpoint, posted,
      List.mem_map_of_mem asked, fine, content, get, rfl⟩
  refine ⟨List.cons_ne_nil _ _, _, named, ?_⟩
  exact p.learns_internFunction ⟨Demangle.demangle raw, raw, ""⟩ 0 0

section

variable (w : World) (patience : Patience)

theorem finds_nameFromFile (found : List Finding) {mapping : Mapping} {i : Nat} {p : Profile}
    (here : p.mappings[i]? = some mapping) :
    Finds found (fun found => NamesAt (InBinary found) i p)
      (nameFromFile w.machine mapping i p) := by
  rw [nameFromFile]
  split
  · exact .pure (.nothing here)
  · rename_i skips
    have unnamed : mapping.hasFunctions = false := by
      cases marked : mapping.hasFunctions with
      | false => rfl
      | true => exact absurd (by rw [marked]; rfl) skips
    refine .bind (finds_isFile w found mapping.file) fun found present _ _ => ?_
    split
    · exact .pure (.nothing here)
    · refine .bind (finds_openFile w found mapping.file) fun found result _ opened => ?_
      cases result with
      | error e => exact .pure (.nothing here)
      | ok binary =>
        obtain ⟨content, read, image⟩ := opened binary rfl
        refine .pure ?_
        exact nameLocations_adds unnamed (teaches_linesIn read image) here mapping.marked_searched
          fun _ _ _ => trivial

theorem finds_nameFromOrigins (sources : Provenance) (found : List Finding) {mapping : Mapping}
    {i : Nat} {p : Profile} (here : p.mappings[i]? = some mapping)
    (unnamed : mapping.hasFunctions = false) (origins : List Origin)
    (seen : ∀ origin ∈ origins, origin ∈ sources.sourcesFor mapping) :
    Finds found (fun found => NamesAt (FromServer sources found) i p)
      (nameFromOrigins w.machine patience mapping i p ((p.unnamed mapping).map (·.address))
        origins) := by
  induction origins generalizing found with
  | nil => exact .pure (.nothing here)
  | cons origin rest ih =>
    obtain ⟨first, others⟩ := List.forall_mem_cons.mp seen
    rw [nameFromOrigins]
    cases endpoint : Symbolz.endpoint? origin.source with
    | none => exact ih found others
    | some url =>
      refine .bind (finds_askNames w found patience url _) fun found answer _ answered => ?_
      cases answer with
      | none => exact ih found others
      | some names =>
        have teaches := teaches_lineFrom first endpoint (answered names rfl)
        refine .pure (nameLocations_adds unnamed teaches here mapping.marked_named ?_)
        intro l hl lacks
        exact List.mem_map_of_mem (List.mem_filter.mpr ⟨hl, lacks⟩)

theorem finds_nameFromServers (sources : Provenance) (found : List Finding) {mapping : Mapping}
    {i : Nat} {p : Profile} (here : p.mappings[i]? = some mapping) :
    Finds found (fun found => NamesAt (FromServer sources found) i p)
      (nameFromServers w.machine patience sources mapping i p) := by
  rw [nameFromServers]
  split
  · exact .pure (.nothing here)
  · rename_i skips
    refine finds_nameFromOrigins w patience sources found here ?_ _ fun _ member => member
    cases marked : mapping.hasFunctions with
    | false => rfl
    | true => exact absurd (by rw [marked]; rfl) skips

/-- What is told from findings does not depend on the marks of a mapping, and stays told when more
is found. -/
structure Lasting (tells : List Finding → Teller) : Prop where
  unmarked : ∀ found, Unmarked (tells found)
  keeps : ∀ {found found' : List Finding}, found <+: found' → ∀ m address callees,
    tells found m address callees → tells found' m address callees

/-- Every mapping is named where it stands, whatever was done for those before it. -/
theorem finds_forMappings {tells : List Finding → Teller} (lasting : Lasting tells)
    {name : Mapping → Nat → Profile → StateM (List Finding) (Nat × Profile)}
    (names : ∀ found {mapping i p}, p.mappings[i]? = some mapping →
      Finds found (fun found => NamesAt (tells found) i p) (name mapping i p))
    (found : List Finding) (rest done : List Mapping) (p : Profile)
    (mappings : p.mappings = done ++ rest) :
    Finds found (fun found r => p.Grows (tells found) r.1 r.2)
      (forMappings name rest done.length p) := by
  induction rest generalizing found done p with
  | nil => exact .pure (.refl _ p)
  | cons mapping rest ih =>
    have here : p.mappings[done.length]? = some mapping := by simp [mappings]
    rw [forMappings]
    refine .bind (names found here) fun found first _ named => ?_
    obtain ⟨grows, marked, changed⟩ := named
    have later : first.2.mappings = (done ++ [marked]) ++ rest := by simp [changed, mappings]
    have others := ih found (done ++ [marked]) first.2 later
    rw [List.length_append, List.length_singleton] at others
    refine .bind others fun found' second more grows' => .pure ?_
    exact (grows.mono (lasting.keeps more)).trans (lasting.unmarked found') grows'

theorem lasting_inBinary : Lasting InBinary := by
  constructor
  · rintro found m m' ⟨f, n, l, i, rfl⟩ address callees told
    exact told
  · rintro found found' more m address callees ⟨content, binary, read, rest⟩
    exact ⟨content, binary, more.subset read, rest⟩

theorem lasting_fromServer (sources : Provenance) : Lasting (FromServer sources) := by
  constructor
  · rintro found m m' ⟨f, n, l, i, rfl⟩ address callees told
    exact told
  · rintro found found' more m address callees
      ⟨origin, seen, request, response, addresses, body, raw, reply, rest⟩
    exact ⟨origin, seen, request, response, addresses, body, raw, more.subset reply, rest⟩

theorem finds_fromFiles (found : List Finding) (p : Profile) :
    Finds found (fun found r => p.Grows (InBinary found) r.1 r.2) (fromFiles w.machine p) :=
  finds_forMappings lasting_inBinary (fun found _ _ _ here => finds_nameFromFile w found here)
    found p.mappings [] p rfl

theorem finds_fromServers (sources : Provenance) (found : List Finding) (p : Profile) :
    Finds found (fun found r => p.Grows (FromServer sources found) r.1 r.2)
      (fromServers w.machine sources p patience) :=
  finds_forMappings (lasting_fromServer sources)
    (fun found _ _ _ here => finds_nameFromServers w patience sources found here) found p.mappings
    [] p rfl

end

end Symbolize

/-- A function is known from the binary of a mapping or from a server where it was seen. -/
def Told (sources : Provenance) (found : List Finding) : Teller := fun m address callees =>
  InBinary found m address callees ∨ FromServer sources found m address callees

theorem finds_symbolize (w : World) (patience : Symbolize.Patience) (mode : SymbolMode)
    (sources : Provenance) (p : Profile) (found : List Finding) :
    Finds found (fun found q => ∃ count, p.Grows (Told sources found) count q)
      (symbolize w.machine mode sources p patience) := by
  have files : Finds found (fun found q => ∃ count, p.Grows (InBinary found) count q)
      (if mode.usesLocal then Prod.snd <$> Symbolize.fromFiles w.machine p else pure p) := by
    split
    · exact .bind (Symbolize.finds_fromFiles w found p) fun _ r _ grows => .pure ⟨r.1, grows⟩
    · exact .pure ⟨0, .refl _ p⟩
  rw [Outside.symbolize_eq]
  refine .bind files fun found q _ ⟨count, grows⟩ => ?_
  have known := grows.mono fun m address callees told =>
    (Or.inl told : Told sources found m address callees)
  split
  · have served := Symbolize.finds_fromServers w patience sources found q
    refine .bind served fun found' r more grows' => .pure ?_
    refine ⟨count + r.1, ?_⟩
    have first := grows.mono fun m address callees told =>
      (Or.inl (Symbolize.lasting_inBinary.keeps more m address callees told) :
        Told sources found' m address callees)
    refine first.trans ?_ (grows'.mono fun m address callees told => Or.inr told)
    intro m m' marks address callees told
    exact told.imp (Symbolize.lasting_inBinary.unmarked found' m m' marks address callees)
      ((Symbolize.lasting_fromServer sources).unmarked found' m m' marks address callees)
  · exact .pure ⟨count, known⟩

/-- There are numbers left for the functions that a profile has more than another. -/
def Profile.HasNumbersFor (p q : Profile) : Prop :=
  p.maxFunctionId.toNat + (q.functions.length - p.functions.length) < UInt64.size

instance (p q : Profile) : Decidable (p.HasNumbersFor q) := inferInstanceAs (Decidable (_ < _))

theorem Profile.Grows.adds_of_valid {tells : Teller} {p q : Profile} {count : Nat}
    (grows : p.Grows tells count q) (valid : p.checkValid = .ok ()) (numbers : p.HasNumbersFor q) :
    p.Adds tells q ∧ count = countNamed p.locations q.locations := by
  have distinct := (Profile.checkValid_eq_ok_iff.mp valid).functions.2
  obtain ⟨adds, -, counted⟩ := grows.adds q.functions.length (Nat.le_refl _) ⟨distinct, numbers⟩
  exact ⟨adds, counted⟩

/-- Whatever files and servers say, both passes add names to a valid profile and count the
locations that got lines, and in every mode symbolization does nothing else. -/
theorem symbolize_adds (w : World) (patience : Symbolize.Patience) (mode : SymbolMode)
    (sources : Provenance) (p : Profile) (valid : p.checkValid = .ok ()) :
    (let r := (Symbolize.fromFiles w.machine p).run []
     p.HasNumbersFor r.1.2 →
       p.Adds (InBinary r.2) r.1.2 ∧ r.1.1 = countNamed p.locations r.1.2.locations) ∧
      (let r := (Symbolize.fromServers w.machine sources p patience).run []
       p.HasNumbersFor r.1.2 →
         p.Adds (FromServer sources r.2) r.1.2 ∧ r.1.1 = countNamed p.locations r.1.2.locations) ∧
      let r := (symbolize w.machine mode sources p patience).run []
      p.HasNumbersFor r.1 → p.Adds (Told sources r.2) r.1 := by
  refine ⟨?_, ?_, ?_⟩
  · intro r numbers
    have grows := (Symbolize.finds_fromFiles w [] p).2
    exact grows.adds_of_valid valid numbers
  · intro r numbers
    have grows := (Symbolize.finds_fromServers w patience sources [] p).2
    exact grows.adds_of_valid valid numbers
  · intro r numbers
    obtain ⟨count, grows⟩ := (finds_symbolize w patience mode sources p []).2
    exact (grows.adds_of_valid valid numbers).1

def talkative : World where
  isFile _ _ := false
  readFile _ _ := .error .notFound
  answer _ _ :=
    let line := "0x401010 _ZN4main4work17h0123456789abcdefE"
    some { status := 200, body := some (line.toList.map fun c => c.toNat.toUInt8) }

def halfNamed : Profile where
  mappings := [{ id := 1, start := 0x400000, limit := 0x800000, file := "/bin/app" }]
  locations :=
    [{ id := 1, mappingId := 1, address := 0x401010 },
     { id := 2, mappingId := 1, address := 0x401020 }]
  functions := [{ id := 7, name := "main" }]

def halfSources : Provenance :=
  (Provenance.collect halfNamed "http://[::1]/debug/pprof/profile").1

/-- One address gets a name, and its function the next number. -/
theorem symbolize_adds_talkative :
    halfNamed.checkValid = .ok () ∧
      (let r := (Symbolize.fromServers talkative.machine halfSources halfNamed).run []
       halfNamed.HasNumbersFor r.1.2 ∧ halfNamed.Adds (FromServer halfSources r.2) r.1.2 ∧
         r.1.1 = 1 ∧ countNamed halfNamed.locations r.1.2.locations = 1) ∧
      let r := (symbolize talkative.machine .auto halfSources halfNamed).run []
      halfNamed.HasNumbersFor r.1 ∧ halfNamed.Adds (Told halfSources r.2) r.1 ∧
        r.1.locations.map (·.lines) = [[⟨8, 0, 0⟩], []] ∧
        r.1.functions.map (·.name) = ["main", "main::work"] := by
  have valid : halfNamed.checkValid = .ok () := by decide
  have numbers : halfNamed.HasNumbersFor
      ((Symbolize.fromServers talkative.machine halfSources halfNamed).run []).1.2 := by
    decide +kernel
  have one :
      ((Symbolize.fromServers talkative.machine halfSources halfNamed).run []).1.1 = 1 := by
    decide +kernel
  have numbers' : halfNamed.HasNumbersFor
      ((symbolize talkative.machine .auto halfSources halfNamed).run []).1 := by
    decide +kernel
  obtain ⟨-, servers, all⟩ := symbolize_adds talkative .usual .auto halfSources halfNamed valid
  obtain ⟨adds, counted⟩ := servers numbers
  refine ⟨valid, ⟨numbers, adds, one, counted.symm.trans one⟩, numbers', all numbers', ?_, ?_⟩
  · show List.map (·.lines)
      ((symbolize talkative.machine .auto halfSources halfNamed).run []).1.locations = _
    decide +kernel
  · show List.map (·.name)
      ((symbolize talkative.machine .auto halfSources halfNamed).run []).1.functions = _
    decide +kernel

end Profiling
