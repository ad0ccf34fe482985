import Mathlib.Data.List.Forall2
import Mathlib.Data.List.Perm.Subperm
import Mathlib.Data.Nat.Basic
import Profiling.Proofs.TextTables

/-!
# Messages that can be resolved

A message is a profile just if every place that it refers to is in its table of texts. The profile
has the texts that stand there, and all else as the message has it. Its own message may have a
smaller table, with each text once, but is read as the same profile.
-/

namespace Profiling

namespace StringTable

/-- An index names a place of the table. -/
def InRange (table : StringTable) (index : Int64) : Prop :=
  0 ≤ index.toInt ∧ index.toInt < table.length

/-- A text stands at the place that an index names. -/
def Has (table : StringTable) (index : Int64) (text : String) : Prop :=
  0 ≤ index.toInt ∧ table[index.toInt.toNat]? = some text

theorem Has.inRange {table : StringTable} {index : Int64} {text : String}
    (h : table.Has index text) : table.InRange index := by
  have inside := (List.getElem?_eq_some_iff.mp h.2).1
  have positive := h.1
  exact ⟨positive, by omega⟩

/-- How resolving ends: with a result if all places are in the table, otherwise with an error that
tells one that is not. -/
def Resolves (table : StringTable) (run : Except ProfileError α) (places : List Int64)
    (reads : α → Prop) : Prop :=
  match run with
  | .ok a => (∀ i ∈ places, table.InRange i) ∧ reads a
  | .error e => ∃ i ∈ places, ¬table.InRange i ∧ e = .malformed (.stringIndex i)

theorem resolves_get (table : StringTable) (index : Int64) :
    Resolves table (table.get index) [index] (table.Has index) := by
  rw [get]
  by_cases negative : index < 0
  · have below : ¬table.InRange index := by
      intro inside
      rw [Int64.lt_iff_toInt_lt] at negative
      exact absurd inside.1 (by simpa using negative)
    rw [if_pos negative]
    exact ⟨index, List.mem_singleton_self index, below, rfl⟩
  · have positive : 0 ≤ index.toInt := by
      rw [Int64.lt_iff_toInt_lt] at negative
      simpa using negative
    rw [if_neg negative]
    cases found : table[index.toInt.toNat]? with
    | some text =>
      have has : table.Has index text := ⟨positive, found⟩
      exact ⟨fun i member => List.mem_singleton.mp member ▸ has.inRange, has⟩
    | none =>
      have beyond := List.getElem?_eq_none_iff.mp found
      exact ⟨index, List.mem_singleton_self index, fun inside => by have := inside.2; omega, rfl⟩

namespace Resolves

variable {table : StringTable} {run : Except ProfileError α} {places more : List Int64}
variable {reads : α → Prop} {reads' : β → Prop}

theorem pure {a : α} (h : reads a) : Resolves table (Pure.pure a) [] reads :=
  ⟨List.forall_mem_nil _, h⟩

theorem bind {next : α → Except ProfileError β} (h : Resolves table run places reads)
    (h' : ∀ a, reads a → Resolves table (next a) more reads') :
    Resolves table (run >>= next) (places ++ more) reads' := by
  cases run with
  | error e =>
    obtain ⟨i, member, outside, same⟩ := h
    exact ⟨i, List.mem_append_left more member, outside, same⟩
  | ok a =>
    obtain ⟨inside, good⟩ := h
    have rest := h' a good
    change Resolves table (next a) (places ++ more) reads'
    cases ended : next a with
    | error e =>
      rw [ended] at rest
      obtain ⟨i, member, outside, same⟩ := rest
      exact ⟨i, List.mem_append_right places member, outside, same⟩
    | ok b =>
      rw [ended] at rest
      exact ⟨List.forall_mem_append.mpr ⟨inside, rest.1⟩, rest.2⟩

/-- As `bind`, for a last step that only builds the result. -/
theorem map {f : α → β} (h : Resolves table run places reads) (h' : ∀ a, reads a → reads' (f a)) :
    Resolves table (run >>= fun a => Pure.pure (f a)) places reads' := by
  have whole : Resolves table (run >>= fun a => Pure.pure (f a)) (places ++ []) reads' :=
    h.bind fun a good => .pure (h' a good)
  rwa [List.append_nil] at whole

theorem mapM {f : α → Except ProfileError β} {places : α → List Int64} {reads : α → β → Prop}
    (each : ∀ x, Resolves table (f x) (places x) (reads x)) (xs : List α) :
    Resolves table (xs.mapM f) (xs.flatMap places) (List.Forall₂ reads xs) := by
  induction xs with
  | nil => exact .pure .nil
  | cons x xs ih =>
    rw [List.mapM_cons]
    exact (each x).bind fun y head => ih.map fun ys tail => .cons head tail

end Resolves

end StringTable

open StringTable

structure ValueType.Reads (table : StringTable) (w : Wire.ValueType) (t : ValueType) : Prop where
  kind : table.Has w.kind t.kind
  unit : table.Has w.unit t.unit

theorem ValueType.resolves (table : StringTable) (w : Wire.ValueType) :
    Resolves table (resolve table w) w.places (Reads table w) :=
  (resolves_get table w.kind).bind fun _ kind => (resolves_get table w.unit).map fun _ unit =>
    ⟨kind, unit⟩

structure Label.Reads (table : StringTable) (w : Wire.Label) (l : Label) : Prop where
  key : table.Has w.key l.key
  text : table.Has w.text l.text
  num : l.num = w.num
  numUnit : table.Has w.numUnit l.numUnit

theorem Label.resolves (table : StringTable) (w : Wire.Label) :
    Resolves table (resolve table w) w.places (Reads table w) :=
  (resolves_get table w.key).bind fun _ key => (resolves_get table w.text).bind fun _ text =>
    (resolves_get table w.numUnit).map fun _ numUnit => ⟨key, text, rfl, numUnit⟩

structure Sample.Reads (table : StringTable) (w : Wire.Sample) (s : Sample) : Prop where
  stack : s.stack = w.stack
  values : s.values = w.values
  labels : List.Forall₂ (Label.Reads table) w.labels s.labels

theorem Sample.resolves (table : StringTable) (w : Wire.Sample) :
    Resolves table (resolve table w) w.places (Reads table w) :=
  (Resolves.mapM (Label.resolves table) w.labels).map fun _ labels => ⟨rfl, rfl, labels⟩

structure Mapping.Reads (table : StringTable) (w : Wire.Mapping) (m : Mapping) : Prop where
  id : m.id = w.id
  start : m.start = w.start
  limit : m.limit = w.limit
  offset : m.offset = w.offset
  file : table.Has w.file m.file
  buildId : table.Has w.buildId m.buildId
  hasFunctions : m.hasFunctions = w.hasFunctions
  hasFilenames : m.hasFilenames = w.hasFilenames
  hasLineNumbers : m.hasLineNumbers = w.hasLineNumbers
  hasInlineFrames : m.hasInlineFrames = w.hasInlineFrames

theorem Mapping.resolves (table : StringTable) (w : Wire.Mapping) :
    Resolves table (resolve table w) w.places (Reads table w) :=
  (resolves_get table w.file).bind fun _ file => (resolves_get table w.buildId).map fun _ buildId =>
    ⟨rfl, rfl, rfl, rfl, file, buildId, rfl, rfl, rfl, rfl⟩

structure Line.Reads (w : Wire.Line) (l : Line) : Prop where
  functionId : l.functionId = w.functionId
  line : l.line = w.line
  column : l.column = w.column

structure Location.Reads (w : Wire.Location) (l : Location) : Prop where
  id : l.id = w.id
  mappingId : l.mappingId = w.mappingId
  address : l.address = w.address
  lines : List.Forall₂ Line.Reads w.lines l.lines
  isFolded : l.isFolded = w.isFolded

theorem Location.reads_ofWire (w : Wire.Location) : Reads w (ofWire w) := by
  refine ⟨rfl, rfl, rfl, ?_, rfl⟩
  exact List.forall₂_map_right_iff.mpr (List.forall₂_same.mpr fun _ _ => ⟨rfl, rfl, rfl⟩)

structure Function.Reads (table : StringTable) (w : Wire.Function) (f : Function) : Prop where
  id : f.id = w.id
  name : table.Has w.name f.name
  systemName : table.Has w.systemName f.systemName
  filename : table.Has w.filename f.filename
  startLine : f.startLine = w.startLine

theorem Function.resolves (table : StringTable) (w : Wire.Function) :
    Resolves table (resolve table w) w.places (Reads table w) :=
  (resolves_get table w.name).bind fun _ name =>
    (resolves_get table w.systemName).bind fun _ systemName =>
    (resolves_get table w.filename).map fun _ filename => ⟨rfl, name, systemName, filename, rfl⟩

theorem resolves_periodType (table : StringTable) (w : Option Wire.ValueType) :
    Resolves table (w.mapM (ValueType.resolve table)) (w.toList.flatMap Wire.ValueType.places)
      (Option.Rel (ValueType.Reads table) w) := by
  cases w with
  | none => exact .pure .none
  | some w =>
    have read : Resolves table (ValueType.resolve table w >>= fun v => Pure.pure (some v)) w.places
        (Option.Rel (ValueType.Reads table) (some w)) :=
      (ValueType.resolves table w).map fun _ good => .some good
    simpa using read

/-- All places that a message refers to. -/
def Wire.Profile.places (w : Wire.Profile) : List Int64 :=
  w.sampleTypes.flatMap ValueType.places ++ (w.samples.flatMap Sample.places ++
    (w.mappings.flatMap Mapping.places ++ (w.functions.flatMap Function.places ++
    ([w.defaultSampleType] ++ (w.comments ++ ([w.dropFrames] ++ ([w.keepFrames] ++
    w.periodType.toList.flatMap ValueType.places)))))))

namespace Profile

structure Reads (w : Wire.Profile) (p : Profile) : Prop where
  sampleTypes : List.Forall₂ (ValueType.Reads w.strings) w.sampleTypes p.sampleTypes
  defaultSampleType : Has w.strings w.defaultSampleType p.defaultSampleType
  samples : List.Forall₂ (Sample.Reads w.strings) w.samples p.samples
  mappings : List.Forall₂ (Mapping.Reads w.strings) w.mappings p.mappings
  locations : List.Forall₂ Location.Reads w.locations p.locations
  functions : List.Forall₂ (Function.Reads w.strings) w.functions p.functions
  comments : List.Forall₂ (Has w.strings) w.comments p.comments
  dropFrames : Has w.strings w.dropFrames p.dropFrames
  keepFrames : Has w.strings w.keepFrames p.keepFrames
  timeNanos : p.timeNanos = w.timeNanos
  durationNanos : p.durationNanos = w.durationNanos
  periodType : Option.Rel (ValueType.Reads w.strings) w.periodType p.periodType
  period : p.period = w.period

theorem resolves_ofWire {w : Wire.Profile} (checked : checkTable w.strings = .ok ()) :
    Resolves w.strings (ofWire w) w.places (Reads w) := by
  rw [ofWire, checked]
  have comments := Resolves.mapM (resolves_get w.strings) w.comments
  rw [List.flatMap_singleton'] at comments
  exact (Resolves.mapM (ValueType.resolves w.strings) w.sampleTypes).bind fun _ sampleTypes =>
    (Resolves.mapM (Sample.resolves w.strings) w.samples).bind fun _ samples =>
    (Resolves.mapM (Mapping.resolves w.strings) w.mappings).bind fun _ mappings =>
    (Resolves.mapM (Function.resolves w.strings) w.functions).bind fun _ functions =>
    (resolves_get w.strings w.defaultSampleType).bind fun _ defaultSampleType =>
    comments.bind fun _ comments =>
    (resolves_get w.strings w.dropFrames).bind fun _ dropFrames =>
    (resolves_get w.strings w.keepFrames).bind fun _ keepFrames =>
    (resolves_periodType w.strings w.periodType).map fun _ periodType =>
      ⟨sampleTypes, defaultSampleType, samples, mappings,
        List.forall₂_map_right_iff.mpr (List.forall₂_same.mpr fun l _ => Location.reads_ofWire l),
        functions, comments, dropFrames, keepFrames, rfl, rfl, periodType, rfl⟩

theorem checkTable_eq_ok_iff (table : StringTable) :
    checkTable table = .ok () ↔ table.head? = some "" := by
  cases table <;> simp [checkTable]

theorem ofWire_of_head?_ne {w : Wire.Profile} (first : w.strings.head? ≠ some "") :
    ∃ cause, ofWire w = .error (.malformed cause) := by
  have failed : ∃ cause, checkTable w.strings = .error (.malformed cause) := by
    cases table : w.strings with
    | nil => exact ⟨.noStringTable, rfl⟩
    | cons s rest =>
      have named : s.isEmpty = false := by simpa [table] using first
      exact ⟨.firstString, by rw [checkTable, if_neg (by simp [named])]⟩
  obtain ⟨cause, failed⟩ := failed
  refine ⟨cause, ?_⟩
  rw [ofWire, failed]
  rfl

end Profile

namespace StringTable

def Holds (table : StringTable) (texts : List String) : Prop := ∀ s ∈ texts, ∃ i, table.Has i s

theorem Holds.append {table : StringTable} {texts more : List String} (h : table.Holds texts)
    (h' : table.Holds more) : table.Holds (texts ++ more) :=
  List.forall_mem_append.mpr ⟨h, h'⟩

theorem holds_flatMap {table : StringTable} {reads : α → β → Prop} {texts : β → List String}
    {ws : List α} {xs : List β} (all : List.Forall₂ reads ws xs)
    (each : ∀ w x, reads w x → table.Holds (texts x)) : table.Holds (xs.flatMap texts) := by
  induction all with
  | nil => exact fun _ member => nomatch member
  | cons head _ ih =>
    rw [List.flatMap_cons]
    exact (each _ _ head).append ih

theorem Has.holds {table : StringTable} {index : Int64} {text : String}
    (h : table.Has index text) : table.Holds [text] :=
  fun _ member => List.mem_singleton.mp member ▸ ⟨index, h⟩

/-- Only so many places can be named by an index. -/
theorem Has.mem_take {table : StringTable} {index : Int64} {text : String}
    (h : table.Has index text) : text ∈ table.take 9223372036854775808 := by
  have below : index.toInt.toNat < 9223372036854775808 := by
    have := index.toInt_lt
    omega
  refine List.mem_of_getElem? (i := index.toInt.toNat) ?_
  rw [List.getElem?_take_of_lt below]
  exact h.2

end StringTable

section

variable {table : StringTable}

theorem ValueType.Reads.holds {w : Wire.ValueType} {t : ValueType} (h : Reads table w t) :
    table.Holds t.texts :=
  h.kind.holds.append h.unit.holds

theorem Label.Reads.holds {w : Wire.Label} {l : Label} (h : Reads table w l) :
    table.Holds l.texts :=
  h.key.holds.append (h.text.holds.append h.numUnit.holds)

theorem Sample.Reads.holds {w : Wire.Sample} {s : Sample} (h : Reads table w s) :
    table.Holds s.texts :=
  holds_flatMap h.labels fun _ _ => Label.Reads.holds

theorem Mapping.Reads.holds {w : Wire.Mapping} {m : Mapping} (h : Reads table w m) :
    table.Holds m.texts :=
  h.file.holds.append h.buildId.holds

theorem Function.Reads.holds {w : Wire.Function} {f : Function} (h : Reads table w f) :
    table.Holds f.texts :=
  h.name.holds.append (h.systemName.holds.append h.filename.holds)

theorem holds_periodType {w : Option Wire.ValueType} {t : Option ValueType}
    (read : Option.Rel (ValueType.Reads table) w t) :
    table.Holds (t.toList.flatMap ValueType.texts) := by
  cases read with
  | none => exact fun _ member => nomatch member
  | some read => simpa using read.holds

end

namespace Profile

theorem Reads.holds {w : Wire.Profile} {p : Profile} (h : Reads w p) :
    StringTable.Holds w.strings p.texts := by
  have comments : StringTable.Holds w.strings p.comments := by
    have each : StringTable.Holds w.strings (p.comments.flatMap fun c => [c]) :=
      holds_flatMap h.comments fun _ _ => Has.holds
    rwa [List.flatMap_singleton'] at each
  exact (holds_flatMap h.sampleTypes fun _ _ => ValueType.Reads.holds).append
    ((holds_periodType h.periodType).append
    ((holds_flatMap h.samples fun _ _ => Sample.Reads.holds).append
    ((holds_flatMap h.mappings fun _ _ => Mapping.Reads.holds).append
    ((holds_flatMap h.functions fun _ _ => Function.Reads.holds).append (comments.append
    (h.dropFrames.holds.append (h.keepFrames.holds.append h.defaultSampleType.holds)))))))

/-- The texts of what was read stood at places that an index can name, so there are not too many of
them for a table in which each has one place. -/
theorem Reads.short {w : Wire.Profile} {p : Profile} (h : Reads w p)
    (first : w.strings.head? = some "") : Short p.toWire.strings := by
  have empty : StringTable.Has w.strings 0 "" := by
    refine ⟨Int.le_refl 0, ?_⟩
    rwa [List.head?_eq_getElem?] at first
  have inside : p.toWire.strings ⊆ w.strings.take 9223372036854775808 := by
    intro s member
    rcases mem_strings.mp member with rfl | text
    · exact empty.mem_take
    · obtain ⟨i, has⟩ := h.holds s text
      exact has.mem_take
  have fewer := (List.subperm_of_subset p.nodup_strings inside).length_le
  rw [List.length_take] at fewer
  exact Nat.le_trans fewer (Nat.min_le_left _ _)

/-- A message is read just if its table starts with the empty text and holds every place that the
message refers to. Otherwise the fault is one of the message, not of its form. What is read has the
texts at those places and all else as it was, and its own message reads the same. -/
theorem ofWire_resolves (w : Wire.Profile) :
    ((∃ p, ofWire w = .ok p) ↔
      w.strings.head? = some "" ∧ ∀ i ∈ w.places, 0 ≤ i.toInt ∧ i.toInt < w.strings.length) ∧
    (∀ e, ofWire w = .error e → ∃ cause, e = .malformed cause) ∧
    ∀ p, ofWire w = .ok p → Reads w p ∧ ofWire p.toWire = .ok p := by
  by_cases first : w.strings.head? = some ""
  · have ended := resolves_ofWire ((checkTable_eq_ok_iff w.strings).mpr first)
    cases read : ofWire w with
    | error e =>
      rw [read] at ended
      obtain ⟨i, member, outside, rfl⟩ := ended
      refine ⟨⟨nofun, fun inside => absurd (inside.2 i member) outside⟩, ?_, nofun⟩
      rintro _ ⟨⟩
      exact ⟨_, rfl⟩
    | ok p =>
      rw [read] at ended
      obtain ⟨inside, reads⟩ := ended
      refine ⟨⟨fun _ => ⟨first, inside⟩, fun _ => ⟨p, rfl⟩⟩, nofun, ?_⟩
      rintro _ ⟨⟩
      exact ⟨reads, p.ofWire_toWire (reads.short first)⟩
  · obtain ⟨cause, failed⟩ := ofWire_of_head?_ne first
    rw [failed]
    refine ⟨⟨nofun, fun inside => absurd inside.1 first⟩, ?_, nofun⟩
    rintro _ ⟨⟩
    exact ⟨cause, rfl⟩

example : ofWire { strings := ["", "cpu"], sampleTypes := [⟨1, 2⟩] } =
    .error (.malformed (.stringIndex 2)) :=
  rfl

end Profile

end Profiling
