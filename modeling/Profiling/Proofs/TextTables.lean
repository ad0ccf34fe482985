import Mathlib.Data.List.Nodup
import Profiling.Proofs.Interning

/-!
# Tables of texts

Interning adds a text to the table unless it is there already. A message is built by interning the
texts of its profile one after the other, so its table holds the empty text and those of the
profile, each once, in the order in which they are come across, and the places that are written
are the answers in that order.
-/

namespace Profiling

namespace StringTable

/-- Adds a text unless it is there. -/
def add (table : StringTable) (s : String) : StringTable :=
  if s ∈ table then table else table ++ [s]

def addAll (table : StringTable) (texts : List String) : StringTable := texts.foldl add table

theorem mem_add {table : StringTable} {s t : String} : t ∈ table.add s ↔ t ∈ table ∨ t = s := by
  rw [add]
  split_ifs with known
  · exact ⟨.inl, fun either => either.elim id fun same => same ▸ known⟩
  · rw [List.mem_append, List.mem_singleton]

theorem mem_addAll {table : StringTable} {texts : List String} {t : String} :
    t ∈ table.addAll texts ↔ t ∈ table ∨ t ∈ texts := by
  induction texts generalizing table with
  | nil => simp [addAll]
  | cons s texts ih =>
    have step : table.addAll (s :: texts) = (table.add s).addAll texts := rfl
    rw [step, ih, mem_add, List.mem_cons, or_assoc]

theorem nodup_add {table : StringTable} (distinct : table.Nodup) (s : String) :
    (table.add s).Nodup := by
  rw [add]
  split_ifs with known
  · exact distinct
  · refine List.nodup_append.mpr ⟨distinct, List.nodup_singleton s, ?_⟩
    intro t there u new same
    exact known (List.mem_singleton.mp new ▸ same ▸ there)

theorem nodup_addAll {table : StringTable} (distinct : table.Nodup) (texts : List String) :
    (table.addAll texts).Nodup := by
  induction texts generalizing table with
  | nil => exact distinct
  | cons s texts ih => exact ih (nodup_add distinct s)

theorem table_intern (s : String) (table : StringTable) :
    ((intern s).run table).2 = table.add s := by
  cases found : table.idxOf? s with
  | some i =>
    have known : s ∈ table := by
      by_contra unknown
      simp [List.idxOf?_eq_none_iff.mpr unknown] at found
    have run : (intern s).run table = (Int64.ofNat i, table) := by
      simp [intern, StateT.run, found]
    rw [run, add, if_pos known]
  | none =>
    have run : (intern s).run table = (Int64.ofNat table.length, table ++ [s]) := by
      simp [intern, StateT.run, found]
    rw [run, add, if_neg (List.idxOf?_eq_none_iff.mp found)]

theorem table_mapM_intern (texts : List String) (table : StringTable) :
    ((texts.mapM intern).run table).2 = table.addAll texts := by
  induction texts generalizing table with
  | nil => rfl
  | cons s texts ih =>
    rw [List.mapM_cons]
    refine (ih ((intern s).run table).2).trans ?_
    rw [table_intern]
    rfl

/-- What is interned part by part is interned text by text. -/
theorem map_mapM_intern {f : α → StateM StringTable β} {places : β → List Int64}
    {texts : α → List String} (each : ∀ x, places <$> f x = (texts x).mapM intern)
    (xs : List α) :
    (fun ys => ys.flatMap places) <$> xs.mapM f = (xs.flatMap texts).mapM intern := by
  induction xs with
  | nil => rfl
  | cons x xs ih =>
    rw [List.flatMap_cons, List.mapM_append, ← each, ← ih, List.mapM_cons]
    simp

end StringTable

open StringTable

def ValueType.texts (t : ValueType) : List String := [t.kind, t.unit]

def Wire.ValueType.places (w : Wire.ValueType) : List Int64 := [w.kind, w.unit]

theorem ValueType.places_intern (t : ValueType) :
    Wire.ValueType.places <$> t.intern = t.texts.mapM StringTable.intern := by
  simp [intern, texts, Wire.ValueType.places]

def Label.texts (l : Label) : List String := [l.key, l.text, l.numUnit]

def Wire.Label.places (w : Wire.Label) : List Int64 := [w.key, w.text, w.numUnit]

theorem Label.places_intern (l : Label) :
    Wire.Label.places <$> l.intern = l.texts.mapM StringTable.intern := by
  simp [intern, texts, Wire.Label.places]

def Sample.texts (s : Sample) : List String := s.labels.flatMap Label.texts

def Wire.Sample.places (w : Wire.Sample) : List Int64 := w.labels.flatMap Wire.Label.places

theorem Sample.places_intern (s : Sample) :
    Wire.Sample.places <$> s.intern = s.texts.mapM StringTable.intern := by
  rw [texts, ← map_mapM_intern Label.places_intern]
  simp [intern, Wire.Sample.places]

def Mapping.texts (m : Mapping) : List String := [m.file, m.buildId]

def Wire.Mapping.places (w : Wire.Mapping) : List Int64 := [w.file, w.buildId]

theorem Mapping.places_intern (m : Mapping) :
    Wire.Mapping.places <$> m.intern = m.texts.mapM StringTable.intern := by
  simp [intern, texts, Wire.Mapping.places]

def Function.texts (f : Function) : List String := [f.name, f.systemName, f.filename]

def Wire.Function.places (w : Wire.Function) : List Int64 := [w.name, w.systemName, w.filename]

theorem Function.places_intern (f : Function) :
    Wire.Function.places <$> f.intern = f.texts.mapM StringTable.intern := by
  simp [intern, texts, Wire.Function.places]

theorem places_periodType (t : Option ValueType) :
    (fun w => w.toList.flatMap Wire.ValueType.places) <$> t.mapM ValueType.intern =
      (t.toList.flatMap ValueType.texts).mapM StringTable.intern := by
  cases t with
  | none => rfl
  | some t =>
    rw [Option.toList_some, List.flatMap_singleton, ← t.places_intern]
    simp

def Profile.texts (p : Profile) : List String :=
  p.sampleTypes.flatMap ValueType.texts ++ (p.periodType.toList.flatMap ValueType.texts ++
    (p.samples.flatMap Sample.texts ++ (p.mappings.flatMap Mapping.texts ++
    (p.functions.flatMap Function.texts ++ (p.comments ++
    [p.dropFrames, p.keepFrames, p.defaultSampleType])))))

/-- The places of a message in the order in which they are written. -/
def Wire.Profile.written (w : Wire.Profile) : List Int64 :=
  w.sampleTypes.flatMap ValueType.places ++ (w.periodType.toList.flatMap ValueType.places ++
    (w.samples.flatMap Sample.places ++ (w.mappings.flatMap Mapping.places ++
    (w.functions.flatMap Function.places ++ (w.comments ++
    [w.dropFrames, w.keepFrames, w.defaultSampleType])))))

namespace Profile

theorem written_intern (p : Profile) :
    Wire.Profile.written <$> p.intern = p.texts.mapM StringTable.intern := by
  simp only [texts, List.mapM_append, ← places_periodType]
  simp only [← map_mapM_intern ValueType.places_intern, ← map_mapM_intern Sample.places_intern,
    ← map_mapM_intern Mapping.places_intern, ← map_mapM_intern Function.places_intern]
  simp [intern, Wire.Profile.written]

/-- Building a message is interning the texts of the profile, one after the other. -/
theorem run_texts (p : Profile) :
    (p.texts.mapM StringTable.intern).run initial = (p.toWire.written, p.toWire.strings) := by
  rw [← written_intern]
  rfl

theorem strings_toWire (p : Profile) : p.toWire.strings = initial.addAll p.texts := by
  rw [← table_mapM_intern, run_texts]

theorem nodup_strings (p : Profile) : p.toWire.strings.Nodup := by
  rw [strings_toWire]
  exact nodup_addAll (List.nodup_singleton "") p.texts

theorem mem_strings {p : Profile} {s : String} :
    s ∈ p.toWire.strings ↔ s = "" ∨ s ∈ p.texts := by
  rw [strings_toWire, mem_addAll]
  exact or_congr_left List.mem_singleton

end Profile

end Profiling
