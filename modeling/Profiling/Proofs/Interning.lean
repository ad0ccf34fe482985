import Mathlib.Data.List.Basic
import Profiling.Profile.Strings

/-!
# Texts that are interned and resolved

Interning only adds to the table, so a place stays good in every later table. Whatever
was interned resolves to itself in the table that is left at the end.
-/

namespace Profiling

namespace StringTable

/-- The places of a table are words that are not negative. -/
def Short (table : StringTable) : Prop := table.length ≤ 9223372036854775808

theorem get_of_getElem? {table : StringTable} (short : table.Short) {i : Nat} {s : String}
    (found : table[i]? = some s) : table.get (Int64.ofNat i) = .ok s := by
  have inside : i < table.length := (List.getElem?_eq_some_iff.mp found).1
  have place : (Int64.ofNat i).toInt = i := by
    rw [Short] at short
    exact Int64.toInt_ofNat_of_lt (by omega)
  have positive : ¬Int64.ofNat i < 0 := by
    rw [Int64.lt_iff_toInt_lt, place]
    simp
  simp [get, positive, place, found]

/-- Running adds texts to a table, and the result reads well in all tables that go on from
the one that is left. -/
def Stores (run : StateM StringTable α) (reads : StringTable → α → Prop) : Prop :=
  ∀ table, table <+: (run.run table).2 ∧
    ∀ final, (run.run table).2 <+: final → Short final → reads final (run.run table).1

namespace Stores

theorem pure {reads : StringTable → α → Prop} {a : α} (h : ∀ table, reads table a) :
    Stores (Pure.pure a) reads :=
  fun _ => ⟨List.prefix_rfl, fun final _ _ => h final⟩

theorem bind {run : StateM StringTable α} {next : α → StateM StringTable β}
    {reads : StringTable → α → Prop} {reads' : StringTable → β → Prop} (h : Stores run reads)
    (h' : ∀ a, Stores (next a) fun table b => reads table a → reads' table b) :
    Stores (run >>= next) reads' := by
  intro table
  obtain ⟨grows, good⟩ := h table
  obtain ⟨grows', good'⟩ := h' (run.run table).1 (run.run table).2
  refine ⟨grows.trans grows', fun final after short => ?_⟩
  exact good' final after short (good final (grows'.trans after) short)

end Stores

theorem stores_intern (s : String) : Stores (intern s) fun table i => table.get i = .ok s := by
  intro table
  cases found : table.idxOf? s with
  | some i =>
    have run : (intern s).run table = (Int64.ofNat i, table) := by
      simp [intern, StateT.run, found]
    rw [run]
    refine ⟨List.prefix_rfl, fun final after short => get_of_getElem? short ?_⟩
    have here : table[i]? = some s := by
      obtain ⟨inside, same, -⟩ := List.findIdx?_eq_some_iff_getElem.mp found
      rw [List.getElem?_eq_getElem inside]
      simpa using same
    obtain ⟨more, rfl⟩ := after
    exact (List.getElem?_append_left (List.getElem?_eq_some_iff.mp here).1).trans here
  | none =>
    have run : (intern s).run table = (Int64.ofNat table.length, table ++ [s]) := by
      simp [intern, StateT.run, found]
    rw [run]
    refine ⟨List.prefix_append _ _, fun final after short => get_of_getElem? short ?_⟩
    obtain ⟨more, rfl⟩ := after
    simp

/-- Lists are interned and resolved part by part. -/
theorem Stores.mapM {f : α → StateM StringTable β}
    {resolve : StringTable → β → Except ProfileError α}
    (each : ∀ x, Stores (f x) fun table y => resolve table y = .ok x) (xs : List α) :
    Stores (xs.mapM f) fun table ys => ys.mapM (resolve table) = .ok xs := by
  induction xs with
  | nil => exact .pure fun _ => rfl
  | cons x xs ih =>
    rw [List.mapM_cons]
    refine (each x).bind fun y => ih.bind fun ys => .pure fun table tail head => ?_
    rw [List.mapM_cons, head, tail]
    rfl

end StringTable

open StringTable

theorem ValueType.stores_intern (t : ValueType) :
    Stores t.intern fun table w => ValueType.resolve table w = .ok t := by
  refine (StringTable.stores_intern t.kind).bind fun kind =>
    (StringTable.stores_intern t.unit).bind fun unit => .pure fun table hunit hkind => ?_
  rw [resolve, hkind, hunit]
  rfl

theorem Label.stores_intern (l : Label) :
    Stores l.intern fun table w => Label.resolve table w = .ok l := by
  refine (StringTable.stores_intern l.key).bind fun key =>
    (StringTable.stores_intern l.text).bind fun text =>
    (StringTable.stores_intern l.numUnit).bind fun numUnit =>
    .pure fun table hnumUnit htext hkey => ?_
  rw [resolve, hkey, htext, hnumUnit]
  rfl

theorem Sample.stores_intern (s : Sample) :
    Stores s.intern fun table w => Sample.resolve table w = .ok s := by
  refine (Stores.mapM Label.stores_intern s.labels).bind fun labels =>
    .pure fun table hlabels => ?_
  rw [resolve, hlabels]
  rfl

theorem Mapping.stores_intern (m : Mapping) :
    Stores m.intern fun table w => Mapping.resolve table w = .ok m := by
  refine (StringTable.stores_intern m.file).bind fun file =>
    (StringTable.stores_intern m.buildId).bind fun buildId =>
    .pure fun table hbuildId hfile => ?_
  rw [resolve, hfile, hbuildId]
  rfl

theorem Function.stores_intern (f : Function) :
    Stores f.intern fun table w => Function.resolve table w = .ok f := by
  refine (StringTable.stores_intern f.name).bind fun name =>
    (StringTable.stores_intern f.systemName).bind fun systemName =>
    (StringTable.stores_intern f.filename).bind fun filename =>
    .pure fun table hfilename hsystemName hname => ?_
  rw [resolve, hname, hsystemName, hfilename]
  rfl

theorem ofWire_toWire_locations (locations : List Location) :
    (locations.map Location.toWire).map Location.ofWire = locations := by
  have line : Line.ofWire ∘ Line.toWire = id := rfl
  have location : Location.ofWire ∘ Location.toWire = id := by
    funext l
    simp [Location.toWire, Location.ofWire, line]
  rw [List.map_map, location, List.map_id]

/-- The period type, if there is one. -/
theorem stores_periodType (t : Option ValueType) :
    Stores (t.mapM ValueType.intern) fun table w =>
      w.mapM (ValueType.resolve table) = .ok t := by
  cases t with
  | none => exact .pure fun _ => rfl
  | some t =>
    refine (ValueType.stores_intern t).bind fun w => .pure fun table read => ?_
    simp [read]

/-- Texts are interned in one order and resolved in another. -/
theorem Profile.stores_intern (p : Profile) :
    Stores p.intern fun table w =>
      checkTable table = .ok () → Profile.ofWire { w with strings := table } = .ok p := by
  refine (Stores.mapM ValueType.stores_intern p.sampleTypes).bind fun sampleTypes =>
    (stores_periodType p.periodType).bind fun periodType =>
    (Stores.mapM Sample.stores_intern p.samples).bind fun samples =>
    (Stores.mapM Mapping.stores_intern p.mappings).bind fun mappings =>
    (Stores.mapM Function.stores_intern p.functions).bind fun functions =>
    (Stores.mapM StringTable.stores_intern p.comments).bind fun comments =>
    (StringTable.stores_intern p.dropFrames).bind fun dropFrames =>
    (StringTable.stores_intern p.keepFrames).bind fun keepFrames =>
    (StringTable.stores_intern p.defaultSampleType).bind fun defaultSampleType =>
    .pure fun table hdefault hkeep hdrop hcomments hfunctions hmappings hsamples hperiod htypes
      checked => ?_
  simp only [ofWire, checked, htypes, hsamples, hmappings, hfunctions, hdefault, hcomments, hdrop,
    hkeep, hperiod, ofWire_toWire_locations]
  rfl

/-- The table of a message starts with the empty text. -/
theorem Profile.initial_prefix (p : Profile) : StringTable.initial <+: p.toWire.strings :=
  (p.stores_intern StringTable.initial).1

theorem Profile.ofWire_toWire (p : Profile) (short : Short p.toWire.strings) :
    Profile.ofWire p.toWire = .ok p := by
  have checked : checkTable p.toWire.strings = .ok () := by
    obtain ⟨more, same⟩ := p.initial_prefix
    rw [← same]
    rfl
  exact (p.stores_intern StringTable.initial).2 _ List.prefix_rfl short checked

end Profiling
