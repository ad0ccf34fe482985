import Profiling.Proofs.Resolving

/-!
# Places that are written

The places of a message are the answers to the texts of its profile, in the order in which the
texts are interned. New texts go to the end of the table, so an answer is good at once and stays
good while the table grows. A hash index beside the table, which saves the search, gives the same
answers and knows just the texts of the table.
-/

namespace Profiling

namespace StringTable

/-- New texts stand in the table in the order in which they first come. -/
theorem addAll_eq (table : StringTable) (texts : List String) :
    table.addAll texts = table ++ (texts.filter (· ∉ table)).eraseDups := by
  induction texts generalizing table with
  | nil => simp [addAll]
  | cons s texts ih =>
    have step : table.addAll (s :: texts) = (table.add s).addAll texts := rfl
    rw [step, ih, add]
    by_cases known : s ∈ table
    · rw [if_pos known, List.filter_cons_of_neg (by simpa using known)]
    · have others : texts.filter (· ∉ table ++ [s]) =
          (texts.filter (· ∉ table)).filter fun t => !t == s := by
        rw [List.filter_filter]
        refine List.filter_congr fun t _ => ?_
        simp [and_comm, Bool.beq_eq_decide_eq]
      rw [if_neg known, List.filter_cons_of_pos (by simpa using known), List.eraseDups_cons,
        others, List.append_assoc, List.singleton_append]

theorem prefix_addAll (table : StringTable) (texts : List String) :
    table <+: table.addAll texts := by
  rw [addAll_eq]
  exact List.prefix_append _ _

theorem has_of_get {table : StringTable} {index : Int64} {text : String}
    (read : table.get index = .ok text) : table.Has index text := by
  have resolved := resolves_get table index
  rw [read] at resolved
  exact resolved.2

theorem has_intern (s : String) (table : StringTable) {later : StringTable}
    (after : table.add s <+: later) (short : later.Short) :
    later.Has ((intern s).run table).1 s := by
  rw [← table_intern] at after
  exact has_of_get ((stores_intern s table).2 later after short)

/-- The answers are good in all tables from there on. -/
theorem has_mapM_intern (texts : List String) (table : StringTable) {later : StringTable}
    (after : table.addAll texts <+: later) (short : later.Short) :
    List.Forall₂ later.Has ((texts.mapM intern).run table).1 texts := by
  induction texts generalizing table with
  | nil => exact .nil
  | cons s texts ih =>
    have first : table.add s <+: later := (prefix_addAll _ texts).trans after
    have rest := ih (table.add s) after
    rw [← table_intern] at rest
    rw [List.mapM_cons]
    exact .cons (has_intern s table first short) rest

theorem run_mapM_append (early late : List String) (table : StringTable) :
    ((early ++ late).mapM intern).run table =
      let placed := (early.mapM intern).run table
      let after := (late.mapM intern).run placed.2
      (placed.1 ++ after.1, after.2) := by
  rw [List.mapM_append]
  rfl

end StringTable

structure IndexedTable where
  texts : StringTable
  index : Std.HashMap String Int64

namespace IndexedTable

def initial : IndexedTable := { texts := StringTable.initial, index := {("", 0)} }

def intern (s : String) : StateM IndexedTable Int64 := fun t =>
  match t.index[s]? with
  | some i => (i, t)
  | none =>
    let i := Int64.ofNat t.texts.length
    (i, { texts := t.texts ++ [s], index := t.index.insert s i })

/-- The index knows just the texts of the table, each with its place. -/
def Agrees (t : IndexedTable) : Prop :=
  ∀ s, t.index[s]? = (t.texts.idxOf? s).map Int64.ofNat

theorem idxOf?_concat {texts : List String} {s : String} (new : s ∉ texts) (u : String) :
    (texts ++ [s]).idxOf? u = if s = u then some texts.length else texts.idxOf? u := by
  rw [List.idxOf?, List.findIdx?_append, ← List.idxOf?]
  by_cases same : s = u
  · subst same
    simp [List.idxOf?_eq_none_iff.mpr new]
  · simp [same]

theorem agrees_initial : initial.Agrees := by
  intro s
  change (Std.HashMap.insert ∅ "" 0)[s]? = _
  rw [Std.HashMap.getElem?_insert]
  by_cases same : "" = s
  · subst same
    rfl
  · simp [initial, StringTable.initial, List.idxOf?, same]

theorem run_intern {t : IndexedTable} (agrees : t.Agrees) (s : String) :
    ((intern s).run t).1 = ((StringTable.intern s).run t.texts).1 ∧
    ((intern s).run t).2.texts = ((StringTable.intern s).run t.texts).2 ∧
    ((intern s).run t).2.Agrees := by
  have known := agrees s
  cases found : t.texts.idxOf? s with
  | some i =>
    have here : t.index[s]? = some (Int64.ofNat i) := by rw [known, found]; rfl
    have run : (intern s).run t = (Int64.ofNat i, t) := by
      simp [intern, StateT.run, here]
    have plain : (StringTable.intern s).run t.texts = (Int64.ofNat i, t.texts) := by
      simp [StringTable.intern, StateT.run, found]
    rw [run, plain]
    exact ⟨rfl, rfl, agrees⟩
  | none =>
    have absent : t.index[s]? = none := by rw [known, found]; rfl
    have new : s ∉ t.texts := List.idxOf?_eq_none_iff.mp found
    have run : (intern s).run t = (Int64.ofNat t.texts.length,
        ⟨t.texts ++ [s], t.index.insert s (Int64.ofNat t.texts.length)⟩) := by
      simp [intern, StateT.run, absent]
    have plain : (StringTable.intern s).run t.texts =
        (Int64.ofNat t.texts.length, t.texts ++ [s]) := by
      simp [StringTable.intern, StateT.run, found]
    rw [run, plain]
    refine ⟨rfl, rfl, fun u => ?_⟩
    rw [idxOf?_concat new, Std.HashMap.getElem?_insert]
    by_cases same : s = u
    · simp [same]
    · simp [same, agrees u]

theorem run_mapM_intern (texts : List String) {t : IndexedTable} (agrees : t.Agrees) :
    ((texts.mapM intern).run t).1 = ((texts.mapM StringTable.intern).run t.texts).1 ∧
    ((texts.mapM intern).run t).2.texts = ((texts.mapM StringTable.intern).run t.texts).2 ∧
    ((texts.mapM intern).run t).2.Agrees := by
  induction texts generalizing t with
  | nil => exact ⟨rfl, rfl, agrees⟩
  | cons s texts ih =>
    obtain ⟨answer, table, agrees⟩ := run_intern agrees s
    obtain ⟨answers, left, agrees⟩ := ih agrees
    rw [table] at answers left
    rw [List.mapM_cons, List.mapM_cons]
    exact ⟨congrArg₂ List.cons answer answers, left, agrees⟩

end IndexedTable

open StringTable

namespace Profile

/-- The table of a message has the empty text and then the other texts of the profile, each once
and in the order in which they first come. -/
theorem strings_eq (p : Profile) :
    p.toWire.strings = "" :: (p.texts.filter (· ≠ "")).eraseDups := by
  rw [strings_toWire, addAll_eq]
  simp [StringTable.initial]

theorem resolved_toWire {p : Profile} (short : Short p.toWire.strings) :
    (∀ i ∈ p.toWire.places, InRange p.toWire.strings i) ∧ Reads p.toWire p := by
  have checked : checkTable p.toWire.strings = .ok () := by
    rw [strings_eq]
    rfl
  have resolved := resolves_ofWire checked
  rwa [p.ofWire_toWire short] at resolved

/-- What is placed on the way to a message stays in it, and stays good. -/
theorem placed_of_texts_eq {p : Profile} {early late : List String}
    (split : p.texts = early ++ late) :
    let placed := (early.mapM StringTable.intern).run initial
    placed.1 <+: p.toWire.written ∧ placed.2 <+: p.toWire.strings ∧
    ∀ later, placed.2 <+: later → Short later → List.Forall₂ (Has later) placed.1 early := by
  have whole := p.run_texts
  rw [split, run_mapM_append, Prod.mk.injEq] at whole
  obtain ⟨written, strings⟩ := whole
  refine ⟨⟨_, written⟩, ?_, fun later after short => ?_⟩
  · rw [← strings, table_mapM_intern late]
    exact prefix_addAll _ late
  · rw [table_mapM_intern] at after
    exact has_mapM_intern early initial after short

/-- The table of a message is the empty text and the other texts of its profile, each once and in
the order in which they first come. The places that are written are the answers to the texts, with
a hash index or without. All of them are in the table, each stands for the text that it was written
for, and this holds from when it is written. -/
theorem toWire_strings_written (p : Profile) :
    p.toWire.strings = "" :: (p.texts.filter (· ≠ "")).eraseDups ∧
    p.toWire.strings.Nodup ∧
    (p.texts.mapM StringTable.intern).run initial = (p.toWire.written, p.toWire.strings) ∧
    (let indexed := (p.texts.mapM IndexedTable.intern).run .initial
     indexed.1 = p.toWire.written ∧ indexed.2.texts = p.toWire.strings ∧ indexed.2.Agrees) ∧
    (∀ early late, p.texts = early ++ late →
      let placed := (early.mapM StringTable.intern).run initial
      placed.1 <+: p.toWire.written ∧ placed.2 <+: p.toWire.strings ∧
      ∀ later, placed.2 <+: later → Short later → List.Forall₂ (Has later) placed.1 early) ∧
    (Short p.toWire.strings →
      (∀ i ∈ p.toWire.places, InRange p.toWire.strings i) ∧ Reads p.toWire p) := by
  obtain ⟨answers, left, agrees⟩ := IndexedTable.run_mapM_intern p.texts
    IndexedTable.agrees_initial
  have plain : (p.texts.mapM StringTable.intern).run IndexedTable.initial.texts =
      (p.toWire.written, p.toWire.strings) :=
    p.run_texts
  rw [plain] at answers left
  exact ⟨p.strings_eq, p.nodup_strings, p.run_texts, ⟨answers, left, agrees⟩,
    fun _ _ => placed_of_texts_eq, resolved_toWire⟩

theorem toWire_strings_written_repeated :
    let p : Profile := {
      sampleTypes := [⟨"cpu", "ns"⟩]
      comments := ["ns", "cpu", "é"]
      defaultSampleType := "cpu" }
    p.toWire.strings = ["", "cpu", "ns", "é"] ∧ p.toWire.written = [1, 2, 2, 1, 3, 0, 0, 1] ∧
    Reads p.toWire p := by
  intro p
  have short : Short p.toWire.strings := by
    rw [Short]
    decide
  exact ⟨by decide, by decide, ((toWire_strings_written p).2.2.2.2.2 short).2⟩

end Profile

end Profiling
