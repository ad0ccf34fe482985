import Profiling.Proofs.Gathering

/-!
# Names that are lent

While a profile is merged, its mappings without a name have that of its source, and what is kept
of its origins tells which names were lent. Taking them off again gives the profile back, unless a
mapping has a file of its own that is called like the source: beside a mapping without a name it
cannot be told from one to which the name was lent.
-/

namespace Profiling

namespace Mapping

theorem isNameless_iff_empty {m : Mapping} :
    m.isNameless = true ↔ m.file = "" ∧ m.buildId = "" := by
  rw [isNameless, Bool.and_eq_true, String.isEmpty_iff, String.isEmpty_iff]

end Mapping

namespace ImageKey

/-- Only a mapping without a name is told by its source. -/
theorem ofMapping_eq_source_iff {m : Mapping} {source url : String} :
    ofMapping m source = .source url ↔ m.isNameless = true ∧ source = url := by
  rw [ofMapping, Mapping.isNameless]
  by_cases told : m.buildId.isEmpty <;> by_cases filed : m.file.isEmpty <;> simp [told, filed]

end ImageKey

namespace Provenance

theorem get?_push (sources : Provenance) (key : ImageKey) (o : Origin) (k : ImageKey) :
    (sources.push key o).get? k =
      if k = key then some ((sources.get? key).getD [] ++ [o]) else sources.get? k :=
  lookup_appendTo sources.sorted k

/-- The origins of the mappings of a profile that are told by a key, in their order. -/
def originsIn (p : Profile) (source : String) (key : ImageKey) : List Origin :=
  (p.mappings.filter fun m => ImageKey.ofMapping m source = key).map fun m => ⟨source, m.start⟩

/-- One origin is recorded for every mapping, and no key without any. -/
theorem get?_collect (p : Profile) (source : String) (key : ImageKey) :
    (collect p source).1.get? key =
      if originsIn p source key = [] then none else some (originsIn p source key) := by
  suffices ∀ (ms : List Mapping) (before : Provenance),
      let found := (ms.filter fun m => ImageKey.ofMapping m source = key).map
        fun m => (⟨source, m.start⟩ : Origin)
      (ms.foldl (fun map m => map.push (.ofMapping m source) ⟨source, m.start⟩) before).get? key =
        if found = [] then before.get? key else some ((before.get? key).getD [] ++ found) from
    this p.mappings .empty
  intro ms
  induction ms with
  | nil => simp
  | cons m ms ih =>
    intro before
    dsimp only at ih ⊢
    rw [List.foldl_cons, ih, get?_push]
    by_cases told : ImageKey.ofMapping m source = key
    · simp [told]
    · simp [told, Ne.symm told]

/-- A source is a key only of mappings without a name. -/
theorem isSome_get?_collect {p : Profile} {source url : String} :
    ((collect p source).1.get? (.source url)).isSome = true ↔
      source = url ∧ ∃ n ∈ p.mappings, n.isNameless = true := by
  have recorded : originsIn p source (.source url) = [] ↔
      ∀ n ∈ p.mappings, ¬(n.isNameless = true ∧ source = url) := by
    simp [originsIn, List.filter_eq_nil_iff, ImageKey.ofMapping_eq_source_iff]
  rw [get?_collect, apply_ite Option.isSome, Option.isSome_none, Option.isSome_some]
  simp only [Bool.if_false_left, Bool.and_true, Bool.not_eq_true', decide_eq_false_iff_not,
    recorded]
  push Not
  exact ⟨fun ⟨n, hn, nameless, same⟩ => ⟨same, n, hn, nameless⟩,
    fun ⟨same, n, hn, nameless⟩ => ⟨n, hn, nameless, same⟩⟩

theorem nameAfter_eq (source : String) (m : Mapping) :
    nameAfter source m = if m.isNameless then { m with file := source } else m := by
  rw [nameAfter]
  split
  · rename_i url key
    obtain ⟨nameless, rfl⟩ := ImageKey.ofMapping_eq_source_iff.mp key
    rw [if_pos nameless]
  · rename_i other
    rw [if_neg fun nameless =>
      other source (ImageKey.ofMapping_eq_source_iff.mpr ⟨nameless, rfl⟩)]

end Provenance

namespace Profile

/-- A mapping has a file of its own that is called like the source, beside one without a name. -/
def Confuses (p : Profile) (source : String) (m : Mapping) : Prop :=
  m.isNameless = false ∧ m.buildId = "" ∧ m.file = source ∧
    ∃ n ∈ p.mappings, n.isNameless = true

instance (p : Profile) (source : String) (m : Mapping) : Decidable (p.Confuses source m) :=
  inferInstanceAs (Decidable (_ ∧ _ ∧ _ ∧ ∃ n ∈ p.mappings, _))

/-- What becomes of a mapping while its profile is merged alone. -/
def restored (p : Profile) (source : String) (m : Mapping) : Mapping :=
  if p.Confuses source m then { m with file := "" } else m

theorem restored_eq_iff {p : Profile} {source : String} {m : Mapping} :
    p.restored source m = m ↔ ¬p.Confuses source m := by
  rw [restored]
  split
  · rename_i confused
    refine iff_of_false (fun kept => ?_) (not_not_intro confused)
    obtain ⟨named, told, -⟩ := confused
    have filed : m.file = "" := (congrArg Mapping.file kept).symm
    rw [Mapping.isNameless_iff_empty.mpr ⟨filed, told⟩] at named
    cases named
  · rename_i clear
    exact iff_of_true rfl clear

end Profile

namespace Provenance

/-- A mapping gets back what it had, unless it is confused with those that have a lent name. -/
theorem unnamed_nameAfter {p : Profile} {source : String} {m : Mapping}
    (member : m ∈ p.mappings) :
    (collect p source).1.unnamed (nameAfter source m) = p.restored source m := by
  rw [nameAfter_eq, Profile.restored]
  by_cases nameless : m.isNameless = true
  · obtain ⟨filed, told⟩ := Mapping.isNameless_iff_empty.mp nameless
    have lent := isSome_get?_collect.mpr ⟨@rfl _ source, m, member, nameless⟩
    have own : ¬p.Confuses source m := fun h => by simp [h.1] at nameless
    have taken : (collect p source).1.isNamedAfterSource { m with file := source } = true := by
      rw [isNamedAfterSource, lent, told]
      rfl
    rw [if_neg own, if_pos nameless, unnamed, if_pos taken, ← filed]
  · have taken : (collect p source).1.isNamedAfterSource m = true ↔ p.Confuses source m := by
      rw [isNamedAfterSource, Bool.and_eq_true, String.isEmpty_iff, isSome_get?_collect,
        Profile.Confuses, eq_comm (a := source)]
      exact ⟨fun h => ⟨by simpa using nameless, h⟩, fun h => h.2⟩
    rw [if_neg nameless, unnamed]
    exact if_congr taken rfl rfl

theorem unsource_collect (p : Profile) (source : String) :
    (collect p source).1.unsource (collect p source).2 =
      { p with mappings := p.mappings.map (p.restored source) } := by
  have mappings : (p.mappings.map (nameAfter source)).map (collect p source).1.unnamed =
      p.mappings.map (p.restored source) := by
    rw [List.map_map]
    exact List.map_congr_left fun m => unnamed_nameAfter
  rw [unsource_eq, ← mappings]
  rfl

/-- Names that were lent can be taken off without loss just if no mapping is confused with those
that have one. In the meantime every mapping has one origin, in the order of the mappings, and no
other is kept. -/
theorem unsource_collect_iff (p : Profile) (source : String) :
    (∀ key, (collect p source).1.get? key =
      if originsIn p source key = [] then none else some (originsIn p source key)) ∧
    ((collect p source).1.unsource (collect p source).2 = p ↔
      ∀ m ∈ p.mappings, ¬p.Confuses source m) := by
  refine ⟨get?_collect p source, ?_⟩
  have back : { p with mappings := p.mappings.map (p.restored source) } = p ↔
      p.mappings.map (p.restored source) = p.mappings.map id := by
    rw [List.map_id]
    exact ⟨congrArg Profile.mappings, fun same => by rw [same]⟩
  rw [unsource_collect, back, List.map_inj_left]
  exact forall₂_congr fun _ _ => Profile.restored_eq_iff

def addressed : Profile where
  sampleTypes := [⟨"cpu", "ns"⟩]
  mappings := [{ id := 1, start := 0x1000, limit := 0x3000 },
    { id := 2, start := 0x8000, limit := 0xa000, file := "http://a/debug/pprof/heap" }]

/-- The second mapping loses its file. -/
theorem unsource_forgets_file :
    addressed.checkValid = .ok () ∧
      let (sources, named) := collect addressed "http://a/debug/pprof/heap"
      sources.unsource named ≠ addressed ∧
        (sources.unsource named).mappings.map (·.file) = ["", ""] ∧
        addressed.mappings.map (·.file) = ["", "http://a/debug/pprof/heap"] := by
  decide +kernel

end Provenance

end Profiling
