import Profiling.Profile.Basic

/-!
# Where mappings come from

A provenance map lists, for every binary image, the sources in which it was seen
and where it was loaded there. Lists only grow. The map is kept sorted by key, so
maps with the same lists are equal.
-/

namespace Profiling

/-- A source in which an image was seen, and where it was loaded there. -/
structure Origin where
  source : String
  start : UInt64
deriving DecidableEq, Repr

/-- How an image is told: by its build id, by its file, or, without either, by the
source that it came from. -/
inductive ImageKey
  | buildId (id : String)
  | file (path : String)
  | source (url : String)
deriving DecidableEq, Repr

namespace ImageKey

def ofMapping (m : Mapping) (source : String) : ImageKey :=
  if !m.buildId.isEmpty then .buildId m.buildId
  else if !m.file.isEmpty then .file m.file
  else .source source

def rank : ImageKey → Nat
  | buildId _ => 0
  | file _ => 1
  | source _ => 2

def text : ImageKey → String
  | buildId id => id
  | file path => path
  | source url => url

/-- Keys are ordered by kind, then by text. -/
def before (a b : ImageKey) : Bool :=
  a.rank < b.rank || (a.rank == b.rank && a.text < b.text)

theorem before_iff {a b : ImageKey} :
    a.before b ↔ a.rank < b.rank ∨ (a.rank = b.rank ∧ a.text < b.text) := by
  simp [before]

theorem before_trans {a b c : ImageKey} (h : a.before b) (h' : b.before c) : a.before c := by
  rw [before_iff] at h h' ⊢
  rcases h with h | ⟨h, texts⟩
  · exact Or.inl (by omega)
  · rcases h' with h' | ⟨h', texts'⟩
    · exact Or.inl (by omega)
    · have texts'' : a.text < c.text := List.lt_trans texts texts'
      exact Or.inr ⟨by omega, texts''⟩

theorem not_before_self (a : ImageKey) : ¬a.before a := by
  rw [before_iff]
  rintro (h | ⟨-, h⟩)
  · omega
  · exact List.lt_irrefl a.text.toList h

theorem eq_of_rank_eq {a b : ImageKey} (ranks : a.rank = b.rank) (texts : a.text = b.text) :
    a = b := by
  cases a <;> cases b <;> simp_all [rank, text]

/-- Of two different keys one comes first. -/
theorem before_of_not_before {a b : ImageKey} (other : a ≠ b) (h : ¬a.before b) : b.before a := by
  rw [before_iff] at h ⊢
  rcases Nat.lt_trichotomy a.rank b.rank with less | same | greater
  · exact absurd (Or.inl less) h
  · refine Or.inr ⟨same.symm, Decidable.byContradiction fun texts => ?_⟩
    have texts' : ¬a.text < b.text := fun less => h (Or.inr ⟨same, less⟩)
    have equal : a.text.toList = b.text.toList :=
      List.le_antisymm (List.not_lt.mp texts) (List.not_lt.mp texts')
    exact other (eq_of_rank_eq same (String.toList_inj.mp equal))
  · exact Or.inl greater

end ImageKey

/-- Keys with their lists of origins, in the order of the keys. -/
structure Provenance where
  entries : List (ImageKey × List Origin)
  sorted : entries.Pairwise fun a b => a.1.before b.1
deriving DecidableEq, Repr

namespace Provenance

def empty : Provenance := ⟨[], .nil⟩

instance : EmptyCollection Provenance := ⟨empty⟩

def get? (p : Provenance) (key : ImageKey) : Option (List Origin) := p.entries.lookup key

def originsOf (p : Provenance) (key : ImageKey) : List Origin := (p.get? key).getD []

def size (p : Provenance) : Nat := p.entries.length

def isEmpty (p : Provenance) : Bool := p.entries.isEmpty

/-- Adds origins to the end of a key's list, with the key in its place. -/
def appendTo (key : ImageKey) (origins : List Origin) :
    List (ImageKey × List Origin) → List (ImageKey × List Origin)
  | [] => [(key, origins)]
  | (k, found) :: rest =>
    if k = key then (k, found ++ origins) :: rest
    else if key.before k then (key, origins) :: (k, found) :: rest
    else (k, found) :: appendTo key origins rest

theorem mem_appendTo {key : ImageKey} {origins : List Origin} {e : ImageKey × List Origin} :
    ∀ {entries}, e ∈ appendTo key origins entries → e.1 = key ∨ ∃ f ∈ entries, f.1 = e.1
  | [], h => Or.inl (by simp_all [appendTo])
  | f :: rest, h => by
    rw [appendTo] at h
    split at h
    · rcases List.mem_cons.mp h with rfl | h
      · exact Or.inr ⟨f, List.mem_cons_self, rfl⟩
      · exact Or.inr ⟨e, List.mem_cons_of_mem _ h, rfl⟩
    · split at h
      · rcases List.mem_cons.mp h with rfl | h
        · exact Or.inl rfl
        · exact Or.inr ⟨e, h, rfl⟩
      · rcases List.mem_cons.mp h with rfl | h
        · exact Or.inr ⟨f, List.mem_cons_self, rfl⟩
        · refine (mem_appendTo h).imp_right ?_
          rintro ⟨g, hg, same⟩
          exact ⟨g, List.mem_cons_of_mem _ hg, same⟩

theorem sorted_appendTo {key : ImageKey} {origins : List Origin} :
    ∀ {entries : List (ImageKey × List Origin)}, (entries.Pairwise fun a b => a.1.before b.1) →
      (appendTo key origins entries).Pairwise fun a b => a.1.before b.1
  | [], _ => by simp [appendTo]
  | (k, found) :: rest, h => by
    obtain ⟨first, others⟩ := List.pairwise_cons.mp h
    rw [appendTo]
    split
    · exact List.pairwise_cons.mpr ⟨first, others⟩
    · rename_i other
      split
      · rename_i before
        refine List.pairwise_cons.mpr ⟨fun e he => ?_, h⟩
        rcases List.mem_cons.mp he with rfl | he
        · exact before
        · exact ImageKey.before_trans before (first e he)
      · rename_i after
        refine List.pairwise_cons.mpr ⟨fun e he => ?_, sorted_appendTo others⟩
        rcases mem_appendTo he with same | ⟨f, hf, same⟩
        · exact same ▸ ImageKey.before_of_not_before (Ne.symm other) after
        · exact same ▸ first f hf

/-- Adds origins to the end of a key's list. -/
def add (p : Provenance) (key : ImageKey) (origins : List Origin) : Provenance :=
  ⟨appendTo key origins p.entries, sorted_appendTo p.sorted⟩

def push (p : Provenance) (key : ImageKey) (origin : Origin) : Provenance := p.add key [origin]

/-- Adds all lists of another map after those of this one. -/
def append (p q : Provenance) : Provenance :=
  q.entries.foldl (fun map (key, origins) => map.add key origins) p

/-- The mapping under the name of its source when it has no name of its own. -/
def nameAfter (source : String) (m : Mapping) : Mapping :=
  match ImageKey.ofMapping m source with
  | .source url => { m with file := url }
  | _ => m

/-- Records a source for every mapping of a profile. Mappings without a name take
that of the source, which keeps those of different sources apart. -/
def collect (p : Profile) (source : String) : Provenance × Profile :=
  let record (map : Provenance) (m : Mapping) : Provenance :=
    map.push (.ofMapping m source) ⟨source, m.start⟩
  (p.mappings.foldl record .empty, { p with mappings := p.mappings.map (nameAfter source) })

def isNamedAfterSource (p : Provenance) (m : Mapping) : Bool :=
  m.buildId.isEmpty && (p.get? (.source m.file)).isSome

/-- Takes the names of sources off mappings again. -/
def unsource (p : Provenance) (profile : Profile) : Profile :=
  { profile with
    mappings := profile.mappings.map fun m =>
      if p.isNamedAfterSource m then { m with file := "" } else m }

/-- Origins where the image was loaded at `start` come first. -/
def matchingFirst (start : UInt64) (origins : List Origin) : List Origin :=
  origins.filter (·.start = start) ++ origins.filter (·.start ≠ start)

/-- The origins of a mapping of the merged profile. -/
def sourcesFor (p : Provenance) (m : Mapping) : List Origin :=
  let found :=
    if !m.buildId.isEmpty then p.originsOf (.buildId m.buildId)
    else if m.file.isEmpty then []
    else
      match p.originsOf (.file m.file) with
      | [] => p.originsOf (.source m.file)
      | origins => origins
  matchingFirst m.start found

end Provenance

end Profiling
