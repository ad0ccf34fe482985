import Profiling.Proofs.WireFields
import Profiling.Wire.Message

/-!
# Messages that are written and read

Every kind of message is read back from the fields that it is written as. The messages
inside a message are no longer than it, so one bound on the length is enough for all.
-/

namespace Profiling.Wire

@[simp]
theorem written_append {a b : List Field} : AllWritten (a ++ b) ↔ AllWritten a ∧ AllWritten b :=
  List.forall_mem_append

section

variable {tag : Nat} (tagged : TagOk tag)
include tagged

@[simp]
theorem written_ofNumber (n : UInt64) : AllWritten (ofNumber tag n) := by
  intro f hf
  by_cases zero : n = 0
  · simp [ofNumber, zero] at hf
  · simp only [ofNumber, zero, if_false, List.mem_singleton] at hf
    exact hf ▸ .varint tagged n

@[simp]
theorem written_ofSigned (n : Int64) : AllWritten (ofSigned tag n) :=
  written_ofNumber tagged n.toUInt64

@[simp]
theorem written_ofFlag (b : Bool) : AllWritten (ofFlag tag b) := written_ofNumber tagged _

@[simp]
theorem written_ofNumbers (ns : List UInt64) : AllWritten (ofNumbers tag ns) := by
  intro f hf
  by_cases empty : ns = []
  · simp [ofNumbers, empty] at hf
  · obtain rfl : f = ⟨tag, .bytes (ns.flatMap writeVarint)⟩ := by simpa [ofNumbers, empty] using hf
    exact .bytes tagged _

@[simp]
theorem written_ofSigneds (ns : List Int64) : AllWritten (ofSigneds tag ns) :=
  written_ofNumbers tagged _

@[simp]
theorem written_ofTexts (texts : List String) : AllWritten (ofTexts tag texts) := by
  intro f hf
  obtain ⟨t, -, rfl⟩ := List.mem_map.mp hf
  exact .bytes tagged _

@[simp]
theorem written_ofMessages (ms : List (List Field)) : AllWritten (ofMessages tag ms) := by
  intro f hf
  obtain ⟨m, -, rfl⟩ := List.mem_map.mp hf
  exact .bytes tagged _

end

/-- Messages are written as fields that can be read back as the message. -/
structure Codec (fields : α → List Field) (ofFields? : List Field → Option α) : Prop where
  written : ∀ x, AllWritten (fields x)
  reads : ∀ x, (writeFields (fields x)).length < UInt64.size → ofFields? (fields x) = some x

theorem length_le_of_mem_payloads {tag : Nat} {content : List UInt8} {fs : List Field}
    (member : .bytes content ∈ payloads tag fs) : content.length ≤ (writeFields fs).length := by
  obtain ⟨f, hf, payload⟩ := List.mem_map.mp member
  obtain ⟨t, p⟩ := f
  obtain rfl : p = .bytes content := payload
  exact length_le_of_mem (List.mem_filter.mp hf).1

/-- Messages with a tag are read back one by one. -/
theorem Codec.messages_eq {fields : α → List Field} {ofFields? : List Field → Option α}
    (c : Codec fields ofFields?) {tag : Nat} {fs : List Field} {xs : List α}
    (same : payloads tag fs = payloads tag (ofMessages tag (xs.map fields)))
    (short : (writeFields fs).length < UInt64.size) (depth : Nat) :
    messages depth tag fs = some (xs.map fields) ∧ (xs.map fields).mapM ofFields? = some xs := by
  rw [payloads_ofMessages] at same
  have brief : ∀ x ∈ xs, (writeFields (fields x)).length < UInt64.size := by
    intro x hx
    have member : .bytes (writeFields (fields x)) ∈ payloads tag fs :=
      same ▸ List.mem_map_of_mem (List.mem_map_of_mem hx)
    exact Nat.lt_of_le_of_lt (length_le_of_mem_payloads member) short
  have bytes : contents tag fs = some (xs.map fun x => writeFields (fields x)) :=
    contents_ofBytes (by rw [same, List.map_map, List.map_map]; rfl)
  clear same short
  rw [messages, bytes]
  clear bytes
  induction xs with
  | nil => exact ⟨rfl, rfl⟩
  | cons x xs ih =>
    obtain ⟨head, tail⟩ := List.forall_mem_cons.mp brief
    obtain ⟨found, read⟩ := ih tail
    simp only [Option.bind_eq_bind, Option.bind_some] at found
    simp [readFields_writeFields (c.written x) head depth, found, c.reads x head, read]

theorem Codec.parts_eq {fields : α → List Field} {ofFields? : List Field → Option α}
    (c : Codec fields ofFields?) {tag : Nat} {fs : List Field} {xs : List α}
    (same : payloads tag fs = payloads tag (ofMessages tag (xs.map fields)))
    (short : (writeFields fs).length < UInt64.size) : parts tag ofFields? fs = some xs := by
  obtain ⟨found, read⟩ := c.messages_eq same short (groupDepth - 1)
  simp [parts, found, read]

theorem ValueType.codec : Codec ValueType.fields ValueType.ofFields? := by
  constructor
  · intro t
    simp [fields, TagOk]
  · intro t short
    have kind : signed 1 t.fields = some t.kind := signed_eq (by simp [fields])
    have unit : signed 2 t.fields = some t.unit := signed_eq (by simp [fields])
    simp [ofFields?, kind, unit]

theorem Label.codec : Codec Label.fields Label.ofFields? := by
  constructor
  · intro l
    simp [fields, TagOk]
  · intro l short
    have key : signed 1 l.fields = some l.key := signed_eq (by simp [fields])
    have text : signed 2 l.fields = some l.text := signed_eq (by simp [fields])
    have num : signed 3 l.fields = some l.num := signed_eq (by simp [fields])
    have numUnit : signed 4 l.fields = some l.numUnit := signed_eq (by simp [fields])
    simp [ofFields?, key, text, num, numUnit]

theorem Sample.codec : Codec Sample.fields Sample.ofFields? := by
  constructor
  · intro s
    simp [fields, TagOk]
  · intro s short
    have same : payloads 3 s.fields = payloads 3 (ofMessages 3 (s.labels.map Label.fields)) := by
      simp [fields]
    obtain ⟨found, labels⟩ := Label.codec.messages_eq same short (groupDepth - 2)
    have stack : numbers 1 s.fields = some s.stack := numbers_eq (by simp [fields])
    have values : signeds 2 s.fields = some s.values := signeds_eq (by simp [fields])
    simp [ofFields?, found, labels, stack, values]

theorem Mapping.codec : Codec Mapping.fields Mapping.ofFields? := by
  constructor
  · intro m
    simp [fields, TagOk]
  · intro m short
    have id : number 1 m.fields = some m.id := number_eq (by simp [fields])
    have start : number 2 m.fields = some m.start := number_eq (by simp [fields])
    have limit : number 3 m.fields = some m.limit := number_eq (by simp [fields])
    have offset : number 4 m.fields = some m.offset := number_eq (by simp [fields])
    have file : signed 5 m.fields = some m.file := signed_eq (by simp [fields])
    have buildId : signed 6 m.fields = some m.buildId := signed_eq (by simp [fields])
    have functions : flag 7 m.fields = some m.hasFunctions := flag_eq (by simp [fields])
    have filenames : flag 8 m.fields = some m.hasFilenames := flag_eq (by simp [fields])
    have lineNumbers : flag 9 m.fields = some m.hasLineNumbers := flag_eq (by simp [fields])
    have inlineFrames : flag 10 m.fields = some m.hasInlineFrames := flag_eq (by simp [fields])
    simp [ofFields?, id, start, limit, offset, file, buildId, functions, filenames, lineNumbers,
      inlineFrames]

theorem Line.codec : Codec Line.fields Line.ofFields? := by
  constructor
  · intro l
    simp [fields, TagOk]
  · intro l short
    have functionId : number 1 l.fields = some l.functionId := number_eq (by simp [fields])
    have line : signed 2 l.fields = some l.line := signed_eq (by simp [fields])
    have column : signed 3 l.fields = some l.column := signed_eq (by simp [fields])
    simp [ofFields?, functionId, line, column]

theorem Location.codec : Codec Location.fields Location.ofFields? := by
  constructor
  · intro l
    simp [fields, TagOk]
  · intro l short
    have same : payloads 4 l.fields = payloads 4 (ofMessages 4 (l.lines.map Line.fields)) := by
      simp [fields]
    obtain ⟨found, lines⟩ := Line.codec.messages_eq same short (groupDepth - 2)
    have id : number 1 l.fields = some l.id := number_eq (by simp [fields])
    have mappingId : number 2 l.fields = some l.mappingId := number_eq (by simp [fields])
    have address : number 3 l.fields = some l.address := number_eq (by simp [fields])
    have isFolded : flag 5 l.fields = some l.isFolded := flag_eq (by simp [fields])
    simp [ofFields?, found, lines, id, mappingId, address, isFolded]

theorem Function.codec : Codec Function.fields Function.ofFields? := by
  constructor
  · intro f
    simp [fields, TagOk]
  · intro f short
    have id : number 1 f.fields = some f.id := number_eq (by simp [fields])
    have name : signed 2 f.fields = some f.name := signed_eq (by simp [fields])
    have systemName : signed 3 f.fields = some f.systemName := signed_eq (by simp [fields])
    have filename : signed 4 f.fields = some f.filename := signed_eq (by simp [fields])
    have startLine : signed 5 f.fields = some f.startLine := signed_eq (by simp [fields])
    simp [ofFields?, id, name, systemName, filename, startLine]

theorem Profile.codec : Codec Profile.fields Profile.ofFields? := by
  constructor
  · intro p
    simp [fields, TagOk]
  · intro p short
    have sampleTypes : parts 1 ValueType.ofFields? p.fields = some p.sampleTypes :=
      ValueType.codec.parts_eq (by simp [fields]) short
    have samples : parts 2 Sample.ofFields? p.fields = some p.samples :=
      Sample.codec.parts_eq (by simp [fields]) short
    have mappings : parts 3 Mapping.ofFields? p.fields = some p.mappings :=
      Mapping.codec.parts_eq (by simp [fields]) short
    have locations : parts 4 Location.ofFields? p.fields = some p.locations :=
      Location.codec.parts_eq (by simp [fields]) short
    have functions : parts 5 Function.ofFields? p.fields = some p.functions :=
      Function.codec.parts_eq (by simp [fields]) short
    have strings : texts 6 p.fields = some p.strings := texts_eq (by simp [fields])
    have dropFrames : signed 7 p.fields = some p.dropFrames := signed_eq (by simp [fields])
    have keepFrames : signed 8 p.fields = some p.keepFrames := signed_eq (by simp [fields])
    have timeNanos : signed 9 p.fields = some p.timeNanos := signed_eq (by simp [fields])
    have duration : signed 10 p.fields = some p.durationNanos := signed_eq (by simp [fields])
    have period : signed 12 p.fields = some p.period := signed_eq (by simp [fields])
    have comments : signeds 13 p.fields = some p.comments := signeds_eq (by simp [fields])
    have defaultType : signed 14 p.fields = some p.defaultSampleType := signed_eq (by simp [fields])
    have same : payloads 11 p.fields =
        payloads 11 (ofMessages 11 (p.periodType.toList.map ValueType.fields)) := by
      simp [fields]
    obtain ⟨found, read⟩ := ValueType.codec.messages_eq same short (groupDepth - 1)
    obtain ⟨fs, once, periodType⟩ : ∃ fs, message? (groupDepth - 1) 11 p.fields = some fs ∧
        fs.mapM ValueType.ofFields? = some p.periodType := by
      cases type : p.periodType with
      | none => exact ⟨none, by simp [message?, found, type], rfl⟩
      | some t =>
        have reads : ValueType.ofFields? t.fields = some t := by
          simpa [type, Option.bind_eq_some_iff] using read
        exact ⟨some t.fields, by simp [message?, found, type], by simp [reads]⟩
    simp [ofFields?, sampleTypes, samples, mappings, locations, functions, strings, dropFrames,
      keepFrames, timeNanos, duration, once, periodType, period, comments, defaultType]

theorem Profile.read?_write (p : Profile) (short : p.write.length < UInt64.size) :
    Profile.read? p.write = some p := by
  rw [write] at short ⊢
  rw [read?, readFields_writeFields (codec.written p) short, Option.bind_eq_bind,
    Option.bind_some]
  exact codec.reads p short

end Profiling.Wire
