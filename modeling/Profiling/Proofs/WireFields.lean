import Mathlib.Data.List.Basic
import Profiling.Wire.Field

/-!
# Fields that are written and read

What is read back of a written message: numbers of any size, keys, fields, and what
the fields of one tag hold. A byte string is read back if its length is a word.
-/

namespace Profiling.Wire

/-- What a number of `bytes + 1` bytes is below. -/
def varintLimit : Nat → Nat
  | 0 => 2
  | bytes + 1 => 128 * varintLimit bytes

theorem readVarintWithin_varintBytes {bytes n : Nat} (small : n < varintLimit bytes)
    (rest : List UInt8) :
    readVarintWithin (bytes + 1) (varintBytes bytes n ++ rest) = some (n, rest) := by
  induction bytes generalizing n with
  | zero =>
    simp only [varintLimit] at small
    have low : n.toUInt8 < 128 := by
      rw [UInt8.lt_iff_toNat_lt]
      simp
      omega
    have last : ¬(2 : UInt8) ≤ n.toUInt8 := by
      rw [UInt8.le_iff_toNat_le]
      simp
      omega
    simp [varintBytes, readVarintWithin, low, last]
    omega
  | succ bytes ih =>
    simp only [varintLimit] at small
    by_cases short : n < 128
    · have low : n.toUInt8 < 128 := by
        rw [UInt8.lt_iff_toNat_lt]
        simp
        omega
      simp [varintBytes, readVarintWithin, short, low]
      omega
    · have byte : (n % 128 + 128).toUInt8.toNat = n % 128 + 128 := by
        simp
        omega
      have high : ¬(n % 128 + 128).toUInt8 < 128 := by
        rw [UInt8.lt_iff_toNat_lt, byte]
        simp
      have parts : n % 128 + 128 - 128 + 128 * (n / 128) = n := by omega
      have more : n / 128 < varintLimit bytes := by omega
      simp only [varintBytes, short, if_false, List.cons_append, readVarintWithin, high, ih more,
        Option.map_some, byte, parts]

theorem readVarint_writeVarint (n : UInt64) (rest : List UInt8) :
    readVarint (writeVarint n ++ rest) = some (n, rest) := by
  have small : n.toNat < varintLimit 9 := n.toNat_lt_size
  simp [readVarint, writeVarint, readVarintWithin_varintBytes small]

theorem writeVarint_ne_nil (n : UInt64) : writeVarint n ≠ [] := by
  simp only [writeVarint, varintBytes]
  split <;> simp

abbrev TagOk (tag : Nat) : Prop := 0 < tag ∧ tag < 536870912

theorem readKey_writeKey {tag code : Nat} {form : Form} (tagged : TagOk tag)
    (formed : Form.ofCode code = some form) (rest : List UInt8) :
    readKey (writeKey tag code ++ rest) = some (tag, form, rest) := by
  obtain ⟨positive, small⟩ := tagged
  have low : code < 8 := by
    by_contra high
    rw [Form.ofCode] at formed
    all_goals first | omega | cases formed
  have key : (8 * tag + code).toUInt64.toNat = 8 * tag + code := by
    simp
    omega
  have code_back : (8 * tag + code) % 8 = code := by omega
  have tag_back : (8 * tag + code) / 8 = tag := by omega
  have bound : ¬8 * tag + code ≥ 1 <<< 32 := by
    simp
    omega
  simp only [readKey, writeKey, readVarint_writeVarint, Option.bind_eq_bind, Option.bind_some, key,
    bound, if_false, code_back, formed, tag_back, Nat.pos_iff_ne_zero.mp positive]

theorem readCounted_writeCounted {content : List UInt8} (short : content.length < UInt64.size)
    (rest : List UInt8) : readCounted (writeCounted content ++ rest) = some (content, rest) := by
  have count : content.length.toUInt64.toNat = content.length := by
    simp only [UInt64.size] at short
    simp
    omega
  simp [readCounted, writeCounted, readVarint_writeVarint, count, takeBytes]

/-- Fields of the two forms that are ever written. -/
inductive Field.Written : Field → Prop
  | varint {tag : Nat} (tagged : TagOk tag) (n : UInt64) : Written ⟨tag, .varint n⟩
  | bytes {tag : Nat} (tagged : TagOk tag) (content : List UInt8) : Written ⟨tag, .bytes content⟩

def AllWritten (fs : List Field) : Prop := ∀ f ∈ fs, f.Written

/-- A field has a key and a payload, of a byte or more each. -/
theorem Field.Written.two_le_length {f : Field} (h : f.Written) : 2 ≤ f.write.length := by
  have byte : ∀ n, 0 < (writeVarint n).length :=
    fun n => List.length_pos_iff.mpr (writeVarint_ne_nil n)
  cases h with
  | @varint tag tagged n =>
    have key := byte (8 * tag + 0).toUInt64
    have payload := byte n
    simp only [Field.write, writeKey, List.length_append]
    omega
  | @bytes tag tagged content =>
    have key := byte (8 * tag + 2).toUInt64
    have count := byte content.length.toUInt64
    simp only [Field.write, writeKey, writeCounted, List.length_append]
    omega

theorem length_le_of_mem {tag : Nat} {content : List UInt8} {fs : List Field}
    (member : (⟨tag, .bytes content⟩ : Field) ∈ fs) : content.length ≤ (writeFields fs).length := by
  induction fs with
  | nil => cases member
  | cons f fs ih =>
    rw [writeFields, List.flatMap_cons, List.length_append]
    rcases List.mem_cons.mp member with rfl | rest
    · simp only [Field.write, writeCounted, List.length_append]
      omega
    · exact Nat.le_trans (ih rest) (Nat.le_add_left _ _)

theorem readFieldsWithin_succ {depth count tag : Nat} {form : Form} {payload : Payload}
    {input rest rest' : List UInt8} {fs : List Field} (key : readKey input = some (tag, form, rest))
    (value : readPayload depth tag form rest = some (payload, rest'))
    (others : readFieldsWithin depth count rest' = some fs) (some_input : input ≠ []) :
    readFieldsWithin depth (count + 1) input = some (⟨tag, payload⟩ :: fs) := by
  rw [readFieldsWithin]
  · simp [key, value, others]
  · exact some_input

theorem readFieldsWithin_writeFields {depth : Nat} {fs : List Field}
    (written : AllWritten fs) (short : (writeFields fs).length < UInt64.size) {count : Nat}
    (enough : fs.length ≤ count) : readFieldsWithin depth count (writeFields fs) = some fs := by
  induction fs generalizing count with
  | nil => simp [writeFields, readFieldsWithin]
  | cons f fs ih =>
    obtain ⟨head, tail⟩ := List.forall_mem_cons.mp written
    obtain ⟨count, rfl⟩ : ∃ n, count = n + 1 := ⟨count - 1, by simp at enough; omega⟩
    have split : writeFields (f :: fs) = f.write ++ writeFields fs := rfl
    have rest := ih tail (by rw [split, List.length_append] at short; omega)
      (Nat.le_of_succ_le_succ enough)
    have some_input : writeFields (f :: fs) ≠ [] := by
      have := head.two_le_length
      rw [← List.length_pos_iff, split, List.length_append]
      omega
    cases head with
    | @varint tag tagged n =>
      have key : readKey (writeFields (⟨tag, .varint n⟩ :: fs)) =
          some (tag, .varint, writeVarint n ++ writeFields fs) := by
        rw [split, Field.write, List.append_assoc]
        exact readKey_writeKey tagged rfl _
      refine readFieldsWithin_succ key ?_ rest some_input
      simp [readPayload, readVarint_writeVarint]
    | @bytes tag tagged content =>
      have fits : content.length < UInt64.size :=
        Nat.lt_of_le_of_lt (length_le_of_mem List.mem_cons_self) short
      have key : readKey (writeFields (⟨tag, .bytes content⟩ :: fs)) =
          some (tag, .bytes, writeCounted content ++ writeFields fs) := by
        rw [split, Field.write, List.append_assoc]
        exact readKey_writeKey tagged rfl _
      refine readFieldsWithin_succ key ?_ rest some_input
      simp [readPayload, readCounted_writeCounted fits]

theorem two_mul_length_le {fs : List Field} (written : AllWritten fs) :
    2 * fs.length ≤ (writeFields fs).length := by
  induction fs with
  | nil => exact Nat.le_refl 0
  | cons f fs ih =>
    obtain ⟨head, tail⟩ := List.forall_mem_cons.mp written
    have first := head.two_le_length
    have rest := ih tail
    simp only [writeFields, List.flatMap_cons, List.length_append, List.length_cons] at rest ⊢
    omega

theorem readFields_writeFields {fs : List Field} (written : AllWritten fs)
    (short : (writeFields fs).length < UInt64.size) (depth : Nat) :
    readFields depth (writeFields fs) = some fs :=
  readFieldsWithin_writeFields written short (by have := two_mul_length_le written; omega)

@[simp]
theorem payloads_append (tag : Nat) (a b : List Field) :
    payloads tag (a ++ b) = payloads tag a ++ payloads tag b := by
  simp [payloads]

theorem payloads_eq_nil {tag : Nat} {fs : List Field} (other : ∀ f ∈ fs, f.tag ≠ tag) :
    payloads tag fs = [] := by
  rw [payloads, List.filter_eq_nil_iff.mpr (by simpa using other)]
  rfl

section Other

variable {t tag : Nat} (other : t ≠ tag)
include other

@[simp]
theorem payloads_ofNumber_of_ne (n : UInt64) : payloads tag (ofNumber t n) = [] := by
  refine payloads_eq_nil fun f hf => ?_
  by_cases zero : n = 0
  · simp [ofNumber, zero] at hf
  · simp only [ofNumber, zero, if_false, List.mem_singleton] at hf
    exact hf ▸ other

@[simp]
theorem payloads_ofSigned_of_ne (n : Int64) : payloads tag (ofSigned t n) = [] :=
  payloads_ofNumber_of_ne other n.toUInt64

@[simp]
theorem payloads_ofFlag_of_ne (b : Bool) : payloads tag (ofFlag t b) = [] :=
  payloads_ofNumber_of_ne other _

@[simp]
theorem payloads_ofNumbers_of_ne (ns : List UInt64) : payloads tag (ofNumbers t ns) = [] := by
  cases ns <;> simp [payloads, ofNumbers, other]

@[simp]
theorem payloads_ofSigneds_of_ne (ns : List Int64) : payloads tag (ofSigneds t ns) = [] :=
  payloads_ofNumbers_of_ne other _

@[simp]
theorem payloads_ofTexts_of_ne (texts : List String) : payloads tag (ofTexts t texts) = [] :=
  payloads_eq_nil (by simpa [ofTexts] using fun _ _ => other)

@[simp]
theorem payloads_ofMessages_of_ne (ms : List (List Field)) : payloads tag (ofMessages t ms) = [] :=
  payloads_eq_nil (by simpa [ofMessages] using fun _ _ => other)

end Other

section Same

variable {tag : Nat} {fs : List Field}

theorem payloads_ofNumber (tag : Nat) (n : UInt64) :
    payloads tag (ofNumber tag n) = if n = 0 then [] else [.varint n] := by
  by_cases zero : n = 0 <;> simp [payloads, ofNumber, zero]

theorem payloads_ofNumbers (tag : Nat) (ns : List UInt64) : payloads tag (ofNumbers tag ns) =
    if ns = [] then [] else [.bytes (ns.flatMap writeVarint)] := by
  cases ns <;> simp [payloads, ofNumbers]

theorem payloads_ofTexts (tag : Nat) (texts : List String) :
    payloads tag (ofTexts tag texts) = texts.map fun t => .bytes t.toUTF8.toList := by
  simp [payloads, ofTexts, List.filter_eq_self.mpr]

theorem payloads_ofMessages (tag : Nat) (ms : List (List Field)) :
    payloads tag (ofMessages tag ms) = ms.map fun fs => .bytes (writeFields fs) := by
  simp [payloads, ofMessages, List.filter_eq_self.mpr]

theorem number_eq {n : UInt64} (same : payloads tag fs = payloads tag (ofNumber tag n)) :
    number tag fs = some n := by
  rw [number, same, payloads_ofNumber]
  by_cases zero : n = 0 <;> simp [zero, Payload.varint?]

theorem signed_eq {n : Int64} (same : payloads tag fs = payloads tag (ofSigned tag n)) :
    signed tag fs = some n := by
  simp [signed, number_eq same]

theorem flag_eq {b : Bool} (same : payloads tag fs = payloads tag (ofFlag tag b)) :
    flag tag fs = some b := by
  cases b <;> simp [flag, number_eq same]

theorem readVarintsWithin_writeVarint {ns : List UInt64} {count : Nat} (enough : ns.length ≤ count) :
    readVarintsWithin count (ns.flatMap writeVarint) = some ns := by
  induction ns generalizing count with
  | nil => simp [readVarintsWithin]
  | cons n ns ih =>
    obtain ⟨count, rfl⟩ : ∃ k, count = k + 1 := ⟨count - 1, by simp at enough; omega⟩
    rw [List.flatMap_cons, readVarintsWithin]
    · simp [readVarint_writeVarint, ih (Nat.le_of_succ_le_succ enough)]
    · simp [writeVarint_ne_nil]

theorem length_le_flatMap_writeVarint (ns : List UInt64) :
    ns.length ≤ (ns.flatMap writeVarint).length := by
  induction ns with
  | nil => exact Nat.le_refl 0
  | cons n ns ih =>
    have := List.length_pos_iff.mpr (writeVarint_ne_nil n)
    simp only [List.flatMap_cons, List.length_append, List.length_cons]
    omega

theorem numbers_eq {ns : List UInt64} (same : payloads tag fs = payloads tag (ofNumbers tag ns)) :
    numbers tag fs = some ns := by
  rw [numbers, same, payloads_ofNumbers]
  by_cases empty : ns = []
  · simp [empty]
  · have := readVarintsWithin_writeVarint (length_le_flatMap_writeVarint ns)
    simp [empty, Payload.varints?, this, -List.length_flatMap]

theorem signeds_eq {ns : List Int64} (same : payloads tag fs = payloads tag (ofSigneds tag ns)) :
    signeds tag fs = some ns := by
  simp [signeds, numbers_eq same, Function.comp_def]

theorem contents_ofBytes {cs : List (List UInt8)} (same : payloads tag fs = cs.map .bytes) :
    contents tag fs = some cs := by
  rw [contents, same]
  clear same
  induction cs with
  | nil => rfl
  | cons c cs ih => simp [Payload.bytes?, ih]

end Same

theorem toList_loop (bytes : ByteArray) (i : Nat) (read : List UInt8) :
    ByteArray.toList.loop bytes i read = read.reverse ++ bytes.data.toList.drop i := by
  fun_induction ByteArray.toList.loop bytes i read with
  | case1 i read inside ih =>
    have inside' : i < bytes.data.toList.length := by simpa using inside
    rw [ih, List.drop_eq_getElem_cons inside']
    simp [ByteArray.get!, inside]
  | case2 i read outside =>
    have outside' : bytes.data.toList.length ≤ i := by simpa using outside
    simp [List.drop_eq_nil_of_le outside']

theorem toByteArray_toList (bytes : ByteArray) : bytes.toList.toByteArray = bytes := by
  ext1
  simp [ByteArray.toList, toList_loop]

theorem text_of_bytes (t : String) :
    String.fromUTF8? t.toUTF8.toList.toByteArray = some t := by
  have valid : t.toUTF8.IsValidUTF8 := t.isValidUTF8
  rw [toByteArray_toList, String.fromUTF8?, dif_pos valid]
  rfl

theorem texts_eq {tag : Nat} {fs : List Field} {ts : List String}
    (same : payloads tag fs = payloads tag (ofTexts tag ts)) : texts tag fs = some ts := by
  have bytes : contents tag fs = some (ts.map fun t => t.toUTF8.toList) := by
    refine contents_ofBytes ?_
    rw [same, payloads_ofTexts, List.map_map]
    rfl
  rw [texts, bytes]
  clear same bytes
  induction ts with
  | nil => rfl
  | cons t ts ih =>
    have : (ts.map fun t => t.toUTF8.toList).mapM
        (fun content => String.fromUTF8? content.toByteArray) = some ts := ih
    simp only [Option.bind_eq_bind, Option.bind_some, List.map_cons, List.mapM_cons,
      text_of_bytes, this]
    rfl

end Profiling.Wire
