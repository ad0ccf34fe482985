import Profiling.Profile.File
import Profiling.Proofs.Interning
import Profiling.Proofs.WireMessages

/-!
# Encoding loses nothing

A profile is read back from its encoding as it was. An encoding never looks compressed,
for the form of a field is in the low bits of its first byte.
-/

namespace Profiling

namespace Wire

theorem head_writeVarint (n : UInt64) :
    ∃ b rest, writeVarint n = b :: rest ∧ b.toNat % 8 = n.toNat % 8 := by
  by_cases short : n.toNat < 128
  · refine ⟨n.toNat.toUInt8, [], by simp [writeVarint, varintBytes, short], ?_⟩
    simp
  · refine ⟨(n.toNat % 128 + 128).toUInt8, varintBytes 8 (n.toNat / 128),
      by simp [writeVarint, varintBytes, short], ?_⟩
    simp
    omega

/-- A field starts with a key, and a key with a form. -/
theorem Field.Written.head_write {f : Field} (h : f.Written) :
    ∃ b rest, f.write = b :: rest ∧ b ≠ 0x1f := by
  have start : ∀ {tag code : Nat}, TagOk tag → code < 7 →
      ∃ b rest, writeKey tag code = b :: rest ∧ b ≠ 0x1f := by
    intro tag code tagged low
    obtain ⟨b, rest, same, form⟩ := head_writeVarint (8 * tag + code).toUInt64
    refine ⟨b, rest, same, ?_⟩
    rintro rfl
    simp at form
    omega
  cases h with
  | varint tagged n =>
    obtain ⟨b, rest, same, other⟩ := start tagged (show 0 < 7 by omega)
    exact ⟨b, rest ++ writeVarint n, by simp [write, same], other⟩
  | bytes tagged content =>
    obtain ⟨b, rest, same, other⟩ := start tagged (show 2 < 7 by omega)
    exact ⟨b, rest ++ writeCounted content, by simp [write, same], other⟩

end Wire

namespace Profile

/-- Lengths are written as words, so the encoding has to be no longer than what a word can
count. -/
theorem decode_encode {p : Profile} (fits : p.encode.length < UInt64.size) :
    decode p.encode = .ok p := by
  have written : Wire.AllWritten p.toWire.fields := Wire.Profile.codec.written p.toWire
  have texts : p.toWire.strings.length ≤ p.toWire.fields.length := by
    simp [Wire.Profile.fields, Wire.ofTexts]
    omega
  have message : Wire.Profile.read? p.encode = some p.toWire :=
    Wire.Profile.read?_write p.toWire fits
  have short : StringTable.Short p.toWire.strings := by
    have twice : 2 * p.toWire.fields.length ≤ p.encode.length := Wire.two_mul_length_le written
    simp only [StringTable.Short, UInt64.size] at fits ⊢
    omega
  rw [decode, message]
  exact p.ofWire_toWire short

/-- A profile is read back from its encoding, which is neither empty nor compressed. Lengths
are written as words, so the encoding has to be no longer than what a word can count. -/
theorem parse_encode (p : Profile) :
    p.encode ≠ [] ∧ isCompressed p.encode = false ∧
      (p.encode.length < UInt64.size → parse p.encode = .ok p) := by
  have written : Wire.AllWritten p.toWire.fields := Wire.Profile.codec.written p.toWire
  have texts : p.toWire.strings.length ≤ p.toWire.fields.length := by
    simp [Wire.Profile.fields, Wire.ofTexts]
    omega
  have some_text : 0 < p.toWire.strings.length := by
    obtain ⟨more, same⟩ := p.initial_prefix
    simp [← same, StringTable.initial]
  obtain ⟨f, fs, split⟩ : ∃ f fs, p.toWire.fields = f :: fs :=
    List.exists_cons_of_length_pos (by omega)
  obtain ⟨b, rest, head, other⟩ :=
    (written f (by rw [split]; exact List.mem_cons_self)).head_write
  have bytes : p.encode = b :: (rest ++ Wire.writeFields fs) := by
    simp [encode, Wire.Profile.write, Wire.writeFields, split, head]
  have some_byte : p.encode ≠ [] := by simp [bytes]
  have plain : isCompressed p.encode = false := by
    have differs : ((0x1f : UInt8) == b) = false := by simpa using other.symm
    simp [isCompressed, Gzip.magic, bytes, List.isPrefixOf, differs]
  refine ⟨some_byte, plain, fun fits => ?_⟩
  simp [parse, some_byte, decompressed, plain, bind, Except.bind, decode_encode fits]

def extreme : Profile where
  sampleTypes := [⟨"cpu", "ns"⟩, ⟨"", "µs"⟩]
  samples := [{ stack := [0, 18446744073709551615], values := [Int64.minValue, -1, Int64.maxValue],
                labels := [{ key := "thread", num := -1 }, {}] }]
  mappings := [{ id := 18446744073709551615, file := "/bin/sh", hasFilenames := true }, {}]
  locations := [{ mappingId := 7, lines := [⟨1, -1, 0⟩, {}], isFolded := true }]
  comments := ["", "cpu"]
  periodType := some {}
  period := Int64.minValue

theorem parse_encode_extreme : parse extreme.encode = .ok extreme :=
  (parse_encode extreme).2.2 (by decide +kernel)

end Profile

end Profiling
