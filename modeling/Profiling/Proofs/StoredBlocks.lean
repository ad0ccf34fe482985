import Profiling.Gzip.Member
import Mathlib.Data.Nat.Basic

/-!
# Compressing loses nothing

Data is written as stored blocks, which are read back one after the other. The trailer is that of
the data, so a member that was written is never rejected.
-/

namespace Profiling.Gzip

@[simp] theorem length_littleEndianBytes (count n : Nat) :
    (littleEndianBytes count n).length = count := by
  induction count generalizing n with
  | zero => rfl
  | succ count ih => rw [littleEndianBytes, List.length_cons, ih]

theorem littleEndian_bytes (count n : Nat) :
    littleEndian (littleEndianBytes count n) = n % 1 <<< (8 * count) := by
  induction count generalizing n with
  | zero => exact (Nat.mod_one n).symm
  | succ count ih =>
    have byte : (n % 256).toUInt8.toNat = n % 256 := by simp
    have more : 1 <<< (8 * (count + 1)) = 256 * 1 <<< (8 * count) := by
      rw [Nat.mul_succ, Nat.shiftLeft_add, Nat.shiftLeft_eq _ 8]
      omega
    calc littleEndian (littleEndianBytes (count + 1) n)
        = n % 256 + 256 * littleEndian (littleEndianBytes count (n / 256)) :=
          congrArg (· + _) byte
      _ = n % 1 <<< (8 * (count + 1)) := by rw [ih, more, Nat.mod_mul]

/-- A number is found where it was written. -/
theorem littleEndian_take {count n : Nat} (rest : List UInt8) :
    littleEndian ((littleEndianBytes count n ++ rest).take count) = n % 1 <<< (8 * count) := by
  rw [List.take_left' (length_littleEndianBytes count n), littleEndian_bytes]

theorem drop_littleEndianBytes (count n : Nat) (rest : List UInt8) :
    (littleEndianBytes count n ++ rest).drop count = rest :=
  List.drop_left' (length_littleEndianBytes count n)

variable {content : List UInt8}

theorem inflateStored_eq (small : content.length ≤ blockLimit) (pending : List Bool)
    (more : List UInt8) (out : Array UInt8) :
    inflateStored ⟨pending, littleEndianBytes 2 content.length ++
        (littleEndianBytes 2 (65535 - content.length) ++ (content ++ more))⟩ out =
      some (.ofBytes more, out ++ content.toArray) := by
  have limit : content.length ≤ 65535 := small
  have length : content.length % 1 <<< (8 * 2) = content.length := Nat.mod_eq_of_lt (by omega)
  have flipped : (65535 - content.length) % 1 <<< (8 * 2) = 65535 - content.length :=
    Nat.mod_eq_of_lt (by omega)
  have tail : ∀ bytes : List UInt8, bytes.drop 4 = (bytes.drop 2).drop 2 := by simp
  simp only [inflateStored, BitSource.aligned, tail, drop_littleEndianBytes, littleEndian_take,
    length, flipped]
  rw [if_neg ?_]
  · simp [BitSource.ofBytes]
  · simp
    omega

/-- The first byte of a block only says whether it is the last one. -/
theorem inflateBlocks_storedBlock (last : Bool) (small : content.length ≤ blockLimit) (fuel : Nat)
    (more : List UInt8) (out : Array UInt8) :
    inflateBlocks (fuel + 1) (.ofBytes (storedBlock last content ++ more)) out =
      if last then some (.ofBytes more, out ++ content.toArray)
      else inflateBlocks fuel (.ofBytes more) (out ++ content.toArray) := by
  have bits : BitSource.bitsOf (if last then 1 else 0) = last :: List.replicate 7 false := by
    cases last <;> rfl
  have form : ∀ bytes, inflateBlock ⟨List.replicate 7 false, bytes⟩ out =
      inflateStored ⟨List.replicate 5 false, bytes⟩ out := fun _ => rfl
  rw [inflateBlocks, storedBlock]
  simp only [BitSource.ofBytes, List.cons_append, BitSource.bit, bits, List.append_assoc, form,
    inflateStored_eq small]

/-- Blocks are read until the one that is marked as the last. -/
theorem inflateBlocks_storeWithin {blocks fuel : Nat} (enough : blocks < fuel)
    (fits : content.length ≤ (blocks + 1) * blockLimit) (more : List UInt8) (out : Array UInt8) :
    inflateBlocks fuel (.ofBytes (storeWithin blocks content ++ more)) out =
      some (.ofBytes more, out ++ content.toArray) := by
  induction blocks generalizing content fuel out with
  | zero =>
    obtain ⟨fuel, rfl⟩ := Nat.exists_eq_succ_of_ne_zero (Nat.ne_of_gt enough)
    rw [storeWithin, inflateBlocks_storedBlock true (by simpa using fits), if_pos rfl]
  | succ blocks ih =>
    obtain ⟨fuel, rfl⟩ := Nat.exists_eq_succ_of_ne_zero (Nat.ne_of_gt (Nat.zero_lt_of_lt enough))
    rw [storeWithin]
    split
    · rename_i small
      rw [inflateBlocks_storedBlock true small, if_pos rfl]
    · have first : (content.take blockLimit).length ≤ blockLimit := List.length_take_le _ _
      have rest : (content.drop blockLimit).length ≤ (blocks + 1) * blockLimit := by
        rw [List.length_drop]
        rw [Nat.succ_mul] at fits
        omega
      have whole : (content.take blockLimit).toArray ++ (content.drop blockLimit).toArray =
          content.toArray := by
        simp
      rw [List.append_assoc, inflateBlocks_storedBlock false first, if_neg Bool.false_ne_true,
        ih (Nat.lt_of_succ_lt_succ enough) rest, Array.append_assoc, whole]

theorem length_le_storeWithin (blocks : Nat) (content : List UInt8) :
    content.length ≤ (storeWithin blocks content).length := by
  induction blocks generalizing content with
  | zero =>
    rw [storeWithin, storedBlock]
    simp
    omega
  | succ blocks ih =>
    rw [storeWithin]
    split
    · rw [storedBlock]
      simp
      omega
    · have rest := ih (content.drop blockLimit)
      rw [storedBlock]
      simp at rest ⊢
      omega

theorem inflate_store (content rest : List UInt8) :
    inflate (store content ++ rest) = some (content, rest) := by
  have room : content.length ≤ (content.length / blockLimit + 1) * blockLimit := by
    have := Nat.lt_div_mul_add (a := content.length) (show 0 < blockLimit by decide)
    rw [Nat.succ_mul]
    omega
  have enough : content.length / blockLimit < 8 * (store content ++ rest).length + 1 := by
    have fewer := Nat.div_le_self content.length blockLimit
    have bytes := length_le_storeWithin (content.length / blockLimit) content
    rw [List.length_append, store]
    omega
  rw [store] at enough ⊢
  rw [inflate, inflateBlocks_storeWithin enough room]
  simp [BitSource.ofBytes, BitSource.aligned]

theorem dropHeader_header (rest : List UInt8) : dropHeader (header ++ rest) = .ok rest := by
  simp [dropHeader, header, magic, dropCount, dropWhen, bind, Except.bind]

/-- What is written as a member is read back from it. -/
theorem decompress_compress (content : List UInt8) :
    decompress (compress content) = .ok content := by
  have checksum : (crc32 content).toNat % 1 <<< (8 * 4) = (crc32 content).toNat :=
    Nat.mod_eq_of_lt (crc32 content).toNat_lt
  have trailer : ∀ n m : Nat, ((littleEndianBytes 4 n ++ littleEndianBytes 4 m).drop 4).take 4 =
      littleEndianBytes 4 m := by
    intro n m
    rw [drop_littleEndianBytes, List.take_of_length_le (by simp)]
  rw [decompress, compress, List.append_assoc, List.append_assoc, dropHeader_header]
  simp only [bind, Except.bind, inflate_store, dropCount, trailer, littleEndian_take,
    littleEndian_bytes, checksum]
  simp

end Profiling.Gzip
