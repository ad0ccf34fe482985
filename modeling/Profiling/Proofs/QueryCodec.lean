import Profiling.Proofs.WireFields
import Profiling.Url.Query

/-!
# Queries are read as they were written

A parameter is written byte by byte and read back the same: the signs that part parameters, and
names from values, are always encoded, every encoded byte is decoded, and the bytes of a text
are read as that text.
-/

namespace Profiling.Url

theorem utf8_eq (c : Char) : utf8 c = String.utf8EncodeChar c := by
  rw [utf8]
  simp [String.toUTF8, List.utf8Encode, ByteArray.toList, Wire.toList_loop]

section

variable {b count least most n : Nat} {bytes : List UInt8}

theorem continuation_cons (small : b < 256) (low : least ≤ b) (high : b ≤ most) :
    continuation (count + 1) least most n (UInt8.ofNat b :: bytes) =
      continuation count 0x80 0xbf (64 * n + b % 64) bytes := by
  have value : (UInt8.ofNat b).toNat = b := Nat.mod_eq_of_lt small
  rw [continuation, value, if_pos ⟨low, high⟩]

/-- A leading byte and those that follow it are read as one character. -/
theorem readLossy_cons {c : Char} {rest : List UInt8} (fuel : Nat) (small : b < 256)
    (leads : followers b = some (count, least, most))
    (read : continuation count least most (if count = 0 then b else b % 1 <<< (6 - count)) bytes =
      (some c, rest)) :
    readLossy (fuel + 1) (UInt8.ofNat b :: bytes) = c :: readLossy fuel rest := by
  have value : (UInt8.ofNat b).toNat = b := Nat.mod_eq_of_lt small
  rw [readLossy, value, leads]
  dsimp only
  rw [read]
  rfl

end

/-- Three bytes hold neither what fits two nor half of a surrogate pair. -/
theorem followers_three {v : Nat} (low : 0x7ff < v) (high : v ≤ 0xffff)
    (valid : v < 0xd800 ∨ 0xdfff < v) :
    ∃ least most, followers (v / 4096 % 16 + 224) = some (2, least, most) ∧
      least ≤ v / 64 % 64 + 128 ∧ v / 64 % 64 + 128 ≤ most := by
  rw [followers, if_neg (by omega), if_neg (by omega)]
  by_cases least : v < 0x1000
  · rw [if_pos (by omega)]
    exact ⟨_, _, rfl, by omega, by omega⟩
  rw [if_neg (by omega)]
  by_cases surrogate : v / 4096 = 13
  · rw [if_pos (by omega)]
    exact ⟨_, _, rfl, by omega, by omega⟩
  rw [if_neg (by omega), if_pos (by omega)]
  exact ⟨_, _, rfl, by omega, by omega⟩

/-- Four bytes hold neither what fits three nor what is beyond the last character. -/
theorem followers_four {v : Nat} (low : 0xffff < v) (high : v < 0x110000) :
    ∃ least most, followers (v / 262144 % 8 + 240) = some (3, least, most) ∧
      least ≤ v / 4096 % 64 + 128 ∧ v / 4096 % 64 + 128 ≤ most := by
  rw [followers, if_neg (by omega), if_neg (by omega), if_neg (by omega), if_neg (by omega),
    if_neg (by omega)]
  by_cases least : v < 0x40000
  · rw [if_pos (by omega)]
    exact ⟨_, _, rfl, by omega, by omega⟩
  rw [if_neg (by omega)]
  by_cases greatest : v / 262144 = 4
  · rw [if_pos (by omega)]
    exact ⟨_, _, rfl, by omega, by omega⟩
  rw [if_neg (by omega), if_pos (by omega)]
  exact ⟨_, _, rfl, by omega, by omega⟩

/-- A character is read from its bytes, whatever follows them. -/
theorem readLossy_utf8 (fuel : Nat) (c : Char) (bytes : List UInt8) :
    readLossy (fuel + 1) (utf8 c ++ bytes) = c :: readLossy fuel bytes := by
  obtain ⟨v, hv⟩ : ∃ v, v = c.toNat := ⟨_, rfl⟩
  have valid : v < 0xd800 ∨ 0xdfff < v ∧ v < 0x110000 := hv ▸ c.valid
  have whole : Char.ofNat v = c := hv ▸ Char.ofNat_toNat c
  have encoded : utf8 c = String.utf8EncodeChar c := utf8_eq c
  simp only [String.utf8EncodeChar, show c.val.toNat = v from hv.symm] at encoded
  rw [encoded]
  split
  · -- one byte
    have leads : followers v = some (0, 0, 0) := by
      rw [followers, if_pos (by omega)]
    refine readLossy_cons fuel (by omega) leads ?_
    rw [if_pos rfl, continuation, whole]
    rfl
  split
  · -- two bytes
    have leads : followers (v / 64 % 32 + 192) = some (1, 0x80, 0xbf) := by
      rw [followers, if_neg (by omega), if_pos (by omega)]
    refine readLossy_cons fuel (by omega) leads ?_
    have lead : (v / 64 % 32 + 192) % 1 <<< (6 - 1) = v / 64 := by
      change (v / 64 % 32 + 192) % 32 = _
      omega
    have value : 64 * (v / 64) + (v % 64 + 128) % 64 = v := by omega
    rw [if_neg (by decide), lead]
    change continuation 1 _ _ _ (UInt8.ofNat (v % 64 + 128) :: bytes) = _
    rw [continuation_cons (by omega) (by omega) (by omega), value, continuation, whole]
  split
  · -- three bytes
    obtain ⟨least, most, leads, low, high⟩ :=
      followers_three (v := v) (by omega) (by omega) (valid.imp_right And.left)
    refine readLossy_cons fuel (by omega) leads ?_
    have lead : (v / 4096 % 16 + 224) % 1 <<< (6 - 2) = v / 4096 := by
      change (v / 4096 % 16 + 224) % 16 = _
      omega
    have value : 64 * (64 * (v / 4096) + (v / 64 % 64 + 128) % 64) + (v % 64 + 128) % 64 = v := by
      omega
    rw [if_neg (by decide), lead]
    change continuation 2 _ _ _
      (UInt8.ofNat (v / 64 % 64 + 128) :: UInt8.ofNat (v % 64 + 128) :: bytes) = _
    rw [continuation_cons (by omega) low high, continuation_cons (by omega) (by omega) (by omega),
      value, continuation, whole]
  · -- four bytes
    obtain ⟨least, most, leads, low, high⟩ := followers_four (v := v) (by omega) (by omega)
    refine readLossy_cons fuel (by omega) leads ?_
    have lead : (v / 262144 % 8 + 240) % 1 <<< (6 - 3) = v / 262144 := by
      change (v / 262144 % 8 + 240) % 8 = _
      omega
    have value : 64 * (64 * (64 * (v / 262144) + (v / 4096 % 64 + 128) % 64) +
        (v / 64 % 64 + 128) % 64) + (v % 64 + 128) % 64 = v := by
      omega
    rw [if_neg (by decide), lead]
    change continuation 3 _ _ _ (UInt8.ofNat (v / 4096 % 64 + 128) ::
      UInt8.ofNat (v / 64 % 64 + 128) :: UInt8.ofNat (v % 64 + 128) :: bytes) = _
    rw [continuation_cons (by omega) low high, continuation_cons (by omega) (by omega) (by omega),
      continuation_cons (by omega) (by omega) (by omega), value, continuation, whole]

theorem readLossy_flatMap {cs : List Char} {fuel : Nat} (enough : cs.length ≤ fuel) :
    readLossy fuel (cs.flatMap utf8) = cs := by
  induction cs generalizing fuel with
  | nil => simp [readLossy]
  | cons c cs ih =>
    obtain ⟨fuel, rfl⟩ : ∃ m, fuel = m + 1 := ⟨fuel - 1, by simp at enough; omega⟩
    rw [List.flatMap_cons, readLossy_utf8, ih (by simpa using enough)]

/-- Text is read from its own bytes. -/
theorem lossyText_flatMap (cs : List Char) : lossyText (cs.flatMap utf8) = cs := by
  refine readLossy_flatMap ?_
  induction cs with
  | nil => exact Nat.le_refl 0
  | cons c cs ih =>
    have some_byte : 0 < (utf8 c).length := by
      rw [utf8_eq, String.length_utf8EncodeChar]
      exact Char.utf8Size_pos c
    rw [List.flatMap_cons, List.length_append, List.length_cons]
    omega

theorem read?_hexDigit {m n : Nat} (high : m < 16) (low : n < 16) :
    Digits.read? 16 256 [hexDigit m, hexDigit n] = some (16 * m + n) := by
  have digit : ∀ d < 16, Digits.value? (hexDigit d) = some d := by decide
  have range : 16 * m + n < 256 := by omega
  simp [Digits.read?, Digits.number, Digits.isDigit, digit, high, low, range]

theorem decode_encodeByte (b : UInt8) (cs : List Char) :
    decode (encodeByte b ++ cs) = b :: decode cs := by
  have bound := b.toNat_lt
  have value : 16 * (b.toNat / 16) + b.toNat % 16 = b.toNat := Nat.div_add_mod _ _
  change decode ('%' :: hexDigit (b.toNat / 16) :: hexDigit (b.toNat % 16) :: cs) = _
  rw [decode, read?_hexDigit (by omega) (by omega), value]
  simp

theorem decode_flatMap_encodeByte (bytes : List UInt8) (cs : List Char) :
    decode (bytes.flatMap encodeByte ++ cs) = bytes ++ decode cs := by
  induction bytes with
  | nil => rfl
  | cons b bytes ih =>
    rw [List.flatMap_cons, List.append_assoc, decode_encodeByte, ih]
    rfl

theorem decode_cons {c : Char} (plain : c ≠ '%') (cs : List Char) :
    decode (c :: cs) = utf8 c ++ decode cs := by
  rw [decode]
  intro a b rest same
  exact absurd same plain

theorem IsPlain.ne {c d : Char} (plain : isPlain c = true) (sign : isPlain d = false) : c ≠ d := by
  rintro rfl
  rw [plain] at sign
  cases sign

theorem isPlain_hexDigit {n : Nat} (small : n < 16) : isPlain (hexDigit n) = true := by
  have all : ∀ n < 16, isPlain (hexDigit n) = true := by decide
  exact all n small

/-- Whatever is written is plain, a blank's plus sign or the percent sign of a byte. -/
theorem plain_of_mem_encodeByte {b : UInt8} {c : Char} (member : c ∈ encodeByte b) :
    isPlain c = true ∨ c = '%' := by
  have bound := b.toNat_lt
  simp only [encodeByte, List.mem_cons, List.not_mem_nil, or_false] at member
  rcases member with rfl | rfl | rfl
  · exact Or.inr rfl
  · exact Or.inl (isPlain_hexDigit (by omega))
  · exact Or.inl (isPlain_hexDigit (by omega))

theorem plain_of_mem_encodeParameter {cs : List Char} {c : Char}
    (member : c ∈ encodeParameter cs) : isPlain c = true ∨ c = '+' ∨ c = '%' := by
  obtain ⟨d, -, member⟩ := List.mem_flatMap.mp member
  split at member
  · rename_i plain
    rw [List.mem_singleton.mp member]
    exact Or.inl plain
  split at member
  · exact Or.inr (Or.inl (List.mem_singleton.mp member))
  · obtain ⟨b, -, member⟩ := List.mem_flatMap.mp member
    exact (plain_of_mem_encodeByte member).imp_right Or.inr

/-- Signs with a meaning in queries are not written. -/
theorem not_mem_encodeParameter {cs : List Char} {sign : Char} (special : isPlain sign = false)
    (other : sign ≠ '+' ∧ sign ≠ '%') : sign ∉ encodeParameter cs := by
  intro member
  rcases plain_of_mem_encodeParameter member with plain | blank | byte
  · exact IsPlain.ne plain special rfl
  · exact other.1 blank
  · exact other.2 byte

theorem plusToBlank_of_ne {c : Char} (other : c ≠ '+') : plusToBlank c = c := if_neg other

theorem plusToBlank_encodeBytes (bytes : List UInt8) :
    (bytes.flatMap encodeByte).map plusToBlank = bytes.flatMap encodeByte := by
  refine List.map_congr_left (g := id) (fun c member => ?_) |>.trans (List.map_id _)
  obtain ⟨b, -, member⟩ := List.mem_flatMap.mp member
  refine plusToBlank_of_ne ?_
  rcases plain_of_mem_encodeByte member with plain | rfl
  · exact IsPlain.ne plain (by decide)
  · decide

theorem decodeParameter_encodeParameter (cs : List Char) :
    decodeParameter (encodeParameter cs) = cs := by
  suffices decode ((encodeParameter cs).map plusToBlank) = cs.flatMap utf8 by
    rw [decodeParameter, this, lossyText_flatMap]
  induction cs with
  | nil => rfl
  | cons c cs ih =>
    rw [List.flatMap_cons, ← ih, encodeParameter, List.flatMap_cons, List.map_append,
      ← encodeParameter]
    split
    · rename_i plain
      rw [List.map_singleton, plusToBlank_of_ne (IsPlain.ne plain (by decide))]
      exact decode_cons (IsPlain.ne plain (by decide)) _
    split
    · rename_i blank
      rw [blank]
      exact decode_cons (by decide) _
    · rw [plusToBlank_encodeBytes, decode_flatMap_encodeByte]

theorem not_mem_writeParameter {p : Parameter} : '&' ∉ writeParameter p := by
  have key : '&' ∉ encodeParameter p.1 := not_mem_encodeParameter (by decide) (by decide)
  have value : '&' ∉ encodeParameter p.2 := not_mem_encodeParameter (by decide) (by decide)
  simp [writeParameter, key, value]

theorem splitOn_writeQuery {ps : List Parameter} (some_parameter : ps ≠ []) :
    (writeQuery ps).splitOn '&' = ps.map writeParameter := by
  induction ps with
  | nil => exact absurd rfl some_parameter
  | cons p ps ih =>
    cases ps with
    | nil => exact List.splitOn_eq_singleton not_mem_writeParameter
    | cons q ps =>
      rw [writeQuery, List.splitOn_append_cons_self_of_not_mem not_mem_writeParameter,
        ih (List.cons_ne_nil q ps)]
      · rfl
      · exact List.cons_ne_nil q ps

/-- A parameter is parted at its first equals sign, which the name does not hold. -/
theorem read_writeParameter (p : Parameter) :
    (decodeParameter ((writeParameter p).takeWhile (· ≠ '=')),
      decodeParameter (((writeParameter p).dropWhile (· ≠ '=')).drop 1)) = p := by
  have name : ∀ c ∈ encodeParameter p.1, decide (c ≠ '=') = true := by
    intro c member
    refine decide_eq_true ?_
    rintro rfl
    exact not_mem_encodeParameter (by decide) (by decide) member
  rw [writeParameter, List.takeWhile_append_of_pos name, List.dropWhile_append_of_pos name]
  simp [decodeParameter_encodeParameter]

/-- Any parameters are read from the query that they are written to. -/
theorem readQuery_writeQuery (ps : List Parameter) : readQuery (writeQuery ps) = ps := by
  by_cases none : ps = []
  · rw [none]
    rfl
  · have filled : ∀ part ∈ ps.map writeParameter, decide (part ≠ []) = true := by
      rw [List.forall_mem_map]
      intro p _
      simp [writeParameter]
    rw [readQuery, splitOn_writeQuery none, List.filter_eq_self.mpr filled, List.map_map]
    exact (List.map_congr_left fun p _ => read_writeParameter p).trans (List.map_id ps)

end Profiling.Url
