import OrgFederation.Text.Utf8

namespace OrgFederation.Text.Utf8

section Leading

theorem toNat_byte {value : Nat} (small : value < 256) : (UInt8.ofNat value).toNat = value :=
  UInt8.toNat_ofNat_of_lt' small

/-- A byte of six bits behind its mark continues a character. -/
theorem continuation_byte {bits : Nat} (small : bits < 64) :
    continuation? (UInt8.ofNat (bits + 128)) = some bits := by
  have byte : (UInt8.ofNat (bits + 128)).toNat = bits + 128 := toNat_byte (by omega)
  have continues : (0x80 : UInt8) ≤ UInt8.ofNat (bits + 128) ∧
      UInt8.ofNat (bits + 128) ≤ (0xBF : UInt8) := by
    simp only [UInt8.le_iff_toNat_le, byte, UInt8.reduceToNat]
    omega
  simp only [continuation?, continues, decide_true, Bool.and_self, if_true, byte,
    Nat.add_sub_cancel]

/-- A character is the scalar of its code point. -/
theorem scalar_letter (letter : Char) {least : Nat} (shortest : least ≤ letter.toNat) :
    scalar? least letter.toNat = some letter := by
  have valid : letter.toNat < 0xD800 ∨ 0xDFFF < letter.toNat ∧ letter.toNat < 0x110000 :=
    letter.valid
  rw [scalar?, if_pos (by simp [shortest, valid]), Char.ofNat_toNat]

theorem leading_one {code : Nat} (small : code < 128) (rest : List UInt8) :
    leading? (UInt8.ofNat code :: rest) = some (Char.ofNat code, 0) := by
  have byte : (UInt8.ofNat code).toNat = code := toNat_byte (by omega)
  have marked : UInt8.ofNat code < 0x80 := by
    simpa only [UInt8.lt_iff_toNat_lt, byte, UInt8.reduceToNat] using small
  unfold leading?
  simp only [marked, if_true, byte]

theorem leading_two {high low : Nat} (first : high < 32) (second : low < 64)
    (rest : List UInt8) :
    leading? (UInt8.ofNat (high + 192) :: UInt8.ofNat (low + 128) :: rest) =
      (scalar? 0x80 (high * 64 + low)).map (·, 1) := by
  have byte : (UInt8.ofNat (high + 192)).toNat = high + 192 := toNat_byte (by omega)
  have marked : ¬UInt8.ofNat (high + 192) < 0x80 ∧
      0xC0 ≤ UInt8.ofNat (high + 192) ∧ UInt8.ofNat (high + 192) < 0xE0 := by
    simp only [UInt8.lt_iff_toNat_lt, UInt8.le_iff_toNat_le, byte, UInt8.reduceToNat]
    omega
  unfold leading?
  simp only [marked, decide_true, Bool.and_self, if_true, if_false, continuation_byte second,
    byte, Nat.add_sub_cancel]
  rw [Option.bind_eq_bind, Option.bind_some, Option.map_eq_bind]
  rfl

theorem leading_three {high middle low : Nat} (first : high < 16) (second : middle < 64)
    (third : low < 64) (rest : List UInt8) :
    leading? (UInt8.ofNat (high + 224) :: UInt8.ofNat (middle + 128) ::
      UInt8.ofNat (low + 128) :: rest) =
      (scalar? 0x800 (high * 4096 + middle * 64 + low)).map (·, 2) := by
  have byte : (UInt8.ofNat (high + 224)).toNat = high + 224 := toNat_byte (by omega)
  have marked : ¬UInt8.ofNat (high + 224) < 0x80 ∧ ¬UInt8.ofNat (high + 224) < 0xE0 ∧
      0xE0 ≤ UInt8.ofNat (high + 224) ∧ UInt8.ofNat (high + 224) < 0xF0 := by
    simp only [UInt8.lt_iff_toNat_lt, UInt8.le_iff_toNat_le, byte, UInt8.reduceToNat]
    omega
  unfold leading?
  simp only [marked, decide_true, decide_false, Bool.and_self, Bool.and_false,
    Bool.false_eq_true, if_true, if_false, continuation_byte second, continuation_byte third, byte,
    Nat.add_sub_cancel]
  rw [Option.bind_eq_bind, Option.bind_some, Option.bind_some, Option.map_eq_bind]
  rfl

theorem leading_four {high upper middle low : Nat} (first : high < 8) (second : upper < 64)
    (third : middle < 64) (fourth : low < 64) (rest : List UInt8) :
    leading? (UInt8.ofNat (high + 240) :: UInt8.ofNat (upper + 128) ::
      UInt8.ofNat (middle + 128) :: UInt8.ofNat (low + 128) :: rest) =
      (scalar? 0x10000 (high * 262144 + upper * 4096 + middle * 64 + low)).map (·, 3) := by
  have byte : (UInt8.ofNat (high + 240)).toNat = high + 240 := toNat_byte (by omega)
  have marked : ¬UInt8.ofNat (high + 240) < 0x80 ∧ ¬UInt8.ofNat (high + 240) < 0xE0 ∧
      ¬UInt8.ofNat (high + 240) < 0xF0 ∧
      0xF0 ≤ UInt8.ofNat (high + 240) ∧ UInt8.ofNat (high + 240) < 0xF8 := by
    simp only [UInt8.lt_iff_toNat_lt, UInt8.le_iff_toNat_le, byte, UInt8.reduceToNat]
    omega
  unfold leading?
  simp only [marked, decide_true, decide_false, Bool.and_self, Bool.and_false,
    Bool.false_eq_true, if_true, if_false, continuation_byte second, continuation_byte third,
    continuation_byte fourth, byte, Nat.add_sub_cancel]
  rw [Option.bind_eq_bind, Option.bind_some, Option.bind_some, Option.bind_some,
    Option.map_eq_bind]
  rfl

/-- The bytes of a character lead with this character. -/
theorem leading_encodeChar (letter : Char) (rest : List UInt8) :
    leading? (String.utf8EncodeChar letter ++ rest) =
      some (letter, (String.utf8EncodeChar letter).length - 1) := by
  have bound : letter.toNat < 0x110000 := by
    rcases letter.valid with low | high
    · exact Nat.lt_trans low (by decide)
    · exact high.2
  have value : letter.val.toNat = letter.toNat := rfl
  unfold String.utf8EncodeChar
  rw [value]
  dsimp only
  -- One case for each number of bytes; the bits of the bytes make up the code point again.
  split
  · rw [List.singleton_append, leading_one (by omega), Char.ofNat_toNat]
    rfl
  · split
    · have code : letter.toNat / 64 % 32 * 64 + letter.toNat % 64 = letter.toNat := by omega
      simp only [List.cons_append, List.nil_append]
      rw [leading_two (by omega) (by omega), code, scalar_letter letter (by omega)]
      rfl
    · split
      · have code : letter.toNat / 4096 % 16 * 4096 + letter.toNat / 64 % 64 * 64 +
            letter.toNat % 64 = letter.toNat := by omega
        simp only [List.cons_append, List.nil_append]
        rw [leading_three (by omega) (by omega) (by omega), code,
          scalar_letter letter (by omega)]
        rfl
      · have code : letter.toNat / 262144 % 8 * 262144 + letter.toNat / 4096 % 64 * 4096 +
            letter.toNat / 64 % 64 * 64 + letter.toNat % 64 = letter.toNat := by omega
        simp only [List.cons_append, List.nil_append]
        rw [leading_four (by omega) (by omega) (by omega) (by omega), code,
          scalar_letter letter (by omega)]
        rfl

end Leading

theorem exists_cons_encodeChar (letter : Char) :
    ∃ first more, String.utf8EncodeChar letter = first :: more := by
  unfold String.utf8EncodeChar
  dsimp only
  split
  · exact ⟨_, _, rfl⟩
  · split
    · exact ⟨_, _, rfl⟩
    · split <;> exact ⟨_, _, rfl⟩

/-- An ASCII character is one byte. -/
theorem encodeChar_ascii {letter : Char} (ascii : letter.toNat < 128) :
    String.utf8EncodeChar letter = [UInt8.ofNat letter.toNat] := by
  have value : letter.val.toNat = letter.toNat := rfl
  unfold String.utf8EncodeChar
  rw [value]
  dsimp only
  rw [if_pos (by omega)]

/-- Reading goes on behind the bytes that have been used. -/
theorem symbolsAfter_append (used rest : List UInt8) :
    symbolsAfter used.length (used ++ rest) = symbolsAfter 0 rest := by
  induction used with
  | nil => rfl
  | cons byte used ih => exact ih

/-- The bytes of characters are read as these characters, and then what follows them. -/
theorem symbols_flatMap_append (letters : List Char) (bytes : List UInt8) :
    symbols (letters.flatMap String.utf8EncodeChar ++ bytes) =
      letters.map some ++ symbols bytes := by
  induction letters with
  | nil => rfl
  | cons letter rest ih =>
      obtain ⟨first, more, encoded⟩ := exists_cons_encodeChar letter
      have leads := leading_encodeChar letter (rest.flatMap String.utf8EncodeChar ++ bytes)
      rw [encoded, List.cons_append] at leads
      rw [List.flatMap_cons, List.append_assoc, encoded, symbols, List.cons_append, symbolsAfter,
        leads]
      exact congrArg (some letter :: ·) ((symbolsAfter_append more _).trans ih)

/-- The bytes of characters are read as these characters. -/
theorem symbols_flatMap (letters : List Char) :
    symbols (letters.flatMap String.utf8EncodeChar) = letters.map some := by
  have read := symbols_flatMap_append letters []
  rwa [List.append_nil, show symbols [] = [] from rfl, List.append_nil] at read

/-- A byte array is listed from a place on behind the bytes that have been collected. -/
theorem toList_loop (bytes : ByteArray) (place : Nat) (before : List UInt8) :
    ByteArray.toList.loop bytes place before =
      before.reverse ++ bytes.data.toList.drop place := by
  induction left : bytes.size - place generalizing place before with
  | zero =>
      have outside : bytes.data.toList.length ≤ place := by
        rw [Array.length_toList]
        exact Nat.le_of_sub_eq_zero left
      rw [ByteArray.toList.loop.eq_def, if_neg (by omega), List.drop_of_length_le outside,
        List.append_nil]
  | succ left ih =>
      have inside : place < bytes.size := by omega
      have listed : place < bytes.data.toList.length := by
        rw [Array.length_toList]
        exact inside
      have same : bytes.get! place = bytes.data.toList[place] :=
        getElem!_pos bytes.data place inside
      rw [ByteArray.toList.loop.eq_def, if_pos inside, ih _ _ (by omega), List.reverse_cons,
        List.append_assoc, List.drop_eq_getElem_cons listed, same]
      rfl

/-- The bytes of a text are those of its characters. -/
theorem encode_ofList (letters : List Char) :
    encode (String.ofList letters) = letters.flatMap String.utf8EncodeChar := by
  rw [encode, String.toUTF8, String.toByteArray_ofList, ByteArray.toList, toList_loop,
    List.utf8Encode, List.data_toByteArray]
  rfl

theorem encode_eq_flatMap (text : String) :
    encode text = text.toList.flatMap String.utf8EncodeChar := by
  rw [← encode_ofList, String.ofList_toList]

/-- A text is read back from its bytes. -/
theorem symbols_encode (text : String) : symbols (encode text) = text.toList.map some := by
  rw [encode_eq_flatMap, symbols_flatMap]

end OrgFederation.Text.Utf8
