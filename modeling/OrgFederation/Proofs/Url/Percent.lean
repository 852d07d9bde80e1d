import OrgFederation.Proofs.Text.Bytes
import OrgFederation.Url.Percent

namespace OrgFederation.Percent

open Text

theorem hexDigit_ascii : ∀ value < 16, (hexDigit value).toNat < 128 := by
  decide

theorem hexDigit_alphanumeric : ∀ value < 16, (hexDigit value).isAlphanum = true := by
  decide

theorem hexValue_hexDigit : ∀ value < 16,
    hexValue? (UInt8.ofNat (hexDigit value).toNat) = some value := by
  decide

/-- A byte other than the percent sign stands for itself. -/
theorem decodeBytes_plain {byte : UInt8} (other : byte ≠ 37) (rest : List UInt8) :
    decodeBytes (byte :: rest) = byte :: decodeBytes rest := by
  rw [decodeBytes.eq_3]
  rintro high low rest rfl
  exact absurd rfl other

/-- An encoded byte is decoded. -/
theorem decodeBytes_encodeByte (byte : UInt8) (rest : List UInt8) :
    decodeBytes ((encodeByte byte).flatMap String.utf8EncodeChar ++ rest) =
      byte :: decodeBytes rest := by
  have upper : byte.toNat / 16 < 16 := by
    have := byte.toNat_lt
    omega
  have lower : byte.toNat % 16 < 16 := Nat.mod_lt _ (by decide)
  have written : (encodeByte byte).flatMap String.utf8EncodeChar =
      [37, UInt8.ofNat (hexDigit (byte.toNat / 16)).toNat,
        UInt8.ofNat (hexDigit (byte.toNat % 16)).toNat] := by
    rw [encodeByte, List.flatMap_cons, List.flatMap_cons, List.flatMap_singleton,
      Utf8.encodeChar_ascii (hexDigit_ascii _ upper), Utf8.encodeChar_ascii (hexDigit_ascii _ lower)]
    rfl
  have value : UInt8.ofNat (byte.toNat / 16 * 16 + byte.toNat % 16) = byte := by
    rw [Nat.div_add_mod', UInt8.ofNat_toNat]
  rw [written, List.cons_append, List.cons_append, List.cons_append, List.nil_append, decodeBytes]
  simp only [hexValue_hexDigit _ upper, hexValue_hexDigit _ lower, value]

theorem decodeBytes_encodeBytes (bytes rest : List UInt8) :
    decodeBytes ((bytes.flatMap encodeByte).flatMap String.utf8EncodeChar ++ rest) =
      bytes ++ decodeBytes rest := by
  induction bytes with
  | nil => rfl
  | cons byte bytes ih =>
      rw [List.flatMap_cons, List.flatMap_append, List.append_assoc, decodeBytes_encodeByte, ih]
      rfl

variable {set : Set}

/-- A character is decoded to its bytes, whether it is encoded or not. -/
theorem decodeBytes_encodeLetter (percent : set '%' = true) (letter : Char) (rest : List UInt8) :
    decodeBytes ((encodeLetter set letter).flatMap String.utf8EncodeChar ++ rest) =
      String.utf8EncodeChar letter ++ decodeBytes rest := by
  rw [encodeLetter]
  split
  · rename_i kept
    rw [Bool.and_eq_true, decide_eq_true_eq, Bool.not_eq_true'] at kept
    have other : UInt8.ofNat letter.toNat ≠ 37 := by
      intro same
      have code : letter.toNat = 37 := by
        have bytes := congrArg UInt8.toNat same
        rwa [Utf8.toNat_byte (Nat.lt_trans kept.1 (by decide))] at bytes
      obtain rfl : letter = '%' := Char.toNat_inj.mp code
      exact absurd (percent.symm.trans kept.2) (by decide)
    rw [List.flatMap_singleton, Utf8.encodeChar_ascii kept.1]
    exact decodeBytes_plain other rest
  · rw [String.singleton_eq_ofList, Utf8.encode_ofList, List.flatMap_singleton,
      decodeBytes_encodeBytes]

/-- An encoded text is decoded to its bytes. -/
theorem decodeBytes_encode (percent : set '%' = true) (letters : List Char) :
    decodeBytes ((encode set letters).flatMap String.utf8EncodeChar) =
      letters.flatMap String.utf8EncodeChar := by
  induction letters with
  | nil => rfl
  | cons letter rest ih =>
      rw [encode] at ih
      rw [encode, List.flatMap_cons, List.flatMap_append, decodeBytes_encodeLetter percent, ih,
        List.flatMap_cons]

/-- A character is kept as it is, or it belongs to an encoded byte. -/
theorem mem_encodeLetter {letter found : Char} (listed : found ∈ encodeLetter set letter) :
    set found = false ∨ found = '%' ∨ found.isAlphanum = true := by
  rw [encodeLetter] at listed
  split at listed
  · rename_i kept
    rw [Bool.and_eq_true, Bool.not_eq_true'] at kept
    rw [List.mem_singleton] at listed
    exact .inl (listed ▸ kept.2)
  · obtain ⟨byte, -, listed⟩ := List.mem_flatMap.mp listed
    have upper : byte.toNat / 16 < 16 := by
      have := byte.toNat_lt
      omega
    rw [encodeByte, List.mem_cons, List.mem_cons, List.mem_singleton] at listed
    rcases listed with percent | high | low
    · exact .inr (.inl percent)
    · exact .inr (.inr (high ▸ hexDigit_alphanumeric _ upper))
    · exact .inr (.inr (low ▸ hexDigit_alphanumeric _ (Nat.mod_lt _ (by decide))))

/-- No other character of a set than those of encoded bytes is left in an encoded text. -/
theorem notMem_encode {letter : Char} (member : set letter = true) (percent : letter ≠ '%')
    (mark : letter.isAlphanum = false) (letters : List Char) :
    letter ∉ encode set letters := by
  intro listed
  obtain ⟨source, -, listed⟩ := List.mem_flatMap.mp listed
  rcases mem_encodeLetter listed with kept | same | digit
  · exact absurd (member.symm.trans kept) (by decide)
  · exact percent same
  · exact absurd (mark.symm.trans digit) (by decide)

/-- An encoded text is read back. -/
theorem decode_encode (percent : set '%' = true) (letters : List Char) :
    decode (encode set letters) = letters.map some := by
  rw [decode, Utf8.encode_ofList, decodeBytes_encode percent, Utf8.symbols_flatMap]

end OrgFederation.Percent
