import OrgFederation.Proofs.Text.Bytes

namespace OrgFederation.Text.Utf8

section Leading

/-- What a continuation byte carries. -/
theorem continuation_eq_some_iff {byte : UInt8} {bits : Nat} :
    continuation? byte = some bits ↔ bits < 64 ∧ byte = UInt8.ofNat (bits + 128) := by
  constructor
  · intro read
    rw [continuation?] at read
    split at read
    · next marked =>
        simp only [Bool.and_eq_true, decide_eq_true_eq, UInt8.le_iff_toNat_le,
          UInt8.reduceToNat] at marked
        have carried : byte.toNat - 0x80 = bits := Option.some.inj read
        refine ⟨by omega, ?_⟩
        rw [show bits + 128 = byte.toNat by omega, UInt8.ofNat_toNat]
    · cases read
  · rintro ⟨small, rfl⟩
    exact continuation_byte small

theorem toNat_scalar {code : Nat} (valid : code.isValidChar) : (Char.ofNat code).toNat = code := by
  rw [Char.ofNat, dif_pos valid]
  rfl

/-- A scalar has its code point, in the shortest form. -/
theorem of_scalar {least code : Nat} {letter : Char} (read : scalar? least code = some letter) :
    letter.toNat = code ∧ least ≤ code := by
  rw [scalar?] at read
  split at read
  · next valid =>
      simp only [Bool.and_eq_true, Bool.or_eq_true, decide_eq_true_eq] at valid
      obtain rfl := Option.some.inj read
      exact ⟨toNat_scalar valid.2, valid.1⟩
  · cases read

variable {letter : Char} {high upper middle low : Nat}

theorem encodeChar_two (code : letter.toNat = high * 64 + low) (shortest : 0x80 ≤ letter.toNat)
    (first : high < 32) (second : low < 64) :
    String.utf8EncodeChar letter = [UInt8.ofNat (high + 192), UInt8.ofNat (low + 128)] := by
  have value : letter.val.toNat = letter.toNat := rfl
  unfold String.utf8EncodeChar
  rw [value]
  dsimp only
  rw [if_neg (by omega), if_pos (by omega), show letter.toNat / 64 % 32 = high by omega,
    show letter.toNat % 64 = low by omega]

theorem encodeChar_three (code : letter.toNat = high * 4096 + middle * 64 + low)
    (shortest : 0x800 ≤ letter.toNat) (first : high < 16) (second : middle < 64)
    (third : low < 64) :
    String.utf8EncodeChar letter =
      [UInt8.ofNat (high + 224), UInt8.ofNat (middle + 128), UInt8.ofNat (low + 128)] := by
  have value : letter.val.toNat = letter.toNat := rfl
  unfold String.utf8EncodeChar
  rw [value]
  dsimp only
  rw [if_neg (by omega), if_neg (by omega), if_pos (by omega),
    show letter.toNat / 4096 % 16 = high by omega, show letter.toNat / 64 % 64 = middle by omega,
    show letter.toNat % 64 = low by omega]

theorem encodeChar_four (code : letter.toNat = high * 262144 + upper * 4096 + middle * 64 + low)
    (shortest : 0x10000 ≤ letter.toNat) (first : high < 8) (second : upper < 64)
    (third : middle < 64) (fourth : low < 64) :
    String.utf8EncodeChar letter =
      [UInt8.ofNat (high + 240), UInt8.ofNat (upper + 128), UInt8.ofNat (middle + 128),
        UInt8.ofNat (low + 128)] := by
  have value : letter.val.toNat = letter.toNat := rfl
  unfold String.utf8EncodeChar
  rw [value]
  dsimp only
  rw [if_neg (by omega), if_neg (by omega), if_neg (by omega),
    show letter.toNat / 262144 % 8 = high by omega, show letter.toNat / 4096 % 64 = upper by omega,
    show letter.toNat / 64 % 64 = middle by omega, show letter.toNat % 64 = low by omega]

/-- A byte between two marks carries what it has above the lower one. -/
theorem exists_carried {byte : UInt8} {mark next : Nat} (above : mark ≤ byte.toNat)
    (below : byte.toNat < next) :
    ∃ carried, byte.toNat - mark = carried ∧ carried < next - mark ∧
      byte = UInt8.ofNat (carried + mark) := by
  refine ⟨byte.toNat - mark, rfl, by omega, ?_⟩
  rw [Nat.sub_add_cancel above, UInt8.ofNat_toNat]

/-- Some bytes start with those of a character, which are `more` after the first. -/
def Leads (letter : Char) (more : Nat) (bytes : List UInt8) : Prop :=
  String.utf8EncodeChar letter <+: bytes ∧ (String.utf8EncodeChar letter).length = more + 1

variable {first second third fourth : UInt8} {behind : List UInt8} {more : Nat}

theorem leads_one (marked : first.toNat < 0x80) :
    Leads (Char.ofNat first.toNat) 0 (first :: behind) := by
  have code : (Char.ofNat first.toNat).toNat = first.toNat :=
    toNat_scalar (.inl (Nat.lt_trans marked (by decide)))
  rw [Leads, encodeChar_ascii (by rwa [code]), code, UInt8.ofNat_toNat]
  exact ⟨⟨behind, rfl⟩, rfl⟩

theorem leads_two (marked : 0xC0 ≤ first.toNat ∧ first.toNat < 0xE0)
    (continued : continuation? second = some low)
    (read : scalar? 0x80 ((first.toNat - 0xC0) * 64 + low) = some letter) :
    Leads letter 1 (first :: second :: behind) := by
  obtain ⟨high, carried, small, rfl⟩ := exists_carried marked.1 marked.2
  obtain ⟨lowSmall, rfl⟩ := continuation_eq_some_iff.mp continued
  rw [carried] at read
  obtain ⟨code, shortest⟩ := of_scalar read
  rw [Leads, encodeChar_two code (by omega) small lowSmall]
  exact ⟨⟨behind, rfl⟩, rfl⟩

theorem leads_three (marked : 0xE0 ≤ first.toNat ∧ first.toNat < 0xF0)
    (continued : continuation? second = some middle) (further : continuation? third = some low)
    (read : scalar? 0x800 ((first.toNat - 0xE0) * 4096 + middle * 64 + low) = some letter) :
    Leads letter 2 (first :: second :: third :: behind) := by
  obtain ⟨high, carried, small, rfl⟩ := exists_carried marked.1 marked.2
  obtain ⟨middleSmall, rfl⟩ := continuation_eq_some_iff.mp continued
  obtain ⟨lowSmall, rfl⟩ := continuation_eq_some_iff.mp further
  rw [carried] at read
  obtain ⟨code, shortest⟩ := of_scalar read
  rw [Leads, encodeChar_three code (by omega) small middleSmall lowSmall]
  exact ⟨⟨behind, rfl⟩, rfl⟩

theorem leads_four (marked : 0xF0 ≤ first.toNat ∧ first.toNat < 0xF8)
    (continued : continuation? second = some upper) (further : continuation? third = some middle)
    (last : continuation? fourth = some low)
    (read : scalar? 0x10000
      ((first.toNat - 0xF0) * 262144 + upper * 4096 + middle * 64 + low) = some letter) :
    Leads letter 3 (first :: second :: third :: fourth :: behind) := by
  obtain ⟨high, carried, small, rfl⟩ := exists_carried marked.1 marked.2
  obtain ⟨upperSmall, rfl⟩ := continuation_eq_some_iff.mp continued
  obtain ⟨middleSmall, rfl⟩ := continuation_eq_some_iff.mp further
  obtain ⟨lowSmall, rfl⟩ := continuation_eq_some_iff.mp last
  rw [carried] at read
  obtain ⟨code, shortest⟩ := of_scalar read
  rw [Leads, encodeChar_four code (by omega) small upperSmall middleSmall lowSmall]
  exact ⟨⟨behind, rfl⟩, rfl⟩

/-- The character that leads some bytes has just its own bytes at their front. -/
theorem leads_of_leading {bytes : List UInt8} (read : leading? bytes = some (letter, more)) :
    Leads letter more bytes := by
  cases bytes with
  | nil => cases read
  | cons first rest =>
      unfold leading? at read
      simp only [Bool.and_eq_true, decide_eq_true_eq, UInt8.lt_iff_toNat_lt,
        UInt8.le_iff_toNat_le, UInt8.reduceToNat] at read
      -- The mark of the first byte tells the number of bytes.
      split at read
      · next one =>
          cases read
          exact leads_one one
      split at read
      · next two =>
          split at read
          · obtain ⟨low, continued, read⟩ := Option.bind_eq_some_iff.mp read
            obtain ⟨_, scalar, same⟩ := Option.bind_eq_some_iff.mp read
            cases same
            exact leads_two two continued scalar
          · cases read
      split at read
      · next three =>
          split at read
          · obtain ⟨middle, continued, read⟩ := Option.bind_eq_some_iff.mp read
            obtain ⟨low, further, read⟩ := Option.bind_eq_some_iff.mp read
            obtain ⟨_, scalar, same⟩ := Option.bind_eq_some_iff.mp read
            cases same
            exact leads_three three continued further scalar
          · cases read
      split at read
      · next four =>
          split at read
          · obtain ⟨upper, continued, read⟩ := Option.bind_eq_some_iff.mp read
            obtain ⟨middle, further, read⟩ := Option.bind_eq_some_iff.mp read
            obtain ⟨low, last, read⟩ := Option.bind_eq_some_iff.mp read
            obtain ⟨_, scalar, same⟩ := Option.bind_eq_some_iff.mp read
            cases same
            exact leads_four four continued further last scalar
          · cases read
      · cases read

/-- The character that leads some bytes is the one whose bytes they start with. -/
theorem leading_eq_some_iff {bytes : List UInt8} :
    leading? bytes = some (letter, more) ↔ Leads letter more bytes := by
  refine ⟨leads_of_leading, ?_⟩
  rintro ⟨⟨behind, rfl⟩, count⟩
  rw [leading_encodeChar, count]
  rfl

end Leading

section Boundary

/-- Bytes that do not start within a character. -/
def AtBoundary (bytes : List UInt8) : Prop :=
  ∀ first, bytes.head? = some first → continuation? first = none

/-- A byte outside the range of continuation bytes continues nothing. -/
theorem continuation_eq_none {value : Nat} (fits : value < 256)
    (outside : value < 0x80 ∨ 0xC0 ≤ value) : continuation? (UInt8.ofNat value) = none := by
  have byte : (UInt8.ofNat value).toNat = value := toNat_byte fits
  rw [continuation?, if_neg]
  simp only [Bool.and_eq_true, decide_eq_true_eq, UInt8.le_iff_toNat_le, byte, UInt8.reduceToNat]
  omega

/-- Of the bytes of a character the first one starts it, and all others continue it. -/
theorem encodeChar_parts {letter : Char} {first : UInt8} {others : List UInt8}
    (parts : String.utf8EncodeChar letter = first :: others) :
    continuation? first = none ∧ ∀ byte ∈ others, continuation? byte ≠ none := by
  have continued (value : Nat) : continuation? (UInt8.ofNat (value % 64 + 128)) ≠ none := by
    rw [continuation_byte (Nat.mod_lt _ (by decide))]
    exact Option.some_ne_none _
  unfold String.utf8EncodeChar at parts
  dsimp only at parts
  split at parts
  · cases parts
    exact ⟨continuation_eq_none (by omega) (.inl (by omega)), List.forall_mem_nil _⟩
  split at parts
  · cases parts
    refine ⟨continuation_eq_none (by omega) (.inr (by omega)), ?_⟩
    exact List.forall_mem_cons.mpr ⟨continued _, List.forall_mem_nil _⟩
  split at parts
  · cases parts
    refine ⟨continuation_eq_none (by omega) (.inr (by omega)), ?_⟩
    exact List.forall_mem_cons.mpr ⟨continued _, List.forall_mem_cons.mpr
      ⟨continued _, List.forall_mem_nil _⟩⟩
  · cases parts
    refine ⟨continuation_eq_none (by omega) (.inr (by omega)), ?_⟩
    exact List.forall_mem_cons.mpr ⟨continued _, List.forall_mem_cons.mpr
      ⟨continued _, List.forall_mem_cons.mpr ⟨continued _, List.forall_mem_nil _⟩⟩⟩

/-- The bytes of a text start with a character. -/
theorem atBoundary_encode (text : String) : AtBoundary (encode text) := by
  intro first begins
  rw [encode_eq_flatMap] at begins
  cases letters : text.toList with
  | nil =>
      rw [letters] at begins
      cases begins
  | cons letter rest =>
      obtain ⟨byte, others, parts⟩ := exists_cons_encodeChar letter
      rw [letters, List.flatMap_cons, parts] at begins
      cases begins
      exact (encodeChar_parts parts).1

variable {tail : List UInt8}

/-- A character does not go on in bytes that do not start within one. -/
theorem leads_append_iff (boundary : AtBoundary tail) {letter : Char} {more : Nat} {first : UInt8}
    {rest : List UInt8} :
    Leads letter more (first :: rest ++ tail) ↔ Leads letter more (first :: rest) := by
  refine and_congr_left fun _ => ⟨?_, fun starts => starts.trans (List.prefix_append _ _)⟩
  rintro ⟨behind, joined⟩
  rcases List.append_eq_append_iff.mp joined with ⟨within, split, -⟩ | ⟨beyond, split, tailed⟩
  · exact ⟨within, split.symm⟩
  · cases beyond with
    | nil => exact ⟨[], by rw [split, List.append_nil, List.append_nil]⟩
    | cons next beyond =>
        have begins : tail.head? = some next := by rw [tailed]; rfl
        refine absurd (boundary next begins) ((encodeChar_parts split).2 next ?_)
        simp

theorem leading_append (boundary : AtBoundary tail) (first : UInt8) (rest : List UInt8) :
    leading? (first :: rest ++ tail) = leading? (first :: rest) := by
  ext ⟨letter, more⟩
  rw [leading_eq_some_iff, leading_eq_some_iff, leads_append_iff boundary]

theorem symbolsAfter_append_tail (boundary : AtBoundary tail) {bytes : List UInt8} {skipped : Nat}
    (inside : skipped ≤ bytes.length) :
    symbolsAfter skipped (bytes ++ tail) = symbolsAfter skipped bytes ++ symbols tail := by
  induction bytes generalizing skipped with
  | nil =>
      obtain rfl := Nat.le_zero.mp inside
      rfl
  | cons first rest ih =>
      cases skipped with
      | succ skipped => exact ih (Nat.le_of_succ_le_succ inside)
      | zero =>
          have same := leading_append boundary first rest
          rw [List.cons_append] at same ⊢
          rw [symbolsAfter, symbolsAfter, same]
          cases leads : leading? (first :: rest) with
          | none => exact congrArg (none :: ·) (ih (Nat.zero_le _))
          | some led =>
              obtain ⟨starts, count⟩ := leading_eq_some_iff.mp leads
              have within : led.2 + 1 ≤ rest.length + 1 := count ▸ starts.length_le
              exact congrArg (some led.1 :: ·) (ih (Nat.le_of_succ_le_succ within))

/-- Bytes are read up to a boundary as if nothing followed. -/
theorem symbols_append (boundary : AtBoundary tail) (bytes : List UInt8) :
    symbols (bytes ++ tail) = symbols bytes ++ symbols tail :=
  symbolsAfter_append_tail boundary (Nat.zero_le _)

end Boundary

section Decoding

/-- Bytes without a stray one among them are those of the characters that are read. -/
theorem eq_flatMap_of_symbols {bytes : List UInt8} {letters : List Char}
    (read : symbols bytes = letters.map some) :
    bytes = letters.flatMap String.utf8EncodeChar := by
  induction letters generalizing bytes with
  | nil =>
      cases bytes with
      | nil => rfl
      | cons first rest =>
          rw [symbols, symbolsAfter] at read
          split at read <;> cases read
  | cons letter letters ih =>
      cases bytes with
      | nil => cases read
      | cons first rest =>
          rw [symbols, symbolsAfter, List.map_cons] at read
          split at read
          · next leads =>
              obtain ⟨same, others⟩ := List.cons.inj read
              cases same
              obtain ⟨⟨behind, joined⟩, count⟩ := leading_eq_some_iff.mp leads
              obtain ⟨byte, used, parts⟩ := exists_cons_encodeChar letter
              rw [parts] at joined count
              obtain ⟨rfl, rfl⟩ := List.cons.inj joined
              rw [← Nat.succ.inj count] at others
              have behindRead := (symbolsAfter_append used behind).symm.trans others
              rw [List.flatMap_cons, parts, ← ih behindRead]
              rfl
          · cases read

theorem characters_map (letters : List Char) : characters? (letters.map some) = some letters := by
  rw [characters?, List.mapM_map]
  exact (List.mapM_pure (m := Option)).trans (congrArg some (List.map_id letters))

theorem eq_map_of_characters {read : List Symbol} {letters : List Char}
    (found : characters? read = some letters) : read = letters.map some := by
  rw [characters?] at found
  induction read generalizing letters with
  | nil =>
      cases found
      rfl
  | cons symbol read ih =>
      rw [List.mapM_cons] at found
      obtain ⟨letter, here, found⟩ := Option.bind_eq_some_iff.mp found
      obtain ⟨others, there, found⟩ := Option.bind_eq_some_iff.mp found
      cases found
      cases here
      rw [ih there]
      rfl

/-- Bytes are read as a text exactly when they are the bytes of this text. -/
theorem decode_eq_some_iff {bytes : List UInt8} {text : String} :
    decode? bytes = some text ↔ bytes = encode text := by
  constructor
  · intro read
    obtain ⟨letters, found, rfl⟩ := Option.map_eq_some_iff.mp read
    rw [encode_ofList]
    exact eq_flatMap_of_symbols (eq_map_of_characters found)
  · rintro rfl
    rw [decode?, symbols_encode, characters_map, Option.map_some, String.ofList_toList]

theorem encode_append (first second : String) :
    encode (first ++ second) = encode first ++ encode second := by
  rw [encode_eq_flatMap, encode_eq_flatMap, encode_eq_flatMap, String.toList_append,
    List.flatMap_append]

theorem characters_append (first second : List Symbol) :
    characters? (first ++ second) = (characters? first).bind fun before =>
      (characters? second).bind fun behind => some (before ++ behind) :=
  List.mapM_append

/-- The bytes of texts around some bytes are read as these texts around what is read of these. -/
theorem decode_between (before behind : String) (bytes : List UInt8) :
    decode? (encode before ++ bytes ++ encode behind) =
      (decode? bytes).map fun text => before ++ text ++ behind := by
  have letters : symbols (encode before ++ bytes ++ encode behind) =
      before.toList.map some ++ symbols bytes ++ behind.toList.map some := by
    rw [symbols_append (atBoundary_encode behind), symbols_encode behind, encode_eq_flatMap before,
      symbols_flatMap_append]
  rw [decode?, decode?, letters, characters_append, characters_append, characters_map,
    characters_map]
  cases characters? (symbols bytes) with
  | none => rfl
  | some core => simp [String.ofList_append, String.append_assoc]

end Decoding

end OrgFederation.Text.Utf8
