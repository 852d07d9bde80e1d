import OrgFederation.Json.Writer
import OrgFederation.Proofs.Json.RoundTrip
import OrgFederation.Proofs.Number.Integer

namespace OrgFederation

namespace Json

open Text (Symbol)

namespace Reader

/-- Behind a value there is nothing, or a comma or a bracket that closes. -/
def Closes (rest : List Symbol) : Prop :=
  ∀ symbol ∈ rest.head?, symbol = some ',' ∨ symbol = some ']' ∨ symbol = some '}'

theorem Closes.digit {rest : List Symbol} (closes : Closes rest) :
    ∀ symbol ∈ rest.head?, digit? symbol = none := by
  intro symbol first
  rcases closes symbol first with rfl | rfl | rfl <;> rfl

/-- Digits are read up to a symbol that is none. -/
theorem digits_append {letters : List Char} {rest : List Symbol}
    (all : ∀ letter ∈ letters, letter.isDigit)
    (ends : ∀ symbol ∈ rest.head?, digit? symbol = none) :
    digits (letters.map some ++ rest) = (letters.map fun letter => letter.toNat - 48, rest) := by
  induction letters with
  | nil =>
      cases rest with
      | nil => rfl
      | cons symbol rest =>
          have stops : digit? symbol = none := ends symbol rfl
          simp [digits, stops]
  | cons letter others ih =>
      obtain ⟨here, further⟩ := List.forall_mem_cons.mp all
      have read : digit? (some letter) = some (letter.toNat - 48) := by simp [digit?, here]
      simp only [List.map_cons, List.cons_append, digits, read, ih further]

theorem isDigit_of_mem_toDigits {number : Nat} {letter : Char}
    (member : letter ∈ Nat.toDigits 10 number) : letter.isDigit :=
  Nat.isDigit_of_mem_toDigits (by decide) (by decide) member

/-- A number is read as a whole part up to its last digit. -/
theorem wholePart_toDigits (number : Nat) {rest : List Symbol} (closes : Closes rest) :
    wholePart ((Nat.toDigits 10 number).map some ++ rest) =
      .ok (Literal.digitsOf number, rest) := by
  have read :
      digits ((Nat.toDigits 10 number).map some ++ rest) = (Literal.digitsOf number, rest) :=
    digits_append (fun _ => isDigit_of_mem_toDigits) closes.digit
  by_cases zero : number = 0
  · subst zero
    rw [wholePart, someDigits, read]
    rfl
  · obtain ⟨digit, others, first, nonzero⟩ :=
      Literal.exists_cons_digitsOf (Nat.pos_of_ne_zero zero)
    have leads : ((digit :: others).length = 1 || (digit :: others).head? != some 0) = true := by
      simp [nonzero]
    rw [wholePart, someDigits, read, first]
    exact if_pos leads

/-- A number is read as a literal without fraction and exponent. -/
theorem literal_toDigits (negative : Bool) (number : Nat) {rest : List Symbol}
    (closes : Closes rest) :
    literal negative ((Nat.toDigits 10 number).map some ++ rest) =
      .ok (⟨negative, Literal.digitsOf number, [], none⟩, rest) := by
  have fraction : fractionPart rest = .ok ([], rest) := by
    cases rest with
    | nil => rfl
    | cons symbol rest =>
        rcases closes symbol rfl with rfl | rfl | rfl <;> rfl
  have exponent : exponentPart rest = .ok (none, rest) := by
    cases rest with
    | nil => rfl
    | cons symbol rest =>
        rcases closes symbol rfl with rfl | rfl | rfl <;> rfl
  rw [literal, wholePart_toDigits number closes]
  simp only [bind, Except.bind, fraction, exponent]
  rfl

/-- The digits of an integer of 64 bits are read as that integer. -/
theorem number_toDigits {value : Int} (notBelow : Word64.leastSigned ≤ value)
    (notAbove : value ≤ Word64.greatest) {rest : List Symbol} (closes : Closes rest) :
    number (decide (value < 0)) ((Nat.toDigits 10 value.natAbs).map some ++ rest) =
      (.number (.ok (.integer value)), some rest) := by
  rw [number, literal_toDigits _ _ closes]
  simp only [Literal.value_integer notBelow notAbove]
  rfl

theorem hexDigit_hexDigit :
    ∀ value < 16, hexDigit? (some (Writer.hexDigit value)) = some value := by
  decide

/-- An escaped letter is read as that letter. -/
theorem string_escape (letter : Char) (rest : List Symbol) (letters : List Char) :
    string ((Writer.escape letter).map some ++ rest) letters none =
      string rest (letter :: letters) none := by
  unfold Writer.escape
  split
  · rfl
  · rfl
  · rfl
  · rfl
  · rfl
  · rfl
  · rfl
  · split
    · next control =>
      have high := hexDigit_hexDigit (letter.toNat / 16) (by omega)
      have low := hexDigit_hexDigit (letter.toNat % 16) (by omega)
      have zero : hexDigit? (some '0') = some 0 := rfl
      have word : hexWord? (some '0') (some '0') (some (Writer.hexDigit (letter.toNat / 16)))
          (some (Writer.hexDigit (letter.toNat % 16))) = some letter.toNat := by
        simp only [hexWord?, zero, high, low, Option.bind_eq_bind, Option.bind_some,
          Option.pure_def]
        congr 1
        omega
      simp only [List.map_cons, List.map_nil, List.cons_append, List.nil_append]
      rw [string, word]
      simp only [isLowSurrogate, isHighSurrogate]
      have notLow : ¬ 0xDC00 ≤ letter.toNat := by omega
      have notHigh : ¬ 0xD800 ≤ letter.toNat := by omega
      simp [notLow, notHigh, Char.ofNat_toNat]
    · next plain =>
      simp only [List.map_cons, List.map_nil, List.cons_append, List.nil_append]
      rw [string]
      · simp [plain]
      all_goals simp_all

/-- What a value starts with: no blank, and no bracket that closes an array. -/
def Opens (letter : Char) : Prop :=
  letter ≠ ' ' ∧ letter ≠ '\n' ∧ letter ≠ '\t' ∧ letter ≠ '\r' ∧ letter ≠ ']'

instance (letter : Char) : Decidable (Opens letter) :=
  inferInstanceAs (Decidable (_ ∧ _ ∧ _ ∧ _ ∧ _))

theorem Opens.of_digit {letter : Char} (digit : letter.isDigit) : Opens letter := by
  refine ⟨?_, ?_, ?_, ?_, ?_⟩ <;> rintro rfl <;> cases digit

theorem skipBlanks_of_opens {letter : Char} (opens : Opens letter) (rest : List Symbol) :
    skipBlanks (some letter :: rest) = some letter :: rest := by
  obtain ⟨space, newline, tab, carriage, -⟩ := opens
  rw [skipBlanks] <;> simp [space, newline, tab, carriage]

/-- A value that starts with a digit is a number without sign. -/
theorem value_of_digit {letter : Char} (digit : letter.isDigit) (fuel : Nat) (rest : List Symbol) :
    value (fuel + 1) (some letter :: rest) = number false (some letter :: rest) := by
  have read : (digit? (some letter)).isSome := by simp [digit?, digit]
  have differs (other : Char) (isOther : other.isDigit = false) : letter ≠ other := by
    rintro rfl
    exact absurd digit (by simp [isOther])
  rw [value, skipBlanks_of_opens (.of_digit digit)]
  split
  · next same => cases same
  all_goals
    first
    | exact absurd (Option.some.inj (List.cons.inj ‹_›).1) (differs _ rfl)
    | skip
  · next same =>
      obtain ⟨rfl, rfl⟩ := List.cons.inj same
      exact if_pos read

/-- Escaped letters are read up to the quotation mark behind them. -/
theorem string_letters (text : List Char) (rest : List Symbol) (letters : List Char) :
    string ((text.flatMap Writer.escape).map some ++ some '"' :: rest) letters none =
      .ok (.ok (String.ofList (letters.reverse ++ text)), rest) := by
  induction text generalizing letters with
  | nil =>
      rw [List.append_nil]
      rfl
  | cons letter others ih =>
      rw [List.flatMap_cons, List.map_append, List.append_assoc, string_escape, ih,
        List.reverse_cons, List.append_assoc, List.singleton_append]

/-- A text is read behind its first quotation mark. -/
theorem string_writer (text : String) (rest : List Symbol) :
    string ((text.toList.flatMap Writer.escape ++ ['"']).map some ++ rest) [] none =
      .ok (.ok text, rest) := by
  have read := string_letters text.toList rest []
  simpa using read

theorem items_of_opens {letter : Char} (opens : Opens letter) (fuel : Nat) (rest : List Symbol) :
    items (fuel + 1) true (some letter :: rest) = item fuel (some letter :: rest) := by
  rw [items, skipBlanks_of_opens opens]
  split
  · next same => cases same
  · next same => exact absurd (Option.some.inj (List.cons.inj same).1) opens.2.2.2.2
  · next same =>
      obtain ⟨rfl, rfl⟩ := List.cons.inj same
      rfl

theorem items_comma {letter : Char} (opens : Opens letter) (fuel : Nat) (rest : List Symbol) :
    items (fuel + 1) false (some ',' :: some letter :: rest) = item fuel (some letter :: rest) := by
  have comma : skipBlanks (some ',' :: some letter :: rest) = some ',' :: some letter :: rest := rfl
  rw [items, comma]
  split
  · next same => cases same
  · next same => simp at same
  · next same =>
      obtain ⟨rfl, rfl⟩ := List.cons.inj same
      rw [if_neg (by simp), if_pos (by simp), skipBlanks_of_opens opens]
      split
      · next same => cases same
      · next same => exact absurd (Option.some.inj (List.cons.inj same).1) opens.2.2.2.2
      · rfl

end Reader

mutual

/-- Every number of a value is an integer of 64 bits, with or without a sign. -/
def isIntegral : Json → Bool
  | .number (.integer value) => Word64.leastSigned ≤ value && value ≤ Word64.greatest
  | .number (.binary64 _) => false
  | .array items => areIntegral items
  | .object members => haveIntegral members
  | _ => true

def areIntegral : List Json → Bool
  | [] => true
  | head :: rest => isIntegral head && areIntegral rest

def haveIntegral : List (String × Json) → Bool
  | [] => true
  | (_, value) :: rest => isIntegral value && haveIntegral rest

end

/-- The numbers of all members are integers when those of each member are. -/
theorem haveIntegral_iff {members : List (String × Json)} :
    haveIntegral members ↔ ∀ member ∈ members, member.2.isIntegral := by
  induction members with
  | nil => simp [haveIntegral]
  | cons member rest ih =>
      obtain ⟨name, value⟩ := member
      rw [haveIntegral, Bool.and_eq_true, ih, List.forall_mem_cons]

namespace Reader

theorem exists_cons_toDigits (number : Nat) :
    ∃ letter others, Nat.toDigits 10 number = letter :: others ∧ letter.isDigit := by
  have filled : Nat.toDigits 10 number ≠ [] := Nat.toDigits_ne_nil
  obtain ⟨letter, others, letters⟩ := List.exists_cons_of_ne_nil filled
  exact ⟨letter, others, letters, isDigit_of_mem_toDigits (letters ▸ List.mem_cons_self)⟩

/-- A value is written in letters of which the first is no blank and closes nothing. -/
theorem exists_cons_letters {value : Json} (integral : value.isIntegral) :
    ∃ first others, value.letters = first :: others ∧ Opens first := by
  cases value with
  | null => exact ⟨_, _, rfl, by decide⟩
  | bool value => cases value <;> exact ⟨_, _, rfl, by decide⟩
  | string value => exact ⟨_, _, rfl, by decide⟩
  | array items => cases items <;> exact ⟨_, _, rfl, by decide⟩
  | object members => cases members <;> exact ⟨_, _, rfl, by decide⟩
  | number value =>
      cases value with
      | binary64 value => cases integral
      | integer value =>
          obtain ⟨first, others, digits, digit⟩ := exists_cons_toDigits value.natAbs
          rw [letters, Writer.number]
          split
          · exact ⟨_, _, rfl, by decide⟩
          · exact ⟨first, others, digits, .of_digit digit⟩

theorem closes_itemLetters (items : List Json) (rest : List Symbol) :
    Closes ((itemLetters items).map some ++ rest) := by
  cases items with
  | nil =>
      rintro symbol ⟨⟩
      exact .inr (.inl rfl)
  | cons head others =>
      rw [itemLetters]
      rintro symbol ⟨⟩
      exact .inl rfl

theorem closes_memberLetters (members : List (String × Json)) (rest : List Symbol) :
    Closes ((memberLetters members).map some ++ rest) := by
  cases members with
  | nil =>
      rintro symbol ⟨⟩
      exact .inr (.inr rfl)
  | cons head others =>
      rw [memberLetters]
      rintro symbol ⟨⟩
      exact .inl rfl

/-- The first item of an array is read behind its bracket, and any other behind a comma. -/
theorem items_letters {head : Json} (integral : head.isIntegral) (fuel : Nat) (rest : List Symbol) :
    items (fuel + 1) true (head.letters.map some ++ rest) =
        item fuel (head.letters.map some ++ rest) ∧
      items (fuel + 1) false (some ',' :: (head.letters.map some ++ rest)) =
        item fuel (head.letters.map some ++ rest) := by
  obtain ⟨first, others, letters, opens⟩ := exists_cons_letters integral
  rw [letters]
  exact ⟨items_of_opens opens fuel _, items_comma opens fuel _⟩

/-- A text is a value behind a quotation mark. -/
theorem value_of_string (fuel : Nat) {symbols rest : List Symbol} {text : String}
    (read : string symbols [] none = .ok (.ok text, rest)) :
    value (fuel + 1) (some '"' :: symbols) = (.string (.ok text), some rest) := by
  have mark : skipBlanks (some '"' :: symbols) = some '"' :: symbols := rfl
  rw [value, mark]
  simp only [read]

/-- An integer of 64 bits is read back. -/
theorem value_of_integer {written : Int} (notBelow : Word64.leastSigned ≤ written)
    (notAbove : written ≤ Word64.greatest) (fuel : Nat) {rest : List Symbol}
    (closes : Closes rest) :
    value (fuel + 1) ((Writer.number (.integer written)).map some ++ rest) =
      (.number (.ok (.integer written)), some rest) := by
  have read := number_toDigits notBelow notAbove closes
  rw [Writer.number]
  by_cases negative : written < 0
  · rw [if_pos negative]
    rw [decide_eq_true negative] at read
    exact read
  · rw [if_neg negative]
    rw [decide_eq_false negative] at read
    obtain ⟨first, others, digits, digit⟩ := exists_cons_toDigits written.natAbs
    rw [digits] at read ⊢
    exact (value_of_digit digit fuel _).trans read

/-- An item is read when its value and the items behind it are. -/
theorem item_of_value {fuel : Nat} {symbols rest behind : List Symbol} {head : Node}
    {others : Items}
    (first : value fuel symbols = (head, some rest))
    (further : items fuel false rest = (others, some behind)) :
    item (fuel + 1) symbols = (.item head others, some behind) := by
  rw [item, first]
  simp only [further]

/-- An entry is read when its value and the entries behind it are. -/
theorem entry_of_value {fuel : Nat} (name : String) {symbols rest behind : List Symbol}
    {held : Node} {others : Entries} (first : value fuel symbols = (held, some rest))
    (further : entries fuel false rest = (others, some behind)) :
    entry (fuel + 1)
        ((name.toList.flatMap Writer.escape ++ ['"']).map some ++ some ':' :: symbols) =
      (.entry (.ok name) held others, some behind) := by
  have colon : skipBlanks (some ':' :: symbols) = some ':' :: symbols := rfl
  rw [entry, string_writer]
  simp only [colon, first, further]

mutual

/-- A value is read back up to its last letter. -/
theorem value_letters : (written : Json) → written.isIntegral → (fuel : Nat) →
    (rest : List Symbol) → 3 * written.letters.length ≤ fuel → Closes rest →
    value fuel (written.letters.map some ++ rest) = (.ofJson written, some rest)
  | written, integral, 0, _, room, _ => by
      obtain ⟨first, others, letters, -⟩ := exists_cons_letters integral
      simp [letters] at room
  | .null, _, fuel + 1, rest, _, _ => rfl
  | .bool true, _, fuel + 1, rest, _, _ => rfl
  | .bool false, _, fuel + 1, rest, _, _ => rfl
  | .number (.binary64 _), integral, _, _, _, _ => by cases integral
  | .number (.integer written), integral, fuel + 1, rest, _, closes => by
      simp only [isIntegral, Bool.and_eq_true, decide_eq_true_eq] at integral
      exact value_of_integer integral.1 integral.2 fuel closes
  | .string text, _, fuel + 1, rest, _, _ => value_of_string fuel (string_writer text rest)
  | .array [], _, fuel + 1, rest, room, _ => by
      cases fuel with
      | zero => simp [letters] at room
      | succ fuel => rfl
  | .array (head :: others), integral, fuel + 1, rest, room, _ => by
      simp only [isIntegral, areIntegral, Bool.and_eq_true] at integral
      simp only [letters, List.cons_append, List.length_cons, List.length_append] at room
      obtain ⟨fuel, rfl⟩ := Nat.exists_eq_add_of_le' (show 2 ≤ fuel by omega)
      have first := value_letters head integral.1 fuel ((itemLetters others).map some ++ rest)
        (by omega) (closes_itemLetters others rest)
      have further := items_itemLetters others integral.2 fuel rest (by omega)
      have read := (items_letters integral.1 (fuel + 1) _).1.trans (item_of_value first further)
      rw [letters, List.cons_append, List.map_cons, List.map_append, List.cons_append,
        List.append_assoc]
      exact congrArg (fun read => (Node.array read.1, read.2)) read
  | .object [], _, fuel + 1, rest, room, _ => by
      cases fuel with
      | zero => simp [letters] at room
      | succ fuel => rfl
  | .object ((name, held) :: others), integral, fuel + 1, rest, room, _ => by
      simp only [isIntegral, haveIntegral, Bool.and_eq_true] at integral
      simp only [letters, Writer.string, List.cons_append, List.length_cons,
        List.length_append] at room
      obtain ⟨fuel, rfl⟩ := Nat.exists_eq_add_of_le' (show 2 ≤ fuel by omega)
      have first := value_letters held integral.1 fuel ((memberLetters others).map some ++ rest)
        (by omega) (closes_memberLetters others rest)
      have further := entries_memberLetters others integral.2 fuel rest (by omega)
      have read := entry_of_value name first further
      have same : (letters (.object ((name, held) :: others))).map some ++ rest =
          some '{' :: some '"' :: ((name.toList.flatMap Writer.escape ++ ['"']).map some ++
            some ':' :: (held.letters.map some ++ ((memberLetters others).map some ++ rest))) := by
        simp [letters, Writer.string]
      rw [same]
      exact congrArg (fun read => (Node.object read.1, read.2)) read

theorem items_itemLetters : (written : List Json) → areIntegral written → (fuel : Nat) →
    (rest : List Symbol) → 3 * (itemLetters written).length ≤ fuel →
    items fuel false ((itemLetters written).map some ++ rest) = (.ofJson written, some rest)
  | [], _, fuel, rest, room => by
      cases fuel with
      | zero => simp [itemLetters] at room
      | succ fuel => rfl
  | head :: others, integral, fuel, rest, room => by
      simp only [areIntegral, Bool.and_eq_true] at integral
      simp only [itemLetters, List.cons_append, List.length_cons, List.length_append] at room
      obtain ⟨fuel, rfl⟩ := Nat.exists_eq_add_of_le' (show 2 ≤ fuel by omega)
      have first := value_letters head integral.1 fuel ((itemLetters others).map some ++ rest)
        (by omega) (closes_itemLetters others rest)
      have further := items_itemLetters others integral.2 fuel rest (by omega)
      have read := (items_letters integral.1 (fuel + 1) _).2.trans (item_of_value first further)
      rw [itemLetters, List.cons_append, List.map_cons, List.map_append, List.cons_append,
        List.append_assoc]
      exact read

theorem entries_memberLetters : (written : List (String × Json)) → haveIntegral written →
    (fuel : Nat) → (rest : List Symbol) → 3 * (memberLetters written).length ≤ fuel →
    entries fuel false ((memberLetters written).map some ++ rest) = (.ofJson written, some rest)
  | [], _, fuel, rest, room => by
      cases fuel with
      | zero => simp [memberLetters] at room
      | succ fuel => rfl
  | (name, held) :: others, integral, fuel, rest, room => by
      simp only [haveIntegral, Bool.and_eq_true] at integral
      simp only [memberLetters, Writer.string, List.cons_append, List.length_cons,
        List.length_append] at room
      obtain ⟨fuel, rfl⟩ := Nat.exists_eq_add_of_le' (show 2 ≤ fuel by omega)
      have first := value_letters held integral.1 fuel ((memberLetters others).map some ++ rest)
        (by omega) (closes_memberLetters others rest)
      have further := entries_memberLetters others integral.2 fuel rest (by omega)
      have read := entry_of_value name first further
      have same : (memberLetters ((name, held) :: others)).map some ++ rest =
          some ',' :: some '"' :: ((name.toList.flatMap Writer.escape ++ ['"']).map some ++
            some ':' :: (held.letters.map some ++ ((memberLetters others).map some ++ rest))) := by
        simp [memberLetters, Writer.string]
      rw [same]
      exact read

end

end Reader

/-- The text of a value is the document of that value, with nothing behind it. -/
theorem Document.ofText_render {written : Json} (integral : written.isIntegral) :
    Document.ofText written.render = ⟨.ofJson written, none⟩ := by
  have read := Reader.value_letters written integral (3 * (written.letters.map some).length + 3) []
    (by simp) nofun
  rw [List.append_nil] at read
  rw [ofText, render, String.toList_ofList, ofSymbols, read]
  rfl

/-- The text of a value decodes as the value does. -/
theorem Document.decode_render {written : Json} (integral : written.isIntegral) {α : Type}
    {decoder : Nat → Node → Except DecodeError α} {value : α}
    (decodes : decoder startDepth (.ofJson written) = .ok value) :
    (Document.ofText written.render).decode decoder = .ok value := by
  rw [Document.ofText_render integral]
  exact decode_eq_ok_iff.mpr ⟨decodes, rfl⟩

end Json

end OrgFederation
