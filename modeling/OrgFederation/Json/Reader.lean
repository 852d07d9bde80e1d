import OrgFederation.Json.Node
import OrgFederation.Text.Utf8

namespace OrgFederation.Json

open Text (Symbol)

namespace Reader

/-- JSON knows four blanks between its tokens. -/
def skipBlanks : List Symbol → List Symbol
  | some ' ' :: rest => skipBlanks rest
  | some '\n' :: rest => skipBlanks rest
  | some '\t' :: rest => skipBlanks rest
  | some '\r' :: rest => skipBlanks rest
  | symbols => symbols

/-- The value of a decimal digit. -/
def digit? : Symbol → Option Nat
  | some letter => if letter.isDigit then some (letter.toNat - 48) else none
  | none => none

/-- The value of a hexadecimal digit in either case. -/
def hexDigit? : Symbol → Option Nat
  | some letter =>
      if letter.isDigit then some (letter.toNat - 48)
      else if 'a' ≤ letter && letter ≤ 'f' then some (letter.toNat - 87)
      else if 'A' ≤ letter && letter ≤ 'F' then some (letter.toNat - 55)
      else none
  | none => none

/-- The value of four hexadecimal digits. -/
def hexWord? (first second third fourth : Symbol) : Option Nat := do
  let first ← hexDigit? first
  let second ← hexDigit? second
  let third ← hexDigit? third
  let fourth ← hexDigit? fourth
  return first * 4096 + second * 256 + third * 16 + fourth

/-- The character of an escape of one letter. -/
def shortEscape? : Char → Option Char
  | '"' => some '"'
  | '\\' => some '\\'
  | '/' => some '/'
  | 'b' => some '\x08'
  | 'f' => some '\x0c'
  | 'n' => some '\n'
  | 'r' => some '\r'
  | 't' => some '\t'
  | _ => none

/-- The number of bytes of a symbol. -/
def width : Symbol → Nat
  | some letter => letter.utf8Size
  | none => 1

/-- A high and a low surrogate make one character. -/
def joinSurrogates (high low : Nat) : Char :=
  Char.ofNat ((high - 0xD800) * 1024 + (low - 0xDC00) + 0x10000)

def isHighSurrogate (word : Nat) : Bool := 0xD800 ≤ word && word ≤ 0xDBFF

def isLowSurrogate (word : Nat) : Bool := 0xDC00 ≤ word && word ≤ 0xDFFF

/-- What is wrong with the escape behind a high surrogate. -/
def surrogateFault : List Symbol → Fault
  | [] => .endInString
  | [some '\\'] => .endInString
  | some '\\' :: some 'u' :: rest =>
      match rest with
      | first :: second :: third :: fourth :: _ =>
          if (hexWord? first second third fourth).isSome then .loneSurrogate else .invalidEscape
      | _ => .endInString
  | _ => .unfinishedSurrogate

/-- What is wrong with an escape whose four digits are not all there. -/
def escapeFault (rest : List Symbol) : Fault :=
  if rest.foldl (fun total symbol => total + width symbol) 0 < 4 then .endInString
  else .invalidEscape

/-- The rest of a string up to its quotation mark. The letters read so far come last letter first;
a fault that spoils only the value of the string is carried along. -/
def string : List Symbol → List Char → Option Fault →
    Except Fault (Except Fault String × List Symbol)
  | [], _, spoiled => .error (spoiled.getD .endInString)
  | some '"' :: rest, letters, spoiled =>
      match spoiled with
      | some fault => .ok (.error fault, rest)
      | none => .ok (.ok (String.ofList letters.reverse), rest)
  | some '\\' :: some 'u' :: first :: second :: third :: fourth :: rest, letters, spoiled =>
      match hexWord? first second third fourth with
      | none => .error (spoiled.getD .invalidEscape)
      | some word =>
          if isLowSurrogate word then
            string rest letters (spoiled <|> some .loneSurrogate)
          else if isHighSurrogate word then
            match rest with
            | some '\\' :: some 'u' :: fifth :: sixth :: seventh :: eighth :: others =>
                match (hexWord? fifth sixth seventh eighth).filter isLowSurrogate with
                | some low => string others (joinSurrogates word low :: letters) spoiled
                | none =>
                    string (some '\\' :: some 'u' :: fifth :: sixth :: seventh :: eighth :: others)
                      letters
                      (spoiled <|> some (surrogateFault
                        (some '\\' :: some 'u' :: fifth :: sixth :: seventh :: eighth :: others)))
            | others => string others letters (spoiled <|> some (surrogateFault others))
          else
            string rest (Char.ofNat word :: letters) spoiled
  | some '\\' :: some 'u' :: rest, _, spoiled => .error (spoiled.getD (escapeFault rest))
  | [some '\\'], _, spoiled => .error (spoiled.getD .endInString)
  | some '\\' :: escape :: rest, letters, spoiled =>
      match escape.bind shortEscape? with
      | some letter => string rest (letter :: letters) spoiled
      | none => .error (spoiled.getD .invalidEscape)
  | none :: rest, letters, spoiled => string rest letters (spoiled <|> some .invalidCodePoint)
  | some letter :: rest, letters, spoiled =>
      if letter.toNat < 0x20 then
        .error (spoiled.getD .controlCharacter)
      else
        string rest (letter :: letters) spoiled

/-- The digits at the front of a text, and what follows them. -/
def digits : List Symbol → List Nat × List Symbol
  | [] => ([], [])
  | symbol :: rest =>
      match digit? symbol with
      | some digit =>
          let (others, after) := digits rest
          (digit :: others, after)
      | none => ([], symbol :: rest)

/-- At least one digit is required. -/
def someDigits (symbols : List Symbol) : Except Fault (List Nat × List Symbol) :=
  match digits symbols with
  | ([], []) => .error .endInValue
  | ([], _) => .error .invalidNumber
  | found => .ok found

/-- The whole part of a number is a zero, or digits of which the first is no zero. -/
def wholePart (symbols : List Symbol) : Except Fault (List Nat × List Symbol) := do
  let (found, rest) ← someDigits symbols
  if found.length = 1 || found.head? != some 0 then
    return (found, rest)
  else
    throw .invalidNumber

/-- The fraction is empty without a point. -/
def fractionPart : List Symbol → Except Fault (List Nat × List Symbol)
  | some '.' :: rest => someDigits rest
  | symbols => .ok ([], symbols)

def valueOfDigits (found : List Nat) : Nat :=
  found.foldl (fun value digit => value * 10 + digit) 0

/-- The exponent may have a sign. -/
def exponentPart : List Symbol → Except Fault (Option Int × List Symbol)
  | some letter :: rest =>
      if letter == 'e' || letter == 'E' then do
        let (negative, rest) :=
          match rest with
          | some '+' :: rest => (false, rest)
          | some '-' :: rest => (true, rest)
          | rest => (false, rest)
        let (found, rest) ← someDigits rest
        let value : Int := valueOfDigits found
        return (some (if negative then -value else value), rest)
      else
        .ok (none, some letter :: rest)
  | symbols => .ok (none, symbols)

/-- A number behind its sign. -/
def literal (negative : Bool) (symbols : List Symbol) :
    Except Fault (Literal × List Symbol) := do
  let (whole, rest) ← wholePart symbols
  let (fraction, rest) ← fractionPart rest
  let (exponent, rest) ← exponentPart rest
  return (⟨negative, whole, fraction, exponent⟩, rest)

/-- What was read, and what is left to read unless a fault ended the reading. -/
abbrev Reading (α : Type) := α × Option (List Symbol)

/-- A number whose literal is out of range is still read to its end. -/
def number (negative : Bool) (symbols : List Symbol) : Reading Node :=
  match literal negative symbols with
  | .error fault => (.broken fault, none)
  | .ok (literal, rest) =>
      (.number (literal.value?.elim (.error .numberOutOfRange) .ok), some rest)

/-- The rest of a fixed word that stands for a value. -/
def word (value : Node) : List Char → List Symbol → Reading Node
  | [], rest => (value, some rest)
  | _ :: _, [] => (.broken .endInValue, none)
  | letter :: letters, symbol :: rest =>
      if symbol == some letter then word value letters rest else (.broken .expectedWord, none)

mutual

/-- A value; the fuel bounds the steps of the reader. -/
def value : Nat → List Symbol → Reading Node
  | 0, _ => (.broken .tooDeep, none)
  | fuel + 1, symbols =>
      match skipBlanks symbols with
      | [] => (.broken .endInValue, none)
      | some 'n' :: rest => word .null ['u', 'l', 'l'] rest
      | some 't' :: rest => word (.bool true) ['r', 'u', 'e'] rest
      | some 'f' :: rest => word (.bool false) ['a', 'l', 's', 'e'] rest
      | some '-' :: rest => number true rest
      | some '"' :: rest =>
          match string rest [] none with
          | .error fault => (.broken fault, none)
          | .ok (text, rest) => (.string text, some rest)
      | some '[' :: rest =>
          let (items, rest) := items fuel true rest
          (.array items, rest)
      | some '{' :: rest =>
          let (entries, rest) := entries fuel true rest
          (.object entries, rest)
      | symbol :: rest =>
          if (digit? symbol).isSome then number false (symbol :: rest)
          else (.broken .expectedValue, none)

/-- The items of an array from the first one on, or from behind one. -/
def items : Nat → Bool → List Symbol → Reading Items
  | 0, _, _ => (.broken .tooDeep, none)
  | fuel + 1, first, symbols =>
      match skipBlanks symbols with
      | [] => (.broken .endInList, none)
      | some ']' :: rest => (.closed, some rest)
      | symbol :: rest =>
          if first then
            item fuel (symbol :: rest)
          else if symbol == some ',' then
            match skipBlanks rest with
            | [] => (.broken .endInValue, none)
            | some ']' :: _ => (.broken .trailingComma, none)
            | rest => item fuel rest
          else
            (.broken .expectedListEnd, none)

/-- An item and those behind it. -/
def item : Nat → List Symbol → Reading Items
  | 0, _ => (.broken .tooDeep, none)
  | fuel + 1, symbols =>
      match value fuel symbols with
      | (head, none) => (.item head .closed, none)
      | (head, some rest) =>
          let (others, rest) := items fuel false rest
          (.item head others, rest)

/-- The entries of an object from the first one on, or from behind one. -/
def entries : Nat → Bool → List Symbol → Reading Entries
  | 0, _, _ => (.broken .tooDeep, none)
  | fuel + 1, first, symbols =>
      match skipBlanks symbols with
      | [] => (.broken .endInObject, none)
      | some '}' :: rest => (.closed, some rest)
      | symbol :: rest =>
          if first then
            if symbol == some '"' then entry fuel rest else (.broken .nameNotText, none)
          else if symbol == some ',' then
            match skipBlanks rest with
            | [] => (.broken .endInValue, none)
            | some '"' :: rest => entry fuel rest
            | some '}' :: _ => (.broken .trailingComma, none)
            | _ => (.broken .nameNotText, none)
          else
            (.broken .expectedObjectEnd, none)

/-- An entry behind the quotation mark of its name, and the entries behind it. -/
def entry : Nat → List Symbol → Reading Entries
  | 0, _ => (.broken .tooDeep, none)
  | fuel + 1, symbols =>
      match string symbols [] none with
      | .error fault => (.broken fault, none)
      | .ok (name, rest) =>
          match skipBlanks rest with
          | [] => (.entry name (.broken .endInObject) .closed, none)
          | some ':' :: rest =>
              match value fuel rest with
              | (held, none) => (.entry name held .closed, none)
              | (held, some rest) =>
                  let (others, rest) := entries fuel false rest
                  (.entry name held others, rest)
          | _ => (.entry name (.broken .expectedColon) .closed, none)

end

end Reader

/-- The document of a list of symbols. Every three steps of the reader take up a symbol. -/
def Document.ofSymbols (symbols : List Symbol) : Document :=
  match Reader.value (3 * symbols.length + 3) symbols with
  | (root, none) => ⟨root, none⟩
  | (root, some rest) =>
      ⟨root, if (Reader.skipBlanks rest).isEmpty then none else some .trailingCharacters⟩

/-- The document of a text. -/
def Document.ofText (text : String) : Document :=
  .ofSymbols (text.toList.map some)

/-- The document of a list of bytes. -/
def Document.ofBytes (bytes : List UInt8) : Document :=
  .ofSymbols (Text.Utf8.symbols bytes)

end OrgFederation.Json
