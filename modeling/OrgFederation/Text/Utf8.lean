namespace OrgFederation.Text

/-- A symbol is a character; `none` stands for a byte outside every well-formed sequence. -/
abbrev Symbol := Option Char

namespace Utf8

/-- The payload of a continuation byte. -/
def continuation? (byte : UInt8) : Option Nat :=
  if 0x80 ≤ byte && byte ≤ 0xBF then some (byte.toNat - 0x80) else none

/-- A code point counts only in its shortest form, and a surrogate never does. -/
def scalar? (least code : Nat) : Option Char :=
  if least ≤ code && (code < 0xD800 || (0xDFFF < code && code < 0x110000)) then
    some (Char.ofNat code)
  else
    none

/-- The character that starts a list of bytes, with the number of bytes after its first. -/
def leading? : List UInt8 → Option (Char × Nat)
  | [] => none
  | first :: rest =>
      if first < 0x80 then
        some (Char.ofNat first.toNat, 0)
      else if 0xC0 ≤ first && first < 0xE0 then
        match rest with
        | second :: _ => do
            let low ← continuation? second
            let letter ← scalar? 0x80 ((first.toNat - 0xC0) * 64 + low)
            return (letter, 1)
        | _ => none
      else if 0xE0 ≤ first && first < 0xF0 then
        match rest with
        | second :: third :: _ => do
            let middle ← continuation? second
            let low ← continuation? third
            let letter ← scalar? 0x800 ((first.toNat - 0xE0) * 4096 + middle * 64 + low)
            return (letter, 2)
        | _ => none
      else if 0xF0 ≤ first && first < 0xF8 then
        match rest with
        | second :: third :: fourth :: _ => do
            let upper ← continuation? second
            let middle ← continuation? third
            let low ← continuation? fourth
            let letter ← scalar? 0x10000
              ((first.toNat - 0xF0) * 262144 + upper * 4096 + middle * 64 + low)
            return (letter, 3)
        | _ => none
      else
        none

/-- The symbols of a list of bytes, skipping first the bytes a character has already used. -/
def symbolsAfter : Nat → List UInt8 → List Symbol
  | _, [] => []
  | skipped + 1, _ :: rest => symbolsAfter skipped rest
  | 0, first :: rest =>
      match leading? (first :: rest) with
      | some (letter, more) => some letter :: symbolsAfter more rest
      | none => none :: symbolsAfter 0 rest

/-- The symbols of a list of bytes. -/
def symbols (bytes : List UInt8) : List Symbol :=
  symbolsAfter 0 bytes

/-- The characters of a list of symbols, when none is stray. -/
def characters? (symbols : List Symbol) : Option (List Char) :=
  symbols.mapM id

/-- The text of a list of bytes, when the bytes are well-formed. -/
def decode? (bytes : List UInt8) : Option String :=
  (characters? (symbols bytes)).map String.ofList

/-- The bytes of a text. -/
def encode (text : String) : List UInt8 :=
  text.toUTF8.toList

end Utf8

end OrgFederation.Text
