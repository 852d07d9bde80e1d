import OrgFederation.Text.Unprintable

namespace OrgFederation.Text

/-- The digits of a code point in lower-case hexadecimal. -/
def hexDigits (code : Nat) : List Char :=
  Nat.toDigits 16 code

/-- Quotation marks, backslashes and the usual controls have escapes of one letter; every other
unprintable character is written by its code point. -/
def quoteLetter (letter : Char) : List Char :=
  match letter with
  | '\x00' => ['\\', '0']
  | '\t' => ['\\', 't']
  | '\r' => ['\\', 'r']
  | '\n' => ['\\', 'n']
  | '\\' => ['\\', '\\']
  | '"' => ['\\', '"']
  | letter =>
      if isUnprintable letter then
        ['\\', 'u', '{'] ++ hexDigits letter.toNat ++ ['}']
      else
        [letter]

/-- The quoted form of a text. -/
def quoted (text : String) : String :=
  String.ofList ('"' :: text.toList.flatMap quoteLetter ++ ['"'])

end OrgFederation.Text
