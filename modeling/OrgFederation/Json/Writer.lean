import OrgFederation.Json.Basic
import OrgFederation.Number.Shortest

namespace OrgFederation.Json

namespace Writer

/-- A lower-case hexadecimal digit. -/
def hexDigit (value : Nat) : Char :=
  "0123456789abcdef".toList.getD value '0'

/-- Only quotation marks, backslashes and controls are escaped. -/
def escape (letter : Char) : List Char :=
  match letter with
  | '"' => ['\\', '"']
  | '\\' => ['\\', '\\']
  | '\x08' => ['\\', 'b']
  | '\x0c' => ['\\', 'f']
  | '\n' => ['\\', 'n']
  | '\r' => ['\\', 'r']
  | '\t' => ['\\', 't']
  | letter =>
      if letter.toNat < 0x20 then
        ['\\', 'u', '0', '0', hexDigit (letter.toNat / 16), hexDigit (letter.toNat % 16)]
      else
        [letter]

def string (text : String) : List Char :=
  '"' :: text.toList.flatMap escape ++ ['"']

def number : Number → List Char
  | .integer value =>
      if value < 0 then '-' :: Nat.toDigits 10 value.natAbs else Nat.toDigits 10 value.natAbs
  | .binary64 value => value.text.toList

end Writer

mutual

/-- The letters of a value. -/
def letters : Json → List Char
  | .null => ['n', 'u', 'l', 'l']
  | .bool true => ['t', 'r', 'u', 'e']
  | .bool false => ['f', 'a', 'l', 's', 'e']
  | .number value => Writer.number value
  | .string value => Writer.string value
  | .array [] => ['[', ']']
  | .array (head :: rest) => '[' :: letters head ++ itemLetters rest
  | .object [] => ['{', '}']
  | .object ((name, value) :: rest) =>
      '{' :: Writer.string name ++ ':' :: letters value ++ memberLetters rest

/-- The letters behind an item of an array. -/
def itemLetters : List Json → List Char
  | [] => [']']
  | head :: rest => ',' :: letters head ++ itemLetters rest

/-- The letters behind a member of an object. -/
def memberLetters : List (String × Json) → List Char
  | [] => ['}']
  | (name, value) :: rest =>
      ',' :: Writer.string name ++ ':' :: letters value ++ memberLetters rest

end

/-- The text of a value. -/
def render (value : Json) : String :=
  String.ofList value.letters

end OrgFederation.Json
