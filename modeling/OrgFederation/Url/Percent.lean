import OrgFederation.Text.Utf8

namespace OrgFederation.Percent

/-- A set tells which ASCII characters must be encoded; others than ASCII always are. -/
abbrev Set := Char → Bool

def controls : Set := fun letter => letter.toNat < 0x20 || letter.toNat == 0x7F

def fragment : Set := fun letter => controls letter || [' ', '"', '<', '>', '`'].contains letter

def query : Set := fun letter => controls letter || [' ', '"', '#', '<', '>'].contains letter

def specialQuery : Set := fun letter => query letter || letter == '\''

def path : Set := fun letter => fragment letter || ['#', '?', '{', '}'].contains letter

def userinfo : Set := fun letter =>
  path letter || ['/', ':', ';', '=', '@', '[', '\\', ']', '^', '|'].contains letter

/-- Within a segment of a path its separators and the percent sign are encoded too. -/
def segment : Set := fun letter => path letter || letter == '/' || letter == '%'

/-- Schemes of the web take a backslash for a separator. -/
def specialSegment : Set := fun letter => segment letter || letter == '\\'

def hexDigit (value : Nat) : Char :=
  "0123456789ABCDEF".toList.getD value '0'

def encodeByte (byte : UInt8) : List Char :=
  ['%', hexDigit (byte.toNat / 16), hexDigit (byte.toNat % 16)]

def encodeLetter (set : Set) (letter : Char) : List Char :=
  if letter.toNat < 0x80 && !set letter then [letter]
  else (Text.Utf8.encode (String.singleton letter)).flatMap encodeByte

def encode (set : Set) (letters : List Char) : List Char :=
  letters.flatMap (encodeLetter set)

def hexValue? (byte : UInt8) : Option Nat :=
  if 48 ≤ byte && byte ≤ 57 then some (byte.toNat - 48)
  else if 65 ≤ byte && byte ≤ 70 then some (byte.toNat - 55)
  else if 97 ≤ byte && byte ≤ 102 then some (byte.toNat - 87)
  else none

/-- A percent sign without two hexadecimal digits behind it stands for itself. -/
def decodeBytes : List UInt8 → List UInt8
  | [] => []
  | 37 :: high :: low :: rest =>
      match hexValue? high, hexValue? low with
      | some upper, some lower => UInt8.ofNat (upper * 16 + lower) :: decodeBytes rest
      | _, _ => 37 :: decodeBytes (high :: low :: rest)
  | byte :: rest => byte :: decodeBytes rest

/-- The symbols that a text stands for. -/
def decode (letters : List Char) : List Text.Symbol :=
  Text.Utf8.symbols (decodeBytes (Text.Utf8.encode (String.ofList letters)))

end OrgFederation.Percent
