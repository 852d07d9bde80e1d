namespace OrgFederation.Text

/-- A blank is one of the twenty-five characters with the property `White_Space`. -/
def isBlank (letter : Char) : Bool :=
  let code := letter.toNat
  (9 ≤ code && code ≤ 13) || code == 0x20 || code == 0x85 || code == 0xA0 || code == 0x1680 ||
    (0x2000 ≤ code && code ≤ 0x200A) || code == 0x2028 || code == 0x2029 || code == 0x202F ||
    code == 0x205F || code == 0x3000

/-- Blanks are dropped from the front of a list of characters. -/
def dropBlanks (letters : List Char) : List Char :=
  letters.dropWhile isBlank

/-- Trimming drops the blanks at both ends and keeps all between them. -/
def trimmed (letters : List Char) : List Char :=
  (dropBlanks (dropBlanks letters).reverse).reverse

/-- The trimmed text of a string. -/
def trim (text : String) : String :=
  String.ofList (trimmed text.toList)

end OrgFederation.Text
