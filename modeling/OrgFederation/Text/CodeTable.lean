/-
This file reads tables of code points. A table is written as lines of entries with a blank between
them; an entry is a code point, a colon and some code points with commas between them, all in
hexadecimal.
-/

namespace OrgFederation.Text.CodeTable

def digitValue (letter : Char) : Nat :=
  if letter.isDigit then letter.toNat - 48 else letter.toNat - 87

def number (letters : List Char) : Nat :=
  letters.foldl (fun value letter => value * 16 + digitValue letter) 0

/-- The parts of a list between the places where a separator stands. -/
def split (separator : Char) : List Char → List (List Char)
  | [] => [[]]
  | letter :: rest =>
      match split separator rest with
      | [] => [[letter]]
      | part :: parts =>
          if letter == separator then [] :: part :: parts else (letter :: part) :: parts

def entry (letters : List Char) : Nat × List Nat :=
  let (key, values) := letters.span (· != ':')
  (number key, (split ',' values.tail).map number)

/-- The entries of all lines. -/
def ofLines (lines : List String) : List (Nat × List Nat) :=
  lines.flatMap fun line => (split ' ' line.toList).map entry

end OrgFederation.Text.CodeTable
