import OrgFederation.Text.Composition
import OrgFederation.Text.Direction
import OrgFederation.Text.Folding
import OrgFederation.Text.Mark
import OrgFederation.Text.Unprintable
import OrgFederation.Text.Utf8
import OrgFederation.Url.Punycode

namespace OrgFederation.Domain

def isAscii (letter : Char) : Bool :=
  letter.toNat < 0x80

/-- The ASCII characters that no domain name has. -/
def isForbidden (letter : Char) : Bool :=
  letter.toNat ≤ 0x20 || letter.toNat == 0x7F ||
    ['%', '#', '/', ':', '<', '>', '?', '@', '[', '\\', ']', '^', '|'].contains letter

/-- A joiner is part of a name only behind a mark that joins. -/
def isJoiner (letter : Char) : Bool :=
  letter == '\u200c' || letter == '\u200d'

/-- The combining class of the marks that join. -/
def joiningClass : Nat := 9

/-- The characters that describe how others look, and the one that stands for none. -/
def isDescriptive (letter : Char) : Bool :=
  (0x2FF0 ≤ letter.toNat && letter.toNat ≤ 0x2FFF) || letter == '\ufffc' || letter == '\ufffd'

/-- Whether a folded character may be part of a name. -/
def isValid (letter : Char) : Bool :=
  if isAscii letter then !isForbidden letter
  else
    isJoiner letter ||
      ((!Text.isUnprintable letter || Text.isMark letter) && !isDescriptive letter)

/-- The letters of an ASCII form start with these. -/
def mark : List Char := ['x', 'n', '-', '-']

/-- Every joiner stands behind a mark that joins. -/
def joinersFit : List Char → Bool
  | [] => true
  | [letter] => !isJoiner letter
  | first :: second :: rest =>
      !isJoiner first &&
        (if isJoiner second then
          Text.Composition.combiningClass first == joiningClass && joinersFit rest
        else
          joinersFit (second :: rest))

/-- A label that is not in ASCII starts with no mark and holds only valid characters. -/
def isLabel (letters : List Char) : Bool :=
  !letters.head?.any Text.isMark && letters.all isValid && joinersFit letters

/-- A label that stands for characters outside of ASCII, in the form that folding leaves. -/
def isDecoded (letters : List Char) : Bool :=
  letters.any (!isAscii ·) && isLabel letters &&
    letters.all (fun letter => isJoiner letter || Text.Folding.fold letter == [letter]) &&
    Text.Composition.normal letters == letters

/-- A label as it is shown and in its ASCII form. -/
structure Label where
  shown : List Char
  written : List Char

/-- A label that claims to be an ASCII form has to be a proper one. -/
def label? (letters : List Char) : Option Label :=
  if mark.isPrefixOf letters then
    match Punycode.decode? (letters.drop mark.length) with
    | some decoded => if isDecoded decoded then some ⟨decoded, letters⟩ else none
    | none => none
  else if letters.all isAscii then
    if letters.all isValid then some ⟨letters, letters⟩ else none
  else
    if isLabel letters then some ⟨letters, mark ++ Punycode.encode letters⟩ else none

/-- The labels of a name. -/
def labels : List Char → List (List Char)
  | [] => [[]]
  | letter :: rest =>
      match labels rest with
      | [] => [[letter]]
      | label :: others =>
          if letter == '.' then [] :: label :: others else (letter :: label) :: others

/-- The folded form of a character. -/
def fold (letter : Char) : List Char :=
  if isAscii letter then [letter.toLower]
  else if isJoiner letter then [letter]
  else Text.Folding.fold letter

/-- The ASCII form of a name. -/
def ofLetters? (letters : List Char) : Option (List Char) := do
  let small := letters.map Char.toLower
  if letters.all isAscii && !(labels small).any mark.isPrefixOf then
    if small.all isValid then some small else none
  else
    let forms : List Label ← (labels (Text.Composition.normal (letters.flatMap fold))).mapM label?
    if Text.directionsFit (forms.map Label.shown) then
      some ((forms.map Label.written).intersperse ['.']).flatten
    else
      none

/-- The ASCII form of a name; a stray byte spoils it. -/
def toAscii? (symbols : List Text.Symbol) : Option (List Char) := do
  let letters ← Text.Utf8.characters? symbols
  ofLetters? letters

end OrgFederation.Domain
