/-
This file writes a name with any characters in ASCII letters, digits and hyphens. The ASCII
characters come first; every other one is told by the distance, in order of code points and places,
from the one before it.
-/

namespace OrgFederation.Punycode

/-- The number of digits: letters and then decimal digits. -/
def base : Nat := 36

def firstCode : Nat := 128

def firstBias : Nat := 72

def digit (value : Nat) : Char :=
  if value < 26 then Char.ofNat (97 + value) else Char.ofNat (22 + value)

def digitValue? (letter : Char) : Option Nat :=
  if 'a' ≤ letter && letter ≤ 'z' then some (letter.toNat - 97)
  else if 'A' ≤ letter && letter ≤ 'Z' then some (letter.toNat - 65)
  else if letter.isDigit then some (letter.toNat - 22)
  else none

/-- A digit below this value is the last of its number. -/
def threshold (place bias : Nat) : Nat :=
  max 1 (min 26 (place - bias))

/-- The bias for the next number is fitted to the size of the last one. -/
def adapt (delta count : Nat) (isFirst : Bool) : Nat :=
  let scaled := if isFirst then delta / 700 else delta / 2
  shrink 0 (scaled + scaled / count) scaled.succ
where
  shrink (turns delta : Nat) : Nat → Nat
    | 0 => turns
    | fuel + 1 =>
        if 455 < delta then shrink (turns + base) (delta / 35) fuel
        else turns + 36 * delta / (delta + 38)

/-- The digits of a number, the lowest first. -/
def number (bias place value : Nat) : Nat → List Char
  | 0 => []
  | fuel + 1 =>
      let limit := threshold place bias
      if value < limit then [digit value]
      else
        digit (limit + (value - limit) % (base - limit)) ::
          number bias (place + base) ((value - limit) / (base - limit)) fuel

/-- What has been written so far: the next code point, the distance from the last character written,
the bias, the number of characters written, and the letters. -/
structure Writing where
  code : Nat
  delta : Nat
  bias : Nat
  count : Nat
  letters : List Char

/-- Every occurrence of a code point is written at its place among the smaller ones. -/
def writeCode (code basicCount : Nat) (writing : Writing) (letter : Char) : Writing :=
  if letter.toNat < code then
    { writing with delta := writing.delta + 1 }
  else if letter.toNat = code then
    let count := writing.count + 1
    { writing with
      letters := writing.letters ++ number writing.bias base writing.delta (writing.delta + 1)
      bias := adapt writing.delta count (writing.count == basicCount)
      delta := 0
      count := count }
  else
    writing

/-- The next larger code points are written one after another. -/
def writeCodes (letters : List Char) (basicCount : Nat) : Nat → Writing → Writing
  | 0, writing => writing
  | fuel + 1, writing =>
      let left := letters.filter fun letter => writing.code ≤ letter.toNat
      match (left.map Char.toNat).min? with
      | none => writing
      | some code =>
          let started := { writing with
            delta := writing.delta + (code - writing.code) * (writing.count + 1) }
          let written := letters.foldl (writeCode code basicCount) started
          writeCodes letters basicCount fuel
            { written with delta := written.delta + 1, code := code + 1 }

def encode (letters : List Char) : List Char :=
  let basic := letters.filter fun letter => letter.toNat < firstCode
  let start : Writing := ⟨firstCode, 0, firstBias, basic.length,
    if basic.isEmpty then [] else basic ++ ['-']⟩
  (writeCodes letters basic.length letters.length start).letters

/-- A number and the letters behind it. -/
def readNumber (bias place weight value : Nat) : List Char → Option (Nat × List Char)
  | [] => none
  | letter :: rest => do
      let digit ← digitValue? letter
      let value := value + digit * weight
      let limit := threshold place bias
      if digit < limit then some (value, rest)
      else readNumber bias (place + base) (weight * (base - limit)) value rest

/-- Numbers are read as long as there are letters; each tells a code point and its place. -/
def readCodes : Nat → Nat → Nat → Nat → List Char → List Char → Option (List Char)
  | 0, _, _, _, done, _ => some done
  | _, _, _, _, done, [] => some done
  | fuel + 1, code, place, bias, done, letters => do
      let (value, rest) ← readNumber bias base 1 0 letters
      let count := done.length + 1
      let position := place + value
      let code := code + position / count
      if code.isValidChar then
        let index := position % count
        readCodes fuel code (index + 1) (adapt value count (place == 0))
          (done.take index ++ Char.ofNat code :: done.drop index) rest
      else
        none

/-- The ASCII characters end at the last hyphen. -/
def decode? (letters : List Char) : Option (List Char) :=
  let (codes, hyphenated) := letters.reverse.span (· != '-')
  readCodes letters.length firstCode 0 firstBias hyphenated.tail.reverse codes.reverse

end OrgFederation.Punycode
