namespace OrgFederation.Address

/-- The parts of a text between the places where a separator stands. -/
def split (separator : Char → Bool) : List Char → List (List Char)
  | [] => [[]]
  | letter :: rest =>
      match split separator rest with
      | [] => [[letter]]
      | part :: parts =>
          if separator letter then [] :: part :: parts else (letter :: part) :: parts

def digitValue? (base : Nat) (letter : Char) : Option Nat :=
  let value :=
    if letter.isDigit then some (letter.toNat - 48)
    else if 'a' ≤ letter && letter ≤ 'f' then some (letter.toNat - 87)
    else if 'A' ≤ letter && letter ≤ 'F' then some (letter.toNat - 55)
    else none
  value.filter (· < base)

/-- The value of digits in a base; no digits have the value zero. -/
def valueIn? (base : Nat) (letters : List Char) : Option Nat :=
  letters.foldlM (fun value letter => (digitValue? base letter).map (value * base + ·)) 0

/-- A number in decimal, in octal behind a zero, or in hexadecimal behind `0x`. -/
def number? : List Char → Option Nat
  | [] => none
  | '0' :: 'x' :: rest => valueIn? 16 rest
  | '0' :: 'X' :: rest => valueIn? 16 rest
  | '0' :: digit :: rest => valueIn? 8 (digit :: rest)
  | letters => valueIn? 10 letters

/-- The parts of a dotted name, without an empty one at its end. -/
def dottedParts (letters : List Char) : List (List Char) :=
  let parts := split (· == '.') letters
  if parts.length > 1 && parts.getLast? == some [] then parts.dropLast else parts

/-- A name whose last part is a number can only be an IPv4 address. -/
def endsInNumber (letters : List Char) : Bool :=
  match (dottedParts letters).getLast? with
  | some last => (!last.isEmpty && last.all Char.isDigit) || (number? last).isSome
  | none => false

/-- Up to four numbers, of which the last fills all bytes that are left. -/
def ipv4? (letters : List Char) : Option Nat := do
  let parts := dottedParts letters
  if 4 < parts.length then none
  else do
    let numbers ← parts.mapM number?
    let last ← numbers.getLast?
    let leading := numbers.dropLast
    let room := Nat.pow 256 (4 - leading.length)
    if room ≤ last || leading.any (255 < ·) then none
    else
      let high := leading.foldl (fun value byte => value * 256 + byte) 0
      return high * room + last

def ipv4Text (address : Nat) : List Char :=
  let byte (place : Nat) := (toString (address / Nat.pow 256 place % 256)).toList
  byte 3 ++ '.' :: byte 2 ++ '.' :: byte 1 ++ '.' :: byte 0

/-- Four decimal bytes without leading zeros, as two pieces. -/
def embedded? (letters : List Char) : Option (List Nat) := do
  let bytes ← (split (· == '.') letters).mapM fun part => do
    let value ← if part.isEmpty then none else valueIn? 10 part
    if 255 < value || (part.length ≠ 1 && part.head? == some '0') then none else some value
  match bytes with
  | [first, second, third, fourth] => some [first * 256 + second, third * 256 + fourth]
  | _ => none

/-- Pieces of up to four hexadecimal digits with a colon between them; the last may be an embedded
IPv4 address. -/
def pieces? (letters : List Char) : Option (List Nat) :=
  if letters.isEmpty then some []
  else do
    let parts := split (· == ':') letters
    let piece? (part : List Char) : Option Nat :=
      if part.isEmpty || 4 < part.length then none else valueIn? 16 part
    let leading ← parts.dropLast.mapM piece?
    let last ← parts.getLast?
    let tail ← if last.contains '.' then embedded? last else (piece? last).map ([·])
    return leading ++ tail

/-- The place of the first two colons in a row, as the texts around it. -/
def splitGap : List Char → Option (List Char × List Char)
  | ':' :: ':' :: rest => some ([], rest)
  | letter :: rest => (splitGap rest).map fun (before, after) => (letter :: before, after)
  | [] => none

/-- Eight pieces, or fewer with one gap that stands for at least one zero piece. -/
def ipv6? (letters : List Char) : Option (List Nat) :=
  match splitGap letters with
  | none => do
      let pieces ← pieces? letters
      if pieces.length = 8 then some pieces else none
  | some (before, after) => do
      if before.contains '.' then none
      else do
        let front ← pieces? before
        let back ← pieces? after
        if 7 < front.length + back.length then none
        else return front ++ List.replicate (8 - front.length - back.length) 0 ++ back

/-- The length of the run of zero pieces at the front. -/
def zeroRun (pieces : List Nat) : Nat :=
  (pieces.takeWhile (· == 0)).length

/-- The first of the longest runs of zeros, as its place and its length. -/
def longestZeroRun (pieces : List Nat) : Nat × Nat :=
  (List.range pieces.length).foldl (fun (place, length) start =>
    let run := zeroRun (pieces.drop start)
    if length < run then (start, run) else (place, length)) (0, 0)

def piecesText (pieces : List Nat) : List Char :=
  (pieces.map (Nat.toDigits 16)).intersperse [':'] |>.flatten

/-- The longest run of at least two zero pieces is left out. -/
def ipv6Text (pieces : List Nat) : List Char :=
  let (place, length) := longestZeroRun pieces
  if length < 2 then piecesText pieces
  else piecesText (pieces.take place) ++ ':' :: ':' :: piecesText (pieces.drop (place + length))

end OrgFederation.Address
