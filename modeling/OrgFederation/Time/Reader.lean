/-
This file reads a point in time from RFC 3339 text with any offset. The reader is lenient: fields
may lack leading zeros, a blank may stand before a number or a separator, and digits of the
fraction beyond the ninth are dropped.
-/

import OrgFederation.Time.Timestamp
import OrgFederation.Text.Blank

namespace OrgFederation.Timestamp

open Text (isBlank dropBlanks)

namespace Reader

/-- The digits at the front of a text, at most `most` of them, and what follows. -/
def digits : Nat → List Char → List Nat × List Char
  | most + 1, letter :: rest =>
      if letter.isDigit then
        let (others, after) := digits most rest
        ((letter.toNat - 48) :: others, after)
      else
        ([], letter :: rest)
  | _, letters => ([], letters)

def valueOf (digits : List Nat) : Nat :=
  digits.foldl (fun value digit => value * 10 + digit) 0

/-- A number of at least one and at most `most` digits. -/
def number? (most : Nat) (letters : List Char) : Option (Nat × List Char) :=
  match digits most letters with
  | ([], _) => none
  | (found, rest) => some (valueOf found, rest)

/-- A field of a date or time is a number of at most two digits behind optional blanks. -/
def field? (least greatest : Nat) (letters : List Char) : Option (Nat × List Char) := do
  let (value, rest) ← number? 2 (dropBlanks letters)
  if least ≤ value && value ≤ greatest then some (value, rest) else none

/-- A year without sign has at most four digits. -/
def year? (letters : List Char) : Option (Int × List Char) :=
  match dropBlanks letters with
  | '-' :: rest => do
      let (value, rest) ← number? rest.length rest
      return (-(value : Int), rest)
  | '+' :: rest => do
      let (value, rest) ← number? rest.length rest
      return ((value : Int), rest)
  | letters => do
      let (value, rest) ← number? 4 letters
      return ((value : Int), rest)

/-- A separator stands behind optional blanks. -/
def separator? (separator : Char) (letters : List Char) : Option (List Char) :=
  match dropBlanks letters with
  | letter :: rest => if letter == separator then some rest else none
  | [] => none

def date? (letters : List Char) : Option (Calendar.Date × List Char) := do
  let (year, rest) ← year? letters
  let rest ← separator? '-' rest
  let (month, rest) ← field? 1 12 rest
  let rest ← separator? '-' rest
  let (day, rest) ← field? 1 31 rest
  return (⟨year, month, day⟩, rest)

/-- A date and a time are parted by a letter T or one space. -/
def parting? : List Char → Option (List Char)
  | 'T' :: rest => some rest
  | 't' :: rest => some rest
  | ' ' :: rest => some rest
  | _ => none

/-- The nanoseconds of a fraction are its first nine digits. -/
def fraction? : List Char → Option (Nat × List Char)
  | '.' :: rest =>
      match digits 9 rest with
      | ([], _) => none
      | (found, rest) =>
          some (valueOf found * Nat.pow 10 (9 - found.length), rest.dropWhile Char.isDigit)
  | letters => some (0, letters)

/-- The time of a day: its second, and the nanoseconds behind it. The sixtieth second of a minute is
the leap second behind the fifty-ninth. -/
def time? (letters : List Char) : Option (Nat × Nat × List Char) := do
  let (hour, rest) ← field? 0 23 letters
  let rest ← separator? ':' rest
  let (minute, rest) ← field? 0 59 rest
  let rest ← separator? ':' rest
  let (second, rest) ← field? 0 60 rest
  let (nanosecond, rest) ← fraction? rest
  let leap := second == 60
  return (hour * 3600 + minute * 60 + (if leap then 59 else second),
    nanosecond + (if leap then nanosecondsPerSecond else 0), rest)

/-- Two digits of a number. -/
def pair? : List Char → Option (Nat × List Char)
  | first :: second :: rest =>
      if first.isDigit && second.isDigit then
        some ((first.toNat - 48) * 10 + (second.toNat - 48), rest)
      else
        none
  | _ => none

/-- The seconds by which local time is ahead of UTC: hours and minutes of two digits each with
colons or blanks between them, less than a day in all. -/
def hoursAndMinutes? (letters : List Char) : Option (Int × List Char) := do
  let (hours, rest) ← pair? letters
  let (minutes, rest) ← pair? (rest.dropWhile fun letter => letter == ':' || isBlank letter)
  if 59 < minutes || 23 < hours then none
  else return ((hours : Int) * 3600 + (minutes : Int) * 60, rest)

/-- An offset is the letter Z, the word UTC or a signed length of time. -/
def offset? (letters : List Char) : Option (Int × List Char) :=
  match letters with
  | first :: second :: third :: rest =>
      if [first, second, third].map Char.toUpper == ['U', 'T', 'C'] then some (0, rest)
      else signed? (first :: second :: third :: rest)
  | letters => signed? letters
where
  signed? : List Char → Option (Int × List Char)
    | 'Z' :: rest => some (0, rest)
    | 'z' :: rest => some (0, rest)
    | '+' :: rest => hoursAndMinutes? rest
    | '-' :: rest => (hoursAndMinutes? rest).map fun (ahead, rest) => (-ahead, rest)
    | '\u2212' :: rest => (hoursAndMinutes? rest).map fun (ahead, rest) => (-ahead, rest)
    | _ => none

end Reader

/-- The first and the last second of all dates. -/
def firstSecond : Int :=
  Calendar.dayOf ⟨Calendar.firstYear, 1, 1⟩ * secondsPerDay

def lastSecond : Int :=
  Calendar.dayOf ⟨Calendar.lastYear, 12, 31⟩ * secondsPerDay + secondsPerDay - 1

/-- The point in time of a text. -/
def ofLetters? (letters : List Char) : Option Timestamp := do
  let (date, rest) ← Reader.date? letters
  let rest ← Reader.parting? rest
  let (secondOfDay, nanosecond, rest) ← Reader.time? rest
  let (ahead, rest) ← Reader.offset? (dropBlanks rest)
  let second := Calendar.dayOf date * secondsPerDay + secondOfDay - ahead
  if (dropBlanks rest).isEmpty && date.exists && firstSecond ≤ second && second ≤ lastSecond then
    some ⟨second, nanosecond⟩
  else
    none

/-- The point in time of a text. -/
def ofText? (text : String) : Option Timestamp :=
  ofLetters? text.toList

end OrgFederation.Timestamp
