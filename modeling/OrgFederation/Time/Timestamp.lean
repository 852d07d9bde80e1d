import OrgFederation.Time.Calendar

namespace OrgFederation

/-- A point in time: the second it falls in, counted from 1970-01-01T00:00:00Z, and nanoseconds.
From a thousand million nanoseconds on it lies in the leap second behind that second. -/
structure Timestamp where
  second : Int
  nanosecond : Nat
  deriving DecidableEq, Repr, Inhabited

namespace Timestamp

def nanosecondsPerSecond : Nat := 1000000000

def secondsPerDay : Int := 86400

/-- The whole second of a point in time. -/
def ofSecond (second : Int) : Timestamp :=
  ⟨second, 0⟩

/-- The digits of a number, filled with zeros from the left. -/
def padded (width number : Nat) : List Char :=
  let digits := Nat.toDigits 10 number
  List.replicate (width - digits.length) '0' ++ digits

/-- A year of four digits has no sign; any other has one and at least four digits. -/
def yearLetters (year : Int) : List Char :=
  if 0 ≤ year && year ≤ 9999 then padded 4 year.natAbs
  else (if year < 0 then '-' else '+') :: padded 4 year.natAbs

/-- A fraction has none, three, six or nine digits, the fewest that are exact. -/
def fractionLetters (nanosecond : Nat) : List Char :=
  if nanosecond = 0 then []
  else if nanosecond % 1000000 = 0 then '.' :: padded 3 (nanosecond / 1000000)
  else if nanosecond % 1000 = 0 then '.' :: padded 6 (nanosecond / 1000)
  else '.' :: padded 9 nanosecond

/-- The RFC 3339 text of a point in time. A leap second is the sixtieth of its minute. -/
def letters (time : Timestamp) : List Char :=
  let date := Calendar.dateOf (Int.fdiv time.second secondsPerDay)
  let secondOfDay := (Int.fmod time.second secondsPerDay).toNat
  let leap := nanosecondsPerSecond ≤ time.nanosecond
  let second := secondOfDay % 60 + if leap then 1 else 0
  let nanosecond := if leap then time.nanosecond - nanosecondsPerSecond else time.nanosecond
  yearLetters date.year ++ '-' :: padded 2 date.month ++ '-' :: padded 2 date.day ++ 'T' ::
    padded 2 (secondOfDay / 3600) ++ ':' :: padded 2 (secondOfDay / 60 % 60) ++ ':' ::
    padded 2 second ++ fractionLetters nanosecond ++ ['Z']

def text (time : Timestamp) : String :=
  String.ofList time.letters

end Timestamp

end OrgFederation
