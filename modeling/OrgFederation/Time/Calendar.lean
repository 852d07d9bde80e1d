namespace OrgFederation.Calendar

/-- A date of the calendar; a year may be zero or negative. -/
structure Date where
  year : Int
  month : Nat
  day : Nat
  deriving DecidableEq, Repr

/-- Every fourth year is a leap year, except three in four centuries. -/
def isLeap (year : Int) : Bool :=
  year % 4 == 0 && (year % 100 != 0 || year % 400 == 0)

def daysInMonth (year : Int) (month : Nat) : Nat :=
  match month with
  | 2 => if isLeap year then 29 else 28
  | 4 | 6 | 9 | 11 => 30
  | _ => 31

/-- The first and last year with dates. -/
def firstYear : Int := -262143

def lastYear : Int := 262142

/-- A date exists when its month and day do, in a year with dates. -/
def Date.exists (date : Date) : Bool :=
  firstYear ≤ date.year && date.year ≤ lastYear && 1 ≤ date.month && date.month ≤ 12 &&
    1 ≤ date.day && date.day ≤ daysInMonth date.year date.month

/-- The days of an era of four hundred years. -/
def daysPerEra : Int := 146097

/-- The day of a date. Years are counted from March, so that the leap day is the last day of its
year and a month starts `(153 * month + 2) / 5` days after March. -/
def dayOf (date : Date) : Int :=
  let year := if date.month ≤ 2 then date.year - 1 else date.year
  let month : Int := ((date.month + 9) % 12 : Nat)
  let era := Int.fdiv year 400
  let yearOfEra := year - era * 400
  let dayOfYear := Int.fdiv (153 * month + 2) 5 + date.day - 1
  let dayOfEra := yearOfEra * 365 + Int.fdiv yearOfEra 4 - Int.fdiv yearOfEra 100 + dayOfYear
  era * daysPerEra + dayOfEra - 719468

/-- The date of a day. -/
def dateOf (day : Int) : Date :=
  let shifted := day + 719468
  let era := Int.fdiv shifted daysPerEra
  let dayOfEra := shifted - era * daysPerEra
  let yearOfEra := Int.fdiv
    (dayOfEra - Int.fdiv dayOfEra 1460 + Int.fdiv dayOfEra 36524 - Int.fdiv dayOfEra 146096) 365
  let dayOfYear := dayOfEra - (365 * yearOfEra + Int.fdiv yearOfEra 4 - Int.fdiv yearOfEra 100)
  let shiftedMonth := Int.fdiv (5 * dayOfYear + 2) 153
  let dayOfMonth := dayOfYear - Int.fdiv (153 * shiftedMonth + 2) 5 + 1
  let month := if shiftedMonth < 10 then shiftedMonth + 3 else shiftedMonth - 9
  let year := yearOfEra + era * 400
  ⟨if month ≤ 2 then year + 1 else year, month.toNat, dayOfMonth.toNat⟩

end OrgFederation.Calendar
