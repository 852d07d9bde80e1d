import OrgFederation.Time.Calendar

namespace OrgFederation.Calendar

/-- The days before a year of an era. -/
def daysBefore (yearOfEra : Int) : Int :=
  365 * yearOfEra + yearOfEra / 4 - yearOfEra / 100

/-- The year of an era in which a day of the era falls. -/
def yearOf (dayOfEra : Int) : Int :=
  (dayOfEra - dayOfEra / 1460 + dayOfEra / 36524 - dayOfEra / 146096) / 365

/-- A day of an era falls into one of its years, and the last day of a leap year is one behind the
others. -/
structure FallsIn (dayOfEra yearOfEra : Int) : Prop where
  first : 0 ≤ yearOfEra
  last : yearOfEra ≤ 399
  starts : daysBefore yearOfEra ≤ dayOfEra
  ends : dayOfEra ≤ daysBefore yearOfEra + 365
  leaps : dayOfEra = daysBefore yearOfEra + 365 → isLeap (yearOfEra + 1)

theorem fallsIn_yearOf {dayOfEra : Int} (first : 0 ≤ dayOfEra) (last : dayOfEra < 146097) :
    FallsIn dayOfEra (yearOf dayOfEra) := by
  -- The last day of an era is the fifth day on which a century would begin.
  by_cases ending : dayOfEra = 146096
  · subst ending
    exact ⟨by decide, by decide, by decide, by decide, by decide⟩
  obtain ⟨century, isCentury⟩ : ∃ century, century = dayOfEra / 36524 := ⟨_, rfl⟩
  obtain ⟨year, isYear⟩ : ∃ year, year = yearOf dayOfEra := ⟨_, rfl⟩
  have unfolded : year = (dayOfEra - dayOfEra / 1460 + century) / 365 := by
    rw [isYear, yearOf, isCentury]
    congr 1
    omega
  have within : 100 * century ≤ year ∧ year ≤ 100 * century + 99 := by omega
  have ofCentury : year / 100 = century := by omega
  have leaping : daysBefore year ≤ dayOfEra ∧ dayOfEra ≤ daysBefore year + 365 ∧
      (dayOfEra = daysBefore year + 365 → year % 4 = 3 ∧ year % 100 ≠ 99) := by
    rw [daysBefore, ofCentury]
    omega
  rw [← isYear]
  refine ⟨by omega, by omega, leaping.1, leaping.2.1, fun atEnd => ?_⟩
  obtain ⟨fourth, ordinary⟩ := leaping.2.2 atEnd
  have divided : (year + 1) % 4 = 0 := by omega
  have undivided : (year + 1) % 100 ≠ 0 := by omega
  simp [isLeap, divided, undivided]

/-- Leap years are the same in every era. -/
theorem isLeap_add_era (year era : Int) : isLeap (year + era * 400) = isLeap year := by
  have fourth : (year + era * 400) % 4 = year % 4 := by omega
  have hundredth : (year + era * 400) % 100 = year % 100 := by omega
  have whole : (year + era * 400) % 400 = year % 400 := by omega
  rw [isLeap, isLeap, fourth, hundredth, whole]

/-- The days before a month of a year that starts in March. -/
def daysBeforeMonth (month : Int) : Int :=
  (153 * month + 2) / 5

/-- The date of a place in the calendar: the day and the month count from zero, and the year of the
era starts in March. -/
def dateAt (era yearOfEra month day : Int) : Date :=
  ⟨if month < 10 then yearOfEra + era * 400 else yearOfEra + era * 400 + 1,
    (if month < 10 then month + 3 else month - 9).toNat, (day + 1).toNat⟩

/-- A place in the calendar is one of a year, a month and a day of an era. -/
structure IsPlace (yearOfEra month day : Int) : Prop where
  firstYear : 0 ≤ yearOfEra
  lastYear : yearOfEra ≤ 399
  firstMonth : 0 ≤ month
  lastMonth : month ≤ 11
  firstDay : 0 ≤ day
  lastDay : day < daysInMonth (dateAt 0 yearOfEra month day).year (dateAt 0 yearOfEra month day).month

/-- The day of a place in the calendar. -/
def dayAt (era yearOfEra month day : Int) : Int :=
  era * daysPerEra + daysBefore yearOfEra + daysBeforeMonth month + day - 719468

theorem dayOf_dateAt {era yearOfEra month day : Int} (isPlace : IsPlace yearOfEra month day) :
    dayOf (dateAt era yearOfEra month day) = dayAt era yearOfEra month day := by
  obtain ⟨firstYear, lastYear, firstMonth, lastMonth, firstDay, -⟩ := isPlace
  have year : (if (dateAt era yearOfEra month day).month ≤ 2
      then (dateAt era yearOfEra month day).year - 1
      else (dateAt era yearOfEra month day).year) = yearOfEra + era * 400 := by
    simp only [dateAt]
    split <;> split <;> omega
  have shifted : (((dateAt era yearOfEra month day).month + 9) % 12 : Nat) = month := by
    simp only [dateAt]
    split <;> omega
  have ofMonth : ((dateAt era yearOfEra month day).day : Int) = day + 1 := by
    simp only [dateAt]
    omega
  have whole : (yearOfEra + era * 400) / 400 = era := by omega
  simp (disch := decide) only [dayOf, year, shifted, ofMonth, Int.fdiv_eq_ediv_of_nonneg, whole,
    dayAt, daysBefore, daysBeforeMonth, Int.add_sub_cancel]
  omega

/-- A day of a year lies in one of its months. -/
theorem exists_month {dayOfYear : Int} (first : 0 ≤ dayOfYear) (last : dayOfYear ≤ 365) :
    ∃ month, month = (5 * dayOfYear + 2) / 153 ∧ 0 ≤ month ∧ month ≤ 11 ∧
      daysBeforeMonth month ≤ dayOfYear ∧
      (month < 11 → dayOfYear < daysBeforeMonth (month + 1)) := by
  refine ⟨_, rfl, ?_⟩
  simp only [daysBeforeMonth]
  omega

/-- Only February, the last month of a year that starts in March, differs from year to year. -/
theorem daysInMonth_dateAt {yearOfEra month day : Int} (firstMonth : 0 ≤ month)
    (ordinary : month < 11) :
    (daysInMonth (dateAt 0 yearOfEra month day).year (dateAt 0 yearOfEra month day).month : Int) =
      daysBeforeMonth (month + 1) - daysBeforeMonth month := by
  obtain ⟨month, rfl⟩ := Int.eq_ofNat_of_zero_le firstMonth
  have below : month < 11 := by omega
  match month with
  | 0 | 1 | 2 | 3 | 4 | 5 | 6 | 7 | 8 | 9 | 10 => rfl

/-- The date of a day is that of the place to which the divisions lead. -/
theorem dateOf_eq {day era dayOfEra dayOfYear month : Int} (isEra : era = (day + 719468) / daysPerEra)
    (isDay : dayOfEra = day + 719468 - era * daysPerEra)
    (ofYear : dayOfYear = dayOfEra - daysBefore (yearOf dayOfEra))
    (isMonth : month = (5 * dayOfYear + 2) / 153) (first : 0 ≤ month) (last : month ≤ 11) :
    dateOf day = dateAt era (yearOf dayOfEra) month (dayOfYear - daysBeforeMonth month) := by
  simp (disch := decide) only [dateOf, dateAt, Int.fdiv_eq_ediv_of_nonneg, ← isEra, ← isDay]
  rw [← yearOf, ← daysBefore, ← ofYear, ← isMonth, ← daysBeforeMonth]
  by_cases early : month < 10
  · simp only [early, if_true]
    rw [if_neg (by omega)]
  · simp only [early, if_false]
    rw [if_pos (by omega)]

/-- Every day has its place in the calendar, and its date is that of the place. -/
theorem exists_place (day : Int) :
    ∃ era yearOfEra month dayOfMonth, IsPlace yearOfEra month dayOfMonth ∧
      dateOf day = dateAt era yearOfEra month dayOfMonth ∧
      day = dayAt era yearOfEra month dayOfMonth := by
  obtain ⟨era, isEra⟩ : ∃ era, era = (day + 719468) / daysPerEra := ⟨_, rfl⟩
  obtain ⟨dayOfEra, isDay⟩ : ∃ dayOfEra, dayOfEra = day + 719468 - era * daysPerEra := ⟨_, rfl⟩
  have falls : FallsIn dayOfEra (yearOf dayOfEra) := by
    rw [daysPerEra] at isEra isDay
    exact fallsIn_yearOf (by omega) (by omega)
  obtain ⟨dayOfYear, ofYear⟩ :
    ∃ dayOfYear, dayOfYear = dayOfEra - daysBefore (yearOf dayOfEra) := ⟨_, rfl⟩
  obtain ⟨firstYear, lastYear, starts, ends, leaps⟩ := falls
  obtain ⟨month, isMonth, firstMonth, lastMonth, begun, within⟩ :=
    exists_month (by omega : 0 ≤ dayOfYear) (by omega)
  have lastDay : dayOfYear - daysBeforeMonth month <
      daysInMonth (dateAt 0 (yearOf dayOfEra) month (dayOfYear - daysBeforeMonth month)).year
        (dateAt 0 (yearOf dayOfEra) month (dayOfYear - daysBeforeMonth month)).month := by
    by_cases february : month = 11
    · subst february
      have length : daysInMonth (dateAt 0 (yearOf dayOfEra) 11 (dayOfYear - daysBeforeMonth 11)).year
          (dateAt 0 (yearOf dayOfEra) 11 (dayOfYear - daysBeforeMonth 11)).month =
            if isLeap (yearOf dayOfEra + 1) then 29 else 28 := by
        simp [dateAt, daysInMonth]
      have before : daysBeforeMonth 11 = 337 := rfl
      rw [length, before]
      split
      · omega
      · have : dayOfEra ≠ daysBefore (yearOf dayOfEra) + 365 := fun atEnd =>
          absurd (leaps atEnd) ‹_›
        omega
    · rw [daysInMonth_dateAt firstMonth (by omega)]
      have := within (by omega)
      omega
  refine ⟨era, yearOf dayOfEra, month, dayOfYear - daysBeforeMonth month,
    ⟨firstYear, lastYear, firstMonth, lastMonth, by omega, lastDay⟩,
    dateOf_eq isEra isDay ofYear isMonth firstMonth lastMonth, ?_⟩
  rw [dayAt]
  omega

/-- The day of the date of a day is the day itself. -/
theorem dayOf_dateOf (day : Int) : dayOf (dateOf day) = day := by
  obtain ⟨era, yearOfEra, month, dayOfMonth, isPlace, date, place⟩ := exists_place day
  rw [date, dayOf_dateAt isPlace, ← place]

/-- Months are as long in every era. -/
theorem daysInMonth_era (era yearOfEra month day : Int) :
    daysInMonth (dateAt era yearOfEra month day).year (dateAt era yearOfEra month day).month =
      daysInMonth (dateAt 0 yearOfEra month day).year (dateAt 0 yearOfEra month day).month := by
  have leaps : isLeap (dateAt era yearOfEra month day).year =
      isLeap (dateAt 0 yearOfEra month day).year := by
    simp only [dateAt]
    split
    · rw [isLeap_add_era, isLeap_add_era]
    · rw [Int.add_right_comm, isLeap_add_era, Int.add_right_comm, isLeap_add_era]
  simp only [daysInMonth, leaps]
  rfl

theorem daysInMonth_le (year : Int) (month : Nat) : daysInMonth year month ≤ 31 := by
  unfold daysInMonth
  split
  · split <;> decide
  all_goals decide

/-- A place between the first and the last date lies in a year with dates. -/
theorem year_dateAt_bounds {era yearOfEra month day : Int} (isPlace : IsPlace yearOfEra month day)
    (first : dayOf ⟨firstYear, 1, 1⟩ ≤ dayAt era yearOfEra month day)
    (last : dayAt era yearOfEra month day ≤ dayOf ⟨lastYear, 12, 31⟩) :
    firstYear ≤ (dateAt era yearOfEra month day).year ∧
      (dateAt era yearOfEra month day).year ≤ lastYear := by
  have firstDate : dayOf ⟨firstYear, 1, 1⟩ = -96465292 := by decide
  have lastDate : dayOf ⟨lastYear, 12, 31⟩ = 95026236 := by decide
  have long := daysInMonth_le (dateAt 0 yearOfEra month day).year
    (dateAt 0 yearOfEra month day).month
  obtain ⟨startYear, endYear, firstMonth, lastMonth, firstDay, lastDay⟩ := isPlace
  rw [firstDate, dayAt, daysPerEra, daysBefore, daysBeforeMonth] at first
  rw [lastDate, dayAt, daysPerEra, daysBefore, daysBeforeMonth] at last
  have short : day ≤ 30 := by omega
  clear long lastDay
  -- A place outside of these years would lie in the first or in the last era that is begun.
  have notBefore : ¬(yearOfEra + era * 400 < -262144 ∨
      (month < 10 ∧ yearOfEra + era * 400 = -262144)) := by
    intro early
    have isEra : era = -656 := by omega
    subst isEra
    omega
  have notAfter : ¬(262142 < yearOfEra + era * 400 ∨
      (10 ≤ month ∧ yearOfEra + era * 400 = 262142)) := by
    intro late
    have isEra : era = 655 := by omega
    subst isEra
    omega
  clear first last
  simp only [dateAt, firstYear, lastYear]
  split <;> constructor <;> omega

/-- The date of a day exists when the day lies between the first and the last date. -/
theorem dateOf_exists {day : Int} (first : dayOf ⟨firstYear, 1, 1⟩ ≤ day)
    (last : day ≤ dayOf ⟨lastYear, 12, 31⟩) : (dateOf day).exists := by
  obtain ⟨era, yearOfEra, month, dayOfMonth, isPlace, date, place⟩ := exists_place day
  obtain ⟨notBefore, notAfter⟩ := year_dateAt_bounds isPlace (place ▸ first) (place ▸ last)
  obtain ⟨-, -, firstMonth, lastMonth, firstDay, lastDay⟩ := isPlace
  rw [← daysInMonth_era era] at lastDay
  have months : 1 ≤ (dateAt era yearOfEra month dayOfMonth).month ∧
      (dateAt era yearOfEra month dayOfMonth).month ≤ 12 := by
    simp only [dateAt]
    split <;> omega
  have days : 1 ≤ (dateAt era yearOfEra month dayOfMonth).day ∧
      (dateAt era yearOfEra month dayOfMonth).day ≤
        daysInMonth (dateAt era yearOfEra month dayOfMonth).year
          (dateAt era yearOfEra month dayOfMonth).month := by
    generalize daysInMonth _ _ = length at *
    simp only [dateAt]
    omega
  simp [date, Date.exists, notBefore, notAfter, months, days]

end OrgFederation.Calendar
