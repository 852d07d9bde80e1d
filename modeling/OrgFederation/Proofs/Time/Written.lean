import OrgFederation.Proofs.Time.Calendar
import OrgFederation.Time.Codec

namespace OrgFederation.Timestamp

open Text (isBlank dropBlanks)

/-- A point in time within the calendar. A leap second lies behind the last second of a minute. -/
structure Valid (time : Timestamp) : Prop where
  first : firstSecond ≤ time.second
  last : time.second ≤ lastSecond
  short : time.nanosecond < 2 * nanosecondsPerSecond
  leap : nanosecondsPerSecond ≤ time.nanosecond → time.second % 60 = 59

namespace Reader

/-- The letters of a number are digits. -/
theorem isDigit_of_mem_padded {width number : Nat} {letter : Char}
    (member : letter ∈ padded width number) : letter.isDigit := by
  rw [padded, List.mem_append] at member
  rcases member with zero | digit
  · rw [List.eq_of_mem_replicate zero]
    decide
  · exact Nat.isDigit_of_mem_toDigits (by decide) (by decide) digit

/-- A number that fits the width is written in as many letters. -/
theorem length_padded {width number : Nat} (wide : 0 < width) (fits : number < Nat.pow 10 width) :
    (padded width number).length = width := by
  have short := (Nat.length_toDigits_le_iff (by decide) wide).mpr fits
  rw [padded, List.length_append, List.length_replicate]
  omega

/-- A number starts with a digit. -/
theorem exists_cons_padded (width number : Nat) :
    ∃ letter others, padded width number = letter :: others ∧ letter.isDigit := by
  have filled : padded width number ≠ [] := by simp [padded, Nat.toDigits_ne_nil]
  obtain ⟨letter, others, letters⟩ := List.exists_cons_of_ne_nil filled
  exact ⟨letter, others, letters, isDigit_of_mem_padded (letters ▸ List.mem_cons_self)⟩

/-- The values of the letters of a number make up the number. -/
theorem valueOf_padded (width number : Nat) :
    valueOf ((padded width number).map fun letter => letter.toNat - 48) = number := by
  have same (letters : List Char) (start : Nat) :
      (letters.map fun letter => letter.toNat - 48).foldl (fun value digit => value * 10 + digit)
        start = Nat.ofDigitChars 10 letters start := by
    rw [List.foldl_map, Nat.ofDigitChars]
    simp only [Nat.mul_comm]
    rfl
  rw [valueOf, same, padded, Nat.ofDigitChars_append, Nat.ofDigitChars_replicate_zero,
    Nat.mul_zero, Nat.ofDigitChars_ten_toDigits]

/-- Digits are read up to their bound or up to a letter that is none. -/
theorem digits_append {most : Nat} {found rest : List Char}
    (all : ∀ letter ∈ found, letter.isDigit) (fits : found.length ≤ most)
    (ends : found.length = most ∨ ∀ letter ∈ rest.head?, letter.isDigit = false) :
    digits most (found ++ rest) = (found.map fun letter => letter.toNat - 48, rest) := by
  induction found generalizing most with
  | nil =>
      cases rest with
      | nil => cases most <;> rfl
      | cons letter rest =>
          cases most with
          | zero => rfl
          | succ most =>
              have none : letter.isDigit = false := by simpa using ends
              simp [digits, none]
  | cons letter found ih =>
      cases most with
      | zero => simp at fits
      | succ most =>
          obtain ⟨here, others⟩ := List.forall_mem_cons.mp all
          have further := ih others (by simpa using fits) (by simpa using ends)
          simp [digits, here, further]

/-- A number is read back up to its width or up to a letter that is no digit. -/
theorem number_padded {most width number : Nat} {rest : List Char}
    (fits : (padded width number).length ≤ most)
    (ends : (padded width number).length = most ∨
      ∀ letter ∈ rest.head?, letter.isDigit = false) :
    number? most (padded width number ++ rest) = some (number, rest) := by
  have value := valueOf_padded width number
  rw [number?, digits_append (fun _ => isDigit_of_mem_padded) fits ends]
  obtain ⟨letter, others, letters, -⟩ := exists_cons_padded width number
  rw [letters, List.map_cons] at value
  simp only [letters, List.map_cons, value]

/-- No blank stands before a number. -/
theorem dropBlanks_padded (width number : Nat) (rest : List Char) :
    dropBlanks (padded width number ++ rest) = padded width number ++ rest := by
  obtain ⟨letter, others, letters, digit⟩ := exists_cons_padded width number
  have solid : isBlank letter = false := by
    rw [Char.isDigit_iff_toNat] at digit
    obtain ⟨least, most⟩ : 48 ≤ letter.toNat ∧ letter.toNat ≤ 57 := digit
    simp only [isBlank, Bool.or_eq_false_iff, Bool.and_eq_false_iff, decide_eq_false_iff_not,
      beq_eq_false_iff_ne]
    omega
  rw [letters, List.cons_append, dropBlanks, List.dropWhile_cons_of_neg (by simp [solid])]

/-- A field of two letters is read back. -/
theorem field_padded {least greatest number : Nat} (notBelow : least ≤ number)
    (notAbove : number ≤ greatest) (short : greatest < 100) (rest : List Char) :
    field? least greatest (padded 2 number ++ rest) = some (number, rest) := by
  have fits : number < 100 := by omega
  have width : (padded 2 number).length = 2 := length_padded (by decide) fits
  rw [field?, dropBlanks_padded, number_padded (by omega) (.inl width)]
  simp [notBelow, notAbove]

/-- A separator is read where it stands. -/
theorem separator_self (separator : Char) (solid : isBlank separator = false) (rest : List Char) :
    separator? separator (separator :: rest) = some rest := by
  rw [separator?, dropBlanks, List.dropWhile_cons_of_neg (by simp [solid])]
  simp

/-- A year is read back up to the hyphen behind it. -/
theorem year_letters (year : Int) (rest : List Char) :
    year? (yearLetters year ++ '-' :: rest) = some (year, '-' :: rest) := by
  have hyphen : ∀ letter ∈ ('-' :: rest).head?, letter.isDigit = false := by
    rintro letter ⟨⟩
    rfl
  have signed : number? (padded 4 year.natAbs ++ '-' :: rest).length
      (padded 4 year.natAbs ++ '-' :: rest) = some (year.natAbs, '-' :: rest) :=
    number_padded (by simp) (.inr hyphen)
  rw [yearLetters]
  by_cases plain : 0 ≤ year ∧ year ≤ 9999
  · have fits : year.natAbs < 10000 := by omega
    have width : (padded 4 year.natAbs).length = 4 := length_padded (by decide) fits
    have unsigned : number? 4 (padded 4 year.natAbs ++ '-' :: rest) =
        some (year.natAbs, '-' :: rest) := number_padded (by omega) (.inl width)
    have value : (year.natAbs : Int) = year := by omega
    rw [if_pos (by simp [plain]), year?, dropBlanks_padded]
    have digit : ∀ letter ∈ (padded 4 year.natAbs ++ '-' :: rest).head?, letter.isDigit := by
      obtain ⟨letter, others, letters, digit⟩ := exists_cons_padded 4 year.natAbs
      rw [letters]
      rintro _ ⟨⟩
      exact digit
    split
    · next same => exact absurd (digit '-' (by simp [same])) (by decide)
    · next same => exact absurd (digit '+' (by simp [same])) (by decide)
    · simp only [unsigned, Option.bind_eq_bind, Option.bind_some, value, Option.pure_def]
  · rw [if_neg (by simpa using plain), List.cons_append, year?]
    by_cases negative : year < 0
    · have value : -(year.natAbs : Int) = year := by omega
      rw [if_pos negative, dropBlanks, List.dropWhile_cons_of_neg (by decide)]
      simp only [signed, Option.bind_eq_bind, Option.bind_some, value, Option.pure_def]
    · have value : (year.natAbs : Int) = year := by omega
      rw [if_neg negative, dropBlanks, List.dropWhile_cons_of_neg (by decide)]
      simp only [signed, Option.bind_eq_bind, Option.bind_some, value, Option.pure_def]

/-- The date of a day is read back. -/
theorem date_letters (date : Calendar.Date) (month : 1 ≤ date.month ∧ date.month ≤ 12)
    (day : 1 ≤ date.day ∧ date.day ≤ 31) (rest : List Char) :
    date? (yearLetters date.year ++ '-' :: (padded 2 date.month ++ '-' ::
      (padded 2 date.day ++ rest))) = some (date, rest) := by
  simp only [date?, year_letters, separator_self '-' (by decide), Option.bind_eq_bind,
    Option.bind_some, field_padded month.1 month.2 (by decide),
    field_padded day.1 day.2 (by decide), Option.pure_def]

/-- A fraction is read back up to the letter behind it. -/
theorem fraction_letters {nanosecond : Nat} (short : nanosecond < nanosecondsPerSecond) :
    fraction? (fractionLetters nanosecond ++ ['Z']) = some (nanosecond, ['Z']) := by
  have read {width number : Nat} (wide : 0 < width) (fits : number < 10 ^ width) (few : width ≤ 9) :
      fraction? ('.' :: (padded width number ++ ['Z'])) =
        some (number * 10 ^ (9 - width), ['Z']) := by
    have length := length_padded wide fits
    have value := valueOf_padded width number
    rw [fraction?, digits_append (fun _ => isDigit_of_mem_padded) (by omega)
      (.inr (by simp [Char.isDigit]))]
    obtain ⟨letter, others, letters, -⟩ := exists_cons_padded width number
    rw [letters, List.map_cons] at value
    rw [letters, List.length_cons] at length
    simp [letters, value, length, Char.isDigit]
  rw [nanosecondsPerSecond] at short
  rw [fractionLetters]
  split
  · next none => rw [none]; rfl
  · split
    · have value : nanosecond / 1000000 * 10 ^ (9 - 3) = nanosecond := by omega
      rw [List.cons_append, read (by decide) (by omega) (by decide), value]
    · split
      · have value : nanosecond / 1000 * 10 ^ (9 - 6) = nanosecond := by omega
        rw [List.cons_append, read (by decide) (by omega) (by decide), value]
      · rw [List.cons_append, read (by decide) (by omega) (by decide), Nat.sub_self, Nat.pow_zero,
          Nat.mul_one]

/-- The time of a day is read back, also in a leap second. -/
theorem time_letters {secondOfDay nanosecond : Nat} (inDay : secondOfDay < 86400)
    (short : nanosecond < 2 * nanosecondsPerSecond)
    (leap : nanosecondsPerSecond ≤ nanosecond → secondOfDay % 60 = 59) :
    time? (padded 2 (secondOfDay / 3600) ++ ':' :: (padded 2 (secondOfDay / 60 % 60) ++
      ':' :: (padded 2 (secondOfDay % 60 + if nanosecondsPerSecond ≤ nanosecond then 1 else 0) ++
        (fractionLetters (if nanosecondsPerSecond ≤ nanosecond
          then nanosecond - nanosecondsPerSecond else nanosecond) ++ ['Z'])))) =
      some (secondOfDay, nanosecond, ['Z']) := by
  have second : (secondOfDay % 60 + if nanosecondsPerSecond ≤ nanosecond then 1 else 0) ≤ 60 := by
    split <;> omega
  have fraction : (if nanosecondsPerSecond ≤ nanosecond
      then nanosecond - nanosecondsPerSecond else nanosecond) < nanosecondsPerSecond := by
    split <;> omega
  simp only [time?, Option.bind_eq_bind, Option.bind_some, separator_self ':' (by decide),
    field_padded (Nat.zero_le _) (by omega : secondOfDay / 3600 ≤ 23) (by decide),
    field_padded (Nat.zero_le _) (by omega : secondOfDay / 60 % 60 ≤ 59) (by decide),
    field_padded (Nat.zero_le _) second (by decide), fraction_letters fraction, Option.pure_def,
    Option.some.injEq, Prod.mk.injEq, and_true, beq_iff_eq]
  by_cases late : nanosecondsPerSecond ≤ nanosecond
  · have last := leap late
    simp only [late, if_true, last]
    omega
  · have before : secondOfDay % 60 + 0 ≠ 60 := by omega
    simp only [late, if_false, before]
    omega

end Reader

/-- The text of a point in time within the calendar is read as that point. -/
theorem ofText_text {time : Timestamp} (valid : time.Valid) : ofText? time.text = some time := by
  obtain ⟨second, nanosecond⟩ := time
  obtain ⟨first, last, short, leap⟩ := valid
  simp only at first last short leap
  obtain ⟨secondOfDay, isSecond⟩ : ∃ secondOfDay : Nat,
      secondOfDay = (second % secondsPerDay).toNat := ⟨_, rfl⟩
  obtain ⟨day, isDay⟩ : ∃ day, day = second / secondsPerDay := ⟨_, rfl⟩
  have parts : day * secondsPerDay + secondOfDay = second ∧ secondOfDay < 86400 := by
    rw [secondsPerDay] at *
    omega
  have leap : nanosecondsPerSecond ≤ nanosecond → secondOfDay % 60 = 59 := by
    rw [secondsPerDay] at *
    omega
  have dated : (Calendar.dateOf day).exists := by
    rw [firstSecond, secondsPerDay] at first
    rw [lastSecond, secondsPerDay] at last
    rw [secondsPerDay] at parts
    exact Calendar.dateOf_exists (by omega) (by omega)
  have bounds := dated
  simp only [Calendar.Date.exists, Bool.and_eq_true, decide_eq_true_eq] at bounds
  obtain ⟨⟨⟨⟨_, leastMonth⟩, greatestMonth⟩, leastDay⟩, greatestDay⟩ := bounds
  have inMonth := Calendar.daysInMonth_le (Calendar.dateOf day).year (Calendar.dateOf day).month
  have date (rest : List Char) := Reader.date_letters (Calendar.dateOf day)
    ⟨leastMonth, greatestMonth⟩ ⟨leastDay, by omega⟩ rest
  have time := Reader.time_letters parts.2 short leap
  rw [ofText?, text, String.toList_ofList, ofLetters?, letters]
  simp (disch := decide) only [Int.fdiv_eq_ediv_of_nonneg, Int.fmod_eq_emod_of_nonneg, ← isDay,
    ← isSecond, List.append_assoc, List.cons_append, date, time, Option.bind_eq_bind,
    Option.bind_some, Reader.parting?]
  have reached : Calendar.dayOf (Calendar.dateOf day) * secondsPerDay + secondOfDay - 0 = second := by
    rw [Calendar.dayOf_dateOf]
    omega
  have offset : Reader.offset? (dropBlanks ['Z']) = some (0, []) := rfl
  have nothing : (dropBlanks []).isEmpty = true := rfl
  simp only [offset, Option.bind_some, reached, nothing, dated, first, last, decide_true,
    Bool.and_self, if_true]

namespace Reader

theorem length_digits_le (most : Nat) (letters : List Char) :
    (digits most letters).1.length ≤ most := by
  induction most generalizing letters with
  | zero => simp [digits]
  | succ most ih =>
      cases letters with
      | nil => simp [digits]
      | cons letter rest =>
          rw [digits]
          split
          · simpa using ih rest
          · simp

theorem digits_lt_ten (most : Nat) (letters : List Char) :
    ∀ digit ∈ (digits most letters).1, digit < 10 := by
  induction most generalizing letters with
  | zero => simp [digits]
  | succ most ih =>
      cases letters with
      | nil => simp [digits]
      | cons letter rest =>
          rw [digits]
          split
          · next isDigit =>
              obtain ⟨least, greatest⟩ : 48 ≤ letter.toNat ∧ letter.toNat ≤ 57 :=
                Char.isDigit_iff_toNat.mp isDigit
              exact List.forall_mem_cons.mpr ⟨by omega, ih rest⟩
          · simp

/-- Digits make up a number below the power of ten of their number. -/
theorem valueOf_lt {found : List Nat} (digit : ∀ value ∈ found, value < 10) :
    valueOf found < Nat.pow 10 found.length := by
  have general (found : List Nat) (digit : ∀ value ∈ found, value < 10) (start : Nat) :
      found.foldl (fun value digit => value * 10 + digit) start < (start + 1) * 10 ^ found.length := by
    induction found generalizing start with
    | nil => simp
    | cons first rest ih =>
        obtain ⟨small, others⟩ := List.forall_mem_cons.mp digit
        refine Nat.lt_of_lt_of_le (ih others _) ?_
        rw [List.length_cons, Nat.pow_succ, Nat.mul_comm _ 10, ← Nat.mul_assoc]
        refine Nat.mul_le_mul_right _ ?_
        show start * 10 + first + 1 ≤ (start + 1) * 10
        omega
  simpa [valueOf] using general found digit 0

theorem fraction_lt {letters rest : List Char} {nanosecond : Nat}
    (read : fraction? letters = some (nanosecond, rest)) : nanosecond < nanosecondsPerSecond := by
  unfold fraction? at read
  split at read
  · next behind =>
      have short := length_digits_le 9 behind
      have value := valueOf_lt (digits_lt_ten 9 behind)
      split at read
      · cases read
      · next found further _ same =>
          rw [same] at short value
          cases read
          calc valueOf found * 10 ^ (9 - found.length)
            _ < 10 ^ found.length * 10 ^ (9 - found.length) :=
                Nat.mul_lt_mul_of_pos_right value (Nat.pow_pos (by decide))
            _ = 10 ^ 9 := by
                rw [← Nat.pow_add, Nat.add_sub_cancel' short]
            _ = nanosecondsPerSecond := rfl
  · cases read
    decide

/-- A time of a day has nanoseconds beyond a second only in a leap second. -/
theorem time_leap {letters rest : List Char} {secondOfDay nanosecond : Nat}
    (read : time? letters = some (secondOfDay, nanosecond, rest)) :
    nanosecond < 2 * nanosecondsPerSecond ∧
      (nanosecondsPerSecond ≤ nanosecond → secondOfDay % 60 = 59) := by
  simp only [time?, Option.bind_eq_bind, Option.bind_eq_some_iff, Option.pure_def,
    Option.some.injEq, Prod.mk.injEq, Prod.exists] at read
  obtain ⟨hour, _, _, _, _, minute, _, _, _, _, second, _, _, fraction, _, isFraction, rfl, rfl, -⟩ :=
    read
  have short := fraction_lt isFraction
  split <;> omega

theorem offset_minutes {letters rest : List Char} {ahead : Int}
    (read : offset? letters = some (ahead, rest)) : ahead % 60 = 0 := by
  have whole {letters rest : List Char} {ahead : Int}
      (read : hoursAndMinutes? letters = some (ahead, rest)) : ahead % 60 = 0 := by
    simp only [hoursAndMinutes?, Option.bind_eq_bind, Option.bind_eq_some_iff, Prod.exists] at read
    obtain ⟨hours, _, _, minutes, _, _, read⟩ := read
    split at read
    · cases read
    · cases read
      omega
  have behind {letters rest : List Char} {ahead : Int}
      (read : (hoursAndMinutes? letters).map (fun found => (-found.1, found.2)) =
        some (ahead, rest)) : ahead % 60 = 0 := by
    obtain ⟨⟨before, further⟩, inner, same⟩ := Option.map_eq_some_iff.mp read
    cases same
    have := whole inner
    omega
  have signed {letters rest : List Char} {ahead : Int}
      (read : offset?.signed? letters = some (ahead, rest)) : ahead % 60 = 0 := by
    unfold offset?.signed? at read
    split at read
    · cases read
      rfl
    · cases read
      rfl
    · exact whole read
    · exact behind read
    · exact behind read
    · cases read
  unfold offset? at read
  split at read
  · split at read
    · cases read
      rfl
    · exact signed read
  · exact signed read

end Reader

/-- A text is read as a point in time within the calendar. -/
theorem valid_of_ofText {text : String} {time : Timestamp} (read : ofText? text = some time) :
    time.Valid := by
  simp only [ofText?, ofLetters?, Option.bind_eq_bind, Option.bind_eq_some_iff, Prod.exists] at read
  obtain ⟨date, _, _, _, _, secondOfDay, nanosecond, _, isTime, ahead, _, isOffset, read⟩ := read
  obtain ⟨short, leap⟩ := Reader.time_leap isTime
  have minutes := Reader.offset_minutes isOffset
  split at read
  · next within =>
      simp only [Bool.and_eq_true, decide_eq_true_eq] at within
      obtain ⟨⟨_, first⟩, last⟩ := within
      cases read
      refine ⟨first, last, short, fun late => ?_⟩
      have := leap late
      simp only [secondsPerDay]
      omega
  · cases read

end OrgFederation.Timestamp
