import ServiceGroups.Instant.Calendar

/-!
# Days and dates

Every day has a date, the date is one of the calendar, and it has the number of the day.
Inside an era the day is first assigned to a year that begins in March; the corrections in
the division by 365 make up for the leap days of the years before it.
-/

namespace ServiceGroups

namespace Calendar

section Eras

variable {dayOfEra year : Int}

/-- The year is found from the number of leap days before it, which is one for every four
years. -/
theorem year_cases (low : 0 ≤ dayOfEra) (high : dayOfEra < 146097)
    (found : year = (dayOfEra - dayOfEra / 1460 + dayOfEra / 36524 - dayOfEra / 146096) / 365) :
    year = 4 * (dayOfEra / 1460) - 1 ∨ year = 4 * (dayOfEra / 1460) ∨
      year = 4 * (dayOfEra / 1460) + 1 ∨ year = 4 * (dayOfEra / 1460) + 2 ∨
      year = 4 * (dayOfEra / 1460) + 3 := by
  omega

theorem year_bounds (low : 0 ≤ dayOfEra) (high : dayOfEra < 146097)
    (found : year = (dayOfEra - dayOfEra / 1460 + dayOfEra / 36524 - dayOfEra / 146096) / 365) :
    0 ≤ year ∧ year < 400 := by
  omega

theorem century_eq (low : 0 ≤ dayOfEra) (high : dayOfEra < 146096)
    (found : year = (dayOfEra - dayOfEra / 1460 + dayOfEra / 36524 - dayOfEra / 146096) / 365) :
    year / 100 = dayOfEra / 36524 := by
  have centuries : dayOfEra / 36524 = 0 ∨ dayOfEra / 36524 = 1 ∨ dayOfEra / 36524 = 2 ∨
      dayOfEra / 36524 = 3 := by omega
  rcases centuries with same | same | same | same <;> rw [same] at found ⊢ <;> omega

/-- The day lies in its year, and a year with 366 days ends in the February of a leap year. -/
theorem dayOfYear_bounds (low : 0 ≤ dayOfEra) (high : dayOfEra < 146097)
    (found : year = (dayOfEra - dayOfEra / 1460 + dayOfEra / 36524 - dayOfEra / 146096) / 365) :
    0 ≤ dayOfEra - (365 * year + year / 4 - year / 100) ∧
      dayOfEra - (365 * year + year / 4 - year / 100) ≤ 365 ∧
      (dayOfEra - (365 * year + year / 4 - year / 100) = 365 →
        (year + 1) % 4 = 0 ∧ ((year + 1) % 100 ≠ 0 ∨ (year + 1) % 400 = 0)) := by
  by_cases last : dayOfEra = 146096
  · subst last
    obtain rfl : year = 399 := by omega
    decide
  · have century := century_eq low (by omega) found
    have noEnd : dayOfEra / 146096 = 0 := by omega
    have quarters := year_cases low high found
    rw [noEnd] at found
    rcases quarters with same | same | same | same | same
    · have leapDays : year / 4 = dayOfEra / 1460 - 1 := by omega
      rw [leapDays]
      omega
    all_goals
      have leapDays : year / 4 = dayOfEra / 1460 := by omega
      rw [leapDays]
      omega

end Eras

section Months

/-- The month in a year that begins in March, and the days in it. -/
theorem month_bounds {dayOfYear month : Int} (low : 0 ≤ dayOfYear) (high : dayOfYear ≤ 365)
    (found : month = (5 * dayOfYear + 2) / 153) :
    0 ≤ month ∧ month ≤ 11 ∧ 1 ≤ dayOfYear - (153 * month + 2) / 5 + 1 ∧
      dayOfYear - (153 * month + 2) / 5 + 1 ≤ 31 ∧
      (month = 1 ∨ month = 3 ∨ month = 6 ∨ month = 8 →
        dayOfYear - (153 * month + 2) / 5 + 1 ≤ 30) ∧
      (month = 11 → dayOfYear - (153 * month + 2) / 5 + 1 ≤ 29 ∧
        (dayOfYear - (153 * month + 2) / 5 + 1 = 29 → dayOfYear = 365)) := by
  omega

end Months

/-- The parts from which the date of a day is put together. -/
theorem exists_parts (number : Int) :
    ∃ era year dayOfYear month : Int,
      number + 719468 = era * 146097 + (365 * year + year / 4 - year / 100 + dayOfYear) ∧
      (0 ≤ year ∧ year < 400) ∧ (0 ≤ dayOfYear ∧ dayOfYear ≤ 365) ∧
      (dayOfYear = 365 → (year + 1) % 4 = 0 ∧ ((year + 1) % 100 ≠ 0 ∨ (year + 1) % 400 = 0)) ∧
      month = (5 * dayOfYear + 2) / 153 ∧
      dateOf number =
        ⟨if (if month < 10 then month + 3 else month - 9) ≤ 2 then year + era * 400 + 1
          else year + era * 400,
          (if month < 10 then month + 3 else month - 9).toNat,
          (dayOfYear - (153 * month + 2) / 5 + 1).toNat⟩ := by
  obtain ⟨dayOfEra, remainder⟩ : ∃ dayOfEra,
      dayOfEra = number + 719468 - (number + 719468) / 146097 * 146097 := ⟨_, rfl⟩
  have low : 0 ≤ dayOfEra := by omega
  have high : dayOfEra < 146097 := by omega
  have bounds := dayOfYear_bounds low high rfl
  refine ⟨(number + 719468) / 146097, _, _, _, ?_, year_bounds low high rfl,
    ⟨bounds.1, bounds.2.1⟩, bounds.2.2, rfl, ?_⟩
  · omega
  · rw [remainder]
    rfl

theorem dayNumber_dateOf (number : Int) : dayNumber (dateOf number) = number := by
  obtain ⟨era, year, dayOfYear, month, days, ⟨yearLow, yearHigh⟩, ⟨low, high⟩, -, found, date⟩ :=
    exists_parts number
  obtain ⟨monthLow, monthHigh, dayLow, -, -, -⟩ := month_bounds low high found
  have march : (if (if month < 10 then month + 3 else month - 9).toNat ≤ 2 then
      (if (if month < 10 then month + 3 else month - 9) ≤ 2 then year + era * 400 + 1
        else year + era * 400) - 1
      else (if (if month < 10 then month + 3 else month - 9) ≤ 2 then year + era * 400 + 1
        else year + era * 400)) = year + era * 400 := by
    split <;> split <;> omega
  have marchMonth : (if (if month < 10 then month + 3 else month - 9).toNat ≤ 2 then
      (((if month < 10 then month + 3 else month - 9).toNat : Int) + 9)
      else (((if month < 10 then month + 3 else month - 9).toNat : Int) - 3)) = month := by
    split <;> omega
  rw [date, dayNumber]
  simp only [march, marchMonth]
  omega

theorem isLeapYear_iff {year : Int} :
    isLeapYear year = true ↔ year % 4 = 0 ∧ (year % 100 ≠ 0 ∨ year % 400 = 0) := by
  simp [isLeapYear]

theorem isValid_of_bounds {date : Date} (months : 1 ≤ date.month ∧ date.month ≤ 12)
    (days : 1 ≤ date.day ∧ date.day ≤ 31)
    (short : date.month = 4 ∨ date.month = 6 ∨ date.month = 9 ∨ date.month = 11 →
      date.day ≤ 30)
    (february : date.month = 2 → date.day ≤ 29 ∧
      (date.day = 29 → isLeapYear date.year = true)) : date.isValid = true := by
  have length : date.day ≤ monthLength date.year date.month := by
    unfold monthLength
    split
    · next same =>
        obtain ⟨most, leap⟩ := february same
        split <;> grind
    all_goals grind
  simp [Date.isValid, months, days, length]

theorem bounds_of_isValid {date : Date} (valid : date.isValid = true) :
    date.month ≤ 12 ∧ date.day ≤ 31 := by
  have length : monthLength date.year date.month ≤ 31 := by
    unfold monthLength
    split
    · split <;> omega
    all_goals omega
  simp only [Date.isValid, Bool.and_eq_true, decide_eq_true_eq] at valid
  omega

theorem isValid_dateOf (number : Int) : (dateOf number).isValid = true := by
  obtain ⟨era, year, dayOfYear, month, -, -, ⟨low, high⟩, leaps, found, date⟩ :=
    exists_parts number
  obtain ⟨monthLow, monthHigh, dayLow, dayHigh, short, february⟩ := month_bounds low high found
  rw [date]
  refine isValid_of_bounds ?_ ?_ ?_ ?_
  · simp only
    split <;> omega
  · simp only
    omega
  · simp only
    split <;> omega
  · intro second
    have last : month = 11 := by
      simp only at second
      split at second <;> omega
    obtain ⟨most, leap⟩ := february last
    subst last
    refine ⟨by simp only; omega, fun day => ?_⟩
    obtain ⟨fourth, century⟩ := leaps (leap (by simp only at day; omega))
    have civil : (if (if (11 : Int) < 10 then (11 : Int) + 3 else 11 - 9) ≤ 2 then
        year + era * 400 + 1 else year + era * 400) = year + era * 400 + 1 := rfl
    rw [isLeapYear_iff, civil]
    change (year + era * 400 + 1) % 4 = 0 ∧
      ((year + era * 400 + 1) % 100 ≠ 0 ∨ (year + era * 400 + 1) % 400 = 0)
    omega

end Calendar

end ServiceGroups
