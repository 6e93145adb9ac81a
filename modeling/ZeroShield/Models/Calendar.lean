import ZeroShield.Models.Shared

/-!
# Dates as texts

A date of the calendar is read back from its text.
-/

namespace ZeroShield.Models

open Foundation

/-- The first day of the year 1 to the last day of the year 9999. -/
def InCalendar (date : Date) : Prop :=
  -719162 ≤ date ∧ date ≤ 2932896

instance (date : Date) : Decidable (InCalendar date) :=
  inferInstanceAs (Decidable (_ ∧ _))

/-- A date as year, month and day. -/
structure CivilDate where
  year : ℤ
  month : ℤ
  day : ℤ

namespace CivilDate

/-- Years of an era begin in March, so that the leap day is the last one. -/
def yearOfEra (dayOfEra : ℤ) : ℤ :=
  (dayOfEra - dayOfEra / 1460 + dayOfEra / 36524 - dayOfEra / 146096) / 365

def dayOfYear (dayOfEra : ℤ) : ℤ :=
  let year := yearOfEra dayOfEra
  dayOfEra - (365 * year + year / 4 - year / 100)

def monthFromMarch (dayOfEra : ℤ) : ℤ :=
  (5 * dayOfYear dayOfEra + 2) / 153

/-- The year, the month and the day of a date. -/
def ofDate (date : ℤ) : CivilDate :=
  let dayOfEra := (date + 719468) % 146097
  let fromMarch := monthFromMarch dayOfEra
  let month := if fromMarch < 10 then fromMarch + 3 else fromMarch - 9
  { year := yearOfEra dayOfEra + (date + 719468) / 146097 * 400 + if month ≤ 2 then 1 else 0
    month
    day := dayOfYear dayOfEra - (153 * fromMarch + 2) / 5 + 1 }

/-- The date with a year, a month and a day. -/
def toDate (civil : CivilDate) : ℤ :=
  let year := if civil.month ≤ 2 then civil.year - 1 else civil.year
  let fromMarch := if civil.month ≤ 2 then civil.month + 9 else civil.month - 3
  let yearOfEra := year % 400
  year / 400 * 146097 + (365 * yearOfEra + yearOfEra / 4 - yearOfEra / 100) +
    ((153 * fromMarch + 2) / 5 + civil.day - 1) - 719468

section Era

variable {dayOfEra : ℤ} (low : 0 ≤ dayOfEra) (high : dayOfEra < 146097)

include low high

theorem yearOfEra_bounds : 0 ≤ yearOfEra dayOfEra ∧ yearOfEra dayOfEra < 400 := by
  unfold yearOfEra
  constructor <;> omega

/-- A day of an era lies in the year which it is counted to. -/
theorem dayOfYear_bounds : 0 ≤ dayOfYear dayOfEra ∧ dayOfYear dayOfEra ≤ 365 := by
  obtain ⟨year, isYear⟩ : ∃ year, yearOfEra dayOfEra = year := ⟨_, rfl⟩
  simp only [dayOfYear, isYear]
  obtain ⟨century, which, isCentury⟩ : ∃ century : ℤ,
      (century = 0 ∨ century = 1 ∨ century = 2 ∨ century = 3) ∧
        dayOfEra / 36524 - dayOfEra / 146096 = century := ⟨_, by omega, rfl⟩
  have days : dayOfEra - dayOfEra / 1460 + dayOfEra / 36524 - dayOfEra / 146096 =
      dayOfEra - dayOfEra / 1460 + century := by omega
  rw [yearOfEra, days] at isYear
  -- The last leap year of a century is found century by century.
  rcases which with rfl | rfl | rfl | rfl
  all_goals
    have sameCentury : year / 100 = dayOfEra / 36524 - dayOfEra / 146096 := by omega
    omega

theorem monthFromMarch_bounds : 0 ≤ monthFromMarch dayOfEra ∧ monthFromMarch dayOfEra ≤ 11 := by
  have days := dayOfYear_bounds low high
  unfold monthFromMarch
  constructor <;> omega

end Era

/-- Year, month and day determine the date. -/
theorem toDate_ofDate (date : ℤ) : (ofDate date).toDate = date := by
  have low : 0 ≤ (date + 719468) % 146097 := by omega
  have high : (date + 719468) % 146097 < 146097 := by omega
  have year := yearOfEra_bounds low high
  have month := monthFromMarch_bounds low high
  simp only [toDate, ofDate, dayOfYear]
  by_cases early : monthFromMarch ((date + 719468) % 146097) < 10
  · have late : ¬ monthFromMarch ((date + 719468) % 146097) + 3 ≤ 2 := by omega
    simp only [early, late, if_true, if_false]
    omega
  · have first : monthFromMarch ((date + 719468) % 146097) - 9 ≤ 2 := by omega
    simp only [early, first, if_true, if_false]
    omega

/-- Year, month and day of a date of the calendar have four, two and two digits. -/
theorem ofDate_bounds {date : ℤ} (low : -719162 ≤ date) (high : date ≤ 2932896) :
    (0 ≤ (ofDate date).year ∧ (ofDate date).year < 10000) ∧
      (0 ≤ (ofDate date).month ∧ (ofDate date).month < 100) ∧
      (0 ≤ (ofDate date).day ∧ (ofDate date).day < 100) := by
  have dayLow : 0 ≤ (date + 719468) % 146097 := by omega
  have dayHigh : (date + 719468) % 146097 < 146097 := by omega
  have year := yearOfEra_bounds dayLow dayHigh
  have day := dayOfYear_bounds dayLow dayHigh
  have month := monthFromMarch_bounds dayLow dayHigh
  refine ⟨?_, ?_, ?_⟩
  · simp only [ofDate]
    constructor
    · split_ifs <;> omega
    · -- The last era ends with December, so its last year is not counted up.
      have late : 10 ≤ monthFromMarch ((date + 719468) % 146097) →
          306 ≤ dayOfYear ((date + 719468) % 146097) := by
        unfold monthFromMarch
        omega
      simp only [dayOfYear] at late
      split_ifs <;> omega
  · simp only [ofDate]
    split_ifs <;> omega
  · simp only [ofDate, monthFromMarch]
    constructor <;> omega

end CivilDate

theorem isoDate_eq (date : Date) :
    isoDate date = padded 4 (CivilDate.ofDate date).year.toNat ++ "-" ++
      padded 2 (CivilDate.ofDate date).month.toNat ++ "-" ++
      padded 2 (CivilDate.ofDate date).day.toNat :=
  rfl

/-! ## Reading dates -/

/-- The number which is written with some of the characters of a text. -/
def numberAt (text : String) (start length : ℕ) : ℕ :=
  Nat.ofDigitChars 10 ((text.toList.drop start).take length) 0

/-- The date of the calendar which is written as a text, in the form in which dates are stored. -/
def fromisoformat (text : String) : Option Date :=
  let civil : CivilDate := ⟨numberAt text 0 4, numberAt text 5 2, numberAt text 8 2⟩
  if InCalendar civil.toDate ∧ isoDate civil.toDate = text then some civil.toDate else none

theorem length_padded {width number : ℕ} (positive : 0 < width) (fits : number < 10 ^ width) :
    (padded width number).toList.length = width := by
  have short : (Nat.toDigits 10 number).length ≤ width :=
    (Nat.length_toDigits_le_iff (by decide) positive).mpr fits
  simp [padded, short]

theorem ofDigitChars_padded (width number : ℕ) :
    Nat.ofDigitChars 10 (padded width number).toList 0 = number := by
  simp [padded, Nat.ofDigitChars_append]

/-- A number of a fixed width is read back from its place in a text. -/
theorem numberAt_padded {before after : String} {start width number : ℕ} (positive : 0 < width)
    (fits : number < 10 ^ width) (place : before.toList.length = start) :
    numberAt (before ++ padded width number ++ after) start width = number := by
  have length := length_padded positive fits
  have piece : ((before ++ padded width number ++ after).toList.drop start).take width =
      (padded width number).toList := by
    rw [String.toList_append, String.toList_append, List.append_assoc, List.drop_left' place,
      List.take_left' length]
  rw [numberAt, piece, ofDigitChars_padded]

/-- A date of the calendar is read back from its text. -/
theorem fromisoformat_isoDate {date : Date} (calendar : InCalendar date) :
    fromisoformat (isoDate date) = some date := by
  obtain ⟨⟨yearLow, yearHigh⟩, ⟨monthLow, monthHigh⟩, ⟨dayLow, dayHigh⟩⟩ :=
    CivilDate.ofDate_bounds calendar.1 calendar.2
  generalize named : CivilDate.ofDate date = civil at *
  have fourDigits : civil.year.toNat < 10 ^ 4 := by omega
  have monthDigits : civil.month.toNat < 10 ^ 2 := by omega
  have dayDigits : civil.day.toNat < 10 ^ 2 := by omega
  have written := isoDate_eq date
  rw [named] at written
  have yearLength := length_padded (by decide) fourDigits
  have monthLength := length_padded (by decide) monthDigits
  have year : numberAt (isoDate date) 0 4 = civil.year.toNat := by
    rw [written, String.append_assoc, String.append_assoc, String.append_assoc]
    exact @numberAt_padded "" _ 0 4 _ (by decide) fourDigits rfl
  have month : numberAt (isoDate date) 5 2 = civil.month.toNat := by
    rw [written, String.append_assoc]
    refine numberAt_padded (by decide) monthDigits ?_
    simp only [String.toList_append, List.length_append, yearLength]
    rfl
  have day : numberAt (isoDate date) 8 2 = civil.day.toNat := by
    rw [written, ← @String.append_empty (_ ++ padded 2 civil.day.toNat)]
    refine numberAt_padded (by decide) dayDigits ?_
    simp only [String.toList_append, List.length_append, yearLength, monthLength]
    rfl
  have back : CivilDate.toDate ⟨numberAt (isoDate date) 0 4, numberAt (isoDate date) 5 2,
      numberAt (isoDate date) 8 2⟩ = date := by
    rw [year, month, day, Int.toNat_of_nonneg yearLow, Int.toNat_of_nonneg monthLow,
      Int.toNat_of_nonneg dayLow, ← CivilDate.toDate_ofDate date, named]
  simp only [fromisoformat, back, and_true]
  exact if_pos calendar

theorem inCalendar_of_fromisoformat {text : String} {date : Date}
    (isRead : fromisoformat text = some date) : InCalendar date := by
  simp only [fromisoformat] at isRead
  split at isRead
  case isTrue written =>
    cases isRead
    exact written.1
  case isFalse => cases isRead

/-- The text of a date is not empty. -/
theorem isoDate_ne_empty (date : Date) : isoDate date ≠ "" := by
  intro empty
  have characters := congrArg String.toList empty
  rw [isoDate_eq] at characters
  simp at characters

end ZeroShield.Models
