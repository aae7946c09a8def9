import CloudControl.Text.Numeral

/-!
# Civil dates

A date is a year, a month and a day of the Gregorian calendar, extended to all years. Days are
numbered from the first of January 1970. `toDays` and `ofDays` convert between the two with
years that start in March, so that the leap day comes last. A date is written with a year of
four digits, and with a sign when four digits do not hold it.
-/

namespace CloudControl

/-- A year, a month and a day. -/
structure Date where
  year : Int
  month : Nat
  day : Nat
  deriving DecidableEq

namespace Date

/-- The year has a leap day. -/
def isLeap (year : Int) : Bool :=
  (year % 4 == 0 && year % 100 != 0) || year % 400 == 0

/-- The number of days of a month. -/
def daysIn (year : Int) (month : Nat) : Nat :=
  if month = 2 then (if isLeap year then 29 else 28)
  else if month = 4 ∨ month = 6 ∨ month = 9 ∨ month = 11 then 30
  else 31

/-- The month and the day exist. -/
def isValid (d : Date) : Bool :=
  1 ≤ d.month && d.month ≤ 12 && 1 ≤ d.day && d.day ≤ daysIn d.year d.month

/-- The first year that timestamps reach. -/
def minYear : Int := -262143

/-- The last year that timestamps reach. -/
def maxYear : Int := 262142

/-- The date exists and its year is within reach. -/
def isSupported (d : Date) : Bool :=
  d.isValid && minYear ≤ d.year && d.year ≤ maxYear

/-- The number of days from the first of January 1970 to a date. -/
def toDays (d : Date) : Int :=
  let y : Int := if d.month ≤ 2 then d.year - 1 else d.year
  let era := y / 400
  let yearOfEra := y - era * 400
  let monthFromMarch : Int := if d.month ≤ 2 then d.month + 9 else d.month - 3
  let dayOfYear := (153 * monthFromMarch + 2) / 5 + d.day - 1
  let dayOfEra := yearOfEra * 365 + yearOfEra / 4 - yearOfEra / 100 + dayOfYear
  era * 146097 + dayOfEra - 719468

/-- The date so many days after the first of January 1970. -/
def ofDays (n : Int) : Date :=
  let z := n + 719468
  let era := z / 146097
  let dayOfEra := z - era * 146097
  let yearOfEra := (dayOfEra - dayOfEra / 1460 + dayOfEra / 36524 - dayOfEra / 146096) / 365
  let dayOfYear := dayOfEra - (365 * yearOfEra + yearOfEra / 4 - yearOfEra / 100)
  let monthFromMarch := (5 * dayOfYear + 2) / 153
  let day := dayOfYear - (153 * monthFromMarch + 2) / 5 + 1
  let month := if monthFromMarch < 10 then monthFromMarch + 3 else monthFromMarch - 9
  ⟨yearOfEra + era * 400 + (if month ≤ 2 then 1 else 0), month.toNat, day.toNat⟩

/-- The first day that timestamps reach. -/
def minDays : Int := toDays ⟨minYear, 1, 1⟩

/-- The last day that timestamps reach. -/
def maxDays : Int := toDays ⟨maxYear, 12, 31⟩

/-- The text of a year: four digits, and a sign when four digits do not hold it. -/
def yearText (year : Int) : String :=
  if 0 ≤ year && year ≤ 9999 then Text.Numeral.padded 4 year.toNat
  else (if year < 0 then "-" else "+") ++ Text.Numeral.padded 4 year.natAbs

/-- The text of a date, as in `2026-03-01`. -/
def text (d : Date) : String :=
  yearText d.year ++ "-" ++ Text.Numeral.padded 2 d.month ++ "-" ++ Text.Numeral.padded 2 d.day

/-- The first date comes before the second. -/
def before (a b : Date) : Bool :=
  a.year < b.year || (a.year == b.year &&
    (a.month < b.month || (a.month == b.month && a.day < b.day)))

example : toDays ⟨1970, 1, 1⟩ = 0 := by decide
example : ofDays 0 = ⟨1970, 1, 1⟩ := by decide
example : ofDays (toDays ⟨2024, 2, 29⟩) = ⟨2024, 2, 29⟩ := by decide
example : toDays ⟨-1, 12, 31⟩ + 1 = toDays ⟨0, 1, 1⟩ := by decide

end Date

end CloudControl
