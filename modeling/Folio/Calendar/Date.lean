/-!
# Calendar dates

Days of the proleptic Gregorian calendar, counted from 1970-01-01. Years are counted from March
for the arithmetic, so that the leap day is the last day of its year; four hundred years are
146097 days.
-/

namespace Folio.Calendar

/-- A day of the calendar. -/
structure Date where
  year : Int
  month : Nat
  day : Nat
  deriving Repr, DecidableEq, Inhabited

/-- Whether a year has a leap day. -/
def isLeap (year : Int) : Bool :=
  year.emod 4 = 0 && (year.emod 100 ≠ 0 || year.emod 400 = 0)

/-- The number of days of a month. -/
def daysInMonth (year : Int) (month : Nat) : Nat :=
  if month = 2 then if isLeap year then 29 else 28
  else if month = 4 || month = 6 || month = 9 || month = 11 then 30
  else 31

namespace Date

/-- The first and the last year that dates have. -/
def minYear : Int := -262143

/-- The last year that dates have. -/
def maxYear : Int := 262142

/-- The date of three numbers, if there is one. -/
def ofYmd? (year : Int) (month day : Nat) : Option Date :=
  if minYear ≤ year && year ≤ maxYear && 1 ≤ month && month ≤ 12 && 1 ≤ day &&
      day ≤ daysInMonth year month then some ⟨year, month, day⟩
  else none

/-- The number of days from 1970-01-01 to a date. -/
def toDays (date : Date) : Int :=
  let year := if date.month ≤ 2 then date.year - 1 else date.year
  let month : Int := if date.month ≤ 2 then date.month + 9 else date.month - 3
  let era := year / 400
  let yearOfEra := year - era * 400
  let dayOfYear := (153 * month + 2) / 5 + date.day - 1
  let dayOfEra := yearOfEra * 365 + yearOfEra / 4 - yearOfEra / 100 + dayOfYear
  era * 146097 + dayOfEra - 719468

/-- The date that is a number of days after 1970-01-01. -/
def ofDays (days : Int) : Date :=
  let days := days + 719468
  let era := days / 146097
  let dayOfEra := days - era * 146097
  let yearOfEra := (dayOfEra - dayOfEra / 1460 + dayOfEra / 36524 - dayOfEra / 146096) / 365
  let dayOfYear := dayOfEra - (365 * yearOfEra + yearOfEra / 4 - yearOfEra / 100)
  let month := (5 * dayOfYear + 2) / 153
  let day := dayOfYear - (153 * month + 2) / 5 + 1
  let year := yearOfEra + era * 400
  if month < 10 then ⟨year, (month + 3).toNat, day.toNat⟩
  else ⟨year + 1, (month - 9).toNat, day.toNat⟩

/-- The day of the week, with Monday as 0. -/
def weekday (date : Date) : Nat := ((date.toDays + 3) % 7).toNat

end Date

end Folio.Calendar
