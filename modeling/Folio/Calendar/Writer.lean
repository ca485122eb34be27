import Folio.Calendar.Instant

/-!
# Dates as text

Three forms: the exact one for data, with a fraction of 0, 3, 6 or 9 digits; the one of mail
headers for feeds, which has years 0 to 9999 only; and a short one for readers.
-/

namespace Folio.Calendar

/-- The decimal digits of a number. -/
def decimal (n : Nat) : List Char := Nat.toDigits 10 n

/-- A number with a character in front that fills it up to a width. -/
def padded (fill : Char) (width n : Nat) : List Char :=
  List.replicate (width - (decimal n).length) fill ++ decimal n

/-- A year: four digits from 0 to 9999, and else a sign and at least four digits. -/
def yearText (year : Int) : List Char :=
  if year < 0 then '-' :: padded '0' 4 year.natAbs
  else if year ≤ 9999 then padded '0' 4 year.natAbs
  else '+' :: padded '0' 4 year.natAbs

/-- The names of the months. -/
def monthNames : List String :=
  ["Jan", "Feb", "Mar", "Apr", "May", "Jun", "Jul", "Aug", "Sep", "Oct", "Nov", "Dec"]

/-- The name of a month. -/
def monthName (month : Nat) : List Char := (monthNames.getD (month - 1) "").toList

/-- The names of the days of the week. -/
def weekdayNames : List String := ["Mon", "Tue", "Wed", "Thu", "Fri", "Sat", "Sun"]

/-- The name of a day of the week. -/
def weekdayName (weekday : Nat) : List Char := (weekdayNames.getD weekday "").toList

namespace Instant

/-- Hours, minutes and seconds. -/
def clockText (instant : Instant) : List Char :=
  padded '0' 2 instant.hour ++ ':' :: padded '0' 2 instant.minute ++
    ':' :: padded '0' 2 instant.clockSecond

/-- The fraction of the second, in as few groups of three digits as hold it. -/
def fractionText (instant : Instant) : List Char :=
  let n := instant.fraction
  if n = 0 then []
  else if n % 1000000 = 0 then '.' :: padded '0' 3 (n / 1000000)
  else if n % 1000 = 0 then '.' :: padded '0' 6 (n / 1000)
  else '.' :: padded '0' 9 n

/-- The exact form: `2024-03-01T00:00:00Z`. -/
def text (instant : Instant) : List Char :=
  let date := instant.date
  yearText date.year ++ '-' :: padded '0' 2 date.month ++ '-' :: padded '0' 2 date.day ++
    'T' :: instant.clockText ++ instant.fractionText ++ ['Z']

/-- The form of mail headers: `Fri, 1 Mar 2024 00:00:00 +0000`. -/
def mailText? (instant : Instant) : Option (List Char) :=
  let date := instant.date
  if 0 ≤ date.year && date.year ≤ 9999 then
    some
      (weekdayName date.weekday ++ ',' :: ' ' :: decimal date.day ++ ' ' :: monthName date.month ++
        ' ' :: padded '0' 4 date.year.natAbs ++ ' ' :: instant.clockText ++ " +0000".toList)
  else none

/-- The short form: `Mar  1, 2024`. -/
def shortText (instant : Instant) : List Char :=
  let date := instant.date
  monthName date.month ++ ' ' :: padded ' ' 2 date.day ++ ',' :: ' ' :: yearText date.year

end Instant

end Folio.Calendar
