import Folio.Proofs.Calendar.Writing
import Folio.Proofs.Text.Trim
import Mathlib.Data.List.Basic
import Mathlib.Data.List.Induction

/-!
# Times on clocks

A calendar and a clock show a date and a time, with any number of digits behind the second. Such a
time is written with `T` or a space behind the date, and with how far the place is ahead of UTC or
behind it. The instant that is read is the one at which that place shows the time, and what is
written consists of visible characters, apart from the space, in one word or two.
-/

namespace Folio.Calendar

open Folio.Text (isBlank isVisible trimStart)

/-- How far a place is ahead of UTC or behind it, as it is written. -/
inductive Zone where
  | utc
  | ahead (hours minutes : Nat)
  | behind (hours minutes : Nat)
  deriving Repr, DecidableEq

namespace Zone

/-- The minutes by which a place is ahead. -/
def offset : Zone → Int
  | .utc => 0
  | .ahead hours minutes => (hours * 60 + minutes : Nat)
  | .behind hours minutes => -(hours * 60 + minutes : Nat)

/-- A zone in a written date. -/
def text : Zone → List Char
  | .utc => ['Z']
  | .ahead hours minutes => '+' :: (padded '0' 2 hours ++ ':' :: padded '0' 2 minutes)
  | .behind hours minutes => '-' :: (padded '0' 2 hours ++ ':' :: padded '0' 2 minutes)

/-- A zone is less than a day ahead or behind. -/
def IsValid : Zone → Prop
  | .utc => True
  | .ahead hours minutes => hours < 24 ∧ minutes < 60
  | .behind hours minutes => hours < 24 ∧ minutes < 60

/-- Less than a day is less than 1440 minutes. -/
theorem offset_bounds {zone : Zone} (h : zone.IsValid) :
    -1440 < zone.offset ∧ zone.offset < 1440 := by
  cases zone with
  | utc => exact ⟨by decide, by decide⟩
  | ahead hours minutes =>
    obtain ⟨hhours, hminutes⟩ := h
    rw [offset]
    omega
  | behind hours minutes =>
    obtain ⟨hhours, hminutes⟩ := h
    rw [offset]
    omega

end Zone

/-- A number of two digits is read, whatever follows. -/
theorem twoDigits?_padded_append {n : Nat} (hn : n < 100) (rest : List Char) :
    twoDigits? (padded '0' 2 n ++ rest) = some (n, rest) := by
  have hlength := length_padded (show 0 < 2 by decide) (show n < 10 ^ 2 from hn)
  have hvalue := digitsValue_padded 2 n
  have hdigits : ∀ c ∈ padded '0' 2 n, c.isDigit = true := fun c hc => isDigit_of_mem_padded hc
  obtain ⟨a, b, hab⟩ := List.length_eq_two.mp hlength
  rw [hab] at hvalue hdigits ⊢
  simp [twoDigits?, hvalue, hdigits a, hdigits b]

/-- Nothing is passed in front of a number. -/
theorem dropWhile_padded (width n : Nat) :
    (padded '0' width n).dropWhile (fun c => decide (c = ':') || isBlank c) =
      padded '0' width n := by
  obtain ⟨c, rest, hpadded, hc⟩ := exists_padded_eq_cons width n
  have hcolon : c ≠ ':' := by rintro rfl; revert hc; decide
  rw [hpadded, List.dropWhile_cons_of_neg (by simp [hcolon, not_isBlank_of_isDigit hc])]

/-- A sign with hours and minutes is an offset in seconds. -/
theorem offset?_signed {sign : Char} (hsign : sign = '+' ∨ sign = '-') {hours minutes : Nat}
    (hhours : hours < 24) (hminutes : minutes < 60) :
    offset? (sign :: (padded '0' 2 hours ++ ':' :: padded '0' 2 minutes)) =
      some ((if sign = '+' then 1 else -1) * ((hours * 3600 + minutes * 60 : Nat) : Int), []) := by
  have hhour := twoDigits?_padded_append (show hours < 100 by omega) (':' :: padded '0' 2 minutes)
  have hminute : twoDigits? (padded '0' 2 minutes) = some (minutes, []) := by
    simpa using twoDigits?_padded_append (show minutes < 100 by omega) []
  have hshort : ¬ 60 ≤ minutes ∧ ¬ 24 ≤ hours := by omega
  have hname : sign.toUpper ≠ 'U' := by
    rcases hsign with rfl | rfl <;> decide
  rw [offset?.eq_def, if_neg (by simp [hname])]
  rcases hsign with rfl | rfl <;>
    simp [hhour, dropWhile_padded, hminute, hshort.1, hshort.2]

/-- A zone is read as its offset in seconds. -/
theorem Zone.offset?_text {zone : Zone} (h : zone.IsValid) :
    offset? (trimStart zone.text) = some (60 * zone.offset, []) := by
  cases zone with
  | utc => decide
  | ahead hours minutes =>
    rw [text, trimStart_cons (by decide), offset?_signed (Or.inl rfl) h.1 h.2, offset]
    simp only [if_true, Option.some.injEq, Prod.mk.injEq, and_true]
    omega
  | behind hours minutes =>
    rw [text, trimStart_cons (by decide), offset?_signed (Or.inr rfl) h.1 h.2, offset]
    simp only [Char.reduceEq, if_false, Option.some.injEq, Prod.mk.injEq, and_true]
    omega

/-- What a calendar and a clock show: a date, a time, and the digits of a fraction of the second. -/
structure ClockTime where
  date : Date
  hour : Nat
  minute : Nat
  second : Nat
  fraction : List Char
  deriving Repr, DecidableEq

/-- How a time is written: with `T` or a space behind the date, and for a zone. -/
structure Spelling where
  separator : Char
  zone : Zone
  deriving Repr, DecidableEq

/-- A separator and a zone that dates may have. -/
structure Spelling.IsValid (spelling : Spelling) : Prop where
  separator : spelling.separator = 'T' ∨ spelling.separator = ' '
  zone : spelling.zone.IsValid

namespace ClockTime

/-- A time of a date with a year of four digits; the second 60 is a leap second. -/
structure IsValid (time : ClockTime) : Prop where
  date : time.date.IsValid
  year_nonneg : 0 ≤ time.date.year
  year_le : time.date.year ≤ 9999
  hour_lt : time.hour < 24
  minute_lt : time.minute < 60
  second_le : time.second ≤ 60
  digits : ∀ c ∈ time.fraction, c.isDigit = true

/-- The nanoseconds of the fraction; digits after the ninth do not count. -/
def nanos (time : ClockTime) : Nat :=
  digitsValue (time.fraction.take 9) * 10 ^ (9 - (time.fraction.take 9).length)

/-- The fraction behind the second, if there is one. -/
def fractionText (time : ClockTime) : List Char :=
  if time.fraction = [] then [] else '.' :: time.fraction

/-- The date as it is written. -/
def dateText (time : ClockTime) : List Char :=
  padded '0' 4 time.date.year.natAbs ++ '-' :: padded '0' 2 time.date.month ++
    '-' :: padded '0' 2 time.date.day

/-- The time as it is written, with its zone. -/
def clockText (time : ClockTime) (zone : Zone) : List Char :=
  padded '0' 2 time.hour ++ ':' :: padded '0' 2 time.minute ++ ':' :: padded '0' 2 time.second ++
    time.fractionText ++ zone.text

/-- What a calendar and a clock show, in writing. -/
def text (time : ClockTime) (spelling : Spelling) : List Char :=
  time.dateText ++ spelling.separator :: time.clockText spelling.zone

/-- The instant at which a place shows a time, if there is one. -/
def instant? (time : ClockTime) (zone : Zone) : Option Instant :=
  Instant.ofClock? time.date time.hour time.minute time.second time.nanos (60 * zone.offset)

/-- The fraction of a written time is read. -/
theorem fraction?_fractionText {time : ClockTime} (h : time.IsValid) (zone : Zone) :
    fraction? (time.fractionText ++ zone.text) = some (time.nanos, zone.text) := by
  have hzone : zone.text.takeWhile Char.isDigit = [] := by cases zone <;> rfl
  rw [fractionText]
  split
  case isTrue hnone =>
    rw [nanos, hnone]
    cases zone <;> rfl
  case isFalse hsome =>
    have hdigits := takeWhile_isDigit_append h.digits hzone
    simp [fraction?, hdigits, hsome, nanos]

/-- A year of four digits is written as other years are. -/
theorem yearText_eq {time : ClockTime} (h : time.IsValid) :
    padded '0' 4 time.date.year.natAbs = yearText time.date.year := by
  rw [yearText, if_neg (Int.not_lt.mpr h.year_nonneg), if_pos h.year_le]

/-- The date of a valid time is one that three numbers give. -/
theorem ofYmd?_date {time : ClockTime} (h : time.IsValid) :
    Date.ofYmd? time.date.year time.date.month time.date.day = some time.date := by
  have hmin : Date.minYear ≤ time.date.year := Int.le_trans (by decide) h.year_nonneg
  have hmax : time.date.year ≤ Date.maxYear := Int.le_trans h.year_le (by decide)
  simp [Date.ofYmd?, hmin, hmax, h.date.month_pos, h.date.month_le, h.date.day_pos, h.date.day_le]

/-- The instant of a written time is the one at which the place of its zone shows it. -/
theorem read?_text {time : ClockTime} (h : time.IsValid) {spelling : Spelling}
    (hspelling : spelling.IsValid) :
    Instant.read? (time.text spelling) = time.instant? spelling.zone := by
  have hread := Instant.read?_written h.date (ofYmd?_date h) h.hour_lt h.minute_lt h.second_le
    hspelling.separator (fraction?_fractionText h spelling.zone)
    (Zone.offset?_text hspelling.zone)
  rw [text, dateText, clockText, yearText_eq h, instant?]
  simpa only [List.append_assoc, List.cons_append] using hread

end ClockTime

/-- Numbers are visible. -/
theorem isVisible_of_mem_padded {width n : Nat} {c : Char} (hc : c ∈ padded '0' width n) :
    isVisible c = true :=
  Text.isVisible_of_isDigit (isDigit_of_mem_padded hc)

/-- A zone is visible. -/
theorem Zone.isVisible_of_mem_text {zone : Zone} {c : Char} (hc : c ∈ zone.text) :
    isVisible c = true := by
  cases zone <;> simp only [text, List.mem_cons, List.mem_append, List.not_mem_nil, or_false] at hc
  case utc => rw [hc]; decide
  all_goals
    rcases hc with rfl | hc | rfl | hc
    · decide
    · exact isVisible_of_mem_padded hc
    · decide
    · exact isVisible_of_mem_padded hc

/-- What ends with a number ends with a digit. -/
theorem exists_getLast?_append_padded (front : List Char) (width n : Nat) :
    ∃ c, (front ++ padded '0' width n).getLast? = some c ∧ c.isDigit = true := by
  obtain ⟨c, rest, hpadded, -⟩ := exists_padded_eq_cons width n
  have hlast : (padded '0' width n).getLast? =
      some ((c :: rest).getLast (List.cons_ne_nil c rest)) := by
    rw [hpadded, List.getLast?_eq_some_getLast]
  refine ⟨_, by rw [List.getLast?_append, hlast, Option.some_or], ?_⟩
  exact isDigit_of_mem_padded (List.mem_of_getLast? hlast)

/-- A digit is a letter or a digit. -/
theorem isAlphanum_of_isDigit {c : Char} (hc : c.isDigit = true) : c.isAlphanum = true := by
  rw [Char.isAlphanum, hc, Bool.or_true]

/-- A zone ends with its letter or with a digit. -/
theorem Zone.exists_getLast?_text (zone : Zone) :
    ∃ c, zone.text.getLast? = some c ∧ c.isAlphanum = true := by
  have hnumber (sign : Char) (hours minutes : Nat) :
      ∃ c, (sign :: (padded '0' 2 hours ++ ':' :: padded '0' 2 minutes)).getLast? = some c ∧
        c.isAlphanum = true := by
    obtain ⟨c, hlast, hc⟩ :=
      exists_getLast?_append_padded (sign :: (padded '0' 2 hours ++ [':'])) 2 minutes
    exact ⟨c, by simpa using hlast, isAlphanum_of_isDigit hc⟩
  cases zone with
  | utc => exact ⟨'Z', rfl, rfl⟩
  | ahead hours minutes => exact hnumber '+' hours minutes
  | behind hours minutes => exact hnumber '-' hours minutes

namespace ClockTime

/-- A written date is visible. -/
theorem isVisible_of_mem_dateText {time : ClockTime} {c : Char} (hc : c ∈ time.dateText) :
    isVisible c = true := by
  simp only [dateText, List.mem_append, List.mem_cons] at hc
  rcases hc with (hc | rfl | hc) | rfl | hc
  all_goals first | exact isVisible_of_mem_padded hc | decide

/-- A written time is visible. -/
theorem isVisible_of_mem_clockText {time : ClockTime} (h : time.IsValid) {zone : Zone} {c : Char}
    (hc : c ∈ time.clockText zone) : isVisible c = true := by
  have hfraction : c ∈ time.fractionText → isVisible c = true := by
    rw [fractionText]
    split
    · exact fun hnone => absurd hnone List.not_mem_nil
    · rw [List.mem_cons]
      rintro (rfl | hdigit)
      · decide
      · exact Text.isVisible_of_isDigit (h.digits c hdigit)
  simp only [clockText, List.mem_append, List.mem_cons] at hc
  rcases hc with (((hc | rfl | hc) | rfl | hc) | hc) | hc
  · exact isVisible_of_mem_padded hc
  · decide
  · exact isVisible_of_mem_padded hc
  · decide
  · exact isVisible_of_mem_padded hc
  · exact hfraction hc
  · exact Zone.isVisible_of_mem_text hc

/-- A written time begins with a digit. -/
theorem exists_clockText_eq_cons (time : ClockTime) (zone : Zone) :
    ∃ c rest, time.clockText zone = c :: rest ∧ c.isDigit = true := by
  obtain ⟨c, rest, hpadded, hc⟩ := exists_padded_eq_cons 2 time.hour
  exact ⟨c, _, by rw [clockText, hpadded]; rfl, hc⟩

/-- A written time ends as its zone does. -/
theorem exists_getLast?_clockText (time : ClockTime) (zone : Zone) :
    ∃ c, (time.clockText zone).getLast? = some c ∧ c.isAlphanum = true := by
  obtain ⟨c, hlast, hc⟩ := zone.exists_getLast?_text
  refine ⟨c, ?_, hc⟩
  rw [clockText, List.getLast?_append, hlast, Option.some_or]

/-- A written date begins with at least two digits and goes on with more of them and a hyphen. -/
theorem exists_dateText_eq {time : ClockTime} (h : time.IsValid) :
    ∃ a b digits rest, time.dateText = a :: b :: (digits ++ '-' :: rest) ∧ a.isDigit = true ∧
      b.isDigit = true ∧ ∀ c ∈ digits, c.isDigit = true := by
  have hyear : time.date.year.natAbs < 10 ^ 4 := by
    have hfirst := h.year_nonneg
    have hlast := h.year_le
    omega
  have hlength := length_padded (show 0 < 4 by decide) hyear
  have hdigits : ∀ c ∈ padded '0' 4 time.date.year.natAbs, c.isDigit = true := fun c hc =>
    isDigit_of_mem_padded hc
  rw [dateText]
  generalize padded '0' 4 time.date.year.natAbs = year at hlength hdigits
  match year, hlength with
  | a :: b :: digits, _ =>
    rw [List.forall_mem_cons, List.forall_mem_cons] at hdigits
    obtain ⟨ha, hb, hdigits⟩ := hdigits
    exact ⟨a, b, digits, padded '0' 2 time.date.month ++ '-' :: padded '0' 2 time.date.day,
      by simp, ha, hb, hdigits⟩

/-- A written date ends with a digit. -/
theorem exists_getLast?_dateText (time : ClockTime) :
    ∃ c, time.dateText.getLast? = some c ∧ c.isDigit = true := by
  obtain ⟨c, hlast, hc⟩ := exists_getLast?_append_padded
    (padded '0' 4 time.date.year.natAbs ++ '-' :: padded '0' 2 time.date.month ++ ['-']) 2
    time.date.day
  exact ⟨c, by simpa [dateText] using hlast, hc⟩

end ClockTime

end Folio.Calendar
