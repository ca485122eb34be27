import Folio.Calendar.Date

/-!
# Instants

A point in time in UTC to the nanosecond. A leap second is the second after the last one of a
minute: it is kept as that last second with a nanosecond count from 1000000000 on, so that it
comes after all of that second and before the next.
-/

namespace Folio.Calendar

/-- The first instant of all dates. -/
def Instant.startSecond : Int := Date.toDays ⟨Date.minYear, 1, 1⟩ * 86400

/-- The first instant after all dates. -/
def Instant.endSecond : Int := (Date.toDays ⟨Date.maxYear, 12, 31⟩ + 1) * 86400

/-- A point in time. -/
@[ext]
structure Instant where
  /-- Seconds since 1970-01-01 00:00:00 UTC, leap seconds not counted. -/
  second : Int
  /-- Nanoseconds of the second; a leap second goes on from 1000000000. -/
  nano : Nat
  /-- Its day is one that has a date. -/
  inRange : Instant.startSecond ≤ second ∧ second < Instant.endSecond := by decide
  /-- A leap second follows the last second of a minute. -/
  isTime : nano < 1000000000 ∨ nano < 2000000000 ∧ second % 60 = 59 := by decide
  deriving Repr, DecidableEq

namespace Instant

instance : Inhabited Instant := ⟨{ second := 0, nano := 0 }⟩

/-- Whether an instant is no later than another. -/
def le (a b : Instant) : Bool := a.second < b.second || (a.second = b.second && a.nano ≤ b.nano)

/-- Instants are ordered by their seconds, and those of one second by their nanoseconds. -/
theorem le_iff {a b : Instant} :
    a.le b = true ↔ a.second < b.second ∨ a.second = b.second ∧ a.nano ≤ b.nano := by
  simp [le]

/-- An instant is no later than itself. -/
@[simp] theorem le_refl (a : Instant) : a.le a = true := by
  simp [le_iff]

/-- What is no later than an instant is no later than those that follow it. -/
theorem le_trans {a b c : Instant} (hab : a.le b = true) (hbc : b.le c = true) :
    a.le c = true := by
  rw [le_iff] at hab hbc ⊢
  omega

/-- Of two instants one is no later than the other. -/
theorem le_total (a b : Instant) : a.le b = true ∨ b.le a = true := by
  rw [le_iff, le_iff]
  omega

/-- Instants neither of which is later are one. -/
theorem le_antisymm {a b : Instant} (hab : a.le b = true) (hba : b.le a = true) : a = b := by
  rw [le_iff] at hab hba
  have hsecond : a.second = b.second := by omega
  have hnano : a.nano = b.nano := by omega
  exact Instant.ext hsecond hnano

/-- The day of an instant. -/
def date (instant : Instant) : Date := Date.ofDays (instant.second / 86400)

/-- The second of the day, from 0 to 86399. -/
def secondOfDay (instant : Instant) : Nat := (instant.second % 86400).toNat

/-- The hour. -/
def hour (instant : Instant) : Nat := instant.secondOfDay / 3600

/-- The minute of the hour. -/
def minute (instant : Instant) : Nat := instant.secondOfDay / 60 % 60

/-- The second as a clock shows it: 60 in a leap second. -/
def clockSecond (instant : Instant) : Nat :=
  instant.secondOfDay % 60 + if 1000000000 ≤ instant.nano then 1 else 0

/-- The nanoseconds of the second that the clock shows. -/
def fraction (instant : Instant) : Nat := instant.nano % 1000000000

/-- The instant of a second and nanoseconds, if there is one. -/
def ofCounts? (second : Int) (nano : Nat) : Option Instant :=
  if h : (startSecond ≤ second ∧ second < endSecond) ∧
      (nano < 1000000000 ∨ nano < 2000000000 ∧ second % 60 = 59) then
    some ⟨second, nano, h.1, h.2⟩
  else none

/-- The instant at which a clock shows a time of a day, `offset` seconds ahead of UTC; `none` if
the day is out of the range of dates. -/
def ofClock? (date : Date) (hour minute second nano : Nat) (offset : Int) : Option Instant :=
  let (second, nano) := if second = 60 then (59, nano + 1000000000) else (second, nano)
  ofCounts? (date.toDays * 86400 + (hour * 3600 + minute * 60 + second : Nat) - offset) nano

end Instant

end Folio.Calendar
