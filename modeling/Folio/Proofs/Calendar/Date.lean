import Folio.Calendar.Instant

/-!
# Days and dates

Every day of the range has a date and every date of the range is that of one day: counting the days
to a date undoes finding the date of a day. Years begin in March here, so that a leap day is the
last day of its year and all other days have the same place in every year.
-/

namespace Folio.Calendar

/-- The number of days from the start of year 0 to the start of a year. -/
def daysToYear (year : Int) : Int := 365 * year + year / 4 - year / 100 + year / 400

/-- A later year starts at least 365 days later. -/
theorem daysToYear_lt {year later : Int} (h : year < later) :
    daysToYear year + 365 ≤ daysToYear later := by
  have hcenturies : year / 4 - year / 100 ≤ later / 4 - later / 100 := by
    have hyear : year / 4 = 25 * (year / 100) + year % 100 / 4 := by omega
    have hlater : later / 4 = 25 * (later / 100) + later % 100 / 4 := by omega
    have hcentury : year / 100 = later / 100 ∨ year / 100 + 1 ≤ later / 100 := by omega
    rcases hcentury with hcentury | hcentury <;> omega
  rw [daysToYear, daysToYear]
  omega

/-- The days to a year are those of its eras of four hundred years and those within its era. -/
theorem daysToYear_eq (year : Int) :
    daysToYear year =
      year / 400 * 146097 + ((year - year / 400 * 400) * 365 + (year - year / 400 * 400) / 4 -
        (year - year / 400 * 400) / 100) := by
  rw [daysToYear]
  omega

/-- The year of a day of an era. -/
def yearOfEra (day : Int) : Int := (day - day / 1460 + day / 36524 - day / 146096) / 365

/-- The place of a day of an era in its year. -/
def dayOfYear (day : Int) : Int :=
  day - (365 * yearOfEra day + yearOfEra day / 4 - yearOfEra day / 100)

/-- A day of an era lies in one of its years; day 365 of a year, the first being day 0, is the leap
day in front of the next year. -/
theorem dayOfYear_spec {day : Int} (hstart : 0 ≤ day) (hend : day ≤ 146096) :
    (0 ≤ yearOfEra day ∧ yearOfEra day ≤ 399) ∧ (0 ≤ dayOfYear day ∧ dayOfYear day ≤ 365) ∧
      (dayOfYear day = 365 → (yearOfEra day + 1) % 4 = 0 ∧
        ((yearOfEra day + 1) % 100 ≠ 0 ∨ yearOfEra day = 399)) := by
  rw [dayOfYear]
  generalize hyear : yearOfEra day = year
  rw [yearOfEra] at hyear
  generalize hfours : day / 1460 = fours at hyear
  generalize hcenturies : day / 36524 = centuries at hyear
  generalize hlast : day / 146096 = last at hyear
  -- The year is determined by the leap years before it up to a rest that is bounded, and its
  -- century is that of the day except on the last day of the era.
  have hrest : year = 4 * fours - 1 ∨ year = 4 * fours ∨ year = 4 * fours + 1 ∨
      year = 4 * fours + 2 ∨ year = 4 * fours + 3 := by omega
  have hcentury : centuries = 0 ∨ centuries = 1 ∨ centuries = 2 ∨ centuries = 3 ∨
      centuries = 4 := by omega
  have hhundred : year / 100 = centuries - last := by
    rcases hcentury with h | h | h | h | h <;> omega
  refine ⟨by omega, ⟨?_, ?_⟩, ?_⟩
  · rcases hrest with h | h | h | h | h <;> omega
  · rcases hrest with h | h | h | h | h <;> omega
  · intro hleap
    have hfour : (year + 1) % 4 = 0 := by
      rcases hrest with h | h | h | h | h <;> omega
    refine ⟨hfour, ?_⟩
    rcases hcentury with h | h | h | h | h <;> omega

namespace Date

/-- The year of a date, counted from March. -/
def marchYear (date : Date) : Int := if date.month ≤ 2 then date.year - 1 else date.year

/-- The month of a date, counted from March as 0. -/
def marchMonth (date : Date) : Int := if date.month ≤ 2 then date.month + 9 else date.month - 3

/-- The days to a date are those to its year and those within its year. -/
theorem toDays_eq (date : Date) :
    date.toDays =
      daysToYear date.marchYear + (153 * date.marchMonth + 2) / 5 + date.day - 1 - 719468 := by
  rw [daysToYear_eq, toDays, ← marchYear, ← marchMonth]
  omega

/-- A date that is in the calendar, whatever its year. -/
structure IsValid (date : Date) : Prop where
  month_pos : 1 ≤ date.month
  month_le : date.month ≤ 12
  day_pos : 1 ≤ date.day
  day_le : date.day ≤ daysInMonth date.year date.month

/-- The date of a day: its year, its month and its place in the month. -/
theorem ofDays_eq (days : Int) :
    ∃ era day, 0 ≤ day ∧ day ≤ 146096 ∧ days = era * 146097 + day - 719468 ∧
      ofDays days =
        (let month := (5 * dayOfYear day + 2) / 153
         let dayOfMonth := dayOfYear day - (153 * month + 2) / 5 + 1
         let year := yearOfEra day + era * 400
         if month < 10 then ⟨year, (month + 3).toNat, dayOfMonth.toNat⟩
         else ⟨year + 1, (month - 9).toNat, dayOfMonth.toNat⟩) :=
  ⟨(days + 719468) / 146097, days + 719468 - (days + 719468) / 146097 * 146097, by omega,
    by omega, by omega, rfl⟩

/-- The years with a leap day. -/
theorem isLeap_iff {year : Int} :
    isLeap year = true ↔ year % 4 = 0 ∧ (year % 100 ≠ 0 ∨ year % 400 = 0) := by
  have hfour : year.emod 4 = year % 4 := rfl
  have hcentury : year.emod 100 = year % 100 := rfl
  have hera : year.emod 400 = year % 400 := rfl
  simp [isLeap, hfour, hcentury, hera]

/-- A year in front of which an era has a leap day has one in every era. -/
theorem isLeap_of_era {year : Int} (era : Int) (hfour : (year + 1) % 4 = 0)
    (hcentury : (year + 1) % 100 ≠ 0 ∨ year = 399) : isLeap (year + era * 400 + 1) = true := by
  rw [isLeap_iff]
  refine ⟨by omega, ?_⟩
  rcases hcentury with hcentury | rfl <;> omega

/-- The last days of a year that begins in March are in its February: there are 29 of them if the
year has 366 days. -/
theorem dayOfYear_le_february {day : Int} (hstart : 0 ≤ day) (hend : day ≤ 146096) (era : Int) :
    dayOfYear day - 336 ≤ daysInMonth (yearOfEra day + era * 400 + 1) 2 := by
  obtain ⟨-, hplace, hleap⟩ := dayOfYear_spec hstart hend
  rw [daysInMonth, if_pos rfl]
  by_cases hlast : dayOfYear day = 365
  · rw [if_pos (isLeap_of_era era (hleap hlast).1 (hleap hlast).2)]
    omega
  · split <;> omega

/-- The date of a day is in the calendar, and the days to it are those that were counted. -/
theorem ofDays_spec (days : Int) : (ofDays days).IsValid ∧ (ofDays days).toDays = days := by
  obtain ⟨era, day, hstart, hend, hdays, hdate⟩ := ofDays_eq days
  obtain ⟨hyear, hplace, -⟩ := dayOfYear_spec hstart hend
  have hlast := dayOfYear_le_february hstart hend era
  have hday : day =
      365 * yearOfEra day + yearOfEra day / 4 - yearOfEra day / 100 + dayOfYear day := by
    rw [dayOfYear]
    omega
  generalize yearOfEra day = year at *
  generalize dayOfYear day = place at *
  generalize hmonth : (5 * place + 2) / 153 = month at hdate
  have hera : (year + era * 400) / 400 = era := by omega
  have hcount : daysToYear (year + era * 400) = era * 146097 + (day - place) := by
    rw [daysToYear_eq, hera, Int.add_sub_cancel]
    omega
  simp only at hdate
  -- From March to December the year of the date is the one that began in March, and in January and
  -- February it is the next one; only the last month depends on the year.
  have hmonths : month = 0 ∨ month = 1 ∨ month = 2 ∨ month = 3 ∨ month = 4 ∨ month = 5 ∨ month = 6 ∨
      month = 7 ∨ month = 8 ∨ month = 9 ∨ month = 10 ∨ month = 11 := by omega
  constructor
  · rw [hdate]
    rcases hmonths with h | h | h | h | h | h | h | h | h | h | h | h <;> subst h
    case inr.inr.inr.inr.inr.inr.inr.inr.inr.inr.inr =>
      rw [if_neg (show ¬ (11 : Int) < 10 by decide)]
      refine ⟨Nat.le_add_left 1 1, Nat.le_add_left 2 10, ?_, ?_⟩
      · change 1 ≤ (place - (153 * 11 + 2) / 5 + 1).toNat
        omega
      · change (place - (153 * 11 + 2) / 5 + 1).toNat ≤ daysInMonth (year + era * 400 + 1) 2
        omega
    all_goals refine ⟨?_, ?_, ?_, ?_⟩ <;> simp [daysInMonth] <;> omega
  · rw [toDays_eq, hdate, marchYear, marchMonth]
    split
    · next hsummer =>
      have hm : ¬ (month + 3).toNat ≤ 2 := by omega
      simp only [hm, if_false, hcount]
      omega
    · next hwinter =>
      have hm : (month - 9).toNat ≤ 2 := by omega
      simp only [hm, if_true]
      rw [show year + era * 400 + 1 - 1 = year + era * 400 by omega, hcount]
      omega

/-- A month has at most 31 days. -/
theorem daysInMonth_le (year : Int) (month : Nat) : daysInMonth year month ≤ 31 := by
  rw [daysInMonth]
  split <;> split <;> omega

/-- February has at most 29 days. -/
theorem daysInMonth_two_le (year : Int) : daysInMonth year 2 ≤ 29 := by
  rw [daysInMonth, if_pos rfl]
  split <;> omega

/-- A date lies before the first day of a year exactly if it is of an earlier year. -/
theorem toDays_lt_iff {date : Date} (h : date.IsValid) (year : Int) :
    date.toDays < Date.toDays ⟨year, 1, 1⟩ ↔ date.year < year := by
  have hfirst : Date.toDays ⟨year, 1, 1⟩ = daysToYear (year - 1) + 306 - 719468 := by
    simp [toDays_eq, marchYear, marchMonth]
  have hlong := Nat.le_trans h.day_le (daysInMonth_le _ _)
  have hpos := h.day_pos
  have hmonth := h.month_le
  rw [hfirst, toDays_eq]
  -- January and February lie at the end of the year that began in March of the year before.
  by_cases hwinter : date.month ≤ 2
  · have hshort : date.month = 2 → date.day ≤ 29 := fun htwo =>
      Nat.le_trans (htwo ▸ h.day_le) (daysInMonth_two_le _)
    have hone := h.month_pos
    rw [marchYear, marchMonth, if_pos hwinter, if_pos hwinter]
    rcases Int.lt_trichotomy date.year year with hyear | hyear | hyear
    · have := daysToYear_lt (show date.year - 1 < year - 1 by omega)
      omega
    · rw [hyear]
      omega
    · have := daysToYear_lt (show year - 1 < date.year - 1 by omega)
      omega
  · rw [marchYear, marchMonth, if_neg hwinter, if_neg hwinter]
    rcases Int.lt_trichotomy date.year (year - 1) with hyear | hyear | hyear
    · have := daysToYear_lt hyear
      omega
    · rw [hyear]
      omega
    · have := daysToYear_lt hyear
      omega

/-- A date between the first and the last one has a year that dates have. -/
theorem year_mem_range {date : Date} (h : date.IsValid)
    (hstart : Date.toDays ⟨minYear, 1, 1⟩ ≤ date.toDays)
    (hend : date.toDays ≤ Date.toDays ⟨maxYear, 12, 31⟩) :
    minYear ≤ date.year ∧ date.year ≤ maxYear := by
  have hnext : Date.toDays ⟨maxYear, 12, 31⟩ < Date.toDays ⟨maxYear + 1, 1, 1⟩ := by decide
  have hmin := toDays_lt_iff h minYear
  have hmax := toDays_lt_iff h (maxYear + 1)
  omega

/-- The date of a day of the range is one that has three numbers. -/
theorem ofYmd?_ofDays {days : Int} (hstart : Date.toDays ⟨minYear, 1, 1⟩ ≤ days)
    (hend : days ≤ Date.toDays ⟨maxYear, 12, 31⟩) :
    ofYmd? (ofDays days).year (ofDays days).month (ofDays days).day = some (ofDays days) := by
  obtain ⟨hvalid, hdays⟩ := ofDays_spec days
  rw [← hdays] at hstart hend
  obtain ⟨hmin, hmax⟩ := year_mem_range hvalid hstart hend
  obtain ⟨hmonth, hlast, hday, hlong⟩ := hvalid
  simp [ofYmd?, hmin, hmax, hmonth, hlast, hday, hlong]

end Date

end Folio.Calendar
