import Folio.Proofs.Calendar.Date

/-!
# One day after the other

The rule of the calendar for the day after a date, and for the day before it, moves the count of
days by one. So dates come in the order of their years, months and days, and the count of days tells
them apart.
-/

namespace Folio.Calendar

namespace Date

/-- The day after a date. -/
def next (date : Date) : Date :=
  if date.day < daysInMonth date.year date.month then { date with day := date.day + 1 }
  else if date.month < 12 then ⟨date.year, date.month + 1, 1⟩
  else ⟨date.year + 1, 1, 1⟩

/-- The day before a date. -/
def previous (date : Date) : Date :=
  if 1 < date.day then { date with day := date.day - 1 }
  else if 1 < date.month then
    ⟨date.year, date.month - 1, daysInMonth date.year (date.month - 1)⟩
  else ⟨date.year - 1, 12, 31⟩

/-- A date comes before another by its year, within a year by its month, and within a month by its
day. -/
def Before (a b : Date) : Prop :=
  a.year < b.year ∨ a.year = b.year ∧ (a.month < b.month ∨ a.month = b.month ∧ a.day < b.day)

/-- A year has a day more if the next one has a leap day, which is the last day of the year that
began in March. -/
theorem daysToYear_succ (year : Int) :
    daysToYear (year + 1) = daysToYear year + 365 + if isLeap (year + 1) then 1 else 0 := by
  rw [daysToYear, daysToYear]
  split
  case isTrue hleap =>
    rw [isLeap_iff] at hleap
    omega
  case isFalse hcommon =>
    rw [isLeap_iff] at hcommon
    omega

/-- The days to a date are those to the first of its month and those within the month. -/
theorem toDays_day (year : Int) (month day : Nat) :
    toDays ⟨year, month, day⟩ = toDays ⟨year, month, 1⟩ + day - 1 := by
  rw [toDays_eq, toDays_eq]
  simp only [marchYear, marchMonth]
  omega

/-- The first of the next month comes as many days later as the month has. -/
theorem toDays_month (year : Int) {month : Nat} (hpos : 1 ≤ month) (hlt : month < 12) :
    toDays ⟨year, month + 1, 1⟩ = toDays ⟨year, month, 1⟩ + daysInMonth year month := by
  have hyear := daysToYear_succ (year - 1)
  rw [Int.sub_add_cancel] at hyear
  rw [toDays_eq, toDays_eq]
  simp only [marchYear, marchMonth]
  have hmonths : month = 1 ∨ month = 2 ∨ month = 3 ∨ month = 4 ∨ month = 5 ∨ month = 6 ∨ month = 7 ∨
      month = 8 ∨ month = 9 ∨ month = 10 ∨ month = 11 := by omega
  rcases hmonths with h | h | h | h | h | h | h | h | h | h | h <;> subst h
  -- Only the end of February depends on the year.
  case inr.inl =>
    simp only [daysInMonth]
    split at hyear <;> simp_all <;> omega
  all_goals (simp [daysInMonth]; omega)

/-- The first of January comes behind the last of December. -/
theorem toDays_year (year : Int) :
    toDays ⟨year + 1, 1, 1⟩ = toDays ⟨year, 12, 1⟩ + 31 := by
  rw [toDays_eq, toDays_eq]
  simp [marchYear, marchMonth]
  omega

/-- The day after a date comes one day later. -/
theorem toDays_next {date : Date} (h : date.IsValid) : date.next.toDays = date.toDays + 1 := by
  obtain ⟨year, month, day⟩ := date
  obtain ⟨hmonth, hlast, hday, hlong⟩ := h
  simp only at hmonth hlast hday hlong
  rw [next]
  split
  case isTrue =>
    rw [toDays_day, toDays_day year month day]
    simp only
    omega
  case isFalse hend =>
    simp only at hend
    split
    case isTrue hmore =>
      rw [toDays_month year hmonth hmore, toDays_day year month day]
      omega
    case isFalse hyear =>
      simp only at hyear
      obtain rfl : month = 12 := by omega
      have hdecember : daysInMonth year 12 = 31 := rfl
      simp only [hdecember] at hend hlong
      simp only [toDays_year]
      rw [toDays_day year 12 day]
      omega

/-- A month has at least 28 days. -/
theorem le_daysInMonth (year : Int) (month : Nat) : 28 ≤ daysInMonth year month := by
  rw [daysInMonth]
  split <;> split <;> omega

/-- The day after a date is in the calendar. -/
theorem isValid_next {date : Date} (h : date.IsValid) : date.next.IsValid := by
  obtain ⟨hmonth, hlast, hday, hlong⟩ := h
  rw [next]
  split
  case isTrue hmore => exact ⟨hmonth, hlast, Nat.le_add_left 1 _, hmore⟩
  case isFalse =>
    have hfirst (year : Int) (month : Nat) : 1 ≤ daysInMonth year month :=
      Nat.le_trans (by decide) (le_daysInMonth year month)
    split
    case isTrue hmore => exact ⟨Nat.le_add_left 1 _, hmore, Nat.le_refl 1, hfirst _ _⟩
    case isFalse => exact ⟨Nat.le_refl 1, Nat.le_add_left 1 11, Nat.le_refl 1, hfirst _ _⟩

/-- The day before a date is in the calendar. -/
theorem isValid_previous {date : Date} (h : date.IsValid) : date.previous.IsValid := by
  obtain ⟨hmonth, hlast, hday, hlong⟩ := h
  rw [previous]
  split
  case isTrue hmore =>
    refine ⟨hmonth, hlast, Nat.le_sub_one_of_lt hmore, ?_⟩
    exact Nat.le_trans (Nat.sub_le _ 1) hlong
  case isFalse =>
    split
    case isTrue hmore =>
      refine ⟨Nat.le_sub_one_of_lt hmore, Nat.le_trans (Nat.sub_le _ 1) hlast, ?_, Nat.le_refl _⟩
      exact Nat.le_trans (by decide) (le_daysInMonth _ _)
    case isFalse =>
      exact ⟨Nat.le_add_left 1 11, Nat.le_refl 12, Nat.le_add_left 1 30, Nat.le_refl 31⟩

/-- The day after the day before a date is that date. -/
theorem next_previous {date : Date} (h : date.IsValid) : date.previous.next = date := by
  obtain ⟨year, month, day⟩ := date
  obtain ⟨hmonth, hlast, hday, hlong⟩ := h
  simp only at hmonth hlast hday hlong
  rw [previous]
  split
  case isTrue hmore =>
    simp only at hmore ⊢
    rw [next, if_pos (by simp only; omega)]
    simp only [Date.mk.injEq, true_and]
    omega
  case isFalse hfirst =>
    simp only at hfirst
    obtain rfl : day = 1 := by omega
    split
    case isTrue hmore =>
      simp only at hmore
      rw [next, if_neg (by simp), if_pos (by simp only; omega)]
      simp only [Date.mk.injEq, true_and, and_true]
      omega
    case isFalse hyear =>
      simp only at hyear
      obtain rfl : month = 1 := by omega
      simp [next, daysInMonth]

/-- The day before a date comes one day earlier. -/
theorem toDays_previous {date : Date} (h : date.IsValid) :
    date.previous.toDays = date.toDays - 1 := by
  have hnext := toDays_next (isValid_previous h)
  rw [next_previous h] at hnext
  omega

/-- The day after a date is of the same year or of the next one. -/
theorem year_next (date : Date) : date.next.year = date.year ∨ date.next.year = date.year + 1 := by
  rw [next]
  split
  · exact Or.inl rfl
  · split
    · exact Or.inl rfl
    · exact Or.inr rfl

/-- The day before a date is of the same year or of the one before it. -/
theorem year_previous (date : Date) :
    date.previous.year = date.year ∨ date.previous.year = date.year - 1 := by
  rw [previous]
  split
  · exact Or.inl rfl
  · split
    · exact Or.inl rfl
    · exact Or.inr rfl

/-- The first of a later month of a year comes no earlier than the end of a month. -/
theorem toDays_month_le (year : Int) {month later : Nat} (hpos : 1 ≤ month) (hlt : month < later)
    (hlast : later ≤ 12) :
    toDays ⟨year, month, 1⟩ + daysInMonth year month ≤ toDays ⟨year, later, 1⟩ := by
  induction hlt with
  | refl => exact Int.le_of_eq (toDays_month year hpos hlast).symm
  | @step between hle ih =>
    have hbetween : month + 1 ≤ between := hle
    have hmonth := toDays_month year (show 1 ≤ between by omega) (by omega)
    have hstart := ih (by omega)
    rw [Nat.succ_eq_add_one]
    omega

/-- An earlier date has fewer days before it. -/
theorem toDays_lt_of_before {a b : Date} (ha : a.IsValid) (hb : b.IsValid) (h : a.Before b) :
    a.toDays < b.toDays := by
  rcases h with hyear | ⟨hyear, hmonth | ⟨hmonth, hday⟩⟩
  · have hfirst := (toDays_lt_iff ha b.year).mpr hyear
    have hsecond : ¬ b.toDays < toDays ⟨b.year, 1, 1⟩ := fun hlt =>
      Int.lt_irrefl _ ((toDays_lt_iff hb b.year).mp hlt)
    omega
  · obtain ⟨year, month, day⟩ := a
    obtain ⟨year', month', day'⟩ := b
    simp only at hyear hmonth
    subst hyear
    have hstart := toDays_month_le year ha.month_pos hmonth hb.month_le
    have hlong := ha.day_le
    have hpos := hb.day_pos
    rw [toDays_day year month day, toDays_day year month' day']
    simp only at hlong hpos hstart
    omega
  · obtain ⟨year, month, day⟩ := a
    obtain ⟨year', month', day'⟩ := b
    simp only at hyear hmonth hday
    subst hyear hmonth
    rw [toDays_day year month day, toDays_day year month day']
    omega

/-- Of two dates one comes before the other, or they are one. -/
theorem before_or_eq_or_before (a b : Date) : a.Before b ∨ a = b ∨ b.Before a := by
  obtain ⟨year, month, day⟩ := a
  obtain ⟨year', month', day'⟩ := b
  simp only [Before, Date.mk.injEq]
  omega

/-- The count of days tells dates apart. -/
theorem eq_of_toDays_eq {a b : Date} (ha : a.IsValid) (hb : b.IsValid)
    (h : a.toDays = b.toDays) : a = b := by
  rcases before_or_eq_or_before a b with hlt | heq | hlt
  · have := toDays_lt_of_before ha hb hlt
    omega
  · exact heq
  · have := toDays_lt_of_before hb ha hlt
    omega

/-- The date of the day to which the days are counted is that date. -/
theorem ofDays_toDays {date : Date} (h : date.IsValid) : ofDays date.toDays = date := by
  obtain ⟨hvalid, hdays⟩ := ofDays_spec date.toDays
  exact eq_of_toDays_eq hvalid h hdays

end Date

end Folio.Calendar
