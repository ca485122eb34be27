import Folio.Proofs.Calendar.LocalTime
import Folio.Proofs.Calendar.Writing
import Mathlib.Data.Int.Init

/-!
# Dates of mail headers

The first day of 1970 was a Thursday, and the days of the week follow one another as the dates do.
This says of every date on which day of the week it falls: the one that is found by dividing the
count of days by seven.

A reader of the dates of mail headers: a day of the week, a date of the calendar and a time in UTC
to the second. What is written for an instant is read as the date and the time that UTC shows then,
a leap second as the second 60, and the day of the week is the one on which the date falls.
-/

namespace Folio.Calendar

open Folio.Text (dropStart? dropStart?_append)

/-- A day of the week. -/
inductive Weekday where
  | monday
  | tuesday
  | wednesday
  | thursday
  | friday
  | saturday
  | sunday
  deriving Repr, DecidableEq

namespace Weekday

/-- The day of the week after another one. -/
def next : Weekday → Weekday
  | .monday => .tuesday
  | .tuesday => .wednesday
  | .wednesday => .thursday
  | .thursday => .friday
  | .friday => .saturday
  | .saturday => .sunday
  | .sunday => .monday

/-- The day of the week before another one. -/
def previous : Weekday → Weekday
  | .monday => .sunday
  | .tuesday => .monday
  | .wednesday => .tuesday
  | .thursday => .wednesday
  | .friday => .thursday
  | .saturday => .friday
  | .sunday => .saturday

/-- The days of the week in order. -/
def all : List Weekday :=
  [.monday, .tuesday, .wednesday, .thursday, .friday, .saturday, .sunday]

/-- The day of the week of a number, with Monday as 0. -/
def ofIndex (n : Nat) : Weekday := all.getD n .sunday

/-- The day of the week after another one has the next number. -/
theorem next_ofIndex : ∀ n < 7, (ofIndex n).next = ofIndex ((n + 1) % 7) := by decide

/-- The day of the week before another one has the number before. -/
theorem previous_ofIndex : ∀ n < 7, (ofIndex n).previous = ofIndex ((n + 6) % 7) := by decide

end Weekday

/-- A date falls on a day of the week. -/
inductive FallsOn : Date → Weekday → Prop where
  | epoch : FallsOn ⟨1970, 1, 1⟩ .thursday
  | next {date : Date} {weekday : Weekday} (h : FallsOn date weekday) :
      FallsOn date.next weekday.next
  | previous {date : Date} {weekday : Weekday} (h : FallsOn date weekday) :
      FallsOn date.previous weekday.previous

namespace Date

/-- The number of a day of the week is less than seven. -/
theorem weekday_lt (date : Date) : date.weekday < 7 := by
  rw [weekday]
  omega

/-- The day after a date falls on the next day of the week. -/
theorem weekday_next {date : Date} (h : date.IsValid) :
    date.next.weekday = (date.weekday + 1) % 7 := by
  rw [weekday, weekday, toDays_next h]
  omega

/-- The day before a date falls on the day of the week before. -/
theorem weekday_previous {date : Date} (h : date.IsValid) :
    date.previous.weekday = (date.weekday + 6) % 7 := by
  rw [weekday, weekday, toDays_previous h]
  omega

/-- The date of the next day is the day after the date. -/
theorem ofDays_add_one (days : Int) : ofDays (days + 1) = (ofDays days).next := by
  obtain ⟨hvalid, hdays⟩ := ofDays_spec days
  obtain ⟨hvalid', hdays'⟩ := ofDays_spec (days + 1)
  refine eq_of_toDays_eq hvalid' (isValid_next hvalid) ?_
  rw [hdays', toDays_next hvalid, hdays]

/-- The date of the day before is the day before the date. -/
theorem ofDays_sub_one (days : Int) : ofDays (days - 1) = (ofDays days).previous := by
  obtain ⟨hvalid, hdays⟩ := ofDays_spec days
  obtain ⟨hvalid', hdays'⟩ := ofDays_spec (days - 1)
  refine eq_of_toDays_eq hvalid' (isValid_previous hvalid) ?_
  rw [hdays', toDays_previous hvalid, hdays]

end Date

/-- A date falls on the day of the week that is found for it. -/
theorem FallsOn.eq_ofIndex {date : Date} {weekday : Weekday} (h : FallsOn date weekday) :
    date.IsValid ∧ weekday = .ofIndex date.weekday := by
  induction h with
  | epoch => exact ⟨⟨by decide, by decide, by decide, by decide⟩, by decide⟩
  | @next date weekday _ ih =>
    obtain ⟨hvalid, rfl⟩ := ih
    refine ⟨Date.isValid_next hvalid, ?_⟩
    rw [Weekday.next_ofIndex _ date.weekday_lt, Date.weekday_next hvalid]
  | @previous date weekday _ ih =>
    obtain ⟨hvalid, rfl⟩ := ih
    refine ⟨Date.isValid_previous hvalid, ?_⟩
    rw [Weekday.previous_ofIndex _ date.weekday_lt, Date.weekday_previous hvalid]

/-- The date of every day falls on a day of the week. -/
theorem exists_fallsOn_ofDays (days : Int) : ∃ weekday, FallsOn (Date.ofDays days) weekday := by
  induction days using Int.induction_on with
  | zero => exact ⟨.thursday, .epoch⟩
  | succ days ih =>
    obtain ⟨weekday, h⟩ := ih
    exact ⟨weekday.next, Date.ofDays_add_one _ ▸ h.next⟩
  | pred days ih =>
    obtain ⟨weekday, h⟩ := ih
    exact ⟨weekday.previous, Date.ofDays_sub_one _ ▸ h.previous⟩

/-- A date of the calendar falls on one day of the week, the one that is found for it. -/
theorem fallsOn_iff {date : Date} (h : date.IsValid) {weekday : Weekday} :
    FallsOn date weekday ↔ weekday = .ofIndex date.weekday := by
  constructor
  · exact fun hfalls => hfalls.eq_ofIndex.2
  · rintro rfl
    obtain ⟨weekday, hfalls⟩ := exists_fallsOn_ofDays date.toDays
    rw [Date.ofDays_toDays h] at hfalls
    rwa [← hfalls.eq_ofIndex.2]

/-- What a date of a mail header says. -/
structure MailDate where
  weekday : Weekday
  time : ClockTime
  deriving Repr, DecidableEq

/-- The day of the week of a name. -/
def Weekday.ofName? (name : List Char) : Option Weekday :=
  match String.ofList name with
  | "Mon" => some .monday
  | "Tue" => some .tuesday
  | "Wed" => some .wednesday
  | "Thu" => some .thursday
  | "Fri" => some .friday
  | "Sat" => some .saturday
  | "Sun" => some .sunday
  | _ => none

/-- The month of a name. -/
def month? (name : List Char) : Option Nat :=
  match String.ofList name with
  | "Jan" => some 1
  | "Feb" => some 2
  | "Mar" => some 3
  | "Apr" => some 4
  | "May" => some 5
  | "Jun" => some 6
  | "Jul" => some 7
  | "Aug" => some 8
  | "Sep" => some 9
  | "Oct" => some 10
  | "Nov" => some 11
  | "Dec" => some 12
  | _ => none

/-- A number of at least so many and at most so many digits. -/
def digits? (least most : Nat) (s : List Char) : Option (Nat × List Char) :=
  let digits := s.takeWhile Char.isDigit
  if least ≤ digits.length ∧ digits.length ≤ most then
    some (digitsValue digits, s.drop digits.length)
  else none

/-- Read a date of a mail header. -/
def MailDate.read? (s : List Char) : Option MailDate := do
  let weekday ← Weekday.ofName? (s.take 3)
  let s ← dropStart? [',', ' '] (s.drop 3)
  let (day, s) ← digits? 1 2 s
  let s ← dropStart? [' '] s
  let month ← month? (s.take 3)
  let s ← dropStart? [' '] (s.drop 3)
  let (year, s) ← digits? 4 4 s
  let s ← dropStart? [' '] s
  let (hour, s) ← digits? 2 2 s
  let s ← dropStart? [':'] s
  let (minute, s) ← digits? 2 2 s
  let s ← dropStart? [':'] s
  let (second, s) ← digits? 2 2 s
  if s = " +0000".toList then
    return { weekday, time := ⟨⟨year, month, day⟩, hour, minute, second, []⟩ }
  else none

/-- A day of the week is read from its name, and its name has three letters. -/
theorem ofName?_weekdayName : ∀ n < 7,
    Weekday.ofName? (weekdayName n) = some (.ofIndex n) ∧ (weekdayName n).length = 3 := by
  decide

/-- A month is read from its name, and its name has three letters. -/
theorem month?_monthName : ∀ n < 12,
    month? (monthName (n + 1)) = some (n + 1) ∧ (monthName (n + 1)).length = 3 := by
  decide

/-- Digits are read as a number if no digit follows them. -/
theorem digits?_append {least most : Nat} {digits : List Char}
    (hdigits : ∀ c ∈ digits, c.isDigit = true) (hleast : least ≤ digits.length)
    (hmost : digits.length ≤ most) {rest : List Char} (hrest : rest.takeWhile Char.isDigit = []) :
    digits? least most (digits ++ rest) = some (digitsValue digits, rest) := by
  simp [digits?, takeWhile_isDigit_append hdigits hrest, hleast, hmost]

/-- A number that fills its width is read if no digit follows it. -/
theorem digits?_padded_append {width n : Nat} (hwidth : 0 < width) (hn : n < 10 ^ width)
    {rest : List Char} (hrest : rest.takeWhile Char.isDigit = []) :
    digits? width width (padded '0' width n ++ rest) = some (n, rest) := by
  have hlength := length_padded hwidth hn
  rw [digits?_append (fun c hc => isDigit_of_mem_padded hc) (by omega) (by omega) hrest,
    digitsValue_padded]

/-- A number of one or two digits is read if no digit follows it. -/
theorem digits?_decimal_append {n : Nat} (hn : n < 100) {rest : List Char}
    (hrest : rest.takeWhile Char.isDigit = []) :
    digits? 1 2 (decimal n ++ rest) = some (n, rest) := by
  have hdigits : ∀ c ∈ decimal n, c.isDigit = true := fun c hc =>
    Nat.isDigit_of_mem_toDigits (by decide) (by decide) hc
  have hpos : 1 ≤ (decimal n).length := List.length_pos_iff.mpr Nat.toDigits_ne_nil
  have hlength : (decimal n).length ≤ 2 :=
    (Nat.length_toDigits_le_iff (by decide) (by decide)).mpr hn
  rw [digits?_append hdigits hpos hlength hrest, digitsValue_decimal]

namespace Instant

/-- The second that a clock shows at an instant, from its start. -/
def wholeSecond (instant : Instant) : Instant where
  second := instant.second
  nano := if 1000000000 ≤ instant.nano then 1000000000 else 0
  inRange := instant.inRange
  isTime := by
    have := instant.isTime
    split <;> omega

/-- What UTC shows at an instant, without a fraction of the second. -/
def clockTime (instant : Instant) : ClockTime :=
  ⟨instant.date, instant.hour, instant.minute, instant.clockSecond, []⟩

/-- From its start on UTC shows a second. -/
theorem wholeSecond_shows (instant : Instant) : instant.wholeSecond.Shows instant.clockTime where
  date := rfl
  hour := rfl
  minute := rfl
  second := by
    simp only [clockSecond, clockTime, secondOfDay, wholeSecond]
    split <;> simp_all
  fraction := by
    have hnone : instant.clockTime.nanos = 0 := Nat.zero_mul _
    rw [hnone]
    simp only [fraction, wholeSecond]
    split
    · exact Nat.mod_self _
    · exact Nat.zero_mod _

/-- What UTC shows in a year of four digits is a time of the calendar. -/
theorem isValid_clockTime {instant : Instant}
    (hyear : 0 ≤ instant.date.year ∧ instant.date.year ≤ 9999) : instant.clockTime.IsValid where
  date := instant.isValid_date
  year_nonneg := hyear.1
  year_le := hyear.2
  hour_lt := instant.clock_bounds.1
  minute_lt := instant.clock_bounds.2.1
  second_le := instant.clock_bounds.2.2
  digits := by simp [clockTime]

/-- What is written for an instant in a mail header is read as what UTC shows, and as the day of the
week that is found for its date. -/
theorem read?_mailText {instant : Instant} {text : List Char}
    (h : instant.mailText? = some text) :
    (0 ≤ instant.date.year ∧ instant.date.year ≤ 9999) ∧
      MailDate.read? text = some ⟨.ofIndex instant.date.weekday, instant.clockTime⟩ := by
  rw [mailText?] at h
  simp only [Bool.and_eq_true, decide_eq_true_eq] at h
  split at h
  case isFalse => cases h
  case isTrue hyear =>
    refine ⟨hyear, ?_⟩
    obtain rfl := Option.some.inj h
    obtain ⟨hmonth, hlast, -, hday⟩ := instant.isValid_date
    obtain ⟨hhour, hminute, hsecond⟩ := instant.clock_bounds
    have hlong := Nat.le_trans hday (Date.daysInMonth_le _ _)
    obtain ⟨hweekday, hweekdayLength⟩ :=
      ofName?_weekdayName instant.date.weekday instant.date.weekday_lt
    obtain ⟨hname, hnameLength⟩ := month?_monthName (instant.date.month - 1) (by omega)
    rw [Nat.sub_add_cancel hmonth] at hname hnameLength
    have htwo {n : Nat} (hn : n < 100) {rest : List Char}
        (hrest : rest.takeWhile Char.isDigit = []) :
        digits? 2 2 (padded '0' 2 n ++ rest) = some (n, rest) :=
      digits?_padded_append (by decide) hn hrest
    have hfour {rest : List Char} (hrest : rest.takeWhile Char.isDigit = []) :
        digits? 4 4 (padded '0' 4 instant.date.year.natAbs ++ rest) =
          some (instant.date.year.natAbs, rest) :=
      digits?_padded_append (by decide) (by omega) hrest
    have hmark (c : Char) (rest : List Char) : dropStart? [c] (c :: rest) = some rest :=
      dropStart?_append [c] rest
    rw [clockText]
    simp only [List.append_assoc, List.cons_append]
    rw [MailDate.read?]
    -- Each step takes one part of the text and leaves the rest to the next one.
    refine Option.bind_eq_some_iff.mpr ⟨_, by rw [List.take_left' hweekdayLength, hweekday], ?_⟩
    rw [List.drop_left' hweekdayLength]
    refine Option.bind_eq_some_iff.mpr ⟨_, dropStart?_append [',', ' '] _, ?_⟩
    refine Option.bind_eq_some_iff.mpr ⟨_, digits?_decimal_append (by omega) rfl, ?_⟩
    refine Option.bind_eq_some_iff.mpr ⟨_, hmark ' ' _, ?_⟩
    refine Option.bind_eq_some_iff.mpr ⟨_, by rw [List.take_left' hnameLength, hname], ?_⟩
    rw [List.drop_left' hnameLength]
    refine Option.bind_eq_some_iff.mpr ⟨_, hmark ' ' _, ?_⟩
    refine Option.bind_eq_some_iff.mpr ⟨_, hfour rfl, ?_⟩
    refine Option.bind_eq_some_iff.mpr ⟨_, hmark ' ' _, ?_⟩
    refine Option.bind_eq_some_iff.mpr ⟨_, htwo (by omega) rfl, ?_⟩
    refine Option.bind_eq_some_iff.mpr ⟨_, hmark ':' _, ?_⟩
    refine Option.bind_eq_some_iff.mpr ⟨_, htwo (by omega) rfl, ?_⟩
    refine Option.bind_eq_some_iff.mpr ⟨_, hmark ':' _, ?_⟩
    refine Option.bind_eq_some_iff.mpr ⟨_, htwo (by omega) rfl, ?_⟩
    have hnonneg : (instant.date.year.natAbs : Int) = instant.date.year := by omega
    simp only [if_true, hnonneg]
    rfl

example : MailDate.read? "Sat, 31 Dec 2016 23:59:60 +0000".toList =
    some ⟨.saturday, ⟨⟨2016, 12, 31⟩, 23, 59, 60, []⟩⟩ := by decide

end Instant

/-- A text names the second that UTC shows at an instant: it is read as a date and a time of the
calendar and as the day of the week on which the date falls, and UTC shows them when the second
starts. -/
def NamesSecond (text : List Char) (instant : Instant) : Prop :=
  ∃ mail, MailDate.read? text = some mail ∧ mail.time.IsValid ∧
    FallsOn mail.time.date mail.weekday ∧ mail.time.instant? .utc = some instant.wholeSecond

/-- What is written for an instant in a mail header names its second. -/
theorem namesSecond_of_mailText? {instant : Instant} {text : List Char}
    (h : instant.mailText? = some text) : NamesSecond text instant := by
  obtain ⟨hyear, hread⟩ := Instant.read?_mailText h
  exact ⟨_, hread, Instant.isValid_clockTime hyear, (fallsOn_iff instant.isValid_date).mpr rfl,
    ClockTime.instant?_of_shows instant.wholeSecond_shows⟩

end Folio.Calendar
