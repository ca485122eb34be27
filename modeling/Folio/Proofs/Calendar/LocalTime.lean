import Folio.Proofs.Calendar.Clock
import Folio.Proofs.Calendar.Day

/-!
# Local times

At every instant UTC shows one time. A place that is ahead of UTC shows a later time then, and maybe
that of the next day; one that is behind shows an earlier time. So what places show at one instant
is written in different ways and read as that instant. Of two times in UTC the later one is the
later instant, as far as nanoseconds tell them apart.
-/

namespace Folio.Calendar

/-- At an instant UTC shows a time. -/
structure Instant.Shows (instant : Instant) (time : ClockTime) : Prop where
  date : instant.date = time.date
  hour : instant.hour = time.hour
  minute : instant.minute = time.minute
  second : instant.clockSecond = time.second
  fraction : instant.fraction = time.nanos

/-- Digits have a value that has no more digits. -/
theorem digitsValue_lt {digits : List Char} (h : ∀ c ∈ digits, c.isDigit = true) :
    digitsValue digits < 10 ^ digits.length := by
  induction digits using List.reverseRecOn with
  | nil => decide
  | append_singleton digits c ih =>
    have hrest := ih fun d hd => h d (List.mem_append_left _ hd)
    have hdigit : c.toNat ≤ 57 := by
      have hc := h c (List.mem_append_right _ (List.mem_singleton_self c))
      simp only [Char.isDigit, Bool.and_eq_true, decide_eq_true_eq] at hc
      exact hc.2
    rw [digitsValue, List.foldl_append, ← digitsValue, List.foldl_cons, List.foldl_nil,
      List.length_append, List.length_singleton, Nat.pow_succ]
    omega

namespace ClockTime

/-- A fraction is less than a second. -/
theorem nanos_lt {time : ClockTime} (h : time.IsValid) : time.nanos < 1000000000 := by
  have hdigits : ∀ c ∈ time.fraction.take 9, c.isDigit = true := fun c hc =>
    h.digits c (List.mem_of_mem_take hc)
  have hvalue := digitsValue_lt hdigits
  have hlength : (time.fraction.take 9).length ≤ 9 := List.length_take_le 9 time.fraction
  rw [nanos]
  calc digitsValue (time.fraction.take 9) * 10 ^ (9 - (time.fraction.take 9).length)
      < 10 ^ (time.fraction.take 9).length * 10 ^ (9 - (time.fraction.take 9).length) :=
        Nat.mul_lt_mul_of_pos_right hvalue (Nat.pow_pos (by decide))
    _ = 10 ^ 9 := by rw [← Nat.pow_add, Nat.add_sub_cancel' hlength]

/-- The minutes from the start of 1970 to a time, where it is shown. -/
def minutes (time : ClockTime) : Int :=
  time.date.toDays * 1440 + (time.hour * 60 + time.minute : Nat)

/-- The second of the minute as it is counted: a leap second is still the last one. -/
def countedSecond (time : ClockTime) : Nat := if time.second = 60 then 59 else time.second

/-- The nanoseconds of the counted second: those of a leap second go on. -/
def countedNanos (time : ClockTime) : Nat :=
  if time.second = 60 then time.nanos + 1000000000 else time.nanos

/-- What is counted in a leap second and in another one. -/
theorem counted_cases {time : ClockTime} (h : time.IsValid) :
    time.second = 60 ∧ time.countedSecond = 59 ∧ time.countedNanos = time.nanos + 1000000000 ∨
      time.second < 60 ∧ time.countedSecond = time.second ∧ time.countedNanos = time.nanos := by
  have hsecond := h.second_le
  rw [countedSecond, countedNanos]
  split <;> omega

/-- The instant of a time depends on the minutes to it, on the second and on the nanoseconds. -/
theorem instant?_eq (time : ClockTime) (zone : Zone) :
    time.instant? zone =
      Instant.ofCounts? ((time.minutes - zone.offset) * 60 + time.countedSecond)
        time.countedNanos := by
  rw [instant?, Instant.ofClock?, minutes, countedSecond, countedNanos]
  by_cases hleap : time.second = 60
  · simp only [hleap, if_true]
    congr 1
    omega
  · simp only [hleap, if_false]
    congr 1
    omega

/-- The days to a date with a year of four digits are those of the calendar. -/
theorem inRange_of_isValid {time : ClockTime} (h : time.IsValid) :
    Date.toDays ⟨Date.minYear, 1, 1⟩ < time.date.toDays ∧
      time.date.toDays < Date.toDays ⟨Date.maxYear, 12, 31⟩ := by
  have hstart : ¬ time.date.toDays < Date.toDays ⟨0, 1, 1⟩ := fun hlt =>
    Int.not_lt.mpr h.year_nonneg ((Date.toDays_lt_iff h.date 0).mp hlt)
  have hend : time.date.toDays < Date.toDays ⟨10000, 1, 1⟩ :=
    (Date.toDays_lt_iff h.date 10000).mpr (Int.lt_add_one_of_le h.year_le)
  have hmin : Date.toDays ⟨Date.minYear, 1, 1⟩ < Date.toDays ⟨0, 1, 1⟩ := by decide
  have hmax : Date.toDays ⟨10000, 1, 1⟩ < Date.toDays ⟨Date.maxYear, 12, 31⟩ := by decide
  omega

/-- The counts of an instant are those that it was made of. -/
theorem counts_of_ofCounts? {second : Int} {nano : Nat} {instant : Instant}
    (h : Instant.ofCounts? second nano = some instant) :
    instant.second = second ∧ instant.nano = nano := by
  rw [Instant.ofCounts?] at h
  split at h
  case isTrue =>
    cases h
    exact ⟨rfl, rfl⟩
  case isFalse => cases h

/-- There is an instant at which UTC shows a time, and the time is read as that instant. -/
theorem exists_instant {time : ClockTime} (h : time.IsValid) :
    ∃ instant, time.instant? .utc = some instant ∧ instant.Shows time := by
  obtain ⟨hstart, hend⟩ := inRange_of_isValid h
  have hnanos := nanos_lt h
  have hhour := h.hour_lt
  have hminute := h.minute_lt
  have hsecond := h.second_le
  rw [instant?_eq, Zone.offset, Int.sub_zero, minutes]
  have hcounted := counted_cases h
  generalize hcount : (time.date.toDays * 1440 + (time.hour * 60 + time.minute : Nat)) * 60 +
    (time.countedSecond : Int) = count
  have hday : count / 86400 = time.date.toDays := by omega
  have hclock : (count % 86400).toNat =
      time.hour * 3600 + time.minute * 60 + time.countedSecond := by omega
  have hrange : Instant.startSecond ≤ count ∧ count < Instant.endSecond := by
    rw [Instant.startSecond, Instant.endSecond]
    omega
  have htime : time.countedNanos < 1000000000 ∨
      time.countedNanos < 2000000000 ∧ count % 60 = 59 := by omega
  refine ⟨⟨count, time.countedNanos, hrange, htime⟩, dif_pos ⟨hrange, htime⟩, ?_, ?_, ?_, ?_, ?_⟩
  · rw [Instant.date, hday, Date.ofDays_toDays h.date]
  · rw [Instant.hour, Instant.secondOfDay, hclock]
    omega
  · rw [Instant.minute, Instant.secondOfDay, hclock]
    omega
  · rw [Instant.clockSecond, Instant.secondOfDay, hclock]
    simp only
    split <;> omega
  · rw [Instant.fraction]
    simp only
    omega

/-- The instant at which UTC shows a time is the one that is read. -/
theorem instant?_of_shows {time : ClockTime} {instant : Instant} (h : instant.Shows time) :
    time.instant? .utc = some instant := by
  rw [instant?, ← h.date, ← h.hour, ← h.minute, ← h.second, ← h.fraction]
  exact instant.ofClock?_clock

/-- A time comes before another by its date, and on one date by hour, minute, second and
nanosecond. -/
def Before (a b : ClockTime) : Prop :=
  a.date.Before b.date ∨ a.date = b.date ∧ (a.hour < b.hour ∨ a.hour = b.hour ∧
    (a.minute < b.minute ∨ a.minute = b.minute ∧
      (a.second < b.second ∨ a.second = b.second ∧ a.nanos < b.nanos)))

/-- A later time in UTC is a later instant. -/
theorem lt_of_before {a b : ClockTime} (ha : a.IsValid) (hb : b.IsValid) (h : a.Before b)
    {first second : Instant} (hfirst : a.instant? .utc = some first)
    (hsecond : b.instant? .utc = some second) : second.le first = false := by
  rw [instant?_eq, Zone.offset, Int.sub_zero, minutes] at hfirst hsecond
  obtain ⟨hfirst, hfirstNano⟩ := counts_of_ofCounts? hfirst
  obtain ⟨hsecond, hsecondNano⟩ := counts_of_ofCounts? hsecond
  have hdays : a.date.toDays < b.date.toDays ∨ a.date = b.date := by
    rcases h with hdate | ⟨hdate, -⟩
    · exact Or.inl (Date.toDays_lt_of_before ha.date hb.date hdate)
    · exact Or.inr hdate
  have hcounted := counted_cases ha
  have hcounted' := counted_cases hb
  have hnanos := nanos_lt ha
  rw [← Bool.not_eq_true, Instant.le_iff, hfirst, hfirstNano, hsecond, hsecondNano]
  -- The day decides, or the rest of the time does.
  rcases hdays with hdays | hdate
  · have hhour := ha.hour_lt
    have hminute := ha.minute_lt
    omega
  · have hrest : a.hour < b.hour ∨ a.hour = b.hour ∧ (a.minute < b.minute ∨ a.minute = b.minute ∧
        (a.second < b.second ∨ a.second = b.second ∧ a.nanos < b.nanos)) := by
      rcases h with hbefore | ⟨-, hrest⟩
      · rw [hdate] at hbefore
        have hlt := Date.toDays_lt_of_before hb.date hb.date hbefore
        omega
      · exact hrest
    have hminute := ha.minute_lt
    rw [hdate]
    omega

/-- What a place shows when UTC shows a time. -/
def inZone (time : ClockTime) (zone : Zone) : ClockTime :=
  let minutes : Int := (time.hour * 60 + time.minute : Nat) + zone.offset
  { time with
    date :=
      if minutes < 0 then time.date.previous
      else if minutes < 1440 then time.date
      else time.date.next
    hour := (minutes % 1440).toNat / 60
    minute := (minutes % 1440).toNat % 60 }

/-- A time of UTC that every place shows with a year of four digits. -/
structure IsShownEverywhere (time : ClockTime) : Prop where
  valid : time.IsValid
  year_pos : 1 ≤ time.date.year
  year_le : time.date.year ≤ 9998

/-- What a place shows is in the calendar. -/
theorem IsShownEverywhere.isValid_inZone {time : ClockTime} (h : time.IsShownEverywhere)
    (zone : Zone) : (time.inZone zone).IsValid := by
  have hday : (time.inZone zone).date.IsValid := by
    rw [inZone]
    simp only
    split
    · exact Date.isValid_previous h.valid.date
    · split
      · exact h.valid.date
      · exact Date.isValid_next h.valid.date
  have hfirst := h.year_pos
  have hlast := h.year_le
  have hyear : time.date.year - 1 ≤ (time.inZone zone).date.year ∧
      (time.inZone zone).date.year ≤ time.date.year + 1 := by
    have hnext := time.date.year_next
    have hprevious := time.date.year_previous
    rw [inZone]
    simp only
    split
    · omega
    · split <;> omega
  refine ⟨hday, by omega, by omega, ?_, ?_, h.valid.second_le, h.valid.digits⟩
  · simp only [inZone]
    omega
  · exact Nat.mod_lt _ (by decide)

/-- A place that is ahead shows a time that is as many minutes later. -/
theorem minutes_inZone {time : ClockTime} (h : time.IsValid) {zone : Zone} (hzone : zone.IsValid) :
    (time.inZone zone).minutes = time.minutes + zone.offset := by
  have hnext := Date.toDays_next h.date
  have hprevious := Date.toDays_previous h.date
  have hhour := h.hour_lt
  have hminute := h.minute_lt
  obtain ⟨hbehind, hahead⟩ := Zone.offset_bounds hzone
  simp only [minutes, inZone]
  split
  · omega
  · split <;> omega

/-- What a place shows is the instant at which UTC shows its time. -/
theorem instant?_inZone {time : ClockTime} (h : time.IsValid) {zone : Zone} (hzone : zone.IsValid) :
    (time.inZone zone).instant? zone = time.instant? .utc := by
  rw [instant?_eq, instant?_eq, minutes_inZone h hzone, Int.add_sub_cancel, Zone.offset,
    Int.sub_zero]
  rfl

/-- What a place shows is read as the instant at which UTC shows its time. -/
theorem IsShownEverywhere.read?_inZone {time : ClockTime} (h : time.IsShownEverywhere)
    {spelling : Spelling} (hspelling : spelling.IsValid) :
    Instant.read? ((time.inZone spelling.zone).text spelling) = time.instant? .utc := by
  rw [read?_text (h.isValid_inZone spelling.zone) hspelling,
    instant?_inZone h.valid hspelling.zone]

example :
    ((⟨⟨2024, 2, 28⟩, 23, 30, 0, ['5']⟩ : ClockTime).inZone (.ahead 0 45)).text
      ⟨' ', .ahead 0 45⟩ = "2024-02-29 00:15:00.5+00:45".toList := by decide

end ClockTime

end Folio.Calendar
