import Folio.Calendar.Reader
import Folio.Calendar.Writer
import Folio.Proofs.Calendar.Date
import Mathlib.Algebra.Group.Nat.Defs

/-!
# Written dates are read back

The exact form of an instant spells that instant, whatever its year and also in a leap second. Each
part of the form is read by one step of the reader, which stops where the part ends: by its width,
or at the mark behind it.
-/

namespace Folio.Calendar

open Folio.Text (isBlank trimStart)

/-- A digit is not blank. -/
theorem not_isBlank_of_isDigit {c : Char} (h : c.isDigit = true) : isBlank c = false := by
  have hrange : 48 ≤ c.toNat ∧ c.toNat ≤ 57 := by
    simpa [Char.isDigit, UInt32.le_iff_toNat_le] using h
  simp only [isBlank, Bool.or_eq_false_iff, Bool.and_eq_false_iff, decide_eq_false_iff_not,
    beq_eq_false_iff_ne]
  omega

/-- Nothing is cut off in front of a text that begins with a visible character. -/
theorem trimStart_cons {c : Char} (hc : isBlank c = false) (rest : List Char) :
    trimStart (c :: rest) = c :: rest := by
  rw [trimStart, List.dropWhile_cons_of_neg (by simp [hc])]

/-- Digits in front of a text that goes on with another character are taken as a whole. -/
theorem takeWhile_isDigit_append {digits rest : List Char} (h : ∀ c ∈ digits, c.isDigit = true)
    (hrest : rest.takeWhile Char.isDigit = []) :
    (digits ++ rest).takeWhile Char.isDigit = digits := by
  rw [List.takeWhile_append_of_pos h, hrest, List.append_nil]

/-- Zeros in front of digits do not count. -/
theorem digitsValue_zeros_append (n : Nat) (digits : List Char) :
    digitsValue (List.replicate n '0' ++ digits) = digitsValue digits := by
  induction n with
  | zero => rfl
  | succ n ih =>
    rw [List.replicate_succ, List.cons_append, digitsValue, List.foldl_cons]
    exact ih

/-- The digits of a number spell it. -/
theorem digitsValue_decimal (n : Nat) : digitsValue (decimal n) = n :=
  Nat.ofDigitChars_toDigits (by decide) (by decide)

/-- A number filled up with zeros spells it. -/
@[simp] theorem digitsValue_padded (width n : Nat) : digitsValue (padded '0' width n) = n := by
  rw [padded, digitsValue_zeros_append, digitsValue_decimal]

/-- A number filled up with zeros consists of digits. -/
theorem isDigit_of_mem_padded {width n : Nat} {c : Char} (hc : c ∈ padded '0' width n) :
    c.isDigit = true := by
  rw [padded, List.mem_append] at hc
  rcases hc with hc | hc
  · rw [List.eq_of_mem_replicate hc]
    rfl
  · exact Nat.isDigit_of_mem_toDigits (by decide) (by decide) hc

/-- A number that fits a width takes all of it. -/
theorem length_padded {width n : Nat} (hwidth : 0 < width) (hn : n < 10 ^ width) :
    (padded '0' width n).length = width := by
  have hlength : (decimal n).length ≤ width :=
    (Nat.length_toDigits_le_iff (by decide) hwidth).mpr hn
  rw [padded, List.length_append, List.length_replicate]
  omega

/-- There is always a digit. -/
theorem exists_padded_eq_cons (width n : Nat) :
    ∃ c rest, padded '0' width n = c :: rest ∧ c.isDigit = true := by
  cases h : padded '0' width n with
  | nil => exact absurd (List.append_eq_nil_iff.mp h).2 Nat.toDigits_ne_nil
  | cons c rest => exact ⟨c, rest, rfl, isDigit_of_mem_padded (h ▸ List.mem_cons_self)⟩

/-- Nothing is cut off in front of a number. -/
theorem trimStart_padded_append (width n : Nat) (rest : List Char) :
    trimStart (padded '0' width n ++ rest) = padded '0' width n ++ rest := by
  obtain ⟨c, more, hpadded, hc⟩ := exists_padded_eq_cons width n
  rw [hpadded, List.cons_append, trimStart_cons (not_isBlank_of_isDigit hc)]

/-- A mark is passed. -/
theorem mark?_cons {c : Char} (hc : isBlank c = false) (rest : List Char) :
    mark? c (c :: rest) = some rest := by
  rw [mark?, trimStart_cons hc]
  simp

/-- A number that takes the whole width is read, whatever follows. -/
theorem number?_padded_append {width n : Nat} (hwidth : 0 < width) (hn : n < 10 ^ width)
    (rest : List Char) : number? width (padded '0' width n ++ rest) = some (n, rest) := by
  have hlength := length_padded hwidth hn
  have htake : (padded '0' width n ++ rest).take width = padded '0' width n := by
    rw [List.take_append_of_le_length (by omega), List.take_of_length_le (by omega)]
  have hdigits : (padded '0' width n).takeWhile Char.isDigit = padded '0' width n := by
    have hall : ∀ c ∈ padded '0' width n, c.isDigit = true := fun c hc => isDigit_of_mem_padded hc
    simpa using takeWhile_isDigit_append hall List.takeWhile_nil
  have hempty : (padded '0' width n).isEmpty = false := by
    obtain ⟨c, more, hpadded, -⟩ := exists_padded_eq_cons width n
    rw [hpadded, List.isEmpty_cons]
  simp [number?, trimStart_padded_append, htake, hdigits, hempty]

/-- A year is read if no digit follows it. -/
theorem year?_yearText_append (year : Int) {rest : List Char}
    (hrest : rest.takeWhile Char.isDigit = []) :
    year? (yearText year ++ rest) = some (year, rest) := by
  obtain ⟨c, more, hpadded, hc⟩ := exists_padded_eq_cons 4 year.natAbs
  have hdigits : (padded '0' 4 year.natAbs ++ rest).takeWhile Char.isDigit =
      padded '0' 4 year.natAbs :=
    takeWhile_isDigit_append (fun c hc => isDigit_of_mem_padded hc) hrest
  have hempty : (padded '0' 4 year.natAbs).isEmpty = false := by rw [hpadded, List.isEmpty_cons]
  rw [yearText]
  split
  case isTrue hnegative =>
    rw [year?, List.cons_append, trimStart_cons (by decide)]
    simp only [hdigits, hempty, digitsValue_padded, Bool.false_eq_true, if_false, if_true,
      List.drop_left, Option.some.injEq, Prod.mk.injEq, and_true]
    omega
  case isFalse hnonneg =>
    split
    case isTrue hfour =>
      have hsign : c ≠ '-' ∧ c ≠ '+' := by
        constructor <;> rintro rfl <;> revert hc <;> decide
      rw [year?, trimStart_padded_append]
      have hnumber : number? 4 (padded '0' 4 year.natAbs ++ rest) = some (year.natAbs, rest) :=
        number?_padded_append (by decide) (by omega) rest
      rw [hpadded, List.cons_append] at hnumber ⊢
      split
      case h_1 heq => exact absurd (List.cons.inj heq).1 hsign.1
      case h_2 heq => exact absurd (List.cons.inj heq).1 hsign.2
      case h_3 =>
        rw [hnumber, Option.map_some]
        simp only [Option.some.injEq, Prod.mk.injEq, and_true]
        omega
    case isFalse hlong =>
      rw [year?, List.cons_append, trimStart_cons (by decide)]
      simp only [hdigits, hempty, digitsValue_padded, Bool.false_eq_true, if_false,
        List.drop_left, Option.some.injEq, Prod.mk.injEq, and_true]
      omega

/-- A fraction of up to nine digits is read if no digit follows it. -/
theorem fraction?_padded_append {width n : Nat} (hwidth : 0 < width) (hnine : width ≤ 9)
    (hn : n < 10 ^ width) {rest : List Char} (hrest : rest.takeWhile Char.isDigit = []) :
    fraction? ('.' :: padded '0' width n ++ rest) = some (n * 10 ^ (9 - width), rest) := by
  have hlength := length_padded hwidth hn
  have hdigits : (padded '0' width n ++ rest).takeWhile Char.isDigit = padded '0' width n :=
    takeWhile_isDigit_append (fun c hc => isDigit_of_mem_padded hc) hrest
  have hempty : (padded '0' width n).isEmpty = false := by
    obtain ⟨c, more, hpadded, -⟩ := exists_padded_eq_cons width n
    rw [hpadded, List.isEmpty_cons]
  have htake : (padded '0' width n).take 9 = padded '0' width n :=
    List.take_of_length_le (by omega)
  simp [fraction?, hdigits, hempty, htake, hlength]

namespace Instant

/-- The fraction of an instant is read. -/
theorem fraction?_fractionText (instant : Instant) :
    fraction? (instant.fractionText ++ ['Z']) = some (instant.fraction, ['Z']) := by
  have hlt : instant.fraction < 1000000000 := Nat.mod_lt _ (by decide)
  have hend : ['Z'].takeWhile Char.isDigit = [] := rfl
  rw [fractionText]
  generalize instant.fraction = n at hlt
  split
  case isTrue hzero => rw [hzero]; rfl
  case isFalse =>
    split
    case isTrue hthree =>
      rw [fraction?_padded_append (by decide) (by decide) (by omega) hend]
      simp only [Nat.reduceSub, Nat.reducePow]
      rw [Nat.div_mul_cancel (Nat.dvd_of_mod_eq_zero hthree)]
    case isFalse =>
      split
      case isTrue hsix =>
        rw [fraction?_padded_append (by decide) (by decide) (by omega) hend]
        simp only [Nat.reduceSub, Nat.reducePow]
        rw [Nat.div_mul_cancel (Nat.dvd_of_mod_eq_zero hsix)]
      case isFalse =>
        rw [fraction?_padded_append (by decide) (by decide) (by omega) hend]
        simp

/-- A clock shows at most 23 hours, 59 minutes and 60 seconds. -/
theorem clock_bounds (instant : Instant) :
    instant.hour < 24 ∧ instant.minute < 60 ∧ instant.clockSecond ≤ 60 := by
  have hday : instant.secondOfDay < 86400 := by
    rw [secondOfDay]
    omega
  have hsecond : instant.clockSecond ≤ 60 := by
    rw [clockSecond]
    split <;> omega
  refine ⟨?_, ?_, hsecond⟩
  · rw [hour]
    omega
  · rw [minute]
    omega

/-- An instant has a date of the calendar. -/
theorem isValid_date (instant : Instant) : instant.date.IsValid :=
  (Date.ofDays_spec (instant.second / 86400)).1

/-- The date of an instant is one that dates have. -/
theorem ofYmd?_date (instant : Instant) :
    Date.ofYmd? instant.date.year instant.date.month instant.date.day = some instant.date := by
  have hrange := instant.inRange
  rw [startSecond, endSecond] at hrange
  exact Date.ofYmd?_ofDays (by omega) (by omega)

/-- The date and the time of the day determine the instant. -/
theorem ofClock?_clock (instant : Instant) :
    ofClock? instant.date instant.hour instant.minute instant.clockSecond instant.fraction 0 =
      some instant := by
  have hdays : instant.date.toDays = instant.second / 86400 := (Date.ofDays_spec _).2
  have hinstant : ofCounts? instant.second instant.nano = some instant := by
    rw [ofCounts?, dif_pos ⟨instant.inRange, instant.isTime⟩]
  have htime := instant.isTime
  have hday : (instant.secondOfDay : Int) = instant.second % 86400 := by
    rw [secondOfDay]
    omega
  have hsecond : instant.second = instant.date.toDays * 86400 +
      (instant.hour * 3600 + instant.minute * 60 + instant.secondOfDay % 60 : Nat) - 0 := by
    rw [hdays, hour, minute]
    omega
  rw [ofClock?, clockSecond, fraction]
  by_cases hleap : 1000000000 ≤ instant.nano
  · have hclock : instant.secondOfDay % 60 + 1 = 60 := by omega
    have hnano : instant.nano % 1000000000 + 1000000000 = instant.nano := by omega
    rw [show instant.secondOfDay % 60 = 59 by omega] at hsecond
    simp only [hleap, if_true, hclock, hnano]
    rw [← hsecond, hinstant]
  · have hclock : instant.secondOfDay % 60 ≠ 60 := by omega
    have hnano : instant.nano % 1000000000 = instant.nano := by omega
    simp only [hleap, if_false, Nat.add_zero, hclock, hnano]
    rw [← hsecond, hinstant]

/-- A written date and time is read as the instant at which a clock shows it that is as far ahead of
UTC as what is behind the time says. -/
theorem read?_written {date : Date} (hdate : date.IsValid)
    (hknown : Date.ofYmd? date.year date.month date.day = some date) {hour minute second : Nat}
    (hhour : hour < 24) (hminute : minute < 60) (hsecond : second ≤ 60) {separator : Char}
    (hseparator : separator = 'T' ∨ separator = ' ') {behind zone : List Char} {nano : Nat}
    {offset : Int} (hfraction : fraction? behind = some (nano, zone))
    (hoffset : offset? (trimStart zone) = some (offset, [])) :
    read? (yearText date.year ++ '-' :: (padded '0' 2 date.month ++ '-' ::
        (padded '0' 2 date.day ++ separator :: (padded '0' 2 hour ++ ':' ::
          (padded '0' 2 minute ++ ':' :: (padded '0' 2 second ++ behind)))))) =
      ofClock? date hour minute second nano offset := by
  have hlong := Nat.le_trans hdate.day_le (Date.daysInMonth_le _ _)
  have hnumber {n : Nat} (hn : n < 100) (rest : List Char) :
      number? 2 (padded '0' 2 n ++ rest) = some (n, rest) :=
    number?_padded_append (by decide) hn rest
  have hmonth :=
    hnumber (show date.month < 100 from Nat.lt_of_le_of_lt hdate.month_le (by decide))
  have hday := hnumber (show date.day < 100 from Nat.lt_of_le_of_lt hlong (by decide))
  have hdash : isBlank '-' = false := by decide
  have hcolon : isBlank ':' = false := by decide
  have hmark : ¬ (separator ≠ 'T' && separator ≠ 't' && separator ≠ ' ') := by
    rcases hseparator with h | h <;> simp [h]
  have hstep {α β : Type} {x : Option α} {a : α} (hx : x = some a) (f : α → Option β) :
      (x >>= f) = f a := by rw [hx]; rfl
  -- Each step takes one part of the text and leaves the rest to the next one.
  refine (hstep (year?_yearText_append _ rfl) _).trans ?_
  refine (hstep (mark?_cons hdash _) _).trans ?_
  refine (hstep (hmonth _) _).trans ?_
  refine (hstep (mark?_cons hdash _) _).trans ?_
  refine (hstep (hday _) _).trans ?_
  refine (if_neg hmark).trans ?_
  refine (hstep (hnumber (show hour < 100 by omega) _) _).trans ?_
  refine (hstep (mark?_cons hcolon _) _).trans ?_
  refine (hstep (hnumber (show minute < 100 by omega) _) _).trans ?_
  refine (hstep (mark?_cons hcolon _) _).trans ?_
  refine (hstep (hnumber (show second < 100 by omega) _) _).trans ?_
  refine (hstep hfraction _).trans ?_
  refine (hstep hoffset _).trans ?_
  refine (hstep hknown _).trans ?_
  have hclock : ¬ (24 ≤ hour || 60 ≤ minute || 61 ≤ second) := by
    simp only [Bool.or_eq_true, decide_eq_true_eq]
    omega
  exact if_neg hclock

/-- The exact form of an instant spells it. -/
theorem read?_text (instant : Instant) : read? instant.text = some instant := by
  obtain ⟨hhour, hminute, hsecond⟩ := instant.clock_bounds
  have hoffset : offset? (trimStart ['Z']) = some (0, []) := by decide
  have hread := read?_written instant.isValid_date instant.ofYmd?_date hhour hminute hsecond
    (Or.inl rfl) instant.fraction?_fractionText hoffset
  rw [ofClock?_clock] at hread
  rw [text, clockText]
  simpa only [List.append_assoc, List.cons_append] using hread

end Instant

end Folio.Calendar
