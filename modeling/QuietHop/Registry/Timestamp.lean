import Mathlib.Tactic.IntervalCases
import QuietHop.Lib.Calendar
import QuietHop.Registry.Document

namespace QuietHop
namespace Registry

open Lib Lib.Calendar Net

/-!
# Timestamps that are printed and read back

The verifier computes the day of a date in closed form, from the year of the era and a linear
fit of the month lengths.  That this is a day count of the calendar is checked at the
successor of every date; a printed timestamp is then read back as the second it was printed
for, through the year 9999.
-/

/-! ## The day count of the verifier -/

theorem isLeapYear_iff (year : Int) : isLeapYear year = true ↔ isLeap year := by
  simp only [isLeapYear, isLeap, decide_eq_true_eq, ne_eq, ← Int.dvd_iff_emod_eq_zero, ← Int.dvd_iff_tmod_eq_zero]

theorem daysInMonth_eq (year : Int) {month : Nat} (positive : 1 ≤ month) (bound : month ≤ 12) :
    daysInMonth year month = monthLength year month := by
  have leap := isLeapYear_iff year
  rw [daysInMonth, monthLength]
  interval_cases month
  all_goals simp [leap]

/-- Where each month starts in a year that begins in March, less the days of the years
before. -/
def monthStart (month : Int) : Int := (153 * ((month + 9) % 12) + 2) / 5

/-- The case for negative years makes the truncating division round down. -/
theorem era_eq (march : Int) : Int.tdiv (if march ≥ 0 then march else march - 399) 400 = march / 400 := by
  split_ifs with nonnegative
  · exact Int.tdiv_eq_ediv_of_nonneg nonnegative
  · have sign : Int.sign 400 = 1 := rfl
    rw [Int.tdiv_eq_ediv, sign]
    split_ifs <;> omega

/-- The closed form without the detour over eras. -/
theorem daysFromCivil_eq {year month day : Int} (positive : 1 ≤ month) :
    daysFromCivil year month day =
      let march := if month ≤ 2 then year - 1 else year
      365 * march + march / 4 - march / 100 + march / 400 + monthStart month + day - 1 - 719468 := by
  simp only [daysFromCivil, monthStart]
  generalize (if month ≤ 2 then year - 1 else year) = march
  have month' : Int.tmod (month + 9) 12 = (month + 9) % 12 := Int.tmod_eq_emod_of_nonneg (by omega)
  rw [era_eq, month', Int.tdiv_eq_ediv_of_nonneg (by omega), Int.tdiv_eq_ediv_of_nonneg (by omega),
    Int.tdiv_eq_ediv_of_nonneg (by omega)]
  omega

/-- The count of a date. -/
def dayCount (date : Date) : Int := daysFromCivil date.year date.month date.day

theorem dayCount_next (date : Date) : dayCount date.next = dayCount date + 1 := by
  have positive := date.month_pos
  have bound := date.month_le
  rw [dayCount, dayCount, daysFromCivil_eq (by have := date.next.month_pos; omega), daysFromCivil_eq (by omega)]
  rcases date.next_cases with ⟨-, year, month, day⟩ | ⟨last, inside, year, month, day⟩ | ⟨last, december, year, month, day⟩
  · rw [year, month, day]
    dsimp only
    omega
  · rw [year, month, day, last]
    generalize date.year = y
    generalize date.month = m at positive inside ⊢
    -- After February the year that begins in March is the next one.
    by_cases leap : isLeap y
    all_goals
      interval_cases m
      all_goals simp [monthStart, monthLength, leap]
      all_goals rw [isLeap] at leap
      all_goals omega
  · rw [year, month, day, last, december]
    simp [monthStart, monthLength]
    omega

theorem dayCount_counts : Date.Counts dayCount where
  epoch := by decide +kernel
  next := dayCount_next

/-- Days before the year 10000 have years of four digits. -/
theorem year_lt_of_day {day : Int} (positive : 0 ≤ day) (bound : day < 2932897) : (Date.ofDay day).year < 10000 := by
  have count := dayCount_counts.ofDay day
  have month := (Date.ofDay day).month_pos
  have inMonth := (Date.ofDay day).day_pos
  rw [dayCount, daysFromCivil_eq (by omega)] at count
  by_contra large
  generalize (Date.ofDay day).year = year at large count
  have quarter : forall march : Int, 9999 ≤ march -> 2499 ≤ march / 4 := by omega
  have century : forall march : Int, 9999 ≤ march -> march / 100 ≤ 99 + (march - 9999) := by omega
  have era : forall march : Int, 9999 ≤ march -> 24 ≤ march / 400 := by omega
  dsimp only at count
  split_ifs at count with early
  · have start : 306 ≤ monthStart (Date.ofDay day).month := by
      rw [monthStart]
      omega
    have := quarter (year - 1) (by omega)
    have := century (year - 1) (by omega)
    have := era (year - 1) (by omega)
    omega
  · have start : 0 ≤ monthStart (Date.ofDay day).month := by
      rw [monthStart]
      omega
    have := quarter year (by omega)
    have := century year (by omega)
    have := era year (by omega)
    omega

/-! ## Digits -/

theorem toDigit_printed (value : Nat) : toDigit 10 (UInt8.ofNat (48 + value % 10)) = some (value % 10) := by
  have range : 48 ≤ 48 + value % 10 ∧ 48 + value % 10 ≤ 57 := by omega
  have small : value % 10 < 10 := by omega
  simp only [toDigit, digit_toNat small, range, and_self, if_true, Nat.add_sub_cancel_left]
  simp [Option.filter, small]

theorem parseDigits_append (value : Nat) (first second : Bytes) :
    parseDigits value (first ++ second) = (parseDigits value first).bind fun read => parseDigits read second := by
  induction first generalizing value with
  | nil => rfl
  | cons byte rest ih =>
      rw [List.cons_append, parseDigits, parseDigits]
      cases toDigit 10 byte with
      | none => rfl
      | some digit => exact ih _

theorem parseDigits_decimal (before width value : Nat) :
    parseDigits before (decimal width value) = some (before * 10 ^ width + value % 10 ^ width) := by
  induction width generalizing value with
  | zero => simp [decimal, BigEndian.lastDigits, parseDigits, Nat.mod_one]
  | succ width ih =>
      have split : value % 10 ^ (width + 1) = value / 10 % 10 ^ width * 10 + value % 10 := by
        rw [Nat.pow_succ', Nat.mod_mul]
        omega
      rw [decimal_succ, parseDigits_append, ih, Option.bind_some, parseDigits, toDigit_printed]
      simp only [parseDigits]
      rw [split, Nat.pow_succ, ← Nat.mul_assoc]
      congr 1
      omega

theorem parseI64_unsigned {first : UInt8} {rest : Bytes} (plus : first ≠ 43) (minus : first ≠ 45) :
    parseI64 (first :: rest) = (parseDigits 0 (first :: rest)).map Int.ofNat := by
  rw [parseI64.eq_def]
  split
  · next equal => cases equal
  · next equal => exact absurd (List.cons.inj equal).1 plus
  · next equal => exact absurd (List.cons.inj equal).1 minus
  · next equal => exact absurd (List.cons.inj equal).1 plus
  · next equal => exact absurd (List.cons.inj equal).1 minus
  · rfl

/-- A digit is no sign. -/
theorem ne_sign_of_digit {byte : UInt8} (digit : 48 ≤ byte.toNat) : byte ≠ 43 ∧ byte ≠ 45 := by
  constructor
  · rintro rfl
    exact absurd digit (by decide)
  · rintro rfl
    exact absurd digit (by decide)

theorem parseI64_decimal {width value : Nat} (positive : 0 < width) (fits : value < 10 ^ width) :
    parseI64 (decimal width value) = some (value : Int) := by
  have range := decimal_range width value
  have size := length_decimal width value
  have read := parseDigits_decimal 0 width value
  rw [Nat.zero_mul, Nat.zero_add, Nat.mod_eq_of_lt fits] at read
  cases digits : decimal width value with
  | nil =>
      rw [digits] at size
      exact absurd size (by simp; omega)
  | cons first rest =>
      rw [digits] at range read
      have noSign := ne_sign_of_digit (range first (List.mem_cons_self ..)).1
      rw [parseI64_unsigned noSign.1 noSign.2, read]
      rfl

/-! ## Reading back -/

theorem rfc3339_ascii {unix : Int} (positive : 0 ≤ unix) (bound : unix < 253402300800) :
    rfc3339 unix =
      decimal 4 (Date.ofDay (unix / 86400)).year.toNat ++ 45 :: (decimal 2 (Date.ofDay (unix / 86400)).month ++
        45 :: (decimal 2 (Date.ofDay (unix / 86400)).day ++ 84 ::
        (decimal 2 ((unix % 86400).toNat / 3600) ++ 58 :: (decimal 2 ((unix % 86400).toNat / 60 % 60) ++ 58 ::
        (decimal 2 ((unix % 86400).toNat % 60) ++ [90]))))) := by
  have late := Date.epoch_year_le_ofDay (show 0 ≤ unix / 86400 by omega)
  have early := year_lt_of_day (show 0 ≤ unix / 86400 by omega) (by omega)
  have month := (Date.ofDay (unix / 86400)).month_le
  have day := (Date.ofDay (unix / 86400)).day_le.trans (monthLength_le _ _)
  have inDay : (unix % 86400).toNat < 86400 := by omega
  simp only [rfc3339, printYear]
  rw [if_neg (by omega), padded_eq (by omega), padded_eq (by omega), padded_eq (by omega), padded_eq (by omega),
    padded_eq (by omega), padded_eq (by omega)]

theorem parseRfc3339_printed {unix : Int} (positive : 0 ≤ unix) (bound : unix < 253402300800) :
    parseRfc3339 (ofAscii (rfc3339 unix)) = .ok unix := by
  have shape := rfc3339_ascii positive bound
  have count := dayCount_counts.ofDay (unix / 86400)
  have late := Date.epoch_year_le_ofDay (show 0 ≤ unix / 86400 by omega)
  have early := year_lt_of_day (show 0 ≤ unix / 86400 by omega) (by omega)
  have inMonth := daysInMonth_eq (Date.ofDay (unix / 86400)).year (Date.ofDay (unix / 86400)).month_pos
    (Date.ofDay (unix / 86400)).month_le
  have inDay : (unix % 86400).toNat < 86400 := by omega
  rw [dayCount] at count
  generalize Date.ofDay (unix / 86400) = date at shape count late early inMonth
  have monthPos := date.month_pos
  have monthLe := date.month_le
  have dayPos := date.day_pos
  have dayLe := date.day_le
  have dayBound := dayLe.trans (monthLength_le _ _)
  have bytes : asBytes (ofAscii (rfc3339 unix)) = rfc3339 unix := by
    apply asBytes_ofAscii
    rw [shape]
    have digits := fun width value byte member => (decimal_range width value byte member).2
    intro byte member
    simp only [List.mem_append, List.mem_cons, List.not_mem_nil, or_false] at member
    rcases member with year | rfl | month | rfl | day | rfl | hour | rfl | minute | rfl | second | rfl
    all_goals first
      | decide
      | exact Nat.lt_of_le_of_lt (digits _ _ _ (by assumption)) (by decide)
  have year := @parseI64_decimal 4 date.year.toNat (by decide) (by omega)
  have month := @parseI64_decimal 2 date.month (by decide) (by omega)
  have day := @parseI64_decimal 2 date.day (by decide) (by omega)
  have hour := @parseI64_decimal 2 ((unix % 86400).toNat / 3600) (by decide) (by omega)
  have minute := @parseI64_decimal 2 ((unix % 86400).toNat / 60 % 60) (by decide) (by omega)
  have second := @parseI64_decimal 2 ((unix % 86400).toNat % 60) (by decide) (by omega)
  have yearBack : ((date.year.toNat : Nat) : Int) = date.year := by omega
  rw [yearBack] at year
  rw [parseRfc3339, bytes]
  -- the fields stand at fixed places of the text
  have yearAt : ((rfc3339 unix).drop 0).take (4 - 0) = decimal 4 date.year.toNat := by rw [shape]; rfl
  have monthAt : ((rfc3339 unix).drop 5).take (7 - 5) = decimal 2 date.month := by rw [shape]; rfl
  have dayAt : ((rfc3339 unix).drop 8).take (10 - 8) = decimal 2 date.day := by rw [shape]; rfl
  have hourAt : ((rfc3339 unix).drop 11).take (13 - 11) = decimal 2 ((unix % 86400).toNat / 3600) := by
    rw [shape]; rfl
  have minuteAt : ((rfc3339 unix).drop 14).take (16 - 14) = decimal 2 ((unix % 86400).toNat / 60 % 60) := by
    rw [shape]; rfl
  have secondAt : ((rfc3339 unix).drop 17).take (19 - 17) = decimal 2 ((unix % 86400).toNat % 60) := by
    rw [shape]; rfl
  rw [if_neg (by rw [shape]; simp [decimal])]
  dsimp only
  rw [yearAt, monthAt, dayAt, hourAt, minuteAt, secondAt, year, month, day, hour, minute, second]
  dsimp only
  rw [if_neg (by omega), if_neg (by rw [inMonth]; omega), count]
  congr 1
  omega

end Registry
end QuietHop
