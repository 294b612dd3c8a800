import Mathlib.Data.Int.Order.Basic
import Mathlib.Data.Nat.Basic
import Mathlib.Logic.Function.Iterate
import QuietHop.Lib.BigEndian

namespace QuietHop
namespace Lib
namespace Calendar

/-!
# The proleptic Gregorian calendar

A date carries the proof that its day exists.  The calendar itself is the successor of a
date: the date of a day number is reached by going day by day from 1970-01-01.  A day count
is any function that is zero there and grows by one at each successor, and such a function
is determined on all dates that are reached.

Timestamps are printed in RFC 3339 with a `Z`, as ASCII bytes.
-/

def isLeap (year : Int) : Prop :=
  (year % 4 = 0 ∧ year % 100 ≠ 0) ∨ year % 400 = 0

instance (year : Int) : Decidable (isLeap year) :=
  inferInstanceAs (Decidable ((year % 4 = 0 ∧ year % 100 ≠ 0) ∨ year % 400 = 0))

def monthLength (year : Int) (month : Nat) : Nat :=
  if month = 2 then if isLeap year then 29 else 28
  else if month = 4 ∨ month = 6 ∨ month = 9 ∨ month = 11 then 30
  else 31

theorem monthLength_pos (year : Int) (month : Nat) : 1 ≤ monthLength year month := by
  rw [monthLength]
  split_ifs <;> decide

theorem monthLength_le (year : Int) (month : Nat) : monthLength year month ≤ 31 := by
  rw [monthLength]
  split_ifs <;> decide

structure Date where
  year : Int
  month : Nat
  day : Nat
  month_pos : 1 ≤ month
  month_le : month ≤ 12
  day_pos : 1 ≤ day
  day_le : day ≤ monthLength year month

namespace Date

@[ext] theorem ext {date other : Date} (year : date.year = other.year) (month : date.month = other.month)
    (day : date.day = other.day) : date = other := by
  cases date
  cases other
  cases year
  cases month
  cases day
  rfl

/-- The first day of a month. -/
def first (year : Int) (month : Nat) (positive : 1 ≤ month) (bound : month ≤ 12) : Date :=
  ⟨year, month, 1, positive, bound, le_rfl, monthLength_pos year month⟩

/-- The last day of a month. -/
def last (year : Int) (month : Nat) (positive : 1 ≤ month) (bound : month ≤ 12) : Date :=
  ⟨year, month, monthLength year month, positive, bound, monthLength_pos year month, le_rfl⟩

def next (date : Date) : Date :=
  if inside : date.day < monthLength date.year date.month then
    { date with day := date.day + 1, day_pos := by omega, day_le := inside }
  else if bound : date.month < 12 then first date.year (date.month + 1) (by omega) bound
  else first (date.year + 1) 1 le_rfl (by decide)

def prev (date : Date) : Date :=
  if inside : 1 < date.day then
    { date with day := date.day - 1, day_pos := by omega, day_le := by have := date.day_le; omega }
  else if bound : 1 < date.month then last date.year (date.month - 1) (by omega) (by have := date.month_le; omega)
  else last (date.year - 1) 12 (by decide) le_rfl

/-- 1970-01-01. -/
def epoch : Date := first 1970 1 le_rfl (by decide)

/-- The date some days after the epoch, or before it. -/
def ofDay : Int -> Date
  | .ofNat count => Nat.iterate next count epoch
  | .negSucc count => Nat.iterate prev (count + 1) epoch

/-- The successor stays in the month, goes to the next one, or to the next year. -/
theorem next_cases (date : Date) :
    (date.day < monthLength date.year date.month ∧ date.next.year = date.year ∧ date.next.month = date.month ∧
        date.next.day = date.day + 1) ∨
      (date.day = monthLength date.year date.month ∧ date.month < 12 ∧ date.next.year = date.year ∧
        date.next.month = date.month + 1 ∧ date.next.day = 1) ∨
      (date.day = monthLength date.year date.month ∧ date.month = 12 ∧ date.next.year = date.year + 1 ∧
        date.next.month = 1 ∧ date.next.day = 1) := by
  have dayBound := date.day_le
  have monthBound := date.month_le
  rw [next]
  split_ifs with inside bound
  · exact Or.inl ⟨inside, rfl, rfl, rfl⟩
  · exact Or.inr (Or.inl ⟨by omega, bound, rfl, rfl, rfl⟩)
  · exact Or.inr (Or.inr ⟨by omega, by omega, rfl, rfl, rfl⟩)

/-- The predecessor stays in the month, goes to the end of the one before, or to the end of the
year before. -/
theorem prev_cases (date : Date) :
    (1 < date.day ∧ date.prev.year = date.year ∧ date.prev.month = date.month ∧ date.prev.day + 1 = date.day) ∨
      (date.day = 1 ∧ date.prev.year = date.year ∧ date.prev.month + 1 = date.month ∧
        date.prev.day = monthLength date.prev.year date.prev.month) ∨
      (date.day = 1 ∧ date.month = 1 ∧ date.prev.year + 1 = date.year ∧ date.prev.month = 12 ∧
        date.prev.day = monthLength date.prev.year date.prev.month) := by
  have dayPositive := date.day_pos
  have positive := date.month_pos
  rw [prev]
  split_ifs with inside bound
  · exact Or.inl ⟨inside, rfl, rfl, Nat.sub_add_cancel dayPositive⟩
  · exact Or.inr (Or.inl ⟨by omega, rfl, Nat.sub_add_cancel positive, rfl⟩)
  · exact Or.inr (Or.inr ⟨by omega, by omega, by simp [last], rfl, rfl⟩)

theorem next_prev (date : Date) : date.prev.next = date := by
  have bound := date.day_le
  have month_le := date.month_le
  rcases date.prev_cases with ⟨inside, year, month, day⟩ | ⟨start, year, month, day⟩ | ⟨start, january, year, month, day⟩
  · rw [← year, ← month] at bound
    rcases date.prev.next_cases with ⟨-, year', month', day'⟩ | ⟨full, -⟩ | ⟨full, -⟩
    · exact ext (by omega) (by omega) (by omega)
    · omega
    · omega
  · rcases date.prev.next_cases with ⟨short, -⟩ | ⟨-, -, year', month', day'⟩ | ⟨-, december, -⟩
    · omega
    · exact ext (by omega) (by omega) (by omega)
    · omega
  · rcases date.prev.next_cases with ⟨short, -⟩ | ⟨-, early, -⟩ | ⟨-, -, year', month', day'⟩
    · omega
    · omega
    · exact ext (by omega) (by omega) (by omega)

/-! ## The order of dates -/

def Before (date later : Date) : Prop :=
  date.year < later.year ∨
    date.year = later.year ∧ (date.month < later.month ∨ date.month = later.month ∧ date.day < later.day)

/-- Nothing lies between a date and its successor. -/
theorem before_next_iff (date later : Date) : date.Before later ↔ date.next = later ∨ date.next.Before later := by
  have dayBound := date.day_le
  have laterDay := later.day_pos
  have laterMonth := later.month_pos
  have laterBound := later.month_le
  have laterEnd := later.day_le
  constructor
  · intro before
    by_contra neither
    rw [not_or] at neither
    obtain ⟨different, notBefore⟩ := neither
    apply different
    rw [Before] at before notBefore
    rcases date.next_cases with ⟨inside, year, month, day⟩ | ⟨full, early, year, month, day⟩ | ⟨full, december, year, month, day⟩
    · rw [year, month, day] at notBefore
      exact ext (by omega) (by omega) (by omega)
    · rw [year, month, day] at notBefore
      by_cases same : date.year = later.year ∧ date.month = later.month
      · rw [← same.1, ← same.2] at laterEnd
        omega
      · exact ext (by omega) (by omega) (by omega)
    · rw [year, month, day] at notBefore
      by_cases same : date.year = later.year ∧ date.month = later.month
      · rw [← same.1, ← same.2] at laterEnd
        omega
      · exact ext (by omega) (by omega) (by omega)
  · intro either
    have here : date.Before date.next := by
      rw [Before]
      rcases date.next_cases with ⟨inside, year, month, day⟩ | ⟨full, early, year, month, day⟩ | ⟨full, december, year, month, day⟩
      all_goals omega
    rcases either with rfl | before
    · exact here
    · rw [Before] at here before ⊢
      omega

/-- A number that grows with the date. -/
def rank (date : Date) : Int := date.year * 372 + date.month * 31 + date.day

theorem before_iff_rank (date later : Date) : date.Before later ↔ date.rank < later.rank := by
  have month := date.month_le
  have monthPositive := date.month_pos
  have day := le_trans date.day_le (monthLength_le _ _)
  have dayPositive := date.day_pos
  have laterMonth := later.month_le
  have laterMonthPositive := later.month_pos
  have laterDay := le_trans later.day_le (monthLength_le _ _)
  have laterDayPositive := later.day_pos
  rw [Before, rank, rank]
  omega

/-- Every later date is reached day by day. -/
theorem exists_iterate_of_before {date later : Date} (before : date.Before later) :
    ∃ days, later = Nat.iterate next (days + 1) date := by
  -- The distance in ranks bounds the number of days.
  obtain ⟨distance, bound⟩ : ∃ distance : Nat, later.rank - date.rank ≤ distance := ⟨_, Int.self_le_toNat _⟩
  induction distance generalizing date with
  | zero =>
      rw [before_iff_rank] at before
      omega
  | succ distance ih =>
      rcases (before_next_iff date later).mp before with rfl | onward
      · exact ⟨0, rfl⟩
      · have closer : date.rank < date.next.rank := by
          rw [← before_iff_rank, before_next_iff]
          exact Or.inl rfl
        obtain ⟨days, reached⟩ := ih onward (by omega)
        exact ⟨days + 1, reached⟩

theorem before_trichotomy (date other : Date) : date.Before other ∨ date = other ∨ other.Before date := by
  rw [Before, Before]
  by_cases same : date.year = other.year ∧ date.month = other.month ∧ date.day = other.day
  · exact Or.inr (Or.inl (ext same.1 same.2.1 same.2.2))
  · omega

/-! ## Day counts -/

/-- Zero at the epoch and one more at each successor. -/
structure Counts (count : Date -> Int) : Prop where
  epoch : count Date.epoch = 0
  next : forall date, count date.next = count date + 1

section Counting

variable {count : Date -> Int} (counts : Counts count)
include counts

theorem Counts.iterate (days : Nat) (date : Date) : count (Nat.iterate Date.next days date) = count date + days := by
  induction days with
  | zero => simp
  | succ days ih =>
      rw [Function.iterate_succ_apply', counts.next, ih]
      omega

theorem Counts.lt_of_before {date later : Date} (before : date.Before later) : count date < count later := by
  obtain ⟨days, rfl⟩ := exists_iterate_of_before before
  rw [counts.iterate]
  omega

theorem Counts.injective {date other : Date} (same : count date = count other) : date = other := by
  rcases before_trichotomy date other with before | equal | after
  · exact absurd same (Int.ne_of_lt (counts.lt_of_before before))
  · exact equal
  · exact absurd same.symm (Int.ne_of_lt (counts.lt_of_before after))

/-- Going back counts down. -/
theorem Counts.prev (date : Date) : count date.prev = count date - 1 := by
  have forward := counts.next date.prev
  rw [next_prev] at forward
  omega

theorem Counts.ofDay (day : Int) : count (Date.ofDay day) = day := by
  cases day with
  | ofNat days =>
      rw [Date.ofDay, counts.iterate, counts.epoch]
      simp
  | negSucc days =>
      rw [Date.ofDay]
      induction days with
      | zero =>
          rw [Function.iterate_one, counts.prev, counts.epoch]
          rfl
      | succ days ih =>
          rw [Function.iterate_succ_apply', counts.prev, ih]
          omega

/-- A count is the number of days, forwards or backwards, that lead from the epoch to a date. -/
theorem Counts.ofDay_count (date : Date) : Date.ofDay (count date) = date :=
  counts.injective (counts.ofDay _)

end Counting

theorem year_le_next (date : Date) : date.year ≤ date.next.year := by
  rcases date.next_cases with ⟨-, year, -⟩ | ⟨-, -, year, -⟩ | ⟨-, -, year, -⟩
  · omega
  · omega
  · omega

theorem epoch_year_le_ofDay {day : Int} (positive : 0 ≤ day) : 1970 ≤ (ofDay day).year := by
  cases day with
  | negSucc days => omega
  | ofNat days =>
      rw [Date.ofDay]
      clear positive
      induction days with
      | zero => exact le_rfl
      | succ days ih =>
          rw [Function.iterate_succ_apply']
          exact le_trans ih (year_le_next _)

end Date

/-! ## Printing -/

/-- The last `width` decimal digits of a number in ASCII. -/
def decimal (width value : Nat) : Bytes :=
  (BigEndian.lastDigits 10 width value).map fun digit => UInt8.ofNat (48 + digit)

/-- A number padded with zeros; one that needs more digits is printed in full. -/
def padded (width value : Nat) : Bytes :=
  if value < 10 ^ width then decimal width value
  else (Nat.toDigits 10 value).map fun digit => UInt8.ofNat digit.toNat

def printYear (year : Int) : Bytes :=
  if year < 0 then 45 :: padded 4 year.natAbs else padded 4 year.toNat

/-- `2006-01-02T15:04:05Z` at a second since the epoch. -/
def rfc3339 (unix : Int) : Bytes :=
  let date := Date.ofDay (unix / 86400)
  let second := (unix % 86400).toNat
  printYear date.year ++ 45 :: (padded 2 date.month ++ 45 :: (padded 2 date.day ++ 84 ::
    (padded 2 (second / 3600) ++ 58 :: (padded 2 (second / 60 % 60) ++ 58 :: (padded 2 (second % 60) ++ [90])))))

theorem padded_eq {width value : Nat} (fits : value < 10 ^ width) : padded width value = decimal width value :=
  if_pos fits

theorem decimal_succ (width value : Nat) :
    decimal (width + 1) value = decimal width (value / 10) ++ [UInt8.ofNat (48 + value % 10)] := by
  rw [decimal, BigEndian.lastDigits, List.map_append]
  rfl

@[simp] theorem length_decimal (width value : Nat) : (decimal width value).length = width := by
  rw [decimal, List.length_map, BigEndian.length_lastDigits]

theorem digit_toNat {digit : Nat} (small : digit < 10) : (UInt8.ofNat (48 + digit)).toNat = 48 + digit := by
  rw [UInt8.toNat_ofNat']
  omega

theorem decimal_range (width value : Nat) : ∀ byte ∈ decimal width value, 48 ≤ byte.toNat ∧ byte.toNat ≤ 57 := by
  intro byte member
  rcases List.mem_map.mp member with ⟨digit, inside, rfl⟩
  have small := BigEndian.lastDigits_lt (by decide) width value digit inside
  rw [digit_toNat small]
  omega

end Calendar
end Lib
end QuietHop
