import QuietHop.Registry.Timestamp

namespace QuietHop
namespace Registry

open Lib Lib.Calendar Net

/-!
# Civil dates on machine integers

`days_from_civil` takes and returns `i64`.  In exact arithmetic it is the day count of the
calendar for every year.  On machine integers it is this count for as long as the count is an
`i64` at all; the sum wraps, so that an intermediate product may leave the range and come back.
-/

namespace Machine

def isLeapYear (y : Int64) : Bool :=
  (y % 4 = 0 ∧ y % 100 ≠ 0) ∨ y % 400 = 0

def daysInMonth (y m : Int64) : Int64 :=
  if m ∈ [1, 3, 5, 7, 8, 10, 12] then 31
  else if m ∈ [4, 6, 9, 11] then 30
  else if m = 2 then if isLeapYear y then 29 else 28
  else 0

def daysFromCivil (y m d : Int64) : Int64 :=
  let y := if m ≤ 2 then y - 1 else y
  let era := (if y ≥ 0 then y else y - 399) / 400
  let yoe := y - era * 400
  let mp := (m + 9) % 12
  let doy := (153 * mp + 2) / 5 + d - 1
  let doe := yoe * 365 + yoe / 4 - yoe / 100 + doy
  era * 146097 + doe - 719468

/-! ## Operations that stay in range -/

/-- The values of the type. -/
def Fits (value : Int) : Prop := -9223372036854775808 ≤ value ∧ value ≤ 9223372036854775807

instance (value : Int) : Decidable (Fits value) :=
  inferInstanceAs (Decidable (_ ∧ _))

theorem bmod_of_fits {value : Int} (fits : Fits value) : value.bmod (2 ^ 64) = value := by
  rw [Fits] at fits
  rw [Int.bmod_eq_of_le (by omega) (by omega)]

theorem fits_toInt (value : Int64) : Fits value.toInt := by
  have low := value.le_toInt
  have high := value.toInt_lt
  rw [Fits]
  omega

variable {a b : Int64} {x y : Int}

theorem add_toInt (left : a.toInt = x) (right : b.toInt = y) (fits : Fits (x + y)) : (a + b).toInt = x + y := by
  rw [Int64.toInt_add, left, right, bmod_of_fits fits]

theorem sub_toInt (left : a.toInt = x) (right : b.toInt = y) (fits : Fits (x - y)) : (a - b).toInt = x - y := by
  rw [Int64.toInt_sub, left, right, bmod_of_fits fits]

theorem mul_toInt (left : a.toInt = x) (right : b.toInt = y) (fits : Fits (x * y)) : (a * b).toInt = x * y := by
  rw [Int64.toInt_mul, left, right, bmod_of_fits fits]

/-- A quotient by a positive number cannot overflow. -/
theorem div_toInt (left : a.toInt = x) (right : b.toInt = y) (positive : 0 < y) : (a / b).toInt = x.tdiv y := by
  have different : b ≠ -1 := by
    rintro rfl
    have value : (-1 : Int64).toInt = -1 := by decide
    omega
  rw [Int64.toInt_div_of_ne_right a b different, left, right]

theorem mod_toInt (left : a.toInt = x) (right : b.toInt = y) : (a % b).toInt = x.tmod y := by
  rw [Int64.toInt_mod, left, right]

/-! ## The calendar of the verifier -/

theorem isLeapYear_eq (y : Int64) : isLeapYear y = Registry.isLeapYear y.toInt := by
  have zero : (0 : Int64).toInt = 0 := rfl
  have four : (y % 4).toInt = y.toInt.tmod 4 := mod_toInt rfl rfl
  have hundred : (y % 100).toInt = y.toInt.tmod 100 := mod_toInt rfl rfl
  have era : (y % 400).toInt = y.toInt.tmod 400 := mod_toInt rfl rfl
  simp only [isLeapYear, Registry.isLeapYear, ne_eq, ← Int64.toInt_inj, four, hundred, era, zero]

theorem daysInMonth_toInt (y m : Int64) : (daysInMonth y m).toInt = Registry.daysInMonth y.toInt m.toInt := by
  have long : m ∈ ([1, 3, 5, 7, 8, 10, 12] : List Int64) ↔ m.toInt ∈ ([1, 3, 5, 7, 8, 10, 12] : List Int) := by
    simp only [List.mem_cons, List.not_mem_nil, or_false, ← Int64.toInt_inj]
    rfl
  have short : m ∈ ([4, 6, 9, 11] : List Int64) ↔ m.toInt ∈ ([4, 6, 9, 11] : List Int) := by
    simp only [List.mem_cons, List.not_mem_nil, or_false, ← Int64.toInt_inj]
    rfl
  have february : m = 2 ↔ m.toInt = 2 := by
    rw [← Int64.toInt_inj]
    rfl
  simp only [daysInMonth, Registry.daysInMonth, long, short, february, isLeapYear_eq]
  split_ifs <;> rfl

/-- A count that fits belongs to a year whose neighbours fit as well. -/
theorem march_of_fits {year month day : Int} (positive : 1 ≤ month) (inMonth : 1 ≤ day ∧ day ≤ 31)
    (fits : Fits (Registry.daysFromCivil year month day)) :
    -30000000000000000 ≤ (if month ≤ 2 then year - 1 else year) ∧
      (if month ≤ 2 then year - 1 else year) ≤ 30000000000000000 := by
  have start : 0 ≤ monthStart month ∧ monthStart month ≤ 400 := by
    rw [monthStart]
    omega
  rw [daysFromCivil_eq positive, Fits] at fits
  dsimp only at fits
  omega

/-- The day of a year that begins in March. -/
theorem doy_toInt {m d : Int64} (month : 1 ≤ m.toInt ∧ m.toInt ≤ 12) (day : 1 ≤ d.toInt ∧ d.toInt ≤ 31) :
    ((153 * ((m + 9) % 12) + 2) / 5 + d - 1).toInt = (153 * (m.toInt + 9).tmod 12 + 2).tdiv 5 + d.toInt - 1 := by
  have nine : (m + 9).toInt = m.toInt + 9 := add_toInt rfl rfl ⟨by omega, by omega⟩
  have mp := mod_toInt nine (show (12 : Int64).toInt = 12 from rfl)
  have range : 0 ≤ (m.toInt + 9).tmod 12 ∧ (m.toInt + 9).tmod 12 < 12 := by
    rw [Int.tmod_eq_emod_of_nonneg (by omega)]
    omega
  have floor := Int.tdiv_eq_ediv_of_nonneg (show 0 ≤ 153 * (m.toInt + 9).tmod 12 + 2 by omega) (b := 5)
  have product := mul_toInt (show (153 : Int64).toInt = 153 from rfl) mp ⟨by omega, by omega⟩
  have sum := add_toInt product (show (2 : Int64).toInt = 2 from rfl) ⟨by omega, by omega⟩
  have months := div_toInt sum (show (5 : Int64).toInt = 5 from rfl) (by decide)
  have inYear := add_toInt months (rfl : d.toInt = d.toInt) ⟨by omega, by omega⟩
  exact sub_toInt inYear (show (1 : Int64).toInt = 1 from rfl) ⟨by omega, by omega⟩

/-- The day of an era of four hundred years. -/
theorem doe_toInt {yoe doy : Int64} {year day : Int} (yearEq : yoe.toInt = year) (dayEq : doy.toInt = day)
    (inEra : 0 ≤ year ∧ year < 400) (inYear : 0 ≤ day ∧ day ≤ 400) :
    (yoe * 365 + yoe / 4 - yoe / 100 + doy).toInt = year * 365 + year.tdiv 4 - year.tdiv 100 + day := by
  have quarterFloor : year.tdiv 4 = year / 4 := Int.tdiv_eq_ediv_of_nonneg inEra.1
  have centuryFloor : year.tdiv 100 = year / 100 := Int.tdiv_eq_ediv_of_nonneg inEra.1
  have quarter := div_toInt yearEq (show (4 : Int64).toInt = 4 from rfl) (by decide)
  have century := div_toInt yearEq (show (100 : Int64).toInt = 100 from rfl) (by decide)
  have days := mul_toInt yearEq (show (365 : Int64).toInt = 365 from rfl) ⟨by omega, by omega⟩
  have leaps := add_toInt days quarter ⟨by omega, by omega⟩
  have whole := sub_toInt leaps century ⟨by omega, by omega⟩
  exact add_toInt whole dayEq ⟨by omega, by omega⟩

/-- On machine integers the closed form is the exact one wherever this fits. -/
theorem daysFromCivil_toInt {y m d : Int64} (month : 1 ≤ m.toInt ∧ m.toInt ≤ 12)
    (day : 1 ≤ d.toInt ∧ d.toInt ≤ 31) (fits : Fits (Registry.daysFromCivil y.toInt m.toInt d.toInt)) :
    (daysFromCivil y m d).toInt = Registry.daysFromCivil y.toInt m.toInt d.toInt := by
  have range := march_of_fits month.1 day fits
  have doy := doy_toInt month day
  have inYear : 0 ≤ (153 * (m.toInt + 9).tmod 12 + 2).tdiv 5 + d.toInt - 1 ∧
      (153 * (m.toInt + 9).tmod 12 + 2).tdiv 5 + d.toInt - 1 ≤ 400 := by
    rw [Int.tmod_eq_emod_of_nonneg (by omega), Int.tdiv_eq_ediv_of_nonneg (by omega)]
    omega
  have early : m ≤ 2 ↔ m.toInt ≤ 2 := Int64.le_iff_toInt_le
  have shifted : (if m ≤ 2 then y - 1 else y).toInt = if m.toInt ≤ 2 then y.toInt - 1 else y.toInt := by
    simp only [early]
    split_ifs with first
    · rw [if_pos first] at range
      exact sub_toInt rfl rfl ⟨by omega, by omega⟩
    · rfl
  simp only [daysFromCivil]
  simp only [Registry.daysFromCivil] at fits ⊢
  generalize (if m ≤ 2 then y - 1 else y) = march at shifted ⊢
  generalize (if m.toInt ≤ 2 then y.toInt - 1 else y.toInt) = marchInt at shifted range fits ⊢
  have sign : march ≥ 0 ↔ marchInt ≥ 0 := by
    rw [← shifted]
    exact Int64.le_iff_toInt_le
  have dividend : (if march ≥ 0 then march else march - 399).toInt =
      if marchInt ≥ 0 then marchInt else marchInt - 399 := by
    simp only [sign]
    split_ifs
    · exact shifted
    · exact sub_toInt shifted rfl ⟨by omega, by omega⟩
  have era := div_toInt dividend (show (400 : Int64).toInt = 400 from rfl) (by decide)
  rw [era_eq] at era fits ⊢
  generalize (if march ≥ 0 then march else march - 399) / 400 = eraMachine at era ⊢
  have eras := mul_toInt era (show (400 : Int64).toInt = 400 from rfl) ⟨by omega, by omega⟩
  have yoe := sub_toInt shifted eras ⟨by omega, by omega⟩
  have doe := doe_toInt yoe doy (by omega) inYear
  -- Only the last three operations may leave the range on the way.
  have offset : (719468 : Int64).toInt = 719468 := rfl
  have length : (146097 : Int64).toInt = 146097 := rfl
  rw [Int64.toInt_sub, Int64.toInt_add, Int64.toInt_mul, era, doe, offset, length, Int.bmod_add_bmod, Int.bmod_sub_bmod,
    bmod_of_fits fits]

/-! ## Dates -/

/-- A date as the verifier checks it: a month of the year and a day of that month. -/
structure Valid (y m d : Int64) : Prop where
  month : 1 ≤ m ∧ m ≤ 12
  day : 1 ≤ d ∧ d ≤ daysInMonth y m

instance (y m d : Int64) : Decidable (Valid y m d) :=
  decidable_of_iff ((1 ≤ m ∧ m ≤ 12) ∧ 1 ≤ d ∧ d ≤ daysInMonth y m)
    ⟨fun both => ⟨both.1, both.2⟩, fun valid => ⟨valid.month, valid.day⟩⟩

theorem Valid.month_toInt {y m d : Int64} (valid : Valid y m d) : 1 ≤ m.toInt ∧ m.toInt ≤ 12 :=
  ⟨Int64.le_iff_toInt_le.mp valid.month.1, Int64.le_iff_toInt_le.mp valid.month.2⟩

theorem Valid.day_toInt {y m d : Int64} (valid : Valid y m d) :
    1 ≤ d.toInt ∧ d.toInt ≤ Registry.daysInMonth y.toInt m.toInt :=
  ⟨Int64.le_iff_toInt_le.mp valid.day.1, daysInMonth_toInt y m ▸ Int64.le_iff_toInt_le.mp valid.day.2⟩

/-- The date of the calendar. -/
def date {y m d : Int64} (valid : Valid y m d) : Date where
  year := y.toInt
  month := m.toInt.toNat
  day := d.toInt.toNat
  month_pos := by
    have month := valid.month_toInt
    omega
  month_le := by
    have month := valid.month_toInt
    omega
  day_pos := by
    have day := valid.day_toInt
    omega
  day_le := by
    have month := valid.month_toInt
    have day := valid.day_toInt
    have length := @daysInMonth_eq y.toInt m.toInt.toNat (by omega) (by omega)
    rw [Int.toNat_of_nonneg (by omega)] at length
    omega

theorem dayCount_date {y m d : Int64} (valid : Valid y m d) :
    dayCount (date valid) = Registry.daysFromCivil y.toInt m.toInt d.toInt := by
  have month := valid.month_toInt
  have day := valid.day_toInt
  rw [dayCount, date, Int.toNat_of_nonneg (by omega), Int.toNat_of_nonneg (by omega)]

/-- The day number of the date is an `i64`. -/
def Representable (date : Date) : Prop := ∃ days, Date.ofDay days = date ∧ Fits days

theorem representable_iff (date : Date) : Representable date ↔ Fits (dayCount date) := by
  constructor
  · rintro ⟨days, rfl, fits⟩
    rwa [dayCount_counts.ofDay]
  · intro fits
    exact ⟨dayCount date, dayCount_counts.ofDay_count date, fits⟩

/-- It is for all dates within some twenty-five million billion years. -/
theorem representable_of_year {date : Date} (year : -25000000000000000 ≤ date.year ∧ date.year ≤ 25000000000000000) :
    Representable date := by
  have month := date.month_pos
  have bound := date.month_le
  have day := date.day_pos
  have dayBound := le_trans date.day_le (monthLength_le _ _)
  have start : 0 ≤ monthStart date.month ∧ monthStart date.month ≤ 400 := by
    rw [monthStart]
    omega
  rw [representable_iff, dayCount, daysFromCivil_eq (by omega), Fits]
  dsimp only
  split_ifs <;> omega

theorem daysFromCivil_of_representable {y m d : Int64} (valid : Valid y m d) (representable : Representable (date valid)) :
    (daysFromCivil y m d).toInt = dayCount (date valid) := by
  have bound := daysInMonth_le y.toInt m.toInt
  have day := valid.day_toInt
  rw [representable_iff, dayCount_date] at representable
  rw [dayCount_date, daysFromCivil_toInt valid.month_toInt ⟨day.1, by omega⟩ representable]

end Machine

/-- In exact arithmetic the closed form is the number of calendar days from 1970-01-01 to a date of
any year.  On machine integers it is this number exactly where the number is an `i64`, and among such
dates it grows with the date, by one from each date to the next.  All dates of the years up to twenty-five million
billion, before and after the year zero, are such. -/
theorem civil_days_exact :
    (forall date : Date, Date.ofDay (daysFromCivil date.year date.month date.day) = date) ∧
    (forall {y m d : Int64} (valid : Machine.Valid y m d),
      (Date.ofDay (Machine.daysFromCivil y m d).toInt = Machine.date valid ↔ Machine.Representable (Machine.date valid))) ∧
    (forall {y m d y' m' d' : Int64} (valid : Machine.Valid y m d) (later : Machine.Valid y' m' d'),
      Machine.Representable (Machine.date valid) -> Machine.Representable (Machine.date later) ->
      ((Machine.date valid).Before (Machine.date later) -> Machine.daysFromCivil y m d < Machine.daysFromCivil y' m' d') ∧
      ((Machine.date valid).next = Machine.date later ->
        (Machine.daysFromCivil y' m' d').toInt = (Machine.daysFromCivil y m d).toInt + 1)) ∧
    (forall date : Date, -25000000000000000 ≤ date.year ∧ date.year ≤ 25000000000000000 -> Machine.Representable date) := by
  refine ⟨dayCount_counts.ofDay_count, ?_, ?_, fun _ year => Machine.representable_of_year year⟩
  · intro y m d valid
    constructor
    · intro reached
      exact ⟨_, reached, Machine.fits_toInt _⟩
    · intro representable
      rw [Machine.daysFromCivil_of_representable valid representable]
      exact dayCount_counts.ofDay_count _
  · intro y m d y' m' d' valid later here there
    have first := Machine.daysFromCivil_of_representable valid here
    have second := Machine.daysFromCivil_of_representable later there
    constructor
    · intro before
      rw [Int64.lt_iff_toInt_lt, first, second]
      exact dayCount_counts.lt_of_before before
    · intro successor
      rw [first, second, ← successor, dayCount_next]

/-- The last year of the type has no day number in it. -/
theorem civil_days_overflow :
    ∃ valid : Machine.Valid 9223372036854775807 1 1,
      Date.ofDay (Machine.daysFromCivil 9223372036854775807 1 1).toInt ≠ Machine.date valid := by
  refine ⟨by decide +kernel, ?_⟩
  intro reached
  have count := congrArg dayCount reached
  rw [dayCount_counts.ofDay, Machine.dayCount_date] at count
  exact absurd count (by decide +kernel)

end Registry
end QuietHop
