import Mathlib.Data.List.Basic
import QuietHop.Registry.Timestamp

namespace QuietHop
namespace Registry

open Lib Lib.Calendar Net

/-!
# The texts that are read as timestamps

A timestamp is six numbers in slots of fixed width between fixed separators.  The reader takes
the slots apart by position and hands each to the general integer parser, which also accepts a
sign in the place of a digit.
-/

/-! ## The grammar -/

/-- `2006-01-02T15:04:05Z` at an existing date, with a leap second. -/
def IsTimestamp (s : String) : Prop :=
  ∃ (date : Date) (hour minute second : Nat),
    0 ≤ date.year ∧ date.year ≤ 9999 ∧ hour ≤ 23 ∧ minute ≤ 59 ∧ second ≤ 60 ∧
    asBytes s = decimal 4 date.year.toNat ++ 45 :: (decimal 2 date.month ++ 45 :: (decimal 2 date.day ++
      84 :: (decimal 2 hour ++ 58 :: (decimal 2 minute ++ 58 :: (decimal 2 second ++ [90])))))

/-- What the integer parser reads in a slot, and whether it has a sign. -/
inductive Numeral (width : Nat) : (signed : Bool) -> Int -> Bytes -> Prop where
  | plain (value : Nat) : value < 10 ^ width -> Numeral width false value (decimal width value)
  | plus (value : Nat) : value < 10 ^ (width - 1) -> Numeral width true value (43 :: decimal (width - 1) value)
  | minus (value : Nat) : value < 10 ^ (width - 1) -> Numeral width true (-value) (45 :: decimal (width - 1) value)

/-- The six slots of a text. -/
structure Slots where
  year : Bytes
  month : Bytes
  day : Bytes
  hour : Bytes
  minute : Bytes
  second : Bytes
  year_length : year.length = 4
  month_length : month.length = 2
  day_length : day.length = 2
  hour_length : hour.length = 2
  minute_length : minute.length = 2
  second_length : second.length = 2

namespace Slots

/-- The slots between their separators. -/
def text (slots : Slots) : Bytes :=
  slots.year ++ 45 :: (slots.month ++ 45 :: (slots.day ++
    84 :: (slots.hour ++ 58 :: (slots.minute ++ 58 :: (slots.second ++ [90])))))

/-- Some slot begins with a sign. -/
def HasSign (slots : Slots) : Prop :=
  ∃ slot ∈ [slots.year, slots.month, slots.day, slots.hour, slots.minute, slots.second],
    slot.head? = some 43 ∨ slot.head? = some 45

end Slots

structure Fields where
  year : Int
  month : Int
  day : Int
  hour : Int
  minute : Int
  second : Int

/-- Every slot holds a number, with a sign or without. -/
structure Slots.Spell (slots : Slots) (fields : Fields) : Prop where
  year : ∃ signed, Numeral 4 signed fields.year slots.year
  month : ∃ signed, Numeral 2 signed fields.month slots.month
  day : ∃ signed, Numeral 2 signed fields.day slots.day
  hour : ∃ signed, Numeral 2 signed fields.hour slots.hour
  minute : ∃ signed, Numeral 2 signed fields.minute slots.minute
  second : ∃ signed, Numeral 2 signed fields.second slots.second

/-- The bounds that the reader checks: the last three have no lower one. -/
structure Fields.Bounded (fields : Fields) : Prop where
  month : 1 ≤ fields.month ∧ fields.month ≤ 12
  day : 1 ≤ fields.day ∧ fields.day ≤ daysInMonth fields.year fields.month
  hour : fields.hour ≤ 23
  minute : fields.minute ≤ 59
  second : fields.second ≤ 60

/-- A text in the shape of a timestamp, within the bounds that are checked, with a sign in some slot. -/
def IsSigned (s : String) : Prop :=
  ∃ (slots : Slots) (fields : Fields), asBytes s = slots.text ∧ slots.Spell fields ∧ fields.Bounded ∧ slots.HasSign

/-! ## Numerals -/

theorem eq_digit_of_toDigit {byte : UInt8} {digit : Nat} (read : toDigit 10 byte = some digit) :
    digit < 10 ∧ byte = UInt8.ofNat (48 + digit % 10) := by
  have member := Option.mem_filter_iff.mp (show digit ∈ toDigit 10 byte from read)
  have small : digit < 10 := by simpa using member.2
  have found := member.1
  refine ⟨small, UInt8.toNat_inj.mp ?_⟩
  rw [Nat.mod_eq_of_lt small, digit_toNat small]
  -- Letters stand for ten and more.
  split_ifs at found with decimal lower upper
  · have value := Option.some.inj found
    omega
  · have value := Option.some.inj found
    omega
  · have value := Option.some.inj found
    omega
  · cases found

theorem parseDigits_eq_some {bytes : Bytes} {before result : Nat} (parsed : parseDigits before bytes = some result) :
    ∃ value, value < 10 ^ bytes.length ∧ bytes = decimal bytes.length value ∧
      result = before * 10 ^ bytes.length + value := by
  induction bytes using List.reverseRecOn generalizing result with
  | nil =>
      cases parsed
      exact ⟨0, by simp, rfl, by simp⟩
  | append_singleton initial byte ih =>
      rw [parseDigits_append] at parsed
      rcases Option.bind_eq_some_iff.mp parsed with ⟨read, first, rest⟩
      rcases ih first with ⟨value, small, spelled, total⟩
      rw [parseDigits] at rest
      cases last : toDigit 10 byte with
      | none => simp [last] at rest
      | some digit =>
          rw [last] at rest
          have sum : read * 10 + digit = result := Option.some.inj rest
          rcases eq_digit_of_toDigit last with ⟨bound, rfl⟩
          refine ⟨value * 10 + digit, ?_, ?_, ?_⟩
          · rw [List.length_append, List.length_singleton, Nat.pow_succ]
            omega
          · have high : (value * 10 + digit) / 10 = value := by omega
            have low : (value * 10 + digit) % 10 = digit % 10 := by omega
            rw [List.length_append, List.length_singleton, decimal_succ, high, low, ← spelled]
          · rw [List.length_append, List.length_singleton, Nat.pow_succ, ← sum, total]
            rw [Nat.add_mul, Nat.mul_assoc, Nat.add_assoc]

theorem parseDigits_zero {bytes : Bytes} {value : Nat} :
    parseDigits 0 bytes = some value ↔ value < 10 ^ bytes.length ∧ bytes = decimal bytes.length value := by
  constructor
  · intro parsed
    rcases parseDigits_eq_some parsed with ⟨number, small, spelled, total⟩
    rw [Nat.zero_mul, Nat.zero_add] at total
    exact total ▸ ⟨small, spelled⟩
  · rintro ⟨small, spelled⟩
    rw [spelled, parseDigits_decimal, Nat.mod_eq_of_lt small, Nat.zero_mul, Nat.zero_add]

/-- The integer parser on a slot. -/
theorem parseI64_eq_some {width : Nat} {bytes : Bytes} (size : bytes.length = width + 2) (value : Int) :
    parseI64 bytes = some value ↔ ∃ signed, Numeral (width + 2) signed value bytes := by
  rcases bytes with _ | ⟨first, _ | ⟨second, rest⟩⟩
  · cases size
  · simp at size
  have tail : (second :: rest).length = width + 1 := by simpa using size
  have plus : parseI64 (43 :: second :: rest) = (parseDigits 0 (second :: rest)).map Int.ofNat := rfl
  have minus : parseI64 (45 :: second :: rest) =
      (parseDigits 0 (second :: rest)).map fun value : Nat => -Int.ofNat value := rfl
  constructor
  · intro parsed
    by_cases isPlus : first = 43
    · subst isPlus
      rw [plus] at parsed
      rcases Option.map_eq_some_iff.mp parsed with ⟨number, read, rfl⟩
      rcases parseDigits_zero.mp read with ⟨small, spelled⟩
      rw [tail] at small spelled
      rw [spelled]
      exact ⟨true, .plus number small⟩
    by_cases isMinus : first = 45
    · subst isMinus
      rw [minus] at parsed
      rcases Option.map_eq_some_iff.mp parsed with ⟨number, read, rfl⟩
      rcases parseDigits_zero.mp read with ⟨small, spelled⟩
      rw [tail] at small spelled
      rw [spelled]
      exact ⟨true, .minus number small⟩
    · rw [parseI64_unsigned isPlus isMinus] at parsed
      rcases Option.map_eq_some_iff.mp parsed with ⟨number, read, rfl⟩
      rcases parseDigits_zero.mp read with ⟨small, spelled⟩
      rw [size] at small spelled
      rw [spelled]
      exact ⟨false, .plain number small⟩
  · rintro ⟨signed, numeral⟩
    generalize spelling : first :: second :: rest = bytes at numeral
    cases numeral with
    | plain number small => exact parseI64_decimal (by omega) small
    | plus number small =>
        obtain ⟨rfl, spelled⟩ := List.cons.inj spelling
        rw [← spelled, plus, parseDigits_zero.mpr ⟨by rw [tail]; exact small, by rw [tail]; exact spelled⟩]
        rfl
    | minus number small =>
        obtain ⟨rfl, spelled⟩ := List.cons.inj spelling
        rw [← spelled, minus, parseDigits_zero.mpr ⟨by rw [tail]; exact small, by rw [tail]; exact spelled⟩]
        rfl

theorem noSign_decimal (width value : Nat) :
    ¬ ((decimal width value).head? = some 43 ∨ (decimal width value).head? = some 45) := by
  have digits := decimal_range width value
  cases spelled : decimal width value with
  | nil => simp
  | cons first rest =>
      have noSign := ne_sign_of_digit (digits first (spelled ▸ List.mem_cons_self ..)).1
      simp [noSign.1, noSign.2]

/-- The first byte tells whether a numeral has a sign. -/
theorem Numeral.signed_iff {width : Nat} {signed : Bool} {value : Int} {bytes : Bytes}
    (numeral : Numeral width signed value bytes) :
    signed = true ↔ bytes.head? = some 43 ∨ bytes.head? = some 45 := by
  cases numeral with
  | plain number small => simp only [noSign_decimal, Bool.false_eq_true]
  | plus number small => simp
  | minus number small => simp

theorem Numeral.length_eq {width : Nat} {signed : Bool} {value : Int} {bytes : Bytes} (positive : 0 < width)
    (numeral : Numeral width signed value bytes) : bytes.length = width := by
  cases numeral with
  | plain number small => exact length_decimal width number
  | plus number small =>
      rw [List.length_cons, length_decimal]
      omega
  | minus number small =>
      rw [List.length_cons, length_decimal]
      omega

/-! ## Slots -/

/-- Cut a text at a byte. -/
theorem drop_eq_slot {bytes : Bytes} {start stop : Nat} (order : start ≤ stop) (inside : stop < bytes.length) :
    bytes.drop start = (bytes.drop start).take (stop - start) ++ bytes.getD stop 0 :: bytes.drop (stop + 1) := by
  have after : (bytes.drop start).drop (stop - start) = bytes.getD stop 0 :: bytes.drop (stop + 1) := by
    rw [List.drop_drop, Nat.add_sub_cancel' order, drop_eq_getD_cons inside]
  rw [← after, List.take_append_drop]

namespace Slots

/-- What the reader finds at the positions of a text in the right shape. -/
theorem shape_text (slots : Slots) :
    slots.text.length = 20 ∧ slots.text.getD 4 0 = 45 ∧ slots.text.getD 7 0 = 45 ∧ slots.text.getD 10 0 = 84 ∧
      slots.text.getD 13 0 = 58 ∧ slots.text.getD 16 0 = 58 ∧ slots.text.getD 19 0 = 90 ∧
      (slots.text.drop 0).take 4 = slots.year ∧ (slots.text.drop 5).take 2 = slots.month ∧
      (slots.text.drop 8).take 2 = slots.day ∧ (slots.text.drop 11).take 2 = slots.hour ∧
      (slots.text.drop 14).take 2 = slots.minute ∧ (slots.text.drop 17).take 2 = slots.second := by
  obtain ⟨year, month, day, hour, minute, second, yearLength, monthLength, dayLength, hourLength, minuteLength,
    secondLength⟩ := slots
  obtain ⟨y1, y2, y3, y4, rfl⟩ : ∃ a b c d, year = [a, b, c, d] := by
    rcases year with _ | ⟨a, _ | ⟨b, _ | ⟨c, _ | ⟨d, _ | ⟨e, rest⟩⟩⟩⟩⟩ <;> simp at yearLength
    exact ⟨a, b, c, d, rfl⟩
  obtain ⟨o1, o2, rfl⟩ := List.length_eq_two.mp monthLength
  obtain ⟨d1, d2, rfl⟩ := List.length_eq_two.mp dayLength
  obtain ⟨h1, h2, rfl⟩ := List.length_eq_two.mp hourLength
  obtain ⟨m1, m2, rfl⟩ := List.length_eq_two.mp minuteLength
  obtain ⟨s1, s2, rfl⟩ := List.length_eq_two.mp secondLength
  exact ⟨rfl, rfl, rfl, rfl, rfl, rfl, rfl, rfl, rfl, rfl, rfl, rfl, rfl⟩

/-- A text with the separators in their places is made of slots. -/
theorem exists_of_separators {bytes : Bytes} (size : bytes.length = 20) (first : bytes.getD 4 0 = 45)
    (second : bytes.getD 7 0 = 45) (third : bytes.getD 10 0 = 84) (fourth : bytes.getD 13 0 = 58)
    (fifth : bytes.getD 16 0 = 58) (last : bytes.getD 19 0 = 90) : ∃ slots : Slots, bytes = slots.text := by
  have inSlot (start width : Nat) (inside : start + width ≤ 20) : ((bytes.drop start).take width).length = width := by
    rw [List.length_take, List.length_drop]
    omega
  refine ⟨⟨bytes.take 4, (bytes.drop 5).take 2, (bytes.drop 8).take 2, (bytes.drop 11).take 2, (bytes.drop 14).take 2,
    (bytes.drop 17).take 2, inSlot 0 4 (by decide), inSlot 5 2 (by decide), inSlot 8 2 (by decide),
    inSlot 11 2 (by decide), inSlot 14 2 (by decide), inSlot 17 2 (by decide)⟩, ?_⟩
  have year := @drop_eq_slot bytes 0 4 (by decide) (by omega)
  have month := @drop_eq_slot bytes 5 7 (by decide) (by omega)
  have day := @drop_eq_slot bytes 8 10 (by decide) (by omega)
  have hour := @drop_eq_slot bytes 11 13 (by decide) (by omega)
  have minute := @drop_eq_slot bytes 14 16 (by decide) (by omega)
  have seconds := @drop_eq_slot bytes 17 19 (by decide) (by omega)
  have nothing : bytes.drop 20 = [] := List.drop_of_length_le (by omega)
  rw [first, List.drop_zero] at year
  rw [second] at month
  rw [third] at day
  rw [fourth] at hour
  rw [fifth] at minute
  rw [last, nothing] at seconds
  rw [text]
  dsimp only
  rw [← seconds, ← minute, ← hour, ← day, ← month, ← year]

/-- The numbers in the slots, as the integer parser reads them. -/
structure Read (slots : Slots) (fields : Fields) : Prop where
  year : parseI64 slots.year = some fields.year
  month : parseI64 slots.month = some fields.month
  day : parseI64 slots.day = some fields.day
  hour : parseI64 slots.hour = some fields.hour
  minute : parseI64 slots.minute = some fields.minute
  second : parseI64 slots.second = some fields.second

end Slots

theorem parseRfc3339_iff (s : String) :
    (∃ time, parseRfc3339 s = .ok time) ↔
      ∃ (slots : Slots) (fields : Fields), asBytes s = slots.text ∧ slots.Read fields ∧ fields.Bounded := by
  constructor
  · rintro ⟨time, parsed⟩
    simp only [parseRfc3339] at parsed
    split_ifs at parsed with shape
    simp only [not_or, not_not] at shape
    obtain ⟨size, first, second, third, fourth, fifth, last⟩ := shape
    obtain ⟨slots, spelled⟩ := Slots.exists_of_separators size first second third fourth fifth last
    obtain ⟨-, -, -, -, -, -, -, yearAt, monthAt, dayAt, hourAt, minuteAt, secondAt⟩ := slots.shape_text
    rw [spelled, yearAt, monthAt, dayAt, hourAt, minuteAt, secondAt] at parsed
    split at parsed
    · next y mo d h mi sec year month day hour minute second =>
        split_ifs at parsed with range days
        have months : 1 ≤ mo ∧ mo ≤ 12 := by omega
        have inMonth : 1 ≤ d ∧ d ≤ daysInMonth y mo := by omega
        have hours : h ≤ 23 := by omega
        have minutes : mi ≤ 59 := by omega
        have seconds : sec ≤ 60 := by omega
        exact ⟨slots, ⟨y, mo, d, h, mi, sec⟩, spelled, ⟨year, month, day, hour, minute, second⟩,
          ⟨months, inMonth, hours, minutes, seconds⟩⟩
    · cases parsed
  · rintro ⟨slots, fields, spelled, read, bounded⟩
    obtain ⟨size, first, second, third, fourth, fifth, last, yearAt, monthAt, dayAt, hourAt, minuteAt, secondAt⟩ :=
      slots.shape_text
    have month := bounded.month
    have day := bounded.day
    have hour := bounded.hour
    have minute := bounded.minute
    have second' := bounded.second
    simp only [parseRfc3339, spelled]
    rw [if_neg (by simp only [size, first, second, third, fourth, fifth, last]; decide), yearAt, monthAt, dayAt, hourAt,
      minuteAt, secondAt, read.year, read.month, read.day, read.hour, read.minute, read.second]
    dsimp only
    rw [if_neg (by omega), if_neg (by omega)]
    exact ⟨_, rfl⟩

theorem Slots.read_iff (slots : Slots) (fields : Fields) : slots.Read fields ↔ slots.Spell fields := by
  constructor
  · intro read
    exact ⟨(parseI64_eq_some slots.year_length _).mp read.year, (parseI64_eq_some slots.month_length _).mp read.month,
      (parseI64_eq_some slots.day_length _).mp read.day, (parseI64_eq_some slots.hour_length _).mp read.hour,
      (parseI64_eq_some slots.minute_length _).mp read.minute, (parseI64_eq_some slots.second_length _).mp read.second⟩
  · intro spell
    exact ⟨(parseI64_eq_some slots.year_length _).mpr spell.year, (parseI64_eq_some slots.month_length _).mpr spell.month,
      (parseI64_eq_some slots.day_length _).mpr spell.day, (parseI64_eq_some slots.hour_length _).mpr spell.hour,
      (parseI64_eq_some slots.minute_length _).mpr spell.minute, (parseI64_eq_some slots.second_length _).mpr spell.second⟩

theorem Slots.text_injective {slots other : Slots} (same : slots.text = other.text) : slots = other := by
  obtain ⟨-, -, -, -, -, -, -, year, month, day, hour, minute, second⟩ := slots.shape_text
  obtain ⟨-, -, -, -, -, -, -, year', month', day', hour', minute', second'⟩ := other.shape_text
  rw [same] at year month day hour minute second
  cases slots
  cases other
  simp_all

/-- A slot without a sign holds a number of its width. -/
theorem Numeral.of_noSign {width : Nat} {value : Int} {bytes : Bytes} (numeral : ∃ signed, Numeral width signed value bytes)
    (noSign : ¬ (bytes.head? = some 43 ∨ bytes.head? = some 45)) :
    ∃ number : Nat, value = number ∧ number < 10 ^ width ∧ bytes = decimal width number := by
  obtain ⟨signed, numeral⟩ := numeral
  have unsigned : signed = false := by
    rw [← Bool.not_eq_true]
    exact fun isSigned => noSign (numeral.signed_iff.mp isSigned)
  subst unsigned
  cases numeral with
  | plain number small => exact ⟨number, rfl, small, rfl⟩

theorem isTimestamp_iff (s : String) :
    IsTimestamp s ↔ ∃ (slots : Slots) (fields : Fields),
      asBytes s = slots.text ∧ slots.Spell fields ∧ fields.Bounded ∧ ¬ slots.HasSign := by
  constructor
  · rintro ⟨date, hour, minute, second, positive, small, hours, minutes, seconds, spelled⟩
    have monthPositive := date.month_pos
    have monthBound := date.month_le
    have dayPositive := date.day_pos
    have dayBound := date.day_le
    have dayLast := le_trans dayBound (monthLength_le _ _)
    have inMonth := daysInMonth_eq date.year monthPositive monthBound
    refine ⟨⟨decimal 4 date.year.toNat, decimal 2 date.month, decimal 2 date.day, decimal 2 hour,
      decimal 2 minute, decimal 2 second, length_decimal .., length_decimal .., length_decimal ..,
      length_decimal .., length_decimal .., length_decimal ..⟩,
      ⟨date.year, date.month, date.day, hour, minute, second⟩, spelled, ?_, ?_, ?_⟩
    · have year := @Numeral.plain 4 date.year.toNat (by omega)
      rw [Int.toNat_of_nonneg positive] at year
      exact ⟨⟨false, year⟩, ⟨false, .plain date.month (by omega)⟩, ⟨false, .plain date.day (by omega)⟩,
        ⟨false, .plain hour (by omega)⟩, ⟨false, .plain minute (by omega)⟩, ⟨false, .plain second (by omega)⟩⟩
    · exact ⟨by dsimp only; omega, by dsimp only; omega, by dsimp only; omega, by dsimp only; omega, by dsimp only; omega⟩
    · rintro ⟨slot, member, sign⟩
      simp only [List.mem_cons, List.not_mem_nil, or_false] at member
      rcases member with rfl | rfl | rfl | rfl | rfl | rfl
      all_goals exact noSign_decimal _ _ sign
  · rintro ⟨slots, fields, spelled, spell, bounded, noSign⟩
    have unsigned (slot : Bytes) (member : slot ∈ [slots.year, slots.month, slots.day, slots.hour, slots.minute,
        slots.second]) : ¬ (slot.head? = some 43 ∨ slot.head? = some 45) := fun sign => noSign ⟨slot, member, sign⟩
    obtain ⟨y, year, yearSmall, yearDigits⟩ := Numeral.of_noSign spell.year (unsigned _ (by simp))
    obtain ⟨mo, month, monthSmall, monthDigits⟩ := Numeral.of_noSign spell.month (unsigned _ (by simp))
    obtain ⟨d, day, daySmall, dayDigits⟩ := Numeral.of_noSign spell.day (unsigned _ (by simp))
    obtain ⟨h, hour, hourSmall, hourDigits⟩ := Numeral.of_noSign spell.hour (unsigned _ (by simp))
    obtain ⟨mi, minute, minuteSmall, minuteDigits⟩ := Numeral.of_noSign spell.minute (unsigned _ (by simp))
    obtain ⟨sec, second, secondSmall, secondDigits⟩ := Numeral.of_noSign spell.second (unsigned _ (by simp))
    obtain ⟨months, days, hours, minutes, seconds⟩ := bounded
    rw [month] at months
    rw [year, month, day] at days
    rw [hour] at hours
    rw [minute] at minutes
    rw [second] at seconds
    rw [daysInMonth_eq y (by omega) (by omega)] at days
    rw [Slots.text, yearDigits, monthDigits, dayDigits, hourDigits, minuteDigits, secondDigits] at spelled
    exact ⟨⟨y, mo, d, by omega, by omega, by omega, by omega⟩, h, mi, sec, by dsimp only; omega, by dsimp only; omega,
      by omega, by omega, by omega, spelled⟩

/-- Exactly the texts of the grammar are read, a sign in some slot apart: such a text is read as well. -/
theorem timestamp_grammar (s : String) :
    ((∃ time, parseRfc3339 s = .ok time) ↔ IsTimestamp s) ↔ ¬ IsSigned s := by
  have reads : (∃ time, parseRfc3339 s = .ok time) ↔ IsTimestamp s ∨ IsSigned s := by
    rw [parseRfc3339_iff, isTimestamp_iff]
    constructor
    · rintro ⟨slots, fields, spelled, read, bounded⟩
      rw [Slots.read_iff] at read
      by_cases sign : slots.HasSign
      · exact Or.inr ⟨slots, fields, spelled, read, bounded, sign⟩
      · exact Or.inl ⟨slots, fields, spelled, read, bounded, sign⟩
    · rintro (⟨slots, fields, spelled, spell, bounded, -⟩ | ⟨slots, fields, spelled, spell, bounded, -⟩)
      all_goals exact ⟨slots, fields, spelled, (slots.read_iff fields).mpr spell, bounded⟩
  have exclusive : IsTimestamp s -> ¬ IsSigned s := by
    rw [isTimestamp_iff]
    rintro ⟨slots, -, spelled, -, -, noSign⟩ ⟨other, -, again, -, -, sign⟩
    rw [Slots.text_injective (again.symm.trans spelled)] at sign
    exact noSign sign
  constructor
  · intro agrees signed
    exact exclusive (agrees.mp (reads.mpr (Or.inr signed))) signed
  · intro unsigned
    rw [reads]
    constructor
    · rintro (isTimestamp | signed)
      · exact isTimestamp
      · exact absurd signed unsigned
    · exact Or.inl

/-- There is no hour before midnight, but it is read, as the last one of the day before. -/
theorem timestamp_negative_hour :
    parseRfc3339 "2026-10-08T-1:00:00Z" = parseRfc3339 "2026-10-07T23:00:00Z" ∧
      ¬ ((∃ time, parseRfc3339 "2026-10-08T-1:00:00Z" = .ok time) ↔ IsTimestamp "2026-10-08T-1:00:00Z") := by
  have read : parseRfc3339 "2026-10-08T-1:00:00Z" = .ok 1791414000 := by decide +kernel
  have plain : parseRfc3339 "2026-10-07T23:00:00Z" = .ok 1791414000 := by decide +kernel
  refine ⟨read.trans plain.symm, ?_⟩
  intro agrees
  obtain ⟨slots, -, spelled, -, -, noSign⟩ := (isTimestamp_iff _).mp (agrees.mp ⟨_, read⟩)
  obtain ⟨-, -, -, -, -, -, -, -, -, -, hour, -⟩ := slots.shape_text
  have bytes : ((asBytes "2026-10-08T-1:00:00Z").drop 11).take 2 = [45, 49] := by decide +kernel
  rw [← spelled, bytes] at hour
  exact noSign ⟨slots.hour, by simp, by simp [← hour]⟩

end Registry
end QuietHop
