import Mathlib.Algebra.Group.Int.Defs
import Mathlib.Algebra.Group.Nat.Defs
import Mathlib.Data.List.GetD
import Mathlib.Data.List.Induction
import Mathlib.Data.Nat.Size

namespace QuietHop
namespace Lib

/-!
# Big-endian numerals

A byte string read as a number, most significant byte first, together with the
two ways of writing a number back: into a field of fixed width, and with the
fewest bytes that hold it.  Both writers are inverse to the reader on the
numbers that fit, and a fixed width makes the reader injective.  That last fact
is what lets a comparison of wire bytes stand in for a comparison of integers.
Numerals that are printed take their digits in another radix.
-/

/-- A byte string as it travels on a wire or lies in a file. -/
abbrev Bytes := List UInt8

theorem drop_eq_getD_cons {bytes : Bytes} {index : Nat} (inside : index < bytes.length) :
    bytes.drop index = bytes.getD index 0 :: bytes.drop (index + 1) := by
  rw [List.drop_eq_getElem_cons inside, List.getD_eq_getElem _ _ inside]

namespace BigEndian

/-- The number a byte string denotes, most significant byte first. -/
def toNat (bytes : Bytes) : Nat :=
  bytes.foldl (fun value byte => value * 256 + byte.toNat) 0

/-- The last `width` digits in a radix, most significant first. -/
def lastDigits (radix : Nat) : (width value : Nat) -> List Nat
  | 0, _ => []
  | width + 1, value => lastDigits radix width (value / radix) ++ [value % radix]

/-- Write a number into exactly `width` bytes, dropping what does not fit. -/
def ofNat : (width : Nat) -> Nat -> Bytes
  | 0, _ => []
  | width + 1, value => ofNat width (value / 256) ++ [UInt8.ofNat (value % 256)]

/-- The number of bytes in the shortest numeral, zero for zero. -/
def byteLength (value : Nat) : Nat :=
  (value.size + 7) / 8

@[simp] theorem toNat_nil : toNat [] = 0 := rfl

@[simp] theorem toNat_concat (bytes : Bytes) (byte : UInt8) :
    toNat (bytes ++ [byte]) = toNat bytes * 256 + byte.toNat := by
  simp [toNat]

@[simp] theorem length_ofNat (width value : Nat) : (ofNat width value).length = width := by
  induction width generalizing value with
  | zero => rfl
  | succ width ih => simp [ofNat, ih]

@[simp] theorem length_lastDigits (radix width value : Nat) : (lastDigits radix width value).length = width := by
  induction width generalizing value with
  | zero => rfl
  | succ width ih => simp [lastDigits, ih]

theorem lastDigits_lt {radix : Nat} (positive : 0 < radix) (width value : Nat) :
    ∀ digit ∈ lastDigits radix width value, digit < radix := by
  induction width generalizing value with
  | zero => simp [lastDigits]
  | succ width ih =>
      intro digit member
      rcases List.mem_append.mp member with before | isLast
      · exact ih _ digit before
      · rw [List.mem_singleton.mp isLast]
        exact Nat.mod_lt _ positive

theorem toNat_lt (bytes : Bytes) : toNat bytes < 256 ^ bytes.length := by
  induction bytes using List.reverseRecOn with
  | nil => simp
  | append_singleton initial byte ih =>
      have small := byte.toNat_lt
      rw [toNat_concat, List.length_append, List.length_singleton, Nat.pow_succ]
      omega

theorem toNat_ofNat (width value : Nat) (fits : value < 256 ^ width) :
    toNat (ofNat width value) = value := by
  induction width generalizing value with
  | zero => simp at fits; simp [ofNat, fits]
  | succ width ih =>
      have high : value / 256 < 256 ^ width := by
        rw [Nat.pow_succ] at fits
        omega
      rw [ofNat, toNat_concat, ih _ high, UInt8.toNat_ofNat_of_lt' (by simp [UInt8.size]; omega)]
      omega

/-- At a fixed width the numeral determines the bytes. -/
theorem ofNat_toNat (bytes : Bytes) : ofNat bytes.length (toNat bytes) = bytes := by
  induction bytes using List.reverseRecOn with
  | nil => rfl
  | append_singleton initial byte ih =>
      have small := byte.toNat_lt
      have high : (toNat initial * 256 + byte.toNat) / 256 = toNat initial := by omega
      have low : (toNat initial * 256 + byte.toNat) % 256 = byte.toNat := by omega
      rw [List.length_append, List.length_singleton, toNat_concat, ofNat, high, low, ih,
        UInt8.ofNat_toNat]

theorem toNat_injective_of_length {left right : Bytes} (same : left.length = right.length)
    (equal : toNat left = toNat right) : left = right := by
  rw [← ofNat_toNat left, ← ofNat_toNat right, same, equal]

/-- Leading zero bytes do not change the number. -/
@[simp] theorem toNat_replicate_zero_append (count : Nat) (bytes : Bytes) :
    toNat (List.replicate count 0 ++ bytes) = toNat bytes := by
  have zeros : (List.replicate count (0 : UInt8)).foldl (fun value byte => value * 256 + byte.toNat) 0 = 0 := by
    induction count with
    | zero => rfl
    | succ count ih => simpa [List.replicate_succ] using ih
  rw [toNat, List.foldl_append, zeros, toNat]

theorem toNat_append (left right : Bytes) :
    toNat (left ++ right) = toNat left * 256 ^ right.length + toNat right := by
  induction right using List.reverseRecOn with
  | nil => simp
  | append_singleton initial byte ih =>
      rw [← List.append_assoc, toNat_concat, ih, toNat_concat, List.length_append, List.length_singleton,
        Nat.pow_succ, Nat.add_mul, Nat.mul_assoc, Nat.add_assoc]

/-- The first bytes are what division by a power of the base leaves. -/
theorem toNat_take (bytes : Bytes) (count : Nat) :
    toNat (bytes.take count) = toNat bytes / 256 ^ (bytes.length - count) := by
  have split := toNat_append (bytes.take count) (bytes.drop count)
  have small := toNat_lt (bytes.drop count)
  rw [List.take_append_drop, List.length_drop] at split
  rw [List.length_drop] at small
  rw [split, Nat.mul_comm, Nat.mul_add_div (Nat.pow_pos (by omega)), Nat.div_eq_of_lt small, Nat.add_zero]

theorem byteLength_le_iff (value width : Nat) : byteLength value ≤ width ↔ value < 256 ^ width := by
  have bits : value < 256 ^ width ↔ value.size ≤ 8 * width := by
    rw [Nat.size_le, show (256 : Nat) = 2 ^ 8 from rfl, ← Nat.pow_mul]
  rw [bits, byteLength]
  omega

theorem lt_pow_byteLength (value : Nat) : value < 256 ^ byteLength value :=
  (byteLength_le_iff value _).mp (Nat.le_refl _)

/-- The shortest numeral, with a single zero byte for zero. -/
def minimal (value : Nat) : Bytes :=
  if value = 0 then [0] else ofNat (byteLength value) value

@[simp] theorem toNat_minimal (value : Nat) : toNat (minimal value) = value := by
  unfold minimal
  by_cases zero : value = 0
  · rw [if_pos zero, zero]
    rfl
  · rw [if_neg zero]
    exact toNat_ofNat _ _ (lt_pow_byteLength value)

theorem length_minimal_le (value width : Nat) (positive : 0 < width) (fits : value < 256 ^ width) :
    (minimal value).length ≤ width := by
  unfold minimal
  by_cases zero : value = 0
  · rw [if_pos zero]
    exact positive
  · rw [if_neg zero, length_ofNat]
    exact (byteLength_le_iff value width).mpr fits

theorem minimal_ne_nil (value : Nat) : minimal value ≠ [] := by
  unfold minimal
  by_cases zero : value = 0
  · simp [zero]
  · rw [if_neg zero]
    intro empty
    have none : byteLength value = 0 := by
      rw [← length_ofNat (byteLength value) value, empty, List.length_nil]
    have small := lt_pow_byteLength value
    rw [none] at small
    omega

end BigEndian
end Lib
end QuietHop
