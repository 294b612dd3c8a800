import QuietHop.Lib.BigEndian

namespace QuietHop
namespace Lib

/-!
# Hexadecimal

Bytes written as two lower-case digits each, and a reader that accepts either case.
Digits are ASCII bytes.
-/

namespace Hex

/-- The digit of a value below sixteen. -/
def digit (value : UInt8) : UInt8 :=
  if value < 10 then 48 + value else 87 + value

def value (digit : UInt8) : Option UInt8 :=
  if 48 ≤ digit ∧ digit ≤ 57 then some (digit - 48)
  else if 97 ≤ digit ∧ digit ≤ 102 then some (digit - 87)
  else if 65 ≤ digit ∧ digit ≤ 70 then some (digit - 55)
  else none

/-- The two digits of a byte, high half first. -/
def pair (byte : UInt8) : Bytes :=
  [digit (byte >>> 4), digit (byte &&& 15)]

def encode (bytes : Bytes) : Bytes :=
  bytes.flatMap pair

def decode : Bytes -> Option Bytes
  | [] => some []
  | [_] => none
  | high :: low :: rest =>
      match value high, value low with
      | some hi, some lo => (decode rest).map fun tail => (hi <<< 4 ||| lo) :: tail
      | _, _ => none

/-- What holds of all bytes can be checked on the 256 of them. -/
theorem forall_byte {motive : UInt8 -> Prop} (all : ∀ index : Fin 256, motive (UInt8.ofNat index)) (byte : UInt8) :
    motive byte := by
  have here := all ⟨byte.toNat, byte.toNat_lt⟩
  rwa [UInt8.ofNat_toNat] at here

theorem value_halves (byte : UInt8) :
    value (digit (byte >>> 4)) = some (byte >>> 4) ∧ value (digit (byte &&& 15)) = some (byte &&& 15) ∧
      (byte >>> 4) <<< 4 ||| (byte &&& 15) = byte := by
  revert byte
  apply forall_byte
  decide +kernel

theorem pair_ascii (byte : UInt8) : (digit (byte >>> 4)).toNat < 128 ∧ (digit (byte &&& 15)).toNat < 128 := by
  revert byte
  apply forall_byte
  decide +kernel

theorem decode_encode (bytes : Bytes) : decode (encode bytes) = some bytes := by
  induction bytes with
  | nil => rfl
  | cons byte bytes ih =>
      rcases value_halves byte with ⟨high, low, joined⟩
      have step : encode (byte :: bytes) = digit (byte >>> 4) :: digit (byte &&& 15) :: encode bytes := rfl
      rw [step, decode, high, low, ih]
      simp only [Option.map_some, joined]

theorem encode_ascii (bytes : Bytes) : ∀ byte ∈ encode bytes, byte.toNat < 128 := by
  intro digit member
  rcases List.mem_flatMap.mp member with ⟨byte, _, inPair⟩
  rcases pair_ascii byte with ⟨high, low⟩
  simp only [pair, List.mem_cons, List.not_mem_nil, or_false] at inPair
  rcases inPair with rfl | rfl
  · exact high
  · exact low

theorem length_encode (bytes : Bytes) : (encode bytes).length = 2 * bytes.length := by
  induction bytes with
  | nil => rfl
  | cons byte bytes ih =>
      rw [encode, List.flatMap_cons, List.length_append, ← encode, ih]
      simp only [pair, List.length_cons, List.length_nil]
      omega

end Hex
end Lib
end QuietHop
