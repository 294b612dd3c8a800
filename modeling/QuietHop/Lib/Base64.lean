import QuietHop.Lib.BigEndian

namespace QuietHop
namespace Lib
namespace Base64

/-!
# Base64 with the standard alphabet and canonical padding

Three bytes become four symbols of six bits each.  The decoder is strict: it
wants whole groups of four, padding only at the end, and no bits left over under
the padding.
-/

/-- The symbol of a six-bit value. -/
def symbol (value : Nat) : UInt8 :=
  if value < 26 then UInt8.ofNat (65 + value)
  else if value < 52 then UInt8.ofNat (71 + value)
  else if value < 62 then UInt8.ofNat (value - 4)
  else if value = 62 then 43
  else 47

/-- The six-bit value of a symbol. -/
def valueOf (byte : UInt8) : Option Nat :=
  if 65 ≤ byte.toNat ∧ byte.toNat ≤ 90 then some (byte.toNat - 65)
  else if 97 ≤ byte.toNat ∧ byte.toNat ≤ 122 then some (byte.toNat - 71)
  else if 48 ≤ byte.toNat ∧ byte.toNat ≤ 57 then some (byte.toNat + 4)
  else if byte = 43 then some 62
  else if byte = 47 then some 63
  else none

def pad : UInt8 := 61

def encode : Bytes -> Bytes
  | [] => []
  | [a] => [symbol (a.toNat / 4), symbol (a.toNat % 4 * 16), pad, pad]
  | [a, b] =>
      [symbol (a.toNat / 4), symbol (a.toNat % 4 * 16 + b.toNat / 16), symbol (b.toNat % 16 * 4), pad]
  | a :: b :: c :: rest =>
      symbol (a.toNat / 4) :: symbol (a.toNat % 4 * 16 + b.toNat / 16) ::
        symbol (b.toNat % 16 * 4 + c.toNat / 64) :: symbol (c.toNat % 64) :: encode rest

/-- The last group of a text, which may be padded. -/
def decodeLast (s0 s1 s2 : UInt8) : Option Bytes :=
  match valueOf s0, valueOf s1 with
  | some v0, some v1 =>
      if s2 = pad then
        if v1 % 16 = 0 then some [UInt8.ofNat (v0 * 4 + v1 / 16)] else none
      else
        match valueOf s2 with
        | some v2 =>
            if v2 % 4 = 0 then
              some [UInt8.ofNat (v0 * 4 + v1 / 16), UInt8.ofNat (v1 % 16 * 16 + v2 / 4)]
            else none
        | none => none
  | _, _ => none

def decode : Bytes -> Option Bytes
  | [] => some []
  | s0 :: s1 :: s2 :: s3 :: rest =>
      if s3 = pad then
        if rest = [] then decodeLast s0 s1 s2 else none
      else
        match valueOf s0, valueOf s1, valueOf s2, valueOf s3 with
        | some v0, some v1, some v2, some v3 =>
            (decode rest).map fun tail =>
              UInt8.ofNat (v0 * 4 + v1 / 16) :: UInt8.ofNat (v1 % 16 * 16 + v2 / 4) ::
                UInt8.ofNat (v2 % 4 * 64 + v3) :: tail
        | _, _, _, _ => none
  | _ => none

theorem valueOf_symbol {value : Nat} (small : value < 64) : valueOf (symbol value) = some value := by
  have table : ∀ v : Fin 64, valueOf (symbol v) = some v.val := by decide
  exact table ⟨value, small⟩

theorem symbol_ne_pad {value : Nat} (small : value < 64) : symbol value ≠ pad := by
  have table : ∀ v : Fin 64, symbol v ≠ pad := by decide
  exact table ⟨value, small⟩

theorem symbol_lt (value : Nat) : (symbol value).toNat < 128 := by
  unfold symbol
  split
  · rw [UInt8.toNat_ofNat']
    omega
  · split
    · rw [UInt8.toNat_ofNat']
      omega
    · split
      · rw [UInt8.toNat_ofNat']
        omega
      · split <;> decide

private theorem ofNat_of_eq (byte : UInt8) {value : Nat} (same : value = byte.toNat) :
    UInt8.ofNat value = byte := by
  rw [same, UInt8.ofNat_toNat]

theorem decode_encode (bytes : Bytes) : decode (encode bytes) = some bytes := by
  induction bytes using encode.induct with
  | case1 => rfl
  | case2 a =>
      have sizeA := a.toNat_lt
      have first : valueOf (symbol (a.toNat / 4)) = some (a.toNat / 4) := valueOf_symbol (by omega)
      have second : valueOf (symbol (a.toNat % 4 * 16)) = some (a.toNat % 4 * 16) :=
        valueOf_symbol (by omega)
      simp only [encode, decode, decodeLast, first, second, if_true]
      rw [if_pos (by omega), ofNat_of_eq a (by omega)]
  | case3 a b =>
      have sizeA := a.toNat_lt
      have sizeB := b.toNat_lt
      have first : valueOf (symbol (a.toNat / 4)) = some (a.toNat / 4) := valueOf_symbol (by omega)
      have second : valueOf (symbol (a.toNat % 4 * 16 + b.toNat / 16)) =
          some (a.toNat % 4 * 16 + b.toNat / 16) := valueOf_symbol (by omega)
      have third : valueOf (symbol (b.toNat % 16 * 4)) = some (b.toNat % 16 * 4) :=
        valueOf_symbol (by omega)
      have unpadded : symbol (b.toNat % 16 * 4) ≠ pad := symbol_ne_pad (by omega)
      simp only [encode, decode, decodeLast, first, second, third, if_true, if_neg unpadded]
      rw [if_pos (by omega), ofNat_of_eq a (by omega), ofNat_of_eq b (by omega)]
  | case4 a b c rest ih =>
      have sizeA := a.toNat_lt
      have sizeB := b.toNat_lt
      have sizeC := c.toNat_lt
      have first : valueOf (symbol (a.toNat / 4)) = some (a.toNat / 4) := valueOf_symbol (by omega)
      have second : valueOf (symbol (a.toNat % 4 * 16 + b.toNat / 16)) =
          some (a.toNat % 4 * 16 + b.toNat / 16) := valueOf_symbol (by omega)
      have third : valueOf (symbol (b.toNat % 16 * 4 + c.toNat / 64)) =
          some (b.toNat % 16 * 4 + c.toNat / 64) := valueOf_symbol (by omega)
      have fourth : valueOf (symbol (c.toNat % 64)) = some (c.toNat % 64) := valueOf_symbol (by omega)
      have unpadded : symbol (c.toNat % 64) ≠ pad := symbol_ne_pad (by omega)
      simp only [encode, decode, first, second, third, fourth, if_neg unpadded, ih, Option.map_some]
      rw [ofNat_of_eq a (by omega), ofNat_of_eq b (by omega),
        ofNat_of_eq c (by omega)]

theorem encode_lt (bytes : Bytes) : ∀ byte ∈ encode bytes, byte.toNat < 128 := by
  induction bytes using encode.induct with
  | case1 => simp [encode]
  | case2 a => simpa [encode, pad] using ⟨symbol_lt _, symbol_lt _⟩
  | case3 a b => simpa [encode, pad] using ⟨symbol_lt _, symbol_lt _, symbol_lt _⟩
  | case4 a b c rest ih => simpa [encode] using ⟨symbol_lt _, symbol_lt _, symbol_lt _, symbol_lt _, ih⟩

end Base64
end Lib
end QuietHop
