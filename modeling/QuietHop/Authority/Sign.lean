import QuietHop.Lib.Hex
import QuietHop.Lib.Rsa
import QuietHop.Net.Address

namespace QuietHop
namespace Authority

open Lib Lib.Rsa Net

/-!
# The authority's blind signer

`Signer.Sign` exponentiates whatever residue it is given and returns it at the
width of the modulus.  Around it, `HandleIssue` reads the blinded value from hex,
bounds its length, and writes the signature back as hex.
-/

/-- The fields of the private key that `Signer` uses. -/
structure Signer where
  n : Nat
  d : Nat

/-- The signer for a key pair. -/
def Signer.ofKeyPair (key : KeyPair) : Signer :=
  ⟨key.n, key.d⟩

namespace Signer

def modulusSize (signer : Signer) : Nat :=
  (signer.n.size + 7) / 8

inductive SignError where
  | invalidBlindedValue
  deriving DecidableEq, Repr

/-- `FillBytes` panics when the number does not fit, which a residue always does. -/
def sign (signer : Signer) (blinded : Bytes) : Except SignError Bytes :=
  if blinded.length = 0 then .error .invalidBlindedValue
  else
    let b := BigEndian.toNat blinded
    if b ≤ 0 ∨ signer.n ≤ b then .error .invalidBlindedValue
    else .ok (BigEndian.ofNat signer.modulusSize (modpow b signer.d signer.n))

end Signer

/-- `hex.DecodeString` of the Go standard library. -/
def decodeString (text : String) : Option Bytes :=
  Hex.decode (asBytes text)

/-- `hex.EncodeToString` of the Go standard library. -/
def encodeToString (bytes : Bytes) : String :=
  ofAscii (Hex.encode bytes)

/-- `HandleIssue` from the decoded request to the signature, between the check of the
subscription and the update of the counters.  The error is the one answered with
status 400. -/
def issueSigned (signer : Signer) (blinded : String) : Except String String :=
  match decodeString blinded with
  | none => .error "invalid_blinded"
  | some blindedBytes =>
      if blindedBytes.length = 0 then .error "invalid_blinded"
      else if blindedBytes.length > signer.modulusSize then .error "invalid_blinded"
      else
        match signer.sign blindedBytes with
        | .error _ => .error "invalid_blinded"
        | .ok signed => .ok (encodeToString signed)

/-- Hex of either case is read, so the lower-case writer is undone. -/
theorem decodeString_ofAscii_encode (bytes : Bytes) : decodeString (ofAscii (Hex.encode bytes)) = some bytes := by
  rw [decodeString, asBytes_ofAscii (Hex.encode_ascii bytes), Hex.decode_encode]

/-- Every nonzero residue is signed, whatever minimal hex spells it. -/
theorem issueSigned_minimal {signer : Signer} {value : Nat} (nonzero : value ≠ 0) (small : value < signer.n) :
    issueSigned signer (ofAscii (Hex.encode (BigEndian.minimal value))) =
      .ok (encodeToString (BigEndian.ofNat signer.modulusSize (modpow value signer.d signer.n))) := by
  have size : signer.modulusSize = BigEndian.byteLength signer.n := rfl
  have nonempty : (BigEndian.minimal value).length ≠ 0 := by
    intro empty
    exact BigEndian.minimal_ne_nil value (List.length_eq_zero_iff.mp empty)
  have modulus := BigEndian.lt_pow_byteLength signer.n
  have wide : 0 < signer.modulusSize := by
    rw [size]
    apply Nat.pos_of_ne_zero
    intro zero
    rw [zero] at modulus
    omega
  have fits : (BigEndian.minimal value).length ≤ signer.modulusSize :=
    BigEndian.length_minimal_le value _ wide (Nat.lt_trans small modulus)
  have inRange : ¬ (value ≤ 0 ∨ signer.n ≤ value) := by omega
  simp only [issueSigned, decodeString_ofAscii_encode, if_neg nonempty, gt_iff_lt, if_neg (Nat.not_lt.mpr fits),
    Signer.sign, BigEndian.toNat_minimal, if_neg inRange]

end Authority
end QuietHop
