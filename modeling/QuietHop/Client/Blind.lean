import Mathlib.Data.Int.ModEq
import QuietHop.Client.Error
import QuietHop.Lib.Rsa

namespace QuietHop
namespace Client

open Lib Lib.Rsa

/-!
# Blinding and unblinding

Raw textbook RSA after Chaum.  The client hides the digest of its preimage behind
a random unit, and divides the unit out of whatever the authority returns.  It
keeps the result only if it is a root of the digest, so an authority that answers
anything else is noticed here and not at the relay.

The modular inverse is the one function of the big-integer library that is not
spelled out; `InverseLaw` is what is assumed of it.
-/

structure BlindedRequest where
  blinded : Nat
  rInv : Nat
  m : Nat
  deriving DecidableEq

/-- A returned inverse is one. -/
def InverseLaw (modInverse : Nat -> Nat -> Option Int) : Prop :=
  forall r n inverse, modInverse r n = some inverse -> (r : Int) * inverse ≡ 1 [ZMOD n]

/-- `to_biguint`, which fails on a negative number. -/
def toBiguint (value : Int) : Option Nat :=
  if 0 ≤ value then some value.toNat else none

section Blind

variable (sha256 : Bytes -> Digest) (modInverse : Nat -> Nat -> Option Int) (pubkey : RsaPublicKey)

/-- One turn of the loop in `blind`, for the message computed before it; `none` is `continue`. -/
def blindMessage (m r : Nat) : Option BlindedRequest :=
  if r < 2 then none
  else
    match modInverse r pubkey.n with
    | none => none
    | some rInvSigned =>
        match toBiguint rInvSigned with
        | none => none
        | some rInv =>
            if rInv = 1 then none
            else some ⟨m * modpow r pubkey.e pubkey.n % pubkey.n, rInv, m⟩

def blindWith (mRaw : Bytes) (r : Nat) : Option BlindedRequest :=
  blindMessage modInverse pubkey (BigEndian.toNat (sha256 mRaw).val % pubkey.n) r

/-- The loop over the draws of the generator.  `none` means that every one of them
was rejected and the loop goes on. -/
def blind (mRaw : Bytes) (draws : List Nat) : Option BlindedRequest :=
  draws.findSome? (blindWith sha256 modInverse pubkey mRaw)

def unblindAndVerify (req : BlindedRequest) (sBlind : Nat) : Except ClientError Nat :=
  if pubkey.n ≤ sBlind then .error .blindOversized
  else
    let token := sBlind * req.rInv % pubkey.n
    if modpow token pubkey.e pubkey.n ≠ req.m then .error .blindVerifyFailed else .ok token

end Blind

/-- Left-pad `token` to `modulusBytes` big-endian bytes. -/
def tokenToWire (token modulusBytes : Nat) : Bytes :=
  let raw := BigEndian.minimal token
  if modulusBytes ≤ raw.length then raw
  else List.replicate (modulusBytes - raw.length) 0 ++ raw

section Spec

variable {sha256 : Bytes -> Digest} {modInverse : Nat -> Nat -> Option Int} {pubkey : RsaPublicKey}
variable {mRaw : Bytes} {req : BlindedRequest}

/-- What a request holds: the reduced digest, the digest hidden by some unit, and
the unit's inverse. -/
theorem blind_spec (law : InverseLaw modInverse) {draws : List Nat}
    (returned : blind sha256 modInverse pubkey mRaw draws = some req) :
    ∃ r, req.m = BigEndian.toNat (sha256 mRaw).val % pubkey.n ∧
      req.blinded = req.m * r ^ pubkey.e % pubkey.n ∧ r * req.rInv ≡ 1 [MOD pubkey.n] := by
  rcases List.exists_of_findSome?_eq_some returned with ⟨r, _, chosen⟩
  refine ⟨r, ?_⟩
  simp only [blindWith, blindMessage] at chosen
  split_ifs at chosen with tiny
  split at chosen
  · cases chosen
  next rInvSigned inverted =>
    split at chosen
    · cases chosen
    next rInv positive =>
      split_ifs at chosen with trivialInverse
      cases chosen
      refine ⟨rfl, ?_, ?_⟩
      · simp only [modpow_eq, Nat.mul_mod_mod]
      · rw [toBiguint] at positive
        split_ifs at positive with nonnegative
        cases positive
        apply Int.natCast_modEq_iff.mp
        rw [Nat.cast_mul, Int.toNat_of_nonneg nonnegative]
        exact_mod_cast law r pubkey.n rInvSigned inverted

/-- An accepted token is a root of the request's message. -/
theorem unblindAndVerify_ok {sBlind token : Nat} (accepted : unblindAndVerify pubkey req sBlind = .ok token) :
    token < pubkey.n ∧ token ^ pubkey.e % pubkey.n = req.m := by
  simp only [unblindAndVerify, modpow_eq] at accepted
  split_ifs at accepted with oversized wrong
  cases accepted
  exact ⟨Nat.mod_lt _ (by omega), Decidable.not_not.mp wrong⟩

/-- A signature that unblinds to a root is accepted. -/
theorem unblindAndVerify_of_root {sBlind : Nat} (small : sBlind < pubkey.n)
    (root : (sBlind * req.rInv % pubkey.n) ^ pubkey.e % pubkey.n = req.m) :
    unblindAndVerify pubkey req sBlind = .ok (sBlind * req.rInv % pubkey.n) := by
  simp only [unblindAndVerify, modpow_eq]
  rw [if_neg (Nat.not_le.mpr small), if_neg (not_not.mpr root)]

/-- A number that fits is written at exactly the given width, and reads back. -/
theorem tokenToWire_of_lt {token width : Nat} (positive : 0 < width) (fits : token < 256 ^ width) :
    (tokenToWire token width).length = width ∧ BigEndian.toNat (tokenToWire token width) = token := by
  have short := BigEndian.length_minimal_le token width positive fits
  simp only [tokenToWire]
  split_ifs with full
  · exact ⟨Nat.le_antisymm short full, BigEndian.toNat_minimal token⟩
  · refine ⟨?_, by rw [BigEndian.toNat_replicate_zero_append, BigEndian.toNat_minimal]⟩
    rw [List.length_append, List.length_replicate]
    omega

end Spec

end Client
end QuietHop
