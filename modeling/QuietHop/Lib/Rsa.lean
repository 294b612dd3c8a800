import Mathlib.FieldTheory.Finite.Basic
import QuietHop.Lib.BigEndian

namespace QuietHop
namespace Lib

/-!
# Raw RSA signatures on digests

A signature without padding: the digest is read as a number, and a signature of it
is an `e`-th root modulo `n`.  Powers are computed by repeated squaring.
-/

/-- The output of a hash function with 32-byte digests. -/
abbrev Digest := { bytes : Bytes // bytes.length = 32 }

namespace Rsa

/-- The modulus and the public exponent. -/
structure RsaPublicKey where
  n : Nat
  e : Nat
  deriving DecidableEq

/-- A residue whose `e`-th power is the digest. -/
def IsRoot (key : RsaPublicKey) (digest : Digest) (root : Nat) : Prop :=
  root < key.n ∧ root ^ key.e % key.n = BigEndian.toNat digest.val

theorem digest_lt (digest : Digest) : BigEndian.toNat digest.val < 2 ^ 256 := by
  have small := BigEndian.toNat_lt digest.val
  rw [digest.property] at small
  exact small

/-! ## Modular powers -/

/-- Square and multiply.  The exponent halves at every call, so it also serves as
the bound on the number of calls. -/
def modpowWithin (modulus : Nat) : (bound base exponent : Nat) -> Nat
  | 0, _, _ => 1 % modulus
  | bound + 1, base, exponent =>
      if exponent = 0 then 1 % modulus
      else if exponent % 2 = 0 then modpowWithin modulus bound (base * base % modulus) (exponent / 2)
      else base * modpowWithin modulus bound (base * base % modulus) (exponent / 2) % modulus

/-- `base ^ exponent` reduced by `modulus`. -/
def modpow (base exponent modulus : Nat) : Nat :=
  modpowWithin modulus exponent base exponent

theorem modpowWithin_eq (modulus bound base exponent : Nat) (enough : exponent ≤ bound) :
    modpowWithin modulus bound base exponent = base ^ exponent % modulus := by
  induction bound generalizing base exponent with
  | zero =>
      rw [Nat.le_zero.mp enough]
      rfl
  | succ bound ih =>
      rw [modpowWithin]
      split_ifs with zero even
      · rw [zero, Nat.pow_zero]
      · rw [ih _ _ (by omega), ← Nat.pow_mod, ← Nat.pow_two, ← Nat.pow_mul]
        rw [show 2 * (exponent / 2) = exponent by omega]
      · rw [ih _ _ (by omega), ← Nat.pow_mod, Nat.mul_mod_mod, ← Nat.pow_two, ← Nat.pow_mul, ← Nat.pow_succ']
        rw [show (2 * (exponent / 2)).succ = exponent by omega]

theorem modpow_eq (base exponent modulus : Nat) :
    modpow base exponent modulus = base ^ exponent % modulus :=
  modpowWithin_eq modulus exponent base exponent (Nat.le_refl _)

/-! ## Key pairs -/

/-- Two distinct primes with exponents that are inverse to each other modulo
`lcm (p - 1) (q - 1)`. -/
structure KeyPair where
  p : Nat
  q : Nat
  e : Nat
  d : Nat
  prime_p : p.Prime
  prime_q : q.Prime
  distinct : p ≠ q
  inverse : e * d ≡ 1 [MOD Nat.lcm (p - 1) (q - 1)]

namespace KeyPair

def n (key : KeyPair) : Nat := key.p * key.q

def publicKey (key : KeyPair) : RsaPublicKey := ⟨key.n, key.e⟩

end KeyPair

/-- Fermat's theorem for an exponent that is one modulo `p - 1`, without asking the
base to be prime to `p`. -/
theorem pow_modEq_self_of_prime {p exponent : Nat} (prime : p.Prime) (positive : exponent ≠ 0)
    (one : exponent ≡ 1 [MOD p - 1]) (base : Nat) : base ^ exponent ≡ base [MOD p] := by
  by_cases divides : p ∣ base
  · have zero := (Nat.modEq_zero_iff_dvd).mpr divides
    calc base ^ exponent ≡ 0 ^ exponent [MOD p] := zero.pow exponent
      _ = 0 := Nat.zero_pow (Nat.pos_of_ne_zero positive)
      _ ≡ base [MOD p] := zero.symm
  · have coprime : Nat.Coprime base p := (Nat.coprime_comm.mp ((Nat.Prime.coprime_iff_not_dvd prime).mpr divides))
    rcases (Nat.modEq_iff_dvd' (Nat.one_le_iff_ne_zero.mpr positive)).mp one.symm with ⟨count, equal⟩
    have shape : exponent = 1 + (p - 1) * count := by omega
    have fermat : base ^ (p - 1) ≡ 1 [MOD p] := by
      rw [← Nat.totient_prime prime]
      exact Nat.ModEq.pow_totient coprime
    calc base ^ exponent = base * (base ^ (p - 1)) ^ count := by rw [shape, Nat.pow_add, Nat.pow_one, Nat.pow_mul]
      _ ≡ base * 1 ^ count [MOD p] := (fermat.pow count).mul_left base
      _ = base := by rw [Nat.one_pow, Nat.mul_one]

/-- The two exponents undo each other on every residue, also on those that share a
factor with the modulus. -/
theorem KeyPair.pow_modEq_self (key : KeyPair) (base : Nat) : base ^ (key.e * key.d) ≡ base [MOD key.n] := by
  have positive : key.e * key.d ≠ 0 := by
    intro zero
    have unit := key.inverse
    rw [zero] at unit
    have divides := (Nat.modEq_zero_iff_dvd).mp unit.symm
    have first := Nat.le_of_dvd Nat.one_pos ((Nat.dvd_lcm_left _ _).trans divides)
    have second := Nat.le_of_dvd Nat.one_pos ((Nat.dvd_lcm_right (key.p - 1) _).trans divides)
    have boundP := key.prime_p.two_le
    have boundQ := key.prime_q.two_le
    exact key.distinct (by omega)
  have coprime : Nat.Coprime key.p key.q := (Nat.coprime_primes key.prime_p key.prime_q).mpr key.distinct
  apply (Nat.modEq_and_modEq_iff_modEq_mul coprime).mp
  constructor
  · exact pow_modEq_self_of_prime key.prime_p positive (key.inverse.of_dvd (Nat.dvd_lcm_left _ _)) base
  · exact pow_modEq_self_of_prime key.prime_q positive (key.inverse.of_dvd (Nat.dvd_lcm_right _ _)) base

/-- Any exponent prime to `(p - 1) * (q - 1)` belongs to a key pair. -/
theorem KeyPair.exists_of_coprime {p q e : Nat} (primeP : p.Prime) (primeQ : q.Prime) (distinct : p ≠ q)
    (coprime : e.Coprime ((p - 1) * (q - 1))) : ∃ key : KeyPair, key.p = p ∧ key.q = q ∧ key.e = e := by
  have boundP := primeP.two_le
  have boundQ := primeQ.two_le
  have large : 1 < (p - 1) * (q - 1) := by
    rcases Nat.lt_or_gt_of_ne distinct with less | greater
    · exact Nat.one_lt_mul_iff.mpr ⟨by omega, by omega, Or.inr (by omega)⟩
    · exact Nat.one_lt_mul_iff.mpr ⟨by omega, by omega, Or.inl (by omega)⟩
  rcases Nat.exists_mul_mod_eq_one_of_coprime coprime large with ⟨d, -, inverse⟩
  have undo : e * d ≡ 1 [MOD (p - 1) * (q - 1)] := by
    rw [Nat.ModEq, inverse, Nat.mod_eq_of_lt large]
  have divides : Nat.lcm (p - 1) (q - 1) ∣ (p - 1) * (q - 1) := Nat.lcm_dvd_mul _ _
  exact ⟨⟨p, q, e, d, primeP, primeQ, distinct, undo.of_dvd divides⟩, rfl, rfl, rfl⟩

theorem KeyPair.one_lt_n (key : KeyPair) : 1 < key.n :=
  Nat.one_lt_mul_iff.mpr ⟨key.prime_p.pos, key.prime_q.pos, Or.inl key.prime_p.one_lt⟩

/-- Every value is the blinding of a given unit message by exactly one residue. -/
theorem KeyPair.exists_unique_factor (key : KeyPair) {m b : Nat} (unit : m.Coprime key.n) (small : b < key.n) :
    ∃! r, r < key.n ∧ m * r ^ key.e % key.n = b := by
  rcases Nat.exists_mul_mod_eq_one_of_coprime unit key.one_lt_n with ⟨mInv, -, inverse⟩
  have cancels : m * mInv ≡ 1 [MOD key.n] := by
    rw [Nat.ModEq, inverse, Nat.mod_eq_of_lt key.one_lt_n]
  refine ⟨(mInv * b) ^ key.d % key.n, ⟨Nat.mod_lt _ (by omega), ?_⟩, ?_⟩
  · have explains : m * ((mInv * b) ^ key.d % key.n) ^ key.e ≡ b [MOD key.n] := by
      calc m * ((mInv * b) ^ key.d % key.n) ^ key.e
          ≡ m * ((mInv * b) ^ key.d) ^ key.e [MOD key.n] := ((Nat.mod_modEq _ _).pow key.e).mul_left m
        _ = m * (mInv * b) ^ (key.e * key.d) := by rw [← Nat.pow_mul, Nat.mul_comm key.d]
        _ ≡ m * (mInv * b) [MOD key.n] := (key.pow_modEq_self _).mul_left m
        _ = m * mInv * b := (Nat.mul_assoc _ _ _).symm
        _ ≡ 1 * b [MOD key.n] := cancels.mul_right b
        _ = b := Nat.one_mul b
    rw [explains, Nat.mod_eq_of_lt small]
  · rintro r ⟨below, explains⟩
    have power : r ^ key.e ≡ mInv * b [MOD key.n] := by
      calc r ^ key.e = 1 * r ^ key.e := (Nat.one_mul _).symm
        _ ≡ m * mInv * r ^ key.e [MOD key.n] := cancels.symm.mul_right _
        _ = mInv * (m * r ^ key.e) := by rw [Nat.mul_comm m, Nat.mul_assoc]
        _ ≡ mInv * b [MOD key.n] := by
          apply Nat.ModEq.mul_left
          rw [Nat.ModEq, explains, Nat.mod_eq_of_lt small]
    have root : r ≡ (mInv * b) ^ key.d [MOD key.n] := by
      calc r ≡ r ^ (key.e * key.d) [MOD key.n] := (key.pow_modEq_self r).symm
        _ = (r ^ key.e) ^ key.d := Nat.pow_mul ..
        _ ≡ (mInv * b) ^ key.d [MOD key.n] := power.pow key.d
    rw [← root, Nat.mod_eq_of_lt below]

/-! ## Blinding -/

section Blinding

variable {n e d m r rInv : Nat}

/-- Signing a blinded message and dividing the blinding out leaves a root of the
message. -/
theorem unblind_modEq (undo : forall base, base ^ (e * d) ≡ base [MOD n]) (inverse : r * rInv ≡ 1 [MOD n]) :
    ((m * r ^ e % n) ^ d % n * rInv % n) ^ e ≡ m [MOD n] := by
  have signed : (m * r ^ e % n) ^ d % n ≡ m ^ d * r [MOD n] := by
    calc (m * r ^ e % n) ^ d % n ≡ (m * r ^ e % n) ^ d [MOD n] := Nat.mod_modEq _ _
      _ ≡ (m * r ^ e) ^ d [MOD n] := (Nat.mod_modEq _ _).pow d
      _ = m ^ d * r ^ (e * d) := by rw [Nat.mul_pow, ← Nat.pow_mul]
      _ ≡ m ^ d * r [MOD n] := (undo r).mul_left _
  have unblinded : (m * r ^ e % n) ^ d % n * rInv % n ≡ m ^ d [MOD n] := by
    calc (m * r ^ e % n) ^ d % n * rInv % n ≡ (m * r ^ e % n) ^ d % n * rInv [MOD n] := Nat.mod_modEq _ _
      _ ≡ m ^ d * r * rInv [MOD n] := signed.mul_right rInv
      _ = m ^ d * (r * rInv) := Nat.mul_assoc _ _ _
      _ ≡ m ^ d * 1 [MOD n] := inverse.mul_left _
      _ = m ^ d := Nat.mul_one _
  calc ((m * r ^ e % n) ^ d % n * rInv % n) ^ e ≡ (m ^ d) ^ e [MOD n] := unblinded.pow e
    _ = m ^ (e * d) := by rw [← Nat.pow_mul, Nat.mul_comm]
    _ ≡ m [MOD n] := undo m

/-- A blinded message is not zero, because the blinding is a unit. -/
theorem blinded_ne_zero (inverse : r * rInv ≡ 1 [MOD n]) (nonzero : m ≠ 0) (small : m < n) :
    m * r ^ e % n ≠ 0 := by
  intro zero
  have message : m ≡ 0 [MOD n] := by
    calc m = m * 1 ^ e := by rw [Nat.one_pow, Nat.mul_one]
      _ ≡ m * (r * rInv) ^ e [MOD n] := (inverse.symm.pow e).mul_left m
      _ = m * r ^ e * rInv ^ e := by rw [Nat.mul_pow, Nat.mul_assoc]
      _ ≡ 0 * rInv ^ e [MOD n] := (show m * r ^ e ≡ 0 [MOD n] from zero).mul_right _
      _ = 0 := Nat.zero_mul _
  have equal := message.eq_of_lt_of_lt small (by omega)
  exact nonzero equal

end Blinding

end Rsa
end Lib
end QuietHop
