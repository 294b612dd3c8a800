import Mathlib.Data.Set.Card
import QuietHop.Client.Tokens

namespace QuietHop
namespace Client

open Lib Lib.Rsa

/-!
# What the authority learns from a blinded request

Blinding by a unit permutes the units, and the loop in `blind` turns down only the residues
below two and those without an inverse.  So any unit the authority is shown, other than the
message itself, is explained by exactly one draw, whatever the message was.
-/

section Hiding

variable (modInverse : Nat -> Nat -> Option Int) (pubkey : RsaPublicKey)

/-- An inverse is found, and is not negative, whenever there is one. -/
def InverseTotal : Prop :=
  forall r n, 1 < n -> r.Coprime n -> ∃ inverse, modInverse r n = some inverse ∧ 0 ≤ inverse

/-- A draw the loop accepts for a message and that makes it send `b`. -/
def Explains (m b r : Nat) : Prop :=
  r < pubkey.n ∧ ∃ req, blindMessage modInverse pubkey m r = some req ∧ req.blinded = b

variable {modInverse pubkey}

/-- The three rejections of the loop turn down no unit but one. -/
theorem blindMessage_of_coprime (law : InverseLaw modInverse) (total : InverseTotal modInverse) {m r : Nat}
    (large : 2 ≤ r) (small : r < pubkey.n) (unit : r.Coprime pubkey.n) :
    ∃ rInv, blindMessage modInverse pubkey m r = some ⟨m * r ^ pubkey.e % pubkey.n, rInv, m⟩ := by
  rcases total r pubkey.n (by omega) unit with ⟨inverse, found, nonnegative⟩
  have product := law r pubkey.n inverse found
  have other : inverse.toNat ≠ 1 := by
    intro one
    have isOne : inverse = 1 := by omega
    rw [isOne, mul_one] at product
    have same : r ≡ 1 [MOD pubkey.n] := Int.natCast_modEq_iff.mp (by exact_mod_cast product)
    have equal := same.eq_of_lt_of_lt small (by omega)
    omega
  refine ⟨inverse.toNat, ?_⟩
  simp only [blindMessage, if_neg (not_lt.mpr large), found, toBiguint, if_pos nonnegative, if_neg other, modpow_eq,
    Nat.mul_mod_mod]

theorem blinded_of_blindMessage {m r : Nat} {req : BlindedRequest}
    (accepted : blindMessage modInverse pubkey m r = some req) : req.blinded = m * r ^ pubkey.e % pubkey.n := by
  simp only [blindMessage] at accepted
  split_ifs at accepted with tiny
  split at accepted
  · cases accepted
  · split at accepted
    · cases accepted
    · split_ifs at accepted with trivialInverse
      cases accepted
      simp only [modpow_eq, Nat.mul_mod_mod]

theorem explains_iff (law : InverseLaw modInverse) (total : InverseTotal modInverse) {m b r : Nat}
    (messageSmall : m < pubkey.n) (valueUnit : b.Coprime pubkey.n) (other : b ≠ m) (large : 1 < pubkey.n)
    (exponent : pubkey.e ≠ 0) :
    Explains modInverse pubkey m b r ↔ r < pubkey.n ∧ m * r ^ pubkey.e % pubkey.n = b := by
  constructor
  · rintro ⟨small, req, accepted, rfl⟩
    exact ⟨small, (blinded_of_blindMessage accepted).symm⟩
  · rintro ⟨small, rfl⟩
    have product : (m * r ^ pubkey.e).Coprime pubkey.n := by
      rw [Nat.Coprime, Nat.gcd_comm, Nat.gcd_rec]
      exact valueUnit
    have unit : r.Coprime pubkey.n := (Nat.coprime_pow_left_iff (Nat.pos_of_ne_zero exponent) _ _).mp
      (Nat.Coprime.coprime_mul_left product)
    have notZero : r ≠ 0 := by
      rintro rfl
      have one : pubkey.n = 1 := (Nat.coprime_zero_left _).mp unit
      omega
    have notOne : r ≠ 1 := by
      rintro rfl
      rw [Nat.one_pow, Nat.mul_one, Nat.mod_eq_of_lt messageSmall] at other
      exact other rfl
    rcases blindMessage_of_coprime law total (by omega) small unit with ⟨rInv, accepted⟩
    exact ⟨small, _, accepted, rfl⟩

end Hiding

/-- For every unit message exactly one draw explains a unit other than it, so two messages
are explained by equally many draws; and what the loop sends is explained by the draw it
accepted. -/
theorem blinding_hides {modInverse : Nat -> Nat -> Option Int} (law : InverseLaw modInverse)
    (total : InverseTotal modInverse) {p q e : Nat} (primeP : p.Prime) (primeQ : q.Prime) (distinct : p ≠ q)
    (coprime : e.Coprime ((p - 1) * (q - 1))) :
    (forall m b, m < p * q -> m.Coprime (p * q) -> b < p * q -> b.Coprime (p * q) -> b ≠ m ->
      ∃! r, Explains modInverse ⟨p * q, e⟩ m b r) ∧
    (forall first second b, first < p * q -> first.Coprime (p * q) -> second < p * q -> second.Coprime (p * q) ->
      b < p * q -> b.Coprime (p * q) -> b ≠ first -> b ≠ second ->
      Set.ncard { r | Explains modInverse ⟨p * q, e⟩ first b r } =
        Set.ncard { r | Explains modInverse ⟨p * q, e⟩ second b r }) ∧
    (forall sha256 mRaw draws req, (∀ r ∈ draws, r < p * q) ->
      blind sha256 modInverse ⟨p * q, e⟩ mRaw draws = some req ->
      ∃ r ∈ draws, Explains modInverse ⟨p * q, e⟩ (BigEndian.toNat (sha256 mRaw).val % (p * q)) req.blinded r) := by
  rcases KeyPair.exists_of_coprime primeP primeQ distinct coprime with ⟨key, rfl, rfl, rfl⟩
  have large : 1 < key.p * key.q := key.one_lt_n
  have exponent : key.e ≠ 0 := by
    intro zero
    rw [zero, Nat.coprime_zero_left] at coprime
    have factors := mul_eq_one.mp coprime
    have boundP := primeP.two_le
    have boundQ := primeQ.two_le
    exact distinct (by omega)
  have unique : forall m b, m < key.p * key.q -> m.Coprime (key.p * key.q) -> b < key.p * key.q ->
      b.Coprime (key.p * key.q) -> b ≠ m -> ∃! r, Explains modInverse ⟨key.p * key.q, key.e⟩ m b r := by
    intro m b messageSmall messageUnit valueSmall valueUnit other
    have same := fun r => @explains_iff modInverse ⟨key.p * key.q, key.e⟩ law total m b r messageSmall valueUnit
      other large exponent
    simp only [same]
    exact key.exists_unique_factor messageUnit valueSmall
  have count : forall m b, m < key.p * key.q -> m.Coprime (key.p * key.q) -> b < key.p * key.q ->
      b.Coprime (key.p * key.q) -> b ≠ m ->
      Set.ncard { r | Explains modInverse ⟨key.p * key.q, key.e⟩ m b r } = 1 := by
    intro m b messageSmall messageUnit valueSmall valueUnit other
    rcases unique m b messageSmall messageUnit valueSmall valueUnit other with ⟨r, explains, only⟩
    apply Set.ncard_eq_one.mpr
    refine ⟨r, ?_⟩
    ext found
    exact ⟨only found, fun isR => isR ▸ explains⟩
  refine ⟨unique, ?_, ?_⟩
  · intro first second b firstSmall firstUnit secondSmall secondUnit valueSmall valueUnit notFirst notSecond
    rw [count first b firstSmall firstUnit valueSmall valueUnit notFirst,
      count second b secondSmall secondUnit valueSmall valueUnit notSecond]
  · intro sha256 mRaw draws req below returned
    rcases List.exists_of_findSome?_eq_some returned with ⟨r, member, chosen⟩
    exact ⟨r, member, below r member, req, chosen, rfl⟩

theorem Sample.inverseTotal : InverseTotal Sample.modInverse := by
  intro r n large unit
  refine ⟨Nat.gcdA r n % n, if_pos unit, ?_⟩
  exact Int.emod_nonneg _ (by omega)

/-- A request for 7 modulo 33 could as well be for 2 or for 5. -/
theorem blinding_hides_thirty_three :
    Set.ncard { r | Explains Sample.modInverse ⟨3 * 11, 3⟩ 2 7 r } =
      Set.ncard { r | Explains Sample.modInverse ⟨3 * 11, 3⟩ 5 7 r } :=
  (blinding_hides Sample.inverseLaw Sample.inverseTotal (by decide) (by decide) (by decide) (by decide)).2.1 2 5 7
    (by decide) (by decide) (by decide) (by decide) (by decide) (by decide) (by decide) (by decide)

end Client
end QuietHop
