import Mathlib.NumberTheory.LucasPrimality
import Mathlib.Tactic.NormNum.Prime
import QuietHop.Authority.Sign
import QuietHop.Client.Blind
import QuietHop.Relay.Token

namespace QuietHop
namespace Client

open Lib Lib.Rsa Net

/-!
# Token issuance, from the client's request to the relay's check

`tokens::issue` sends the blinded digest as minimal hex, reads the signature back
from hex, and pads the unblinded token to the width of the modulus.  The main
result follows one token through the client, the authority and the relay.
-/

/-! ## Hex as the client writes and reads it -/

/-- The ASCII code of a digit, and a question mark for what is no digit. -/
def nibble (n : UInt8) : UInt8 :=
  if n ≤ 9 then 48 + n else if n ≤ 15 then 97 + n - 10 else 63

def hexLower (bytes : Bytes) : String :=
  ofAscii (bytes.flatMap fun (b : UInt8) => [nibble (b >>> 4), nibble (b &&& 0x0f)])

def hexNibble (c : UInt8) : Except ClientError UInt8 :=
  if 48 ≤ c ∧ c ≤ 57 then .ok (c - 48)
  else if 97 ≤ c ∧ c ≤ 102 then .ok (c - 97 + 10)
  else if 65 ≤ c ∧ c ≤ 70 then .ok (c - 65 + 10)
  else .error (.invalidResponse ("bad hex byte 0x" ++ hexLower [c]))

/-- The loop over the exact chunks of two. -/
def hexChunks : Bytes -> Except ClientError Bytes
  | high :: low :: rest =>
      match hexNibble high with
      | .error reason => .error reason
      | .ok hi =>
          match hexNibble low with
          | .error reason => .error reason
          | .ok lo => (hexChunks rest).map fun tail => (hi <<< 4 ||| lo) :: tail
  | _ => .ok []

def hexDecode (s : String) : Except ClientError Bytes :=
  if (asBytes s).length % 2 ≠ 0 then .error (.invalidResponse "hex length odd") else hexChunks (asBytes s)

theorem hexLower_eq (bytes : Bytes) : hexLower bytes = ofAscii (Hex.encode bytes) := by
  have digits : forall byte : UInt8, [nibble (byte >>> 4), nibble (byte &&& 0x0f)] = Hex.pair byte := by
    apply Hex.forall_byte
    decide +kernel
  rw [hexLower, Hex.encode]
  exact congrArg ofAscii (List.flatMap_congr fun byte _ => digits byte)

theorem hexChunks_encode (bytes : Bytes) : hexChunks (Hex.encode bytes) = .ok bytes := by
  have halves : forall byte : UInt8, hexNibble (Hex.digit (byte >>> 4)) = .ok (byte >>> 4) ∧
      hexNibble (Hex.digit (byte &&& 15)) = .ok (byte &&& 15) := by
    apply Hex.forall_byte
    decide +kernel
  induction bytes with
  | nil => rfl
  | cons byte bytes ih =>
      have step : Hex.encode (byte :: bytes) =
          Hex.digit (byte >>> 4) :: Hex.digit (byte &&& 15) :: Hex.encode bytes := rfl
      rw [step, hexChunks, (halves byte).1, (halves byte).2, ih]
      simp only [Except.map, (Hex.value_halves byte).2.2]

/-- The client reads what the authority writes. -/
theorem hexDecode_encodeToString (bytes : Bytes) : hexDecode (Authority.encodeToString bytes) = .ok bytes := by
  have even : ¬ (Hex.encode bytes).length % 2 ≠ 0 := by
    rw [Hex.length_encode]
    omega
  rw [hexDecode, Authority.encodeToString, asBytes_ofAscii (Hex.encode_ascii bytes), if_neg even, hexChunks_encode]

/-! ## Issuance -/

/-- How the request to the authority can end. -/
inductive Reply where
  /-- The endpoint could not be joined to the authority's URL. -/
  | urlError (text : String)
  /-- The request failed, or a successful answer was no issue response. -/
  | httpError (text : String)
  | status (code : Nat) (body : String)
  | signed (signed : String)

/-- `issue`, with the preimage and the draws as the generator gives them and the
authority as a function of the request. -/
def issue (sha256 : Bytes -> Digest) (modInverse : Nat -> Nat -> Option Int) (pubkey : RsaPublicKey)
    (mRaw : Bytes) (draws : List Nat) (authority : String -> Reply) :
    Option (Except ClientError (Bytes × Bytes)) :=
  match blind sha256 modInverse pubkey mRaw draws with
  | none => none
  | some req =>
      some <| match authority (hexLower (BigEndian.minimal req.blinded)) with
        | .urlError text => .error (.invalidResponse s!"authority url join /issue: {text}")
        | .httpError text => .error (.http text)
        | .status code body => .error (.authorityStatus code body)
        | .signed signed =>
            match hexDecode signed with
            | .error reason => .error reason
            | .ok signedBytes =>
                match unblindAndVerify pubkey req (BigEndian.toNat signedBytes) with
                | .error reason => .error reason
                | .ok tokenInt => .ok (mRaw, tokenToWire tokenInt (BigEndian.byteLength pubkey.n))

/-- The authority as `HandleIssue` runs it for an active subscriber. -/
def honest (key : KeyPair) (blinded : String) : Reply :=
  match Authority.issueSigned (.ofKeyPair key) blinded with
  | .error reason => .status 400 reason
  | .ok signed => .signed signed

section Issue

variable {sha256 : Bytes -> Digest} {modInverse : Nat -> Nat -> Option Int} {pubkey : RsaPublicKey}
variable {mRaw : Bytes} {draws : List Nat}

/-- A digest is its own residue. -/
theorem digest_mod (bits : pubkey.n.size = 2048) (digest : Digest) :
    BigEndian.toNat digest.val % pubkey.n = BigEndian.toNat digest.val := by
  have large : 2 ^ 256 ≤ pubkey.n := Nat.lt_size.mp (by rw [bits]; decide)
  exact Nat.mod_eq_of_lt (Nat.lt_of_lt_of_le (digest_lt digest) large)

/-- The relay accepts a root at the width of the modulus. -/
theorem relay_accepts (bits : pubkey.n.size = 2048) {token : Nat} (small : token < pubkey.n)
    (root : token ^ pubkey.e % pubkey.n = BigEndian.toNat (sha256 mRaw).val) :
    (tokenToWire token (BigEndian.byteLength pubkey.n)).length = Wire.tokenLen ∧
    forall now window,
      ExpiringSet.containsKey window.inner
        (sha256 (tokenToWire token (BigEndian.byteLength pubkey.n))) = false ->
      (Relay.verify sha256 mRaw (tokenToWire token (BigEndian.byteLength pubkey.n)) pubkey now window).1 = .ok () := by
  have width : BigEndian.byteLength pubkey.n = 256 := by rw [BigEndian.byteLength, bits]
  have fits := Nat.lt_trans small (BigEndian.lt_pow_byteLength pubkey.n)
  rw [width] at fits ⊢
  rcases tokenToWire_of_lt (by omega) fits with ⟨length, value⟩
  refine ⟨length, ?_⟩
  intro now window absent
  apply Relay.verify_of_absent _ absent
  apply (Relay.checkSignature_ok_iff (by rw [width, length])).mpr
  rw [value]
  exact ⟨small, root⟩

/-- Whatever the authority answers, an issued token is one the relay accepts. -/
theorem issue_sound (law : InverseLaw modInverse) (bits : pubkey.n.size = 2048) {authority : String -> Reply}
    {preimage token : Bytes}
    (issued : issue sha256 modInverse pubkey mRaw draws authority = some (.ok (preimage, token))) :
    preimage = mRaw ∧ token.length = Wire.tokenLen ∧
    forall now window, ExpiringSet.containsKey window.inner (sha256 token) = false ->
      (Relay.verify sha256 preimage token pubkey now window).1 = .ok () := by
  rw [issue] at issued
  cases chosen : blind sha256 modInverse pubkey mRaw draws with
  | none => simp [chosen] at issued
  | some req =>
      rcases blind_spec law chosen with ⟨r, message, _, _⟩
      simp only [chosen, Option.some.injEq] at issued
      split at issued
      · cases issued
      · cases issued
      · cases issued
      · split at issued
        · cases issued
        · split at issued
          · cases issued
          next tokenInt accepted =>
            cases issued
            rcases unblindAndVerify_ok accepted with ⟨small, root⟩
            rw [message, digest_mod bits] at root
            exact ⟨rfl, relay_accepts bits small root⟩

end Issue

/-- With the authority's own signer every request is signed, and the answer is
accepted as a token. -/
theorem issue_honest {sha256 : Bytes -> Digest} {modInverse : Nat -> Nat -> Option Int} (law : InverseLaw modInverse)
    (key : KeyPair) (bits : key.n.size = 2048) {mRaw : Bytes} {draws : List Nat} {req : BlindedRequest}
    (nonzero : BigEndian.toNat (sha256 mRaw).val ≠ 0)
    (chosen : blind sha256 modInverse key.publicKey mRaw draws = some req) :
    ∃ sig tokenInt,
      Authority.issueSigned (.ofKeyPair key) (hexLower (BigEndian.minimal req.blinded)) =
        .ok (Authority.encodeToString sig) ∧
      unblindAndVerify key.publicKey req (BigEndian.toNat sig) = .ok tokenInt ∧
      issue sha256 modInverse key.publicKey mRaw draws (honest key) =
        some (.ok (mRaw, tokenToWire tokenInt (BigEndian.byteLength key.n))) := by
  rcases blind_spec law chosen with ⟨r, message, blinded, inverse⟩
  have digest : BigEndian.toNat (sha256 mRaw).val % key.publicKey.n = BigEndian.toNat (sha256 mRaw).val :=
    digest_mod bits (sha256 mRaw)
  have positive : 0 < key.n := Nat.mul_pos key.prime_p.pos key.prime_q.pos
  have reduced : req.m < key.n := by
    rw [message]
    exact Nat.mod_lt _ positive
  have inRange : req.blinded < key.n := by
    rw [blinded]
    exact Nat.mod_lt _ positive
  have unit : req.blinded ≠ 0 := by
    rw [blinded]
    exact blinded_ne_zero inverse (by rw [message, digest]; exact nonzero) reduced
  have signed : Authority.issueSigned (.ofKeyPair key) (hexLower (BigEndian.minimal req.blinded)) =
      .ok (Authority.encodeToString
        (BigEndian.ofNat (BigEndian.byteLength key.n) (modpow req.blinded key.d key.n))) := by
    rw [hexLower_eq]
    exact Authority.issueSigned_minimal unit inRange
  -- the signature as a number
  have fits : modpow req.blinded key.d key.n < 256 ^ BigEndian.byteLength key.n := by
    rw [modpow_eq]
    exact Nat.lt_trans (Nat.mod_lt _ positive) (BigEndian.lt_pow_byteLength key.n)
  have value := BigEndian.toNat_ofNat _ _ fits
  have accepted : unblindAndVerify key.publicKey req (modpow req.blinded key.d key.n) =
      .ok (modpow req.blinded key.d key.n * req.rInv % key.n) := by
    apply unblindAndVerify_of_root
    · rw [modpow_eq]
      exact Nat.mod_lt _ positive
    · have root := unblind_modEq (m := req.m) key.pow_modEq_self inverse
      rw [modpow_eq, blinded]
      exact Nat.mod_eq_of_modEq root reduced
  rw [← value] at accepted
  refine ⟨_, _, signed, accepted, ?_⟩
  rw [issue, chosen]
  simp only [honest, signed, hexDecode_encodeToString, accepted]
  rfl

/-- One token followed through client, authority and relay.  With a proper key every
request is signed, the answer unblinds, the wire form has its fixed length, and the
relay accepts it; and no authority, honest or not, can make the client keep a token
that the relay would refuse. -/
theorem blind_token_pipeline (sha256 : Bytes -> Digest) (modInverse : Nat -> Nat -> Option Int)
    (law : InverseLaw modInverse) :
    (forall (key : KeyPair) (mRaw : Bytes) (draws : List Nat) (req : BlindedRequest),
      key.n.size = 2048 -> BigEndian.toNat (sha256 mRaw).val ≠ 0 ->
      blind sha256 modInverse key.publicKey mRaw draws = some req ->
      ∃ sig tokenInt,
        Authority.issueSigned (.ofKeyPair key) (hexLower (BigEndian.minimal req.blinded)) =
          .ok (Authority.encodeToString sig) ∧
        unblindAndVerify key.publicKey req (BigEndian.toNat sig) = .ok tokenInt ∧
        (tokenToWire tokenInt (BigEndian.byteLength key.n)).length = Wire.tokenLen ∧
        issue sha256 modInverse key.publicKey mRaw draws (honest key) =
          some (.ok (mRaw, tokenToWire tokenInt (BigEndian.byteLength key.n))) ∧
        forall now window,
          ExpiringSet.containsKey window.inner
            (sha256 (tokenToWire tokenInt (BigEndian.byteLength key.n))) = false ->
          (Relay.verify sha256 mRaw (tokenToWire tokenInt (BigEndian.byteLength key.n)) key.publicKey now window).1 =
            .ok ()) ∧
    (forall (pubkey : RsaPublicKey) (mRaw : Bytes) (draws : List Nat) (authority : String -> Reply)
      (preimage token : Bytes), pubkey.n.size = 2048 ->
      issue sha256 modInverse pubkey mRaw draws authority = some (.ok (preimage, token)) ->
      preimage = mRaw ∧ token.length = Wire.tokenLen ∧
      forall now window, ExpiringSet.containsKey window.inner (sha256 token) = false ->
        (Relay.verify sha256 preimage token pubkey now window).1 = .ok ()) := by
  constructor
  · intro key mRaw draws req bits nonzero chosen
    rcases issue_honest law key bits nonzero chosen with ⟨sig, tokenInt, signed, accepted, issued⟩
    rcases issue_sound law bits issued with ⟨_, length, accepts⟩
    exact ⟨sig, tokenInt, signed, accepted, length, issued, accepts⟩
  · intro pubkey mRaw draws authority preimage token bits issued
    exact issue_sound law bits issued

/-! ## The sample key -/

namespace Sample

open Relay.Sample

/-- Lucas's test for a prime of the form `k * 2 ^ m + 1`: only two primes divide its
predecessor. -/
theorem prime_of_order {k m a : Nat} (prime : k.Prime) (order : modpow a (k * 2 ^ m) (k * 2 ^ m + 1) = 1)
    (half : modpow a (k * 2 ^ m / 2) (k * 2 ^ m + 1) ≠ 1)
    (part : modpow a (k * 2 ^ m / k) (k * 2 ^ m + 1) ≠ 1) : (k * 2 ^ m + 1).Prime := by
  have large : 1 < k * 2 ^ m + 1 := Nat.lt_add_of_pos_left (Nat.mul_pos prime.pos (Nat.two_pow_pos m))
  have power : forall exponent, (a : ZMod (k * 2 ^ m + 1)) ^ exponent = 1 ↔
      modpow a exponent (k * 2 ^ m + 1) = 1 := by
    intro exponent
    have unit : ((1 : Nat) : ZMod (k * 2 ^ m + 1)) = 1 := Nat.cast_one
    rw [modpow_eq, ← Nat.cast_pow, ← unit, ZMod.natCast_eq_natCast_iff', Nat.mod_eq_of_lt large]
  apply lucas_primality _ (a : ZMod (k * 2 ^ m + 1))
  · rw [Nat.add_sub_cancel, power]
    exact order
  · intro q isPrime divides
    rw [Nat.add_sub_cancel] at divides ⊢
    rw [Ne, power]
    rcases (Nat.Prime.dvd_mul isPrime).mp divides with left | right
    · rw [(Nat.prime_dvd_prime_iff_eq isPrime prime).mp left]
      exact part
    · rw [(Nat.prime_dvd_prime_iff_eq isPrime Nat.prime_two).mp (isPrime.dvd_of_dvd_pow right)]
      exact half

theorem prime_p : p.Prime :=
  prime_of_order (a := 6) (by norm_num) (by decide +kernel) (by decide +kernel) (by decide +kernel)

theorem prime_q : q.Prime :=
  prime_of_order (a := 3) (by norm_num) (by decide +kernel) (by decide +kernel) (by decide +kernel)

def keyPair : KeyPair where
  p := p
  q := q
  e := 65537
  d := d
  prime_p := prime_p
  prime_q := prime_q
  distinct := by decide +kernel
  inverse := by
    have lcm : Nat.lcm (p - 1) (q - 1) = 13 * 3217 * 2 ^ 1032 := by decide +kernel
    rw [lcm]
    show 65537 * d % (13 * 3217 * 2 ^ 1032) = 1 % (13 * 3217 * 2 ^ 1032)
    decide +kernel

/-- The inverse by the extended Euclidean algorithm, reduced to the residues. -/
def modInverse (r n : Nat) : Option Int :=
  if Nat.gcd r n = 1 then some (Nat.gcdA r n % n) else none

theorem inverseLaw : InverseLaw modInverse := by
  intro r n inverse returned
  rw [modInverse] at returned
  split_ifs at returned with coprime
  cases returned
  have bezout := Nat.gcd_eq_gcd_ab r n
  rw [coprime] at bezout
  calc (r : Int) * (Nat.gcdA r n % n) ≡ r * Nat.gcdA r n [ZMOD n] := (Int.mod_modEq _ _).mul_left _
    _ ≡ r * Nat.gcdA r n + n * Nat.gcdB r n [ZMOD n] := (Int.modEq_add_fac_self).symm
    _ = 1 := by rw [← bezout]; rfl

theorem mInt_ne_zero : BigEndian.toNat (sha256 mRaw).val ≠ 0 := by
  rw [sha256_mRaw]
  decide +kernel

theorem size_n : keyPair.n.size = 2048 := by decide +kernel

/-- Of the draws 1 and 2 the first is refused, and the second is a unit of every odd
modulus. -/
theorem blind_draws (sha256 : Bytes -> Digest) (pubkey : RsaPublicKey) (mRaw : Bytes) (large : 1 < pubkey.n)
    (odd : Nat.gcd 2 pubkey.n = 1) : ∃ req, blind sha256 modInverse pubkey mRaw [1, 2] = some req := by
  have inverted : modInverse 2 pubkey.n = some (Nat.gcdA 2 pubkey.n % pubkey.n) := if_pos odd
  have nonnegative := Int.emod_nonneg (Nat.gcdA 2 pubkey.n) (show (pubkey.n : Int) ≠ 0 by omega)
  have other : (Nat.gcdA 2 pubkey.n % pubkey.n).toNat ≠ 1 := by
    intro one
    have unit : Nat.gcdA 2 pubkey.n % pubkey.n = 1 := by omega
    have divides := (inverseLaw 2 pubkey.n _ inverted).symm.dvd
    rw [unit] at divides
    have small := Int.le_of_dvd (by decide) divides
    simp only [Nat.cast_ofNat] at small
    omega
  have refused : blindWith sha256 modInverse pubkey mRaw 1 = none := rfl
  have taken : ∃ req, blindWith sha256 modInverse pubkey mRaw 2 = some req := by
    simp [blindWith, blindMessage, inverted, toBiguint, nonnegative, other]
  rcases taken with ⟨req, taken⟩
  exact ⟨req, by rw [blind, List.findSome?_cons, refused, List.findSome?_cons, taken]⟩

end Sample

theorem blind_token_pipeline_sample :
    ∃ token, issue Relay.Sample.sha256 Sample.modInverse Sample.keyPair.publicKey Relay.Sample.mRaw [1, 2]
        (honest Sample.keyPair) = some (.ok (Relay.Sample.mRaw, token)) ∧
      token.length = Wire.tokenLen ∧
      (Relay.verify Relay.Sample.sha256 Relay.Sample.mRaw token Sample.keyPair.publicKey 0
        (Relay.ReplayWindow.new 60)).1 = .ok () := by
  rcases Sample.blind_draws Relay.Sample.sha256 Sample.keyPair.publicKey Relay.Sample.mRaw
    (by decide +kernel) (by decide +kernel) with ⟨req, chosen⟩
  rcases (blind_token_pipeline Relay.Sample.sha256 Sample.modInverse Sample.inverseLaw).1 Sample.keyPair
    Relay.Sample.mRaw [1, 2] req Sample.size_n Sample.mInt_ne_zero chosen with
    ⟨sig, tokenInt, _, _, length, issued, accepts⟩
  exact ⟨_, issued, length, accepts 0 (Relay.ReplayWindow.new 60) rfl⟩

end Client
end QuietHop
