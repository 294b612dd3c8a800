import Mathlib.Data.Finset.Card
import QuietHop.Registry.Cache

namespace QuietHop
namespace Registry

open Lib Net

/-!
# Pinned keys and the threshold over them

Both binaries read their pinned registry keys from a text the operator writes: the client from
an environment variable, the relay from a key given inline or from a file.  The keys are taken as
they stand, and `RegistryCache::new` refuses a threshold above their number, because such a
threshold could never be met.  What `verify` counts is something else, namely different key
ids whose first key signed.  This module says which thresholds can be met.
-/

/-- What the Ed25519 crate decides about a key: whether its bytes are a point of the curve, and
whether that point has small order. -/
structure Ed25519 where
  fromBytes : Key32 -> Bool
  isWeak : Key32 -> Bool

/-- `e.to_string()` of an error. -/
def RegistryError.toText : RegistryError -> String
  | .registry text => "registry: " ++ text
  | .equivocation version => s!"registry equivocation: two different documents carry version {version}"
  | .invalidKey text => "malformed registry signing key: " ++ text
  | .state text => "registry state: " ++ text

section Reading

variable (lib : External) (curve : Ed25519)

def PinnedKey.fromBytes (raw : Key32) : Except RegistryError PinnedKey :=
  if curve.fromBytes raw then .ok ⟨keyIdFor lib raw, raw⟩ else .error (.invalidKey "registry signing key")

def PinnedKey.fromHex (hex : String) : Except RegistryError PinnedKey :=
  match decodeHex32 hex with
  | none => .error (.invalidKey "registry signing key hex")
  | some raw => PinnedKey.fromBytes lib curve raw

/-- `char::is_whitespace`, the characters Unicode calls white space. -/
def isWhitespace (c : Char) : Bool :=
  (9 ≤ c.toNat && c.toNat ≤ 13) || c.toNat == 0x20 || c.toNat == 0x85 || c.toNat == 0xa0 || c.toNat == 0x1680 ||
    (0x2000 ≤ c.toNat && c.toNat ≤ 0x200a) || c.toNat == 0x2028 || c.toNat == 0x2029 || c.toNat == 0x202f ||
    c.toNat == 0x205f || c.toNat == 0x3000

/-- `str::trim`. -/
def trim (text : List Char) : List Char :=
  ((text.dropWhile isWhitespace).reverse.dropWhile isWhitespace).reverse

/-- The loop over the pieces, the same in both binaries: an empty piece is skipped and the
first malformed key ends it. -/
def readKeys {Failure : Type} (fail : RegistryError -> Failure) : List (List Char) -> Except Failure (List PinnedKey)
  | [] => .ok []
  | piece :: rest =>
      if (trim piece).isEmpty then readKeys fail rest
      else
        match PinnedKey.fromHex lib curve (String.ofList (trim piece)) with
        | .error e => .error (fail e)
        | .ok pin => (readKeys fail rest).map fun tail => pin :: tail

/-- The client's keys, from the variable `QUIETHOP_REGISTRY_PUBKEY`. -/
def pinnedKeys (setting : Option String) : Except String (List PinnedKey) :=
  match setting with
  | none => .error "not set"
  | some raw =>
      match readKeys lib curve RegistryError.toText (raw.toList.splitOnP (· == ',')) with
      | .error e => .error e
      | .ok out => if out.isEmpty then .error "no key in the value" else .ok out

/-- The errors of the relay's configuration that reading its keys gives. -/
inductive ConfigError where
  | invalid (var reason : String)
  deriving DecidableEq, Repr

/-- The relay's keys.  Reading a file and the quoted form of a text are given. -/
def parsePinnedKeys (readToString : String -> Except String String) (quoted : String -> String) (raw : String) :
    Except ConfigError (List PinnedKey) :=
  let trimmed := String.ofList (trim raw.toList)
  let body : Except ConfigError String :=
    if (asBytes trimmed).length = 64 && (asBytes trimmed).all fun b => (toDigit 16 b).isSome then .ok trimmed
    else
      match readToString trimmed with
      | .ok text => .ok text
      | .error e => .error (.invalid "REGISTRY_SIGNING_PUBKEY"
          s!"{quoted trimmed} is neither 64 hex characters nor a readable file: {e}")
  match body with
  | .error e => .error e
  | .ok text =>
      match readKeys lib curve (fun e => ConfigError.invalid "REGISTRY_SIGNING_PUBKEY" e.toText)
          (text.toList.splitOnP fun c => c == ',' || c == '\n') with
      | .error e => .error e
      | .ok out =>
          if out.isEmpty then .error (.invalid "REGISTRY_SIGNING_PUBKEY" "no key found in the value") else .ok out

/-- A list of keys that one of the binaries reads from something an operator wrote. -/
inductive Configured : List PinnedKey -> Prop
  | client {raw : String} {pinned : List PinnedKey} (read : pinnedKeys lib curve (some raw) = .ok pinned) :
      Configured pinned
  | relay {readToString : String -> Except String String} {quoted : String -> String} {raw : String}
      {pinned : List PinnedKey} (read : parsePinnedKeys lib curve readToString quoted raw = .ok pinned) :
      Configured pinned

/-- Every key that was read is a point. -/
theorem fromBytes_of_readKeys {Failure : Type} {fail : RegistryError -> Failure} {pieces : List (List Char)}
    {pinned : List PinnedKey} (read : readKeys lib curve fail pieces = .ok pinned) :
    ∀ pin ∈ pinned, curve.fromBytes pin.key = true := by
  induction pieces generalizing pinned with
  | nil =>
      cases read
      simp
  | cons piece rest ih =>
      rw [readKeys] at read
      split_ifs at read
      · exact ih read
      · split at read
        · cases read
        · next pin made =>
            cases tail : readKeys lib curve fail rest with
            | error _ =>
                rw [tail] at read
                cases read
            | ok keys =>
                rw [tail] at read
                cases read
                refine List.forall_mem_cons.mpr ⟨?_, ih tail⟩
                rw [PinnedKey.fromHex] at made
                split at made
                · cases made
                · rw [PinnedKey.fromBytes] at made
                  split_ifs at made with point
                  cases made
                  exact point

theorem Configured.fromBytes {pinned : List PinnedKey} (configured : Configured lib curve pinned) :
    ∀ pin ∈ pinned, curve.fromBytes pin.key = true := by
  cases configured with
  | client read =>
      simp only [pinnedKeys] at read
      split at read
      · cases read
      · next out keys =>
          split_ifs at read
          cases read
          exact fromBytes_of_readKeys lib curve keys
  | relay read =>
      simp only [parsePinnedKeys] at read
      split at read
      · cases read
      · split at read
        · cases read
        · next out keys =>
            split_ifs at read
            cases read
            exact fromBytes_of_readKeys lib curve keys

end Reading

/-! ## What can be counted -/

/-- What is assumed of the signature scheme and of base64.  A key of small order never verifies
strictly; under every other key each message has a signature that does; decoding inverts
encoding. -/
structure Ed25519.Documented (lib : External) (curve : Ed25519) : Prop where
  weak : forall key msg raw, curve.isWeak key = true -> lib.verifyStrict key msg raw = false
  signable : forall key, curve.fromBytes key = true -> curve.isWeak key = false -> forall msg,
    ∃ raw, raw.length = signatureLength ∧ lib.verifyStrict key msg raw = true
  b64 : forall bytes, lib.b64Decode (asBytes (lib.b64Encode bytes)) = .ok bytes

/-- The key that counts for an id can sign. -/
def canCount (curve : Ed25519) (pinned : List PinnedKey) (id : String) : Bool :=
  (pinned.find? (·.keyId = id)).any fun pin => !curve.isWeak pin.key

/-- The different ids of the list whose first key can sign. -/
def signerIds (curve : Ed25519) (pinned : List PinnedKey) : Finset String :=
  (pinned.map PinnedKey.keyId).toFinset.filter fun id => canCount curve pinned id = true

section Counting

variable {lib : External} {curve : Ed25519} {pinned : List PinnedKey}

theorem mem_signerIds {id : String} :
    id ∈ signerIds curve pinned ↔ ∃ pin, pinned.find? (·.keyId = id) = some pin ∧ curve.isWeak pin.key = false := by
  simp only [signerIds, canCount, Finset.mem_filter, List.mem_toFinset, Option.any_eq_true, Bool.not_eq_true']
  constructor
  · rintro ⟨-, found⟩
    exact found
  · rintro ⟨pin, found, strong⟩
    have named : pin.keyId = id := by simpa using List.find?_some found
    exact ⟨named ▸ List.mem_map_of_mem (List.mem_of_find?_eq_some found), pin, found, strong⟩

/-- No list of signatures counts more than the ids that can. -/
theorem card_acceptedIds_le (documented : curve.Documented lib) (msg : Bytes) (signatures : List SignatureEntry) :
    (acceptedIds lib pinned msg signatures).card ≤ (signerIds curve pinned).card := by
  rw [SortedSet.card, ← List.toFinset_card_of_nodup (SortedSet.nodup _)]
  apply Finset.card_le_card
  intro id member
  rcases (mem_acceptedIds lib pinned msg signatures id).mp (List.mem_toFinset.mp member) with
    ⟨entry, -, pin, found, ⟨named, raw, -, -, valid⟩, rfl⟩
  refine mem_signerIds.mpr ⟨pin, ?_, ?_⟩
  · rw [named]
    exact found
  · cases weak : curve.isWeak pin.key with
    | false => rfl
    | true =>
        rw [documented.weak pin.key msg raw weak] at valid
        cases valid

/-- One signature for every id that can count, and all of them are counted. -/
theorem exists_card_acceptedIds (documented : curve.Documented lib)
    (points : ∀ pin ∈ pinned, curve.fromBytes pin.key = true) (msg : Bytes) :
    ∃ signatures, (acceptedIds lib pinned msg signatures).card = (signerIds curve pinned).card := by
  have entryFor : ∀ id ∈ signerIds curve pinned, ∃ entry, Adds lib pinned msg entry id := by
    intro id member
    rcases mem_signerIds.mp member with ⟨pin, found, strong⟩
    have named : pin.keyId = id := by simpa using List.find?_some found
    rcases documented.signable pin.key (points pin (List.mem_of_find?_eq_some found)) strong msg with ⟨raw, size, valid⟩
    exact ⟨⟨id, lib.b64Encode raw⟩, pin, found, ⟨named, raw, documented.b64 raw, size, valid⟩, named.symm⟩
  choose entry adds using entryFor
  refine ⟨(signerIds curve pinned).attach.toList.map fun id => entry id.1 id.2, ?_⟩
  apply le_antisymm (card_acceptedIds_le documented msg _)
  rw [SortedSet.card, ← List.toFinset_card_of_nodup (SortedSet.nodup _)]
  apply Finset.card_le_card
  intro id member
  refine List.mem_toFinset.mpr ((mem_acceptedIds lib pinned msg _ id).mpr ⟨entry id member, ?_, adds id member⟩)
  exact List.mem_map.mpr ⟨⟨id, member⟩, by simp, rfl⟩

end Counting

/-- Which thresholds can be met.  A threshold that `RegistryCache::new` lets through is met by
some signatures over every document exactly when it is at most the number of different ids in the
list whose first key can sign, and where it is larger no signatures over any document meet it. -/
theorem threshold_met_iff {lib : External} {curve : Ed25519} (documented : curve.Documented lib)
    {pinned : List PinnedKey} (configured : Configured lib curve pinned) {url : String} {threshold : Nat}
    {cache : RegistryCache} (accepted : RegistryCache.new url pinned threshold = .ok cache) :
    ((forall document, ∃ signatures,
        cache.threshold ≤ (acceptedIds lib cache.pinned (signedMessage document) signatures).card) ↔
      threshold ≤ (signerIds curve pinned).card) ∧
    ((∃ document signatures,
        cache.threshold ≤ (acceptedIds lib cache.pinned (signedMessage document) signatures).card) ↔
      threshold ≤ (signerIds curve pinned).card) := by
  rw [(RegistryCache.new_ok accepted).1]
  have some_iff (document : Bytes) :
      (∃ signatures, threshold ≤ (acceptedIds lib pinned (signedMessage document) signatures).card) ↔
        threshold ≤ (signerIds curve pinned).card := by
    constructor
    · rintro ⟨signatures, met⟩
      exact met.trans (card_acceptedIds_le documented _ _)
    · intro enough
      rcases exists_card_acceptedIds documented (configured.fromBytes lib curve) (signedMessage document) with
        ⟨signatures, counted⟩
      exact ⟨signatures, by rw [counted]; exact enough⟩
  constructor
  · constructor
    · intro always
      exact (some_iff []).mp (always [])
    · intro enough document
      exact (some_iff document).mpr enough
  · constructor
    · rintro ⟨document, met⟩
      exact (some_iff document).mp met
    · intro enough
      exact ⟨[], (some_iff []).mpr enough⟩

/-! ## Keys that sign every message alike -/

namespace Sample

/-- A scheme in which a key signs every message with itself written twice, and the key of zeros
is the weak one. -/
def echo : External :=
  { external with
    sha256 := id
    verifyStrict := fun key _ sig => key.val.any (· ≠ 0) && sig = key.val ++ key.val }

def echoCurve : Ed25519 :=
  ⟨fun _ => true, fun key => key.val.all (· = 0)⟩

theorem echo_documented : echoCurve.Documented echo := by
  have strong_iff (key : Key32) : key.val.any (· ≠ 0) = !echoCurve.isWeak key := by
    simp [echoCurve, List.any_eq_not_all_not]
  refine ⟨?_, ?_, ?_⟩
  · intro key msg raw weak
    simp only [echo, strong_iff, weak, Bool.not_true, Bool.false_and]
  · intro key _ strong msg
    refine ⟨key.val ++ key.val, ?_, ?_⟩
    · rw [List.length_append, key.property]
      rfl
    · simp only [echo, strong_iff, strong, Bool.not_false, decide_true, Bool.and_true]
  · exact roundTrips_sample.b64

/-- The key of ones, in hex. -/
def ones : String := String.ofList (List.replicate 32 ['0', '1']).flatten

/-- The key of twos, in hex. -/
def twos : String := String.ofList (List.replicate 32 ['0', '2']).flatten

def pinOf (byte : UInt8) : PinnedKey :=
  ⟨keyIdFor echo ⟨List.replicate 32 byte, rfl⟩, ⟨List.replicate 32 byte, rfl⟩⟩

end Sample

/-- Two different keys meet a threshold of two over every document. -/
theorem threshold_met_two_keys :
    pinnedKeys Sample.echo Sample.echoCurve (some (Sample.ones ++ "," ++ Sample.twos)) =
      .ok [Sample.pinOf 1, Sample.pinOf 2] ∧
    forall document, ∃ signatures, 2 ≤ (acceptedIds Sample.echo [Sample.pinOf 1, Sample.pinOf 2]
      (signedMessage document) signatures).card := by
  have read : pinnedKeys Sample.echo Sample.echoCurve (some (Sample.ones ++ "," ++ Sample.twos)) =
      .ok [Sample.pinOf 1, Sample.pinOf 2] := by decide +kernel
  have created : RegistryCache.new "https://authority.example/registry" [Sample.pinOf 1, Sample.pinOf 2] 2 =
      .ok ⟨"https://authority.example/registry", [Sample.pinOf 1, Sample.pinOf 2], 2, none⟩ := rfl
  exact ⟨read, (threshold_met_iff Sample.echo_documented (.client read) created).1.mpr (by decide +kernel)⟩

/-- A key written twice, as the client and as the relay read it, and a threshold of two over it:
`RegistryCache::new` takes it, and no signatures over any document meet it. -/
theorem threshold_unmet_same_key :
    pinnedKeys Sample.echo Sample.echoCurve (some (Sample.ones ++ "," ++ Sample.ones)) =
      .ok [Sample.pinOf 1, Sample.pinOf 1] ∧
    parsePinnedKeys Sample.echo Sample.echoCurve (fun _ => .ok (Sample.ones ++ "\n" ++ Sample.ones ++ "\n")) id
      "/opt/quiethop/secrets/registry.pub" = .ok [Sample.pinOf 1, Sample.pinOf 1] ∧
    (RegistryCache.new "https://authority.example/registry" [Sample.pinOf 1, Sample.pinOf 1] 2).isOk = true ∧
    forall document signatures, (acceptedIds Sample.echo [Sample.pinOf 1, Sample.pinOf 1]
      (signedMessage document) signatures).card < 2 := by
  refine ⟨by decide +kernel, by decide +kernel, rfl, ?_⟩
  intro document signatures
  have few : (signerIds Sample.echoCurve [Sample.pinOf 1, Sample.pinOf 1]).card = 1 := by decide +kernel
  have counted := @card_acceptedIds_le _ _ [Sample.pinOf 1, Sample.pinOf 1] Sample.echo_documented
    (signedMessage document) signatures
  omega

end Registry
end QuietHop
