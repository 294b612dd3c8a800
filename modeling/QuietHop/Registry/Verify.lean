import Mathlib.Data.String.Basic
import QuietHop.Lib.Base64
import QuietHop.Lib.SortedSet
import QuietHop.Registry.Document

namespace QuietHop
namespace Registry

open Lib Net

/-!
# Verifying a signed registry

A response carries the document base64-encoded next to a list of signatures.
Nothing inside the document is read until a threshold of pinned keys has verified
over its exact bytes.  The loop over the signature list skips every entry it
cannot use and collects the ids it could in a set, so the list is attacker
controlled in order, length and content.

JSON, base64, SHA-256 and Ed25519 are arbitrary functions, gathered in
`External`.
-/

structure SignatureEntry where
  keyId : String
  sig : String
  deriving DecidableEq, Repr

structure Envelope where
  document : String
  signatures : List SignatureEntry
  deriving DecidableEq, Repr

/-- The baseline that survives a restart. -/
structure RegistryState where
  highestVersion : Int
  documentB64 : String
  keyIds : List String
  envelopeB64 : Option String
  deriving DecidableEq, Repr

/-- Functions of third-party crates.  `parse…` and `encodeState` are the JSON
codec at the types it is used at; a decoder's error is its message. -/
structure External where
  sha256 : Bytes -> Bytes
  verifyStrict : Key32 -> Bytes -> Bytes -> Bool
  b64Encode : Bytes -> String
  b64Decode : Bytes -> Except String Bytes
  parseEnvelope : Bytes -> Except String Envelope
  parseDocument : Bytes -> Except String Document
  parseState : Bytes -> Except String RegistryState
  encodeState : RegistryState -> Except String Bytes

/-- A pinned registry signing key. -/
structure PinnedKey where
  keyId : String
  key : Key32
  deriving DecidableEq

/-- A document that passed every check, with the bytes it was verified over. -/
structure Verified where
  document : Document
  bytes : Bytes
  keyIds : List String
  deriving DecidableEq

def domain : Bytes := asBytes "quiethop/v1/registry"

def signatureLength : Nat := 64

variable (lib : External)

/-- The first 8 bytes of SHA-256 over the raw key, in hex. -/
def keyIdFor (raw : Key32) : String :=
  String.ofList (((lib.sha256 raw.val).take 8).flatMap fun (b : UInt8) => [nibble (b >>> 4), nibble (b &&& 0x0f)])

/-- The exact bytes a registry signature covers. -/
def signedMessage (document : Bytes) : Bytes :=
  domain ++ [0x00] ++ document

/-- One turn of the signature loop.  Every way an entry can be unusable leaves
the accepted ids as they were. -/
def acceptEntry (pinned : List PinnedKey) (msg : Bytes) (accepted : SortedSet String)
    (entry : SignatureEntry) : SortedSet String :=
  match pinned.find? (·.keyId = entry.keyId) with
  | none => accepted
  | some pin =>
      match lib.b64Decode (asBytes entry.sig) with
      | .error _ => accepted
      | .ok raw =>
          if raw.length ≠ signatureLength then accepted
          else if lib.verifyStrict pin.key msg raw then accepted.insert pin.keyId
          else accepted

def acceptedIds (pinned : List PinnedKey) (msg : Bytes) (signatures : List SignatureEntry) : SortedSet String :=
  signatures.foldl (acceptEntry lib pinned msg) SortedSet.empty

def checkValidity (doc : Document) (nowUnix : Int) : Except RegistryError Unit :=
  match parseRfc3339 doc.validAfter with
  | .error e => .error e
  | .ok after =>
      match parseRfc3339 doc.validUntil with
      | .error e => .error e
      | .ok untilUnix =>
          let expected := Int.tdiv after 3600
          if untilUnix ≤ after then .error (.registry "valid_until is not after valid_after")
          else if Int.tmod after 3600 ≠ 0 then
            .error (.registry s!"valid_after {doc.validAfter} is not on an exact hour")
          else if doc.version ≠ expected then
            .error (.registry
              s!"version {doc.version} does not match valid_after {doc.validAfter}, which is hour {expected}")
          else if wrappingAdd nowUnix skewAllowanceSecs < after then
            .error (.registry
              s!"document is not yet valid: valid_after {doc.validAfter} is more than {skewAllowanceSecs}s ahead")
          else if nowUnix ≥ untilUnix then .error (.registry s!"document expired at {doc.validUntil}")
          else .ok ()

def checkRollback (doc : Document) (bytes : Bytes) (previous : Option RegistryState) :
    Except RegistryError Unit :=
  match previous with
  -- Trust on first use: no baseline exists, so this document becomes it.
  | none => .ok ()
  | some prev =>
      if doc.version < prev.highestVersion then
        .error (.registry
          s!"rollback: version {doc.version} is below the highest seen {prev.highestVersion}")
      else if doc.version = prev.highestVersion then
        match lib.b64Decode (asBytes prev.documentB64) with
        | .error e => .error (.state s!"stored document is not base64: {e}")
        | .ok stored => if stored ≠ bytes then .error (.equivocation doc.version) else .ok ()
      else .ok ()

/-- Everything `verify` does once the signatures are counted. -/
def checkDocument (bytes : Bytes) (accepted : SortedSet String) (nowUnix : Int)
    (previous : Option RegistryState) : Except RegistryError Verified :=
  match lib.parseDocument bytes with
  | .error e => .error (.registry s!"verified document does not parse: {e}")
  | .ok document =>
      match checkValidity document nowUnix with
      | .error e => .error e
      | .ok () =>
          match checkRollback lib document bytes previous with
          | .error e => .error e
          | .ok () => .ok ⟨document, bytes, accepted.elems⟩

/-- Verify an envelope and return the parsed document. -/
def verify (body : Bytes) (pinned : List PinnedKey) (threshold : Nat) (nowUnix : Int)
    (previous : Option RegistryState) : Except RegistryError Verified :=
  if threshold = 0 then .error (.registry "threshold must be at least 1")
  else
    match lib.parseEnvelope body with
    | .error e => .error (.registry s!"response is not a registry envelope: {e}")
    | .ok envelope =>
        match lib.b64Decode (asBytes envelope.document) with
        | .error e => .error (.registry s!"document is not base64: {e}")
        | .ok bytes =>
            let accepted := acceptedIds lib pinned (signedMessage bytes) envelope.signatures
            if accepted.card < threshold then
              .error (.registry
                s!"{accepted.card} of {threshold} required signatures from pinned keys verified")
            else checkDocument lib bytes accepted nowUnix previous

/-! ## What the signature loop counts -/

/-- An entry carries a valid signature of a pinned key over a message. -/
def Signs (pin : PinnedKey) (msg : Bytes) (entry : SignatureEntry) : Prop :=
  pin.keyId = entry.keyId ∧ ∃ raw, lib.b64Decode (asBytes entry.sig) = .ok raw ∧
    raw.length = signatureLength ∧ lib.verifyStrict pin.key msg raw = true

/-- An entry adds an id when the first key pinned under its id signed with it. -/
def Adds (pinned : List PinnedKey) (msg : Bytes) (entry : SignatureEntry) (id : String) : Prop :=
  ∃ pin, pinned.find? (·.keyId = entry.keyId) = some pin ∧ Signs lib pin msg entry ∧ id = pin.keyId

theorem mem_acceptEntry (pinned : List PinnedKey) (msg : Bytes) (accepted : SortedSet String)
    (entry : SignatureEntry) (id : String) :
    id ∈ acceptEntry lib pinned msg accepted entry ↔ Adds lib pinned msg entry id ∨ id ∈ accepted := by
  unfold acceptEntry Adds
  cases found : pinned.find? (·.keyId = entry.keyId) with
  | none => simp
  | some pin =>
      have sameId : pin.keyId = entry.keyId := by simpa using List.find?_some found
      cases decoded : lib.b64Decode (asBytes entry.sig) with
      | error text => simp [Signs, decoded]
      | ok raw =>
          by_cases size : raw.length = signatureLength
          · by_cases valid : lib.verifyStrict pin.key msg raw = true
            · simp [Signs, decoded, size, valid, sameId]
            · simp [Signs, decoded, size, valid]
          · simp [Signs, decoded, size]

theorem mem_acceptedIds (pinned : List PinnedKey) (msg : Bytes) (signatures : List SignatureEntry)
    (id : String) :
    id ∈ acceptedIds lib pinned msg signatures ↔ ∃ entry ∈ signatures, Adds lib pinned msg entry id := by
  unfold acceptedIds
  rw [SortedSet.mem_foldl _ (Adds lib pinned msg) (mem_acceptEntry lib pinned msg)]
  simp

/-- Keys of the pinned list, all different, that each signed some entry. -/
structure Signers (pinned : List PinnedKey) (msg : Bytes) (signatures : List SignatureEntry) where
  pins : List PinnedKey
  distinct : (pins.map PinnedKey.key).Nodup
  isPinned : ∀ pin ∈ pins, pin ∈ pinned
  signed : ∀ pin ∈ pins, ∃ entry ∈ signatures, Signs lib pin msg entry

/-- The keys found for a list of accepted ids, one by one. -/
private theorem pins_of_ids {pinned : List PinnedKey} {msg : Bytes} {signatures : List SignatureEntry}
    (ids : List String) (accepted : ∀ id ∈ ids, id ∈ acceptedIds lib pinned msg signatures) :
    ∃ pins : List PinnedKey, pins.map PinnedKey.keyId = ids ∧ (∀ pin ∈ pins, pin ∈ pinned) ∧
      ∀ pin ∈ pins, ∃ entry ∈ signatures, Signs lib pin msg entry := by
  induction ids with
  | nil => exact ⟨[], by simp⟩
  | cons id rest ih =>
      obtain ⟨pins, sameIds, isPinned, signed⟩ := ih fun other inside => accepted other (by simp [inside])
      obtain ⟨entry, member, pin, found, signs, rfl⟩ :=
        (mem_acceptedIds lib pinned msg signatures id).mp (accepted id (by simp))
      refine ⟨pin :: pins, by simp [sameIds], ?_, ?_⟩
      · simpa using ⟨List.mem_of_find?_eq_some found, isPinned⟩
      · simpa using ⟨⟨entry, member, signs⟩, signed⟩

/-- Every accepted id stands for a different pinned key that signed: an id finds
one key, and a key determines its id. -/
theorem signers_of_acceptedIds {pinned : List PinnedKey}
    (derived : ∀ pin ∈ pinned, pin.keyId = keyIdFor lib pin.key)
    (msg : Bytes) (signatures : List SignatureEntry) :
    ∃ signers : Signers lib pinned msg signatures,
      signers.pins.length = (acceptedIds lib pinned msg signatures).card := by
  obtain ⟨pins, sameIds, isPinned, signed⟩ := pins_of_ids lib _ fun _ member => member
  have throughKey : pins.map PinnedKey.keyId = (pins.map PinnedKey.key).map (keyIdFor lib) := by
    rw [List.map_map]
    exact List.map_congr_left fun pin member => derived pin (isPinned pin member)
  have distinct : (pins.map PinnedKey.key).Nodup := by
    apply List.Nodup.of_map (keyIdFor lib)
    rw [← throughKey, sameIds]
    exact SortedSet.nodup _
  refine ⟨⟨pins, distinct, isPinned, signed⟩, ?_⟩
  rw [SortedSet.card, ← sameIds, List.length_map]

/-- Entries the loop cannot use, in the four ways it can meet one. -/
inductive Unusable (pinned : List PinnedKey) (msg : Bytes) (entry : SignatureEntry) : Prop
  | unpinned (absent : ∀ pin ∈ pinned, pin.keyId ≠ entry.keyId)
  | undecodable (text : String) (decoded : lib.b64Decode (asBytes entry.sig) = .error text)
  | wrongLength (raw : Bytes) (decoded : lib.b64Decode (asBytes entry.sig) = .ok raw)
      (size : raw.length ≠ signatureLength)
  | invalid (raw : Bytes) (decoded : lib.b64Decode (asBytes entry.sig) = .ok raw)
      (refused : ∀ pin ∈ pinned, pin.keyId = entry.keyId -> lib.verifyStrict pin.key msg raw = false)

theorem not_unusable_of_adds {pinned : List PinnedKey} {msg : Bytes} {entry : SignatureEntry} {id : String}
    (adds : Adds lib pinned msg entry id) : ¬ Unusable lib pinned msg entry := by
  obtain ⟨pin, found, ⟨sameId, raw, decoded, size, valid⟩, -⟩ := adds
  have member := List.mem_of_find?_eq_some found
  intro unusable
  cases unusable with
  | unpinned absent => exact absent pin member sameId
  | undecodable text failed => simp [failed] at decoded
  | wrongLength other otherDecoded otherSize =>
      rw [otherDecoded] at decoded
      cases decoded
      exact otherSize size
  | invalid other otherDecoded refused =>
      rw [otherDecoded] at decoded
      cases decoded
      simp [refused pin member sameId] at valid

/-- Lists that agree on their usable entries are counted alike. -/
theorem acceptedIds_congr {pinned : List PinnedKey} {msg : Bytes} {left right : List SignatureEntry}
    (same : forall entry, ¬ Unusable lib pinned msg entry -> (entry ∈ left ↔ entry ∈ right)) :
    acceptedIds lib pinned msg left = acceptedIds lib pinned msg right := by
  apply SortedSet.ext_mem
  intro id
  rw [mem_acceptedIds, mem_acceptedIds]
  constructor
  · rintro ⟨entry, member, adds⟩
    exact ⟨entry, (same entry (not_unusable_of_adds lib adds)).mp member, adds⟩
  · rintro ⟨entry, member, adds⟩
    exact ⟨entry, (same entry (not_unusable_of_adds lib adds)).mpr member, adds⟩

theorem card_acceptedIds_mono {left right : List SignatureEntry} (subset : left ⊆ right)
    (pinned : List PinnedKey) (msg : Bytes) :
    (acceptedIds lib pinned msg left).card ≤ (acceptedIds lib pinned msg right).card := by
  apply SortedSet.card_le_of_subset
  intro id member
  rw [mem_acceptedIds] at member ⊢
  obtain ⟨entry, inside, adds⟩ := member
  exact ⟨entry, subset inside, adds⟩

/-! ## What a verified envelope guarantees -/

/-- A body whose envelope carries this document in these bytes. -/
def Carries (body : Bytes) (document : Document) (bytes : Bytes) : Prop :=
  ∃ envelope, lib.parseEnvelope body = .ok envelope ∧
    lib.b64Decode (asBytes envelope.document) = .ok bytes ∧ lib.parseDocument bytes = .ok document

/-- What `check_validity` establishes: the version is the hour the document starts at. -/
theorem checkValidity_ok_iff {doc : Document} {nowUnix : Int} :
    checkValidity doc nowUnix = .ok () ↔
      ∃ untilUnix, doc.validAfterUnix = .ok (doc.version * 3600) ∧ doc.validUntilUnix = .ok untilUnix ∧
        doc.version * 3600 < untilUnix ∧ doc.version * 3600 ≤ wrappingAdd nowUnix skewAllowanceSecs ∧
        nowUnix < untilUnix := by
  constructor
  · intro valid
    rw [checkValidity] at valid
    cases starts : parseRfc3339 doc.validAfter with
    | error reason => simp [starts] at valid
    | ok after =>
        cases ends : parseRfc3339 doc.validUntil with
        | error reason => simp [starts, ends] at valid
        | ok untilUnix =>
            simp only [starts, ends] at valid
            split_ifs at valid with order onHour version early expired
            have whole : Int.tmod after 3600 = 0 := not_not.mp onHour
            have hour : doc.version = Int.tdiv after 3600 := not_not.mp version
            have start : doc.version * 3600 = after := by
              have division := Int.tdiv_mul_add_tmod after 3600
              rw [whole, ← hour] at division
              omega
            rw [start]
            exact ⟨untilUnix, starts, ends, by omega, by omega, by omega⟩
  · rintro ⟨untilUnix, starts, ends, order, early, unexpired⟩
    rw [Document.validAfterUnix] at starts
    rw [Document.validUntilUnix] at ends
    have whole : Int.tmod (doc.version * 3600) 3600 = 0 := Int.mul_tmod_left ..
    have hour : doc.version = Int.tdiv (doc.version * 3600) 3600 := (Int.mul_tdiv_cancel _ (by decide)).symm
    simp only [checkValidity, starts, ends]
    rw [if_neg (by omega), if_neg (not_not.mpr whole), if_neg (not_not.mpr hour), if_neg (by omega),
      if_neg (by omega)]

theorem checkDocument_ok_iff {bytes : Bytes} {accepted : SortedSet String} {nowUnix : Int}
    {previous : Option RegistryState} {verified : Verified} :
    checkDocument lib bytes accepted nowUnix previous = .ok verified ↔
      lib.parseDocument bytes = .ok verified.document ∧ checkValidity verified.document nowUnix = .ok () ∧
        checkRollback lib verified.document bytes previous = .ok () ∧ verified.bytes = bytes ∧
        verified.keyIds = accepted.elems := by
  obtain ⟨document, verifiedBytes, keyIds⟩ := verified
  unfold checkDocument
  cases parsed : lib.parseDocument bytes with
  | error text => simp
  | ok found =>
      cases valid : checkValidity found nowUnix with
      | error e =>
          simp only [valid, reduceCtorEq, Except.ok.injEq, false_iff, not_and]
          rintro rfl refused
          simp [valid] at refused
      | ok _ =>
          cases rollback : checkRollback lib found bytes previous with
          | error e =>
              simp only [valid, rollback, reduceCtorEq, Except.ok.injEq, false_iff, not_and]
              rintro rfl - refused
              simp [rollback] at refused
          | ok _ =>
              simp only [valid, rollback, Except.ok.injEq, Verified.mk.injEq]
              constructor
              · rintro ⟨rfl, rfl, rfl⟩
                exact ⟨rfl, valid, rollback, rfl, rfl⟩
              · rintro ⟨rfl, -, -, rfl, rfl⟩
                exact ⟨rfl, rfl, rfl⟩

/-- `verify` on an envelope that parses and whose document decodes. -/
theorem verify_of_decoded {body : Bytes} {pinned : List PinnedKey} {threshold : Nat} {nowUnix : Int}
    {previous : Option RegistryState} {envelope : Envelope} {bytes : Bytes} (positive : threshold ≠ 0)
    (parsed : lib.parseEnvelope body = .ok envelope)
    (decoded : lib.b64Decode (asBytes envelope.document) = .ok bytes) :
    verify lib body pinned threshold nowUnix previous =
      if (acceptedIds lib pinned (signedMessage bytes) envelope.signatures).card < threshold then
        .error (.registry s!"{(acceptedIds lib pinned (signedMessage bytes) envelope.signatures).card
          } of {threshold} required signatures from pinned keys verified")
      else
        checkDocument lib bytes (acceptedIds lib pinned (signedMessage bytes) envelope.signatures)
          nowUnix previous := by
  simp only [verify, if_neg positive, parsed, decoded]

theorem verify_ok {body : Bytes} {pinned : List PinnedKey} {threshold : Nat} {nowUnix : Int}
    {previous : Option RegistryState} {verified : Verified}
    (accepted : verify lib body pinned threshold nowUnix previous = .ok verified) :
    threshold ≠ 0 ∧ ∃ envelope, lib.parseEnvelope body = .ok envelope ∧
      lib.b64Decode (asBytes envelope.document) = .ok verified.bytes ∧
      threshold ≤ (acceptedIds lib pinned (signedMessage verified.bytes) envelope.signatures).card ∧
      checkDocument lib verified.bytes
        (acceptedIds lib pinned (signedMessage verified.bytes) envelope.signatures) nowUnix previous =
          .ok verified := by
  by_cases positive : threshold = 0
  · simp [verify, positive] at accepted
  cases parsed : lib.parseEnvelope body with
  | error text => simp [verify, positive, parsed] at accepted
  | ok envelope =>
      cases decoded : lib.b64Decode (asBytes envelope.document) with
      | error text => simp [verify, positive, parsed, decoded] at accepted
      | ok bytes =>
          rw [verify_of_decoded lib positive parsed decoded] at accepted
          split at accepted
          · cases accepted
          · next enough =>
              obtain ⟨-, -, -, rfl, -⟩ := (checkDocument_ok_iff lib).mp accepted
              exact ⟨positive, envelope, rfl, decoded, Nat.le_of_not_lt enough, accepted⟩

/-- The document and the bytes of a verified envelope are those it carries. -/
private theorem decoded_of_verify_ok {body : Bytes} {envelope : Envelope} {pinned : List PinnedKey}
    {threshold : Nat} {nowUnix : Int} {previous : Option RegistryState} {verified : Verified}
    (parsed : lib.parseEnvelope body = .ok envelope)
    (accepted : verify lib body pinned threshold nowUnix previous = .ok verified) :
    lib.b64Decode (asBytes envelope.document) = .ok verified.bytes ∧
      lib.parseDocument verified.bytes = .ok verified.document := by
  obtain ⟨-, found, foundParsed, decoded, -, checked⟩ := verify_ok lib accepted
  rw [parsed] at foundParsed
  cases foundParsed
  exact ⟨decoded, ((checkDocument_ok_iff lib).mp checked).1⟩

/-- The result of `verify` depends on a signature list only through its usable
entries. -/
theorem verify_congr {body other : Bytes} {envelope otherEnvelope : Envelope} {pinned : List PinnedKey}
    (parsed : lib.parseEnvelope body = .ok envelope) (otherParsed : lib.parseEnvelope other = .ok otherEnvelope)
    (sameDocument : envelope.document = otherEnvelope.document)
    (sameUsable : forall bytes, lib.b64Decode (asBytes envelope.document) = .ok bytes ->
      forall entry, ¬ Unusable lib pinned (signedMessage bytes) entry ->
        (entry ∈ envelope.signatures ↔ entry ∈ otherEnvelope.signatures))
    (threshold : Nat) (nowUnix : Int) (previous : Option RegistryState) :
    verify lib body pinned threshold nowUnix previous = verify lib other pinned threshold nowUnix previous := by
  by_cases positive : threshold = 0
  · simp [verify, positive]
  cases decoded : lib.b64Decode (asBytes envelope.document) with
  | error text => simp [verify, positive, parsed, otherParsed, ← sameDocument, decoded]
  | ok bytes =>
      rw [verify_of_decoded lib positive parsed decoded,
        verify_of_decoded lib positive otherParsed (sameDocument ▸ decoded),
        acceptedIds_congr lib (sameUsable bytes decoded)]

/-- More entries never cost a document its acceptance. -/
theorem verify_mono {body other : Bytes} {envelope otherEnvelope : Envelope} {pinned : List PinnedKey}
    {threshold : Nat} {nowUnix : Int} {previous : Option RegistryState} {verified : Verified}
    (parsed : lib.parseEnvelope body = .ok envelope) (otherParsed : lib.parseEnvelope other = .ok otherEnvelope)
    (sameDocument : envelope.document = otherEnvelope.document)
    (subset : envelope.signatures ⊆ otherEnvelope.signatures)
    (accepted : verify lib body pinned threshold nowUnix previous = .ok verified) :
    ∃ keyIds, verify lib other pinned threshold nowUnix previous = .ok { verified with keyIds := keyIds } := by
  obtain ⟨positive, found, foundParsed, decoded, enough, checked⟩ := verify_ok lib accepted
  rw [parsed] at foundParsed
  cases foundParsed
  have more := card_acceptedIds_mono lib subset pinned (signedMessage verified.bytes)
  rw [verify_of_decoded lib positive otherParsed (sameDocument ▸ decoded), if_neg (by omega)]
  obtain ⟨document, valid, rollback, -, -⟩ := (checkDocument_ok_iff lib).mp checked
  exact ⟨(acceptedIds lib pinned (signedMessage verified.bytes) otherEnvelope.signatures).elems,
    (checkDocument_ok_iff lib).mpr ⟨document, valid, rollback, rfl, rfl⟩⟩

/-- Without enough signers the document is never parsed. -/
theorem verify_unparsed {body : Bytes} {pinned : List PinnedKey} {threshold : Nat}
    (derived : ∀ pin ∈ pinned, pin.keyId = keyIdFor lib pin.key)
    (tooFew : forall envelope bytes, lib.parseEnvelope body = .ok envelope ->
      lib.b64Decode (asBytes envelope.document) = .ok bytes ->
      forall signers : Signers lib pinned (signedMessage bytes) envelope.signatures,
        signers.pins.length < threshold)
    (nowUnix : Int) (previous : Option RegistryState) (parse : Bytes -> Except String Document) :
    verify { lib with parseDocument := parse } body pinned threshold nowUnix previous =
      verify lib body pinned threshold nowUnix previous := by
  by_cases positive : threshold = 0
  · simp [verify, positive]
  cases parsed : lib.parseEnvelope body with
  | error text => simp [verify, positive, parsed]
  | ok envelope =>
      cases decoded : lib.b64Decode (asBytes envelope.document) with
      | error text => simp [verify, positive, parsed, decoded]
      | ok bytes =>
          obtain ⟨signers, count⟩ := signers_of_acceptedIds lib derived (signedMessage bytes) envelope.signatures
          have short := tooFew envelope bytes parsed decoded signers
          rw [count] at short
          rw [verify_of_decoded lib positive parsed decoded, if_pos short,
            verify_of_decoded { lib with parseDocument := parse } positive parsed decoded]
          exact if_pos short

/-! ## A signing key and two documents it signed -/

namespace Sample

/-- The public half of a test signing key. -/
def signingKey : Key32 :=
  ⟨[234, 74, 108, 99, 226, 156, 82, 10, 190, 245, 80, 123, 19, 46, 197, 249, 149, 71, 118, 174, 190,
    190, 123, 146, 66, 30, 234, 105, 20, 70, 210, 44], rfl⟩

def signingKeyDigest : Bytes :=
  [254, 129, 44, 18, 243, 171, 76, 230, 172, 93, 182, 154, 195, 82, 249, 6, 203, 27, 17, 239, 67, 251,
    51, 226, 82, 239, 127, 245, 82, 38, 56, 137]

def pinnedKey : PinnedKey := ⟨"fe812c12f3ab4ce6", signingKey⟩

/-- The document of 2026-10-08T14:00:00Z, with no relays in it. -/
def document : Document :=
  ⟨497630, "2026-10-08T14:00:00Z", "2026-10-08T15:00:00Z", "2026-10-08T20:00:00Z", []⟩

/-- The document of the next hour. -/
def nextDocument : Document :=
  ⟨497631, "2026-10-08T15:00:00Z", "2026-10-08T16:00:00Z", "2026-10-08T21:00:00Z", []⟩

/-- The JSON text of a document without relays. -/
def documentText (version after fresh validUntil : String) : Bytes :=
  asBytes "\x7b\"version\":" ++ asBytes version ++ asBytes ",\"valid_after\":\"" ++ asBytes after ++
    asBytes "\",\"fresh_until\":\"" ++ asBytes fresh ++ asBytes "\",\"valid_until\":\"" ++
    asBytes validUntil ++ asBytes "\",\"relays\":[]\x7d"

def documentBytes : Bytes :=
  documentText "497630" "2026-10-08T14:00:00Z" "2026-10-08T15:00:00Z" "2026-10-08T20:00:00Z"

def nextDocumentBytes : Bytes :=
  documentText "497631" "2026-10-08T15:00:00Z" "2026-10-08T16:00:00Z" "2026-10-08T21:00:00Z"

def signature : Bytes :=
  [135, 227, 189, 115, 204, 182, 224, 87, 215, 223, 158, 83, 19, 74, 22, 189, 97, 193, 5, 142, 222,
    219, 81, 244, 200, 55, 57, 154, 31, 233, 39, 82, 254, 253, 99, 20, 233, 149, 174, 93, 187, 191, 18,
    76, 180, 206, 17, 19, 61, 150, 17, 178, 44, 4, 183, 141, 69, 187, 30, 145, 95, 38, 133, 10]

def nextSignature : Bytes :=
  [206, 199, 253, 210, 138, 194, 24, 165, 12, 28, 53, 152, 82, 27, 20, 157, 227, 57, 113, 147, 108,
    69, 111, 189, 192, 20, 236, 233, 29, 254, 251, 60, 87, 0, 55, 13, 106, 85, 109, 188, 163, 18, 72,
    55, 27, 19, 153, 114, 7, 91, 251, 236, 220, 4, 160, 210, 176, 214, 191, 145, 106, 168, 105, 8]

def b64Encode (bytes : Bytes) : String := ofAscii (Base64.encode bytes)

def envelopeFor (bytes sig : Bytes) : Envelope :=
  ⟨b64Encode bytes, [⟨"fe812c12f3ab4ce6", b64Encode sig⟩]⟩

/-- The JSON text of an envelope with one signature. -/
def bodyFor (bytes sig : Bytes) : Bytes :=
  asBytes "\x7b\"document\":\"" ++ Base64.encode bytes ++
    asBytes "\",\"signatures\":[\x7b\"key_id\":\"fe812c12f3ab4ce6\",\"sig\":\"" ++ Base64.encode sig ++
    asBytes "\"\x7d]\x7d"

def body : Bytes := bodyFor documentBytes signature

def nextBody : Bytes := bodyFor nextDocumentBytes nextSignature

def stateFor (version : Int) (bytes sig : Bytes) : RegistryState :=
  ⟨version, b64Encode bytes, ["fe812c12f3ab4ce6"], some (b64Encode (bodyFor bytes sig))⟩

/-- The pretty-printed JSON text of a stored state. -/
def stateText (version : String) (bytes sig : Bytes) : Bytes :=
  asBytes "\x7b\n  \"highest_version\": " ++ asBytes version ++ asBytes ",\n  \"document_b64\": \"" ++
    Base64.encode bytes ++ asBytes "\",\n  \"key_ids\": [\n    \"fe812c12f3ab4ce6\"\n  ],\n  \"envelope_b64\": \"" ++
    Base64.encode (bodyFor bytes sig) ++ asBytes "\"\n\x7d"

/-- The external functions on these inputs; anything else is refused.  Base64 is
the real code. -/
def external : External where
  sha256 := fun bytes => if bytes = signingKey.val then signingKeyDigest else []
  verifyStrict := fun key msg sig =>
    key = signingKey ∧ ((msg = signedMessage documentBytes ∧ sig = signature) ∨
      (msg = signedMessage nextDocumentBytes ∧ sig = nextSignature))
  b64Encode := b64Encode
  b64Decode := fun text =>
    match Base64.decode text with
    | some bytes => .ok bytes
    | none => .error "Invalid padding"
  parseEnvelope := fun bytes =>
    if bytes = body then .ok (envelopeFor documentBytes signature)
    else if bytes = nextBody then .ok (envelopeFor nextDocumentBytes nextSignature)
    else .error "expected value at line 1 column 1"
  parseDocument := fun bytes =>
    if bytes = documentBytes then .ok document
    else if bytes = nextDocumentBytes then .ok nextDocument
    else .error "expected value at line 1 column 1"
  parseState := fun bytes =>
    if bytes = stateText "497630" documentBytes signature then .ok (stateFor 497630 documentBytes signature)
    else if bytes = stateText "497631" nextDocumentBytes nextSignature then
      .ok (stateFor 497631 nextDocumentBytes nextSignature)
    else .error "expected value at line 1 column 1"
  encodeState := fun state =>
    if state = stateFor 497630 documentBytes signature then .ok (stateText "497630" documentBytes signature)
    else if state = stateFor 497631 nextDocumentBytes nextSignature then
      .ok (stateText "497631" nextDocumentBytes nextSignature)
    else .error "unsupported value"

/-- Half an hour past its `valid_after` the document is accepted on first use. -/
theorem verify_body : verify external body [pinnedKey] 1 1791469800 none =
    .ok ⟨document, documentBytes, ["fe812c12f3ab4ce6"]⟩ := by decide +kernel

end Sample

/-- The signature threshold.  Acceptance needs `threshold` different pinned keys
with a valid entry over exactly the returned bytes; the document and the bytes do
not depend on the signature list; only the set of usable entries matters; more
entries never turn acceptance into refusal; and below the threshold the document
is not parsed. -/
theorem verify_signature_threshold (pinned : List PinnedKey) (threshold : Nat)
    (derived : ∀ pin ∈ pinned, pin.keyId = keyIdFor lib pin.key) :
    (forall body nowUnix previous verified,
      verify lib body pinned threshold nowUnix previous = .ok verified ->
      ∃ envelope, lib.parseEnvelope body = .ok envelope ∧
        ∃ signers : Signers lib pinned (signedMessage verified.bytes) envelope.signatures,
          threshold ≤ signers.pins.length) ∧
    (forall body other envelope otherEnvelope, lib.parseEnvelope body = .ok envelope ->
      lib.parseEnvelope other = .ok otherEnvelope -> envelope.document = otherEnvelope.document ->
      (forall nowUnix otherNow previous otherPrevious verified otherVerified,
        verify lib body pinned threshold nowUnix previous = .ok verified ->
        verify lib other pinned threshold otherNow otherPrevious = .ok otherVerified ->
        verified.document = otherVerified.document ∧ verified.bytes = otherVerified.bytes) ∧
      ((forall bytes, lib.b64Decode (asBytes envelope.document) = .ok bytes ->
          forall entry, ¬ Unusable lib pinned (signedMessage bytes) entry ->
            (entry ∈ envelope.signatures ↔ entry ∈ otherEnvelope.signatures)) ->
        forall nowUnix previous,
          verify lib body pinned threshold nowUnix previous =
            verify lib other pinned threshold nowUnix previous) ∧
      (envelope.signatures ⊆ otherEnvelope.signatures ->
        forall nowUnix previous verified,
          verify lib body pinned threshold nowUnix previous = .ok verified ->
          ∃ keyIds, verify lib other pinned threshold nowUnix previous =
            .ok { verified with keyIds := keyIds })) ∧
    (forall body,
      (forall envelope bytes, lib.parseEnvelope body = .ok envelope ->
        lib.b64Decode (asBytes envelope.document) = .ok bytes ->
        forall signers : Signers lib pinned (signedMessage bytes) envelope.signatures,
          signers.pins.length < threshold) ->
      forall nowUnix previous parse,
        verify { lib with parseDocument := parse } body pinned threshold nowUnix previous =
          verify lib body pinned threshold nowUnix previous) := by
  refine ⟨?_, ?_, ?_⟩
  · intro body nowUnix previous verified accepted
    obtain ⟨-, envelope, parsed, -, enough, -⟩ := verify_ok lib accepted
    obtain ⟨signers, count⟩ :=
      signers_of_acceptedIds lib derived (signedMessage verified.bytes) envelope.signatures
    exact ⟨envelope, parsed, signers, count ▸ enough⟩
  · intro body other envelope otherEnvelope parsed otherParsed sameDocument
    refine ⟨?_, fun sameUsable => verify_congr lib parsed otherParsed sameDocument sameUsable threshold, ?_⟩
    · intro nowUnix otherNow previous otherPrevious verified otherVerified accepted otherAccepted
      obtain ⟨decoded, document⟩ := decoded_of_verify_ok lib parsed accepted
      obtain ⟨otherDecoded, otherDocument⟩ := decoded_of_verify_ok lib otherParsed otherAccepted
      rw [sameDocument] at decoded
      have sameBytes : verified.bytes = otherVerified.bytes :=
        Except.ok.inj (decoded.symm.trans otherDecoded)
      rw [sameBytes, otherDocument] at document
      exact ⟨(Except.ok.inj document).symm, sameBytes⟩
    · intro subset nowUnix previous verified accepted
      exact verify_mono lib parsed otherParsed sameDocument subset accepted
  · intro body tooFew nowUnix previous parse
    exact verify_unparsed lib derived tooFew nowUnix previous parse

/-- The sample key alone reaches a threshold of one on the sample document. -/
theorem verify_signature_threshold_sample :
    verify Sample.external Sample.body [Sample.pinnedKey] 1 1791469800 none =
        .ok ⟨Sample.document, Sample.documentBytes, ["fe812c12f3ab4ce6"]⟩ ∧
      ∃ envelope, Sample.external.parseEnvelope Sample.body = .ok envelope ∧
        ∃ signers : Signers Sample.external [Sample.pinnedKey] (signedMessage Sample.documentBytes)
          envelope.signatures, 1 ≤ signers.pins.length := by
  have accepted := Sample.verify_body
  have derived : ∀ pin ∈ [Sample.pinnedKey], pin.keyId = keyIdFor Sample.external pin.key := by
    decide +kernel
  exact ⟨accepted, (verify_signature_threshold Sample.external [Sample.pinnedKey] 1 derived).1 _ _ _ _ accepted⟩

end Registry
end QuietHop
