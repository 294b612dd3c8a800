import Mathlib.Data.String.Basic
import QuietHop.Client.Error
import QuietHop.Lib.Selection

namespace QuietHop
namespace Client

open Lib Lib.Selection Net Registry

/-!
# Path selection

The client draws its path from a verified document alone.  Every entry is checked,
the valid triples of a guard, a middle and an exit are counted, and one of them is
drawn uniformly by walking to a random index.  The specification at the end of this
module states the rules without reference to how they are evaluated.
-/

def maxRelays : Nat := 256

structure PathRules where
  requireOperatorDiversity : Bool := false
  deriving DecidableEq, Repr

structure SelectedPath where
  guard : RelayEntry
  middle : RelayEntry
  exit : RelayEntry
  operatorSpan : Nat
  deriving DecidableEq, Repr

/-- A registry entry that passed well-formedness, with its address parsed once. -/
structure Candidate where
  entry : RelayEntry
  ip : IpAddr
  deriving DecidableEq

def isAsciiHexdigit (byte : UInt8) : Bool :=
  (48 ≤ byte.toNat ∧ byte.toNat ≤ 57) ∨ (65 ≤ byte.toNat ∧ byte.toNat ≤ 70) ∨
    (97 ≤ byte.toNat ∧ byte.toNat ≤ 102)

/-- The body of the loop in `candidates`. -/
def candidate (entry : RelayEntry) : Except ClientError Candidate :=
  if entry.id.isEmpty || entry.operatorId.isEmpty || entry.hostId.isEmpty || entry.tlsName.isEmpty ||
      entry.port == 0 || (asBytes entry.staticPubkey).length != Wire.staticKeyLen * 2 ||
      !(asBytes entry.staticPubkey).all isAsciiHexdigit ||
      !(entry.role == "guard" || entry.role == "middle" || entry.role == "exit") then
    .error (.noPath .invalidRegistryEntry)
  else
    match entry.ipAddr with
    | .error _ => .error (.noPath .invalidRegistryEntry)
    | .ok ip => .ok ⟨entry, ip⟩

/-- Validate every entry, rejecting the whole document if any is malformed. -/
def candidates (doc : Document) : Except ClientError (List Candidate) :=
  doc.relays.mapM candidate

def byRole (all : List Candidate) (role : String) : List Candidate :=
  all.filter fun c => c.entry.role == role

/-- Whether two addresses fall in the same IPv4 /16 or IPv6 /32. -/
def samePrefix : IpAddr -> IpAddr -> Bool
  | .v4 a, .v4 b => a.octets.take 2 = b.octets.take 2
  | .v6 a, .v6 b => a.octets.take 4 = b.octets.take 4
  | _, _ => false

def tripleIsValid (rules : PathRules) (g m e : Candidate) : Bool :=
  if g.entry.id = m.entry.id ∨ g.entry.id = e.entry.id ∨ m.entry.id = e.entry.id then false
  -- rule a, enforced only when operator diversity is required
  else if rules.requireOperatorDiversity ∧ (g.entry.operatorId = m.entry.operatorId ∨
      g.entry.operatorId = e.entry.operatorId ∨ m.entry.operatorId = e.entry.operatorId) then false
  -- rule b
  else if g.entry.hostId = m.entry.hostId ∨ g.entry.hostId = e.entry.hostId ∨
      m.entry.hostId = e.entry.hostId then false
  -- rule c
  else !(samePrefix g.ip m.ip || samePrefix g.ip e.ip || samePrefix m.ip e.ip)

def countValid (guards middles exits : List Candidate) (rules : PathRules) : Nat :=
  guards.foldl (fun n g => middles.foldl (fun n m => exits.foldl (fun n e =>
    if tripleIsValid rules g m e then n + 1 else n) n) n) 0

/-- `sort_unstable` and the windows of two that differ.  Strings compare by their
code points, which is the order of their UTF-8 bytes. -/
def operatorSpan (g m e : Candidate) : Nat :=
  1 + changes ([g.entry.operatorId, m.entry.operatorId, e.entry.operatorId].insertionSort (· ≤ ·))

/-- The walk to the wanted triple.  The early return is the error of the loop. -/
def walk (guards middles exits : List Candidate) (rules : PathRules) (wanted : Nat) :
    Except (Candidate × Candidate × Candidate) Nat :=
  guards.foldlM (fun seen g => middles.foldlM (fun seen m => exits.foldlM (fun seen e =>
    if !tripleIsValid rules g m e then .ok seen
    else if seen = wanted then .error (g, m, e)
    else .ok (seen + 1)) seen) seen) 0

/-- The part of `select_with` after the checks on the document, with the generator as
a function from the range to a draw.  `none` is the `unreachable!` at the end. -/
def drawFrom (guards middles exits : List Candidate) (rules : PathRules)
    (genRange : (total : Nat) -> 0 < total -> Fin total) : Option (Except ClientError SelectedPath) :=
  if guards.isEmpty || middles.isEmpty || exits.isEmpty then some (.error (.noPath .insufficientRelays))
  else
    let total := countValid guards middles exits rules
    if zero : total = 0 then some (.error (.noPath .diversityUnsatisfiable))
    else
      match walk guards middles exits rules (genRange total (Nat.pos_of_ne_zero zero)) with
      | .error (g, m, e) => some (.ok ⟨g.entry, m.entry, e.entry, operatorSpan g m e⟩)
      | .ok _ => none

def selectWith (doc : Document) (rules : PathRules) (nowUnix : Int)
    (genRange : (total : Nat) -> 0 < total -> Fin total) : Option (Except ClientError SelectedPath) :=
  match doc.isUsableAt nowUnix with
  | .error reason => some (.error (.registry reason))
  | .ok false => some (.error (.noPath .registryUnusable))
  | .ok true =>
      if doc.relays.length > maxRelays then some (.error (.noPath .registryTooLarge))
      else
        match candidates doc with
        | .error reason => some (.error reason)
        | .ok all => drawFrom (byRole all "guard") (byRole all "middle") (byRole all "exit") rules genRange

/-! ## The rules -/

/-- What an entry must satisfy for its document to be used at all. -/
structure WellFormed (entry : RelayEntry) : Prop where
  id : entry.id ≠ ""
  operatorId : entry.operatorId ≠ ""
  hostId : entry.hostId ≠ ""
  tlsName : entry.tlsName ≠ ""
  port : entry.port ≠ 0
  keyLength : (asBytes entry.staticPubkey).length = 64
  keyDigits : ∀ digit ∈ asBytes entry.staticPubkey, isAsciiHexdigit digit = true
  role : entry.role = "guard" ∨ entry.role = "middle" ∨ entry.role = "exit"
  address : ∃ ip, parseIpAddr entry.ip = some ip

/-- The number of an address's IPv4 /16 or IPv6 /32, after reducing an IPv4-mapped
address. -/
def network (ip : IpAddr) : Nat ⊕ Nat :=
  match canonicalIp ip with
  | .v4 address => .inl (BigEndian.toNat address.octets / 2 ^ 16)
  | .v6 address => .inr (BigEndian.toNat address.octets / 2 ^ 96)

def SharesNetwork (left right : RelayEntry) : Prop :=
  ∃ first second, parseIpAddr left.ip = some first ∧ parseIpAddr right.ip = some second ∧
    network first = network second

/-- The rules that hold between any two hops of a path. -/
structure Apart (rules : PathRules) (left right : RelayEntry) : Prop where
  id : left.id ≠ right.id
  hostId : left.hostId ≠ right.hostId
  operatorId : rules.requireOperatorDiversity = true -> left.operatorId ≠ right.operatorId
  network : ¬ SharesNetwork left right

/-- A path the rules allow, drawn from the document. -/
structure Allowed (doc : Document) (rules : PathRules) (g m e : RelayEntry) : Prop where
  listed : g ∈ doc.relays ∧ m ∈ doc.relays ∧ e ∈ doc.relays
  roles : g.role = "guard" ∧ m.role = "middle" ∧ e.role = "exit"
  guardMiddle : Apart rules g m
  guardExit : Apart rules g e
  middleExit : Apart rules m e

/-- The document's validity window holds `now`, with the skew allowance at its
start. -/
def Usable (doc : Document) (now : Int) : Prop :=
  ∃ after limit, doc.validAfterUnix = .ok after ∧ doc.validUntilUnix = .ok limit ∧
    after ≤ now + skewAllowanceSecs ∧ now < limit

/-- The timestamps of the window parse. -/
def Dated (doc : Document) : Prop :=
  ∃ after limit, doc.validAfterUnix = .ok after ∧ doc.validUntilUnix = .ok limit

/-! ## Entries -/

theorem isAsciiHexdigit_iff (byte : UInt8) : isAsciiHexdigit byte = true ↔ (toDigit 16 byte).isSome = true := by
  simp only [isAsciiHexdigit, toDigit, decide_eq_true_eq, Option.isSome_filter]
  split_ifs <;> simp <;> omega

theorem wellFormed_iff (entry : RelayEntry) :
    WellFormed entry ↔ ∃ ip, parseIpAddr entry.ip = some ip ∧ candidate entry = .ok ⟨entry, canonicalIp ip⟩ := by
  constructor
  · intro formed
    rcases formed.address with ⟨ip, parsed⟩
    refine ⟨ip, parsed, ?_⟩
    have digits : (asBytes entry.staticPubkey).all isAsciiHexdigit = true := List.all_eq_true.mpr formed.keyDigits
    have length : (asBytes entry.staticPubkey).length = Wire.staticKeyLen * 2 := formed.keyLength
    rcases formed.role with role | role | role <;>
      simp [candidate, formed.id, formed.operatorId, formed.hostId, formed.tlsName, formed.port, length, digits, role,
        RelayEntry.ipAddr, parsed]
  · rintro ⟨ip, parsed, accepted⟩
    rw [candidate] at accepted
    split_ifs at accepted with bad
    simp only [Bool.or_eq_true, Bool.not_eq_true', beq_iff_eq, bne_iff_ne, String.isEmpty_iff, not_or] at bad
    rcases bad with ⟨⟨⟨⟨⟨⟨⟨id, operatorId⟩, hostId⟩, tlsName⟩, port⟩, keyLength⟩, keyDigits⟩, role⟩
    refine ⟨id, operatorId, hostId, tlsName, port, Decidable.not_not.mp keyLength, ?_, ?_, ip, parsed⟩
    · exact List.all_eq_true.mp (by simpa using keyDigits)
    · simp only [Bool.not_eq_false, Bool.or_eq_true, beq_iff_eq] at role
      tauto

/-- An entry gives a candidate or the one error. -/
theorem candidate_of_not_wellFormed {entry : RelayEntry} (malformed : ¬ WellFormed entry) :
    candidate entry = .error (.noPath .invalidRegistryEntry) := by
  rw [wellFormed_iff] at malformed
  rw [candidate] at malformed ⊢
  split_ifs with bad
  · rfl
  · rw [if_neg bad, RelayEntry.ipAddr] at malformed
    rw [RelayEntry.ipAddr]
    cases parsed : parseIpAddr entry.ip with
    | none => rfl
    | some ip => exact absurd ⟨ip, parsed, by rw [parsed]⟩ malformed

/-- A candidate that stands for its entry. -/
def Stands (c : Candidate) : Prop :=
  ∃ ip, parseIpAddr c.entry.ip = some ip ∧ c.ip = canonicalIp ip

theorem mapM_candidate {relays : List RelayEntry} (formed : ∀ entry ∈ relays, WellFormed entry) :
    ∃ all, relays.mapM candidate = .ok all ∧ all.map Candidate.entry = relays ∧ ∀ c ∈ all, Stands c := by
  induction relays with
  | nil => exact ⟨[], rfl, rfl, by simp⟩
  | cons entry relays ih =>
      rcases List.forall_mem_cons.mp formed with ⟨first, others⟩
      rcases (wellFormed_iff entry).mp first with ⟨ip, parsed, accepted⟩
      rcases ih others with ⟨all, mapped, entries, stand⟩
      refine ⟨⟨entry, canonicalIp ip⟩ :: all, ?_, ?_, ?_⟩
      · rw [List.mapM_cons, accepted, mapped]
        rfl
      · rw [List.map_cons, entries]
      · exact List.forall_mem_cons.mpr ⟨⟨ip, parsed, rfl⟩, stand⟩

theorem mapM_candidate_error {relays : List RelayEntry} (malformed : ∃ entry ∈ relays, ¬ WellFormed entry) :
    relays.mapM candidate = .error (.noPath .invalidRegistryEntry) := by
  induction relays with
  | nil => simp at malformed
  | cons entry relays ih =>
      rw [List.mapM_cons]
      by_cases first : WellFormed entry
      · rcases (wellFormed_iff entry).mp first with ⟨ip, _, accepted⟩
        have later : ∃ other ∈ relays, ¬ WellFormed other := by simpa [first] using malformed
        rw [accepted, ih later]
        rfl
      · rw [candidate_of_not_wellFormed first]
        rfl

/-- The two decoders used after selection accept every entry that passed it. -/
theorem WellFormed.decodes {entry : RelayEntry} (formed : WellFormed entry) :
    (∃ addr, entry.addr = .ok addr) ∧ ∃ key, entry.staticKey = .ok key := by
  rcases formed.address with ⟨ip, parsed⟩
  constructor
  · exact ⟨⟨canonicalIp ip, entry.port⟩, by simp [RelayEntry.addr, RelayEntry.ipAddr, parsed, formed.port]⟩
  · have even : (asBytes entry.staticPubkey).length % 2 = 0 := by rw [formed.keyLength]
    have digits := fun byte member => (isAsciiHexdigit_iff byte).mp (formed.keyDigits byte member)
    rcases decodePairs_of_digits even digits with ⟨raw, read, size⟩
    have exact32 : raw.length = Wire.staticKeyLen := by
      rw [formed.keyLength] at size
      exact Nat.eq_of_mul_eq_mul_left (by omega) size
    exact ⟨⟨raw, exact32⟩, by simp [RelayEntry.staticKey, decodeHex, even, read, exact32]⟩

/-! ## Triples -/

theorem take_eq_take_iff {left right : Bytes} (count : Nat) (same : left.length = right.length) :
    left.take count = right.take count ↔
      BigEndian.toNat left / 256 ^ (left.length - count) = BigEndian.toNat right / 256 ^ (left.length - count) := by
  rw [← BigEndian.toNat_take, same, ← BigEndian.toNat_take]
  constructor
  · intro equal
    rw [equal]
  · exact BigEndian.toNat_injective_of_length (by simp [same])

theorem samePrefix_iff (left right : IpAddr) :
    samePrefix (canonicalIp left) (canonicalIp right) = true ↔ network left = network right := by
  simp only [network]
  cases canonicalIp left with
  | v4 a =>
      cases canonicalIp right with
      | v4 b =>
          have prefixes := take_eq_take_iff 2 (a.length_eq.trans b.length_eq.symm)
          rw [a.length_eq] at prefixes
          simpa [samePrefix] using prefixes
      | v6 b => simp [samePrefix]
  | v6 a =>
      cases canonicalIp right with
      | v4 b => simp [samePrefix]
      | v6 b =>
          have prefixes := take_eq_take_iff 4 (a.length_eq.trans b.length_eq.symm)
          rw [a.length_eq] at prefixes
          simpa [samePrefix] using prefixes

theorem Stands.samePrefix_iff {left right : Candidate} (first : Stands left) (second : Stands right) :
    samePrefix left.ip right.ip = true ↔ SharesNetwork left.entry right.entry := by
  rcases first with ⟨a, readA, ipA⟩
  rcases second with ⟨b, readB, ipB⟩
  rw [ipA, ipB, Client.samePrefix_iff]
  constructor
  · intro same
    exact ⟨a, b, readA, readB, same⟩
  · rintro ⟨a', b', readA', readB', same⟩
    rw [readA] at readA'
    rw [readB] at readB'
    cases readA'
    cases readB'
    exact same

/-- The four tests of a triple, each free of its pairs. -/
theorem tripleIsValid_eq_true_iff (rules : PathRules) (g m e : Candidate) :
    tripleIsValid rules g m e = true ↔
      (g.entry.id ≠ m.entry.id ∧ g.entry.id ≠ e.entry.id ∧ m.entry.id ≠ e.entry.id) ∧
      (rules.requireOperatorDiversity = true -> g.entry.operatorId ≠ m.entry.operatorId ∧
        g.entry.operatorId ≠ e.entry.operatorId ∧ m.entry.operatorId ≠ e.entry.operatorId) ∧
      (g.entry.hostId ≠ m.entry.hostId ∧ g.entry.hostId ≠ e.entry.hostId ∧ m.entry.hostId ≠ e.entry.hostId) ∧
      (samePrefix g.ip m.ip = false ∧ samePrefix g.ip e.ip = false ∧ samePrefix m.ip e.ip = false) := by
  simp only [tripleIsValid, Bool.if_false_left, Bool.and_eq_true, Bool.not_eq_true', decide_eq_false_iff_not,
    Bool.or_eq_false_iff, not_or, not_and, and_assoc]

theorem tripleIsValid_iff {g m e : Candidate} (rules : PathRules) (standG : Stands g) (standM : Stands m)
    (standE : Stands e) : tripleIsValid rules g m e = true ↔
      Apart rules g.entry m.entry ∧ Apart rules g.entry e.entry ∧ Apart rules m.entry e.entry := by
  have apart : forall {left right : Candidate}, Stands left -> Stands right ->
      (samePrefix left.ip right.ip = false ↔ ¬ SharesNetwork left.entry right.entry) := by
    intro left right first second
    rw [← first.samePrefix_iff second, Bool.not_eq_true]
  rw [tripleIsValid_eq_true_iff, apart standG standM, apart standG standE, apart standM standE]
  constructor
  · rintro ⟨ids, operators, hosts, networks⟩
    refine ⟨⟨ids.1, hosts.1, ?_, networks.1⟩, ⟨ids.2.1, hosts.2.1, ?_, networks.2.1⟩,
      ⟨ids.2.2, hosts.2.2, ?_, networks.2.2⟩⟩
    · exact fun required => (operators required).1
    · exact fun required => (operators required).2.1
    · exact fun required => (operators required).2.2
  · rintro ⟨gm, ge, me⟩
    exact ⟨⟨gm.id, ge.id, me.id⟩,
      fun required => ⟨gm.operatorId required, ge.operatorId required, me.operatorId required⟩,
      ⟨gm.hostId, ge.hostId, me.hostId⟩, ⟨gm.network, ge.network, me.network⟩⟩

theorem operatorSpan_eq (g m e : Candidate) :
    operatorSpan g m e = ({g.entry.operatorId, m.entry.operatorId, e.entry.operatorId} : Finset String).card := by
  have sorted := List.pairwise_insertionSort (· ≤ ·) [g.entry.operatorId, m.entry.operatorId, e.entry.operatorId]
  have perm := List.perm_insertionSort (· ≤ ·) [g.entry.operatorId, m.entry.operatorId, e.entry.operatorId]
  rw [operatorSpan]
  cases ids : [g.entry.operatorId, m.entry.operatorId, e.entry.operatorId].insertionSort (· ≤ ·) with
  | nil => simp [ids] at perm
  | cons first rest =>
      rw [ids] at sorted perm
      rw [changes_eq_card first rest sorted, List.toFinset_eq_of_perm _ _ perm]
      simp

/-! ## The draw -/

theorem countValid_eq (guards middles exits : List Candidate) (rules : PathRules) :
    countValid guards middles exits rules =
      (triples guards middles exits).foldl (tally fun t => tripleIsValid rules t.1 t.2.1 t.2.2) 0 :=
  foldl_triples (tally fun t : Candidate × Candidate × Candidate => tripleIsValid rules t.1 t.2.1 t.2.2) 0
    guards middles exits

theorem walk_eq (guards middles exits : List Candidate) (rules : PathRules) (wanted : Nat) :
    walk guards middles exits rules wanted =
      (triples guards middles exits).foldlM (visit (fun t => tripleIsValid rules t.1 t.2.1 t.2.2) wanted) 0 :=
  foldlM_triples (visit (fun t : Candidate × Candidate × Candidate => tripleIsValid rules t.1 t.2.1 t.2.2) wanted) 0
    guards middles exits

/-- The draw fails for one of two reasons, or returns a valid triple. -/
theorem drawFrom_cases (guards middles exits : List Candidate) (rules : PathRules)
    (genRange : (total : Nat) -> 0 < total -> Fin total) :
    (drawFrom guards middles exits rules genRange = some (.error (.noPath .insufficientRelays)) ∧
      (guards = [] ∨ middles = [] ∨ exits = [])) ∨
    (drawFrom guards middles exits rules genRange = some (.error (.noPath .diversityUnsatisfiable)) ∧
      guards ≠ [] ∧ middles ≠ [] ∧ exits ≠ [] ∧
      ∀ g ∈ guards, ∀ m ∈ middles, ∀ e ∈ exits, tripleIsValid rules g m e = false) ∨
    ∃ g ∈ guards, ∃ m ∈ middles, ∃ e ∈ exits, tripleIsValid rules g m e = true ∧
      drawFrom guards middles exits rules genRange =
        some (.ok ⟨g.entry, m.entry, e.entry, operatorSpan g m e⟩) := by
  simp only [drawFrom]
  split_ifs with empty zero
  · left
    simp only [Bool.or_eq_true, List.isEmpty_iff] at empty
    exact ⟨rfl, or_assoc.mp empty⟩
  · right; left
    simp only [Bool.or_eq_true, List.isEmpty_iff, not_or] at empty
    refine ⟨rfl, empty.1.1, empty.1.2, empty.2, ?_⟩
    rw [countValid_eq, foldl_tally_eq_zero_iff] at zero
    intro g isGuard m isMiddle e isExit
    exact zero (g, m, e) (mem_triples.mpr ⟨isGuard, isMiddle, isExit⟩)
  · right; right
    have inRange := Nat.lt_of_lt_of_eq (genRange _ (Nat.pos_of_ne_zero zero)).isLt
      (countValid_eq guards middles exits rules)
    rcases foldlM_visit_of_lt _ _ _ inRange with ⟨⟨g, m, e⟩, member, valid, found⟩
    rcases mem_triples.mp member with ⟨isGuard, isMiddle, isExit⟩
    refine ⟨g, isGuard, m, isMiddle, e, isExit, valid, ?_⟩
    rw [walk_eq, found]

theorem mem_byRole {all : List Candidate} {role : String} {c : Candidate} :
    c ∈ byRole all role ↔ c ∈ all ∧ c.entry.role = role := by
  simp [byRole]

theorem byRole_eq_nil_iff {all : List Candidate} {role : String} :
    byRole all role = [] ↔ ∀ entry ∈ all.map Candidate.entry, entry.role ≠ role := by
  simp [byRole, List.filter_eq_nil_iff]

/-- The results of a selection, each with the case it belongs to. -/
inductive Verdict (doc : Document) (rules : PathRules) (now : Int) : Except ClientError SelectedPath -> Prop
  | undated (reason : RegistryError) (undated : ¬ Dated doc) : Verdict doc rules now (.error (.registry reason))
  | unusable (dated : Dated doc) (outside : ¬ Usable doc now) :
      Verdict doc rules now (.error (.noPath .registryUnusable))
  | tooLarge (usable : Usable doc now) (large : maxRelays < doc.relays.length) :
      Verdict doc rules now (.error (.noPath .registryTooLarge))
  | malformed (usable : Usable doc now) (small : doc.relays.length ≤ maxRelays)
      (malformed : ¬ ∀ entry ∈ doc.relays, WellFormed entry) :
      Verdict doc rules now (.error (.noPath .invalidRegistryEntry))
  | insufficient (usable : Usable doc now) (small : doc.relays.length ≤ maxRelays)
      (formed : ∀ entry ∈ doc.relays, WellFormed entry)
      (missing : ¬ ∀ role ∈ ["guard", "middle", "exit"], ∃ entry ∈ doc.relays, entry.role = role) :
      Verdict doc rules now (.error (.noPath .insufficientRelays))
  | unsatisfiable (usable : Usable doc now) (small : doc.relays.length ≤ maxRelays)
      (formed : ∀ entry ∈ doc.relays, WellFormed entry)
      (staffed : ∀ role ∈ ["guard", "middle", "exit"], ∃ entry ∈ doc.relays, entry.role = role)
      (forbidden : ¬ ∃ g m e, Allowed doc rules g m e) :
      Verdict doc rules now (.error (.noPath .diversityUnsatisfiable))
  | selected (usable : Usable doc now) (small : doc.relays.length ≤ maxRelays)
      (formed : ∀ entry ∈ doc.relays, WellFormed entry) (path : SelectedPath)
      (allowed : Allowed doc rules path.guard path.middle path.exit)
      (span : path.operatorSpan =
        ({path.guard.operatorId, path.middle.operatorId, path.exit.operatorId} : Finset String).card) :
      Verdict doc rules now (.ok path)

theorem isUsableAt_cases (doc : Document) (now : Int64) :
    ((∃ reason, doc.isUsableAt now.toInt = .error reason) ∧ ¬ Dated doc) ∨
    (doc.isUsableAt now.toInt = .ok false ∧ Dated doc ∧ ¬ Usable doc now.toInt) ∨
    (doc.isUsableAt now.toInt = .ok true ∧ Usable doc now.toInt) := by
  cases starts : doc.validAfterUnix with
  | error reason =>
      left
      refine ⟨⟨reason, by simp only [Document.isUsableAt, starts]⟩, ?_⟩
      rintro ⟨after, limit, parsed, _⟩
      rw [starts] at parsed
      cases parsed
  | ok after =>
      cases ends : doc.validUntilUnix with
      | error reason =>
          left
          refine ⟨⟨reason, by simp only [Document.isUsableAt, starts, ends]⟩, ?_⟩
          rintro ⟨_, limit, _, parsed⟩
          rw [ends] at parsed
          cases parsed
      | ok limit =>
          right
          rw [Document.isUsableAt_eq now starts ends]
          by_cases inside : after ≤ now.toInt + skewAllowanceSecs ∧ now.toInt < limit
          · right
            exact ⟨by rw [decide_eq_true inside], after, limit, starts, ends, inside⟩
          · left
            refine ⟨by rw [decide_eq_false inside], ⟨after, limit, starts, ends⟩, ?_⟩
            rintro ⟨after', limit', starts', ends', inside'⟩
            rw [starts] at starts'
            rw [ends] at ends'
            cases starts'
            cases ends'
            exact inside inside'

/-- Every selection ends in exactly one of its cases and never runs off the end of
the walk. -/
theorem selectWith_verdict (doc : Document) (rules : PathRules) (now : Int64)
    (genRange : (total : Nat) -> 0 < total -> Fin total) :
    ∃ result, selectWith doc rules now.toInt genRange = some result ∧ Verdict doc rules now.toInt result := by
  rw [selectWith]
  rcases isUsableAt_cases doc now with ⟨⟨reason, fails⟩, undated⟩ | ⟨outside, dated, unusable⟩ | ⟨inside, usable⟩
  · exact ⟨_, by rw [fails], .undated reason undated⟩
  · exact ⟨_, by rw [outside], .unusable dated unusable⟩
  rw [inside]
  by_cases large : maxRelays < doc.relays.length
  · exact ⟨_, by rw [if_pos large], .tooLarge usable large⟩
  have small := Nat.le_of_not_lt large
  simp only [gt_iff_lt, if_neg large]
  by_cases formed : ∀ entry ∈ doc.relays, WellFormed entry
  · rcases mapM_candidate formed with ⟨all, mapped, entries, stand⟩
    rw [candidates, mapped]
    have listed : ∀ c ∈ all, c.entry ∈ doc.relays := by
      intro c member
      rw [← entries]
      exact List.mem_map_of_mem member
    have empty : forall role, byRole all role = [] ↔ ¬ ∃ entry ∈ doc.relays, entry.role = role := by
      intro role
      rw [byRole_eq_nil_iff, entries]
      simp
    rcases drawFrom_cases (byRole all "guard") (byRole all "middle") (byRole all "exit") rules genRange with
      ⟨result, missing⟩ | ⟨result, guards, middles, exits, none⟩ | ⟨g, isGuard, m, isMiddle, e, isExit, valid, result⟩
    · refine ⟨_, result, .insufficient usable small formed ?_⟩
      rw [empty, empty, empty] at missing
      simp only [List.forall_mem_cons, List.not_mem_nil, false_implies, implies_true, and_true]
      rintro ⟨guard, middle, exit⟩
      rcases missing with absent | absent | absent
      · exact absent guard
      · exact absent middle
      · exact absent exit
    · refine ⟨_, result, .unsatisfiable usable small formed ?_ ?_⟩
      · rw [Ne, empty, not_not] at guards middles exits
        simpa using ⟨guards, middles, exits⟩
      · rintro ⟨g, m, e, allowed⟩
        have find : ∀ entry ∈ doc.relays, ∃ c ∈ all, c.entry = entry := by
          intro entry member
          rw [← entries] at member
          exact List.mem_map.mp member
        rcases find g allowed.listed.1 with ⟨cg, inG, rfl⟩
        rcases find m allowed.listed.2.1 with ⟨cm, inM, rfl⟩
        rcases find e allowed.listed.2.2 with ⟨ce, inE, rfl⟩
        have valid := (tripleIsValid_iff rules (stand cg inG) (stand cm inM) (stand ce inE)).mpr
          ⟨allowed.guardMiddle, allowed.guardExit, allowed.middleExit⟩
        rw [none cg (mem_byRole.mpr ⟨inG, allowed.roles.1⟩) cm (mem_byRole.mpr ⟨inM, allowed.roles.2.1⟩) ce
          (mem_byRole.mpr ⟨inE, allowed.roles.2.2⟩)] at valid
        cases valid
    · rcases mem_byRole.mp isGuard with ⟨inG, roleG⟩
      rcases mem_byRole.mp isMiddle with ⟨inM, roleM⟩
      rcases mem_byRole.mp isExit with ⟨inE, roleE⟩
      rcases (tripleIsValid_iff rules (stand g inG) (stand m inM) (stand e inE)).mp valid with ⟨gm, ge, me⟩
      refine ⟨_, result, .selected usable small formed _ ?_ (operatorSpan_eq g m e)⟩
      exact ⟨⟨listed g inG, listed m inM, listed e inE⟩, ⟨roleG, roleM, roleE⟩, gm, ge, me⟩
  · refine ⟨.error (.noPath .invalidRegistryEntry), ?_, .malformed usable small formed⟩
    rw [candidates, mapM_candidate_error (by simpa using formed)]

section Verdict

variable {doc : Document} {rules : PathRules} {now : Int} {result : Except ClientError SelectedPath}

theorem Usable.dated (usable : Usable doc now) : Dated doc := by
  rcases usable with ⟨after, limit, starts, ends, _⟩
  exact ⟨after, limit, starts, ends⟩

theorem Allowed.staffed {g m e : RelayEntry} (allowed : Allowed doc rules g m e) :
    ∀ role ∈ ["guard", "middle", "exit"], ∃ entry ∈ doc.relays, entry.role = role := by
  simpa using ⟨⟨g, allowed.listed.1, allowed.roles.1⟩, ⟨m, allowed.listed.2.1, allowed.roles.2.1⟩,
    ⟨e, allowed.listed.2.2, allowed.roles.2.2⟩⟩

/-- A document belongs to one case of failure only: the conditions of any two cases
contradict each other. -/
theorem Verdict.unique {reason : NoPathReason} (expected : Verdict doc rules now (.error (.noPath reason)))
    (actual : Verdict doc rules now result) : result = .error (.noPath reason) := by
  cases expected with
  | unusable dated outside =>
      cases actual <;> first | rfl | contradiction
  | tooLarge usable large =>
      have isDated := usable.dated
      cases actual <;> first | rfl | contradiction | exact absurd large (Nat.not_lt.mpr ‹_›)
  | malformed usable small malformed =>
      have isDated := usable.dated
      have fits := Nat.not_lt.mpr small
      cases actual <;> first | rfl | contradiction
  | insufficient usable small formed missing =>
      have isDated := usable.dated
      have fits := Nat.not_lt.mpr small
      cases actual <;> first | rfl | contradiction | exact absurd (Allowed.staffed ‹_›) missing
  | unsatisfiable usable small formed staffed forbidden =>
      have isDated := usable.dated
      have fits := Nat.not_lt.mpr small
      cases actual <;> first | rfl | contradiction | exact absurd ⟨_, _, _, ‹_›⟩ forbidden

theorem Verdict.registry_iff (verdict : Verdict doc rules now result) :
    (∃ reason, result = .error (.registry reason)) ↔ ¬ Dated doc := by
  constructor
  · rintro ⟨reason, rfl⟩
    cases verdict with
    | undated _ undated => exact undated
  · intro undated
    cases verdict with
    | undated reason _ => exact ⟨reason, rfl⟩
    | unusable dated _ => exact absurd dated undated
    | _ usable => exact absurd usable.dated undated

theorem Verdict.ok_iff (verdict : Verdict doc rules now result) :
    (∃ path, result = .ok path) ↔ Usable doc now ∧ doc.relays.length ≤ maxRelays ∧
      (∀ entry ∈ doc.relays, WellFormed entry) ∧ ∃ g m e, Allowed doc rules g m e := by
  constructor
  · rintro ⟨path, rfl⟩
    cases verdict with
    | selected usable small formed _ allowed _ => exact ⟨usable, small, formed, _, _, _, allowed⟩
  · rintro ⟨usable, small, formed, g, m, e, allowed⟩
    have isDated := usable.dated
    have fits := Nat.not_lt.mpr small
    have staffed := allowed.staffed
    cases verdict with
    | selected _ _ _ path => exact ⟨path, rfl⟩
    | unsatisfiable _ _ _ _ forbidden => exact absurd ⟨g, m, e, allowed⟩ forbidden
    | _ => contradiction

/-- What a returned path is, and that the later decoders accept its entries. -/
theorem Verdict.path {path : SelectedPath} (verdict : Verdict doc rules now (.ok path)) :
    Allowed doc rules path.guard path.middle path.exit ∧
      path.operatorSpan =
        ({path.guard.operatorId, path.middle.operatorId, path.exit.operatorId} : Finset String).card ∧
      ∀ hop ∈ [path.guard, path.middle, path.exit],
        (∃ addr, hop.addr = .ok addr) ∧ ∃ key, hop.staticKey = .ok key := by
  cases verdict with
  | selected _ _ formed _ allowed span =>
      refine ⟨allowed, span, ?_⟩
      intro hop member
      have listed : hop ∈ doc.relays := by
        simp only [List.mem_cons, List.not_mem_nil, or_false] at member
        rcases member with rfl | rfl | rfl
        · exact allowed.listed.1
        · exact allowed.listed.2.1
        · exact allowed.listed.2.2
      exact (formed hop listed).decodes

end Verdict

/-- Selection succeeds exactly when the rules can be met, returns a path that meets
them, and reports each failure exactly in its own case. -/
theorem select_sound_complete (doc : Document) (rules : PathRules) (now : Int64)
    (genRange : (total : Nat) -> 0 < total -> Fin total) :
    ((∃ path, selectWith doc rules now.toInt genRange = some (.ok path)) ↔
      Usable doc now.toInt ∧ doc.relays.length ≤ maxRelays ∧ (∀ entry ∈ doc.relays, WellFormed entry) ∧
        ∃ g m e, Allowed doc rules g m e) ∧
    (forall path, selectWith doc rules now.toInt genRange = some (.ok path) ->
      Allowed doc rules path.guard path.middle path.exit ∧
      path.operatorSpan =
        ({path.guard.operatorId, path.middle.operatorId, path.exit.operatorId} : Finset String).card ∧
      ∀ hop ∈ [path.guard, path.middle, path.exit],
        (∃ addr, hop.addr = .ok addr) ∧ ∃ key, hop.staticKey = .ok key) ∧
    ((∃ reason, selectWith doc rules now.toInt genRange = some (.error (.registry reason))) ↔ ¬ Dated doc) ∧
    (selectWith doc rules now.toInt genRange = some (.error (.noPath .registryUnusable)) ↔
      Dated doc ∧ ¬ Usable doc now.toInt) ∧
    (selectWith doc rules now.toInt genRange = some (.error (.noPath .registryTooLarge)) ↔
      Usable doc now.toInt ∧ maxRelays < doc.relays.length) ∧
    (selectWith doc rules now.toInt genRange = some (.error (.noPath .invalidRegistryEntry)) ↔
      Usable doc now.toInt ∧ doc.relays.length ≤ maxRelays ∧ ¬ ∀ entry ∈ doc.relays, WellFormed entry) ∧
    (selectWith doc rules now.toInt genRange = some (.error (.noPath .insufficientRelays)) ↔
      Usable doc now.toInt ∧ doc.relays.length ≤ maxRelays ∧ (∀ entry ∈ doc.relays, WellFormed entry) ∧
        ¬ ∀ role ∈ ["guard", "middle", "exit"], ∃ entry ∈ doc.relays, entry.role = role) ∧
    (selectWith doc rules now.toInt genRange = some (.error (.noPath .diversityUnsatisfiable)) ↔
      Usable doc now.toInt ∧ doc.relays.length ≤ maxRelays ∧ (∀ entry ∈ doc.relays, WellFormed entry) ∧
        (∀ role ∈ ["guard", "middle", "exit"], ∃ entry ∈ doc.relays, entry.role = role) ∧
        ¬ ∃ g m e, Allowed doc rules g m e) ∧
    selectWith doc rules now.toInt genRange ≠ none := by
  rcases selectWith_verdict doc rules now genRange with ⟨result, same, verdict⟩
  simp only [same, Option.some.injEq, ne_eq, reduceCtorEq, not_false_eq_true, and_true]
  refine ⟨verdict.ok_iff, ?_, verdict.registry_iff, ?_, ?_, ?_, ?_, ?_⟩
  · rintro path rfl
    exact verdict.path
  · constructor
    · rintro rfl
      cases verdict with
      | unusable dated outside => exact ⟨dated, outside⟩
    · rintro ⟨dated, outside⟩
      exact (Verdict.unusable dated outside).unique verdict
  · constructor
    · rintro rfl
      cases verdict with
      | tooLarge usable large => exact ⟨usable, large⟩
    · rintro ⟨usable, large⟩
      exact (Verdict.tooLarge usable large).unique verdict
  · constructor
    · rintro rfl
      cases verdict with
      | malformed usable small malformed => exact ⟨usable, small, malformed⟩
    · rintro ⟨usable, small, malformed⟩
      exact (Verdict.malformed usable small malformed).unique verdict
  · constructor
    · rintro rfl
      cases verdict with
      | insufficient usable small formed missing => exact ⟨usable, small, formed, missing⟩
    · rintro ⟨usable, small, formed, missing⟩
      exact (Verdict.insufficient usable small formed missing).unique verdict
  · constructor
    · rintro rfl
      cases verdict with
      | unsatisfiable usable small formed staffed forbidden => exact ⟨usable, small, formed, staffed, forbidden⟩
    · rintro ⟨usable, small, formed, staffed, forbidden⟩
      exact (Verdict.unsatisfiable usable small formed staffed forbidden).unique verdict

/-- Two of three guards share the middle's /16, one of them under its mapped
spelling, so only the third can be drawn. -/
example :
    let relay := fun (id role ip : String) =>
      (⟨id, "op", id, role, ip, 443, "tls", String.ofList (List.replicate 64 'a')⟩ : RelayEntry)
    selectWith ⟨1, "2026-10-08T14:00:00Z", "2026-10-08T15:00:00Z", "2026-10-08T20:00:00Z",
        [relay "a" "guard" "10.1.0.1", relay "b" "guard" "::ffff:10.1.7.7", relay "c" "guard" "10.2.0.1",
          relay "m" "middle" "10.1.9.9", relay "e" "exit" "2001:db8::1"]⟩ ⟨false⟩ 1791468000
        (fun _ positive => ⟨0, positive⟩) =
      some (.ok ⟨relay "c" "guard" "10.2.0.1", relay "m" "middle" "10.1.9.9", relay "e" "exit" "2001:db8::1", 1⟩) := by
  decide +kernel

end Client
end QuietHop
