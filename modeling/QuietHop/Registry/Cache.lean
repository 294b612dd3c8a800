import QuietHop.Lib.HighWater
import QuietHop.Registry.State

namespace QuietHop
namespace Registry

open Lib Net

/-!
# The registry cache and its whole runs

`acceptBody`, `prime` and `refreshIfStale` over one state directory.  Every call
takes the outcome of the input and output it performs as an argument: what each
read of the state file does, what the fetch returns, and where `store` is cut
short.  A run is any sequence of such calls with restarts in between.

A run refines a high-water mark.  The mark is the document on disk, ordered by
version, with equal versions comparable only when the bytes agree; the entries
are the documents that became current.  Rollback and equivocation protection is
what the high-water mark guarantees of every run.
-/

structure RegistryCache where
  url : String
  pinned : List PinnedKey
  threshold : Nat
  current : Option Verified

/-- `RegistryCache::new`.  The directory is the one of the run. -/
def RegistryCache.new (url : String) (pinned : List PinnedKey) (threshold : Nat) :
    Except RegistryError RegistryCache :=
  if pinned.isEmpty then .error (.registry "no pinned registry signing key is configured")
  else if threshold = 0 then .error (.registry "the signature threshold must be at least 1")
  else if threshold > pinned.length then
    .error (.registry
      s!"threshold {threshold} exceeds the {pinned.length} pinned keys, so it could never be met")
  else .ok ⟨url, pinned, threshold, none⟩

/-- A constructed cache holds nothing and asks for at least one signature. -/
theorem RegistryCache.new_ok {url : String} {pinned : List PinnedKey} {threshold : Nat} {cache : RegistryCache}
    (created : RegistryCache.new url pinned threshold = .ok cache) :
    cache = ⟨url, pinned, threshold, none⟩ ∧ threshold ≠ 0 := by
  rw [RegistryCache.new] at created
  split_ifs at created with noPin noThreshold tooMany
  cases created
  exact ⟨rfl, noThreshold⟩

/-- How the two reads and the write of one `accept_body` go. -/
structure AcceptIo where
  load : Option String
  reload : Option String
  store : Option StoreFault

/-- The answer to one HTTP request. -/
inductive Response where
  | failed (e : String)
  | status (code : Nat) (body : Except String Bytes)

variable (lib : External)

/-- The state that records a verified document and the envelope it came in. -/
def baseline (verified : Verified) (envelope : Bytes) : RegistryState where
  highestVersion := verified.document.version
  documentB64 := lib.b64Encode verified.bytes
  keyIds := verified.keyIds
  envelopeB64 := some (lib.b64Encode envelope)

/-- Record a verified document as the new baseline, if it advances the version. -/
def remember (dir : StateDir) (verified : Verified) (envelope : Bytes) (reload : Option String)
    (storeFault : Option StoreFault) : Outcome Unit × StateDir :=
  let state := baseline lib verified envelope
  match load lib dir reload with
  | .error e => (some (.error e), dir)
  | .ok (some prev) =>
      if prev.highestVersion ≥ state.highestVersion then (some (.ok ()), dir)
      else store lib dir state storeFault
  | .ok none => store lib dir state storeFault

def fetch : Response -> Except RegistryError Bytes
  | .failed e => .error (.registry s!"registry fetch failed: {e}")
  | .status code body =>
      if ¬ (200 ≤ code ∧ code ≤ 299) then .error (.registry s!"registry fetch returned status {code}")
      else
        match body with
        | .error e => .error (.registry s!"registry body unreadable: {e}")
        | .ok bytes => .ok bytes

namespace RegistryCache

/-- Verify a response body, persist it, and hold it as current. -/
def acceptBody (cache : RegistryCache) (dir : StateDir) (body : Bytes) (nowUnix : Int) (io : AcceptIo) :
    Outcome Unit × RegistryCache × StateDir :=
  match load lib dir io.load with
  | .error e => (some (.error e), cache, dir)
  | .ok previous =>
      match verify lib body cache.pinned cache.threshold nowUnix previous with
      | .error e => (some (.error e), cache, dir)
      | .ok verified =>
          match remember lib dir verified body io.reload io.store with
          | (some (.ok ()), dir) => (some (.ok ()), { cache with current := some verified }, dir)
          | (outcome, dir) => (outcome, cache, dir)

/-- The stored envelope, verified again, while it is still fresh. -/
def reuseStored (cache : RegistryCache) (dir : StateDir) (nowUnix : Int) (fault : Option String) :
    Option Verified :=
  match load lib dir fault with
  | .ok (some stored) =>
      match stored.envelopeB64 with
      | none => none
      | some text =>
          match lib.b64Decode (asBytes text) with
          | .error _ => none
          | .ok bytes =>
              match verify lib bytes cache.pinned cache.threshold nowUnix (some stored) with
              | .error _ => none
              | .ok verified =>
                  match verified.document.freshUntilUnix with
                  | .error _ => none
                  | .ok fresh => if fresh > nowUnix then some verified else none
  | _ => none

/-- Startup: reuse the stored envelope while it is still fresh, else fetch. -/
def prime (cache : RegistryCache) (dir : StateDir) (nowUnix : Int) (reuseFault : Option String)
    (response : Response) (io : AcceptIo) : Outcome Unit × RegistryCache × StateDir :=
  match cache.reuseStored lib dir nowUnix reuseFault with
  | some reused => (some (.ok ()), { cache with current := some reused }, dir)
  | none =>
      match fetch response with
      | .error e => (some (.error e), cache, dir)
      | .ok body => cache.acceptBody lib dir body nowUnix io

/-- The part of `refresh_if_stale` that fetches. -/
def refetch (cache : RegistryCache) (dir : StateDir) (nowUnix : Int) (response : Response) (io : AcceptIo) :
    Outcome Bool × RegistryCache × StateDir :=
  match fetch response with
  | .error e => (some (.error e), cache, dir)
  | .ok body =>
      match cache.acceptBody lib dir body nowUnix io with
      | (some (.ok ()), cache, dir) => (some (.ok true), cache, dir)
      | (some (.error e), cache, dir) => (some (.error e), cache, dir)
      | (none, cache, dir) => (none, cache, dir)

/-- Fetch when the current document is past its fresh window. -/
def refreshIfStale (cache : RegistryCache) (dir : StateDir) (nowUnix : Int) (response : Response)
    (io : AcceptIo) : Outcome Bool × RegistryCache × StateDir :=
  match cache.current with
  | none => cache.refetch lib dir nowUnix response io
  | some current =>
      match current.document.freshUntilUnix with
      | .error e => (some (.error e), cache, dir)
      | .ok fresh =>
          if fresh > nowUnix then (some (.ok false), cache, dir)
          else cache.refetch lib dir nowUnix response io

end RegistryCache

/-! ## How a call ends -/

/-- What `remember` does when it returns normally: the version on disk is as high already, or the
baseline of the document is there now. -/
theorem remember_ok {dir after : StateDir} {verified : Verified} {envelope : Bytes} {reload : Option String}
    {fault : Option StoreFault}
    (done : remember lib dir verified envelope reload fault = (some (.ok ()), after)) :
    (∃ prev, load lib dir none = .ok (some prev) ∧ verified.document.version ≤ prev.highestVersion ∧ after = dir) ∨
    ∃ raw, lib.encodeState (baseline lib verified envelope) = .ok raw ∧ after.registry = some raw := by
  have stored (ran : store lib dir (baseline lib verified envelope) fault = (some (.ok ()), after)) :
      ∃ raw, lib.encodeState (baseline lib verified envelope) = .ok raw ∧ after.registry = some raw := by
    have spec := store_spec lib dir (baseline lib verified envelope) fault
    rw [ran] at spec
    rcases spec with ⟨-, abnormal⟩ | written
    · exact absurd rfl abnormal
    · exact written
  unfold remember at done
  cases loaded : load lib dir reload with
  | error e =>
      simp only [loaded] at done
      cases done
  | ok previous =>
      cases previous with
      | none =>
          simp only [loaded] at done
          exact Or.inr (stored done)
      | some prev =>
          simp only [loaded] at done
          split_ifs at done with above
          · cases done
            exact Or.inl ⟨prev, (load_ok lib loaded).1, above, rfl⟩
          · exact Or.inr (stored done)

/-- The ways one `accept_body` can end: the document is verified, remembered and held; or the cache
is as it was, and so is the directory unless a verified document could not be stored. -/
theorem acceptBody_cases {dir after : StateDir} {cache next : RegistryCache} {body : Bytes} {nowUnix : Int}
    {io : AcceptIo} {outcome : Outcome Unit}
    (ran : cache.acceptBody lib dir body nowUnix io = (outcome, next, after)) :
    (∃ previous verified, load lib dir io.load = .ok previous ∧
      verify lib body cache.pinned cache.threshold nowUnix previous = .ok verified ∧
      remember lib dir verified body io.reload io.store = (outcome, after) ∧
      ((outcome = some (.ok ()) ∧ next = { cache with current := some verified }) ∨
        (outcome ≠ some (.ok ()) ∧ next = cache))) ∨
    (∃ e, outcome = some (.error e) ∧ next = cache ∧ after = dir) := by
  unfold RegistryCache.acceptBody at ran
  split at ran
  · next e _ =>
      cases ran
      exact Or.inr ⟨e, rfl, rfl, rfl⟩
  · next previous loaded =>
      split at ran
      · next e _ =>
          cases ran
          exact Or.inr ⟨e, rfl, rfl, rfl⟩
      · next verified accepted =>
          split at ran
          · next remembered =>
              cases ran
              exact Or.inl ⟨previous, verified, loaded, accepted, remembered, Or.inl ⟨rfl, rfl⟩⟩
          · next abnormal remembered =>
              cases ran
              exact Or.inl ⟨previous, verified, loaded, accepted, remembered, Or.inr ⟨abnormal, rfl⟩⟩

/-- What is reused: the stored envelope, verified again and still fresh. -/
theorem reuseStored_some {dir : StateDir} {cache : RegistryCache} {nowUnix : Int} {fault : Option String}
    {verified : Verified} (reused : cache.reuseStored lib dir nowUnix fault = some verified) :
    ∃ stored text bytes fresh, load lib dir fault = .ok (some stored) ∧ stored.envelopeB64 = some text ∧
      lib.b64Decode (asBytes text) = .ok bytes ∧
      verify lib bytes cache.pinned cache.threshold nowUnix (some stored) = .ok verified ∧
      verified.document.freshUntilUnix = .ok fresh ∧ fresh > nowUnix := by
  unfold RegistryCache.reuseStored at reused
  split at reused <;> try cases reused
  next stored loaded =>
  split at reused <;> try cases reused
  next text envelope =>
  split at reused <;> try cases reused
  next bytes decoded =>
  split at reused <;> try cases reused
  next found accepted =>
  split at reused <;> try cases reused
  next fresh parsed =>
  split_ifs at reused with later
  cases reused
  exact ⟨stored, text, bytes, fresh, loaded, envelope, decoded, accepted, parsed, later⟩

/-! ## Runs -/

/-- One process at a time on one directory; `cache` is empty between a process's
end and the next `new`. -/
structure World where
  dir : StateDir
  cache : Option RegistryCache

inductive Op where
  | new (url : String) (pinned : List PinnedKey) (threshold : Nat)
  | acceptBody (body : Bytes) (nowUnix : Int) (io : AcceptIo)
  | prime (nowUnix : Int) (reuseFault : Option String) (response : Response) (io : AcceptIo)
  | refreshIfStale (nowUnix : Int) (response : Response) (io : AcceptIo)
  | restart

/-- A call that makes a document current whenever it returns normally. -/
def always (outcome : Outcome Unit) : Outcome Bool :=
  outcome.map fun result => result.map fun _ => true

theorem always_ne {outcome : Outcome Unit} (abnormal : outcome ≠ some (.ok ())) :
    always outcome ≠ some (.ok true) := by
  cases outcome with
  | none => simp [always]
  | some result =>
      cases result with
      | error e => simp [always, Except.map]
      | ok value => exact absurd rfl abnormal

/-- The document a call made current, if it made one current. -/
def becameCurrent : Outcome Bool -> RegistryCache -> List Verified
  | some (.ok true), cache => cache.current.toList
  | _, _ => []

theorem becameCurrent_of_ne {outcome : Outcome Bool} {cache : RegistryCache}
    (abnormal : outcome ≠ some (.ok true)) : becameCurrent outcome cache = [] := by
  unfold becameCurrent
  split
  · exact absurd rfl abnormal
  · rfl

/-- After a call: a process that ended in it holds no cache any more. -/
def settle (outcome : Outcome Bool) (cache : RegistryCache) (dir : StateDir) : World × List Verified :=
  (⟨dir, if outcome.isSome then some cache else none⟩, becameCurrent outcome cache)

/-- One call, with the documents it made current. -/
def step (world : World) (op : Op) : World × List Verified :=
  match op, world.cache with
  | .new url pinned threshold, _ =>
      match RegistryCache.new url pinned threshold with
      | .error _ => (world, [])
      | .ok cache => ({ world with cache := some cache }, [])
  | .restart, _ => ({ world with cache := none }, [])
  | _, none => (world, [])
  | .acceptBody body nowUnix io, some cache =>
      let (outcome, cache, dir) := cache.acceptBody lib world.dir body nowUnix io
      settle (always outcome) cache dir
  | .prime nowUnix reuseFault response io, some cache =>
      let (outcome, cache, dir) := cache.prime lib world.dir nowUnix reuseFault response io
      settle (always outcome) cache dir
  | .refreshIfStale nowUnix response io, some cache =>
      let (outcome, cache, dir) := cache.refreshIfStale lib world.dir nowUnix response io
      settle outcome cache dir

/-- A whole run, with the documents that became current in it, oldest first. -/
def run (world : World) : List Op -> World × List Verified
  | [] => (world, [])
  | op :: rest =>
      let (next, accepted) := step lib world op
      let (final, later) := run next rest
      (final, accepted ++ later)

/-! ## The document on disk as a high-water mark -/

/-- A version with the bytes it stands for. -/
structure Entry where
  version : Int
  bytes : Bytes

/-- Entries are ordered by version; two of one version compare only when they are
the same document. -/
instance : Preorder Entry where
  le left right := left.version ≤ right.version ∧ (left.version = right.version -> left.bytes = right.bytes)
  le_refl entry := ⟨le_rfl, fun _ => rfl⟩
  le_trans first second third below above := by
    refine ⟨below.1.trans above.1, fun same => ?_⟩
    have firstSecond : first.version = second.version := le_antisymm below.1 (same ▸ above.1)
    exact (below.2 firstSecond).trans (above.2 (firstSecond ▸ same))

theorem Entry.le_def {left right : Entry} :
    left ≤ right ↔ left.version ≤ right.version ∧ (left.version = right.version -> left.bytes = right.bytes) :=
  Iff.rfl

def Verified.entry (verified : Verified) : Entry := ⟨verified.document.version, verified.bytes⟩

/-- What is assumed of base64 and of the state file's JSON: decoding inverts
encoding. -/
structure External.RoundTrips (lib : External) : Prop where
  b64 : forall bytes, lib.b64Decode (asBytes (lib.b64Encode bytes)) = .ok bytes
  state : forall state bytes, lib.encodeState state = .ok bytes -> lib.parseState bytes = .ok state

/-- A stored state stands for an entry: the version is the entry's, the stored
document decodes to its bytes, and a stored envelope carries nothing else. -/
structure StandsFor (state : RegistryState) (entry : Entry) : Prop where
  version : state.highestVersion = entry.version
  document : lib.b64Decode (asBytes state.documentB64) = .ok entry.bytes
  envelope : ∀ text ∈ state.envelopeB64, forall body document bytes,
    lib.b64Decode (asBytes text) = .ok body -> Carries lib body document bytes ->
      document.version = entry.version ∧ bytes = entry.bytes

/-- The state file holds the mark. -/
def Records (dir : StateDir) : Option Entry -> Prop
  | none => dir.registry = none
  | some entry => ∃ raw state, dir.registry = some raw ∧ lib.parseState raw = .ok state ∧
      StandsFor lib state entry

/-- A loaded baseline agrees with the mark. -/
def Matches : Option RegistryState -> Option Entry -> Prop
  | none, none => True
  | some state, some entry => StandsFor lib state entry
  | _, _ => False

theorem carries_of_verify_ok {body : Bytes} {pinned : List PinnedKey} {threshold : Nat} {nowUnix : Int}
    {previous : Option RegistryState} {verified : Verified}
    (accepted : verify lib body pinned threshold nowUnix previous = .ok verified) :
    Carries lib body verified.document verified.bytes ∧
      checkRollback lib verified.document verified.bytes previous = .ok () := by
  obtain ⟨-, envelope, parsed, decoded, -, checked⟩ := verify_ok lib accepted
  obtain ⟨document, -, rollback, -, -⟩ := (checkDocument_ok_iff lib).mp checked
  exact ⟨⟨envelope, parsed, decoded, document⟩, rollback⟩

theorem Carries.unique {body bytes otherBytes : Bytes} {document otherDocument : Document}
    (first : Carries lib body document bytes) (second : Carries lib body otherDocument otherBytes) :
    document = otherDocument ∧ bytes = otherBytes := by
  obtain ⟨envelope, parsed, decoded, document⟩ := first
  obtain ⟨otherEnvelope, otherParsed, otherDecoded, otherDocument⟩ := second
  rw [parsed] at otherParsed
  cases otherParsed
  rw [decoded] at otherDecoded
  cases otherDecoded
  rw [document] at otherDocument
  cases otherDocument
  exact ⟨rfl, rfl⟩

theorem standsFor_baseline (roundTrips : lib.RoundTrips) {body : Bytes} {verified : Verified}
    (carries : Carries lib body verified.document verified.bytes) :
    StandsFor lib (baseline lib verified body) verified.entry := by
  refine ⟨rfl, roundTrips.b64 _, ?_⟩
  intro text stored decodedBody document bytes decoded carried
  obtain rfl : lib.b64Encode body = text := by simpa [baseline] using stored
  rw [roundTrips.b64] at decoded
  cases decoded
  obtain ⟨sameDocument, sameBytes⟩ := Carries.unique lib carried carries
  exact ⟨congrArg Document.version sameDocument, sameBytes⟩

theorem matches_of_load {dir : StateDir} {mark : Option Entry} {fault : Option String}
    {previous : Option RegistryState} (records : Records lib dir mark)
    (loaded : load lib dir fault = .ok previous) : Matches lib previous mark := by
  cases fault with
  | some e => simp [load] at loaded
  | none =>
      cases mark with
      | none =>
          have absent : dir.registry = none := records
          simp only [load, absent, Except.ok.injEq] at loaded
          subst loaded
          trivial
      | some entry =>
          obtain ⟨raw, state, present, parsed, standsFor⟩ := records
          simp only [load, present, parsed] at loaded
          split at loaded
          · cases loaded
          · cases loaded
            exact standsFor

/-- Passing the rollback check is being at or above the mark. -/
theorem admits_of_checkRollback {previous : Option RegistryState} {mark : Option Entry} {doc : Document}
    {bytes : Bytes} (agrees : Matches lib previous mark)
    (passed : checkRollback lib doc bytes previous = .ok ()) : HighWater.Admits mark ⟨doc.version, bytes⟩ := by
  intro held isMark
  cases isMark
  cases previous with
  | none => exact agrees.elim
  | some prev =>
      have standsFor : StandsFor lib prev held := agrees
      simp only [checkRollback, standsFor.document] at passed
      rw [standsFor.version] at passed
      split at passed
      · cases passed
      · next notBelow =>
          refine ⟨not_lt.mp notBelow, fun same => ?_⟩
          rw [if_pos same.symm] at passed
          split at passed
          · cases passed
          · next sameBytes => exact not_not.mp sameBytes

theorem records_of_registry_eq {dir other : StateDir} {mark : Option Entry}
    (same : other.registry = dir.registry) (records : Records lib dir mark) : Records lib other mark := by
  cases mark with
  | none => exact same.trans records
  | some entry =>
      obtain ⟨raw, state, present, rest⟩ := records
      exact ⟨raw, state, same.trans present, rest⟩

/-- Storing the baseline of an admissible document records it, or leaves the mark
where it was and does not return normally. -/
theorem store_records (roundTrips : lib.RoundTrips) {dir : StateDir} {mark : Option Entry} {body : Bytes}
    {verified : Verified} (records : Records lib dir mark)
    (carries : Carries lib body verified.document verified.bytes) (fault : Option StoreFault) :
    Records lib (store lib dir (baseline lib verified body) fault).2 (some verified.entry) ∨
      (Records lib (store lib dir (baseline lib verified body) fault).2 mark ∧
        (store lib dir (baseline lib verified body) fault).1 ≠ some (.ok ())) := by
  rcases store_spec lib dir (baseline lib verified body) fault with ⟨kept, abnormal⟩ | ⟨raw, encoded, written⟩
  · exact Or.inr ⟨records_of_registry_eq lib kept records, abnormal⟩
  · exact Or.inl ⟨raw, _, written, roundTrips.state _ _ encoded, standsFor_baseline lib roundTrips carries⟩

theorem remember_records (roundTrips : lib.RoundTrips) {dir : StateDir} {mark : Option Entry} {body : Bytes}
    {verified : Verified} (records : Records lib dir mark)
    (admits : HighWater.Admits mark verified.entry)
    (carries : Carries lib body verified.document verified.bytes) (reload : Option String)
    (fault : Option StoreFault) :
    Records lib (remember lib dir verified body reload fault).2 (some verified.entry) ∨
      (Records lib (remember lib dir verified body reload fault).2 mark ∧
        (remember lib dir verified body reload fault).1 ≠ some (.ok ())) := by
  unfold remember
  cases loaded : load lib dir reload with
  | error e => exact Or.inr ⟨records, by simp⟩
  | ok previous =>
      cases previous with
      | none => exact store_records lib roundTrips records carries fault
      | some prev =>
          simp only
          split
          · next skipped =>
              -- The write is skipped only at the version on disk, and the mark is that document.
              cases mark with
              | none => exact (matches_of_load lib records loaded).elim
              | some held =>
                  have standsFor : StandsFor lib prev held := matches_of_load lib records loaded
                  obtain ⟨below, sameBytes⟩ := Entry.le_def.mp (admits held rfl)
                  have above : verified.document.version ≤ held.version := standsFor.version ▸ skipped
                  have sameVersion : held.version = verified.document.version := le_antisymm below above
                  have same : held = verified.entry := by
                    obtain ⟨version, bytes⟩ := held
                    simp only [Verified.entry, Entry.mk.injEq]
                    exact ⟨sameVersion, sameBytes sameVersion⟩
                  exact Or.inl (same ▸ records)
          · exact store_records lib roundTrips records carries fault

/-- What every call does to the mark: some step of the high-water mark, with the
documents the call made current. -/
def Advances (mark : Option Entry) (dir : StateDir) (accepted : List Verified) : Prop :=
  ∃ next, Records lib dir next ∧ forall earlier : List Entry,
    HighWater.Step ⟨mark, earlier⟩ ⟨next, earlier ++ accepted.map Verified.entry⟩

theorem advances_idle {mark : Option Entry} {dir : StateDir} (records : Records lib dir mark) :
    Advances lib mark dir [] := by
  refine ⟨mark, records, fun earlier => ?_⟩
  simpa using HighWater.Step.idle ⟨mark, earlier⟩

theorem advances_record {mark : Option Entry} {dir : StateDir} {entry : Entry}
    (admits : HighWater.Admits mark entry) (records : Records lib dir (some entry)) :
    Advances lib mark dir [] := by
  refine ⟨some entry, records, fun earlier => ?_⟩
  have step : HighWater.Step ⟨mark, earlier⟩ ⟨some entry, earlier⟩ := .record admits
  simpa using step

theorem advances_accept {mark : Option Entry} {dir : StateDir} {verified : Verified}
    (admits : HighWater.Admits mark verified.entry) (records : Records lib dir (some verified.entry)) :
    Advances lib mark dir [verified] :=
  ⟨some verified.entry, records, fun _ => .accept admits⟩

theorem acceptBody_advances (roundTrips : lib.RoundTrips) {dir after : StateDir} {mark : Option Entry}
    (records : Records lib dir mark) {cache next : RegistryCache} {body : Bytes} {nowUnix : Int}
    {io : AcceptIo} {outcome : Outcome Unit}
    (ran : cache.acceptBody lib dir body nowUnix io = (outcome, next, after)) :
    Advances lib mark after (becameCurrent (always outcome) next) := by
  rcases acceptBody_cases lib ran with ⟨previous, verified, loaded, accepted, remembers, ended⟩ | ⟨e, rfl, -, rfl⟩
  swap
  · exact advances_idle lib records
  obtain ⟨carries, rollback⟩ := carries_of_verify_ok lib accepted
  have admits : HighWater.Admits mark verified.entry :=
    admits_of_checkRollback lib (matches_of_load lib records loaded) rollback
  have remembered := remember_records lib roundTrips records admits carries io.reload io.store
  rw [remembers] at remembered
  rcases ended with ⟨rfl, rfl⟩ | ⟨abnormal, -⟩
  · rcases remembered with recorded | ⟨-, abnormal⟩
    · exact advances_accept lib admits recorded
    · exact absurd rfl abnormal
  · rw [becameCurrent_of_ne (always_ne abnormal)]
    rcases remembered with recorded | ⟨kept, -⟩
    · exact advances_record lib admits recorded
    · exact advances_idle lib kept

/-- The stored envelope passes the check against itself only as the mark. -/
theorem reuseStored_admits {dir : StateDir} {mark : Option Entry} (records : Records lib dir mark)
    {cache : RegistryCache} {nowUnix : Int} {fault : Option String} {verified : Verified}
    (reused : cache.reuseStored lib dir nowUnix fault = some verified) : mark = some verified.entry := by
  rcases reuseStored_some lib reused with ⟨stored, text, bytes, -, loaded, envelope, decoded, accepted, -⟩
  have agrees := matches_of_load lib records loaded
  cases mark with
  | none => exact agrees.elim
  | some held =>
      have standsFor : StandsFor lib stored held := agrees
      obtain ⟨sameVersion, sameBytes⟩ := standsFor.envelope text envelope bytes _ _ decoded
        (carries_of_verify_ok lib accepted).1
      obtain ⟨version, heldBytes⟩ := held
      simp only [Verified.entry, Option.some.injEq, Entry.mk.injEq]
      exact ⟨sameVersion.symm, sameBytes.symm⟩

theorem prime_advances (roundTrips : lib.RoundTrips) {dir after : StateDir} {mark : Option Entry}
    (records : Records lib dir mark) {cache next : RegistryCache} {nowUnix : Int} {reuseFault : Option String}
    {response : Response} {io : AcceptIo} {outcome : Outcome Unit}
    (ran : cache.prime lib dir nowUnix reuseFault response io = (outcome, next, after)) :
    Advances lib mark after (becameCurrent (always outcome) next) := by
  unfold RegistryCache.prime at ran
  split at ran
  · next reused found =>
      cases ran
      obtain rfl := reuseStored_admits lib records found
      have admits : HighWater.Admits (some reused.entry) reused.entry := by
        rintro held ⟨⟩
        exact le_rfl
      exact advances_accept lib admits records
  · split at ran
    · cases ran
      exact advances_idle lib records
    · exact acceptBody_advances lib roundTrips records ran

/-- A call that left the directory alone, or that was one `accept_body`. -/
def LikeAccept (cache : RegistryCache) (dir : StateDir) (nowUnix : Int) (io : AcceptIo)
    (outcome : Outcome Bool) (next : RegistryCache) (after : StateDir) : Prop :=
  (outcome ≠ some (.ok true) ∧ next = cache ∧ after = dir) ∨
    ∃ body accepted, cache.acceptBody lib dir body nowUnix io = (accepted, next, after) ∧
      outcome = always accepted

theorem refetch_cases {dir after : StateDir} {cache next : RegistryCache} {nowUnix : Int}
    {response : Response} {io : AcceptIo} {outcome : Outcome Bool}
    (ran : cache.refetch lib dir nowUnix response io = (outcome, next, after)) :
    LikeAccept lib cache dir nowUnix io outcome next after := by
  unfold RegistryCache.refetch at ran
  split at ran
  · cases ran
    exact Or.inl ⟨by simp, rfl, rfl⟩
  · next body _ =>
      split at ran
      all_goals
        next accepted =>
          cases ran
          exact Or.inr ⟨body, _, accepted, rfl⟩

theorem refreshIfStale_cases {dir after : StateDir} {cache next : RegistryCache} {nowUnix : Int}
    {response : Response} {io : AcceptIo} {outcome : Outcome Bool}
    (ran : cache.refreshIfStale lib dir nowUnix response io = (outcome, next, after)) :
    LikeAccept lib cache dir nowUnix io outcome next after := by
  unfold RegistryCache.refreshIfStale at ran
  split at ran
  · exact refetch_cases lib ran
  · split at ran
    · cases ran
      exact Or.inl ⟨by simp, rfl, rfl⟩
    · split at ran
      · cases ran
        exact Or.inl ⟨by simp, rfl, rfl⟩
      · exact refetch_cases lib ran

theorem refreshIfStale_advances (roundTrips : lib.RoundTrips) {dir after : StateDir} {mark : Option Entry}
    (records : Records lib dir mark) {cache next : RegistryCache} {nowUnix : Int}
    {response : Response} {io : AcceptIo} {outcome : Outcome Bool}
    (ran : cache.refreshIfStale lib dir nowUnix response io = (outcome, next, after)) :
    Advances lib mark after (becameCurrent outcome next) := by
  rcases refreshIfStale_cases lib ran with ⟨silent, -, rfl⟩ | ⟨body, accepted, ranBody, rfl⟩
  · rw [becameCurrent_of_ne silent]
    exact advances_idle lib records
  · exact acceptBody_advances lib roundTrips records ranBody

/-! ## Every run refines the mark -/

theorem step_advances (roundTrips : lib.RoundTrips) {world : World} {mark : Option Entry}
    (records : Records lib world.dir mark) (op : Op) :
    Advances lib mark (step lib world op).1.dir (step lib world op).2 := by
  unfold step
  split
  · split
    · exact advances_idle lib records
    · exact advances_idle lib records
  · exact advances_idle lib records
  · exact advances_idle lib records
  · exact acceptBody_advances lib roundTrips records rfl
  · exact prime_advances lib roundTrips records rfl
  · exact refreshIfStale_advances lib roundTrips records rfl

theorem run_cons (world : World) (op : Op) (rest : List Op) :
    run lib world (op :: rest) = ((run lib (step lib world op).1 rest).1,
      (step lib world op).2 ++ (run lib (step lib world op).1 rest).2) := rfl

theorem run_append (world : World) (ops more : List Op) :
    run lib world (ops ++ more) = ((run lib (run lib world ops).1 more).1,
      (run lib world ops).2 ++ (run lib (run lib world ops).1 more).2) := by
  induction ops generalizing world with
  | nil => rfl
  | cons op rest ih => simp [run_cons, ih]

/-- The run's documents and its state file move as the high-water mark does. -/
theorem run_refines (roundTrips : lib.RoundTrips) {world : World} {mark : Option Entry}
    (records : Records lib world.dir mark) (ops : List Op) (earlier : List Entry) :
    ∃ next, Records lib (run lib world ops).1.dir next ∧
      HighWater.Run ⟨mark, earlier⟩ ⟨next, earlier ++ (run lib world ops).2.map Verified.entry⟩ := by
  induction ops generalizing world mark earlier with
  | nil => exact ⟨mark, records, by simpa [run] using Relation.ReflTransGen.refl⟩
  | cons op rest ih =>
      obtain ⟨middle, recorded, moves⟩ := step_advances lib roundTrips records op
      obtain ⟨final, finalRecorded, later⟩ := ih recorded (earlier ++ (step lib world op).2.map Verified.entry)
      refine ⟨final, finalRecorded, ?_⟩
      rw [run_cons, List.map_append, ← List.append_assoc]
      exact Relation.ReflTransGen.head (moves earlier) later

/-! ## The current document is an accepted one -/

def World.current (world : World) : Option Verified := world.cache.bind RegistryCache.current

theorem acceptBody_cache {dir after : StateDir} {cache next : RegistryCache} {body : Bytes} {nowUnix : Int}
    {io : AcceptIo} {outcome : Outcome Unit}
    (ran : cache.acceptBody lib dir body nowUnix io = (outcome, next, after)) :
    always outcome = some (.ok true) ∨ next = cache := by
  rcases acceptBody_cases lib ran with ⟨-, -, -, -, -, ⟨rfl, -⟩ | ⟨-, same⟩⟩ | ⟨-, -, same, -⟩
  · exact Or.inl rfl
  · exact Or.inr same
  · exact Or.inr same

theorem prime_cache {dir after : StateDir} {cache next : RegistryCache} {nowUnix : Int}
    {reuseFault : Option String} {response : Response} {io : AcceptIo} {outcome : Outcome Unit}
    (ran : cache.prime lib dir nowUnix reuseFault response io = (outcome, next, after)) :
    always outcome = some (.ok true) ∨ next = cache := by
  unfold RegistryCache.prime at ran
  split at ran
  · cases ran
    exact Or.inl rfl
  · split at ran
    · cases ran
      exact Or.inr rfl
    · exact acceptBody_cache lib ran

theorem refreshIfStale_cache {dir after : StateDir} {cache next : RegistryCache} {nowUnix : Int}
    {response : Response} {io : AcceptIo} {outcome : Outcome Bool}
    (ran : cache.refreshIfStale lib dir nowUnix response io = (outcome, next, after)) :
    outcome = some (.ok true) ∨ next = cache := by
  rcases refreshIfStale_cases lib ran with ⟨-, same, -⟩ | ⟨body, accepted, ranBody, rfl⟩
  · exact Or.inr same
  · exact acceptBody_cache lib ranBody

theorem settle_current {outcome : Outcome Bool} {cache next : RegistryCache} {dir : StateDir}
    {verified : Verified} (changed : outcome = some (.ok true) ∨ next = cache)
    (isCurrent : (settle outcome next dir).1.current = some verified) :
    cache.current = some verified ∨ verified ∈ (settle outcome next dir).2 := by
  have held : next.current = some verified := by
    cases outcome with
    | none => simp [settle, World.current] at isCurrent
    | some result => simpa [settle, World.current] using isCurrent
  rcases changed with rfl | rfl
  · exact Or.inr (by simp [settle, becameCurrent, held])
  · exact Or.inl held

theorem step_current {world : World} {op : Op} {verified : Verified}
    (isCurrent : (step lib world op).1.current = some verified) :
    world.current = some verified ∨ verified ∈ (step lib world op).2 := by
  unfold step at isCurrent ⊢
  split at isCurrent
  · split at isCurrent
    · exact Or.inl isCurrent
    · next created =>
        rw [(RegistryCache.new_ok created).1] at isCurrent
        simp [World.current] at isCurrent
  · simp [World.current] at isCurrent
  · exact Or.inl isCurrent
  · next held =>
      simp only [World.current, held, Option.bind_some]
      exact settle_current (acceptBody_cache lib rfl) isCurrent
  · next held =>
      simp only [World.current, held, Option.bind_some]
      exact settle_current (prime_cache lib rfl) isCurrent
  · next held =>
      simp only [World.current, held, Option.bind_some]
      exact settle_current (refreshIfStale_cache lib rfl) isCurrent

theorem run_current {world : World} {ops : List Op} {verified : Verified}
    (isCurrent : (run lib world ops).1.current = some verified) :
    world.current = some verified ∨ verified ∈ (run lib world ops).2 := by
  induction ops generalizing world with
  | nil => exact Or.inl isCurrent
  | cons op rest ih =>
      rw [run_cons] at isCurrent ⊢
      rcases ih isCurrent with before | later
      · rcases step_current lib before with start | accepted
        · exact Or.inl start
        · exact Or.inr (List.mem_append_left _ accepted)
      · exact Or.inr (List.mem_append_right _ later)

/-! ## Rollback and equivocation protection -/

/-- A directory no process has stored a state in yet. -/
def freshWorld (path : String) (tmp : Option Bytes) : World := ⟨⟨path, none, tmp⟩, none⟩

/-- Over every run on one directory: the loaded version never decreases and the
baseline never disappears; a document that becomes current is no older than any
accepted before it; equal versions mean equal bytes; and the document in use is
always one of those. -/
theorem rollback_protection (roundTrips : lib.RoundTrips) (path : String) (tmp : Option Bytes)
    (ops more : List Op) :
    (forall fault laterFault state later,
      load lib (run lib (freshWorld path tmp) ops).1.dir fault = .ok (some state) ->
      load lib (run lib (freshWorld path tmp) (ops ++ more)).1.dir laterFault = .ok later ->
      ∃ laterState, later = some laterState ∧ state.highestVersion ≤ laterState.highestVersion) ∧
    (run lib (freshWorld path tmp) ops).2.Pairwise (fun earlier later =>
      earlier.document.version ≤ later.document.version) ∧
    (run lib (freshWorld path tmp) ops).2.Pairwise (fun earlier later =>
      earlier.document.version = later.document.version -> earlier.bytes = later.bytes) ∧
    (forall verified, (run lib (freshWorld path tmp) ops).1.current = some verified ->
      verified ∈ (run lib (freshWorld path tmp) ops).2) := by
  have fresh : Records lib (freshWorld path tmp).dir none := rfl
  obtain ⟨mark, records, moves⟩ := run_refines lib roundTrips fresh ops []
  have ordered := (HighWater.Run.sound moves (HighWater.sound_nil none)).ordered
  rw [List.nil_append, List.pairwise_map] at ordered
  refine ⟨?_, ordered.imp And.left, ordered.imp And.right, ?_⟩
  · intro fault laterFault state later loaded laterLoaded
    rw [run_append] at laterLoaded
    obtain ⟨final, finalRecords, onward⟩ := run_refines lib roundTrips records more []
    have agrees := matches_of_load lib records loaded
    have laterAgrees := matches_of_load lib finalRecords laterLoaded
    cases mark with
    | none => exact agrees.elim
    | some held =>
        obtain ⟨above, isFinal, below⟩ := HighWater.Run.mark_le onward rfl
        obtain rfl : final = some above := isFinal
        cases later with
        | none => exact laterAgrees.elim
        | some laterState =>
            refine ⟨laterState, rfl, ?_⟩
            calc state.highestVersion = held.version := StandsFor.version agrees
              _ ≤ above.version := below.1
              _ = laterState.highestVersion := (StandsFor.version laterAgrees).symm
  · intro verified isCurrent
    rcases run_current lib isCurrent with start | accepted
    · cases start
    · exact accepted

/-- The sample functions invert each other as assumed. -/
theorem roundTrips_sample : External.RoundTrips Sample.external where
  b64 bytes := by
    have ascii := asBytes_ofAscii (Base64.encode_lt bytes)
    simp only [Sample.external, Sample.b64Encode, ascii, Base64.decode_encode]
  state state bytes encoded := by
    have different : Sample.stateText "497631" Sample.nextDocumentBytes Sample.nextSignature ≠
        Sample.stateText "497630" Sample.documentBytes Sample.signature := by decide +kernel
    simp only [Sample.external] at encoded ⊢
    split at encoded
    · next same =>
        cases encoded
        rw [if_pos rfl, same]
    · split at encoded
      · next same =>
          cases encoded
          rw [if_neg different, if_pos rfl, same]
      · cases encoded

namespace Sample

/-- The state of the document in its body. -/
theorem encodes_body : external.encodeState (baseline external ⟨document, documentBytes, ["fe812c12f3ab4ce6"]⟩ body) =
    .ok (stateText "497630" documentBytes signature) := by
  simp only [baseline, external, document, stateFor, body, if_true]

theorem encodes_nextBody :
    external.encodeState (baseline external ⟨nextDocument, nextDocumentBytes, ["fe812c12f3ab4ce6"]⟩ nextBody) =
      .ok (stateText "497631" nextDocumentBytes nextSignature) := by
  have different : stateFor 497631 nextDocumentBytes nextSignature ≠ stateFor 497630 documentBytes signature := by
    simp [stateFor]
  simp only [baseline, external, nextDocument, stateFor, nextBody, if_true] at different ⊢
  rw [if_neg different]

end Sample

section First

variable {url path : String} {tmp : Option Bytes} {pinned : List PinnedKey} {threshold : Nat} {cache : RegistryCache}
  {body raw : Bytes} {nowUnix : Int} {verified : Verified}

/-- A first document that verifies and encodes is accepted, when nothing fails. -/
theorem acceptBody_first (accepted : verify lib body cache.pinned cache.threshold nowUnix none = .ok verified)
    (encoded : lib.encodeState (baseline lib verified body) = .ok raw) :
    cache.acceptBody lib ⟨path, none, tmp⟩ body nowUnix ⟨none, none, none⟩ =
      (some (.ok ()), { cache with current := some verified }, ⟨path, some raw, none⟩) := by
  simp [RegistryCache.acceptBody, load, accepted, remember, store, encoded, StateDir.leave]

theorem run_first (created : RegistryCache.new url pinned threshold = .ok cache)
    (accepted : verify lib body cache.pinned cache.threshold nowUnix none = .ok verified)
    (encoded : lib.encodeState (baseline lib verified body) = .ok raw) :
    run lib (freshWorld path tmp) [.new url pinned threshold, .acceptBody body nowUnix ⟨none, none, none⟩] =
      (⟨⟨path, some raw, none⟩, some { cache with current := some verified }⟩, [verified]) := by
  simp [run, step, freshWorld, created, acceptBody_first lib accepted encoded, settle, always, becameCurrent, Except.map]

theorem run_first_accept (created : RegistryCache.new url pinned threshold = .ok cache)
    (accepted : verify lib body cache.pinned cache.threshold nowUnix none = .ok verified)
    (encoded : lib.encodeState (baseline lib verified body) = .ok raw) :
    (run lib (freshWorld path tmp)
      [.new url pinned threshold, .acceptBody body nowUnix ⟨none, none, none⟩]).2 = [verified] := by
  rw [run_first lib created accepted encoded]

theorem run_first_cache (created : RegistryCache.new url pinned threshold = .ok cache)
    (accepted : verify lib body cache.pinned cache.threshold nowUnix none = .ok verified)
    (encoded : lib.encodeState (baseline lib verified body) = .ok raw) :
    (run lib (freshWorld path tmp)
      [.new url pinned threshold, .acceptBody body nowUnix ⟨none, none, none⟩]).1.cache =
        some { cache with current := some verified } := by
  rw [run_first lib created accepted encoded]

end First

theorem rollback_protection_sample :
    (run Sample.external (freshWorld "/var/lib/quiethop" none)
        [.new "https://authority.example/api/v1/registry" [Sample.pinnedKey] 1,
          .acceptBody Sample.body 1791469800 ⟨none, none, none⟩]).2 =
        [⟨Sample.document, Sample.documentBytes, ["fe812c12f3ab4ce6"]⟩] ∧
      forall more : List Op,
        (run Sample.external (freshWorld "/var/lib/quiethop" none)
          ([.new "https://authority.example/api/v1/registry" [Sample.pinnedKey] 1,
            .acceptBody Sample.body 1791469800 ⟨none, none, none⟩] ++ more)).2.Pairwise
          (fun earlier later => earlier.document.version ≤ later.document.version) := by
  refine ⟨run_first_accept Sample.external rfl Sample.verify_body Sample.encodes_body, fun more => ?_⟩
  exact (rollback_protection Sample.external roundTrips_sample "/var/lib/quiethop" none _ []).2.1

end Registry
end QuietHop
