import QuietHop.Registry.FetchPolicy

namespace QuietHop
namespace Registry

open Lib Net

/-!
# What a call leaves behind

A call of the cache can fail at any of its reads and writes.  Then the document held and the
state on disk are what they were, and the next document that is newer is accepted as if
nothing had happened.

A call that succeeds can leave less than that behind.  `load` refuses a state whose version is
not positive, which `verify` admits for a first document of 1970 or before; and
`refresh_if_stale` goes by `fresh_until`, which `verify` does not look at.
-/

variable (lib : External)

/-! ## Failed calls -/

section Failed

variable {lib}

theorem remember_error {dir after : StateDir} {verified : Verified} {envelope : Bytes} {reload : Option String}
    {fault : Option StoreFault} {e : RegistryError} (keeps : RenameKeeps fault)
    (failed : remember lib dir verified envelope reload fault = (some (.error e), after)) :
    ∃ tmp, after = { dir with tmp := tmp } := by
  unfold remember at failed
  cases loaded : load lib dir reload with
  | error reason =>
      simp only [loaded] at failed
      cases failed
      exact ⟨dir.tmp, rfl⟩
  | ok previous =>
      cases previous with
      | none =>
          simp only [loaded] at failed
          exact store_error lib keeps failed
      | some prev =>
          simp only [loaded] at failed
          split_ifs at failed
          · cases failed
          · exact store_error lib keeps failed

/-- The cache is as it was, and so is the directory but for its temporary file. -/
def Unchanged (cache next : RegistryCache) (dir after : StateDir) : Prop :=
  next = cache ∧ ∃ tmp, after = { dir with tmp := tmp }

theorem acceptBody_error {dir after : StateDir} {cache next : RegistryCache} {body : Bytes} {nowUnix : Int}
    {io : AcceptIo} {e : RegistryError} (keeps : RenameKeeps io.store)
    (failed : cache.acceptBody lib dir body nowUnix io = (some (.error e), next, after)) :
    Unchanged cache next dir after := by
  rcases acceptBody_cases lib failed with
    ⟨previous, verified, -, -, remembers, ⟨normal, -⟩ | ⟨-, same⟩⟩ | ⟨reason, -, same, rfl⟩
  · cases normal
  · exact ⟨same, remember_error keeps remembers⟩
  · exact ⟨same, after.tmp, rfl⟩

theorem prime_error {dir after : StateDir} {cache next : RegistryCache} {nowUnix : Int} {reuseFault : Option String}
    {response : Response} {io : AcceptIo} {e : RegistryError} (keeps : RenameKeeps io.store)
    (failed : cache.prime lib dir nowUnix reuseFault response io = (some (.error e), next, after)) :
    Unchanged cache next dir after := by
  unfold RegistryCache.prime at failed
  split at failed
  · cases failed
  · split at failed
    · cases failed
      exact ⟨rfl, dir.tmp, rfl⟩
    · exact acceptBody_error keeps failed

theorem refreshIfStale_error {dir after : StateDir} {cache next : RegistryCache} {nowUnix : Int}
    {response : Response} {io : AcceptIo} {e : RegistryError} (keeps : RenameKeeps io.store)
    (failed : cache.refreshIfStale lib dir nowUnix response io = (some (.error e), next, after)) :
    Unchanged cache next dir after := by
  rcases refreshIfStale_cases lib failed with ⟨-, same, rfl⟩ | ⟨body, accepted, ranBody, outcome⟩
  · exact ⟨same, after.tmp, rfl⟩
  · have error : accepted = some (.error e) := by
      rcases accepted with _ | reason | value
      · cases outcome
      · simpa [always, Except.map] using outcome.symm
      · cases outcome
    exact acceptBody_error keeps (error ▸ ranBody)

end Failed

/-- A call that returns an error.  Any of its reads may fail, and `store` at any point; a rename
that fails does not replace the state file. -/
inductive Fails (cache : RegistryCache) (dir : StateDir) (next : RegistryCache) (after : StateDir) : Prop
  | acceptBody (body : Bytes) (nowUnix : Int) (io : AcceptIo) (e : RegistryError) (keeps : RenameKeeps io.store)
      (failed : cache.acceptBody lib dir body nowUnix io = (some (.error e), next, after))
  | prime (nowUnix : Int) (reuseFault : Option String) (response : Response) (io : AcceptIo) (e : RegistryError)
      (keeps : RenameKeeps io.store)
      (failed : cache.prime lib dir nowUnix reuseFault response io = (some (.error e), next, after))
  | refreshIfStale (nowUnix : Int) (response : Response) (io : AcceptIo) (e : RegistryError)
      (keeps : RenameKeeps io.store)
      (failed : cache.refreshIfStale lib dir nowUnix response io = (some (.error e), next, after))

variable {lib}

theorem Fails.unchanged {cache next : RegistryCache} {dir after : StateDir} (fails : Fails lib cache dir next after) :
    Unchanged cache next dir after := by
  cases fails with
  | acceptBody body nowUnix io e keeps failed => exact acceptBody_error keeps failed
  | prime nowUnix reuseFault response io e keeps failed => exact prime_error keeps failed
  | refreshIfStale nowUnix response io e keeps failed => exact refreshIfStale_error keeps failed

/-! ## Calls that succeed -/

/-- `verify` depends on the baseline through the rollback check only. -/
theorem verify_of_checkRollback {body : Bytes} {pinned : List PinnedKey} {threshold : Nat} {nowUnix : Int}
    {previous other : Option RegistryState} {verified : Verified}
    (accepted : verify lib body pinned threshold nowUnix previous = .ok verified)
    (passes : checkRollback lib verified.document verified.bytes other = .ok ()) :
    verify lib body pinned threshold nowUnix other = .ok verified := by
  rcases verify_ok lib accepted with ⟨positive, envelope, parsed, decoded, enough, checked⟩
  rcases (checkDocument_ok_iff lib).mp checked with ⟨document, valid, -, sameBytes, sameIds⟩
  rw [verify_of_decoded lib positive parsed decoded, if_neg (by omega)]
  exact (checkDocument_ok_iff lib).mpr ⟨document, valid, passes, sameBytes, sameIds⟩

theorem checkRollback_of_higher {doc : Document} {bytes : Bytes} {previous : Option RegistryState}
    (higher : ∀ state ∈ previous, state.highestVersion < doc.version) :
    checkRollback lib doc bytes previous = .ok () := by
  cases previous with
  | none => rfl
  | some state =>
      have above := higher state rfl
      simp only [checkRollback]
      rw [if_neg (by omega), if_neg (by omega)]

/-- A document that verifies against the baseline and encodes is accepted when nothing fails. -/
theorem acceptBody_of_verify {dir : StateDir} {cache : RegistryCache} {body : Bytes} {nowUnix : Int}
    {previous : Option RegistryState} {verified : Verified} (loaded : load lib dir none = .ok previous)
    (accepted : verify lib body cache.pinned cache.threshold nowUnix previous = .ok verified)
    (encodes : (∀ state ∈ previous, state.highestVersion < verified.document.version) ->
      ∃ raw, lib.encodeState (baseline lib verified body) = .ok raw) :
    ∃ after, cache.acceptBody lib dir body nowUnix noFault =
      (some (.ok ()), { cache with current := some verified }, after) := by
  have remembered : ∃ after, remember lib dir verified body none none = (some (.ok ()), after) := by
    unfold remember
    rw [loaded]
    cases previous with
    | none =>
        rcases encodes (fun state absent => by cases absent) with ⟨raw, encoded⟩
        exact ⟨_, store_of_encodes lib encoded⟩
    | some prev =>
        by_cases above : prev.highestVersion ≥ (baseline lib verified body).highestVersion
        · exact ⟨dir, if_pos above⟩
        · have higher : ∀ state ∈ some prev, state.highestVersion < verified.document.version := by
            rintro state ⟨⟩
            exact not_le.mp above
          rcases encodes higher with ⟨raw, encoded⟩
          exact ⟨_, (if_neg above).trans (store_of_encodes lib encoded)⟩
  rcases remembered with ⟨after, remembered⟩
  refine ⟨after, ?_⟩
  simp only [RegistryCache.acceptBody, noFault, loaded, accepted, remembered]

/-- A failed refresh changes nothing.  Whichever call fails, at whatever point: the document held
and the result of `load` are what they were, and a signed document that is valid now and newer
than the baseline is accepted as soon as reading and writing work again. -/
theorem failed_refresh_changes_nothing (encodes : forall state, ∃ raw, lib.encodeState state = .ok raw)
    {cache next : RegistryCache} {dir after : StateDir} {previous : Option RegistryState}
    (loadable : load lib dir none = .ok previous) (fails : Fails lib cache dir next after) :
    next.current = cache.current ∧ load lib after none = load lib dir none ∧
    forall body nowUnix verified, verify lib body next.pinned next.threshold nowUnix none = .ok verified ->
      (∀ state ∈ previous, state.highestVersion < verified.document.version) ->
      ∃ final, next.acceptBody lib after body nowUnix noFault =
        (some (.ok ()), { next with current := some verified }, final) := by
  rcases fails.unchanged with ⟨rfl, tmp, rfl⟩
  refine ⟨rfl, load_tmp lib dir tmp none, ?_⟩
  intro body nowUnix verified signed higher
  have accepted := verify_of_checkRollback signed (checkRollback_of_higher higher)
  exact acceptBody_of_verify ((load_tmp lib dir tmp none).trans loadable) accepted fun _ => encodes _

namespace Sample

/-- The external functions with an encoder that never fails. -/
def encodesAll : External :=
  { external with
    encodeState := fun state =>
      match external.encodeState state with
      | .ok raw => .ok raw
      | .error _ => .ok [] }

theorem encodeState_encodesAll (state : RegistryState) : ∃ raw, encodesAll.encodeState state = .ok raw := by
  simp only [encodesAll]
  split
  · exact ⟨_, rfl⟩
  · exact ⟨_, rfl⟩

/-- The disk is full after three bytes. -/
def diskFull : AcceptIo := ⟨none, none, some ⟨.writeAll 3, .ioError "No space left on device"⟩⟩

theorem diskFull_keeps : RenameKeeps diskFull.store := by
  rintro found ⟨⟩ renamed
  cases renamed

end Sample

/-- `verify` encodes no state. -/
theorem verify_encodeState (encode : RegistryState -> Except String Bytes) :
    verify { lib with encodeState := encode } = verify lib := rfl

/-- A first document whose state cannot be written in full is refused. -/
theorem acceptBody_cut {path : String} {tmp : Option Bytes} {cache : RegistryCache} {body raw : Bytes} {nowUnix : Int}
    {verified : Verified} (accepted : verify lib body cache.pinned cache.threshold nowUnix none = .ok verified)
    (encoded : lib.encodeState (baseline lib verified body) = .ok raw) (written : Nat) (text : String) :
    ∃ e, cache.acceptBody lib ⟨path, none, tmp⟩ body nowUnix ⟨none, none, some ⟨.writeAll written, .ioError text⟩⟩ =
      (some (.error e), cache, ⟨path, none, some (raw.take written)⟩) := by
  simp [RegistryCache.acceptBody, load, accepted, remember, store, encoded, StoreFault.outcome, StateDir.leave]

theorem failed_refresh_changes_nothing_disk_full :
    ∃ next after,
      Fails Sample.encodesAll Sample.cache ⟨"/var/lib/quiethop", none, none⟩ next after ∧
      load Sample.encodesAll after none = .ok none ∧
      ∃ final, next.acceptBody Sample.encodesAll after Sample.body 1791469800 noFault =
        (some (.ok ()), { next with current := some ⟨Sample.document, Sample.documentBytes, ["fe812c12f3ab4ce6"]⟩ },
          final) := by
  have signed : verify Sample.encodesAll Sample.body [Sample.pinnedKey] 1 1791469800 none =
      .ok ⟨Sample.document, Sample.documentBytes, ["fe812c12f3ab4ce6"]⟩ := by
    have same : verify Sample.encodesAll = verify Sample.external := verify_encodeState _
    rw [same]
    exact Sample.verify_body
  have loadable : load Sample.encodesAll ⟨"/var/lib/quiethop", none, none⟩ none = .ok none := rfl
  rcases Sample.encodeState_encodesAll (baseline Sample.encodesAll
    ⟨Sample.document, Sample.documentBytes, ["fe812c12f3ab4ce6"]⟩ Sample.body) with ⟨raw, encoded⟩
  have failed : ∃ e, Sample.cache.acceptBody Sample.encodesAll ⟨"/var/lib/quiethop", none, none⟩ Sample.body
      1791469800 Sample.diskFull = (some (.error e), Sample.cache, ⟨"/var/lib/quiethop", none, some (raw.take 3)⟩) :=
    @acceptBody_cut Sample.encodesAll _ none Sample.cache _ raw _ _ signed encoded 3 "No space left on device"
  rcases failed with ⟨e, failed⟩
  have fails := Fails.acceptBody Sample.body 1791469800 Sample.diskFull e Sample.diskFull_keeps failed
  rcases failed_refresh_changes_nothing Sample.encodeState_encodesAll loadable fails with ⟨-, same, later⟩
  exact ⟨Sample.cache, _, fails, same.trans loadable, later _ _ _ signed fun _ absent => by cases absent⟩

/-! ## States that load refuses -/

variable (lib) in
/-- What a first document has to be: where the directory has no state yet, the document verified from the body has a
positive version. -/
def FirstIsPositive (cache : RegistryCache) (body : Bytes) (nowUnix : Int) (previous : Option RegistryState) : Prop :=
  previous = none -> forall verified, verify lib body cache.pinned cache.threshold nowUnix none = .ok verified ->
    0 < verified.document.version

/-- What an accepted document leaves on a directory that loads: a state as high as the document, which lets it pass
again, or the baseline of the document. -/
theorem acceptBody_leaves {cache next : RegistryCache} {dir after : StateDir} {body : Bytes} {nowUnix : Int} {io : AcceptIo}
    {previous : Option RegistryState} (loadable : load lib dir none = .ok previous)
    (accepted : cache.acceptBody lib dir body nowUnix io = (some (.ok ()), next, after)) :
    ∃ verified, next = { cache with current := some verified } ∧
      verify lib body cache.pinned cache.threshold nowUnix previous = .ok verified ∧
      ((∃ prev, previous = some prev ∧ verified.document.version ≤ prev.highestVersion ∧ after = dir) ∨
        ∃ raw, lib.encodeState (baseline lib verified body) = .ok raw ∧ after.registry = some raw) := by
  rcases acceptBody_cases lib accepted with
    ⟨found, verified, loaded, checked, remembers, ⟨-, rfl⟩ | ⟨abnormal, -⟩⟩ | ⟨e, failed, -⟩
  swap
  · exact absurd rfl abnormal
  swap
  · cases failed
  -- both reads of the state file see the same state
  have same : previous = found := by
    have read := (load_ok lib loaded).1
    rw [loadable] at read
    exact Except.ok.inj read
  subst same
  refine ⟨verified, rfl, checked, ?_⟩
  rcases remember_ok lib remembers with ⟨prev, loads, above, same⟩ | written
  · rw [loadable] at loads
    exact Or.inl ⟨prev, Except.ok.inj loads, above, same⟩
  · exact Or.inr written

/-- A version that passes the rollback check is no lower than the one on disk, which is positive. -/
theorem positive_of_verify {cache : RegistryCache} {dir : StateDir} {body : Bytes} {nowUnix : Int}
    {previous : Option RegistryState} {verified : Verified} (loadable : load lib dir none = .ok previous)
    (checked : verify lib body cache.pinned cache.threshold nowUnix previous = .ok verified)
    (first : FirstIsPositive lib cache body nowUnix previous) : 0 < verified.document.version := by
  cases previous with
  | none => exact first rfl verified checked
  | some prev =>
      have least := (load_ok lib loadable).2 prev rfl
      have rollback := (carries_of_verify_ok lib checked).2
      have bound : ¬ verified.document.version < prev.highestVersion := by
        intro below
        rw [checkRollback, if_pos below] at rollback
        cases rollback
      omega

/-- A document that was accepted is accepted again where a state loads that is high enough and lets it pass. -/
theorem acceptBody_again {cache : RegistryCache} {after : StateDir} {body : Bytes} {nowUnix : Int}
    {previous : Option RegistryState} {verified : Verified} {state : RegistryState}
    (checked : verify lib body cache.pinned cache.threshold nowUnix previous = .ok verified)
    (loads : load lib after none = .ok (some state)) (above : verified.document.version ≤ state.highestVersion)
    (passes : checkRollback lib verified.document verified.bytes (some state) = .ok ()) :
    ∃ final, ({ cache with current := some verified } : RegistryCache).acceptBody lib after body nowUnix noFault =
      (some (.ok ()), { cache with current := some verified }, final) := by
  refine @acceptBody_of_verify lib after { cache with current := some verified } body nowUnix _ verified loads
    (verify_of_checkRollback checked passes) fun higher => ?_
  exact absurd above (not_le.mpr (higher state rfl))

/-- Where `load` refuses the state, no body is accepted at any time. -/
theorem acceptBody_refused {dir : StateDir} {text : String} (refused : load lib dir none = .error (.state text))
    (cache : RegistryCache) (body : Bytes) (nowUnix : Int) (io : AcceptIo) :
    ∃ reason, cache.acceptBody lib dir body nowUnix io = (some (.error (.state reason)), cache, dir) := by
  have fails : ∃ reason, load lib dir io.load = .error (.state reason) := by
    cases io.load with
    | none => exact ⟨text, refused⟩
    | some e => exact ⟨_, rfl⟩
  rcases fails with ⟨reason, failed⟩
  refine ⟨reason, ?_⟩
  simp only [RegistryCache.acceptBody, failed]

/-- A baseline that was stored loads exactly where its version is positive. -/
theorem load_baseline (roundTrips : lib.RoundTrips) {after : StateDir} {verified : Verified} {body raw : Bytes}
    (encoded : lib.encodeState (baseline lib verified body) = .ok raw) (written : after.registry = some raw) :
    load lib after none = if verified.document.version ≤ 0 then
        .error (.state s!"{statePath after} records a non-positive version")
      else .ok (some (baseline lib verified body)) := by
  simp only [load, written, roundTrips.state _ _ encoded]
  rfl

/-- An accepted document leaves a state that loads, at its version or above, exactly where the version of a first
document is positive.  Then it is accepted again; otherwise no body is accepted any more, whatever the cache. -/
theorem accepted_state_loadable (roundTrips : lib.RoundTrips) {cache next : RegistryCache} {dir after : StateDir}
    {body : Bytes} {nowUnix : Int} {io : AcceptIo} {previous : Option RegistryState}
    (loadable : load lib dir none = .ok previous)
    (accepted : cache.acceptBody lib dir body nowUnix io = (some (.ok ()), next, after)) :
    ((∃ verified state, next.current = some verified ∧ load lib after none = .ok (some state) ∧
      verified.document.version ≤ state.highestVersion) ↔ FirstIsPositive lib cache body nowUnix previous) ∧
    (FirstIsPositive lib cache body nowUnix previous ->
      ∃ final, next.acceptBody lib after body nowUnix noFault = (some (.ok ()), next, final)) ∧
    (¬ FirstIsPositive lib cache body nowUnix previous -> forall (other : RegistryCache) otherBody otherUnix otherIo,
      ∃ reason, other.acceptBody lib after otherBody otherUnix otherIo = (some (.error (.state reason)), other, after)) := by
  rcases acceptBody_leaves loadable accepted with ⟨verified, rfl, checked, left⟩
  rcases carries_of_verify_ok lib checked with ⟨-, rollback⟩
  rcases left with ⟨prev, rfl, above, rfl⟩ | ⟨raw, encoded, written⟩
  · have first : FirstIsPositive lib cache body nowUnix (some prev) := by rintro ⟨⟩
    refine ⟨⟨fun _ => first, fun _ => ⟨verified, prev, rfl, loadable, above⟩⟩, ?_, fun other => absurd first other⟩
    exact fun _ => acceptBody_again checked loadable above rollback
  · have loads := load_baseline roundTrips encoded written
    by_cases first : FirstIsPositive lib cache body nowUnix previous
    · rw [if_neg (not_le.mpr (positive_of_verify loadable checked first))] at loads
      refine ⟨⟨fun _ => first, fun _ => ⟨verified, _, rfl, loads, le_refl _⟩⟩, ?_, fun other => absurd first other⟩
      intro _
      apply acceptBody_again checked loads (le_refl verified.document.version)
      simp only [checkRollback, baseline, roundTrips.b64]
      simp
    · have low : verified.document.version ≤ 0 := by
        rw [FirstIsPositive] at first
        push Not at first
        rcases first with ⟨rfl, other, otherChecked, low⟩
        cases checked.symm.trans otherChecked
        exact low
      rw [if_pos low] at loads
      refine ⟨⟨?_, fun other => absurd other first⟩, fun other => absurd other first, fun _ => acceptBody_refused loads⟩
      rintro ⟨_, state, -, found, -⟩
      cases loads.symm.trans found

theorem accepted_state_loadable_sample :
    ∃ next after, Sample.cache.acceptBody Sample.external ⟨"/var/lib/quiethop", none, none⟩ Sample.body 1791469800
        noFault = (some (.ok ()), next, after) ∧
      ∃ state, load Sample.external after none = .ok (some state) ∧ 497630 ≤ state.highestVersion := by
  have loadable : load Sample.external ⟨"/var/lib/quiethop", none, none⟩ none = .ok none := rfl
  have accepted : Sample.cache.acceptBody Sample.external ⟨"/var/lib/quiethop", none, none⟩ Sample.body 1791469800
      noFault = _ := acceptBody_first Sample.external Sample.verify_body Sample.encodes_body
  have positive : FirstIsPositive Sample.external Sample.cache Sample.body 1791469800 none := by
    intro _ verified checked
    cases Sample.verify_body.symm.trans checked
    decide
  rcases (accepted_state_loadable roundTrips_sample loadable accepted).1.mpr positive with
    ⟨verified, state, isCurrent, loads, above⟩
  cases isCurrent
  exact ⟨_, _, accepted, state, loads, above⟩

namespace Sample

def zeros : Bytes := List.replicate 64 0

/-- The external functions when the key has signed one document only, and the signature is zeros. -/
def signedOnly (doc : Document) (bytes : Bytes) (version : String) : External :=
  { external with
    verifyStrict := fun key msg sig => key = signingKey ∧ msg = signedMessage bytes ∧ sig = zeros
    parseEnvelope := fun raw =>
      if raw = bodyFor bytes zeros then .ok (envelopeFor bytes zeros) else .error "expected value at line 1 column 1"
    parseDocument := fun raw => if raw = bytes then .ok doc else .error "expected value at line 1 column 1"
    parseState := fun raw =>
      if raw = stateText version bytes zeros then .ok (stateFor doc.version bytes zeros)
      else .error "expected value at line 1 column 1"
    encodeState := fun state =>
      if state = stateFor doc.version bytes zeros then .ok (stateText version bytes zeros)
      else .error "unsupported value" }

section SignedOnly

variable {doc : Document} {bytes : Bytes} {version : String}

theorem roundTrips_signedOnly : (signedOnly doc bytes version).RoundTrips where
  b64 := roundTrips_sample.b64
  state state raw encoded := by
    simp only [signedOnly] at encoded ⊢
    split at encoded
    · next same =>
        cases encoded
        rw [if_pos rfl, same]
    · cases encoded

theorem encodes_signedOnly :
    (signedOnly doc bytes version).encodeState
      (baseline (signedOnly doc bytes version) ⟨doc, bytes, ["fe812c12f3ab4ce6"]⟩ (bodyFor bytes zeros)) =
      .ok (stateText version bytes zeros) := if_pos rfl

theorem acceptedIds_signedOnly :
    acceptedIds (signedOnly doc bytes version) [pinnedKey] (signedMessage bytes) (envelopeFor bytes zeros).signatures =
      SortedSet.empty.insert "fe812c12f3ab4ce6" := by
  have decoded : (signedOnly doc bytes version).b64Decode (asBytes (b64Encode zeros)) = .ok zeros :=
    roundTrips_sample.b64 zeros
  have strict : (signedOnly doc bytes version).verifyStrict signingKey (signedMessage bytes) zeros = true := by
    simp [signedOnly]
  have size : zeros.length = signatureLength := List.length_replicate
  simp only [acceptedIds, envelopeFor, List.foldl_cons, List.foldl_nil, acceptEntry, pinnedKey,
    List.find?_cons, decide_true, decoded, size, strict, ne_eq, not_true_eq_false, if_false, if_true]

/-- The one document is accepted whenever it is valid. -/
theorem verify_signedOnly {nowUnix : Int} (valid : checkValidity doc nowUnix = .ok ()) :
    verify (signedOnly doc bytes version) (bodyFor bytes zeros) [pinnedKey] 1 nowUnix none =
      .ok ⟨doc, bytes, ["fe812c12f3ab4ce6"]⟩ := by
  have parsed : (signedOnly doc bytes version).parseEnvelope (bodyFor bytes zeros) = .ok (envelopeFor bytes zeros) :=
    if_pos rfl
  have decoded : (signedOnly doc bytes version).b64Decode (asBytes (envelopeFor bytes zeros).document) = .ok bytes :=
    roundTrips_sample.b64 bytes
  rw [verify_of_decoded _ one_ne_zero parsed decoded, acceptedIds_signedOnly, if_neg (by decide)]
  exact (checkDocument_ok_iff _).mpr ⟨if_pos rfl, valid, rfl, rfl, rfl⟩

end SignedOnly

/-- A document of the first hour of 1970 that is valid until 2099. -/
def ancient : Document := ⟨0, "1970-01-01T00:00:00Z", "1970-01-01T01:00:00Z", "2099-01-01T00:00:00Z", []⟩

def ancientBytes : Bytes :=
  documentText "0" "1970-01-01T00:00:00Z" "1970-01-01T01:00:00Z" "2099-01-01T00:00:00Z"

def ancientOnly : External := signedOnly ancient ancientBytes "0"

end Sample

/-- A signed document of version 0 is accepted and stored.  After that `load` refuses the state and
the cache accepts nothing any more. -/
theorem accepted_state_unloadable :
    Sample.ancientOnly.RoundTrips ∧
    ∃ next after, Sample.cache.acceptBody Sample.ancientOnly ⟨"/var/lib/quiethop", none, none⟩
        (Sample.bodyFor Sample.ancientBytes Sample.zeros) 1791469800 noFault = (some (.ok ()), next, after) ∧
      load Sample.ancientOnly after none =
        .error (.state "/var/lib/quiethop/registry.json records a non-positive version") ∧
      forall cache body nowUnix io, ∃ reason,
        RegistryCache.acceptBody Sample.ancientOnly cache after body nowUnix io =
          (some (.error (.state reason)), cache, after) := by
  have valid : checkValidity Sample.ancient 1791469800 = .ok () := by decide +kernel
  have accepted : Sample.cache.acceptBody Sample.ancientOnly ⟨"/var/lib/quiethop", none, none⟩
      (Sample.bodyFor Sample.ancientBytes Sample.zeros) 1791469800 noFault = _ :=
    acceptBody_first _ (Sample.verify_signedOnly valid) Sample.encodes_signedOnly
  have refused : load Sample.ancientOnly
      ⟨"/var/lib/quiethop", some (Sample.stateText "0" Sample.ancientBytes Sample.zeros), none⟩ none =
        .error (.state "/var/lib/quiethop/registry.json records a non-positive version") := by
    have parsed := Sample.roundTrips_signedOnly.state _ _
      (@Sample.encodes_signedOnly Sample.ancient Sample.ancientBytes "0")
    have path : joinPath "/var/lib/quiethop" "registry.json" = "/var/lib/quiethop/registry.json" := by
      decide +kernel
    simp only [load, Sample.ancientOnly, parsed, statePath, path]
    exact if_pos (le_refl (0 : Int))
  exact ⟨Sample.roundTrips_signedOnly, _, _, accepted, refused, acceptBody_refused refused⟩

/-! ## Documents that stay fresh past their validity -/

/-- The document passed `verify` at some time. -/
def Vouched (lib : External) (verified : Verified) : Prop :=
  ∃ body pinned threshold nowUnix previous, verify lib body pinned threshold nowUnix previous = .ok verified

theorem Vouched.validUntil {verified : Verified} (vouched : Vouched lib verified) :
    ∃ limit, verified.document.validUntilUnix = .ok limit := by
  rcases vouched with ⟨body, pinned, threshold, nowUnix, previous, accepted⟩
  rcases verify_ok lib accepted with ⟨-, envelope, -, -, -, checked⟩
  rcases (checkDocument_ok_iff lib).mp checked with ⟨-, valid, -⟩
  rcases checkValidity_ok_iff.mp valid with ⟨limit, -, ends, -⟩
  exact ⟨limit, ends⟩

/-- A call leaves the cache alone or makes a document current that passed `verify`. -/
def Changes (lib : External) (cache next : RegistryCache) : Prop :=
  next = cache ∨ ∃ verified, Vouched lib verified ∧ next.current = some verified

theorem acceptBody_changes {dir after : StateDir} {cache next : RegistryCache} {body : Bytes} {nowUnix : Int}
    {io : AcceptIo} {outcome : Outcome Unit}
    (ran : cache.acceptBody lib dir body nowUnix io = (outcome, next, after)) : Changes lib cache next := by
  rcases acceptBody_cases lib ran with
    ⟨previous, verified, -, accepted, -, ⟨-, rfl⟩ | ⟨-, same⟩⟩ | ⟨e, -, same, -⟩
  · exact Or.inr ⟨verified, ⟨body, _, _, nowUnix, previous, accepted⟩, rfl⟩
  · exact Or.inl same
  · exact Or.inl same

theorem prime_changes {dir after : StateDir} {cache next : RegistryCache} {nowUnix : Int} {reuseFault : Option String}
    {response : Response} {io : AcceptIo} {outcome : Outcome Unit}
    (ran : cache.prime lib dir nowUnix reuseFault response io = (outcome, next, after)) : Changes lib cache next := by
  unfold RegistryCache.prime at ran
  split at ran
  · next reused found =>
      cases ran
      rcases reuseStored_some lib found with ⟨stored, text, bytes, fresh, -, -, -, accepted, -⟩
      exact Or.inr ⟨reused, ⟨bytes, _, _, nowUnix, some stored, accepted⟩, rfl⟩
  · split at ran
    · cases ran
      exact Or.inl rfl
    · exact acceptBody_changes ran

theorem refreshIfStale_changes {dir after : StateDir} {cache next : RegistryCache} {nowUnix : Int}
    {response : Response} {io : AcceptIo} {outcome : Outcome Bool}
    (ran : cache.refreshIfStale lib dir nowUnix response io = (outcome, next, after)) : Changes lib cache next := by
  rcases refreshIfStale_cases lib ran with ⟨-, same, -⟩ | ⟨body, accepted, ranBody, -⟩
  · exact Or.inl same
  · exact acceptBody_changes ranBody

theorem settle_vouched {outcome : Outcome Bool} {cache next : RegistryCache} {dir : StateDir} {verified : Verified}
    (held : ∀ found ∈ cache.current, Vouched lib found) (changes : Changes lib cache next)
    (isCurrent : (settle outcome next dir).1.current = some verified) : Vouched lib verified := by
  have current : next.current = some verified := by
    cases outcome with
    | none => simp [settle, World.current] at isCurrent
    | some result => simpa [settle, World.current] using isCurrent
  rcases changes with rfl | ⟨found, vouched, same⟩
  · exact held verified current
  · rw [same] at current
    exact Option.some.inj current ▸ vouched

theorem step_vouched {world : World} (held : ∀ verified ∈ world.current, Vouched lib verified) (op : Op)
    {verified : Verified} (isCurrent : (step lib world op).1.current = some verified) : Vouched lib verified := by
  have cached {cache : RegistryCache} (present : world.cache = some cache) :
      ∀ found ∈ cache.current, Vouched lib found := by
    simpa only [World.current, present, Option.bind_some] using held
  unfold step at isCurrent
  split at isCurrent
  · split at isCurrent
    · exact held verified isCurrent
    · next created =>
        rw [World.current, Option.bind_some, (RegistryCache.new_ok created).1] at isCurrent
        cases isCurrent
  · cases isCurrent
  · exact held verified isCurrent
  · next present => exact settle_vouched (cached present) (acceptBody_changes rfl) isCurrent
  · next present => exact settle_vouched (cached present) (prime_changes rfl) isCurrent
  · next present => exact settle_vouched (cached present) (refreshIfStale_changes rfl) isCurrent

/-- Whatever a process holds passed `verify`. -/
theorem run_vouched {world : World} (held : ∀ verified ∈ world.current, Vouched lib verified) (ops : List Op) :
    ∀ verified ∈ (run lib world ops).1.current, Vouched lib verified := by
  induction ops generalizing world with
  | nil => exact held
  | cons op rest ih =>
      rw [run_cons]
      apply ih
      intro verified isCurrent
      exact step_vouched held op isCurrent

/-- `fresh_until` is a timestamp, and not one after `valid_until`. -/
def FreshWithin (doc : Document) : Prop :=
  ∃ fresh, doc.freshUntilUnix = .ok fresh ∧ forall limit, doc.validUntilUnix = .ok limit -> fresh ≤ limit

/-- An expired document whose `fresh_until` is no later than its `valid_until` is always fetched
again: the call neither reports it as fresh nor fails before it fetches. -/
theorem expired_refetched {dir : StateDir} {ops : List Op} {cache : RegistryCache} {held : Verified}
    (reached : (run lib ⟨dir, none⟩ ops).1.cache = some cache) (holds : cache.current = some held)
    (within : FreshWithin held.document) :
    ∃ limit, held.document.validUntilUnix = .ok limit ∧ forall nowUnix, limit ≤ nowUnix ->
      cache.isStale nowUnix = .ok true ∧
      forall dir response io, cache.refreshIfStale lib dir nowUnix response io =
        cache.refetch lib dir nowUnix response io := by
  have vouched : Vouched lib held := by
    apply @run_vouched lib ⟨dir, none⟩ (fun found absent => by cases absent) ops
    rw [World.current, reached]
    exact holds
  rcases vouched.validUntil with ⟨limit, ends⟩
  rcases within with ⟨fresh, parsed, bounded⟩
  refine ⟨limit, ends, ?_⟩
  intro nowUnix expired
  have due : fresh ≤ nowUnix := le_trans (bounded limit ends) expired
  have stale : cache.isStale nowUnix = .ok true := by
    simp only [RegistryCache.isStale, holds, parsed, due, decide_true]
  refine ⟨stale, ?_⟩
  intro dir response io
  rw [RegistryCache.refreshIfStale_eq, stale]

theorem expired_refetched_sample :
    ∃ cache, (run Sample.external ⟨⟨"/var/lib/quiethop", none, none⟩, none⟩
        [.new "https://authority.example/api/v1/registry" [Sample.pinnedKey] 1,
          .acceptBody Sample.body 1791469800 ⟨none, none, none⟩]).1.cache = some cache ∧
      cache.isStale 1791489600 = .ok true := by
  have reached := @run_first_cache Sample.external "https://authority.example/api/v1/registry" "/var/lib/quiethop" none
    [Sample.pinnedKey] 1 Sample.cache _ _ _ _ rfl Sample.verify_body Sample.encodes_body
  have ends : Sample.document.validUntilUnix = .ok 1791489600 := by decide +kernel
  have within : FreshWithin Sample.document := by
    refine ⟨1791471600, by decide +kernel, ?_⟩
    intro limit found
    rw [ends] at found
    cases found
    decide
  rw [freshWorld] at reached
  rcases expired_refetched reached rfl within with ⟨limit, found, refetched⟩
  rw [ends] at found
  cases found
  exact ⟨_, reached, (refetched 1791489600 le_rfl).1⟩

namespace Sample

/-- The sample document with another `fresh_until`. -/
def lasting (fresh : String) : Document := ⟨497630, "2026-10-08T14:00:00Z", fresh, "2026-10-08T20:00:00Z", []⟩

def lastingBytes (fresh : String) : Bytes :=
  documentText "497630" "2026-10-08T14:00:00Z" fresh "2026-10-08T20:00:00Z"

def lastingOnly (fresh : String) : External := signedOnly (lasting fresh) (lastingBytes fresh) "497630"

theorem checkValidity_lasting (fresh : String) : checkValidity (lasting fresh) 1791469800 = .ok () := by
  have same : checkValidity (lasting fresh) 1791469800 = checkValidity document 1791469800 := rfl
  rw [same]
  decide +kernel

/-- A process that has accepted it half an hour after its `valid_after`. -/
theorem run_lasting (fresh : String) :
    (run (lastingOnly fresh) (freshWorld "/var/lib/quiethop" none)
      [.new "https://authority.example/api/v1/registry" [pinnedKey] 1,
        .acceptBody (bodyFor (lastingBytes fresh) zeros) 1791469800 ⟨none, none, none⟩]).1.cache =
      some { cache with current := some ⟨lasting fresh, lastingBytes fresh, ["fe812c12f3ab4ce6"]⟩ } :=
  run_first_cache _ rfl (verify_signedOnly (checkValidity_lasting fresh)) encodes_signedOnly

end Sample

/-- Both ways a document can outlast its validity.  With `fresh_until` in 2099 the call reports the
expired document as fresh; with one that is no timestamp every call fails before it fetches. -/
theorem expired_not_refetched :
    (∃ cache, (run (Sample.lastingOnly "2099-01-01T00:00:00Z") (freshWorld "/var/lib/quiethop" none)
        [.new "https://authority.example/api/v1/registry" [Sample.pinnedKey] 1,
          .acceptBody (Sample.bodyFor (Sample.lastingBytes "2099-01-01T00:00:00Z") Sample.zeros) 1791469800
            ⟨none, none, none⟩]).1.cache = some cache ∧
      (∃ held, cache.current = some held ∧ held.document.validUntilUnix = .ok 1791489600) ∧
      forall dir response io,
        cache.refreshIfStale (Sample.lastingOnly "2099-01-01T00:00:00Z") dir 1791489600 response io =
          (some (.ok false), cache, dir)) ∧
    (∃ cache, (run (Sample.lastingOnly "soon") (freshWorld "/var/lib/quiethop" none)
        [.new "https://authority.example/api/v1/registry" [Sample.pinnedKey] 1,
          .acceptBody (Sample.bodyFor (Sample.lastingBytes "soon") Sample.zeros) 1791469800
            ⟨none, none, none⟩]).1.cache = some cache ∧
      (∃ held, cache.current = some held ∧ held.document.validUntilUnix = .ok 1791489600) ∧
      ∃ e, forall nowUnix dir response io,
        cache.refreshIfStale (Sample.lastingOnly "soon") dir nowUnix response io = (some (.error e), cache, dir)) := by
  have ends (fresh : String) : (Sample.lasting fresh).validUntilUnix = .ok 1791489600 := by
    have same : (Sample.lasting fresh).validUntilUnix = Sample.document.validUntilUnix := rfl
    rw [same]
    decide +kernel
  constructor
  · refine ⟨_, Sample.run_lasting _, ⟨_, rfl, ends _⟩, ?_⟩
    intro dir response io
    have fresh : (Sample.lasting "2099-01-01T00:00:00Z").freshUntilUnix = .ok 4070908800 := by decide +kernel
    simp [RegistryCache.refreshIfStale_eq, RegistryCache.isStale, fresh]
  · refine ⟨_, Sample.run_lasting _, ⟨_, rfl, ends _⟩, ?_⟩
    have short : (asBytes "soon").length ≠ 20 := by decide +kernel
    rcases parseRfc3339_length short with ⟨e, unparsed⟩
    have fresh : (Sample.lasting "soon").freshUntilUnix = .error e := unparsed
    refine ⟨e, ?_⟩
    intro nowUnix dir response io
    simp only [RegistryCache.refreshIfStale_eq, RegistryCache.isStale, fresh]

end Registry
end QuietHop
