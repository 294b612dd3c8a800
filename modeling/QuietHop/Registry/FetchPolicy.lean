import QuietHop.Registry.Cache

namespace QuietHop
namespace Registry

open Lib Net

/-!
# The fetch policy

A fetch tells the authority when an address is active, so the cache fetches at most once in
a publication hour.  Within a process that follows from the document it holds; across a
restart it rests on the stored envelope, which is verified again instead of fetched again.

Here the publisher is honest and nothing fails: every response that would be read at a time
carries the document of the hour that contains it.
-/

namespace RegistryCache

/-- The document to use now, or an error when none may be used. -/
def usable (cache : RegistryCache) (nowUnix : Int) : Except RegistryError Verified :=
  match cache.current with
  | none => .error (.registry "no verified registry has been accepted")
  | some current =>
      match current.document.isUsableAt nowUnix with
      | .error e => .error e
      | .ok false => .error (.registry "the last verified registry is outside its validity window")
      | .ok true => .ok current

/-- Whether a refresh is due. -/
def isStale (cache : RegistryCache) (nowUnix : Int) : Except RegistryError Bool :=
  match cache.current with
  | some current =>
      match current.document.freshUntilUnix with
      | .error e => .error e
      | .ok fresh => .ok (decide (fresh ≤ nowUnix))
  | none => .ok true

variable (lib : External)

/-- `refresh_if_stale` reads a response exactly when a refresh is due. -/
theorem refreshIfStale_eq (cache : RegistryCache) (dir : StateDir) (nowUnix : Int) (response : Response)
    (io : AcceptIo) :
    cache.refreshIfStale lib dir nowUnix response io =
      match cache.isStale nowUnix with
      | .error e => (some (.error e), cache, dir)
      | .ok false => (some (.ok false), cache, dir)
      | .ok true => cache.refetch lib dir nowUnix response io := by
  rw [refreshIfStale.eq_def, isStale.eq_def]
  cases cache.current with
  | none => rfl
  | some current =>
      dsimp only
      cases current.document.freshUntilUnix with
      | error reason => rfl
      | ok fresh =>
          by_cases due : fresh ≤ nowUnix
          · simp [due]
          · simp [due, not_le.mp due]

end RegistryCache

/-! ## Visits -/

/-- One use of the cache: a new process primes it, or the running one refreshes it.  The
response is what a fetch would be answered, should the call make one. -/
structure Visit where
  restarts : Bool
  now : Int64
  response : Response

def Visit.hour (visit : Visit) : Int := visit.now.toInt / 3600

/-- What a visit amounted to. -/
structure Seen where
  visit : Visit
  outcome : Outcome Bool
  fetched : Bool
  usable : Except RegistryError Verified

structure Process where
  dir : StateDir
  cache : RegistryCache

/-- Input and output without a failure. -/
def noFault : AcceptIo := ⟨none, none, none⟩

variable (lib : External) (start : RegistryCache)

/-- One visit; `start` is the cache a new process constructs from the configuration. -/
def visit (process : Process) (visit : Visit) : Process × Seen :=
  let now := visit.now.toInt
  if visit.restarts then
    let (outcome, next, after) := start.prime lib process.dir now none visit.response noFault
    (⟨after, next⟩,
      ⟨visit, always outcome, (start.reuseStored lib process.dir now none).isNone, next.usable now⟩)
  else
    let (outcome, next, after) := process.cache.refreshIfStale lib process.dir now visit.response noFault
    (⟨after, next⟩,
      ⟨visit, outcome, process.cache.isStale now matches .ok true, next.usable now⟩)

def visits (process : Process) : List Visit -> List Seen
  | [] => []
  | next :: rest => (visit lib start process next).2 :: visits (visit lib start process next).1 rest

/-- The hours in which a fetch was made, in order. -/
def fetchHours (seen : List Seen) : List Int :=
  (seen.filter Seen.fetched).map fun each => each.visit.hour

/-! ## The honest publisher -/

/-- A body that carries the document of an hour, as the publisher signs it: enough pinned
keys signed it, it is fresh for one hour and valid for six. -/
structure Publishes (hour : Int) (body : Bytes) (verified : Verified) : Prop where
  signed : ∃ envelope, lib.parseEnvelope body = .ok envelope ∧
    lib.b64Decode (asBytes envelope.document) = .ok verified.bytes ∧
    start.threshold ≤ (acceptedIds lib start.pinned (signedMessage verified.bytes) envelope.signatures).card ∧
    verified.keyIds = (acceptedIds lib start.pinned (signedMessage verified.bytes) envelope.signatures).elems
  parsed : lib.parseDocument verified.bytes = .ok verified.document
  version : verified.document.version = hour
  positive : 0 < hour
  starts : verified.document.validAfterUnix = .ok (hour * 3600)
  fresh : verified.document.freshUntilUnix = .ok (hour * 3600 + 3600)
  ends : verified.document.validUntilUnix = .ok (hour * 3600 + 21600)
  encodes : ∃ raw, lib.encodeState (baseline lib verified body) = .ok raw

/-- The response is a success whose body carries the document of the hour. -/
def HonestIn (hour : Int) (response : Response) : Prop :=
  ∃ body verified, fetch response = .ok body ∧ Publishes lib start hour body verified

variable {lib start}

theorem Publishes.verifies {hour : Int} {body : Bytes} {verified : Verified} {now : Int64}
    {previous : Option RegistryState} (publishes : Publishes lib start hour body verified)
    (positive : start.threshold ≠ 0) (current : now.toInt / 3600 = hour)
    (forward : checkRollback lib verified.document verified.bytes previous = .ok ()) :
    verify lib body start.pinned start.threshold now.toInt previous = .ok verified := by
  rcases publishes.signed with ⟨envelope, parsed, decoded, enough, ids⟩
  have before : now.toInt < hour * 3600 + 21600 := by omega
  have valid : checkValidity verified.document now.toInt = .ok () := by
    apply checkValidity_ok_iff.mpr
    refine ⟨hour * 3600 + 21600, ?_, publishes.ends, ?_, ?_, before⟩
    · rw [publishes.version]
      exact publishes.starts
    · rw [publishes.version]
      omega
    · have allowance : skewAllowanceSecs = 60 := rfl
      rw [Document.wrappingAdd_allowance publishes.ends before, publishes.version]
      omega
  simp only [verify, if_neg positive, parsed, decoded, if_neg (not_lt.mpr enough)]
  exact (checkDocument_ok_iff lib).mpr ⟨publishes.parsed, valid, forward, rfl, ids⟩

theorem Publishes.usable {hour : Int} {body : Bytes} {verified : Verified} {now : Int64}
    (publishes : Publishes lib start hour body verified) (current : now.toInt / 3600 = hour) :
    RegistryCache.usable { start with current := some verified } now.toInt = .ok verified := by
  have allowance : skewAllowanceSecs = 60 := rfl
  have inside : hour * 3600 ≤ now.toInt + skewAllowanceSecs ∧ now.toInt < hour * 3600 + 21600 := by omega
  simp only [RegistryCache.usable, Document.isUsableAt_eq now publishes.starts publishes.ends, inside, and_self,
    decide_true]

/-! ## What a process holds between two visits -/

variable (lib start)

/-- The process holds the document of an hour, and its envelope is the one on disk. -/
def Holds (process : Process) (hour : Int) : Prop :=
  ∃ body verified, Publishes lib start hour body verified ∧
    process.cache = { start with current := some verified } ∧
    load lib process.dir none = .ok (some (baseline lib verified body))

/-- Nothing has been fetched yet, or the last document fetched is held. -/
def Stands (process : Process) : Option Int -> Prop
  | none => process.cache = start ∧ load lib process.dir none = .ok none
  | some hour => Holds lib start process hour

variable {lib start}

theorem load_leave (roundTrips : lib.RoundTrips) {dir : StateDir} {state : RegistryState} {raw : Bytes}
    (encoded : lib.encodeState state = .ok raw) (positive : 0 < state.highestVersion) :
    load lib (dir.leave raw (.rename true)) none = .ok (some state) := by
  simp only [load, StateDir.leave, if_true, roundTrips.state state raw encoded, if_neg (not_le.mpr positive)]

/-- The first document, or one for a later hour than the one on disk. -/
def Onward (hour : Int) : Option RegistryState -> Prop
  | none => True
  | some held => held.highestVersion < hour

theorem checkRollback_onward {hour : Int} {verified : Verified} {previous : Option RegistryState}
    (version : verified.document.version = hour) (onward : Onward hour previous) :
    checkRollback lib verified.document verified.bytes previous = .ok () := by
  cases previous with
  | none => rfl
  | some held =>
      have above : held.highestVersion < verified.document.version := version ▸ onward
      simp only [checkRollback, if_neg (not_lt.mpr above.le), if_neg above.ne']

theorem acceptBody_onward (roundTrips : lib.RoundTrips) (positive : start.threshold ≠ 0) (held : Option Verified)
    {dir : StateDir} {hour : Int} {body : Bytes} {verified : Verified} {now : Int64} {previous : Option RegistryState}
    (publishes : Publishes lib start hour body verified) (current : now.toInt / 3600 = hour)
    (loaded : load lib dir none = .ok previous) (onward : Onward hour previous) :
    ∃ after, RegistryCache.acceptBody lib { start with current := held } dir body now.toInt noFault =
        (some (.ok ()), { start with current := some verified }, after) ∧
      load lib after none = .ok (some (baseline lib verified body)) := by
  rcases publishes.encodes with ⟨raw, encoded⟩
  have accepted := publishes.verifies positive current (checkRollback_onward publishes.version onward)
  have version : (baseline lib verified body).highestVersion = hour := publishes.version
  have remembered : remember lib dir verified body none none =
      (some (.ok ()), dir.leave raw (.rename true)) := by
    cases previous with
    | none => simp only [remember, loaded, store, encoded]
    | some stored =>
        have older : ¬ stored.highestVersion ≥ (baseline lib verified body).highestVersion := by
          rw [version]
          exact not_le.mpr onward
        simp only [remember, loaded, if_neg older, store, encoded]
  refine ⟨dir.leave raw (.rename true), ?_, load_leave roundTrips encoded (version ▸ publishes.positive)⟩
  simp only [RegistryCache.acceptBody, noFault, loaded, accepted, remembered]

/-- The stored envelope is reused exactly in the hour it was published for. -/
theorem reuseStored_baseline (roundTrips : lib.RoundTrips) (positive : start.threshold ≠ 0) {dir : StateDir}
    {hour : Int} {body : Bytes} {verified : Verified} {now : Int64}
    (publishes : Publishes lib start hour body verified)
    (loaded : load lib dir none = .ok (some (baseline lib verified body))) (passed : hour ≤ now.toInt / 3600) :
    start.reuseStored lib dir now.toInt none = if now.toInt / 3600 = hour then some verified else none := by
  have itself : checkRollback lib verified.document verified.bytes (some (baseline lib verified body)) = .ok () := by
    simp [checkRollback, baseline, roundTrips.b64]
  have decoded := roundTrips.b64 body
  simp only [RegistryCache.reuseStored, loaded]
  rw [baseline]
  simp only [decoded]
  rw [← baseline.eq_def lib verified body]
  by_cases current : now.toInt / 3600 = hour
  · rw [publishes.verifies positive current itself, if_pos current]
    simp only [publishes.fresh]
    rw [if_pos (by omega)]
  · rw [if_neg current]
    cases checked : verify lib body start.pinned start.threshold now.toInt (some (baseline lib verified body)) with
    | error reason => rfl
    | ok other =>
        -- Whatever is verified is the stored document, which is no longer fresh.
        rcases publishes.signed with ⟨envelope, parsed, bytes, -, -⟩
        have same := Carries.unique lib (carries_of_verify_ok lib checked).1
          ⟨envelope, parsed, bytes, publishes.parsed⟩
        simp only [same.1, publishes.fresh]
        rw [if_neg (by omega)]

/-! ## One visit -/

variable (lib start)

/-- A visit that leaves the document of its hour held and usable, having fetched only if it
was not held before. -/
structure Serves (held : Option Int) (visit : Visit) (result : Process × Seen) : Prop where
  holds : Holds lib start result.1 visit.hour
  same : result.2.visit = visit
  succeeds : ∃ refreshed, result.2.outcome = some (.ok refreshed)
  fetched : result.2.fetched = decide (held ≠ some visit.hour)
  usable : ∃ verified, result.2.usable = .ok verified

variable {lib start}

/-- What a visit finds on disk is older than the document of an hour not yet held. -/
theorem Stands.onward {process : Process} {held : Option Int} {hour : Int} (stands : Stands lib start process held)
    (earlier : ∀ each ∈ held, each ≤ hour) (other : held ≠ some hour) :
    ∃ previous, load lib process.dir none = .ok previous ∧ Onward hour previous := by
  cases held with
  | none => exact ⟨none, stands.2, trivial⟩
  | some before =>
      rcases stands with ⟨body, verified, publishes, -, loaded⟩
      refine ⟨_, loaded, ?_⟩
      have below : before ≤ hour := earlier before rfl
      have different : before ≠ hour := fun same => other (congrArg some same)
      have version : (baseline lib verified body).highestVersion = before := publishes.version
      rw [Onward, version]
      omega

theorem reuseStored_stands (roundTrips : lib.RoundTrips) (positive : start.threshold ≠ 0) {process : Process}
    {held : Option Int} {now : Int64} (stands : Stands lib start process held)
    (earlier : ∀ each ∈ held, each ≤ now.toInt / 3600) :
    (held ≠ some (now.toInt / 3600) ∧ start.reuseStored lib process.dir now.toInt none = none) ∨
      ∃ body verified, held = some (now.toInt / 3600) ∧ Publishes lib start (now.toInt / 3600) body verified ∧
        load lib process.dir none = .ok (some (baseline lib verified body)) ∧
        start.reuseStored lib process.dir now.toInt none = some verified := by
  cases held with
  | none =>
      refine Or.inl ⟨by simp, ?_⟩
      simp only [RegistryCache.reuseStored, stands.2]
  | some before =>
      rcases stands with ⟨body, verified, publishes, -, loaded⟩
      have reused := reuseStored_baseline roundTrips positive publishes loaded (earlier before rfl)
      by_cases same : now.toInt / 3600 = before
      · rw [if_pos same] at reused
        exact Or.inr ⟨body, verified, congrArg some same.symm, same ▸ publishes, loaded, reused⟩
      · rw [if_neg same] at reused
        exact Or.inl ⟨fun equal => same (Option.some.inj equal).symm, reused⟩

theorem visit_restart (roundTrips : lib.RoundTrips) (positive : start.threshold ≠ 0) {process : Process}
    {held : Option Int} {now : Int64} {response : Response} (stands : Stands lib start process held)
    (earlier : ∀ each ∈ held, each ≤ now.toInt / 3600) (honest : HonestIn lib start (now.toInt / 3600) response) :
    Serves lib start held ⟨true, now, response⟩ (visit lib start process ⟨true, now, response⟩) := by
  rcases reuseStored_stands roundTrips positive stands earlier with
    ⟨other, none⟩ | ⟨body, verified, rfl, publishes, loaded, reused⟩
  · rcases honest with ⟨body, verified, answered, publishes⟩
    rcases stands.onward earlier other with ⟨previous, loaded, onward⟩
    rcases acceptBody_onward roundTrips positive start.current publishes rfl loaded onward with
      ⟨after, accepted, stored⟩
    have primed : start.prime lib process.dir now.toInt Option.none response noFault =
        (some (.ok ()), { start with current := some verified }, after) := by
      simp only [RegistryCache.prime, none, answered]
      exact accepted
    have result : visit lib start process ⟨true, now, response⟩ =
        (⟨after, { start with current := some verified }⟩,
          ⟨⟨true, now, response⟩, some (.ok true), true, .ok verified⟩) := by
      simp only [visit, if_true, primed, none, Option.isNone_none, publishes.usable rfl]
      rfl
    rw [result]
    exact ⟨⟨body, verified, publishes, rfl, stored⟩, rfl, ⟨true, rfl⟩, (decide_eq_true other).symm, ⟨verified, rfl⟩⟩
  · have result : visit lib start process ⟨true, now, response⟩ =
        (⟨process.dir, { start with current := some verified }⟩,
          ⟨⟨true, now, response⟩, some (.ok true), false, .ok verified⟩) := by
      simp only [visit, if_true, RegistryCache.prime, reused, Option.isNone_some, publishes.usable rfl]
      rfl
    rw [result]
    refine ⟨⟨body, verified, publishes, rfl, loaded⟩, rfl, ⟨true, rfl⟩, ?_, ⟨verified, rfl⟩⟩
    simp [Visit.hour]

theorem isStale_stands {process : Process} {held : Option Int} {now : Int64} (unset : start.current = none)
    (stands : Stands lib start process held) (earlier : ∀ each ∈ held, each ≤ now.toInt / 3600) :
    process.cache.isStale now.toInt = .ok (decide (held ≠ some (now.toInt / 3600))) := by
  cases held with
  | none => simp [RegistryCache.isStale, stands.1, unset]
  | some before =>
      rcases stands with ⟨body, verified, publishes, cache, -⟩
      have below : before ≤ now.toInt / 3600 := earlier before rfl
      have due : before * 3600 + 3600 ≤ now.toInt ↔ before ≠ now.toInt / 3600 := by omega
      simp only [RegistryCache.isStale, cache, publishes.fresh, due, ne_eq, Option.some.injEq]

theorem visit_refresh (roundTrips : lib.RoundTrips) (positive : start.threshold ≠ 0) (unset : start.current = none)
    {process : Process} {held : Option Int} {now : Int64} {response : Response}
    (stands : Stands lib start process held) (earlier : ∀ each ∈ held, each ≤ now.toInt / 3600)
    (honest : HonestIn lib start (now.toInt / 3600) response) :
    Serves lib start held ⟨false, now, response⟩ (visit lib start process ⟨false, now, response⟩) := by
  have stale := isStale_stands unset stands earlier
  by_cases same : held = some (now.toInt / 3600)
  · subst same
    rcases stands with ⟨body, verified, publishes, cache, loaded⟩
    rw [cache, decide_eq_false (not_not.mpr rfl)] at stale
    have result : visit lib start process ⟨false, now, response⟩ =
        (⟨process.dir, { start with current := some verified }⟩,
          ⟨⟨false, now, response⟩, some (.ok false), false, .ok verified⟩) := by
      simp only [visit, RegistryCache.refreshIfStale_eq, cache, stale, Bool.false_eq_true, if_false,
        publishes.usable rfl]
    rw [result]
    refine ⟨⟨body, verified, publishes, rfl, loaded⟩, rfl, ⟨false, rfl⟩, ?_, ⟨verified, rfl⟩⟩
    simp [Visit.hour]
  · rcases honest with ⟨body, verified, answered, publishes⟩
    rcases stands.onward earlier same with ⟨previous, loaded, onward⟩
    have configured : process.cache = { start with current := process.cache.current } := by
      cases held with
      | none => rw [stands.1]
      | some before =>
          rcases stands with ⟨-, other, -, cache, -⟩
          rw [cache]
    rcases acceptBody_onward roundTrips positive process.cache.current publishes rfl loaded onward with
      ⟨after, accepted, stored⟩
    rw [← configured] at accepted
    rw [decide_eq_true same] at stale
    have result : visit lib start process ⟨false, now, response⟩ =
        (⟨after, { start with current := some verified }⟩,
          ⟨⟨false, now, response⟩, some (.ok true), true, .ok verified⟩) := by
      simp only [visit, RegistryCache.refreshIfStale_eq, stale, Bool.false_eq_true, if_false, RegistryCache.refetch,
        answered, accepted, publishes.usable rfl]
    rw [result]
    exact ⟨⟨body, verified, publishes, rfl, stored⟩, rfl, ⟨true, rfl⟩, (decide_eq_true same).symm, ⟨verified, rfl⟩⟩

theorem visit_serves (roundTrips : lib.RoundTrips) (positive : start.threshold ≠ 0) (unset : start.current = none)
    {process : Process} {held : Option Int} {next : Visit} (stands : Stands lib start process held)
    (earlier : ∀ each ∈ held, each ≤ next.hour) (honest : HonestIn lib start next.hour next.response) :
    Serves lib start held next (visit lib start process next) := by
  cases next with
  | mk restarts now response =>
      cases restarts with
      | true => exact visit_restart roundTrips positive stands earlier honest
      | false => exact visit_refresh roundTrips positive unset stands earlier honest

/-! ## Every run -/

/-- The fetch hours of a run increase, and all of them come after the hour held at its start. -/
theorem visits_serve (roundTrips : lib.RoundTrips) (positive : start.threshold ≠ 0) (unset : start.current = none)
    {process : Process} {held : Option Int} {plan : List Visit} (stands : Stands lib start process held)
    (earlier : ∀ each ∈ held, ∀ next ∈ plan, each ≤ next.hour)
    (ordered : plan.Pairwise fun before after => before.hour ≤ after.hour)
    (honest : ∀ next ∈ plan, HonestIn lib start next.hour next.response) :
    (fetchHours (visits lib start process plan)).Pairwise (· < ·) ∧
      (∀ each ∈ held, ∀ hour ∈ fetchHours (visits lib start process plan), each < hour) ∧
      ∀ seen ∈ visits lib start process plan,
        (∃ refreshed, seen.outcome = some (.ok refreshed)) ∧ ∃ verified, seen.usable = .ok verified := by
  induction plan generalizing process held with
  | nil => simp [visits, fetchHours]
  | cons next rest ih =>
      have inOrder := List.pairwise_cons.mp ordered
      have serves := visit_serves roundTrips positive unset stands
        (fun each member => earlier each member next (List.mem_cons_self ..)) (honest next (List.mem_cons_self ..))
      have later := @ih (visit lib start process next).1 (some next.hour) serves.holds
        (by
          rintro each ⟨⟩ other member
          exact inOrder.1 other member)
        inOrder.2 (fun other member => honest other (List.mem_cons_of_mem _ member))
      rcases later with ⟨increasing, above, rest'⟩
      have all : ∀ seen ∈ visits lib start process (next :: rest),
          (∃ refreshed, seen.outcome = some (.ok refreshed)) ∧ ∃ verified, seen.usable = .ok verified := by
        intro seen member
        rcases List.mem_cons.mp member with rfl | member
        · exact ⟨serves.succeeds, serves.usable⟩
        · exact rest' seen member
      by_cases same : held = some next.hour
      · have silent : (visit lib start process next).2.fetched = false := by
          rw [serves.fetched, decide_eq_false (not_not.mpr same)]
        have hours : fetchHours (visits lib start process (next :: rest)) =
            fetchHours (visits lib start (visit lib start process next).1 rest) := by
          simp [fetchHours, visits, silent]
        rw [hours, same]
        exact ⟨increasing, above, all⟩
      · have fetches : (visit lib start process next).2.fetched = true := by
          rw [serves.fetched, decide_eq_true same]
        have hours : fetchHours (visits lib start process (next :: rest)) =
            next.hour :: fetchHours (visits lib start (visit lib start process next).1 rest) := by
          simp [fetchHours, visits, fetches, serves.same]
        rw [hours]
        refine ⟨List.pairwise_cons.mpr ⟨above next.hour rfl, increasing⟩, ?_, all⟩
        intro each member hour inside
        have below := earlier each member next (List.mem_cons_self ..)
        have different : each ≠ next.hour := fun equal => same (equal ▸ member)
        rcases List.mem_cons.mp inside with rfl | inside
        · omega
        · have := above next.hour rfl hour inside
          omega

variable (lib)

/-- With an honest publisher and no failures no two fetches are made in one hour, every call
succeeds, and a document is usable after each. -/
theorem one_fetch_per_hour (roundTrips : lib.RoundTrips) {url : String} {pinned : List PinnedKey} {threshold : Nat}
    {start : RegistryCache} (created : RegistryCache.new url pinned threshold = .ok start) (path : String)
    (tmp : Option Bytes) (plan : List Visit) (ordered : plan.Pairwise fun before after => before.now ≤ after.now)
    (honest : ∀ next ∈ plan, HonestIn lib start next.hour next.response) :
    (fetchHours (visits lib start ⟨⟨path, none, tmp⟩, start⟩ plan)).Pairwise (· ≠ ·) ∧
      ∀ seen ∈ visits lib start ⟨⟨path, none, tmp⟩, start⟩ plan,
        (∃ refreshed, seen.outcome = some (.ok refreshed)) ∧ ∃ verified, seen.usable = .ok verified := by
  rcases RegistryCache.new_ok created with ⟨made, positive⟩
  have unset : start.current = none := by rw [made]
  have asks : start.threshold ≠ 0 := by rwa [made]
  have stands : Stands lib start ⟨⟨path, none, tmp⟩, start⟩ none := ⟨rfl, rfl⟩
  have inOrder : plan.Pairwise fun before after => before.hour ≤ after.hour := by
    refine ordered.imp ?_
    intro before after passes
    exact Int.ediv_le_ediv (by decide) (Int64.le_iff_toInt_le.mp passes)
  rcases visits_serve roundTrips asks unset stands (by simp) inOrder honest with ⟨increasing, -, all⟩
  exact ⟨increasing.imp fun below => below.ne, all⟩

namespace Sample

def cache : RegistryCache := ⟨"https://authority.example/api/v1/registry", [pinnedKey], 1, none⟩

/-- Two processes use the cache in one hour and a third starts in the next. -/
def twoHours : List Visit :=
  [⟨true, 1791469800, .status 200 (.ok body)⟩, ⟨false, 1791470000, .status 200 (.ok body)⟩,
    ⟨true, 1791471599, .status 200 (.ok body)⟩, ⟨false, 1791471600, .status 200 (.ok nextBody)⟩,
    ⟨true, 1791471601, .status 200 (.ok nextBody)⟩]

theorem publishes : Publishes external cache 497630 body ⟨document, documentBytes, ["fe812c12f3ab4ce6"]⟩ where
  signed := ⟨envelopeFor documentBytes signature, by decide +kernel⟩
  parsed := by decide +kernel
  version := rfl
  positive := by decide
  starts := by decide +kernel
  fresh := by decide +kernel
  ends := by decide +kernel
  encodes := ⟨_, encodes_body⟩

theorem publishes_next :
    Publishes external cache 497631 nextBody ⟨nextDocument, nextDocumentBytes, ["fe812c12f3ab4ce6"]⟩ where
  signed := ⟨envelopeFor nextDocumentBytes nextSignature, by decide +kernel⟩
  parsed := by decide +kernel
  version := rfl
  positive := by decide
  starts := by decide +kernel
  fresh := by decide +kernel
  ends := by decide +kernel
  encodes := ⟨_, encodes_nextBody⟩

theorem twoHours_honest : ∀ next ∈ twoHours, HonestIn external cache next.hour next.response := by
  have first : HonestIn external cache 497630 (.status 200 (.ok body)) := ⟨body, _, rfl, publishes⟩
  have second : HonestIn external cache 497631 (.status 200 (.ok nextBody)) := ⟨nextBody, _, rfl, publishes_next⟩
  intro next member
  simp only [twoHours, List.mem_cons, List.not_mem_nil, or_false] at member
  rcases member with rfl | rfl | rfl | rfl | rfl
  · exact first
  · exact first
  · exact first
  · exact second
  · exact second

end Sample

theorem one_fetch_per_hour_two_hours :
    (Sample.twoHours.Pairwise fun before after => before.now ≤ after.now) ∧
      (fetchHours (visits Sample.external Sample.cache ⟨⟨"/var/lib/quiethop", none, none⟩, Sample.cache⟩
        Sample.twoHours)).Pairwise (· ≠ ·) := by
  have ordered : Sample.twoHours.Pairwise fun before after => before.now ≤ after.now := by
    simp [Sample.twoHours]
  have created : RegistryCache.new "https://authority.example/api/v1/registry" [Sample.pinnedKey] 1 =
      .ok Sample.cache := rfl
  exact ⟨ordered, (one_fetch_per_hour Sample.external roundTrips_sample created "/var/lib/quiethop" none
    Sample.twoHours ordered Sample.twoHours_honest).1⟩

end Registry
end QuietHop
