import QuietHop.Registry.Cache

namespace QuietHop
namespace Registry

open Lib

/-!
# Documents dated ahead of the clock

A document is accepted only when its hour is at most the skew allowance ahead of the clock,
and its version is that hour.  So no history of accepted documents, whoever signed them,
raises the baseline above the clock by more than the allowance, and a document for a later
hour is never refused as a rollback.
-/

/-- The hour of a version has begun, or begins within the allowance. -/
def Timely (clock version : Int) : Prop :=
  version * 3600 ≤ clock + skewAllowanceSecs

theorem Timely.mono {clock later version : Int} (timely : Timely clock version) (passes : clock ≤ later) :
    Timely later version := by
  rw [Timely] at timely ⊢
  omega

/-- For a clock that is an `i64` the allowance is added without wrapping: an accepted
document ends long before the last instant. -/
theorem timely_of_checkValidity {doc : Document} {now : Int64} (valid : checkValidity doc now.toInt = .ok ()) :
    Timely now.toInt doc.version := by
  rcases checkValidity_ok_iff.mp valid with ⟨untilUnix, -, ends, -, early, unexpired⟩
  rw [Document.wrappingAdd_allowance ends unexpired] at early
  exact early

variable (lib : External)

theorem timely_of_verify {body : Bytes} {pinned : List PinnedKey} {threshold : Nat} {now : Int64}
    {previous : Option RegistryState} {verified : Verified}
    (accepted : verify lib body pinned threshold now.toInt previous = .ok verified) :
    Timely now.toInt verified.document.version := by
  rcases verify_ok lib accepted with ⟨-, envelope, -, -, -, checked⟩
  rcases (checkDocument_ok_iff lib).mp checked with ⟨-, valid, -⟩
  exact timely_of_checkValidity valid

/-! ## Runs -/

/-- The clock of a call, as far as the call reads one. -/
def Op.clock : Op -> Option Int
  | .acceptBody _ nowUnix _ => some nowUnix
  | .prime nowUnix _ _ _ => some nowUnix
  | .refreshIfStale nowUnix _ _ => some nowUnix
  | _ => none

/-- The call reads an `i64` clock that has not passed `limit`. -/
def Op.NotAfter (limit : Int64) (op : Op) : Prop :=
  ∀ nowUnix ∈ op.clock, ∃ now : Int64, nowUnix = now.toInt ∧ now.toInt ≤ limit.toInt

/-- The state file records no version ahead of the clock, and neither is a document that
was accepted. -/
def KeepsTime (clock : Int) (dir : StateDir) (accepted : List Verified) : Prop :=
  ∃ mark, Records lib dir mark ∧ (∀ entry ∈ mark, Timely clock entry.version) ∧
    ∀ verified ∈ accepted, Timely clock verified.document.version

variable {lib}

theorem keepsTime_idle {clock : Int} {dir : StateDir} {mark : Option Entry} (records : Records lib dir mark)
    (timely : ∀ entry ∈ mark, Timely clock entry.version) : KeepsTime lib clock dir [] :=
  ⟨mark, records, timely, by simp⟩

theorem mem_becameCurrent {outcome : Outcome Bool} {cache : RegistryCache} {verified : Verified}
    (member : verified ∈ becameCurrent outcome cache) : cache.current = some verified := by
  unfold becameCurrent at member
  split at member
  · exact Option.mem_toList.mp member
  · cases member

theorem acceptBody_keepsTime (roundTrips : lib.RoundTrips) {dir after : StateDir} {mark : Option Entry} {limit now : Int64}
    (records : Records lib dir mark) (timely : ∀ entry ∈ mark, Timely limit.toInt entry.version)
    (notAfter : now.toInt ≤ limit.toInt) {cache next : RegistryCache} {body : Bytes} {io : AcceptIo}
    {outcome : Outcome Unit} (ran : cache.acceptBody lib dir body now.toInt io = (outcome, next, after)) :
    KeepsTime lib limit.toInt after (becameCurrent (always outcome) next) := by
  rcases acceptBody_cases lib ran with ⟨previous, verified, loaded, accepted, remembers, ended⟩ | ⟨e, rfl, -, rfl⟩
  · have inTime := (timely_of_verify lib accepted).mono notAfter
    rcases carries_of_verify_ok lib accepted with ⟨carries, rollback⟩
    have admits := admits_of_checkRollback lib (matches_of_load lib records loaded) rollback
    have remembered := remember_records lib roundTrips records admits carries io.reload io.store
    rw [remembers] at remembered
    -- The mark is the document just verified, or the one it was before.
    have marked : ∃ mark', Records lib after mark' ∧ ∀ entry ∈ mark', Timely limit.toInt entry.version := by
      rcases remembered with recorded | ⟨kept, -⟩
      · refine ⟨_, recorded, ?_⟩
        intro entry same
        cases same
        exact inTime
      · exact ⟨mark, kept, timely⟩
    rcases marked with ⟨mark', recorded, timely'⟩
    rcases ended with ⟨rfl, rfl⟩ | ⟨abnormal, -⟩
    · refine ⟨mark', recorded, timely', ?_⟩
      intro other member
      cases mem_becameCurrent member
      exact inTime
    · rw [becameCurrent_of_ne (always_ne abnormal)]
      exact keepsTime_idle recorded timely'
  · exact keepsTime_idle records timely

theorem prime_keepsTime (roundTrips : lib.RoundTrips) {dir after : StateDir} {mark : Option Entry} {limit now : Int64}
    (records : Records lib dir mark) (timely : ∀ entry ∈ mark, Timely limit.toInt entry.version)
    (notAfter : now.toInt ≤ limit.toInt) {cache next : RegistryCache} {reuseFault : Option String}
    {response : Response} {io : AcceptIo} {outcome : Outcome Unit}
    (ran : cache.prime lib dir now.toInt reuseFault response io = (outcome, next, after)) :
    KeepsTime lib limit.toInt after (becameCurrent (always outcome) next) := by
  rw [RegistryCache.prime] at ran
  split at ran
  · next reused found =>
      cases ran
      have isMark := reuseStored_admits lib records found
      refine ⟨mark, records, timely, ?_⟩
      intro other member
      cases mem_becameCurrent member
      exact timely reused.entry isMark
  · split at ran
    · cases ran
      exact keepsTime_idle records timely
    · exact acceptBody_keepsTime roundTrips records timely notAfter ran

theorem refreshIfStale_keepsTime (roundTrips : lib.RoundTrips) {dir after : StateDir} {mark : Option Entry}
    {limit now : Int64} (records : Records lib dir mark) (timely : ∀ entry ∈ mark, Timely limit.toInt entry.version)
    (notAfter : now.toInt ≤ limit.toInt) {cache next : RegistryCache} {response : Response} {io : AcceptIo}
    {outcome : Outcome Bool} (ran : cache.refreshIfStale lib dir now.toInt response io = (outcome, next, after)) :
    KeepsTime lib limit.toInt after (becameCurrent outcome next) := by
  rcases refreshIfStale_cases lib ran with ⟨silent, -, rfl⟩ | ⟨body, accepted, ranBody, rfl⟩
  · rw [becameCurrent_of_ne silent]
    exact keepsTime_idle records timely
  · exact acceptBody_keepsTime roundTrips records timely notAfter ranBody

theorem step_keepsTime (roundTrips : lib.RoundTrips) {world : World} {mark : Option Entry} {limit : Int64}
    (records : Records lib world.dir mark) (timely : ∀ entry ∈ mark, Timely limit.toInt entry.version) {op : Op}
    (notAfter : op.NotAfter limit) :
    KeepsTime lib limit.toInt (step lib world op).1.dir (step lib world op).2 := by
  have idle := keepsTime_idle records timely
  rw [step.eq_def]
  split
  · split
    · exact idle
    · exact idle
  · exact idle
  · exact idle
  · rcases notAfter _ rfl with ⟨now, rfl, before⟩
    exact acceptBody_keepsTime roundTrips records timely before rfl
  · rcases notAfter _ rfl with ⟨now, rfl, before⟩
    exact prime_keepsTime roundTrips records timely before rfl
  · rcases notAfter _ rfl with ⟨now, rfl, before⟩
    exact refreshIfStale_keepsTime roundTrips records timely before rfl

theorem run_keepsTime (roundTrips : lib.RoundTrips) {world : World} {mark : Option Entry} {limit : Int64}
    (records : Records lib world.dir mark) (timely : ∀ entry ∈ mark, Timely limit.toInt entry.version) {ops : List Op}
    (notAfter : ∀ op ∈ ops, op.NotAfter limit) :
    KeepsTime lib limit.toInt (run lib world ops).1.dir (run lib world ops).2 := by
  induction ops generalizing world mark with
  | nil => exact keepsTime_idle records timely
  | cons op rest ih =>
      rcases step_keepsTime roundTrips records timely (notAfter op (List.mem_cons_self ..)) with
        ⟨mark', recorded, timely', accepted⟩
      rcases ih recorded timely' (fun other member => notAfter other (List.mem_cons_of_mem _ member)) with
        ⟨final, finalRecorded, finalTimely, later⟩
      refine ⟨final, finalRecorded, finalTimely, ?_⟩
      rw [run_cons]
      intro verified member
      rcases List.mem_append.mp member with member | member
      · exact accepted verified member
      · exact later verified member

variable (lib)

/-- A document dated ahead of the clock locks nobody out. -/
theorem future_dated_harmless (roundTrips : lib.RoundTrips) (path : String) (tmp : Option Bytes) (ops : List Op)
    (limit : Int64) (notAfter : ∀ op ∈ ops, op.NotAfter limit) :
    (∀ verified ∈ (run lib (freshWorld path tmp) ops).2,
      verified.document.version * 3600 ≤ limit.toInt + skewAllowanceSecs) ∧
    forall (later : Int64) (doc : Document) (bytes : Bytes) (fault : Option String) (previous : Option RegistryState),
      limit.toInt + skewAllowanceSecs ≤ later.toInt ->
      doc.version = later.toInt / 3600 ->
      load lib (run lib (freshWorld path tmp) ops).1.dir fault = .ok previous ->
      forall text, checkRollback lib doc bytes previous ≠ .error (.registry text) := by
  have fresh : Records lib (freshWorld path tmp).dir none := rfl
  rcases run_keepsTime roundTrips fresh (by simp) notAfter with ⟨mark, records, timely, accepted⟩
  refine ⟨accepted, ?_⟩
  intro later doc bytes fault previous passed version loaded text
  have agrees := matches_of_load lib records loaded
  cases previous with
  | none => simp [checkRollback]
  | some prev =>
      cases mark with
      | none => exact agrees.elim
      | some held =>
          have inTime : held.version * 3600 ≤ limit.toInt + skewAllowanceSecs := timely held rfl
          have sameVersion : prev.highestVersion = held.version := StandsFor.version agrees
          have above : ¬ doc.version < prev.highestVersion := by
            rw [sameVersion, version]
            omega
          rw [checkRollback.eq_def]
          simp only [if_neg above]
          split_ifs
          · split
            · simp
            · split_ifs <;> simp
          · simp

namespace Sample

/-- A new process is handed the document one minute before its hour begins. -/
def acceptAhead : List Op :=
  [.new "https://authority.example/api/v1/registry" [pinnedKey] 1, .acceptBody body 1791467940 ⟨none, none, none⟩]

theorem verify_body_ahead : verify external body [pinnedKey] 1 1791467940 none =
    .ok ⟨document, documentBytes, ["fe812c12f3ab4ce6"]⟩ := by decide +kernel

theorem acceptAhead_notAfter : ∀ op ∈ acceptAhead, op.NotAfter 1791467940 := by
  intro op member nowUnix clock
  simp only [acceptAhead, List.mem_cons, List.not_mem_nil, or_false] at member
  rcases member with rfl | rfl
  · cases clock
  · cases clock
    exact ⟨1791467940, by decide, by decide⟩

end Sample

/-- The document is accepted ahead of its hour, and neither it nor the next one is taken for
a rollback once its hour has come. -/
theorem future_dated_harmless_one_minute_ahead :
    (run Sample.external (freshWorld "/var/lib/quiethop" none) Sample.acceptAhead).2 =
      [⟨Sample.document, Sample.documentBytes, ["fe812c12f3ab4ce6"]⟩] ∧
    forall previous,
      load Sample.external (run Sample.external (freshWorld "/var/lib/quiethop" none) Sample.acceptAhead).1.dir none =
        .ok previous ->
      forall text,
        checkRollback Sample.external Sample.document Sample.documentBytes previous ≠ .error (.registry text) ∧
        checkRollback Sample.external Sample.nextDocument Sample.nextDocumentBytes previous ≠
          .error (.registry text) := by
  have harmless := (future_dated_harmless Sample.external roundTrips_sample "/var/lib/quiethop" none
    Sample.acceptAhead 1791467940 Sample.acceptAhead_notAfter).2
  refine ⟨run_first_accept Sample.external rfl Sample.verify_body_ahead Sample.encodes_body, ?_⟩
  intro previous loaded text
  constructor
  · exact harmless 1791468000 _ _ none previous (by decide) (by decide) loaded text
  · exact harmless 1791471600 _ _ none previous (by decide) (by decide) loaded text

end Registry
end QuietHop
