import QuietHop.Authority.Rollback
import QuietHop.Registry.Timestamp
import QuietHop.Registry.Verify

namespace QuietHop
namespace Authority

open Lib Lib.Threads Net
open Registry (checkValidity parseRfc3339)

/-!
# The publisher and the verifier agree on time

The publisher prints the hour of a document and the ends of its two windows; the verifier reads
them back with a parser and a calendar of its own.  They agree on every hour whose stamps have
a year of four digits.  So the verifier accepts a document in exactly its six hours and the
minute of allowance before them.

What `Current` returns is accepted at once, but for one case.  The copy in memory is returned as
long as it has not expired; nobody asks whether it is valid already.  A call that was slow to
find the database failing may return a copy from an hour that began after its own time.
-/

/-- The document as the verifier decodes it, with whatever it makes of the relays. -/
def parsedAs (doc : Document) (relays : List Registry.RelayEntry) : Registry.Document where
  version := doc.version
  validAfter := doc.validAfter
  freshUntil := doc.freshUntil
  validUntil := doc.validUntil
  relays := relays

/-- The first second of the year 10000. -/
def yearTenThousand : Int := 253402300800

theorem parseRfc3339_stamp {instant seconds : Int} (whole : instant = seconds * nanosPerSecond)
    (positive : 0 ≤ seconds) (bound : seconds < yearTenThousand) : parseRfc3339 (stamp instant) = .ok seconds := by
  have same : unix instant = seconds := by
    rw [whole, unix]
    exact Int.mul_ediv_cancel _ (by decide)
  rw [stamp, same]
  exact Registry.parseRfc3339_printed positive bound

section Window

variable {count : Int} (positive : 1 ≤ count) (bound : count * 3600 + 21600 < yearTenThousand)
  (entries : List RelayEntry) (relays : List Registry.RelayEntry)
include positive bound

theorem validAfterUnix_parsedAs :
    (parsedAs (documentFor (count * nanosPerHour) entries) relays).validAfterUnix = .ok (count * 3600) :=
  parseRfc3339_stamp (by rw [nanosPerHour, Int.mul_assoc]) (by omega) (by omega)

theorem freshUntilUnix_parsedAs :
    (parsedAs (documentFor (count * nanosPerHour) entries) relays).freshUntilUnix = .ok (count * 3600 + 3600) := by
  apply parseRfc3339_stamp
  · rw [freshWindow, nanosPerHour, nanosPerSecond]
    omega
  · omega
  · omega

theorem validUntilUnix_parsedAs :
    (parsedAs (documentFor (count * nanosPerHour) entries) relays).validUntilUnix = .ok (count * 3600 + 21600) := by
  apply parseRfc3339_stamp
  · rw [validWindow, nanosPerHour, nanosPerSecond]
    omega
  · omega
  · omega

/-- The verifier accepts the document in its six hours and the allowance before them. -/
theorem checkValidity_parsedAs (now : Int64) :
    checkValidity (parsedAs (documentFor (count * nanosPerHour) entries) relays) now.toInt = .ok () ↔
      count * 3600 - 60 ≤ now.toInt ∧ now.toInt < count * 3600 + 21600 := by
  have starts := validAfterUnix_parsedAs positive bound entries relays
  have ends := validUntilUnix_parsedAs positive bound entries relays
  have version : (parsedAs (documentFor (count * nanosPerHour) entries) relays).version = count :=
    versionFor_hour count
  have allowance : Registry.skewAllowanceSecs = 60 := rfl
  rw [Registry.checkValidity_ok_iff, version]
  constructor
  · rintro ⟨untilUnix, -, endsAt, -, early, unexpired⟩
    rw [ends] at endsAt
    cases endsAt
    rw [Registry.Document.wrappingAdd_allowance ends unexpired] at early
    omega
  · rintro ⟨early, unexpired⟩
    refine ⟨count * 3600 + 21600, starts, ends, by omega, ?_, unexpired⟩
    rw [Registry.Document.wrappingAdd_allowance ends unexpired]
    omega

theorem isUsableAt_parsedAs (now : Int64) :
    (parsedAs (documentFor (count * nanosPerHour) entries) relays).isUsableAt now.toInt = .ok true ↔
      count * 3600 - 60 ≤ now.toInt ∧ now.toInt < count * 3600 + 21600 := by
  have allowance : Registry.skewAllowanceSecs = 60 := rfl
  rw [Registry.Document.isUsableAt_eq now (validAfterUnix_parsedAs positive bound entries relays)
    (validUntilUnix_parsedAs positive bound entries relays), Except.ok.injEq, decide_eq_true_eq]
  constructor
  · rintro ⟨early, unexpired⟩
    omega
  · rintro ⟨early, unexpired⟩
    omega

end Window

/-! ## What `Current` returns -/

def Phase.isDone : Phase -> Bool
  | .done _ => true
  | _ => false

/-- Before a call goes on, no call of its publisher that was given a later time has returned.
That is so, for one, when calls are made one after the other. -/
def ClockInOrder (pool : Pool Store Call) : Move Call Reply -> Prop
  | .spawn _ => True
  | .advance index _ => ∀ call ∈ pool.threads[index]?, ∀ past ∈ pool.threads,
      past.publisher = call.publisher -> past.phase.isDone -> past.now ≤ call.now

instance (pool : Pool Store Call) (next : Move Call Reply) : Decidable (ClockInOrder pool next) :=
  match next with
  | .spawn _ => isTrue trivial
  | .advance index _ => inferInstanceAs (Decidable (∀ call ∈ pool.threads[index]?, ∀ past ∈ pool.threads,
      past.publisher = call.publisher -> past.phase.isDone -> past.now ≤ call.now))

variable (env : Env)

/-- The copy in memory is of the hour of a call that has returned, and what a call returned
was valid at its time. -/
structure OnTime (pool : Pool Store Call) : Prop where
  sound : Sound (Consistent env) (Owns env) pool
  memory : forall publisher, ∀ memory ∈ pool.shared.memory publisher, ∃ past ∈ pool.threads,
    past.publisher = publisher ∧ past.phase.isDone ∧ memory.lastTil = past.hour + validWindow
  served : ∀ call ∈ pool.threads, forall doc sigs, call.phase = .done (.ok (doc, sigs)) ->
    ∃ hour, Stored env pool.shared.table hour doc sigs ∧ hour ≤ call.now ∧ call.now < hour + validWindow

variable {env}

theorem step_of_isDone {call : Call} (isDone : call.phase.isDone) (store : Store) (reply : Reply) :
    (step env store call reply).2 = call := by
  rcases call with ⟨publisher, now, phase⟩
  cases phase with
  | done result => rfl
  | _ => cases isDone

/-- A call that has returned is still there after a move. -/
theorem mem_move_of_isDone {pool : Pool Store Call} {call : Call} (member : call ∈ pool.threads)
    (isDone : call.phase.isDone) (next : Move Call Reply) : call ∈ (move (step env) pool next).threads := by
  rcases List.getElem?_of_mem member with ⟨place, found⟩
  have kept := getElem?_run_of_final (@step_of_isDone env call isDone) found [next]
  exact List.mem_of_getElem? kept

theorem OnTime.spawn {pool : Pool Store Call} {call : Call} (onTime : OnTime env pool)
    (isStart : call.phase = .loading)
    (sound : Sound (Consistent env) (Owns env) (move (step env) pool (.spawn call))) :
    OnTime env (move (step env) pool (.spawn call)) := by
  refine ⟨sound, ?_, ?_⟩
  · intro publisher memory held
    rcases onTime.memory publisher memory held with ⟨past, inside, rest⟩
    exact ⟨past, List.mem_append_left _ inside, rest⟩
  · intro other member doc sigs isDone
    rcases mem_spawn member with old | rfl
    · exact onTime.served other old doc sigs isDone
    · rw [isStart] at isDone
      cases isDone

theorem OnTime.advance {readDocument : Bytes -> Option Document} (reads : env.ReadsBack readDocument)
    {pool : Pool Store Call} {index : Nat} {reply : Reply} {call : Call} (onTime : OnTime env pool)
    (found : pool.threads[index]? = some call) (inOrder : ClockInOrder pool (.advance index reply))
    (sound : Sound (Consistent env) (Owns env) (move (step env) pool (.advance index reply))) :
    OnTime env (move (step env) pool (.advance index reply)) := by
  have inside : call ∈ pool.threads := List.mem_of_getElem? found
  have owned := onTime.sound.2 call inside
  have place := (List.getElem?_eq_some_iff.mp found).1
  have kept : ∀ past ∈ pool.threads, past.phase.isDone ->
      past ∈ (move (step env) pool (.advance index reply)).threads :=
    fun past member isDone => mem_move_of_isDone member isDone _
  rcases @step_acts env pool.shared call reply with ⟨after, phase, equal, acts⟩
  have grows := acts.grows reads onTime.sound.1 owned
  have moved : move (step env) pool (.advance index reply) =
      ⟨after, pool.threads.set index { call with phase := phase }⟩ := by
    rw [move_advance found, equal]
  rw [moved] at sound kept ⊢
  have remains : forall publisher, ∀ memory ∈ pool.shared.memory publisher,
      ∃ past ∈ pool.threads.set index { call with phase := phase }, past.publisher = publisher ∧
        past.phase.isDone ∧ memory.lastTil = past.hour + validWindow := by
    intro publisher memory held
    rcases onTime.memory publisher memory held with ⟨past, member, isOne, isDone, til⟩
    exact ⟨past, kept past member isDone, isOne, isDone, til⟩
  refine ⟨sound, ?_, ?_⟩
  · cases acts with
    | remembers doc sigs isRemembering =>
        intro publisher memory held
        by_cases same : publisher = call.publisher
        · subst same
          rw [Store.remember_memory_self] at held
          cases held
          exact ⟨_, List.mem_set place _, rfl, rfl, rfl⟩
        · rw [Store.remember_memory_of_ne _ same] at held
          exact remains publisher memory held
    | _ => exact remains
  · intro other member doc sigs isDone
    rcases List.mem_or_eq_of_mem_set member with old | rfl
    · rcases onTime.served other old doc sigs isDone with ⟨hour, stored, valid⟩
      exact ⟨hour, stored.mono grows, valid⟩
    · change phase = _ at isDone
      subst isDone
      cases acts with
      | remembers doc sigs isRemembering =>
          rw [Owns, isRemembering] at owned
          have inHour := lt_hourOf_add call.now
          rw [nanosPerHour_eq] at inHour
          refine ⟨call.hour, owned, hourOf_le call.now, ?_⟩
          change call.now < hourOf call.now + validWindow
          rw [validWindow_eq]
          omega
      | recalls doc sigs e isFallingBack recalled =>
          rcases cached_some recalled with ⟨memory, held, rfl, rfl, valid⟩
          rcases onTime.sound.1.memory call.publisher memory held with ⟨hour, stored, til⟩
          rcases onTime.memory call.publisher memory held with ⟨past, pastInside, isOne, pastDone, pastTil⟩
          have earlier := inOrder call found past pastInside isOne pastDone
          have begun := hourOf_le past.now
          have sameHour : hour = hourOf past.now := by
            rw [Call.hour] at pastTil
            omega
          refine ⟨hour, stored, ?_, til ▸ valid⟩
          change hour ≤ call.now
          omega
      | stays result wasDone =>
          rcases onTime.served call inside doc sigs wasDone with ⟨hour, stored, valid⟩
          exact ⟨hour, stored, valid⟩

theorem publishers_onTime {readDocument : Bytes -> Option Document} (reads : env.ReadsBack readDocument)
    {moves : List (Move Call Reply)} (begins : ∀ next ∈ moves, Begins next)
    (inOrder : Obeys (step env) ClockInOrder ⟨emptyStore, []⟩ moves) : OnTime env (publishers env moves) := by
  have initially : OnTime env ⟨emptyStore, []⟩ :=
    ⟨⟨emptyStore_consistent, by simp⟩, by simp [emptyStore], by simp⟩
  have conditions := obeys_and (obeys_of_forall (fun _ => begins) _) inOrder
  apply run_invariant ?_ initially conditions
  rintro pool next onTime ⟨isStart, clock⟩
  have sound := move_sound (step_guarantee reads) onTime.sound (starts_of_begins isStart)
  apply move_keeps onTime
  · rintro call rfl
    exact onTime.spawn isStart sound
  · rintro index reply call rfl found
    exact onTime.advance reads found clock sound

/-- A document that is stored was built for its hour, which is after the epoch. -/
theorem Stored.built {readDocument : Bytes -> Option Document} (reads : env.ReadsBack readDocument)
    {table : List Row} (well : WellStored env table) {hour : Int} {doc : Bytes} {sigs : List Signature}
    {document : Document} (stored : Stored env table hour doc sigs) (read : readDocument doc = some document) :
    ∃ count entries, hour = count * nanosPerHour ∧ 1 ≤ count ∧ document = documentFor (count * nanosPerHour) entries := by
  have atHour := stored.version reads well read
  rcases stored with ⟨row, inside, rfl, rfl, -⟩
  rcases well.published row inside with ⟨-, positive, entries, encoded⟩
  rw [reads.document _ _ encoded] at read
  cases read
  have shape := nanosPerHour_eq
  refine ⟨_, entries, atHour, ?_, ?_⟩
  · rw [shape] at atHour
    omega
  · rw [← atHour]

variable (env)

/-- The publisher and the verifier agree: on the window of every hour's document, on the order
of versions, and, where no call is overtaken by one of a later time, on every document that
`Current` returns. -/
theorem clocks_agree {readDocument : Bytes -> Option Document} (reads : env.ReadsBack readDocument) :
    (forall (count : Int) (entries : List RelayEntry) (relays : List Registry.RelayEntry), 1 ≤ count ->
      count * 3600 + 21600 < yearTenThousand ->
      (forall now : Int64,
        (checkValidity (parsedAs (documentFor (count * nanosPerHour) entries) relays) now.toInt = .ok () ↔
          count * 3600 - 60 ≤ now.toInt ∧ now.toInt < count * 3600 + 21600) ∧
        ((parsedAs (documentFor (count * nanosPerHour) entries) relays).isUsableAt now.toInt = .ok true ↔
          count * 3600 - 60 ≤ now.toInt ∧ now.toInt < count * 3600 + 21600)) ∧
      (parsedAs (documentFor (count * nanosPerHour) entries) relays).freshUntilUnix = .ok (count * 3600 + 3600)) ∧
    (forall count other entries otherEntries,
      (documentFor (count * nanosPerHour) entries).version < (documentFor (other * nanosPerHour) otherEntries).version ↔
        count * nanosPerHour < other * nanosPerHour) ∧
    (forall moves, (∀ next ∈ moves, Begins next) -> Obeys (step env) ClockInOrder ⟨emptyStore, []⟩ moves ->
      ∀ call ∈ (publishers env moves).threads, forall doc sigs document relays,
        call.phase = .done (.ok (doc, sigs)) -> readDocument doc = some document ->
        document.version * 3600 + 21600 < yearTenThousand ->
        checkValidity (parsedAs document relays) (unix call.now) = .ok ()) := by
  refine ⟨?_, ?_, ?_⟩
  · intro count entries relays positive bound
    refine ⟨?_, freshUntilUnix_parsedAs positive bound entries relays⟩
    intro now
    exact ⟨checkValidity_parsedAs positive bound entries relays now,
      isUsableAt_parsedAs positive bound entries relays now⟩
  · intro count other entries otherEntries
    change versionFor _ < versionFor _ ↔ _
    rw [versionFor_hour, versionFor_hour, nanosPerHour_eq]
    omega
  · intro moves begins inOrder call member doc sigs document relays isDone read bound
    have onTime := publishers_onTime reads begins inOrder
    rcases onTime.served call member doc sigs isDone with ⟨hour, stored, begun, valid⟩
    rcases stored.built reads onTime.sound.1.table read with ⟨count, entries, rfl, positive, rfl⟩
    change versionFor _ * 3600 + 21600 < yearTenThousand at bound
    rw [versionFor_hour] at bound
    rw [nanosPerHour_eq] at begun valid
    rw [validWindow_eq] at valid
    have floor := unix_eq call.now
    have early : yearTenThousand = 253402300800 := rfl
    -- The clock is far inside the range of an `i64`.
    have represented : (Int64.ofInt (unix call.now)).toInt = unix call.now := by
      apply Int64.toInt_ofInt_of_le
      · omega
      · omega
    rw [← represented]
    apply (checkValidity_parsedAs positive bound entries relays _).mpr
    rw [represented]
    omega

namespace Sample

/-- The document of the first hour is served again from memory in the second. -/
def outage : List (Move Call Reply) := wholeCall 0 firstHour ++ failingCall 1 secondHour

theorem outage_threads : (publishers codec outage).threads =
    [⟨0, firstHour, .done (.ok (firstBytes, [signature 0]))⟩,
      ⟨0, secondHour, .done (.ok (firstBytes, [signature 0]))⟩] := by
  decide +kernel

/-- A call at 01:58 waits for the database, while one at 02:00 runs to its return.  Then the
database fails. -/
def early : List (Move Call Reply) :=
  .spawn ⟨0, secondHour - 120 * nanosPerSecond, .loading⟩ :: wholeCall 1 secondHour ++
    [.advance 0 (.fails false "connection refused"), .advance 0 (.fails false "connection refused")]

theorem early_threads : (publishers codec early).threads =
    [⟨0, secondHour - 120 * nanosPerSecond, .done (.ok (secondBytes, [signature 0]))⟩,
      ⟨0, secondHour, .done (.ok (secondBytes, [signature 0]))⟩] := by
  decide +kernel

end Sample

/-- The clock does not go back, and yet the call of 01:58 returns the document of 02:00, which is
refused at 01:58. -/
theorem clocks_disagree_early :
    Sample.codec.ReadsBack Sample.readDocument ∧ (∀ next ∈ Sample.early, Begins next) ∧
      (∀ next ∈ Sample.early, OfPublisher 0 next) ∧ (startTimes Sample.early).Pairwise (· ≤ ·) ∧
      ∃ call ∈ (publishers Sample.codec Sample.early).threads, ∃ doc sigs document,
        call.phase = .done (.ok (doc, sigs)) ∧ Sample.readDocument doc = some document ∧
        document.version * 3600 + 21600 < yearTenThousand ∧ unix call.now = 7080 ∧
        forall relays, checkValidity (parsedAs document relays) (unix call.now) ≠ .ok () := by
  refine ⟨Sample.readsBack, ?_, ?_, by decide, ?_⟩
  · simp [Sample.early, Sample.wholeCall, Begins]
  · simp [Sample.early, Sample.wholeCall, OfPublisher]
  rw [Sample.early_threads]
  refine ⟨_, List.mem_cons_self .., _, _, documentFor Sample.secondHour [], rfl, ?_, by decide, by decide, ?_⟩
  · decide +kernel
  · intro relays accepted
    have window := @checkValidity_parsedAs 2 (by decide) (by decide) [] relays 7080
    exact absurd (window.mp accepted).1 (by decide)

/-- The copy served in the outage is accepted at 02:00. -/
theorem clocks_agree_outage :
    Obeys (step Sample.codec) ClockInOrder ⟨emptyStore, []⟩ Sample.outage ∧
      checkValidity (parsedAs (documentFor Sample.firstHour []) []) 7200 = .ok () := by
  have inOrder : Obeys (step Sample.codec) ClockInOrder ⟨emptyStore, []⟩ Sample.outage := by decide +kernel
  have begins : ∀ next ∈ Sample.outage, Begins next := by
    simp [Sample.outage, Sample.wholeCall, Sample.failingCall, Begins]
  have served : (⟨0, Sample.secondHour, .done (.ok (Sample.firstBytes, [Sample.signature 0]))⟩ : Call) ∈
      (publishers Sample.codec Sample.outage).threads := by
    rw [Sample.outage_threads]
    exact List.mem_cons_of_mem _ (List.mem_cons_self ..)
  refine ⟨inOrder, ?_⟩
  exact (clocks_agree Sample.codec Sample.readsBack).2.2 Sample.outage begins inOrder _ served _ _ _ [] rfl
    (by decide +kernel) (by decide +kernel)

end Authority
end QuietHop
