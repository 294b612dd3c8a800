import Mathlib.Data.List.Nodup
import QuietHop.Authority.Publisher

namespace QuietHop
namespace Authority

open Lib Lib.Threads

/-!
# One document for each hour

Rows are never changed, and an hour has at most one.  So a call that serves only what it read
from a row, or what its own `INSERT` stored, serves the same document as every other call for
that hour, whichever publisher, key and clock it runs with and whatever fails on the way.
-/

/-- What is assumed of the encoders: a document can be read back from its JSON text, and
signatures from what the database keeps of theirs. -/
structure Env.ReadsBack (env : Env) (readDocument : Bytes -> Option Document) : Prop where
  document : forall doc bytes, env.marshal doc = .ok bytes -> readDocument bytes = some doc
  signatures : forall sigs raw stored, env.marshalSignatures sigs = .ok raw -> env.jsonb raw = .ok stored ->
    env.unmarshalSignatures stored = .ok sigs

theorem nanosPerHour_eq : nanosPerHour = 3600000000000 := rfl

theorem validWindow_eq : validWindow = 21600000000000 := rfl

theorem unix_eq (instant : Int) : unix instant = instant / 1000000000 := rfl

theorem hourOf_le (instant : Int) : hourOf instant ≤ instant := by
  rw [hourOf, nanosPerHour_eq]
  omega

theorem lt_hourOf_add (instant : Int) : instant < hourOf instant + nanosPerHour := by
  rw [hourOf, nanosPerHour_eq]
  omega

theorem hourOf_mono {earlier later : Int} (passes : earlier ≤ later) : hourOf earlier ≤ hourOf later := by
  rw [hourOf, hourOf, nanosPerHour_eq]
  omega

/-- On an hour the seconds are whole, so the version is exact. -/
theorem versionFor_hour (count : Int) : versionFor (count * nanosPerHour) = count := by
  have seconds : unix (count * nanosPerHour) = count * 3600 := by
    rw [unix_eq, nanosPerHour_eq]
    omega
  rw [versionFor, seconds]
  exact Int.mul_tdiv_cancel _ (by decide)

variable (env : Env)

/-! ## What the table holds -/

/-- The row holds a document that was built for its hour. -/
structure Published (row : Row) : Prop where
  onHour : row.validAfter = hourOf row.validAfter
  positive : 0 < row.validAfter
  built : ∃ relays, env.marshal (documentFor row.validAfter relays) = .ok row.document

/-- The document and the signatures in the row of an hour. -/
def Stored (table : List Row) (hour : Int) (doc : Bytes) (sigs : List Signature) : Prop :=
  ∃ row ∈ table, row.validAfter = hour ∧ row.document = doc ∧ env.unmarshalSignatures row.signatures = .ok sigs

/-- One row for an hour, each holding what was built for it. -/
structure WellStored (table : List Row) : Prop where
  unique : (table.map Row.validAfter).Nodup
  published : ∀ row ∈ table, Published env row

variable {env}

theorem Stored.mono {table later : List Row} (grows : table ⊆ later) {hour : Int} {doc : Bytes}
    {sigs : List Signature} (stored : Stored env table hour doc sigs) : Stored env later hour doc sigs := by
  rcases stored with ⟨row, member, rest⟩
  exact ⟨row, grows member, rest⟩

theorem WellStored.row_eq {table : List Row} (well : WellStored env table) {first second : Row}
    (left : first ∈ table) (right : second ∈ table) (same : first.validAfter = second.validAfter) :
    first = second :=
  List.inj_on_of_nodup_map well.unique left right same

theorem load_stored {table : List Row} {hour : Int} {doc : Bytes} {sigs : List Signature}
    (loaded : load env table hour = .ok (doc, sigs)) : Stored env table hour doc sigs := by
  rw [load] at loaded
  cases found : table.find? (·.validAfter = hour) with
  | none => simp [found] at loaded
  | some row =>
      cases read : env.unmarshalSignatures row.signatures with
      | error e => simp [found, read] at loaded
      | ok kept =>
          simp only [found, read] at loaded
          cases loaded
          have isHour : row.validAfter = hour := by simpa using List.find?_some found
          exact ⟨row, List.mem_of_find?_eq_some found, isHour, rfl, read⟩

/-- An `INSERT` adds its row only where the hour has none, and otherwise changes nothing. -/
theorem insertRow_ok {table after : List Row} {row : Row} {affected : Nat}
    (inserted : insertRow table row = .ok (affected, after)) :
    (affected = 0 ∧ after = table) ∨
      (affected = 1 ∧ after = table ++ [row] ∧ checkRow row = .ok () ∧
        ∀ other ∈ table, other.validAfter ≠ row.validAfter) := by
  rw [insertRow] at inserted
  cases checked : checkRow row with
  | error e => simp [checked] at inserted
  | ok passed =>
      simp only [checked] at inserted
      split_ifs at inserted with conflict duplicate
      · cases inserted
        exact Or.inl ⟨rfl, rfl⟩
      · cases inserted
        refine Or.inr ⟨rfl, rfl, rfl, ?_⟩
        simpa using conflict

/-- The constraints keep hours up to the epoch out. -/
theorem positive_of_checkRow {row : Row} (checked : checkRow row = .ok ()) : 0 < row.validAfter := by
  rw [checkRow] at checked
  split_ifs at checked with empty offHour mismatch positive
  have isHour : row.version = unix row.validAfter / 3600 := not_not.mp mismatch
  have seconds := unix_eq row.validAfter
  omega

/-! ## The invariant -/

variable (env)

/-- What a call may rely on before its next statement. -/
def Owns (store : Store) (call : Call) : Prop :=
  match call.phase with
  | .inserting built =>
      (∃ relays, env.marshal (documentFor call.hour relays) = .ok built.bytes) ∧
        env.marshalSignatures built.sigs = .ok built.sigsJson
  | .remembering doc sigs => Stored env store.table call.hour doc sigs
  | .done (.ok (doc, sigs)) => ∃ hour, Stored env store.table hour doc sigs ∧ call.now < hour + validWindow
  | _ => True

/-- The table is in order and every copy in memory is of a row. -/
structure Consistent (store : Store) : Prop where
  table : WellStored env store.table
  memory : forall publisher, ∀ memory ∈ store.memory publisher,
    ∃ hour, Stored env store.table hour memory.lastDoc memory.lastSigs ∧ memory.lastTil = hour + validWindow

variable {env}

/-- A row that an `INSERT` may have added. -/
theorem insert_ok {readDocument : Bytes -> Option Document} (reads : env.ReadsBack readDocument)
    {table after : List Row} {call : Call} {built : Built} {affected : Nat}
    (owned : (∃ relays, env.marshal (documentFor call.hour relays) = .ok built.bytes) ∧
      env.marshalSignatures built.sigs = .ok built.sigsJson) (well : WellStored env table)
    (inserted : insert env table call.hour built = .ok (affected, after)) :
    WellStored env after ∧ table ⊆ after ∧ (affected = 1 -> Stored env after call.hour built.bytes built.sigs) := by
  rw [insert] at inserted
  cases kept : env.jsonb built.sigsJson with
  | error e => simp [kept] at inserted
  | ok signatures =>
      simp only [kept] at inserted
      rcases insertRow_ok inserted with ⟨none, rfl⟩ | ⟨-, rfl, checked, fresh⟩
      · exact ⟨well, fun _ member => member, by omega⟩
      · have onHour : call.hour = hourOf call.hour := by
          rw [Call.hour, hourOf, hourOf, Int.mul_ediv_cancel _ (by decide)]
        refine ⟨⟨?_, ?_⟩, List.subset_append_left _ _, ?_⟩
        · rw [List.map_append, List.map_singleton]
          apply List.nodup_append'.mpr
          refine ⟨well.unique, List.nodup_singleton _, ?_⟩
          intro taken member new
          rcases List.mem_map.mp member with ⟨row, old, rfl⟩
          exact fresh row old (List.mem_singleton.mp new)
        · intro row member
          rcases List.mem_append.mp member with old | new
          · exact well.published row old
          · rw [List.mem_singleton.mp new]
            exact ⟨onHour, positive_of_checkRow checked, owned.1⟩
        · intro _
          exact ⟨_, List.mem_append_right _ (List.mem_singleton_self _), rfl, rfl,
            reads.signatures _ _ _ owned.2 kept⟩

theorem build_ok {publisher : Nat} {hour : Int} {relays : List RelayEntry} {built : Built}
    (returned : build env publisher hour relays = .ok built) :
    env.marshal (documentFor hour relays) = .ok built.bytes ∧
      env.marshalSignatures built.sigs = .ok built.sigsJson := by
  rw [build] at returned
  cases encoded : env.marshal (documentFor hour relays) with
  | error e => simp [encoded] at returned
  | ok bytes =>
      cases listed : env.marshalSignatures [env.sign publisher bytes] with
      | error e => simp [encoded, listed] at returned
      | ok sigsJson =>
          simp only [encoded, listed] at returned
          cases returned
          exact ⟨rfl, listed⟩

theorem cached_some {store : Store} {publisher : Nat} {now : Int} {doc : Bytes} {sigs : List Signature}
    (kept : store.cached publisher now = some (doc, sigs)) :
    ∃ memory ∈ store.memory publisher, memory.lastDoc = doc ∧ memory.lastSigs = sigs ∧ now < memory.lastTil := by
  rw [Store.cached] at kept
  cases held : store.memory publisher with
  | none => simp [held] at kept
  | some memory =>
      simp only [held] at kept
      split_ifs at kept with valid
      cases kept
      exact ⟨memory, rfl, rfl, rfl, valid⟩

/-- An owned assertion only gains from more rows. -/
theorem Owns.mono {store later : Store} (grows : store.table ⊆ later.table) {call : Call}
    (owned : Owns env store call) : Owns env later call := by
  rw [Owns] at owned ⊢
  split at owned
  · exact owned
  · exact owned.mono grows
  · rcases owned with ⟨hour, stored, valid⟩
    exact ⟨hour, stored.mono grows, valid⟩
  · trivial

variable (env)

/-- Everything one statement can do to the store and to the call. -/
inductive Acts (store : Store) (call : Call) : Store -> Phase -> Prop
  | queries : Acts store call store .querying
  | builds (relays : List RelayEntry) (built : Built)
      (returned : build env call.publisher call.hour relays = .ok built) : Acts store call store (.inserting built)
  | loads (doc : Bytes) (sigs : List Signature) (loaded : load env store.table call.hour = .ok (doc, sigs)) :
      Acts store call store (.remembering doc sigs)
  | stores (built : Built) (table : List Row) (phase : call.phase = .inserting built)
      (inserted : insert env store.table call.hour built = .ok (1, table)) :
      Acts store call { store with table := table } (.remembering built.bytes built.sigs)
  | loses (built : Built) (affected : Nat) (table : List Row) (phase : call.phase = .inserting built)
      (inserted : insert env store.table call.hour built = .ok (affected, table)) :
      Acts store call { store with table := table } .reloading
  | reportsFailure (built : Built) (affected : Nat) (table : List Row) (e : CurrentError)
      (phase : call.phase = .inserting built)
      (inserted : insert env store.table call.hour built = .ok (affected, table)) :
      Acts store call { store with table := table } (.fallingBack e)
  | fails (e : CurrentError) : Acts store call store (.fallingBack e)
  | remembers (doc : Bytes) (sigs : List Signature) (phase : call.phase = .remembering doc sigs) :
      Acts store call (store.remember call.publisher ⟨doc, sigs, call.hour + validWindow⟩) (.done (.ok (doc, sigs)))
  | recalls (doc : Bytes) (sigs : List Signature) (e : CurrentError) (phase : call.phase = .fallingBack e)
      (kept : store.cached call.publisher call.now = some (doc, sigs)) :
      Acts store call store (.done (.ok (doc, sigs)))
  | gives (e : CurrentError) : Acts store call store (.done (.error e))
  | stays (result : Except CurrentError (Bytes × List Signature)) (phase : call.phase = .done result) :
      Acts store call store (.done result)

variable {env}

theorem step_acts (store : Store) (call : Call) (reply : Reply) :
    ∃ after phase, step env store call reply = (after, { call with phase := phase }) ∧
      Acts env store call after phase := by
  rcases call with ⟨publisher, now, phase⟩
  cases phase with
  | loading =>
      cases reply with
      | fails applied text => exact ⟨_, _, rfl, .fails _⟩
      | completes relays =>
          simp only [step]
          split
          · next doc sigs loaded => exact ⟨_, _, rfl, .loads doc sigs loaded⟩
          · exact ⟨_, _, rfl, .queries⟩
          · exact ⟨_, _, rfl, .fails _⟩
  | querying =>
      cases reply with
      | fails applied text => exact ⟨_, _, rfl, .fails _⟩
      | completes relays =>
          simp only [step]
          split
          · exact ⟨_, _, rfl, .fails _⟩
          · next built returned => exact ⟨_, _, rfl, .builds relays built returned⟩
  | inserting built =>
      cases reply with
      | fails applied text =>
          cases applied with
          | false => exact ⟨_, _, rfl, .fails _⟩
          | true =>
              simp only [step, insertedAnyway]
              split
              · exact ⟨_, _, rfl, .fails _⟩
              · next affected table inserted =>
                  exact ⟨_, _, rfl, .reportsFailure built affected table _ rfl inserted⟩
      | completes relays =>
          simp only [step]
          split
          · exact ⟨_, _, rfl, .fails _⟩
          · next affected table inserted =>
              split_ifs with one
              · rw [one] at inserted
                exact ⟨_, _, rfl, .stores built table rfl inserted⟩
              · exact ⟨_, _, rfl, .loses built affected table rfl inserted⟩
  | reloading =>
      cases reply with
      | fails applied text => exact ⟨_, _, rfl, .fails _⟩
      | completes relays =>
          simp only [step]
          split
          · next doc sigs loaded => exact ⟨_, _, rfl, .loads doc sigs loaded⟩
          · exact ⟨_, _, rfl, .fails _⟩
  | remembering doc sigs =>
      cases reply with
      | fails applied text => exact ⟨_, _, rfl, .remembers doc sigs rfl⟩
      | completes relays => exact ⟨_, _, rfl, .remembers doc sigs rfl⟩
  | fallingBack e =>
      simp only [step]
      split
      · next doc sigs kept => exact ⟨_, _, rfl, .recalls doc sigs e rfl kept⟩
      · exact ⟨_, _, rfl, .gives e⟩
  | done result => exact ⟨_, _, rfl, .stays result rfl⟩

/-! ## Every statement keeps the invariant -/

section Guarantee

variable {readDocument : Bytes -> Option Document} (reads : env.ReadsBack readDocument)
  {store after : Store} {call : Call} {phase : Phase}
include reads

/-- A successful `INSERT` leaves the store in order. -/
theorem insert_consistent {built : Built} {affected : Nat} {table : List Row} (consistent : Consistent env store)
    (owned : Owns env store call) (isInserting : call.phase = .inserting built)
    (inserted : insert env store.table call.hour built = .ok (affected, table)) :
    Consistent env { store with table := table } ∧ store.table ⊆ table ∧
      (affected = 1 -> Stored env table call.hour built.bytes built.sigs) := by
  rw [Owns, isInserting] at owned
  rcases insert_ok reads owned consistent.table inserted with ⟨well, grows, stored⟩
  refine ⟨⟨well, ?_⟩, grows, stored⟩
  intro publisher memory held
  rcases consistent.memory publisher memory held with ⟨hour, kept, til⟩
  exact ⟨hour, kept.mono grows, til⟩

theorem Acts.grows (consistent : Consistent env store) (owned : Owns env store call)
    (acts : Acts env store call after phase) : store.table ⊆ after.table := by
  cases acts with
  | stores built table isInserting inserted =>
      exact (insert_consistent reads consistent owned isInserting inserted).2.1
  | loses built affected table isInserting inserted =>
      exact (insert_consistent reads consistent owned isInserting inserted).2.1
  | reportsFailure built affected table e isInserting inserted =>
      exact (insert_consistent reads consistent owned isInserting inserted).2.1
  | _ => exact fun _ member => member

theorem Acts.consistent (consistent : Consistent env store) (owned : Owns env store call)
    (acts : Acts env store call after phase) : Consistent env after := by
  cases acts with
  | stores built table isInserting inserted =>
      exact (insert_consistent reads consistent owned isInserting inserted).1
  | loses built affected table isInserting inserted =>
      exact (insert_consistent reads consistent owned isInserting inserted).1
  | reportsFailure built affected table e isInserting inserted =>
      exact (insert_consistent reads consistent owned isInserting inserted).1
  | remembers doc sigs isRemembering =>
      rw [Owns, isRemembering] at owned
      refine ⟨consistent.table, ?_⟩
      intro publisher memory held
      by_cases same : publisher = call.publisher
      · subst same
        rw [Store.remember_memory_self] at held
        cases held
        exact ⟨call.hour, owned, rfl⟩
      · rw [Store.remember_memory_of_ne store same] at held
        exact consistent.memory publisher memory held
  | _ => exact consistent

theorem Acts.owns (consistent : Consistent env store) (owned : Owns env store call)
    (acts : Acts env store call after phase) : Owns env after { call with phase := phase } := by
  cases acts with
  | builds relays built returned => exact ⟨⟨relays, (build_ok returned).1⟩, (build_ok returned).2⟩
  | loads doc sigs loaded => exact load_stored loaded
  | stores built table isInserting inserted =>
      exact (insert_consistent reads consistent owned isInserting inserted).2.2 rfl
  | remembers doc sigs isRemembering =>
      rw [Owns, isRemembering] at owned
      have inHour := lt_hourOf_add call.now
      refine ⟨call.hour, owned, ?_⟩
      change call.now < hourOf call.now + validWindow
      rw [nanosPerHour_eq] at inHour
      rw [validWindow_eq]
      omega
  | recalls doc sigs e isFallingBack kept =>
      rcases cached_some kept with ⟨memory, held, rfl, rfl, valid⟩
      rcases consistent.memory call.publisher memory held with ⟨hour, stored, til⟩
      exact ⟨hour, stored, til ▸ valid⟩
  | stays result isDone =>
      rw [← isDone]
      exact owned
  | _ => trivial

theorem step_guarantee : Guarantee (step env) (Consistent env) (Owns env) where
  keeps := by
    intro store call reply consistent owned
    rcases step_acts store call reply with ⟨after, phase, equal, acts⟩
    rw [equal]
    exact ⟨acts.consistent reads consistent owned, acts.owns reads consistent owned⟩
  stable := by
    intro store call reply other consistent owned otherOwns
    rcases step_acts store call reply with ⟨after, phase, equal, acts⟩
    rw [equal]
    exact otherOwns.mono (acts.grows reads consistent owned)

end Guarantee

theorem emptyStore_consistent : Consistent env emptyStore where
  table := ⟨List.nodup_nil, by simp [emptyStore]⟩
  memory := by simp [emptyStore]

theorem starts_of_begins {pool : Pool Store Call} {next : Move Call Reply} (begins : Begins next) :
    Starts (Owns env) pool next := by
  cases next with
  | advance index reply => trivial
  | spawn call =>
      change call.phase = .loading at begins
      simp only [Starts, Owns, begins]

theorem publishers_sound {readDocument : Bytes -> Option Document} (reads : env.ReadsBack readDocument)
    {moves : List (Move Call Reply)} (begins : ∀ next ∈ moves, Begins next) :
    Sound (Consistent env) (Owns env) (publishers env moves) := by
  apply run_sound (step_guarantee reads)
  · exact ⟨emptyStore_consistent, by simp⟩
  · exact obeys_of_forall (fun _ next member => starts_of_begins (begins next member)) _

/-! ## No equivocation -/

/-- What is stored for an hour carries the number of that hour. -/
theorem WellStored.version {readDocument : Bytes -> Option Document} (reads : env.ReadsBack readDocument)
    {table : List Row} (well : WellStored env table) {row : Row} (member : row ∈ table) :
    ∃ doc, readDocument row.document = some doc ∧ row.validAfter = doc.version * nanosPerHour := by
  rcases well.published row member with ⟨onHour, -, relays, encoded⟩
  refine ⟨_, reads.document _ _ encoded, ?_⟩
  rw [hourOf] at onHour
  change row.validAfter = versionFor row.validAfter * nanosPerHour
  generalize row.validAfter / nanosPerHour = count at onHour
  rw [onHour, versionFor_hour]

theorem Stored.version {readDocument : Bytes -> Option Document} (reads : env.ReadsBack readDocument)
    {table : List Row} (well : WellStored env table) {hour : Int} {doc : Bytes} {sigs : List Signature}
    {document : Document} (stored : Stored env table hour doc sigs) (read : readDocument doc = some document) :
    hour = document.version * nanosPerHour := by
  rcases stored with ⟨row, inside, rfl, rfl, -⟩
  rcases well.version reads inside with ⟨carried, readCarried, atHour⟩
  rw [readCarried] at read
  cases read
  exact atHour

variable (env)

/-- However calls of any number of publishers interleave and whatever statements fail: a
served document is the one in the only row of its hour, with the signatures of that row, its
version is the number of that hour, and two served documents of one version are the same. -/
theorem no_accidental_equivocation {readDocument : Bytes -> Option Document} (reads : env.ReadsBack readDocument)
    (moves : List (Move Call Reply)) (begins : ∀ next ∈ moves, Begins next) :
    (∀ call ∈ (publishers env moves).threads, forall doc sigs, call.phase = .done (.ok (doc, sigs)) ->
      ∃ row ∈ (publishers env moves).shared.table, row.document = doc ∧
        env.unmarshalSignatures row.signatures = .ok sigs ∧
        (∀ other ∈ (publishers env moves).shared.table, other.validAfter = row.validAfter -> other = row) ∧
        ∃ document, readDocument doc = some document ∧ row.validAfter = document.version * nanosPerHour) ∧
    (∀ first ∈ (publishers env moves).threads, ∀ second ∈ (publishers env moves).threads,
      forall doc sigs otherDoc otherSigs document other, first.phase = .done (.ok (doc, sigs)) ->
        second.phase = .done (.ok (otherDoc, otherSigs)) -> readDocument doc = some document ->
        readDocument otherDoc = some other -> document.version = other.version ->
        doc = otherDoc ∧ sigs = otherSigs) := by
  rcases publishers_sound reads begins with ⟨consistent, owned⟩
  have served : ∀ call ∈ (publishers env moves).threads, forall doc sigs, call.phase = .done (.ok (doc, sigs)) ->
      ∃ row ∈ (publishers env moves).shared.table, row.document = doc ∧
        env.unmarshalSignatures row.signatures = .ok sigs := by
    intro call member doc sigs isDone
    have owns := owned call member
    rw [Owns, isDone] at owns
    rcases owns with ⟨hour, ⟨row, inside, -, document, signatures⟩, -⟩
    exact ⟨row, inside, document, signatures⟩
  constructor
  · intro call member doc sigs isDone
    rcases served call member doc sigs isDone with ⟨row, inside, rfl, signatures⟩
    refine ⟨row, inside, rfl, signatures, ?_, consistent.table.version reads inside⟩
    intro other otherInside same
    exact consistent.table.row_eq otherInside inside same
  · intro first firstMember second secondMember doc sigs otherDoc otherSigs document other firstDone secondDone
      readFirst readSecond sameVersion
    rcases served first firstMember doc sigs firstDone with ⟨row, inside, rfl, signatures⟩
    rcases served second secondMember otherDoc otherSigs secondDone with ⟨otherRow, otherInside, rfl, otherSignatures⟩
    rcases consistent.table.version reads inside with ⟨carried, readCarried, hour⟩
    rcases consistent.table.version reads otherInside with ⟨otherCarried, readOther, otherHour⟩
    rw [readCarried] at readFirst
    rw [readOther] at readSecond
    cases readFirst
    cases readSecond
    have sameRow := consistent.table.row_eq inside otherInside (by rw [hour, otherHour, sameVersion])
    subst sameRow
    rw [signatures] at otherSignatures
    cases otherSignatures
    exact ⟨rfl, rfl⟩

namespace Sample

/-- The hours from 01:00 and from 02:00 on 1970-01-01. -/
def firstHour : Int := 1 * nanosPerHour

def secondHour : Int := 2 * nanosPerHour

def firstBytes : Bytes :=
  Net.asBytes "\x7b\"version\":1,\"valid_after\":\"1970-01-01T01:00:00Z\",\"fresh_until\":\"1970-01-01T02:00:00Z\"," ++
    Net.asBytes "\"valid_until\":\"1970-01-01T07:00:00Z\",\"relays\":[]\x7d"

def secondBytes : Bytes :=
  Net.asBytes "\x7b\"version\":2,\"valid_after\":\"1970-01-01T02:00:00Z\",\"fresh_until\":\"1970-01-01T03:00:00Z\"," ++
    Net.asBytes "\"valid_until\":\"1970-01-01T08:00:00Z\",\"relays\":[]\x7d"

/-- Publishers sign with keys of their own. -/
def signature (publisher : Nat) : Signature :=
  ⟨if publisher = 0 then "fe812c12f3ab4ce6" else "0b4e7a0e5fe84ad3", "c2lnbmF0dXJl"⟩

def signatureText (publisher : Nat) : Bytes :=
  Net.asBytes "[\x7b\"key_id\":\"" ++ Net.asBytes (signature publisher).keyId ++
    Net.asBytes "\",\"sig\":\"c2lnbmF0dXJl\"\x7d]"

/-- How `JSONB` prints the list: the shorter key comes first. -/
def storedText (publisher : Nat) : Bytes :=
  Net.asBytes "[\x7b\"sig\": \"c2lnbmF0dXJl\", \"key_id\": \"" ++ Net.asBytes (signature publisher).keyId ++
    Net.asBytes "\"\x7d]"

/-- The encoders on these two documents and two keys; anything else is refused. -/
def codec : Env where
  marshal := fun doc =>
    if doc = documentFor firstHour [] then .ok firstBytes
    else if doc = documentFor secondHour [] then .ok secondBytes
    else .error "unsupported value"
  marshalSignatures := fun sigs =>
    if sigs = [signature 0] then .ok (signatureText 0)
    else if sigs = [signature 1] then .ok (signatureText 1)
    else .error "unsupported value"
  unmarshalSignatures := fun text =>
    if text = storedText 0 then .ok [signature 0]
    else if text = storedText 1 then .ok [signature 1]
    else .error "invalid character"
  jsonb := fun text =>
    if text = signatureText 0 then .ok (storedText 0)
    else if text = signatureText 1 then .ok (storedText 1)
    else .error "invalid input syntax for type json"
  sign := fun publisher _ => signature publisher

def readDocument (bytes : Bytes) : Option Document :=
  if bytes = firstBytes then some (documentFor firstHour [])
  else if bytes = secondBytes then some (documentFor secondHour [])
  else none

theorem readsBack : codec.ReadsBack readDocument where
  document doc bytes encoded := by
    have different : secondBytes ≠ firstBytes := by decide +kernel
    simp only [codec] at encoded
    split_ifs at encoded with first second
    · cases encoded
      rw [first, readDocument, if_pos rfl]
    · cases encoded
      rw [second, readDocument, if_neg different, if_pos rfl]
  signatures sigs raw stored encoded kept := by
    have texts : signatureText 1 ≠ signatureText 0 := by decide +kernel
    have storedTexts : storedText 1 ≠ storedText 0 := by decide +kernel
    simp only [codec] at encoded kept ⊢
    split_ifs at encoded with first second
    · cases encoded
      rw [if_pos rfl] at kept
      cases kept
      rw [if_pos rfl, first]
    · cases encoded
      rw [if_neg texts, if_pos rfl] at kept
      cases kept
      rw [if_neg storedTexts, if_pos rfl, second]

/-- A call runs from its start to its return while the database answers. -/
def wholeCall (place : Nat) (now : Int) : List (Move Call Reply) :=
  [.spawn ⟨0, now, .loading⟩, .advance place (.completes []), .advance place (.completes []),
    .advance place (.completes []), .advance place (.completes [])]

/-- A call that finds the database failing. -/
def failingCall (place : Nat) (now : Int) : List (Move Call Reply) :=
  [.spawn ⟨0, now, .loading⟩, .advance place (.fails false "connection refused"),
    .advance place (.fails false "connection refused")]

/-- Two publishers find no row and race; the first to ask loses and reads the winner's. -/
def race : List (Move Call Reply) :=
  [.spawn ⟨0, firstHour, .loading⟩, .spawn ⟨1, firstHour + 5, .loading⟩,
    .advance 0 (.completes []), .advance 1 (.completes []), .advance 0 (.completes []), .advance 1 (.completes []),
    .advance 1 (.completes []), .advance 0 (.completes []), .advance 0 (.completes []), .advance 0 (.completes []),
    .advance 1 (.completes [])]

theorem race_begins : ∀ next ∈ race, Begins next := by
  simp [race, Begins]

theorem race_threads : (publishers codec race).threads =
    [⟨0, firstHour, .done (.ok (firstBytes, [signature 1]))⟩,
      ⟨1, firstHour + 5, .done (.ok (firstBytes, [signature 1]))⟩] := by
  decide +kernel

end Sample

/-- Both racers serve the row of the winner. -/
theorem no_accidental_equivocation_race :
    ∃ row ∈ (publishers Sample.codec Sample.race).shared.table, row.document = Sample.firstBytes ∧
      Sample.codec.unmarshalSignatures row.signatures = .ok [Sample.signature 1] := by
  have loser : (⟨0, Sample.firstHour, .done (.ok (Sample.firstBytes, [Sample.signature 1]))⟩ : Call) ∈
      (publishers Sample.codec Sample.race).threads := by
    rw [Sample.race_threads]
    exact List.mem_cons_self ..
  rcases (no_accidental_equivocation Sample.codec Sample.readsBack Sample.race Sample.race_begins).1 _ loser _ _ rfl with
    ⟨row, inside, document, signatures, -⟩
  exact ⟨row, inside, document, signatures⟩

end Authority
end QuietHop
