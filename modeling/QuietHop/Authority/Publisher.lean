import QuietHop.Lib.Calendar
import QuietHop.Lib.Threads
import QuietHop.Net.Address

namespace QuietHop
namespace Authority

open Lib Lib.Calendar Lib.Threads Net

/-!
# The registry publisher

`Current` serves the document of the current hour.  It loads the row of that hour, or builds,
signs and inserts one and re-reads the winner's row when it lost the race.  While the database
fails it serves the last document it saw, as long as that one is valid.

Any number of publishers share one table, each with its own signer and its own last document.
A call is a thread that executes one statement at a time; what the database answers, whether a
statement fails, and whether a failed `INSERT` took effect nevertheless, is the input of the
step.

Instants are nanoseconds since the Unix epoch.
-/

/-! ## Hours and documents -/

def nanosPerSecond : Int := 1000000000

def nanosPerHour : Int := 3600 * nanosPerSecond

def freshWindow : Int := 1 * nanosPerHour

def validWindow : Int := 6 * nanosPerHour

/-- `Time.Unix`, which rounds down. -/
def unix (instant : Int) : Int := instant / nanosPerSecond

/-- Truncation to the publication boundary. -/
def hourOf (instant : Int) : Int := instant / nanosPerHour * nanosPerHour

/-- Hours since the Unix epoch. -/
def versionFor (validAfter : Int) : Int := Int.tdiv (unix validAfter) 3600

def stamp (instant : Int) : String := ofAscii (rfc3339 (unix instant))

/-- One relay as published. -/
structure RelayEntry where
  id : String
  operatorId : String
  hostId : String
  role : String
  ip : String
  port : Int
  tlsName : String
  staticPubkey : String
  deriving DecidableEq, Repr

structure Document where
  version : Int
  validAfter : String
  freshUntil : String
  validUntil : String
  relays : List RelayEntry
  deriving DecidableEq, Repr

/-- One entry in the detached signature list. -/
structure Signature where
  keyId : String
  sig : String
  deriving DecidableEq, Repr

/-- The document `publish` builds for an hour. -/
def documentFor (hour : Int) (relays : List RelayEntry) : Document where
  version := versionFor hour
  validAfter := stamp hour
  freshUntil := stamp (hour + freshWindow)
  validUntil := stamp (hour + validWindow)
  relays := relays

/-- The encoders of the Go standard library, what a `JSONB` column gives back of a text, and
the signing key of each publisher. -/
structure Env where
  marshal : Document -> Except String Bytes
  marshalSignatures : List Signature -> Except String Bytes
  unmarshalSignatures : Bytes -> Except String (List Signature)
  jsonb : Bytes -> Except String Bytes
  sign : (publisher : Nat) -> Bytes -> Signature

/-! ## The table of published documents -/

structure Row where
  version : Int
  validAfter : Int
  document : Bytes
  signatures : Bytes
  deriving DecidableEq, Repr

def checkFailed (constraint : String) : String :=
  s!"new row for relation \"registry_documents\" violates check constraint \"{constraint}\""

/-- The `CHECK` constraints, in the order of their names. -/
def checkRow (row : Row) : Except String Unit :=
  if row.document.length = 0 then .error (checkFailed "registry_documents_document_nonempty")
  else if unix row.validAfter % 3600 ≠ 0 then .error (checkFailed "registry_documents_valid_after_on_hour")
  else if row.version ≠ unix row.validAfter / 3600 then .error (checkFailed "registry_documents_version_is_hour")
  else if ¬ row.version > 0 then .error (checkFailed "registry_documents_version_positive")
  else .ok ()

/-- `INSERT ... ON CONFLICT (valid_after) DO NOTHING`, with the number of rows it added. -/
def insertRow (table : List Row) (row : Row) : Except String (Nat × List Row) :=
  match checkRow row with
  | .error e => .error e
  | .ok () =>
      if table.any (·.validAfter = row.validAfter) then .ok (0, table)
      else if table.any (·.version = row.version) then
        .error "duplicate key value violates unique constraint \"registry_documents_pkey\""
      else .ok (1, table ++ [row])

/-! ## One call of `Current` -/

inductive LoadError where
  | noRows
  | failed (text : String)
  deriving DecidableEq, Repr

def LoadError.text : LoadError -> String
  | .noRows => "no rows in result set"
  | .failed text => text

/-- `noDocument` wraps `ErrNoDocument`. -/
inductive CurrentError where
  | noDocument (cause : String)
  | other (text : String)
  deriving DecidableEq, Repr

/-- The copy a publisher keeps in memory. -/
structure Memory where
  lastDoc : Bytes
  lastSigs : List Signature
  lastTil : Int
  deriving DecidableEq, Repr

structure Store where
  table : List Row
  memory : (publisher : Nat) -> Option Memory

/-- A document that was built but is not stored yet. -/
structure Built where
  bytes : Bytes
  sigs : List Signature
  sigsJson : Bytes
  deriving DecidableEq, Repr

/-- The statement a call executes next. -/
inductive Phase where
  | loading
  | querying
  | inserting (built : Built)
  | reloading
  | remembering (doc : Bytes) (sigs : List Signature)
  | fallingBack (e : CurrentError)
  | done (result : Except CurrentError (Bytes × List Signature))
  deriving DecidableEq

def Phase.isRemembering : Phase -> Bool
  | .remembering _ _ => true
  | _ => false

structure Call where
  publisher : Nat
  now : Int
  phase : Phase
  deriving DecidableEq

def Call.hour (call : Call) : Int := hourOf call.now

/-- What the database does with one statement; only the query for active relays reads
`relays`.  A statement that is reported as failed may have taken effect. -/
inductive Reply where
  | completes (relays : List RelayEntry)
  | fails (applied : Bool) (text : String)

variable (env : Env)

def load (table : List Row) (hour : Int) : Except LoadError (Bytes × List Signature) :=
  match table.find? (·.validAfter = hour) with
  | none => .error .noRows
  | some row =>
      match env.unmarshalSignatures row.signatures with
      | .error e => .error (.failed s!"stored signatures are unreadable: {e}")
      | .ok sigs => .ok (row.document, sigs)

/-- The part of `publish` between the query and the `INSERT`. -/
def build (publisher : Nat) (hour : Int) (relays : List RelayEntry) : Except String Built :=
  match env.marshal (documentFor hour relays) with
  | .error e => .error s!"marshal document: {e}"
  | .ok bytes =>
      let sigs := [env.sign publisher bytes]
      match env.marshalSignatures sigs with
      | .error e => .error s!"marshal signatures: {e}"
      | .ok sigsJson => .ok ⟨bytes, sigs, sigsJson⟩

/-- The `INSERT` of a built document; the `JSONB` column reads its text first. -/
def insert (table : List Row) (hour : Int) (built : Built) : Except String (Nat × List Row) :=
  match env.jsonb built.sigsJson with
  | .error e => .error e
  | .ok signatures => insertRow table ⟨versionFor hour, hour, built.bytes, signatures⟩

def Store.remember (store : Store) (publisher : Nat) (memory : Memory) : Store :=
  { store with memory := Function.update store.memory publisher (some memory) }

@[simp] theorem Store.remember_memory_self (store : Store) (publisher : Nat) (memory : Memory) :
    (store.remember publisher memory).memory publisher = some memory :=
  Function.update_self ..

theorem Store.remember_memory_of_ne (store : Store) {publisher other : Nat} (different : other ≠ publisher)
    (memory : Memory) : (store.remember publisher memory).memory other = store.memory other :=
  Function.update_of_ne different ..

def Store.cached (store : Store) (publisher : Nat) (now : Int) : Option (Bytes × List Signature) :=
  match store.memory publisher with
  | none => none
  | some memory => if ¬ now < memory.lastTil then none else some (memory.lastDoc, memory.lastSigs)

/-- The table after an `INSERT` that is reported as failed. -/
def insertedAnyway (table : List Row) (hour : Int) (built : Built) : Bool -> List Row
  | false => table
  | true =>
      match insert env table hour built with
      | .error _ => table
      | .ok (_, after) => after

/-- One statement of a call.  Updating the copy in memory and returning is one step, and so
is reading it and returning. -/
def step (store : Store) (call : Call) (reply : Reply) : Store × Call :=
  match call.phase, reply with
  | .loading, .fails _ text => (store, { call with phase := .fallingBack (.noDocument text) })
  | .loading, .completes _ =>
      match load env store.table call.hour with
      | .ok (doc, sigs) => (store, { call with phase := .remembering doc sigs })
      | .error .noRows => (store, { call with phase := .querying })
      | .error (.failed text) => (store, { call with phase := .fallingBack (.noDocument text) })
  | .querying, .fails _ text =>
      (store, { call with phase := .fallingBack (.other s!"read active relays: {text}") })
  | .querying, .completes relays =>
      match build env call.publisher call.hour relays with
      | .error text => (store, { call with phase := .fallingBack (.other text) })
      | .ok built => (store, { call with phase := .inserting built })
  | .inserting built, .fails applied text =>
      ({ store with table := insertedAnyway env store.table call.hour built applied },
        { call with phase := .fallingBack (.other s!"insert document: {text}") })
  | .inserting built, .completes _ =>
      match insert env store.table call.hour built with
      | .error text => (store, { call with phase := .fallingBack (.other s!"insert document: {text}") })
      | .ok (affected, table) =>
          if affected = 1 then
            ({ store with table := table }, { call with phase := .remembering built.bytes built.sigs })
          else ({ store with table := table }, { call with phase := .reloading })
  | .reloading, .fails _ text => (store, { call with phase := .fallingBack (.other text) })
  | .reloading, .completes _ =>
      match load env store.table call.hour with
      | .ok (doc, sigs) => (store, { call with phase := .remembering doc sigs })
      | .error e => (store, { call with phase := .fallingBack (.other e.text) })
  | .remembering doc sigs, _ =>
      (store.remember call.publisher ⟨doc, sigs, call.hour + validWindow⟩,
        { call with phase := .done (.ok (doc, sigs)) })
  | .fallingBack e, _ =>
      match store.cached call.publisher call.now with
      | some (doc, sigs) => (store, { call with phase := .done (.ok (doc, sigs)) })
      | none => (store, { call with phase := .done (.error e) })
  | .done _, _ => (store, call)

/-- No document is stored and no publisher has served one. -/
def emptyStore : Store := ⟨[], fun _ => none⟩

/-- Calls start at the beginning of `Current`. -/
def Begins : Move Call Reply -> Prop
  | .spawn call => call.phase = .loading
  | .advance _ _ => True

/-- The publishers after some moves. -/
def publishers (moves : List (Move Call Reply)) : Pool Store Call :=
  run (step env) ⟨emptyStore, []⟩ moves

end Authority
end QuietHop
