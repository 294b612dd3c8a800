import Mathlib.Data.List.Sort
import QuietHop.Authority.Publisher
import QuietHop.Authority.Sign

namespace QuietHop
namespace Authority

open Lib Lib.Threads Net

/-!
# Relays from provisioning to publication

A relay is provisioned once, by an administrator, and inactive until its first heartbeat.
Heartbeats make it active, sweeps inactive again, and the publisher lists the active ones.  All
of them work on one table, by statements that are each atomic; a heartbeat that changes no row
is followed by a second statement that only finds out why.
-/

/-! ## The table of relays -/

structure Uuid where
  octets : Bytes
  length_eq : octets.length = 16

instance : DecidableEq Uuid := fun left right =>
  decidable_of_iff (left.octets = right.octets) (by cases left; cases right; simp)

/-- The text of a UUID, in groups of 8, 4, 4, 4 and 12 digits. -/
def Uuid.text (id : Uuid) : String :=
  let part := fun start count => Hex.encode ((id.octets.drop start).take count)
  ofAscii (part 0 4 ++ 45 :: (part 4 2 ++ 45 :: (part 6 2 ++ 45 :: (part 8 2 ++ 45 :: part 10 6))))

inductive Status where
  | inactive
  | active
  deriving DecidableEq, Repr

structure RelayRow where
  id : Uuid
  apiKeyHash : String
  tlsName : String
  region : String
  role : String
  status : Status
  lastHeartbeat : Option Int
  ip : IpAddr
  port : Int
  staticPubkey : Bytes
  operatorId : String
  hostId : String
  deriving DecidableEq

/-- The parts of the Go standard library and of PostgreSQL that are not spelled out: an
address is parsed with its zone and printed with it; the database reads a text as `INET`
and prints it with `host`. -/
structure Platform where
  sha256 : Bytes -> Digest
  parseAddr : String -> Option (IpAddr × String)
  addrString : IpAddr -> (zone : String) -> String
  inetIn : String -> Except String IpAddr
  host : IpAddr -> String

/-- What the outside decides when a statement is executed: random bytes, the id the database
draws, its clock, and whether the statement fails without effect. -/
structure Draw where
  random : Except String Bytes
  id : Uuid
  now : Int
  fault : Option String

def relayCheckFailed (constraint : String) : String :=
  s!"new row for relation \"relay_nodes\" violates check constraint \"{constraint}\""

/-- The `CHECK` constraints, in the order of their names. -/
def checkRelay (row : RelayRow) : Except String Unit :=
  if row.hostId.length = 0 then .error (relayCheckFailed "relay_nodes_host_id_nonempty")
  else if canonicalIp row.ip ≠ row.ip then .error (relayCheckFailed "relay_nodes_ip_not_mapped")
  else if row.operatorId.length = 0 then .error (relayCheckFailed "relay_nodes_operator_id_nonempty")
  else if ¬ (1 ≤ row.port ∧ row.port ≤ 65535) then .error (relayCheckFailed "relay_nodes_port_range")
  else if row.staticPubkey.length ≠ 32 then .error (relayCheckFailed "relay_nodes_static_pubkey_len")
  else .ok ()

/-- A `TEXT` column holds anything but a zero byte. -/
def storable (text : String) : Bool := ¬ text.toList.contains (Char.ofNat 0)

/-! ## Provisioning -/

structure ProvisionRequest where
  tlsName : String
  ip : String
  port : Int
  region : String
  role : String
  staticPubkey : String
  operatorId : String
  hostId : String
  deriving DecidableEq, Repr

inductive ProvisionError where
  | invalidRole
  | missingIdentifier
  | invalidStaticKey
  | invalidAddress
  | other (text : String)
  deriving DecidableEq, Repr

def staticKeyLen : Nat := 32

def validRole (role : String) : Bool :=
  role = "guard" ∨ role = "middle" ∨ role = "exit"

/-- `Addr.Unmap`: an IPv4 address mapped into IPv6 becomes plain and loses its zone. -/
def unmap (addr : IpAddr × String) : IpAddr × String :=
  if canonicalIp addr.1 = addr.1 then addr else (canonicalIp addr.1, "")

variable (platform : Platform) (salt : String)

def hashAPIKey (plaintext : String) : String :=
  encodeToString (platform.sha256 (asBytes salt ++ asBytes plaintext)).val

/-- The `INSERT` of a relay, whose address is read from its text. -/
def insertRelay (table : List RelayRow) (row : IpAddr -> RelayRow) (ip : String) (texts : List String)
    (draw : Draw) : Except String (List RelayRow) :=
  match draw.fault with
  | some e => .error e
  | none =>
      if ¬ texts.all storable then .error "invalid byte sequence for encoding \"UTF8\": 0x00"
      else
        match platform.inetIn ip with
        | .error e => .error e
        | .ok stored =>
            match checkRelay (row stored) with
            | .error e => .error e
            | .ok () =>
                if table.any (·.id = (row stored).id) then
                  .error "duplicate key value violates unique constraint \"relay_nodes_pkey\""
                else .ok (table ++ [row stored])

def provisionRelay (table : List RelayRow) (tlsName region role ip : String) (port : Int) (staticPubkey : Bytes)
    (operatorId hostId : String) (draw : Draw) : Except ProvisionError (Uuid × String) × List RelayRow :=
  if ¬ validRole role then (.error .invalidRole, table)
  else if operatorId = "" ∨ hostId = "" then (.error .missingIdentifier, table)
  else if staticPubkey.length ≠ staticKeyLen then (.error .invalidStaticKey, table)
  else
    match platform.parseAddr ip with
    | none => (.error .invalidAddress, table)
    | some addr =>
        let ip := platform.addrString (unmap addr).1 (unmap addr).2
        if port < 1 ∨ port > 65535 then (.error .invalidAddress, table)
        else
          match draw.random with
          | .error e => (.error (.other e), table)
          | .ok buf =>
              let plaintext := encodeToString buf
              let hash := hashAPIKey platform salt plaintext
              let row := fun stored => RelayRow.mk draw.id hash tlsName region role .inactive none stored port
                staticPubkey operatorId hostId
              match insertRelay platform table row ip [tlsName, region, role, operatorId, hostId] draw with
              | .error e => (.error (.other e), table)
              | .ok after => (.ok (draw.id, plaintext), after)

/-- The status and error code that answer a refused request. -/
def ProvisionError.answer : ProvisionError -> Nat × String
  | .invalidRole => (400, "invalid_role")
  | .invalidStaticKey => (400, "invalid_static_pubkey")
  | .invalidAddress => (400, "invalid_address")
  | .missingIdentifier => (400, "missing_fields")
  | .other _ => (500, "internal")

/-- `body` is nothing when the request does not decode. -/
def handleProvisionRelay (table : List RelayRow) (body : Option ProvisionRequest) (draw : Draw) :
    Except (Nat × String) (Uuid × String) × List RelayRow :=
  match body with
  | none => (.error (400, "invalid_request"), table)
  | some req =>
      if req.tlsName = "" ∨ req.region = "" ∨ req.ip = "" ∨ req.staticPubkey = "" ∨ req.operatorId = "" ∨
          req.hostId = "" then
        (.error (400, "missing_fields"), table)
      else
        match decodeString req.staticPubkey with
        | none => (.error (400, "invalid_static_pubkey"), table)
        | some pubkey =>
            match provisionRelay platform salt table req.tlsName req.region req.role req.ip req.port pubkey
                req.operatorId req.hostId draw with
            | (.error e, after) => (.error e.answer, after)
            | (.ok created, after) => (.ok created, after)

/-! ## Heartbeats and sweeps -/

inductive HeartbeatError where
  | invalidStaticKey
  | unknownRelay
  | staticKeyMismatch (relay : Uuid)
  | other (text : String)
  deriving DecidableEq

/-- The condition of the `UPDATE`: the key's hash, and the offered static key if there is one. -/
def admits (hash : String) (offered : Option Bytes) (row : RelayRow) : Bool :=
  row.apiKeyHash = hash ∧ (offered = none ∨ offered = some row.staticPubkey)

def beat (hash : String) (offered : Option Bytes) (now : Int) (row : RelayRow) : RelayRow :=
  if admits hash offered row then { row with status := .active, lastHeartbeat := some now } else row

/-- The `UPDATE` of a heartbeat, with the first id it returns; nothing when no row changes. -/
def updateHeartbeat (table : List RelayRow) (hash : String) (offered : Option Bytes) (now : Int) :
    Option (Uuid × List RelayRow) :=
  (table.find? (admits hash offered)).map fun row => (row.id, table.map (beat hash offered now))

/-- Why no row changed. -/
def lookupHeartbeat (table : List RelayRow) (hash : String) (offered : Option Bytes) : HeartbeatError :=
  match table.find? (·.apiKeyHash = hash) with
  | none => .unknownRelay
  | some row =>
      if offered ≠ none ∧ offered ≠ some row.staticPubkey then .staticKeyMismatch row.id else .unknownRelay

/-- The condition of a sweep at a time on the database's clock. -/
def expired (seconds now : Int) (row : RelayRow) : Bool :=
  decide (row.status = .active) &&
    match row.lastHeartbeat with
    | none => true
    | some last => decide (last < now - seconds * nanosPerSecond)

def sweepRow (seconds now : Int) (row : RelayRow) : RelayRow :=
  if expired seconds now row then { row with status := .inactive } else row

/-- `SweepInactiveRelays`, whose time to live is at least one second. -/
def sweepSeconds (ttl : Int) : Int :=
  let seconds := Int.tdiv ttl nanosPerSecond
  if seconds < 1 then 1 else seconds

/-! ## Publication -/

def hexOf (bytes : Bytes) : String := ofAscii (Hex.encode bytes)

def entryOf (row : RelayRow) : RelayEntry where
  id := row.id.text
  operatorId := row.operatorId
  hostId := row.hostId
  role := row.role
  ip := platform.host row.ip
  port := row.port
  tlsName := row.tlsName
  staticPubkey := hexOf row.staticPubkey

/-- The query for the relays of a document. -/
def activeRelays (table : List RelayRow) : List RelayEntry :=
  ((table.filter (·.status = .active)).insertionSort fun first second =>
    BigEndian.toNat first.id.octets ≤ BigEndian.toNat second.id.octets).map (entryOf platform)

/-! ## Interleaving -/

inductive Task where
  | provision (body : Option ProvisionRequest)
  | heartbeat (plaintext : String) (offered : Option Bytes)
  | sweep (ttl : Int)
  | publish (hour : Int)
  deriving DecidableEq

inductive Outcome where
  | provisioned (reply : Except (Nat × String) (Uuid × String))
  | heartbeat (reply : Except HeartbeatError Uuid)
  | swept (reply : Except String Nat)
  | published (reply : Except String Document)
  deriving DecidableEq

inductive Progress where
  | started
  | lookingUp
  | finished (outcome : Outcome)
  deriving DecidableEq

structure Job where
  task : Task
  progress : Progress
  deriving DecidableEq

/-- The next statement of a job. -/
def jobStep (table : List RelayRow) (job : Job) (draw : Draw) : List RelayRow × Job :=
  match job.task, job.progress with
  | .provision body, .started =>
      let (reply, after) := handleProvisionRelay platform salt table body draw
      (after, ⟨job.task, .finished (.provisioned reply)⟩)
  | .heartbeat plaintext offered, .started =>
      if ∃ key ∈ offered, key.length ≠ staticKeyLen then
        (table, ⟨job.task, .finished (.heartbeat (.error .invalidStaticKey))⟩)
      else
        match draw.fault with
        | some e => (table, ⟨job.task, .finished (.heartbeat (.error (.other e)))⟩)
        | none =>
            match updateHeartbeat table (hashAPIKey platform salt plaintext) offered draw.now with
            | some (id, after) => (after, ⟨job.task, .finished (.heartbeat (.ok id))⟩)
            | none => (table, ⟨job.task, .lookingUp⟩)
  | .heartbeat plaintext offered, .lookingUp =>
      match draw.fault with
      | some _ => (table, ⟨job.task, .finished (.heartbeat (.error .unknownRelay))⟩)
      | none =>
          (table, ⟨job.task, .finished (.heartbeat
            (.error (lookupHeartbeat table (hashAPIKey platform salt plaintext) offered)))⟩)
  | .sweep ttl, .started =>
      match draw.fault with
      | some e => (table, ⟨job.task, .finished (.swept (.error e))⟩)
      | none =>
          (table.map (sweepRow (sweepSeconds ttl) draw.now),
            ⟨job.task, .finished (.swept (.ok (table.countP (expired (sweepSeconds ttl) draw.now))))⟩)
  | .publish hour, .started =>
      match draw.fault with
      | some e => (table, ⟨job.task, .finished (.published (.error s!"read active relays: {e}"))⟩)
      | none => (table, ⟨job.task, .finished (.published (.ok (documentFor hour (activeRelays platform table))))⟩)
  | _, _ => (table, job)

/-- Jobs begin with their first statement. -/
def Submits : Move Job Draw -> Prop
  | .spawn job => job.progress = .started
  | .advance _ _ => True

/-- The authority after some moves, from an empty table. -/
def authority (moves : List (Move Job Draw)) : Pool (List RelayRow) Job :=
  run (jobStep platform salt) ⟨[], []⟩ moves

end Authority
end QuietHop
