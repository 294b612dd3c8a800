import QuietHop.Authority.Clock
import QuietHop.Authority.Relays
import QuietHop.Client.Path

namespace QuietHop
namespace Authority

open Lib Lib.Threads Net

/-!
# Every published relay was provisioned and has beaten

The client turns a whole document down for one malformed entry, so a relay that passed
provisioning must pass the client's checks.  The columns a document is built from are written
once, by the `INSERT`; heartbeats and sweeps touch only the status and the time of the last
heartbeat.
-/

/-- What is assumed of PostgreSQL and of the client's parser: an address is stored as it is, and
only without a zone, and its print is read back. -/
structure Platform.Faithful (platform : Platform) : Prop where
  stores : forall ip zone stored, platform.inetIn (platform.addrString ip zone) = .ok stored -> stored = ip
  prints : forall text ip, platform.inetIn text = .ok ip -> parseIpAddr (platform.host ip) = some ip

variable (platform : Platform) (salt : String)

/-- The row holds what a request asked for, and the request passed every check. -/
structure Accepted (req : ProvisionRequest) (id : Uuid) (apiKey : String) (row : RelayRow) : Prop where
  id : row.id = id
  apiKeyHash : row.apiKeyHash = hashAPIKey platform salt apiKey
  tlsName : row.tlsName = req.tlsName ∧ req.tlsName ≠ ""
  role : row.role = req.role ∧ validRole req.role = true
  operatorId : row.operatorId = req.operatorId ∧ req.operatorId ≠ ""
  hostId : row.hostId = req.hostId ∧ req.hostId ≠ ""
  port : row.port = req.port ∧ 1 ≤ req.port ∧ req.port ≤ 65535
  staticPubkey : decodeString req.staticPubkey = some row.staticPubkey ∧ row.staticPubkey.length = staticKeyLen
  address : ∃ addr zone text, platform.parseAddr req.ip = some (addr, zone) ∧ platform.inetIn text = .ok row.ip ∧
    row.ip = canonicalIp addr

variable {platform salt}

theorem insertRelay_ok {table after : List RelayRow} {row : IpAddr -> RelayRow} {ip : String} {texts : List String}
    {draw : Draw} (inserted : insertRelay platform table row ip texts draw = .ok after) :
    ∃ stored, platform.inetIn ip = .ok stored ∧ after = table ++ [row stored] := by
  rw [insertRelay] at inserted
  split at inserted
  · cases inserted
  · split_ifs at inserted
    split at inserted
    · cases inserted
    · next stored read =>
        split at inserted
        · cases inserted
        · split_ifs at inserted
          cases inserted
          exact ⟨stored, read, rfl⟩

theorem unmap_fst (addr : IpAddr × String) : (unmap addr).1 = canonicalIp addr.1 := by
  rw [unmap]
  split_ifs with plain
  · exact plain.symm
  · rfl

/-- A relay is provisioned with the values it was checked for, or not at all. -/
theorem provisionRelay_cases (faithful : platform.Faithful) {table after : List RelayRow}
    {tlsName region role ip operatorId hostId : String} {port : Int} {staticPubkey : Bytes} {draw : Draw}
    {reply : Except ProvisionError (Uuid × String)}
    (provisioned : provisionRelay platform salt table tlsName region role ip port staticPubkey operatorId hostId draw =
      (reply, after)) :
    ((∃ e, reply = .error e) ∧ after = table) ∨
      ∃ apiKey addr zone text stored, reply = .ok (draw.id, apiKey) ∧ validRole role = true ∧
        staticPubkey.length = staticKeyLen ∧ 1 ≤ port ∧ port ≤ 65535 ∧ platform.parseAddr ip = some (addr, zone) ∧
        platform.inetIn text = .ok stored ∧ stored = canonicalIp addr ∧
        after = table ++ [⟨draw.id, hashAPIKey platform salt apiKey, tlsName, region, role, .inactive, none, stored, port,
          staticPubkey, operatorId, hostId⟩] := by
  have refused : forall e,
      ((.error e, table) : Except ProvisionError (Uuid × String) × List RelayRow) = (reply, after) -> (∃ e, reply = .error e) ∧ after = table := by
    intro e equal
    cases equal
    exact ⟨⟨e, rfl⟩, rfl⟩
  rw [provisionRelay] at provisioned
  -- each check in turn: a request that fails it is refused, one that passes goes on
  split at provisioned
  · exact Or.inl (refused _ provisioned)
  rename_i isRole
  split at provisioned
  · exact Or.inl (refused _ provisioned)
  split at provisioned
  · exact Or.inl (refused _ provisioned)
  rename_i size
  split at provisioned
  · exact Or.inl (refused _ provisioned)
  rename_i addr parsed
  dsimp only at provisioned
  split at provisioned
  · exact Or.inl (refused _ provisioned)
  rename_i range
  split at provisioned
  · exact Or.inl (refused _ provisioned)
  split at provisioned
  · exact Or.inl (refused _ provisioned)
  rename_i inserted
  cases provisioned
  rcases insertRelay_ok inserted with ⟨stored, read, rfl⟩
  have same := faithful.stores _ _ _ read
  rw [unmap_fst] at same
  exact Or.inr ⟨_, addr.1, addr.2, _, stored, rfl, not_not.mp isRole, not_not.mp size, by omega, by omega, parsed, read,
    same, rfl⟩

/-- What the handler of a provisioning request does to the table. -/
theorem handleProvisionRelay_cases (faithful : platform.Faithful) {table after : List RelayRow}
    {body : Option ProvisionRequest} {draw : Draw} {reply : Except (Nat × String) (Uuid × String)}
    (handled : handleProvisionRelay platform salt table body draw = (reply, after)) :
    after = table ∨
      ∃ req id apiKey row, body = some req ∧ reply = .ok (id, apiKey) ∧ after = table ++ [row] ∧
        row.status = .inactive ∧ Accepted platform salt req id apiKey row := by
  rw [handleProvisionRelay.eq_def] at handled
  split at handled
  · cases handled
    exact Or.inl rfl
  rename_i req
  split_ifs at handled with missing
  · cases handled
    exact Or.inl rfl
  split at handled
  · cases handled
    exact Or.inl rfl
  rename_i pubkey decoded
  split at handled
  · next e rejected provisioned =>
      cases handled
      rcases provisionRelay_cases faithful provisioned with ⟨-, same⟩ | ⟨_, _, _, _, _, absurd, -⟩
      · exact Or.inl same
      · cases absurd
  · next created accepted provisioned =>
      cases handled
      rcases provisionRelay_cases faithful provisioned with ⟨⟨_, absurd⟩, -⟩ |
        ⟨apiKey, addr, zone, text, stored, isOk, role, size, low, high, parsed, read, isAddr, rfl⟩
      · cases absurd
      · cases isOk
        simp only [not_or] at missing
        refine Or.inr ⟨req, draw.id, apiKey, _, rfl, rfl, rfl, rfl, ?_⟩
        exact ⟨rfl, rfl, ⟨rfl, missing.1⟩, ⟨rfl, role⟩, ⟨rfl, missing.2.2.2.2.1⟩, ⟨rfl, missing.2.2.2.2.2⟩,
          ⟨rfl, low, high⟩, ⟨decoded, size⟩, addr, zone, text, parsed, read, isAddr⟩

/-! ## Where rows come from -/

variable (platform salt)

/-- A request among the jobs was accepted and provisioned the row. -/
def Provisioned (jobs : List Job) (row : RelayRow) : Prop :=
  ∃ req id apiKey, ⟨.provision (some req), .finished (.provisioned (.ok (id, apiKey)))⟩ ∈ jobs ∧
    Accepted platform salt req id apiKey row

/-- A heartbeat among the jobs was accepted with a key of the row. -/
def Beaten (jobs : List Job) (row : RelayRow) : Prop :=
  ∃ plaintext offered id, ⟨.heartbeat plaintext offered, .finished (.heartbeat (.ok id))⟩ ∈ jobs ∧
    admits (hashAPIKey platform salt plaintext) offered row = true

/-- Every row was provisioned and every active one has beaten; the entries of every document
are rows of both kinds. -/
structure Traced (pool : Pool (List RelayRow) Job) : Prop where
  provisioned : ∀ row ∈ pool.shared, Provisioned platform salt pool.threads row
  beaten : ∀ row ∈ pool.shared, row.status = .active -> Beaten platform salt pool.threads row
  published : forall hour doc, ⟨.publish hour, .finished (.published (.ok doc))⟩ ∈ pool.threads -> ∀ entry ∈ doc.relays,
    ∃ row, entry = entryOf platform row ∧ Provisioned platform salt pool.threads row ∧
      Beaten platform salt pool.threads row

variable {platform salt}

/-- Rows that differ at most in what heartbeats and sweeps write. -/
def SameRelay (row other : RelayRow) : Prop :=
  { row with status := .inactive, lastHeartbeat := none } = { other with status := .inactive, lastHeartbeat := none }

theorem sameRelay_beat (hash : String) (offered : Option Bytes) (now : Int) (row : RelayRow) :
    SameRelay row (beat hash offered now row) := by
  rw [beat]
  split_ifs <;> rfl

theorem sameRelay_sweepRow (seconds now : Int) (row : RelayRow) : SameRelay row (sweepRow seconds now row) := by
  rw [sweepRow]
  split_ifs <;> rfl

theorem Accepted.sameRelay {req : ProvisionRequest} {id : Uuid} {apiKey : String} {row other : RelayRow}
    (accepted : Accepted platform salt req id apiKey row) (same : SameRelay row other) :
    Accepted platform salt req id apiKey other := by
  cases row
  cases other
  cases same
  exact ⟨accepted.id, accepted.apiKeyHash, accepted.tlsName, accepted.role, accepted.operatorId, accepted.hostId,
    accepted.port, accepted.staticPubkey, accepted.address⟩

theorem admits_sameRelay {hash : String} {offered : Option Bytes} {row other : RelayRow} (same : SameRelay row other) :
    admits hash offered row = admits hash offered other := by
  cases row
  cases other
  cases same
  rfl

theorem Provisioned.transport {jobs later : List Job} {row other : RelayRow}
    (provisioned : Provisioned platform salt jobs row)
    (kept : forall task outcome, ⟨task, .finished outcome⟩ ∈ jobs -> ⟨task, .finished outcome⟩ ∈ later)
    (same : SameRelay row other) : Provisioned platform salt later other := by
  rcases provisioned with ⟨req, id, apiKey, member, accepted⟩
  exact ⟨req, id, apiKey, kept _ _ member, accepted.sameRelay same⟩

theorem Beaten.transport {jobs later : List Job} {row other : RelayRow} (beaten : Beaten platform salt jobs row)
    (kept : forall task outcome, ⟨task, .finished outcome⟩ ∈ jobs -> ⟨task, .finished outcome⟩ ∈ later)
    (same : SameRelay row other) : Beaten platform salt later other := by
  rcases beaten with ⟨plaintext, offered, id, member, admitted⟩
  exact ⟨plaintext, offered, id, kept _ _ member, (admits_sameRelay same) ▸ admitted⟩

/-! ## One statement -/

variable (platform salt)

/-- Everything one statement of a job can do. -/
inductive JobActs (table : List RelayRow) (job : Job) : List RelayRow -> Job -> Prop
  | waits (progress : Progress) (quiet : forall doc, progress ≠ .finished (.published (.ok doc))) :
      JobActs table job table ⟨job.task, progress⟩
  | provisions (req : ProvisionRequest) (id : Uuid) (apiKey : String) (row : RelayRow)
      (task : job.task = .provision (some req)) (inactive : row.status = .inactive)
      (accepted : Accepted platform salt req id apiKey row) :
      JobActs table job (table ++ [row]) ⟨job.task, .finished (.provisioned (.ok (id, apiKey)))⟩
  | beats (plaintext : String) (offered : Option Bytes) (id : Uuid) (now : Int)
      (task : job.task = .heartbeat plaintext offered) :
      JobActs table job (table.map (beat (hashAPIKey platform salt plaintext) offered now))
        ⟨job.task, .finished (.heartbeat (.ok id))⟩
  | sweeps (seconds now : Int) (reply : Except String Nat) (ttl : Int) (task : job.task = .sweep ttl) :
      JobActs table job (table.map (sweepRow seconds now)) ⟨job.task, .finished (.swept reply)⟩
  | publishes (hour : Int) (task : job.task = .publish hour) :
      JobActs table job table
        ⟨job.task, .finished (.published (.ok (documentFor hour (activeRelays platform table))))⟩
  | stays : JobActs table job table job

variable {platform salt}

theorem jobStep_acts (faithful : platform.Faithful) (table : List RelayRow) (job : Job) (draw : Draw) :
    JobActs platform salt table job (jobStep platform salt table job draw).1 (jobStep platform salt table job draw).2 := by
  rcases job with ⟨task, progress⟩
  cases task with
  | provision body =>
      cases progress with
      | started =>
          simp only [jobStep]
          cases handled : handleProvisionRelay platform salt table body draw with
          | mk reply after =>
              rcases handleProvisionRelay_cases faithful handled with
                rfl | ⟨req, id, apiKey, row, rfl, rfl, rfl, inactive, accepted⟩
              · exact .waits _ (by simp)
              · exact .provisions req id apiKey row rfl inactive accepted
      | _ => exact .stays
  | heartbeat plaintext offered =>
      cases progress with
      | started =>
          simp only [jobStep]
          split
          · exact .waits _ (by simp)
          · split
            · exact .waits _ (by simp)
            · split
              · next id after updated =>
                  rcases Option.map_eq_some_iff.mp updated with ⟨row, -, equal⟩
                  cases equal
                  exact .beats plaintext offered row.id draw.now rfl
              · exact .waits _ (by simp)
      | lookingUp =>
          simp only [jobStep]
          split
          · exact .waits _ (by simp)
          · exact .waits _ (by simp)
      | finished outcome => exact .stays
  | sweep ttl =>
      cases progress with
      | started =>
          simp only [jobStep]
          split
          · exact .waits _ (by simp)
          · exact .sweeps _ _ _ ttl rfl
      | _ => exact .stays
  | publish hour =>
      cases progress with
      | started =>
          simp only [jobStep]
          split
          · exact .waits _ (by simp)
          · exact .publishes hour rfl
      | _ => exact .stays

theorem jobStep_finished (task : Task) (outcome : Outcome) (table : List RelayRow) (draw : Draw) :
    (jobStep platform salt table ⟨task, .finished outcome⟩ draw).2 = ⟨task, .finished outcome⟩ := by
  cases task <;> rfl

/-- Finished jobs stay on record. -/
theorem finished_move {pool : Pool (List RelayRow) Job} (next : Move Job Draw) (task : Task) (outcome : Outcome)
    (member : ⟨task, .finished outcome⟩ ∈ pool.threads) :
    ⟨task, .finished outcome⟩ ∈ (move (jobStep platform salt) pool next).threads := by
  rcases List.getElem?_of_mem member with ⟨place, found⟩
  have kept := getElem?_run_of_final (@jobStep_finished platform salt task outcome) found [next]
  exact List.mem_of_getElem? kept

/-! ## Every run -/

theorem mem_activeRelays {table : List RelayRow} {entry : RelayEntry} (member : entry ∈ activeRelays platform table) :
    ∃ row ∈ table, row.status = .active ∧ entry = entryOf platform row := by
  rcases List.mem_map.mp member with ⟨row, sorted, rfl⟩
  have filtered := (List.mem_insertionSort _).mp sorted
  rcases List.mem_filter.mp filtered with ⟨inside, active⟩
  exact ⟨row, inside, by simpa using active, rfl⟩

theorem Traced.advance (faithful : platform.Faithful) {pool : Pool (List RelayRow) Job} {index : Nat} {draw : Draw}
    {job : Job} (traced : Traced platform salt pool) (found : pool.threads[index]? = some job) :
    Traced platform salt (move (jobStep platform salt) pool (.advance index draw)) := by
  have place := (List.getElem?_eq_some_iff.mp found).1
  have kept : forall task outcome, ⟨task, .finished outcome⟩ ∈ pool.threads ->
      ⟨task, .finished outcome⟩ ∈ (move (jobStep platform salt) pool (.advance index draw)).threads :=
    finished_move (.advance index draw)
  have acts := @jobStep_acts platform salt faithful pool.shared job draw
  rw [move_advance found] at kept ⊢
  generalize jobStep platform salt pool.shared job draw = result at acts kept ⊢
  rcases result with ⟨after, next⟩
  dsimp only at acts kept ⊢
  have newJob : next ∈ pool.threads.set index next := List.mem_set place _
  -- What earlier documents rest on is still on record.
  have earlier : forall hour doc, ⟨.publish hour, .finished (.published (.ok doc))⟩ ∈ pool.threads ->
      ∀ entry ∈ doc.relays, ∃ row, entry = entryOf platform row ∧
        Provisioned platform salt (pool.threads.set index next) row ∧
        Beaten platform salt (pool.threads.set index next) row := by
    intro hour doc member entry listed
    rcases traced.published hour doc member entry listed with ⟨row, equal, provisioned, beaten⟩
    exact ⟨row, equal, provisioned.transport kept rfl, beaten.transport kept rfl⟩
  have published : (forall doc, next.progress ≠ .finished (.published (.ok doc))) ->
      forall hour doc, ⟨.publish hour, .finished (.published (.ok doc))⟩ ∈ pool.threads.set index next ->
        ∀ entry ∈ doc.relays, ∃ row, entry = entryOf platform row ∧
          Provisioned platform salt (pool.threads.set index next) row ∧
          Beaten platform salt (pool.threads.set index next) row := by
    intro quiet hour doc member
    rcases List.mem_or_eq_of_mem_set member with old | equal
    · exact earlier hour doc old
    · exact absurd (congrArg Job.progress equal).symm (quiet doc)
  have provisioned : ∀ row ∈ pool.shared, Provisioned platform salt (pool.threads.set index next) row :=
    fun row member => (traced.provisioned row member).transport kept rfl
  have beaten : ∀ row ∈ pool.shared, row.status = .active ->
      Beaten platform salt (pool.threads.set index next) row :=
    fun row member active => (traced.beaten row member active).transport kept rfl
  cases acts with
  | waits progress quiet => exact ⟨provisioned, beaten, published quiet⟩
  | provisions req id apiKey row task inactive accepted =>
      refine ⟨?_, ?_, published (by simp)⟩
      · intro other member
        rcases List.mem_append.mp member with old | new
        · exact provisioned other old
        · rw [List.mem_singleton.mp new]
          rw [task] at newJob ⊢
          exact ⟨req, id, apiKey, newJob, accepted⟩
      · intro other member active
        rcases List.mem_append.mp member with old | new
        · exact beaten other old active
        · rw [List.mem_singleton.mp new, inactive] at active
          cases active
  | beats plaintext offered id now task =>
      refine ⟨?_, ?_, published (by simp)⟩
      · intro other member
        rcases List.mem_map.mp member with ⟨row, inside, rfl⟩
        exact (provisioned row inside).transport (fun _ _ here => here) (sameRelay_beat ..)
      · intro other member active
        rcases List.mem_map.mp member with ⟨row, inside, rfl⟩
        by_cases admitted : admits (hashAPIKey platform salt plaintext) offered row = true
        · rw [task] at newJob ⊢
          refine ⟨plaintext, offered, id, newJob, ?_⟩
          rw [← admits_sameRelay (sameRelay_beat ..)]
          exact admitted
        · rw [beat, if_neg admitted] at active ⊢
          exact beaten row inside active
  | sweeps seconds now reply ttl task =>
      refine ⟨?_, ?_, published (by simp)⟩
      · intro other member
        rcases List.mem_map.mp member with ⟨row, inside, rfl⟩
        exact (provisioned row inside).transport (fun _ _ here => here) (sameRelay_sweepRow ..)
      · intro other member active
        rcases List.mem_map.mp member with ⟨row, inside, rfl⟩
        rw [sweepRow] at active ⊢
        split_ifs at active ⊢ with late
        exact beaten row inside active
  | publishes hour task =>
      refine ⟨provisioned, beaten, ?_⟩
      intro otherHour doc member
      rcases List.mem_or_eq_of_mem_set member with old | equal
      · exact earlier otherHour doc old
      · rw [task] at equal
        cases equal
        intro entry listed
        rcases mem_activeRelays listed with ⟨row, inside, active, rfl⟩
        exact ⟨row, rfl, provisioned row inside, beaten row inside active⟩
  | stays =>
      refine ⟨provisioned, beaten, ?_⟩
      intro hour doc member
      rcases List.mem_or_eq_of_mem_set member with old | equal
      · exact earlier hour doc old
      · exact earlier hour doc (equal ▸ List.mem_of_getElem? found)

theorem Traced.spawn {pool : Pool (List RelayRow) Job} {job : Job} (traced : Traced platform salt pool)
    (isStart : job.progress = .started) : Traced platform salt (move (jobStep platform salt) pool (.spawn job)) := by
  have kept := fun task outcome member => @finished_move platform salt pool (.spawn job) task outcome member
  refine ⟨?_, ?_, ?_⟩
  · intro row member
    exact (traced.provisioned row member).transport kept rfl
  · intro row member active
    exact (traced.beaten row member active).transport kept rfl
  · intro hour doc member entry listed
    rcases mem_spawn member with old | rfl
    · rcases traced.published hour doc old entry listed with ⟨row, equal, provisioned, beaten⟩
      exact ⟨row, equal, provisioned.transport kept rfl, beaten.transport kept rfl⟩
    · cases isStart

theorem authority_traced (faithful : platform.Faithful) {moves : List (Move Job Draw)}
    (submits : ∀ next ∈ moves, Submits next) : Traced platform salt (authority platform salt moves) := by
  have initially : Traced platform salt ⟨[], []⟩ := ⟨by simp, by simp, by simp⟩
  apply run_invariant ?_ initially (obeys_of_forall (fun _ => submits) _)
  intro pool next traced submitted
  apply move_keeps traced
  · rintro job rfl
    exact traced.spawn submitted
  · rintro index draw job rfl found
    exact traced.advance faithful found

/-! ## The client's checks -/

/-- An entry as the client decodes it; the port fits. -/
def parsedEntry (entry : RelayEntry) : Registry.RelayEntry where
  id := entry.id
  operatorId := entry.operatorId
  hostId := entry.hostId
  role := entry.role
  ip := entry.ip
  port := UInt16.ofNat entry.port.toNat
  tlsName := entry.tlsName
  staticPubkey := entry.staticPubkey

theorem asBytes_hexOf (bytes : Bytes) : asBytes (hexOf bytes) = Hex.encode bytes :=
  asBytes_ofAscii (Hex.encode_ascii bytes)

theorem Uuid.text_ne_empty (id : Uuid) : id.text ≠ "" := by
  intro empty
  have bytes := congrArg asBytes empty
  rw [Uuid.text, asBytes_ofAscii] at bytes
  · have size := congrArg List.length bytes
    have none : (asBytes "").length = 0 := by decide +kernel
    rw [none] at size
    simp at size
  · intro byte member
    simp only [List.mem_append, List.mem_cons] at member
    rcases member with part | rfl | part | rfl | part | rfl | part | rfl | part
    all_goals first
      | decide
      | exact Hex.encode_ascii _ _ (by assumption)

theorem isAsciiHexdigit_of_mem_encode {bytes : Bytes} {digit : UInt8} (member : digit ∈ Hex.encode bytes) :
    Client.isAsciiHexdigit digit = true := by
  have halves : forall byte : UInt8, Client.isAsciiHexdigit (Hex.digit (byte >>> 4)) = true ∧
      Client.isAsciiHexdigit (Hex.digit (byte &&& 15)) = true := by
    apply Hex.forall_byte
    decide +kernel
  rcases List.mem_flatMap.mp member with ⟨byte, -, inPair⟩
  simp only [Hex.pair, List.mem_cons, List.not_mem_nil, or_false] at inPair
  rcases inPair with rfl | rfl
  · exact (halves byte).1
  · exact (halves byte).2

/-- A provisioned relay passes the nine checks of the client. -/
theorem Accepted.wellFormed (faithful : platform.Faithful) {req : ProvisionRequest} {id : Uuid} {apiKey : String}
    {row : RelayRow} (accepted : Accepted platform salt req id apiKey row) :
    Client.WellFormed (parsedEntry (entryOf platform row)) where
  id := row.id.text_ne_empty
  operatorId := fun empty => accepted.operatorId.2 (accepted.operatorId.1.symm.trans empty)
  hostId := fun empty => accepted.hostId.2 (accepted.hostId.1.symm.trans empty)
  tlsName := fun empty => accepted.tlsName.2 (accepted.tlsName.1.symm.trans empty)
  port := by
    rcases accepted.port with ⟨same, low, high⟩
    intro zero
    have value := congrArg UInt16.toNat zero
    simp only [parsedEntry, entryOf, same, UInt16.toNat_ofNat'] at value
    change _ = 0 at value
    omega
  keyLength := by
    change (asBytes (hexOf row.staticPubkey)).length = 64
    rw [asBytes_hexOf, Hex.length_encode, accepted.staticPubkey.2]
    rfl
  keyDigits := by
    intro digit member
    change digit ∈ asBytes (hexOf row.staticPubkey) at member
    rw [asBytes_hexOf] at member
    exact isAsciiHexdigit_of_mem_encode member
  role := by
    rcases accepted.role with ⟨same, valid⟩
    change row.role = _ ∨ row.role = _ ∨ row.role = _
    rw [same]
    simpa [validRole] using valid
  address := by
    rcases accepted.address with ⟨addr, zone, text, -, read, -⟩
    exact ⟨row.ip, faithful.prints text row.ip read⟩

/-- A document whose entries are all accepted is never the reason for a missing path. -/
theorem selectWith_ne_invalid {doc : Registry.Document} {all : List Client.Candidate}
    (accepted : Client.candidates doc = .ok all) (rules : Client.PathRules) (nowUnix : Int)
    (genRange : (total : Nat) -> 0 < total -> Fin total) :
    Client.selectWith doc rules nowUnix genRange ≠ some (.error (.noPath .invalidRegistryEntry)) := by
  rw [Client.selectWith]
  split
  · simp
  · simp
  · split_ifs
    · simp
    · rw [accepted]
      dsimp only
      rw [Client.drawFrom]
      split_ifs
      · simp
      · dsimp only
        split_ifs
        · simp
        · split <;> simp

/-! ## Publication is safe for every client -/

variable (platform salt)

/-- In every run of provisioning, heartbeats, sweeps and publication: the entries of every
document are as provisioned, of relays with an accepted heartbeat; a heartbeat that is not
accepted changes nothing; and the client accepts every entry. -/
theorem published_entries_accepted (faithful : platform.Faithful) (moves : List (Move Job Draw))
    (submits : ∀ next ∈ moves, Submits next) :
    (forall hour doc, ⟨.publish hour, .finished (.published (.ok doc))⟩ ∈ (authority platform salt moves).threads ->
      (∀ entry ∈ doc.relays, ∃ req id apiKey key addr zone plaintext offered beatId,
        ⟨.provision (some req), .finished (.provisioned (.ok (id, apiKey)))⟩ ∈ (authority platform salt moves).threads ∧
        entry.id = id.text ∧ entry.operatorId = req.operatorId ∧ entry.hostId = req.hostId ∧ entry.role = req.role ∧
        entry.port = req.port ∧ entry.tlsName = req.tlsName ∧
        decodeString req.staticPubkey = some key ∧ entry.staticPubkey = hexOf key ∧
        platform.parseAddr req.ip = some (addr, zone) ∧ parseIpAddr entry.ip = some (canonicalIp addr) ∧
        ⟨.heartbeat plaintext offered, .finished (.heartbeat (.ok beatId))⟩ ∈ (authority platform salt moves).threads ∧
        hashAPIKey platform salt plaintext = hashAPIKey platform salt apiKey ∧ (offered = none ∨ offered = some key)) ∧
      (∀ entry ∈ doc.relays, 1 ≤ entry.port ∧ entry.port ≤ 65535) ∧
      (doc.relays.length ≤ Client.maxRelays ->
        (∃ all, Client.candidates (parsedAs doc (doc.relays.map parsedEntry)) = .ok all) ∧
        forall rules nowUnix genRange,
          Client.selectWith (parsedAs doc (doc.relays.map parsedEntry)) rules nowUnix genRange ≠
            some (.error (.noPath .invalidRegistryEntry)))) ∧
    (forall index draw plaintext offered progress,
      (authority platform salt moves).threads[index]? = some ⟨.heartbeat plaintext offered, progress⟩ ->
      (∃ id, (jobStep platform salt (authority platform salt moves).shared ⟨.heartbeat plaintext offered, progress⟩
        draw).2.progress = .finished (.heartbeat (.ok id))) ∨
      (move (jobStep platform salt) (authority platform salt moves) (.advance index draw)).shared =
        (authority platform salt moves).shared) := by
  have traced := @authority_traced platform salt faithful moves submits
  constructor
  · intro hour doc member
    have formed : ∀ entry ∈ doc.relays, Client.WellFormed (parsedEntry entry) := by
      intro entry listed
      rcases traced.published hour doc member entry listed with ⟨row, rfl, ⟨_, _, _, -, accepted⟩, -⟩
      exact accepted.wellFormed faithful
    refine ⟨?_, ?_, ?_⟩
    · intro entry listed
      rcases traced.published hour doc member entry listed with
        ⟨row, rfl, ⟨req, id, apiKey, request, accepted⟩, plaintext, offered, beatId, heartbeat, admitted⟩
      rcases accepted.address with ⟨addr, zone, text, parsed, read, canonical⟩
      have sameKey : row.apiKeyHash = hashAPIKey platform salt plaintext ∧
          (offered = none ∨ offered = some row.staticPubkey) := by simpa [admits] using admitted
      refine ⟨req, id, apiKey, row.staticPubkey, addr, zone, plaintext, offered, beatId, request,
        congrArg Uuid.text accepted.id, accepted.operatorId.1, accepted.hostId.1, accepted.role.1, accepted.port.1,
        accepted.tlsName.1, accepted.staticPubkey.1, rfl, parsed, ?_, heartbeat, ?_, sameKey.2⟩
      · rw [← canonical]
        exact faithful.prints text row.ip read
      · rw [← sameKey.1, accepted.apiKeyHash]
    · intro entry listed
      rcases traced.published hour doc member entry listed with ⟨row, rfl, ⟨_, _, _, -, accepted⟩, -⟩
      rcases accepted.port with ⟨same, range⟩
      change 1 ≤ row.port ∧ row.port ≤ 65535
      rw [same]
      exact range
    · intro _
      have all : ∀ entry ∈ doc.relays.map parsedEntry, Client.WellFormed entry := by
        intro entry listed
        rcases List.mem_map.mp listed with ⟨published, inside, rfl⟩
        exact formed published inside
      rcases Client.mapM_candidate all with ⟨list, mapped, -⟩
      have accepted : Client.candidates (parsedAs doc (doc.relays.map parsedEntry)) = .ok list := mapped
      exact ⟨⟨list, accepted⟩, selectWith_ne_invalid accepted⟩
  · intro index draw plaintext offered progress found
    rw [move_advance found]
    have acts := @jobStep_acts platform salt faithful (authority platform salt moves).shared
      ⟨.heartbeat plaintext offered, progress⟩ draw
    generalize jobStep platform salt (authority platform salt moves).shared ⟨.heartbeat plaintext offered, progress⟩
      draw = result at acts ⊢
    rcases result with ⟨after, next⟩
    cases acts with
    | waits progress quiet => exact Or.inr rfl
    | provisions req id apiKey row task inactive accepted => cases task
    | beats plaintext offered id now task => exact Or.inl ⟨id, rfl⟩
    | sweeps seconds now reply ttl task => cases task
    | publishes hour task => cases task
    | stays => exact Or.inr rfl

namespace Sample

def address : IpAddr := .v4 ⟨[203, 0, 113, 10], rfl⟩

theorem length_firstBytes (bytes : Bytes) : ((bytes ++ List.replicate 32 0).take 32).length = 32 := by
  rw [List.length_take, List.length_append, List.length_replicate]
  omega

/-- A platform that knows one address; any other is refused.  A digest is the first bytes of its input. -/
def postgres : Platform where
  sha256 := fun bytes => ⟨(bytes ++ List.replicate 32 0).take 32, length_firstBytes bytes⟩
  parseAddr := fun text => if text = "203.0.113.10" then some (address, "") else none
  addrString := fun ip _ => if ip = address then "203.0.113.10" else "invalid IP"
  inetIn := fun text =>
    if text = "203.0.113.10" then .ok address else .error "invalid input syntax for type inet"
  host := fun _ => "203.0.113.10"

theorem faithful : postgres.Faithful where
  stores ip zone stored read := by
    by_cases same : ip = address
    · simp only [postgres, same, if_true, Except.ok.injEq] at read
      exact read.symm.trans same.symm
    · simp [postgres, same] at read
  prints text ip read := by
    simp only [postgres] at read
    split_ifs at read
    cases read
    decide +kernel

def request : ProvisionRequest where
  tlsName := "relay.example"
  ip := "203.0.113.10"
  port := 9443
  region := "eu"
  role := "guard"
  staticPubkey := hexOf (List.replicate 32 9)
  operatorId := "operator"
  hostId := "host"

def draw : Draw := ⟨.ok (List.replicate 32 5), ⟨List.replicate 16 1, rfl⟩, 0, none⟩

/-- The key that the relay is given: the random bytes in hexadecimal digits. -/
def apiKey : String := encodeToString (List.replicate 32 5)

/-- A relay is provisioned, beats with the key it was given and is published; a second heartbeat offers another
static key. -/
def relayLife : List (Move Job Draw) :=
  [.spawn ⟨.provision (some request), .started⟩, .advance 0 draw,
    .spawn ⟨.heartbeat apiKey none, .started⟩, .advance 1 draw,
    .spawn ⟨.heartbeat apiKey (some (List.replicate 32 8)), .started⟩, .advance 2 draw, .advance 2 draw,
    .spawn ⟨.publish firstHour, .started⟩, .advance 3 draw]

theorem relayLife_submits : ∀ next ∈ relayLife, Submits next := by
  simp [relayLife, Submits]

def published : Document :=
  documentFor firstHour [⟨(draw.id).text, "operator", "host", "guard", "203.0.113.10", 9443, "relay.example",
    hexOf (List.replicate 32 9)⟩]

theorem relayLife_published :
    ⟨.publish firstHour, .finished (.published (.ok published))⟩ ∈ (authority postgres "salt" relayLife).threads := by
  decide +kernel

end Sample

/-- The client accepts the document that lists the relay. -/
theorem published_entries_accepted_relay_life :
    ∃ all, Client.candidates (parsedAs Sample.published (Sample.published.relays.map parsedEntry)) = .ok all :=
  (((published_entries_accepted Sample.postgres "salt" Sample.faithful Sample.relayLife Sample.relayLife_submits).1
    Sample.firstHour Sample.published Sample.relayLife_published).2.2 (by decide)).1

end Authority
end QuietHop
