import QuietHop.Circuit.Ends
import QuietHop.Circuit.Origin
import QuietHop.Relay.Token

namespace QuietHop
namespace Circuit

open Lib Net Registry Wire Client Relay

/-!
# The user hears the destination

The client and three relays that run their program, with everything between them in the
hands of an adversary: the links, the handshake messages, and what the relays are told to
do, since they may open whatever the adversary likes.  The client shares a key with each.

A cell of the guard or of the middle would pass for one of the exit, but neither of them
ever seals data.  So what the user is given is an initial part of what the destination has
sent.
-/

/-! ## A frame that arrives at the client -/

section Client

variable {Key : Type} {aead : NoiseAead Key} {env : TaskEnv}

/-- What a frame opens to, and what becomes of the exit's session. -/
inductive Opens (logs : PeerLogs) (before : Layers Key) : Except ClientError Cell × Layers Key -> Prop where
  | fails (reason : ClientError) (after : Layers Key) : Opens logs before (.error reason, after)
  | nearer {cell : Cell} {after : Layers Key} (sealed : Holds logs.guard 3 cell ∨ Holds logs.middle 2 cell)
      (same : after.exit = before.exit) : Opens logs before (.ok cell, after)
  | exit {cell : Cell} {after : Layers Key} {plain wire : Bytes}
      (next : logs.exit[before.exit.received]? = some ⟨plain, wire⟩) (read : unwrap plain 1 = .ok (.toMe cell))
      (moved : after.exit = { before.exit with received := before.exit.received + 1 }) : Opens logs before (.ok cell, after)

theorem peelInbound_opens (logs : PeerLogs) (layers : Layers Key) (wire : Bytes) :
    Opens logs layers (layers.peelInbound logs wire) := by
  simp only [Layers.peelInbound]
  split
  · exact .fails _ _
  · next peeled => exact .nearer (.inl (holds_of_peel peeled)) rfl
  simp only [Layers.peelMiddle]
  split
  · exact .fails _ _
  · next peeled => exact .nearer (.inr (holds_of_peel peeled)) rfl
  simp only [Layers.peelExit]
  split
  · exact .fails _ _
  · next peeled =>
      rcases peel_ok peeled with ⟨plain, here, read, moved, -⟩
      exact .exit here read moved
  · exact .fails _ _

/-! ## What the task hands over -/

/-- The guard and the middle have sealed no data. -/
structure Mute (logs : PeerLogs) : Prop where
  guard : NoData logs.guard 3
  middle : NoData logs.middle 2

/-- The user has been given the data among the first messages of the exit. -/
structure Hears (log : List Sealed) (io : TaskIo Key) : Prop where
  reached : io.layers.exit.received ≤ log.length
  heard : io.outputs.flatMap userBytes = payloads (cellsOf 1 (log.take io.layers.exit.received))

variable {log : List Sealed} {io : TaskIo Key}

theorem Hears.part (hears : Hears log io) : io.outputs.flatMap userBytes <+: payloads (cellsOf 1 log) := by
  rw [hears.heard]
  exact payloads_mono ((List.take_prefix _ _).filterMap _)

theorem Hears.grow (hears : Hears log io) {more : List Sealed} (grown : log <+: more) : Hears more io := by
  rcases grown with ⟨rest, rfl⟩
  refine ⟨?_, ?_⟩
  · rw [List.length_append]
    exact Nat.le_trans hears.reached (Nat.le_add_right _ _)
  · rw [List.take_append_of_le_length hears.reached]
    exact hears.heard

/-- Nothing is handed over, and nothing of the exit is opened. -/
def Deaf (before after : TaskIo Key) : Prop :=
  after.outputs.flatMap userBytes = before.outputs.flatMap userBytes ∧
    after.layers.exit.received = before.layers.exit.received

theorem Deaf.trans {first second third : TaskIo Key} (head : Deaf first second) (tail : Deaf second third) :
    Deaf first third :=
  ⟨tail.1.trans head.1, tail.2.trans head.2⟩

theorem Hears.calm (hears : Hears log io) {after : TaskIo Key} (deaf : Deaf io after) : Hears log after := by
  refine ⟨deaf.2 ▸ hears.reached, ?_⟩
  rw [deaf.1, deaf.2]
  exact hears.heard

theorem sealing_deaf {cell : Cell} (fits : cell.Fits) (fault : Option Nat) (io : TaskIo Key) :
    Deaf io (sealing aead fault cell io) := by
  refine ⟨userBytes_sealing aead fault cell io, ?_⟩
  rw [sealing, sealedLayers_exit io.layers fits]
  rfl

theorem sendChunks_deaf (pieces : List Bytes) (small : ∀ piece ∈ pieces, piece.length ≤ cellPayloadLen)
    (io : TaskIo Key) : Deaf io ((Client.sendChunks aead env pieces).run io).2 := by
  induction pieces generalizing io with
  | nil => exact ⟨rfl, rfl⟩
  | cons piece rest ih =>
      have fits : (Cell.mk .data piece).Fits := small piece (List.mem_cons_self ..)
      have ran := @sendChunk_eq Key aead env piece fits io
      have first := @sealing_deaf Key aead _ fits (env.fault io.outputs.length) io
      rw [Client.sendChunks]
      cases fault : env.fault io.outputs.length with
      | some count =>
          rw [fault] at ran first
          rw [Program.run_bind_of_error ran]
          exact first
      | none =>
          rw [fault] at ran first
          rw [Program.run_bind_of_ok ran]
          exact first.trans (ih (fun other member => small other (List.mem_cons_of_mem _ member)) _)

theorem teardown_deaf (reason : Break) (io : TaskIo Key) : Deaf io (teardown aead env reason io) := by
  by_cases lost : reason = .linkWrite
  · rw [lost, teardown_lost]
    refine ⟨rfl, ?_⟩
    rw [sealedLayers_exit io.layers closing_fits]
    rfl
  · rw [teardown_eq lost]
    exact sealing_deaf closing_fits _ io

/-- A cell without data is not handed over. -/
theorem onCell_deaf {cell : Cell} (silent : cell.cellType = .data -> cell.payload = []) (io : TaskIo Key) :
    ((Client.onCell env cell).run io).2 = io := by
  rw [Client.onCell]
  split
  · next isData =>
      rw [silent isData]
      rfl
  · rfl
  · rfl

/-- The data of a cell is handed over as far as the user's end takes it. -/
theorem onCell_hears {cell : Cell} (io : TaskIo Key) :
    ∃ bytes, ((Client.onCell env cell).run io).2.outputs.flatMap userBytes = io.outputs.flatMap userBytes ++ bytes ∧
      ((Client.onCell env cell).run io).2.layers = io.layers ∧ bytes <+: payloads [cell] ∧
      (((Client.onCell env cell).run io).1 = .ok () -> bytes = payloads [cell]) := by
  rcases cell with ⟨kind, payload⟩
  cases kind with
  | data =>
      have all : payloads [⟨.data, payload⟩] = payload := List.append_nil _
      rw [all, Client.onCell]
      simp only
      split_ifs with nothing
      · exact ⟨[], (List.append_nil _).symm, rfl, List.nil_prefix, fun _ => (List.isEmpty_iff.mp nothing).symm⟩
      · rw [writeUser_eq]
        refine ⟨putBytes (env.fault io.outputs.length) payload, ?_, rfl, (puts_putLink _ _).part, ?_⟩
        · rw [List.flatMap_append, List.flatMap_singleton, userBytes_putUser]
        · cases env.fault io.outputs.length with
          | none => exact fun _ => rfl
          | some count => rintro ⟨⟩
  | closeAck => exact ⟨[], (List.append_nil _).symm, rfl, List.nil_prefix, by rintro ⟨⟩⟩
  | _ => exact ⟨[], (List.append_nil _).symm, rfl, List.nil_prefix, by rintro ⟨⟩⟩

/-- How a turn of the task leaves the user. -/
def HeardOut (log : List Sealed) (result : Except Break Unit × TaskIo Key) : Prop :=
  result.2.outputs.flatMap userBytes <+: payloads (cellsOf 1 log) ∧ (result.1 = .ok () -> Hears log result.2)

theorem Hears.out (hears : Hears log io) (outcome : Except Break Unit) : HeardOut log (outcome, io) :=
  ⟨hears.part, fun _ => hears⟩

theorem Hears.onFrame (hears : Hears env.logs.exit io) (mute : Mute env.logs) (frame : Bytes) :
    HeardOut env.logs.exit ((onFrame env frame).run io) := by
  have opens := peelInbound_opens env.logs io.layers frame
  rcases opened : io.layers.peelInbound env.logs frame with ⟨outcome, after⟩
  rw [opened] at opens
  rw [Client.onFrame]
  cases opens with
  | fails reason =>
      rw [Program.run_bind_of_error (by simp only [onLayers, opened]; rfl)]
      exact ⟨hears.part, by rintro ⟨⟩⟩
  | @nearer cell _ sealed same =>
      have silent : cell.cellType = .data -> cell.payload = [] := by
        rcases sealed with guard | middle
        · exact mute.guard cell guard
        · exact mute.middle cell middle
      rw [Program.run_bind_of_ok (by simp only [onLayers, opened]; rfl)]
      have kept : Hears env.logs.exit { io with layers := after } := hears.calm ⟨rfl, by rw [same]⟩
      have still := @onCell_deaf Key env cell silent { io with layers := after }
      rw [HeardOut, still]
      exact kept.out _
  | @exit cell _ plain wire next read moved =>
      have reached : io.layers.exit.received + 1 ≤ env.logs.exit.length := (List.getElem?_eq_some_iff.mp next).1
      have one : payloads (cellsOf 1 (env.logs.exit.take (io.layers.exit.received + 1))) =
          io.outputs.flatMap userBytes ++ payloads [cell] := by
        rw [cellsOf_take next read, payloads_append, hears.heard]
        rfl
      rw [Program.run_bind_of_ok (by simp only [onLayers, opened]; rfl)]
      rcases @onCell_hears Key env cell { io with layers := after } with ⟨bytes, handed, layers, some, all⟩
      refine ⟨?_, fun goes => ⟨?_, ?_⟩⟩
      · rw [handed]
        refine ((List.prefix_append_right_inj _).mpr some).trans ?_
        rw [← one]
        exact payloads_mono ((List.take_prefix _ _).filterMap _)
      · rw [layers, moved]
        exact reached
      · rw [handed, all goes, layers, moved, one]

/-- One turn of the task. -/
theorem Hears.turn (hears : Hears env.logs.exit io) (mute : Mute env.logs) (ready : TaskReady) :
    HeardOut env.logs.exit ((taskTurn aead env ready).run io) := by
  cases ready with
  | userRead bytes =>
      rw [taskTurn]
      split_ifs
      · exact hears.out _
      · exact (hears.calm (sendChunks_deaf _ (fun piece member => Stream.length_le_of_mem_chunks member) io)).out _
  | linkRead bytes =>
      rw [taskTurn, Program.run_get_bind]
      split_ifs
      · exact hears.out _
      simp only [Program.run_modify_bind]
      have kept : Hears env.logs.exit { io with inbound := (io.inbound.receive bytes).2 } := ⟨hears.reached, hears.heard⟩
      split
      · exact kept.out _
      · exact kept.onFrame mute _
  | linkError => exact hears.out _

end Client

/-! ## The dialer -/

section Dial

variable {Secret Seed Initiator Key : Type} {nk : NoiseNk Secret Seed Initiator Key} {aead : NoiseAead Key}
  {args : DialArgs} {seed : Hop -> Seed} {env : TaskEnv}

/-- A part of `dial`, which hands nothing to the user. -/
def Unheard {Transports : Type} (before after : DialIo Transports) : Prop :=
  after.outputs.flatMap userBytes = before.outputs.flatMap userBytes

instance {Transports : Type} : Std.Refl (@Unheard Transports) where
  refl _ := rfl

instance {Transports : Type} : IsTrans (DialIo Transports) Unheard where
  trans _ _ _ head tail := Eq.trans tail head

theorem onTransports_unheard {Transports Value : Type} (operation : Transports -> Except ClientError Value × Transports) :
    Program.Keeps Unheard (onTransports operation) := by
  intro io
  simp only [onTransports]
  split <;> rfl

theorem send_unheard {Transports : Type} (bytes : Bytes) :
    Program.Keeps Unheard (send env bytes : DialM Transports Unit) := by
  have noted {output : TaskOutput} (silent : userBytes output = []) (io : DialIo Transports) :
      Unheard io { io with outputs := io.outputs ++ [output] } := by
    rw [Unheard, List.flatMap_append, List.flatMap_singleton, silent, List.append_nil]
  refine Program.keeps_bind Program.keeps_get fun io => ?_
  split
  · exact Program.keeps_modify (noted rfl)
  · exact Program.keeps_bind (Program.keeps_modify (noted rfl)) fun _ => Program.keeps_fail _

theorem initiate_unheard {Transports : Type} (key : Key32) (seed : Seed) :
    Program.Keeps Unheard (initiate nk key seed : DialM Transports _) := by
  rw [initiate]
  split
  · exact Program.keeps_fail _
  · exact Program.keeps_pure _

theorem conclude_unheard {Transports : Type} (initiator : Initiator) (message2 : Option NoiseMsg) :
    Program.Keeps Unheard (conclude nk initiator message2 : DialM Transports Key) := by
  rw [conclude]
  split
  · exact Program.keeps_fail _
  · exact Program.keeps_pure _

theorem greet_unheard (tls : Except LinkError Unit) (seed : Seed) : Program.Keeps Unheard (greet nk args env tls seed) := by
  refine Program.keeps_bind (Program.keeps_ofExcept _ _) fun _ => ?_
  refine Program.keeps_bind (Program.keeps_ofExcept _ _) fun key => ?_
  refine Program.keeps_bind (Program.keeps_ofExcept _ _) fun _ => ?_
  refine Program.keeps_bind (send_unheard _) fun _ => Program.keeps_bind (send_unheard _) fun _ => ?_
  refine Program.keeps_bind (send_unheard _) fun _ => Program.keeps_bind (initiate_unheard key seed) fun started => ?_
  exact Program.keeps_bind (send_unheard _) fun _ => Program.keeps_pure _

theorem extendHop_unheard (next : RelayEntry) (seed : Seed) :
    Program.Keeps Unheard (extendHop nk aead env next seed : DialM (Reached Key) _) := by
  refine Program.keeps_bind (Program.keeps_ofExcept _ _) fun key => ?_
  refine Program.keeps_bind (initiate_unheard key seed) fun started => ?_
  refine Program.keeps_bind (Program.keeps_ofExcept _ _) fun addr => ?_
  refine Program.keeps_bind (Program.keeps_ofExcept _ _) fun cell => ?_
  refine Program.keeps_bind (onTransports_unheard _) fun wire => ?_
  exact Program.keeps_bind (send_unheard wire) fun _ => Program.keeps_pure _

theorem extended_unheard (initiator : Initiator) (back : Bytes) :
    Program.Keeps Unheard (extended nk env initiator back : DialM (Reached Key) _) := by
  refine Program.keeps_bind (onTransports_unheard _) fun reply => ?_
  split_ifs
  · exact Program.keeps_fail _
  · exact Program.keeps_bind (Program.keeps_ofExcept _ _) fun message2 => conclude_unheard initiator _

/-- Before there is a circuit nothing has been handed over.  A task that holds the keys has handed over what the exit
has said. -/
def Listens (key : Hop -> Key) (log : List Sealed) : Dialer Initiator Key -> Prop
  | .streaming task => (forall hop, (task.io.layers.tx hop).key = key hop) ->
      task.io.outputs.flatMap userBytes <+: payloads (cellsOf 1 log) ∧ (task.ended = none -> Hears log task.io)
  | dialer => dialer.outputs.flatMap userBytes = []

variable {key : Hop -> Key} {log : List Sealed} {dialer : Dialer Initiator Key}

theorem Listens.grow (listens : Listens key log dialer) {more : List Sealed} (grown : log <+: more) :
    Listens key more dialer := by
  cases dialer with
  | streaming task =>
      intro same
      rcases listens same with ⟨part, hears⟩
      exact ⟨part.trans (payloads_mono (grown.filterMap _)), fun running => (hears running).grow grown⟩
  | _ => exact listens

theorem listens_start (tls : Except LinkError Unit) (fault : Nat -> Option Nat) :
    Listens key log (Dialer.start nk args seed tls fault) := by
  have unheard := @greet_unheard _ _ _ _ nk args ⟨⟨[], [], []⟩, fault⟩ tls (seed .guard) ⟨(), []⟩
  rw [Dialer.start]
  split
  · next result =>
      rw [result] at unheard
      exact unheard
  · next result =>
      rw [result] at unheard
      exact unheard

theorem listens_extend {io : DialIo (Reached Key)} (silent : io.outputs.flatMap userBytes = []) :
    Listens key log (Dialer.extend nk aead args seed env io) := by
  have unheard (next : RelayEntry × Seed) := @extendHop_unheard _ _ _ _ nk aead env next.1 next.2 io
  rw [Dialer.extend]
  split
  · next result => exact (result ▸ unheard _).trans silent
  · next result => exact (result ▸ unheard _).trans silent

theorem listens_connect {layers : Layers Key} {outputs : List TaskOutput} (fresh : layers.exit.received = 0)
    (silent : outputs.flatMap userBytes = []) :
    Listens key log (Dialer.connect aead args env layers outputs : Dialer Initiator Key) := by
  have noted {output : TaskOutput} (quiet : userBytes output = []) : (outputs ++ [output]).flatMap userBytes = [] := by
    rw [List.flatMap_append, List.flatMap_singleton, silent, quiet]
    rfl
  have connected := @connect_connected Initiator Key aead args env layers outputs
  generalize (Dialer.connect aead args env layers outputs : Dialer Initiator Key) = dialer at connected ⊢
  cases connected with
  | refused error => exact silent
  | cut encoded count error encodes => exact noted rfl
  | streams encoded encodes =>
      intro _
      have begun : Hears log (⟨sealedLayers aead layers ⟨.connect, encoded⟩, FrameAccumulator.new (linkCellLen clientLayers),
          outputs ++ [.wroteLink (sealedFrame aead layers ⟨.connect, encoded⟩)]⟩ : TaskIo Key) := by
        have none : (sealedLayers aead layers ⟨.connect, encoded⟩).exit.received = 0 := by
          rw [sealedLayers_exit layers (fits_of_encode encodes)]
          exact fresh
        refine ⟨none ▸ Nat.zero_le _, ?_⟩
        rw [none]
        exact noted rfl
      exact ⟨begun.part, fun _ => begun⟩

theorem listens_onGreeting {initiator : Initiator} {message2 : Bytes} {outputs : List TaskOutput}
    (silent : outputs.flatMap userBytes = []) :
    Listens key log (Dialer.onGreeting nk aead args seed env initiator message2 outputs) := by
  have unheard := @conclude_unheard _ _ _ _ nk Unit initiator (noiseMsg message2) ⟨(), outputs⟩
  rw [Dialer.onGreeting]
  split
  · next result =>
      rw [result] at unheard
      exact unheard.trans silent
  · next result =>
      rw [result] at unheard
      exact listens_extend (unheard.trans silent)

theorem listens_onReply {initiator : Initiator} {back : Bytes} {io : DialIo (Reached Key)}
    (silent : io.outputs.flatMap userBytes = []) :
    Listens key log (Dialer.onReply nk aead args seed env initiator back io) := by
  have unheard := @extended_unheard _ _ _ _ nk env initiator back io
  rw [Dialer.onReply]
  split
  · next result =>
      rw [result] at unheard
      exact unheard.trans silent
  · next result =>
      rw [result] at unheard
      split
      · exact listens_extend (unheard.trans silent)
      · exact listens_connect rfl (unheard.trans silent)

/-- One step of the client.  With the right keys it opens nothing but what the relays have sealed. -/
theorem Listens.step (listens : Listens key log dialer) (ready : TaskReady)
    (met : (forall hop, (dialer.tx hop).map Transport.key = some (key hop)) -> Mute env.logs ∧ env.logs.exit = log) :
    Listens key log (dialer.step nk aead args seed env ready) := by
  cases dialer with
  | streaming task =>
      rw [Dialer.step]
      intro same
      have mine (hop : Hop) : (task.io.layers.tx hop).key = key hop := (task_keys task ready hop).symm.trans (same hop)
      rcases met fun hop => congrArg some (mine hop) with ⟨mute, known⟩
      subst known
      rcases listens mine with ⟨part, hears⟩
      rcases task with ⟨io, ended⟩
      cases ended with
      | some reason => exact ⟨part, by rintro ⟨⟩⟩
      | none =>
          have turned := @Hears.turn Key aead env io (hears rfl) mute ready
          rcases result : (taskTurn aead env ready).run io with ⟨outcome, reached⟩
          rw [result] at turned
          simp only [CircuitTask.step, result]
          cases outcome with
          | ok value => exact ⟨turned.1, fun _ => turned.2 rfl⟩
          | error reason =>
              refine ⟨?_, by rintro ⟨⟩⟩
              rw [(teardown_deaf reason reached).1]
              exact turned.1
  | failed error transports outputs => exact listens
  | greeting initiator inbound outputs =>
      refine Dialer.step_greeting nk aead args seed env (motive := Listens key log) ?_ ?_ ?_ ready
      · exact fun _ => listens
      · exact fun _ => listens
      · exact fun _ => listens_onGreeting listens
  | extending initiator inbound io =>
      refine Dialer.step_extending nk aead args seed env (motive := Listens key log) ?_ ?_ ?_ ready
      · exact fun _ => listens
      · exact fun _ => listens
      · exact fun _ => listens_onReply listens

end Dial

/-! ## The relays -/

section Relays

variable {Key : Type} {aead : NoiseAead Key} {ctx : ConnCtx} {conn : ConnEnv Key}

/-- Everything the relay of a connection has sealed for the client. -/
def sealedBy : Connection Key -> List Sealed
  | .active _ loop => loop.io.transport.sent
  | _ => []

/-- What the relay reads from a destination in this turn. -/
def readFromDest (connection : Connection Key) (ready : Ready) : Bytes :=
  match connection with
  | .active _ loop => if loop.ended.isNone then fromDest loop.io ready else []
  | _ => []

/-- What a relay has told the client, when this has been read from a destination.  Only an exit has one. -/
structure Told (role : Role) (read : Bytes) (loop : CircuitLoop Key) : Prop where
  part : payloads (cellsOf (inboundLayers role) loop.io.transport.sent) <+: read
  whole : loop.ended = none -> payloads (cellsOf (inboundLayers role) loop.io.transport.sent) = read
  dest : role ≠ .exit -> loop.io.destLink = false

theorem Told.step {loop : CircuitLoop Key} {read : Bytes} (told : Told ctx.cfg.role read loop) (running : loop.ended = none)
    (ready : Ready) : Told ctx.cfg.role (read ++ fromDest loop.io ready) (loop.step aead ctx.cfg conn.env ready) ∧
      loop.io.transport.sent <+: (loop.step aead ctx.cfg conn.env ready).io.transport.sent := by
  rcases @turn_tells Key aead ctx.cfg conn.env loop.io ready with ⟨cells, speaks, part, whole⟩
  simp only [CircuitLoop.step, running]
  rcases result : (turn aead ctx.cfg conn.env ready).run loop.io with ⟨outcome, io⟩
  rw [result] at speaks whole
  have grown : payloads (cellsOf (inboundLayers ctx.cfg.role) (CircuitLoop.settle (outcome, io)).io.transport.sent) =
      read ++ payloads cells := by
    rw [CircuitLoop.settle_io, speaks.voices.cells, payloads_append, told.whole running]
  refine ⟨⟨?_, fun runs => ?_, fun relays => ?_⟩, ?_⟩
  · rw [grown]
    exact (List.prefix_append_right_inj read).mpr part
  · have goes := congrArg Prod.fst (CircuitLoop.eq_of_settle runs)
    rw [grown, whole _ goes]
  · rw [CircuitLoop.settle_io]
    by_contra linked
    have before := speaks.dest relays (Bool.eq_true_of_not_eq_false linked)
    rw [told.dest relays] at before
    cases before
  · rw [CircuitLoop.settle_io]
    exact speaks.voices.grows

/-- The same of a connection. -/
def Reports (role : Role) (read : Bytes) : Connection Key -> Prop
  | .reading _ _ outputs => Unused outputs ∧ read = []
  | .active _ loop => Told role read loop
  | .ended _ _ _ => read = []

theorem Begins.reports {role : Role} {connection : Connection Key} (begins : Begins role connection) :
    Reports role [] connection := by
  cases begins with
  | reading stage acc unused => exact ⟨unused, rfl⟩
  | ended machine result unused => rfl
  | active machine answered unused => exact ⟨List.prefix_refl _, fun _ => rfl, fun _ => rfl⟩

theorem Reports.step {connection : Connection Key} {read : Bytes} (reports : Reports ctx.cfg.role read connection)
    (ready : Ready) :
    Reports ctx.cfg.role (read ++ readFromDest connection ready) (connection.step aead ctx conn ready) ∧
      sealedBy connection <+: sealedBy (connection.step aead ctx conn ready) := by
  cases connection with
  | reading stage acc outputs =>
      rcases reports with ⟨unused, rfl⟩
      exact ⟨(begins_onRead unused stage acc ready).reports, List.nil_prefix⟩
  | ended machine result outputs =>
      refine ⟨?_, List.prefix_refl _⟩
      simp only [readFromDest, List.append_nil]
      exact reports
  | active machine loop =>
      cases ended : loop.ended with
      | some result =>
          simp only [readFromDest, ended, Option.isNone_some, Bool.false_eq_true, if_false, List.append_nil, Connection.step]
          exact ⟨reports, List.prefix_refl _⟩
      | none =>
          simp only [readFromDest, ended, Option.isNone_none, if_true, Connection.step]
          rcases follow_eq machine (loop.step aead ctx.cfg conn.env ready) with ⟨after, followed⟩
          rw [followed]
          exact Told.step reports ended ready

/-- A relay that is no exit reads nothing from a destination. -/
theorem Reports.unread {role : Role} {connection : Connection Key} {read : Bytes} (reports : Reports role read connection)
    (relays : role ≠ .exit) (ready : Ready) : readFromDest connection ready = [] := by
  cases connection with
  | active machine loop =>
      have none := Told.dest reports relays
      rw [readFromDest]
      split_ifs
      · cases ready with
        | destRead bytes => simp only [fromDest, none, Bool.false_eq_true, if_false]
        | _ => rfl
      · rfl
  | _ => rfl

theorem Reports.said {role : Role} {connection : Connection Key} {read : Bytes} (reports : Reports role read connection) :
    payloads (cellsOf (inboundLayers role) (sealedBy connection)) <+: read := by
  cases connection with
  | active machine loop => exact Told.part reports
  | _ => exact List.nil_prefix

/-- Cells whose data is nothing hold no data. -/
theorem noData_of_payloads {log : List Sealed} {layers : Nat} (nothing : payloads (cellsOf layers log) = []) :
    NoData log layers := by
  rintro cell ⟨message, member, read⟩ isData
  have found : cell ∈ cellsOf layers log := List.mem_filterMap.mpr ⟨message, member, by simp only [cellOf, read]⟩
  rcases List.append_of_mem found with ⟨before, after, split⟩
  rw [split, payloads_append, payloads_cons, if_pos isData] at nothing
  exact (List.append_eq_nil_iff.mp (List.append_eq_nil_iff.mp nothing).2).1

end Relays

/-! ## The parties -/

structure Parties (Initiator Key : Type) where
  client : Dialer Initiator Key
  relay : Hop -> Connection Key
  /-- Everything the exit has read from the destination. -/
  destRead : Bytes

/-- A turn of one party, and what it meets. -/
inductive PartyMove (Key : Type) where
  | client (env : TaskEnv) (ready : TaskReady)
  | relay (hop : Hop) (conn : ConnEnv Key) (ready : Ready)

namespace Parties

variable {Secret Seed Initiator Key : Type} [DecidableEq Key] (nk : NoiseNk Secret Seed Initiator Key)
  (aead : NoiseAead Key) (args : DialArgs) (seed : Hop -> Seed) (ctx : Hop -> ConnCtx) (key : Hop -> Key)

/-- What the client can open at a hop: under the key it shares with the relay, what that has sealed. -/
def logAt (state : Parties Initiator Key) (hop : Hop) (chosen : List Sealed) : List Sealed :=
  if (state.client.tx hop).map Transport.key = some (key hop) then sealedBy (state.relay hop) else chosen

def met (state : Parties Initiator Key) (env : TaskEnv) : TaskEnv :=
  { env with logs := ⟨state.logAt key .guard env.logs.guard, state.logAt key .middle env.logs.middle,
    state.logAt key .exit env.logs.exit⟩ }

/-- The program of a relay in its role. -/
def ctxAt (hop : Hop) : ConnCtx := { ctx hop with cfg := { (ctx hop).cfg with role := roleAt hop } }

def step (state : Parties Initiator Key) : PartyMove Key -> Parties Initiator Key
  | .client env ready => { state with client := state.client.step nk aead args seed (state.met key env) ready }
  | .relay hop conn ready =>
      { state with
        relay := Function.update state.relay hop ((state.relay hop).step aead (ctxAt ctx hop) conn ready)
        destRead := if hop = .exit then state.destRead ++ readFromDest (state.relay hop) ready else state.destRead }

def run (tls : Except LinkError Unit) (fault : Nat -> Option Nat) (moves : List (PartyMove Key)) : Parties Initiator Key :=
  moves.foldl (fun state move => state.step nk aead args seed ctx key move)
    ⟨Dialer.start nk args seed tls fault, fun _ => Connection.accept, []⟩

/-- What has been given to the user. -/
def userWritten (state : Parties Initiator Key) : Bytes := state.client.outputs.flatMap userBytes

/-- What has been read from a destination at a hop. -/
def readAt (state : Parties Initiator Key) (hop : Hop) : Bytes := if hop = .exit then state.destRead else []

variable {nk aead args seed ctx key} {state : Parties Initiator Key}

/-- Every relay has told the client what it has read, and the client has listened to the exit. -/
structure Honest (key : Hop -> Key) (state : Parties Initiator Key) : Prop where
  reports : forall hop, Reports (roleAt hop) (state.readAt hop) (state.relay hop)
  listens : Listens key (sealedBy (state.relay .exit)) state.client

omit [DecidableEq Key] in
theorem honest_start (tls : Except LinkError Unit) (fault : Nat -> Option Nat) :
    Honest key (⟨Dialer.start nk args seed tls fault, fun _ => Connection.accept, []⟩ : Parties Initiator Key) := by
  refine ⟨fun hop => ⟨⟨rfl, rfl⟩, ?_⟩, listens_start tls fault⟩
  rw [readAt, ite_self]

omit [DecidableEq Key] in
theorem Honest.mute (honest : Honest key state) : NoData (sealedBy (state.relay .guard)) 3 ∧
    NoData (sealedBy (state.relay .middle)) 2 :=
  ⟨noData_of_payloads (List.prefix_nil.mp (honest.reports .guard).said),
    noData_of_payloads (List.prefix_nil.mp (honest.reports .middle).said)⟩

theorem Honest.clientTurns (honest : Honest key state) (env : TaskEnv) (ready : TaskReady) :
    Honest key (state.step nk aead args seed ctx key (.client env ready)) := by
  refine ⟨honest.reports, honest.listens.step ready fun same => ⟨⟨?_, ?_⟩, ?_⟩⟩
  · rw [met, logAt, if_pos (same .guard)]
    exact honest.mute.1
  · simp only [met]
    rw [logAt, if_pos (same .middle)]
    exact honest.mute.2
  · simp only [met]
    rw [logAt, if_pos (same .exit)]

theorem Honest.relayTurns (honest : Honest key state) (hop : Hop) (conn : ConnEnv Key) (ready : Ready) :
    Honest key (state.step nk aead args seed ctx key (.relay hop conn ready)) := by
  have turned := @Reports.step Key aead (ctxAt ctx hop) conn _ _ (honest.reports hop) ready
  have silent : hop ≠ .exit -> readFromDest (state.relay hop) ready = [] := by
    intro other
    refine (honest.reports hop).unread ?_ ready
    cases hop with
    | exit => exact absurd rfl other
    | _ => rintro ⟨⟩
  refine ⟨fun at_ => ?_, ?_⟩
  · by_cases same : at_ = hop
    · subst same
      have read : (state.step nk aead args seed ctx key (.relay at_ conn ready)).readAt at_ =
          state.readAt at_ ++ readFromDest (state.relay at_) ready := by
        simp only [step, readAt]
        split_ifs with isExit
        · rfl
        · rw [silent isExit]
          rfl
      rw [read]
      simp only [step, Function.update_self]
      exact turned.1
    · have read : (state.step nk aead args seed ctx key (.relay hop conn ready)).readAt at_ = state.readAt at_ := by
        simp only [step, readAt]
        split_ifs with isExit moved
        · exact absurd (isExit.trans moved.symm) same
        · rfl
        · rfl
      rw [read]
      simp only [step, Function.update_of_ne same]
      exact honest.reports at_
  · by_cases isExit : hop = .exit
    · subst isExit
      simp only [step, Function.update_self]
      exact honest.listens.grow turned.2
    · simp only [step, Function.update_of_ne (Ne.symm isExit)]
      exact honest.listens

theorem Honest.step (honest : Honest key state) (move : PartyMove Key) :
    Honest key (state.step nk aead args seed ctx key move) := by
  cases move with
  | client env ready => exact honest.clientTurns env ready
  | relay hop conn ready => exact honest.relayTurns hop conn ready

end Parties

/-- Against an adversary that decides what every party reads, and what the relays are told, in any interleaving: a client
that shares its keys with a guard, a middle and an exit that run their program gives the user an initial part of what the
destination has sent. -/
theorem user_hears_destination {Secret Seed Initiator Key : Type} [DecidableEq Key]
    (nk : NoiseNk Secret Seed Initiator Key) (aead : NoiseAead Key) (args : DialArgs) (seed : Hop -> Seed)
    (ctx : Hop -> ConnCtx) (key : Hop -> Key) (tls : Except LinkError Unit) (fault : Nat -> Option Nat)
    (moves : List (PartyMove Key))
    (shared : forall hop, ((Parties.run nk aead args seed ctx key tls fault moves).client.tx hop).map Transport.key =
      some (key hop)) :
    (Parties.run nk aead args seed ctx key tls fault moves).userWritten <+:
      (Parties.run nk aead args seed ctx key tls fault moves).destRead := by
  have honest : Parties.Honest key (Parties.run nk aead args seed ctx key tls fault moves) :=
    List.foldlRecOn moves _ (Parties.honest_start tls fault) fun _ holds move _ => holds.step move
  generalize Parties.run nk aead args seed ctx key tls fault moves = state at shared honest
  rcases state with ⟨client, relay, destRead⟩
  have said := (honest.reports .exit).said
  have listens := honest.listens
  have silent (nothing : client.outputs.flatMap userBytes = []) :
      (⟨client, relay, destRead⟩ : Parties Initiator Key).userWritten <+: destRead := by
    rw [Parties.userWritten, nothing]
    exact List.nil_prefix
  cases client with
  | streaming task =>
      have mine (hop : Hop) : (task.io.layers.tx hop).key = key hop := Option.some.inj (shared hop)
      exact (listens mine).1.trans said
  | greeting initiator inbound outputs => exact silent listens
  | extending initiator inbound io => exact silent listens
  | failed error transports outputs => exact silent listens

/-! The destination sends one byte. -/

namespace HearsSample

open EndsSample

def listed (role addr : String) : RelayEntry := ⟨role, "operator-" ++ role, "host-" ++ role, role, addr, 443, role, zeroHex⟩

def network : Verified :=
  ⟨{ Sample.published.document with
    relays := [listed "guard" "10.1.0.1", listed "middle" "10.1.0.2", listed "exit" "10.1.0.3"] }, [], []⟩

def host (last : UInt8) : IpAddr := .v4 ⟨[10, 1, 0, last], rfl⟩

/-- A relay whose peer is the one before it. -/
def relayCtx (hop : Hop) : ConnCtx where
  cfg := Sample.exitConfig
  pubkey := Sample.pubkey
  sha256 := Sample.sha256
  peer := ⟨host (if hop = .exit then 2 else 1), 50000⟩

/-- A relay that may open these messages; every dial succeeds. -/
def conn (log : List Sealed) : ConnEnv Unit where
  env := { Sample.exitEnv [] with peer := log, instant := ⟨some network, 1791469800⟩, message2 := .ok (keyMessage zeroKey) }
  replay := ReplayWindow.new 3600
  clock := 0
  respond := fun _ => some ((), Sample.zeroMsg)

def reads (hop : Hop) (bytes : Bytes) : PartyMove Unit := .relay hop (conn []) (.inboundRead bytes)

/-- The relay at a hop is sent one cell. -/
def told (hop : Hop) (cell : Cell) : PartyMove Unit :=
  let message := sealedAs (toMePlain cell hop.layers)
  .relay hop (conn [message]) (.inboundRead message.cipher)

def extendTo (last : UInt8) : Cell := ⟨.extend, ExtendForward.encode ⟨⟨host last, 443⟩, Sample.zeroMsg⟩⟩

def clientReads (bytes : Bytes) : PartyMove Unit := .client ⟨⟨[], [], []⟩, fun _ => none⟩ (.linkRead bytes)

def nextReads (hop : Hop) (bytes : Bytes) : PartyMove Unit := .relay hop (conn []) (.nextRead bytes)

def guardUp : List (PartyMove Unit) :=
  [reads .guard [protoClient], reads .guard (Sample.mRaw ++ Sample.token), reads .guard Sample.zeroMsg.val,
    told .guard (extendTo 2)]

/-- A circuit begins at a relay that another relay dials. -/
def broughtUp (hop : Hop) (cell : Cell) : List (PartyMove Unit) :=
  [reads hop [protoRelay], reads hop [circuitStart], reads hop Sample.zeroMsg.val, told hop cell]

def said : Sealed := sealedAs (toMePlain ⟨.data, [120]⟩ 1)

def passed : Sealed := sealedAs (forwardPlain said.cipher)

def moves : List (PartyMove Unit) :=
  [clientReads (keyMessage zeroKey).val] ++ guardUp ++ broughtUp .middle (extendTo 3) ++
    broughtUp .exit ⟨.connect, destination⟩ ++
    [clientReads (answer 3).cipher, nextReads .guard (answer 2).cipher, clientReads wrapped.cipher,
      .relay .exit (conn []) (.destRead [120]), nextReads .middle said.cipher, nextReads .guard passed.cipher,
      clientReads (sealedAs (forwardPlain passed.cipher)).cipher]

def final : Parties Key32 Unit :=
  Parties.run echoNk (Aead.zeroTag noiseTagLen) (sampleArgs zeroHex) (fun _ => ()) relayCtx (fun _ => ()) (.ok ())
    (fun _ => none) moves

end HearsSample

/-- The byte reaches the user. -/
theorem user_hears_destination_byte :
    ((forall hop, (HearsSample.final.client.tx hop).map Transport.key = some ()) ∧ HearsSample.final.userWritten = [120]) ∧
      HearsSample.final.userWritten <+: HearsSample.final.destRead := by
  have facts : (∀ hop ∈ [Hop.guard, .middle, .exit], (HearsSample.final.client.tx hop).map Transport.key = some ()) ∧
      HearsSample.final.userWritten = [120] := by
    decide +kernel
  have shared (hop : Hop) : (HearsSample.final.client.tx hop).map Transport.key = some () :=
    facts.1 hop (by cases hop <;> simp)
  exact ⟨⟨shared, facts.2⟩, user_hears_destination echoNk (Aead.zeroTag noiseTagLen) (sampleArgs zeroHex) (fun _ => ())
    HearsSample.relayCtx (fun _ => ()) (.ok ()) (fun _ => none) HearsSample.moves shared⟩

end Circuit
end QuietHop
