import QuietHop.Circuit.Authentic
import QuietHop.Circuit.CoverClient
import QuietHop.Relay.Connection
import QuietHop.Relay.HalfClose
import QuietHop.Relay.Rejection

namespace QuietHop
namespace Circuit

open Lib Net Registry Wire Client Relay

/-!
# The exit does what the user asked for

The client and the exit, with everything between them in the hands of an adversary: the
guard and the middle, their transports, every link, and the handshake messages.  The two
ends share nothing but a key, if they do, and what the client has sealed under it.

Towards the user this is not enough, since a cell of the guard or of the middle passes for
one of the exit.  Away from the user it is: an exit that holds the client's key dials the
destination that was asked for, once, and writes to it an initial part of what the user
wrote.
-/

/-! ## What a client seals for the exit -/

section Task

variable {Key : Type} {aead : NoiseAead Key} {env : TaskEnv}

theorem sealedLayers_voices (layers : Layers Key) {cell : Cell} (fits : cell.Fits) :
    Voices 1 [cell] layers.exit.sent (sealedLayers aead layers cell).exit.sent := by
  rw [sealedLayers_exit layers fits]
  exact push_voices layers.exit fits 0

/-- Some of the pieces have been sealed; all of them, if no write failed. -/
theorem sendChunks_voices (pieces : List Bytes) (small : ∀ piece ∈ pieces, piece.length ≤ cellPayloadLen)
    (io : TaskIo Key) :
    ∃ done, done <+: pieces ∧
      Voices 1 (done.map (Cell.mk .data)) io.layers.exit.sent
        ((Client.sendChunks aead env pieces).run io).2.layers.exit.sent ∧
      (((Client.sendChunks aead env pieces).run io).1 = .ok () -> done = pieces) := by
  induction pieces generalizing io with
  | nil => exact ⟨[], List.prefix_refl _, Voices.refl _, fun _ => rfl⟩
  | cons piece rest ih =>
      have fits : (Cell.mk .data piece).Fits := small piece (List.mem_cons_self ..)
      have first := @sealedLayers_voices Key aead io.layers _ fits
      have ran := @sendChunk_eq Key aead env piece fits io
      rw [Client.sendChunks]
      cases fault : env.fault io.outputs.length with
      | some count =>
          rw [fault] at ran
          rw [Program.run_bind_of_error ran]
          exact ⟨[piece], by simp, first, by rintro ⟨⟩⟩
      | none =>
          rw [fault] at ran
          rw [Program.run_bind_of_ok ran]
          rcases ih (fun other member => small other (List.mem_cons_of_mem _ member))
            (sealing aead none ⟨.data, piece⟩ io) with ⟨done, part, voices, all⟩
          refine ⟨piece :: done, ?_, first.trans voices, fun finished => ?_⟩
          · exact (List.prefix_cons_inj piece).mpr part
          · rw [all finished]

theorem peelInbound_sent (logs : PeerLogs) (layers : Layers Key) (wire : Bytes) :
    (layers.peelInbound logs wire).2.exit.sent = layers.exit.sent := by
  simp only [Layers.peelInbound]
  split
  · rfl
  · rfl
  simp only [Layers.peelMiddle]
  split
  · rfl
  · rfl
  next blob _ _ =>
  have kept : (peel logs.exit layers.exit blob 1).2.sent = layers.exit.sent := by
    rcases peel_tx logs.exit layers.exit blob 1 with ⟨count, moved⟩
    rw [moved]
  simp only [Layers.peelExit]
  split
  · next result =>
      rw [result] at kept
      exact kept
  · next result =>
      rw [result] at kept
      exact kept
  · next result =>
      rw [result] at kept
      exact kept

/-- A part of the task that seals nothing for the exit. -/
def KeepsSent (before after : TaskIo Key) : Prop :=
  after.layers.exit.sent = before.layers.exit.sent

instance : Std.Refl (@KeepsSent Key) where
  refl _ := rfl

instance : IsTrans (TaskIo Key) KeepsSent where
  trans _ _ _ head tail := Eq.trans tail head

theorem onFrame_sent (frame : Bytes) : Program.Keeps KeepsSent (onFrame env frame : TaskM Key Unit) := by
  have peels : Program.Keeps KeepsSent (onLayers .peeling (Layers.peelInbound env.logs · frame) : TaskM Key Cell) := by
    intro io
    have same := peelInbound_sent env.logs io.layers frame
    simp only [onLayers]
    split
    · next result =>
        rw [result] at same
        exact same
    · next result =>
        rw [result] at same
        exact same
  refine Program.keeps_bind peels fun cell => ?_
  rw [Client.onCell]
  split
  · split_ifs
    · exact Program.keeps_pure ()
    · intro io
      rw [writeUser_eq]
      rfl
  · exact Program.keeps_fail _
  · exact Program.keeps_fail _

/-- What a turn has read from the user. -/
def TaskReady.fromUser : TaskReady -> Bytes
  | .userRead bytes => bytes.take userReadBuf
  | _ => []

theorem payloads_data (pieces : List Bytes) : payloads (pieces.map (Cell.mk .data)) = pieces.flatten := by
  induction pieces with
  | nil => rfl
  | cons piece rest ih => rw [List.map_cons, payloads_cons, ih, if_pos rfl, List.flatten_cons]

theorem taskTurn_voices (ready : TaskReady) (io : TaskIo Key) :
    ∃ pieces : List Bytes, pieces.flatten <+: TaskReady.fromUser ready ∧
      Voices 1 (pieces.map (Cell.mk .data)) io.layers.exit.sent ((taskTurn aead env ready).run io).2.layers.exit.sent ∧
      (((taskTurn aead env ready).run io).1 = .ok () -> pieces.flatten = TaskReady.fromUser ready) := by
  cases ready with
  | userRead bytes =>
      rw [taskTurn]
      split_ifs with nothing
      · exact ⟨[], List.nil_prefix, Voices.refl _, by rintro ⟨⟩⟩
      · rcases @sendChunks_voices Key aead env (Stream.chunks cellPayloadLen (bytes.take userReadBuf))
          (fun piece member => Stream.length_le_of_mem_chunks member) io with ⟨done, part, voices, all⟩
        have whole := Stream.flatten_chunks (Nat.pos_of_ne_zero (by decide : cellPayloadLen ≠ 0)) (bytes.take userReadBuf)
        refine ⟨done, ?_, voices, fun finished => ?_⟩
        · rcases part with ⟨rest, pieces⟩
          rw [TaskReady.fromUser, ← whole, ← pieces, List.flatten_append]
          exact List.prefix_append _ _
        · rw [all finished, whole, TaskReady.fromUser]
  | linkRead bytes =>
      have same : Program.Keeps KeepsSent (taskTurn aead env (.linkRead bytes)) := by
        refine Program.keeps_bind Program.keeps_get fun io => ?_
        split_ifs
        · exact Program.keeps_fail _
        · refine Program.keeps_bind (Program.keeps_modify fun _ => rfl) fun _ => ?_
          split
          · exact Program.keeps_pure ()
          · exact onFrame_sent _
      exact ⟨[], List.nil_prefix, Voices.of_eq (same io), fun _ => rfl⟩
  | linkError => exact ⟨[], List.nil_prefix, Voices.refl _, fun _ => rfl⟩

theorem teardown_voices (reason : Break) (io : TaskIo Key) :
    Voices 1 [closing] io.layers.exit.sent (teardown aead env reason io).layers.exit.sent := by
  by_cases lost : reason = .linkWrite
  · rw [lost, teardown_lost]
    exact sealedLayers_voices io.layers closing_fits
  · rw [teardown_eq lost]
    exact sealedLayers_voices io.layers closing_fits

/-- The cells a client seals for the exit: CONNECT for the destination, and then data and the request to close. -/
structure Asked (args : DialArgs) (data : Bytes) (cells : List Cell) : Prop where
  shape : ∃ encoded tail, ConnectPayload.encode ⟨args.destHost, args.destPort⟩ = .ok encoded ∧
    cells = ⟨.connect, encoded⟩ :: tail ∧ (∀ cell ∈ tail, cell.cellType = .data ∨ cell.cellType = .closeRequest) ∧
    payloads tail = data

theorem Asked.append {args : DialArgs} {data : Bytes} {cells more : List Cell} (asked : Asked args data cells)
    (kinds : ∀ cell ∈ more, cell.cellType = .data ∨ cell.cellType = .closeRequest) :
    Asked args (data ++ payloads more) (cells ++ more) := by
  rcases asked.shape with ⟨encoded, tail, encodes, rfl, earlier, rfl⟩
  refine ⟨encoded, tail ++ more, encodes, rfl, ?_, payloads_append tail more⟩
  intro cell member
  rcases List.mem_append.mp member with old | new
  · exact earlier cell old
  · exact kinds cell new

/-- A running task asks for all that was read from the user; one that has ended, for an initial part of it. -/
structure Asks (args : DialArgs) (read : Bytes) (task : CircuitTask Key) : Prop where
  part : ∃ data, data <+: read ∧ Asked args data (cellsOf 1 task.io.layers.exit.sent)
  whole : task.ended = none -> Asked args read (cellsOf 1 task.io.layers.exit.sent)

theorem Asks.step {args : DialArgs} {read : Bytes} {task : CircuitTask Key} (asks : Asks args read task)
    (running : task.ended = none) (ready : TaskReady) :
    Asks args (read ++ TaskReady.fromUser ready) (task.step aead env ready) ∧
      task.io.layers.exit.sent <+: (task.step aead env ready).io.layers.exit.sent := by
  rcases @taskTurn_voices Key aead env ready task.io with ⟨pieces, part, voices, all⟩
  have kinds : ∀ cell ∈ pieces.map (Cell.mk .data), cell.cellType = .data ∨ cell.cellType = .closeRequest := by
    intro cell member
    rcases List.mem_map.mp member with ⟨piece, -, rfl⟩
    exact .inl rfl
  have grown := (asks.whole running).append kinds
  rw [payloads_data, ← voices.cells] at grown
  have bound : read ++ pieces.flatten <+: read ++ TaskReady.fromUser ready := (List.prefix_append_right_inj read).mpr part
  rcases result : (taskTurn aead env ready).run task.io with ⟨outcome, io⟩
  rw [result] at voices all grown
  simp only [CircuitTask.step, running, result]
  cases outcome with
  | ok value =>
      refine ⟨⟨⟨_, bound, grown⟩, fun _ => ?_⟩, voices.grows⟩
      rw [← all rfl]
      exact grown
  | error reason =>
      have closes := @teardown_voices Key aead env reason io
      have last := @Asked.append _ _ _ [closing] grown (by simp [closing])
      rw [← closes.cells] at last
      refine ⟨⟨⟨_, bound, ?_⟩, by rintro ⟨⟩⟩, voices.grows.trans closes.grows⟩
      simpa [closing] using last

end Task

/-! ## A call of `dial` -/

section Dial

variable {Secret Seed Initiator Key : Type} {nk : NoiseNk Secret Seed Initiator Key} {aead : NoiseAead Key}
  {args : DialArgs} {seed : Hop -> Seed} {env : TaskEnv}

/-- What has been read from the user, if this turn of the dialer reads from it. -/
def heardFrom (dialer : Dialer Initiator Key) (ready : TaskReady) : Bytes :=
  match dialer with
  | .streaming task => if task.ended.isNone then TaskReady.fromUser ready else []
  | _ => []

/-- What a dialer asks of the exit: nothing before it has reached it. -/
inductive Wants (args : DialArgs) (read : Bytes) : Dialer Initiator Key -> Prop where
  | early {dialer : Dialer Initiator Key} (absent : dialer.tx .exit = none) (unread : read = []) :
      Wants args read dialer
  | failed {error : DialError} {transports : Hop -> Option (Transport Key)} {outputs : List TaskOutput} {tx : Transport Key}
      (present : transports .exit = some tx)
      (asked : cellsOf 1 tx.sent = [] ∨ ∃ data, data <+: read ∧ Asked args data (cellsOf 1 tx.sent)) :
      Wants args read (.failed error transports outputs)
  | streams {task : CircuitTask Key} (asks : Asks args read task) : Wants args read (.streaming task)

/-- In short: the cells for the exit are those of the request, as far as it has got. -/
theorem Wants.cells {read : Bytes} {dialer : Dialer Initiator Key} (wants : Wants args read dialer) {tx : Transport Key}
    (found : dialer.tx .exit = some tx) :
    cellsOf 1 tx.sent = [] ∨ ∃ data, data <+: read ∧ Asked args data (cellsOf 1 tx.sent) := by
  cases wants with
  | early absent unread => cases absent.symm.trans found
  | failed present asked =>
      cases present.symm.trans found
      exact asked
  | streams asks =>
      cases found
      exact .inr asks.part

theorem fits_of_encode {payload : ConnectPayload} {encoded : Bytes} (encodes : payload.encode = .ok encoded) :
    (Cell.mk .connect encoded).Fits := by
  rw [ConnectPayload.encode] at encodes
  split_ifs at encodes with long
  cases encodes
  have bound := Nat.not_lt.mp long
  rw [maxConnectHostLen] at bound
  rw [Cell.Fits, List.length_append, List.length_append, BigEndian.length_ofNat, BigEndian.length_ofNat]
  have room : 4 ≤ cellPayloadLen := by decide
  omega

/-- The outcomes of `connect`: there is no CONNECT for the destination, or its frame is written, or a part of it. -/
inductive Connected (aead : NoiseAead Key) (args : DialArgs) (layers : Layers Key) (outputs : List TaskOutput) :
    Dialer Initiator Key -> Prop where
  | refused (error : DialError) : Connected aead args layers outputs (.failed error (fun hop => some (layers.tx hop)) outputs)
  | cut (encoded : Bytes) (count : Nat) (error : DialError)
      (encodes : ConnectPayload.encode ⟨args.destHost, args.destPort⟩ = .ok encoded) :
      Connected aead args layers outputs
        (.failed error (fun hop => some ((sealedLayers aead layers ⟨.connect, encoded⟩).tx hop))
          (outputs ++ [.cutLink (sealedFrame aead layers ⟨.connect, encoded⟩) count]))
  | streams (encoded : Bytes) (encodes : ConnectPayload.encode ⟨args.destHost, args.destPort⟩ = .ok encoded) :
      Connected aead args layers outputs
        (.streaming ⟨⟨sealedLayers aead layers ⟨.connect, encoded⟩, FrameAccumulator.new (linkCellLen clientLayers),
          outputs ++ [.wroteLink (sealedFrame aead layers ⟨.connect, encoded⟩)]⟩, none⟩)

theorem connect_connected (layers : Layers Key) (outputs : List TaskOutput) :
    Connected aead args layers outputs (Dialer.connect aead args env layers outputs : Dialer Initiator Key) := by
  cases encodes : ConnectPayload.encode ⟨args.destHost, args.destPort⟩ with
  | error error =>
      rw [Dialer.connect, sendConnect, encodes]
      exact .refused _
  | ok encoded =>
      have fits := fits_of_encode encodes
      have sealed : (onTransports (Layers.sealForExit aead · ⟨.connect, encoded⟩)).run ⟨layers, outputs⟩ =
          (.ok (sealedFrame aead layers ⟨.connect, encoded⟩), ⟨sealedLayers aead layers ⟨.connect, encoded⟩, outputs⟩) := by
        simp only [onTransports, sealForExit_eq layers fits]
      rw [Dialer.connect, sendConnect, encodes, Program.run_bind_of_ok rfl, Cell.new_of_le fits, Program.run_bind_of_ok rfl,
        Program.run_bind_of_ok sealed, send, Program.run_get_bind]
      cases env.fault outputs.length with
      | none => exact .streams encoded encodes
      | some count => exact .cut encoded count _ encodes

/-- All three hops are reached: CONNECT is sealed, unless the destination does not fit. -/
theorem wants_connect {layers : Layers Key} {outputs : List TaskOutput} (fresh : layers.exit.sent = []) :
    Wants args [] (Dialer.connect aead args env layers outputs : Dialer Initiator Key) := by
  have nothing : cellsOf 1 layers.exit.sent = [] := by
    rw [fresh]
    rfl
  have asked {encoded : Bytes} (encodes : ConnectPayload.encode ⟨args.destHost, args.destPort⟩ = .ok encoded) :
      Asked args [] (cellsOf 1 (sealedLayers aead layers ⟨.connect, encoded⟩).exit.sent) := by
    rw [(sealedLayers_voices layers (fits_of_encode encodes)).cells, nothing]
    exact ⟨encoded, [], encodes, rfl, by simp, rfl⟩
  have connected := @connect_connected Initiator Key aead args env layers outputs
  generalize (Dialer.connect aead args env layers outputs : Dialer Initiator Key) = dialer at connected ⊢
  cases connected with
  | refused error => exact .failed rfl (.inl nothing)
  | cut encoded count error encodes => exact .failed rfl (.inr ⟨[], List.prefix_refl _, asked encodes⟩)
  | streams encoded encodes => exact .streams ⟨⟨[], List.prefix_refl _, asked encodes⟩, fun _ => asked encodes⟩

theorem extend_absent (io : DialIo (Reached Key)) :
    (Dialer.extend nk aead args seed env io : Dialer Initiator Key).tx .exit = none := by
  rw [Dialer.extend]
  split <;> rfl

theorem wants_onReply {initiator : Initiator} {back : Bytes} {io : DialIo (Reached Key)} :
    Wants args [] (Dialer.onReply nk aead args seed env initiator back io) := by
  rw [Dialer.onReply]
  split
  · exact .early rfl rfl
  · split
    · exact .early (extend_absent _) rfl
    · exact wants_connect rfl

theorem wants_onGreeting {initiator : Initiator} {message2 : Bytes} {outputs : List TaskOutput} :
    Wants args [] (Dialer.onGreeting nk aead args seed env initiator message2 outputs) := by
  rw [Dialer.onGreeting]
  split
  · exact .early rfl rfl
  · exact .early (extend_absent _) rfl

theorem wants_start (tls : Except LinkError Unit) (fault : Nat -> Option Nat) :
    Wants args [] (Dialer.start nk args seed tls fault) := by
  rw [Dialer.start]
  split <;> exact .early rfl rfl

/-- One step of a dialer that has not reached the exit. -/
theorem wants_dialing {dialer : Dialer Initiator Key} (absent : dialer.tx .exit = none) (ready : TaskReady) :
    Wants args [] (dialer.step nk aead args seed env ready) := by
  cases dialer with
  | streaming task => cases absent
  | failed error transports outputs => exact .early absent rfl
  | greeting initiator inbound outputs =>
      refine Dialer.step_greeting nk aead args seed env (motive := Wants args []) ?_ ?_ ?_ ready
      · exact fun _ => .early rfl rfl
      · exact fun _ => .early rfl rfl
      · exact fun _ => wants_onGreeting
  | extending initiator inbound io =>
      refine Dialer.step_extending nk aead args seed env (motive := Wants args []) ?_ ?_ ?_ ready
      · exact fun _ => .early rfl rfl
      · exact fun _ => .early rfl rfl
      · exact fun _ => wants_onReply

/-- A session of the dialer goes on: its key stays, and its log grows. -/
def Continues (before after : Option (Transport Key)) : Prop :=
  forall tx, before = some tx -> ∃ later, after = some later ∧ later.key = tx.key ∧ tx.sent <+: later.sent

theorem Wants.step {read : Bytes} {dialer : Dialer Initiator Key} (wants : Wants args read dialer) (ready : TaskReady) :
    Wants args (read ++ heardFrom dialer ready) (dialer.step nk aead args seed env ready) ∧
      Continues (dialer.tx .exit) ((dialer.step nk aead args seed env ready).tx .exit) := by
  have stays (tx : Option (Transport Key)) : Continues tx tx := fun held found => ⟨held, found, rfl, List.prefix_refl _⟩
  cases wants with
  | early absent unread =>
      have silent : heardFrom dialer ready = [] := by
        cases dialer with
        | streaming task => cases absent
        | _ => rfl
      rw [unread, silent]
      refine ⟨wants_dialing absent ready, ?_⟩
      intro tx found
      cases absent.symm.trans found
  | failed present asked =>
      simp only [heardFrom, List.append_nil]
      exact ⟨.failed present asked, stays _⟩
  | @streams task asks =>
      cases ended : task.ended with
      | some reason =>
          have same : task.step aead env ready = task := by simp only [CircuitTask.step, ended]
          simp only [heardFrom, ended, Option.isNone_some, Bool.false_eq_true, if_false, List.append_nil, Dialer.step, same]
          exact ⟨.streams asks, stays _⟩
      | none =>
          rcases @Asks.step Key aead env args read task asks ended ready with ⟨onward, grows⟩
          simp only [heardFrom, ended, Option.isNone_none, if_true]
          refine ⟨.streams onward, ?_⟩
          intro tx found
          cases found
          exact ⟨_, rfl, task_keys task ready .exit, grows⟩

end Dial

/-! ## What an exit does with a cell -/

/-- The destination that a cell asks for. -/
def target (cell : Cell) : Option (String × UInt16) :=
  match cell.cellType, ConnectPayload.decode cell.payload with
  | .connect, .ok connect => some (connect.host, connect.port)
  | _, _ => none

namespace Asked

variable {args : DialArgs} {data : Bytes} {cells : List Cell}

theorem payloads (asked : Asked args data cells) : payloads cells = data := by
  rcases asked.shape with ⟨encoded, tail, encodes, rfl, kinds, rfl⟩
  rfl

/-- CONNECT is read back as the destination that was asked for, and nothing else asks for one. -/
theorem targets (asked : Asked args data cells) : cells.filterMap target = [(args.destHost, args.destPort)] := by
  rcases asked.shape with ⟨encoded, tail, encodes, rfl, kinds, -⟩
  have first : target ⟨.connect, encoded⟩ = some (args.destHost, args.destPort) := by
    simp only [target, ConnectPayload.decode_encode encodes]
  have rest : tail.filterMap target = [] := by
    rw [List.filterMap_eq_nil_iff]
    intro cell member
    rcases kinds cell member with data | closes
    · simp only [target, data]
    · simp only [target, closes]
  rw [List.filterMap_cons_some first, rest]

end Asked

section Exit

variable {Key : Type} {aead : NoiseAead Key} {cfg : RelayConfig} {env : Env}

/-- The record has grown by what is written to the destination and by destinations that are dialed. -/
structure Conveys (bytes : Bytes) (dials : List (String × UInt16)) (before after : CircuitIo Key) : Prop where
  dest : written .dest after.outputs = written .dest before.outputs ++ bytes
  dials : destinations after.outputs = destinations before.outputs ++ dials
  received : after.transport.received = before.transport.received

theorem Conveys.refl (io : CircuitIo Key) : Conveys [] [] io io :=
  ⟨(List.append_nil _).symm, (List.append_nil _).symm, rfl⟩

theorem conveys_of_adds {before after : CircuitIo Key} (adds : Adds (TowardsClient cfg) before after) :
    Conveys [] [] before after := by
  rcases adds.outputs with ⟨added, grown, towards⟩
  have silent : ∀ entry ∈ added, bytesTo .dest entry.2 = [] ∧ entry.2.destination = none := by
    intro entry member
    rcases towards entry member with ⟨frame, -, whole | ⟨count, cut⟩⟩
    · rw [whole]
      exact ⟨rfl, rfl⟩
    · rw [cut]
      exact ⟨rfl, rfl⟩
  refine ⟨?_, ?_, adds.received⟩
  · rw [grown, written, List.flatMap_append]
    exact congrArg (_ ++ ·) (List.flatMap_eq_nil_iff.mpr fun entry member => (silent entry member).1)
  · rw [grown, destinations, List.filterMap_append]
    exact congrArg (_ ++ ·) (List.filterMap_eq_nil_iff.mpr fun entry member => (silent entry member).2)

/-- A cell has been acted on: in full, if the circuit goes on, and in part otherwise. -/
def Acts (cell : Cell) (before : CircuitIo Key) (result : Except HandleError Control × CircuitIo Key) : Prop :=
  ∃ bytes dials, Conveys bytes dials before result.2 ∧ bytes <+: payloads [cell] ∧ dials <+: (target cell).toList ∧
    (result.1 = .ok .proceed -> bytes = payloads [cell] ∧ dials = (target cell).toList)

theorem acts_stop {cell : Cell} {before after : CircuitIo Key} {outcome : Except HandleError Control}
    (conveys : Conveys [] [] before after) (stops : outcome ≠ .ok .proceed) : Acts cell before (outcome, after) :=
  ⟨[], [], conveys, List.nil_prefix, List.nil_prefix, fun proceeds => absurd proceeds stops⟩

theorem acts_error {cell : Cell} {before after : CircuitIo Key} {reason : HandleError}
    (conveys : Conveys [] [] before after) : Acts cell before (.error reason, after) :=
  acts_stop conveys (by rintro ⟨⟩)

theorem onData_acts (payload : Bytes) (io : CircuitIo Key) :
    Acts ⟨.data, payload⟩ io ((onData cfg env payload).run io) := by
  have data : payloads [⟨.data, payload⟩] = payload := List.append_nil payload
  have none : (target ⟨.data, payload⟩).toList = [] := rfl
  rw [onData, Program.run_get_bind]
  split_ifs with empty connected
  · have nothing : payload = [] := List.isEmpty_iff.mp empty
    exact ⟨[], [], Conveys.refl io, List.nil_prefix, List.nil_prefix, fun _ => ⟨by rw [data, nothing], rfl⟩⟩
  · have wrote := @write_eq Key env .dest payload io
    cases fault : env.fault io.outputs.length with
    | none =>
        rw [fault] at wrote
        rw [Program.run_bind_of_ok wrote]
        refine ⟨payload, [], ⟨?_, ?_, rfl⟩, ?_, List.nil_prefix, fun _ => ⟨data.symm, none.symm⟩⟩
        · exact written_append _ _ _
        · simp [destinations, put, Output.destination]
        · rw [data]
    | some count =>
        rw [fault] at wrote
        rw [Program.run_bind_of_error wrote]
        refine ⟨payload.take count, [], ⟨?_, ?_, rfl⟩, ?_, List.nil_prefix, by rintro ⟨⟩⟩
        · exact written_append _ _ _
        · simp [destinations, put, Output.destination]
        · rw [data]
          exact List.take_prefix _ _
  · exact acts_error (Conveys.refl io)

/-- A dial that fails has or has not got as far as the destination. -/
theorem dialViaSocks5_fails {io after : CircuitIo Key} {proxyUrl host : String} {port : UInt16} {reason : HandleError}
    (failed : (dialViaSocks5 cfg env proxyUrl host port).run io = (.error reason, after)) :
    after = io ∨ after = { io with outputs := io.outputs ++ [(env.instant, .dialedDest host port)] } := by
  rw [dialViaSocks5] at failed
  by_cases refused : port ∉ cfg.allowedExitPorts
  · rw [if_pos refused] at failed
    exact .inl (Prod.mk.inj failed).2.symm
  rw [if_neg refused] at failed
  cases proxy : (env.parseUrl proxyUrl).bind proxyAddr with
  | none =>
      rw [proxy] at failed
      exact .inl (Prod.mk.inj failed).2.symm
  | some addr =>
      rw [proxy] at failed
      right
      cases socks : env.dialSocks <;> simp only [socks] at failed <;> exact (Prod.mk.inj failed).2.symm

theorem onConnect_acts (payload : Bytes) (io : CircuitIo Key) :
    Acts ⟨.connect, payload⟩ io ((onConnect cfg env payload).run io) := by
  cases wanted : dialFor cfg io.destLink payload with
  | error reason =>
      rw [onConnect_refuses wanted]
      exact acts_error (Conveys.refl io)
  | ok call =>
      rcases call with ⟨proxyUrl, connect⟩
      have asks : (target ⟨.connect, payload⟩).toList = [(connect.host, connect.port)] := by
        simp only [target, decode_of_dialFor wanted, Option.toList_some]
      have carried : payloads [⟨.connect, payload⟩] = [] := rfl
      rw [onConnect_dials wanted]
      rcases result : (dialViaSocks5 cfg env proxyUrl connect.host connect.port).run io with ⟨outcome, reached⟩
      cases outcome with
      | ok value =>
          rw [Program.run_bind_of_ok result, dialViaSocks5_ok result]
          refine ⟨[], [(connect.host, connect.port)], ⟨?_, ?_, rfl⟩, List.nil_prefix, ?_, fun _ => ⟨carried.symm, asks.symm⟩⟩
          · exact written_append _ _ _
          · exact List.filterMap_append
          · rw [asks]
      | error reason =>
          rw [Program.run_bind_of_error result]
          rcases dialViaSocks5_fails result with rfl | rfl
          · exact acts_error (Conveys.refl _)
          · refine ⟨[], [(connect.host, connect.port)], ⟨?_, ?_, rfl⟩, List.nil_prefix, ?_, by rintro ⟨⟩⟩
            · exact written_append _ _ _
            · exact List.filterMap_append
            · rw [asks]

/-- Whatever cell an exit meets. -/
theorem onCell_acts (isExit : cfg.role = .exit) (cell : Cell) (io : CircuitIo Key) :
    Acts cell io ((Relay.onCell aead cfg env cell).run io) := by
  rcases cell with ⟨kind, payload⟩
  cases kind with
  | connect =>
      simp only [Relay.onCell, isExit]
      exact onConnect_acts payload io
  | data =>
      simp only [Relay.onCell, isExit]
      exact onData_acts payload io
  | closeRequest =>
      simp only [Relay.onCell, onCloseRequest]
      have adds := @reply_sends Key aead cfg env .closeAck [] io
      rcases result : (reply aead cfg env .closeAck []).run io with ⟨outcome, after⟩
      rw [result] at adds
      have conveys := conveys_of_adds adds.toAdds
      cases outcome with
      | error reason =>
          rw [Program.run_bind_of_error result]
          exact acts_error conveys
      | ok value =>
          rw [Program.run_bind_of_ok result]
          exact acts_stop ⟨conveys.dest, conveys.dials, conveys.received⟩ (by rintro ⟨⟩)
  | closeAck =>
      simp only [Relay.onCell]
      exact acts_error (Conveys.refl io)
  | extend =>
      simp only [Relay.onCell, isExit]
      exact acts_error (Conveys.refl io)

/-! ### Turns -/

/-- What has become of the cells among the first messages of a log. -/
structure Obeys (log : List Sealed) (io : CircuitIo Key) : Prop where
  reached : io.transport.received ≤ log.length
  dest : written .dest io.outputs = payloads (cellsOf 1 (log.take io.transport.received))
  dials : destinations io.outputs = (cellsOf 1 (log.take io.transport.received)).filterMap target

/-- What has been done is an initial part of what the log asks for. -/
structure Owes (log : List Sealed) (io : CircuitIo Key) : Prop where
  dest : written .dest io.outputs <+: payloads (cellsOf 1 log)
  dials : destinations io.outputs <+: (cellsOf 1 log).filterMap target

theorem payloads_mono {fewer cells : List Cell} (part : fewer <+: cells) : payloads fewer <+: payloads cells := by
  rcases part with ⟨rest, rfl⟩
  rw [payloads_append]
  exact List.prefix_append _ _

variable {log : List Sealed} {io : CircuitIo Key}

theorem Obeys.owes (obeys : Obeys log io) : Owes log io := by
  have part : cellsOf 1 (log.take io.transport.received) <+: cellsOf 1 log := (List.take_prefix _ _).filterMap _
  refine ⟨?_, ?_⟩
  · rw [obeys.dest]
    exact payloads_mono part
  · rw [obeys.dials]
    exact part.filterMap target

theorem Obeys.grow (obeys : Obeys log io) {more : List Sealed} (grown : log <+: more) : Obeys more io := by
  rcases grown with ⟨rest, rfl⟩
  have same : (log ++ rest).take io.transport.received = log.take io.transport.received :=
    List.take_append_of_le_length obeys.reached
  refine ⟨?_, by rw [same]; exact obeys.dest, by rw [same]; exact obeys.dials⟩
  rw [List.length_append]
  exact Nat.le_trans obeys.reached (Nat.le_add_right _ _)

theorem Owes.grow (owes : Owes log io) {more : List Sealed} (grown : log <+: more) : Owes more io := by
  have part : cellsOf 1 log <+: cellsOf 1 more := grown.filterMap _
  exact ⟨owes.dest.trans (payloads_mono part), owes.dials.trans (part.filterMap target)⟩

/-- Whatever leaves the counter and the record of the destination alone. -/
theorem Obeys.calm (obeys : Obeys log io) {after : CircuitIo Key} (conveys : Conveys [] [] io after) : Obeys log after := by
  rcases conveys with ⟨dest, dials, received⟩
  rw [List.append_nil] at dest dials
  exact ⟨received ▸ obeys.reached, by rw [dest, received]; exact obeys.dest, by rw [dials, received]; exact obeys.dials⟩

theorem cellsOf_take {count : Nat} {plain wire : Bytes} {item : Peeled} (here : log[count]? = some ⟨plain, wire⟩)
    (read : unwrap plain 1 = .ok item) :
    cellsOf 1 (log.take (count + 1)) = cellsOf 1 (log.take count) ++ Peeled.cells [item] := by
  rw [List.take_add_one, here, cellsOf_append]
  cases item with
  | toMe cell => simp [cellsOf, cellOf, read, Peeled.cells]
  | forward blob => simp [cellsOf, cellOf, read, Peeled.cells]

theorem onDestRead_conveys (bytes : Bytes) (io : CircuitIo Key) :
    Conveys [] [] io ((onDestRead aead cfg env bytes).run io).2 := by
  rw [onDestRead]
  split_ifs
  · exact ⟨(List.append_nil _).symm, (List.append_nil _).symm, rfl⟩
  · have adds := @sendChunks_sends Key aead cfg env (Stream.chunks cellPayloadLen bytes) io
    rcases result : (Relay.sendChunks aead cfg env (Stream.chunks cellPayloadLen bytes)).run io with ⟨outcome, after⟩
    rw [result] at adds
    cases outcome with
    | error reason =>
        rw [Program.run_bind_of_error result]
        exact conveys_of_adds adds.toAdds
    | ok value =>
        rw [Program.run_bind_of_ok result]
        exact conveys_of_adds adds.toAdds

/-- Up to a cell everything asked for has been done. -/
structure Upto (log : List Sealed) (cell : Cell) (io : CircuitIo Key) : Prop where
  reached : io.transport.received ≤ log.length
  dest : written .dest io.outputs ++ payloads [cell] = payloads (cellsOf 1 (log.take io.transport.received))
  dials : destinations io.outputs ++ (target cell).toList = (cellsOf 1 (log.take io.transport.received)).filterMap target

theorem Obeys.counted (obeys : Obeys log io) {acc : FrameAccumulator} {instant : Instant} {cell : Cell}
    (reached : io.transport.received + 1 ≤ log.length)
    (next : cellsOf 1 (log.take (io.transport.received + 1)) = cellsOf 1 (log.take io.transport.received) ++ [cell]) :
    Upto log cell { io.counted with inbound := acc, outputs := io.outputs ++ [(instant, .acted cell)] } where
  reached := reached
  dest := by
    have same : written .dest (io.outputs ++ [(instant, .acted cell)]) = written .dest io.outputs :=
      (written_append _ _ _).trans (List.append_nil _)
    rw [same, obeys.dest, ← payloads_append, ← next]
    rfl
  dials := by
    have same : destinations (io.outputs ++ [(instant, .acted cell)]) = destinations io.outputs := by
      simp [destinations, Output.destination]
    have last : (target cell).toList = [cell].filterMap target := by
      cases asked : target cell <;> simp [asked]
    rw [same, obeys.dials, last, ← List.filterMap_append, ← next]
    rfl

/-- Acting on the cell brings the record up to date. -/
theorem Acts.obeys {cell : Cell} {result : Except HandleError Control × CircuitIo Key} (acts : Acts cell io result)
    (upto : Upto log cell io) : Owes log result.2 ∧ (result.1 = .ok .proceed -> Obeys log result.2) := by
  rcases acts with ⟨bytes, dials, conveys, part, some, whole⟩
  have all : cellsOf 1 (log.take io.transport.received) <+: cellsOf 1 log := (List.take_prefix _ _).filterMap _
  refine ⟨⟨?_, ?_⟩, fun proceeds => ?_⟩
  · rw [conveys.dest]
    refine ((List.prefix_append_right_inj _).mpr part).trans ?_
    rw [upto.dest]
    exact payloads_mono all
  · rw [conveys.dials]
    refine ((List.prefix_append_right_inj _).mpr some).trans ?_
    rw [upto.dials]
    exact all.filterMap target
  · rcases whole proceeds with ⟨rfl, rfl⟩
    refine ⟨?_, ?_, ?_⟩
    · rw [conveys.received]
      exact upto.reached
    · rw [conveys.dest, conveys.received]
      exact upto.dest
    · rw [conveys.dials, conveys.received]
      exact upto.dials

/-- A turn of the exit, as long as it can open nothing but the log. -/
theorem Obeys.turn (obeys : Obeys env.peer io) (isExit : cfg.role = .exit) (ready : Ready) :
    Owes env.peer ((Relay.turn aead cfg env ready).run io).2 ∧
      (((Relay.turn aead cfg env ready).run io).1 = .ok .proceed -> Obeys env.peer ((Relay.turn aead cfg env ready).run io).2) := by
  have settled {after : CircuitIo Key} {outcome : Except HandleError Control} (after_obeys : Obeys env.peer after) :
      Owes env.peer after ∧ (outcome = .ok .proceed -> Obeys env.peer after) :=
    ⟨after_obeys.owes, fun _ => after_obeys⟩
  have finds := takeIn_finds cfg env io ready
  rw [turn_run]
  generalize (takeIn cfg env io ready).1 = found, (takeIn cfg env io ready).2 = begun at finds ⊢
  cases finds with
  | idle => exact settled obeys
  | part acc => exact settled ⟨obeys.reached, obeys.dest, obeys.dials⟩
  | refused reason acc count => exact ⟨⟨obeys.owes.dest, obeys.owes.dials⟩, by rintro ⟨⟩⟩
  | nextPart acc later present same => exact settled ⟨obeys.reached, obeys.dest, obeys.dials⟩
  | nextFrame frame acc later present same =>
      have adds := @onNextFrame_sends Key aead cfg env frame { io with nextLink := some later }
      have linked : Obeys env.peer { io with nextLink := some later } := ⟨obeys.reached, obeys.dest, obeys.dials⟩
      exact settled (linked.calm (conveys_of_adds adds.toAdds))
  | destination bytes connected => exact settled (obeys.calm (onDestRead_conveys bytes io))
  | interrupted reason interrupts => exact ⟨obeys.owes, by rintro ⟨⟩⟩
  | peeled item acc plain wire sealed read legal =>
      rw [isExit] at read
      have next := cellsOf_take sealed read
      have reached : io.transport.received + 1 ≤ env.peer.length := (List.getElem?_eq_some_iff.mp sealed).1
      cases item with
      | forward blob =>
          -- Nothing peels to a frame for a hop behind the exit.
          rw [LegalFor, isExit] at legal
          cases legal
      | toMe cell =>
          have one : Peeled.cells [Peeled.toMe cell] = [cell] := rfl
          rw [one] at next
          have acts := @onCell_acts Key aead cfg env isExit cell
            { io.counted with inbound := acc, outputs := io.outputs ++ [(env.instant, .acted cell)] }
          rw [act_toMe]
          exact acts.obeys (Obeys.counted obeys reached next)

/-! ### Connections -/

/-- Nothing of the destination is in a record. -/
def Unused (outputs : List (Instant × Output)) : Prop :=
  written .dest outputs = [] ∧ destinations outputs = []

theorem Unused.append {outputs : List (Instant × Output)} (unused : Unused outputs) {entry : Instant × Output}
    (dest : bytesTo .dest entry.2 = []) (dials : entry.2.destination = none) : Unused (outputs ++ [entry]) := by
  refine ⟨?_, ?_⟩
  · rw [written_append, unused.1, dest]
    rfl
  · have last : destinations [entry] = [] := List.filterMap_cons_none dials
    rw [destinations, List.filterMap_append]
    exact (congrArg (_ ++ ·) last).trans ((List.append_nil _).trans unused.2)

/-- A connection that has done what the log asks for under this key.  `log` is all that anybody seals under it. -/
def Serves (key : Key) (log : List Sealed) : Connection Key -> Prop
  | .reading _ _ outputs => Unused outputs
  | .ended _ _ outputs => Unused outputs
  | .active _ loop => loop.io.transport.key = key -> Owes log loop.io ∧ (loop.ended = none -> Obeys log loop.io)

variable {key : Key} {ctx : ConnCtx} {conn : ConnEnv Key}

theorem Serves.grow {connection : Connection Key} (serves : Serves key log connection) {more : List Sealed}
    (grown : log <+: more) : Serves key more connection := by
  cases connection with
  | reading stage acc outputs => exact serves
  | ended machine result outputs => exact serves
  | active machine loop =>
      intro same
      rcases serves same with ⟨owes, obeys⟩
      exact ⟨owes.grow grown, fun running => (obeys running).grow grown⟩

/-- A connection before its circuit, and when that has just begun.  Nothing has been done for a destination. -/
inductive Begins (role : Role) : Connection Key -> Prop where
  | reading (stage : Stage) (acc : FrameAccumulator) {outputs : List (Instant × Output)} (unused : Unused outputs) :
      Begins role (.reading stage acc outputs)
  | ended (machine : Option Relay.Circuit) (result : Except HandleError Unit) {outputs : List (Instant × Output)}
      (unused : Unused outputs) : Begins role (.ended machine result outputs)
  | active (machine : Relay.Circuit) (answered : Key) {outputs : List (Instant × Output)} (unused : Unused outputs) :
      Begins role (.active machine (CircuitLoop.start role ⟨answered, [], 0⟩ outputs))

theorem begins_driveCircuit {outputs : List (Instant × Output)} (unused : Unused outputs) (message : Bytes) :
    Begins ctx.cfg.role (Connection.driveCircuit ctx conn message outputs) := by
  have noted := @Unused.append outputs unused (conn.env.instant, .responded message) rfl rfl
  simp only [Connection.driveCircuit]
  split
  · exact .ended _ _ noted
  split
  · exact .ended _ _ (noted.append rfl rfl)
  split
  · exact .ended _ _ (noted.append rfl rfl)
  · exact .active _ _ (noted.append rfl rfl)

theorem begins_complete {outputs : List (Instant × Output)} (unused : Unused outputs) (message : Bytes) (stage : Stage) :
    Begins ctx.cfg.role (Connection.complete ctx conn message outputs stage) := by
  cases stage with
  | protocol =>
      simp only [Connection.complete, Connection.handleConnection]
      split_ifs
      · exact .reading _ _ unused
      · rw [Connection.handleRelayConnection]
        split
        · exact .ended _ _ unused
        split_ifs
        · exact .reading _ _ (unused.append rfl rfl)
        · exact .ended _ _ unused
      · exact .ended _ _ unused
  | presentation =>
      simp only [Connection.complete, Connection.handleClientConnection]
      split
      · exact .ended _ _ (unused.append rfl rfl)
      · exact .reading _ _ (unused.append rfl rfl)
  | signal =>
      simp only [Connection.complete, Connection.onSignal]
      split_ifs
      · exact .ended _ _ unused
      · exact .reading _ _ unused
  | handshake => exact begins_driveCircuit unused message

theorem begins_onRead {outputs : List (Instant × Output)} (unused : Unused outputs) (stage : Stage)
    (acc : FrameAccumulator) (ready : Ready) :
    Begins ctx.cfg.role (Connection.onRead ctx conn stage acc outputs ready) := by
  have failed (error : IoError) : Begins ctx.cfg.role (Connection.readFailed stage error outputs : Connection Key) := by
    rw [Connection.readFailed]
    split_ifs <;> exact .ended _ _ unused
  cases ready with
  | inboundRead bytes =>
      rw [Connection.onRead]
      split_ifs
      · exact failed _
      split
      · exact .reading _ _ unused
      · exact begins_complete unused _ stage
  | inboundError error => exact failed error
  | timeout =>
      rw [Connection.onRead]
      split_ifs
      · exact .reading _ _ unused
      · exact .ended _ _ unused
  | _ => exact .reading _ _ unused

theorem Begins.serves {role : Role} {connection : Connection Key} (begins : Begins role connection) :
    Serves key log connection := by
  cases begins with
  | reading stage acc unused => exact unused
  | ended machine result unused => exact unused
  | active machine answered unused =>
      intro _
      have begun : Obeys log (CircuitLoop.start role ⟨answered, [], 0⟩ _).io := ⟨Nat.zero_le _, unused.1, unused.2⟩
      exact ⟨begun.owes, fun _ => begun⟩

/-- However the loop ends, the connection still holds it. -/
theorem follow_eq (machine : Relay.Circuit) (loop : CircuitLoop Key) :
    ∃ after, Connection.follow machine loop = .active after loop := by
  rw [Connection.follow]
  split
  · exact ⟨_, rfl⟩
  · exact ⟨_, rfl⟩
  · exact ⟨_, rfl⟩

/-- The key of a connection's session, once there is one. -/
def sessionKey : Connection Key -> Option Key
  | .active _ loop => some loop.io.transport.key
  | _ => none

theorem Serves.step {connection : Connection Key} (serves : Serves key log connection) (isExit : ctx.cfg.role = .exit)
    (peer : sessionKey connection = some key -> conn.env.peer = log) (ready : Ready) :
    Serves key log (connection.step aead ctx conn ready) := by
  cases connection with
  | reading stage acc outputs => exact (begins_onRead serves stage acc ready).serves
  | ended machine result outputs => exact serves
  | active machine loop =>
      rcases loop with ⟨io, ended⟩
      cases ended with
      | some result => exact serves
      | none =>
          simp only [Connection.step]
          rcases follow_eq machine (CircuitLoop.step aead ctx.cfg ⟨io, none⟩ conn.env ready) with ⟨after, followed⟩
          rw [followed]
          intro same
          rw [CircuitLoop.step, CircuitLoop.settle_io] at same
          have kept := @turn_key Key aead ctx.cfg conn.env io ready
          have mine : io.transport.key = key := kept.symm.trans same
          have known := peer (congrArg some mine)
          subst known
          have turned := @Obeys.turn Key aead ctx.cfg conn.env io ((serves mine).2 rfl) isExit ready
          rw [CircuitLoop.step, CircuitLoop.settle_io]
          exact ⟨turned.1, fun running => turned.2 (congrArg Prod.fst (CircuitLoop.eq_of_settle running))⟩

end Exit

/-! ## The two ends -/

structure Ends (Initiator Key : Type) where
  client : Dialer Initiator Key
  exit : Connection Key
  /-- Everything read from the user. -/
  userRead : Bytes

/-- A turn of one of the two.  All that it meets is chosen by the adversary, but for what the client has sealed. -/
inductive EndsMove (Key : Type) where
  | client (env : TaskEnv) (ready : TaskReady)
  | exit (conn : ConnEnv Key) (ready : Ready)

namespace Ends

variable {Secret Seed Initiator Key : Type} [DecidableEq Key] (nk : NoiseNk Secret Seed Initiator Key)
  (aead : NoiseAead Key) (args : DialArgs) (seed : Hop -> Seed) (ctx : ConnCtx) (key : Key)

/-- What the client has sealed for the exit under a key. -/
def sealedWith (state : Ends Initiator Key) : List Sealed :=
  match state.client.tx .exit with
  | none => []
  | some tx => if tx.key = key then tx.sent else []

/-- Under `key` the exit opens what the client has sealed.  Under any other key it opens what the adversary likes. -/
def met (state : Ends Initiator Key) (conn : ConnEnv Key) : ConnEnv Key :=
  if sessionKey state.exit = some key then { conn with env := { conn.env with peer := state.sealedWith key } } else conn

def step (state : Ends Initiator Key) : EndsMove Key -> Ends Initiator Key
  | .client env ready =>
      { state with
        client := state.client.step nk aead args seed env ready
        userRead := state.userRead ++ heardFrom state.client ready }
  | .exit conn ready =>
      { state with
        exit := state.exit.step aead { ctx with cfg := { ctx.cfg with role := .exit } } (state.met key conn) ready }

def run (tls : Except LinkError Unit) (fault : Nat -> Option Nat) (moves : List (EndsMove Key)) : Ends Initiator Key :=
  moves.foldl (fun state move => state.step nk aead args seed ctx key move)
    ⟨Dialer.start nk args seed tls fault, Connection.accept, []⟩

variable {nk aead args seed ctx key} {state : Ends Initiator Key}

/-- The exit has done what the client asks for, and the client asks for what the user wants. -/
structure Agrees (args : DialArgs) (key : Key) (state : Ends Initiator Key) : Prop where
  wants : Wants args state.userRead state.client
  serves : Serves key (state.sealedWith key) state.exit

theorem agrees_start (tls : Except LinkError Unit) (fault : Nat -> Option Nat) :
    Agrees args key (⟨Dialer.start nk args seed tls fault, Connection.accept, []⟩ : Ends Initiator Key) :=
  ⟨wants_start tls fault, rfl, rfl⟩

theorem sealedWith_grows {later : Ends Initiator Key} (continues : Continues (state.client.tx .exit) (later.client.tx .exit)) :
    state.sealedWith key <+: later.sealedWith key := by
  rw [sealedWith]
  cases held : state.client.tx .exit with
  | none => exact List.nil_prefix
  | some tx =>
      rcases continues tx held with ⟨after, found, same, grown⟩
      rw [sealedWith, found]
      simp only [same]
      split_ifs
      · exact grown
      · exact List.nil_prefix

theorem Agrees.step (agrees : Agrees args key state) (move : EndsMove Key) :
    Agrees args key (state.step nk aead args seed ctx key move) := by
  cases move with
  | client env ready =>
      rcases @Wants.step _ _ _ _ nk aead args seed env _ _ agrees.wants ready with ⟨wants, continues⟩
      exact ⟨wants, agrees.serves.grow (sealedWith_grows continues)⟩
  | exit conn ready =>
      refine ⟨agrees.wants, agrees.serves.step rfl (fun same => ?_) ready⟩
      rw [met, if_pos same]

/-- What has been sealed for the exit asks for no more than the user does. -/
theorem Agrees.bound (agrees : Agrees args key state) :
    payloads (cellsOf 1 (state.sealedWith key)) <+: state.userRead ∧
      (cellsOf 1 (state.sealedWith key)).filterMap target <+: [(args.destHost, args.destPort)] := by
  have nothing : payloads (cellsOf 1 []) <+: state.userRead ∧
      (cellsOf 1 []).filterMap target <+: [(args.destHost, args.destPort)] := ⟨List.nil_prefix, List.nil_prefix⟩
  rw [sealedWith]
  cases held : state.client.tx .exit with
  | none => exact nothing
  | some tx =>
      simp only
      split_ifs
      · rcases agrees.wants.cells held with silent | ⟨data, part, asked⟩
        · rw [silent]
          exact nothing
        · rw [asked.payloads, asked.targets]
          exact ⟨part, List.prefix_refl _⟩
      · exact nothing

end Ends

/-- Against an adversary that holds the guard and the middle and decides what arrives at the client and at the exit, in
any interleaving: an exit that shares its key with the client dials no destination but the one the user asked for and
dials it at most once, and what it writes there is an initial part of what the user wrote. -/
theorem exit_serves_user {Secret Seed Initiator Key : Type} [DecidableEq Key] (nk : NoiseNk Secret Seed Initiator Key)
    (aead : NoiseAead Key) (args : DialArgs) (seed : Hop -> Seed) (ctx : ConnCtx) (key : Key)
    (tls : Except LinkError Unit) (fault : Nat -> Option Nat) (moves : List (EndsMove Key))
    (shared : sessionKey (Ends.run nk aead args seed ctx key tls fault moves).exit = some key) :
    written .dest (Ends.run nk aead args seed ctx key tls fault moves).exit.outputs <+:
        (Ends.run nk aead args seed ctx key tls fault moves).userRead ∧
      destinations (Ends.run nk aead args seed ctx key tls fault moves).exit.outputs <+: [(args.destHost, args.destPort)] := by
  have agrees : Ends.Agrees args key (Ends.run nk aead args seed ctx key tls fault moves) :=
    List.foldlRecOn moves _ (Ends.agrees_start tls fault) fun _ holds move _ => holds.step move
  generalize Ends.run nk aead args seed ctx key tls fault moves = state at shared agrees
  rcases state with ⟨client, exit, userRead⟩
  cases exit with
  | reading stage acc outputs => cases shared
  | ended machine result outputs => cases shared
  | active machine loop =>
      have owes := (agrees.serves (Option.some.inj shared)).1
      rcases agrees.bound with ⟨data, dials⟩
      exact ⟨owes.dest.trans data, owes.dials.trans dials⟩

/-! A circuit on which the user sends one byte.  The adversary answers for the guard and the middle. -/

namespace EndsSample

/-- A message of a transport without a tag. -/
def sealedAs (plain : Bytes) : Sealed := ⟨plain, plain ++ List.replicate noiseTagLen 0⟩

/-- The answer to EXTEND, from the hop at this depth. -/
def answer (layers : Nat) : Sealed := sealedAs (toMePlain ⟨.extend, extendBackwardPayload (keyMessage zeroKey)⟩ layers)

def wrapped : Sealed := sealedAs (forwardPlain (answer 2).cipher)

def reads (guard middle : List Sealed) (bytes : Bytes) : EndsMove Unit :=
  .client ⟨⟨guard, middle, []⟩, fun _ => none⟩ (.linkRead bytes)

def exitReads (bytes : Bytes) : EndsMove Unit :=
  .exit (Sample.exitConn []) (.inboundRead bytes)

def dialing : List (EndsMove Unit) :=
  [reads [] [] (keyMessage zeroKey).val, reads [answer 3] [] (answer 3).cipher,
    reads [answer 3, wrapped] [answer 2] wrapped.cipher]

def opening : List (EndsMove Unit) :=
  [exitReads [protoRelay], exitReads [circuitStart], exitReads Sample.zeroMsg.val]

def destination : Bytes := [0, 7, 101, 120, 97, 109, 112, 108, 101, 1, 187]

def sending : List (EndsMove Unit) :=
  [.client ⟨⟨[], [], []⟩, fun _ => none⟩ (.userRead [120]), exitReads (Sample.frame ⟨.connect, destination⟩),
    exitReads (Sample.frame ⟨.data, [120]⟩)]

def final : Ends Key32 Unit :=
  Ends.run echoNk (Aead.zeroTag noiseTagLen) (sampleArgs zeroHex) (fun _ => ()) Sample.exitCtx () (.ok ()) (fun _ => none)
    (dialing ++ opening ++ sending)

end EndsSample

/-- The byte arrives, and it is what the theorem allows. -/
theorem exit_serves_user_byte :
    (sessionKey EndsSample.final.exit = some () ∧ written .dest EndsSample.final.exit.outputs = [120] ∧
      destinations EndsSample.final.exit.outputs = [("example", 443)]) ∧
    written .dest EndsSample.final.exit.outputs <+: EndsSample.final.userRead ∧
      destinations EndsSample.final.exit.outputs <+: [("example", 443)] := by
  have facts : sessionKey EndsSample.final.exit = some () ∧ written .dest EndsSample.final.exit.outputs = [120] ∧
      destinations EndsSample.final.exit.outputs = [("example", 443)] := by
    decide +kernel
  exact ⟨facts, exit_serves_user echoNk (Aead.zeroTag noiseTagLen) (sampleArgs zeroHex) (fun _ => ()) Sample.exitCtx ()
    (.ok ()) (fun _ => none) (EndsSample.dialing ++ EndsSample.opening ++ EndsSample.sending) facts.1⟩

end Circuit
end QuietHop
