import QuietHop.Relay.Connection
import QuietHop.Relay.Destination

namespace QuietHop
namespace Relay

open Lib Lib.Rsa Net Registry Wire

/-!
# Rejected inputs

A circuit can refuse an input for many reasons: the handshake message, the tag or the content of
a layer, the cell for its role, the payload of a cell, the hop or the port it names.  Whatever the
reason, the circuit fails and nothing leaves the relay any more.  So two runs that differ only in
what was refused, and in what came after it, look the same to the peer.

What is refused is described by the input and by the state that meets it, not by the error that
follows.
-/

/-! ## Frames -/

/-- The plaintext of a layer that cannot be read. -/
inductive BadPlain (layers : Nat) (plain : Bytes) : Prop where
  | disposition (notForMe : plain.getD 0 0 ≠ dispositionToMe) (notForward : plain.getD 0 0 ≠ dispositionForward)
  | innermost (forward : plain.getD 0 0 = dispositionForward) (last : layers = 1)
  | cell (e : CellError) (forMe : plain.getD 0 0 = dispositionToMe)
      (undecodable : Cell.decode ((plain.drop dispositionLen).take cellPlaintextLen) = .error e)
  | padding (forMe : plain.getD 0 0 = dispositionToMe)
      (dirty : (plain.drop (dispositionLen + cellPlaintextLen)).any (· ≠ 0) = true)

theorem BadPlain.unwrap_ne {layers : Nat} {plain : Bytes} (bad : BadPlain layers plain) (item : Peeled) :
    unwrap plain layers ≠ .ok item := by
  have different : dispositionForward ≠ dispositionToMe := by decide
  cases bad with
  | disposition notForMe notForward =>
      simp only [unwrap, if_neg notForMe, if_neg notForward]
      exact fun impossible => by cases impossible
  | innermost forward last =>
      simp only [unwrap, forward, if_neg different, if_true, if_pos last]
      exact fun impossible => by cases impossible
  | cell e forMe undecodable =>
      simp only [unwrap, if_pos forMe, undecodable]
      exact fun impossible => by cases impossible
  | padding forMe dirty =>
      simp only [unwrap, if_pos forMe, dirty, if_true]
      split
      · exact fun impossible => by cases impossible
      · exact fun impossible => by cases impossible

/-- The peer has not sealed the frame at this counter, or has sealed something unreadable. -/
def BadFrame (peer : List Sealed) (counter layers : Nat) (frame : Bytes) : Prop :=
  forall plain, peer[counter]? = some ⟨plain, frame⟩ -> BadPlain layers plain

section Circuit

variable {Key : Type} {aead : NoiseAead Key} {cfg : RelayConfig} {env : Env} {io : CircuitIo Key}

theorem BadFrame.peel {tx : Transport Key} {peer : List Sealed} {layers : Nat} {frame : Bytes}
    (bad : BadFrame peer tx.received layers frame) :
    ∃ reason next, Wire.peel peer tx frame layers = (.error reason, next) := by
  rcases result : Wire.peel peer tx frame layers with ⟨outcome, next⟩
  cases outcome with
  | error reason => exact ⟨reason, next, rfl⟩
  | ok item =>
      rcases peel_ok result with ⟨plain, sealed, read, -⟩
      exact absurd read ((bad plain sealed).unwrap_ne item)

/-! ## Cells -/

/-- Which role acts on which cell. -/
def Takes : CellType -> Role -> Prop
  | .extend, .guard => True
  | .extend, .middle => True
  | .connect, .exit => True
  | .data, .exit => True
  | .closeRequest, _ => True
  | _, _ => False

/-- A cell the circuit refuses in its present state. -/
inductive BadCell (cfg : RelayConfig) (env : Env) (io : CircuitIo Key) : Cell -> Prop where
  | role (cell : Cell) (illegal : ¬ Takes cell.cellType cfg.role) : BadCell cfg env io cell
  | extendAgain (payload : Bytes) (linked : io.nextLink ≠ none) : BadCell cfg env io ⟨.extend, payload⟩
  | extendPayload (payload : Bytes) (e : CellError) (malformed : ExtendForward.decode payload = .error e) :
      BadCell cfg env io ⟨.extend, payload⟩
  | unpublished (payload : Bytes) (extend : ExtendForward) (decoded : ExtendForward.decode payload = .ok extend)
      (unlisted : forall doc, usable env.instant.registry env.instant.now = some doc ->
        extendTarget doc cfg.role extend.nextHop = none) : BadCell cfg env io ⟨.extend, payload⟩
  | connectAgain (payload : Bytes) (connected : io.destLink = true) : BadCell cfg env io ⟨.connect, payload⟩
  | connectPayload (payload : Bytes) (e : CellError) (malformed : ConnectPayload.decode payload = .error e) :
      BadCell cfg env io ⟨.connect, payload⟩
  | port (payload : Bytes) (target : ConnectPayload) (decoded : ConnectPayload.decode payload = .ok target)
      (forbidden : target.port ∉ cfg.allowedExitPorts) : BadCell cfg env io ⟨.connect, payload⟩
  | unconnected (payload : Bytes) (full : payload ≠ []) (closed : io.destLink = false) :
      BadCell cfg env io ⟨.data, payload⟩

/-- A program that fails here without a trace. -/
def Refuses (program : CircuitM Key Control) (io : CircuitIo Key) : Prop :=
  ∃ reason, program.run io = (.error reason, io)

theorem refuses_fail (reason : HandleError) : Refuses (Program.fail reason : CircuitM Key Control) io :=
  ⟨reason, rfl⟩

/-- No role acts on a cell that is not meant for it. -/
theorem onCell_of_not_takes {cell : Cell} (illegal : ¬ Takes cell.cellType cfg.role) :
    ∃ reason, onCell aead cfg env cell = Program.fail reason := by
  rw [onCell]
  cases type : cell.cellType <;> cases role : cfg.role <;>
    first
    | exact ⟨_, rfl⟩
    | (rw [type, role] at illegal; exact absurd trivial illegal)

theorem onExtend_refuses {payload : Bytes} (bad : BadCell cfg env io ⟨.extend, payload⟩)
    (takes : Takes .extend cfg.role) : Refuses (onExtend aead cfg env payload) io := by
  cases linked : io.nextLink.isSome with
  | true =>
      refine ⟨.illegalCellForRole .extend cfg.role, ?_⟩
      simp only [onExtend, Program.run_get_bind, linked, if_true, Program.run_fail]
  | false =>
      simp only [Refuses, onExtend, Program.run_get_bind, linked, Bool.false_eq_true, if_false]
      cases bad with
      | role _ illegal => exact absurd takes illegal
      | extendAgain _ again => exact absurd (Option.not_isSome_iff_eq_none.mp (by simp [linked])) again
      | extendPayload _ e malformed =>
          rw [malformed]
          exact ⟨_, rfl⟩
      | unpublished _ extend decoded unlisted =>
          rw [decoded]
          cases out : outboundLen cfg.role with
          | none => exact ⟨_, rfl⟩
          | some frameLen =>
              have unopened : openNextLink cfg env extend frameLen =
                  (Program.fail (.peerHostnameMissing extend.nextHop) : CircuitM Key _) := by
                rw [openNextLink]
                split
                · rfl
                · next doc inForce => rw [unlisted doc inForce]
              refine ⟨.peerHostnameMissing extend.nextHop, ?_⟩
              have decodes : (Program.ofExcept .cell (.ok extend) : CircuitM Key ExtendForward).run io =
                (.ok extend, io) := rfl
              rw [Program.run_bind_of_ok decodes]
              simp only [unopened, Program.run_fail_bind]

theorem onConnect_refuses_bad {payload : Bytes} (bad : BadCell cfg env io ⟨.connect, payload⟩)
    (takes : Takes .connect cfg.role) : Refuses (onConnect cfg env payload) io := by
  cases wanted : dialFor cfg io.destLink payload with
  | error reason => exact ⟨reason, onConnect_refuses wanted⟩
  | ok call =>
      rcases call with ⟨proxyUrl, target⟩
      have decodes := decode_of_dialFor wanted
      cases bad with
      | role _ illegal => exact absurd takes illegal
      | connectAgain _ connected =>
          rw [dialFor, if_pos connected] at wanted
          cases wanted
      | connectPayload _ e malformed =>
          rw [malformed] at decodes
          cases decodes
      | port _ named decoded forbidden =>
          rw [decoded] at decodes
          cases decodes
          refine ⟨.exit .portNotAllowed, ?_⟩
          rw [onConnect_dials wanted, dialViaSocks5, if_pos forbidden]
          rfl

theorem onData_refuses {payload : Bytes} (bad : BadCell cfg env io ⟨.data, payload⟩) (takes : Takes .data cfg.role) :
    Refuses (onData cfg env payload) io := by
  cases bad with
  | role _ illegal => exact absurd takes illegal
  | unconnected _ full closed =>
      refine ⟨.illegalCellForRole .data cfg.role, ?_⟩
      have nonempty : payload.isEmpty = false := by simpa using full
      simp only [onData, Program.run_get_bind, nonempty, closed, Bool.false_eq_true, if_false, Program.run_fail]

theorem onCell_refuses {cell : Cell} (bad : BadCell cfg env io cell) : Refuses (onCell aead cfg env cell) io := by
  by_cases takes : Takes cell.cellType cfg.role
  swap
  · rcases @onCell_of_not_takes Key aead cfg env cell takes with ⟨reason, same⟩
    exact same ▸ refuses_fail reason
  rcases cell with ⟨cellType, payload⟩
  rcases @onCell_cases Key aead cfg env ⟨cellType, payload⟩ with
    ⟨rfl, -, same⟩ | ⟨rfl, -, same⟩ | ⟨rfl, -, same⟩ | ⟨rfl, same⟩ | ⟨reason, same⟩
  · exact same ▸ onExtend_refuses bad takes
  · exact same ▸ onConnect_refuses_bad bad takes
  · exact same ▸ onData_refuses bad takes
  · cases bad with
    | role _ illegal => exact absurd takes illegal
  · exact same ▸ refuses_fail reason

/-! ## Turns -/

/-- The outside sees it. -/
def Output.outward : Output -> Bool
  | .wrote _ _ => true
  | .cut _ _ _ => true
  | .dialedNext _ _ => true
  | .dialedDest _ _ => true
  | _ => false

/-- An input of the loop that the circuit refuses. -/
inductive Rejects (cfg : RelayConfig) (env : Env) (io : CircuitIo Key) (ready : Ready) : Prop where
  | frame (bytes frame : Bytes) (acc : FrameAccumulator) (isRead : ready = .inboundRead bytes) (arrived : bytes ≠ [])
      (complete : io.inbound.receive bytes = (some frame, acc))
      (bad : BadFrame env.peer io.transport.received (inboundLayers cfg.role) frame)
  | forward (blob : Bytes) (found : (takeIn cfg env io ready).1 = .peeled (.forward blob)) (unlinked : io.nextLink = none)
  | cell (cell : Cell) (found : (takeIn cfg env io ready).1 = .peeled (.toMe cell)) (bad : BadCell cfg env io cell)

/-- A cell that is bad stays so until something is done about the links. -/
theorem BadCell.congr {later : CircuitIo Key} {cell : Cell} (bad : BadCell cfg env io cell)
    (next : later.nextLink = io.nextLink) (dest : later.destLink = io.destLink) : BadCell cfg env later cell := by
  cases bad with
  | role _ illegal => exact .role _ illegal
  | extendAgain payload linked => exact .extendAgain payload (next ▸ linked)
  | extendPayload payload e malformed => exact .extendPayload payload e malformed
  | unpublished payload extend decoded unlisted => exact .unpublished payload extend decoded unlisted
  | connectAgain payload connected => exact .connectAgain payload (dest ▸ connected)
  | connectPayload payload e malformed => exact .connectPayload payload e malformed
  | port payload target decoded forbidden => exact .port payload target decoded forbidden
  | unconnected payload full closed => exact .unconnected payload full (dest ▸ closed)

theorem takeIn_bad {bytes frame : Bytes} {acc : FrameAccumulator} (arrived : bytes ≠ [])
    (complete : io.inbound.receive bytes = (some frame, acc))
    (bad : BadFrame env.peer io.transport.received (inboundLayers cfg.role) frame) :
    ∃ reason tx, takeIn cfg env io (.inboundRead bytes) =
      (.fails (.layer reason), { io with inbound := acc, transport := tx }) := by
  rcases bad.peel with ⟨reason, tx, refused⟩
  have nonempty : bytes.isEmpty = false := by simpa using arrived
  refine ⟨reason, tx, ?_⟩
  simp only [takeIn, nonempty, Bool.false_eq_true, if_false, takeInFrame, complete, refused]

/-- A refused input ends the turn with an error, and at most a note is added to the record. -/
theorem turn_rejects {ready : Ready} (rejects : Rejects cfg env io ready) :
    ∃ reason after notes, (turn aead cfg env ready).run io = (.error reason, after) ∧
      after.outputs = io.outputs ++ notes ∧ ∀ entry ∈ notes, entry.2.outward = false := by
  have finds := takeIn_finds cfg env io ready
  rw [turn_run]
  cases rejects with
  | frame bytes frame acc isRead arrived complete bad =>
      rcases takeIn_bad arrived complete bad with ⟨reason, tx, taken⟩
      rw [isRead, taken]
      exact ⟨.layer reason, _, [], rfl, (List.append_nil _).symm, by simp⟩
  | forward blob found unlinked =>
      rw [found] at finds ⊢
      generalize (takeIn cfg env io ready).2 = begun at finds ⊢
      cases finds with
      | peeled _ acc plain wire sealed read legal =>
          refine ⟨.forwardWithoutNextLink cfg.role, { io.counted with inbound := acc }, [], ?_,
            (List.append_nil io.outputs).symm, by simp⟩
          simp only [act, onPeeled, Program.run_get_bind, CircuitIo.counted, unlinked]
          rfl
  | cell cell found bad =>
      rw [found] at finds ⊢
      generalize (takeIn cfg env io ready).2 = begun at finds ⊢
      cases finds with
      | peeled _ acc plain wire sealed read legal =>
          rw [act_toMe]
          have noted : BadCell cfg env { io.counted with
              inbound := acc, outputs := io.outputs ++ [(env.instant, .acted cell)] } cell := bad.congr rfl rfl
          rcases @onCell_refuses Key aead cfg env _ cell noted with ⟨reason, refused⟩
          exact ⟨reason, _, [(env.instant, .acted cell)], refused, rfl, by simp [Output.outward]⟩

end Circuit

/-! ## Connections -/

namespace Connection

variable {Key : Type} {aead : NoiseAead Key} {ctx : ConnCtx}

/-- An input that the circuit of a connection refuses: a handshake message that is not answered, or
an input of the loop. -/
inductive Refused (ctx : ConnCtx) (connection : Connection Key) (conn : ConnEnv Key) (ready : Ready) : Prop where
  | handshake (acc rest : FrameAccumulator) (outputs : List (Instant × Output)) (bytes message : Bytes)
      (reads : connection = .reading .handshake acc outputs) (isRead : ready = .inboundRead bytes)
      (arrived : bytes ≠ []) (complete : acc.receive bytes = (some message, rest))
      (bad : conn.respond message = none)
  | circuit (machine : Circuit) (loop : CircuitLoop Key) (drives : connection = .active machine loop)
      (running : loop.ended = none) (rejects : Rejects ctx.cfg conn.env loop.io ready)

/-- While the loop runs the circuit is active. -/
def InStep : Connection Key -> Prop
  | active machine loop => loop.ended = none -> machine = ⟨.active⟩
  | _ => True

theorem complete_inStep (conn : ConnEnv Key) (message : Bytes) (outputs : List (Instant × Output)) (stage : Stage) :
    (complete ctx conn message outputs stage).InStep := by
  cases stage with
  | protocol =>
      simp only [complete, handleConnection, handleRelayConnection]
      split_ifs
      · trivial
      · split
        · trivial
        · split_ifs <;> trivial
      · trivial
  | presentation =>
      simp only [complete, handleClientConnection]
      split <;> trivial
  | signal =>
      simp only [complete, onSignal]
      split_ifs <;> trivial
  | handshake =>
      simp only [complete, driveCircuit]
      split
      · trivial
      split
      · trivial
      · exact fun _ => rfl

theorem onRead_inStep (conn : ConnEnv Key) (stage : Stage) (acc : FrameAccumulator) (outputs : List (Instant × Output))
    (ready : Ready) : (onRead ctx conn stage acc outputs ready).InStep := by
  have failed (error : IoError) : (readFailed stage error outputs : Connection Key).InStep := by
    rw [readFailed]
    split_ifs <;> trivial
  cases ready with
  | inboundRead bytes =>
      simp only [onRead]
      split_ifs
      · exact failed _
      split
      · trivial
      · exact complete_inStep conn _ outputs stage
  | inboundError error => exact failed error
  | timeout =>
      simp only [onRead]
      split_ifs <;> trivial
  | nextRead bytes => trivial
  | nextError error => trivial
  | destRead bytes => trivial
  | destError error => trivial

theorem step_inStep {connection : Connection Key} (inStep : connection.InStep) (conn : ConnEnv Key) (ready : Ready) :
    (connection.step aead ctx conn ready).InStep := by
  cases connection with
  | reading stage acc outputs => exact onRead_inStep conn stage acc outputs ready
  | active machine loop =>
      cases ended : loop.ended with
      | some result =>
          simp only [step, ended]
          exact inStep
      | none =>
          simp only [step, ended, follow]
          split
          · exact fun _ => inStep ended
          · next closed => exact fun running => by rw [closed] at running; cases running
          · next failed => exact fun running => by rw [failed] at running; cases running
  | ended machine result outputs => trivial

theorem run_inStep (turns : List (ConnEnv Key × Ready)) : (run aead ctx turns).InStep := by
  apply List.foldlRecOn turns _ trivial
  exact fun connection inStep next _ => step_inStep inStep next.1 next.2

/-- The circuit has failed, and since then the record has grown by notes only. -/
structure Silenced (before after : Connection Key) : Prop where
  failed : after.machine = some ⟨.failed⟩
  silent : ∃ notes, after.outputs = before.outputs ++ notes ∧ ∀ entry ∈ notes, entry.2.outward = false

theorem step_refused {connection : Connection Key} {conn : ConnEnv Key} {ready : Ready} (inStep : connection.InStep)
    (refused : Refused ctx connection conn ready) :
    Silenced connection (connection.step aead ctx conn ready) ∧
    forall later laterReady, (connection.step aead ctx conn ready).step aead ctx later laterReady =
      connection.step aead ctx conn ready := by
  cases refused with
  | handshake acc rest outputs bytes message reads isRead arrived complete bad =>
      have nonempty : bytes.isEmpty = false := by simpa using arrived
      have ends : connection.step aead ctx conn ready = .ended (some Circuit.new.fail) (.error .handshake)
          (outputs ++ [(conn.env.instant, .responded message)]) := by
        simp only [reads, isRead, step, onRead, nonempty, Bool.false_eq_true, if_false, complete]
        simp only [Connection.complete, driveCircuit, bad]
      rw [ends, reads]
      exact ⟨⟨rfl, _, rfl, by simp [Output.outward]⟩, fun _ _ => rfl⟩
  | circuit machine loop drives running rejects =>
      rcases @turn_rejects Key aead ctx.cfg conn.env loop.io ready rejects with
        ⟨reason, after, notes, ran, grown, silent⟩
      have ends : connection.step aead ctx conn ready = .active ⟨.failed⟩ ⟨after, some (.error reason)⟩ := by
        rw [drives] at inStep ⊢
        simp only [step, running, CircuitLoop.step, ran, CircuitLoop.settle, follow, inStep running]
        rfl
      rw [ends, drives]
      exact ⟨⟨rfl, notes, grown, silent⟩, fun _ _ => rfl⟩

theorem run_append (first second : List (ConnEnv Key × Ready)) :
    run aead ctx (first ++ second) =
      second.foldl (fun connection next => connection.step aead ctx next.1 next.2) (run aead ctx first) :=
  List.foldl_append

/-- Nothing after a refused input is processed. -/
theorem run_refused {accepted : List (ConnEnv Key × Ready)} {next : ConnEnv Key × Ready}
    (refused : Refused ctx (run aead ctx accepted) next.1 next.2) (later : List (ConnEnv Key × Ready)) :
    run aead ctx (accepted ++ next :: later) = (run aead ctx accepted).step aead ctx next.1 next.2 := by
  have final := (@step_refused Key aead ctx _ _ _ (run_inStep accepted) refused).2
  rw [run_append, List.foldl_cons]
  induction later with
  | nil => rfl
  | cons head tail ih => rw [List.foldl_cons, final, ih]

end Connection

/-- The bytes an entry puts on the wire to the peer. -/
def Output.toPeer : Output -> Bytes
  | .wrote .handshake bytes => bytes
  | .wrote .client bytes => bytes
  | .cut .handshake bytes written => bytes.take written
  | .cut .client bytes written => bytes.take written
  | _ => []

def peerBytes (outputs : List (Instant × Output)) : Bytes :=
  outputs.flatMap fun entry => entry.2.toPeer

theorem Output.toPeer_of_outward {output : Output} (inward : output.outward = false) : output.toPeer = [] := by
  cases output <;> first | rfl | cases inward

theorem Connection.Silenced.peerBytes {Key : Type} {before after : Connection Key} (silenced : Silenced before after) :
    Relay.peerBytes after.outputs = Relay.peerBytes before.outputs := by
  rcases silenced.silent with ⟨notes, grown, silent⟩
  have none : Relay.peerBytes notes = [] := by
    apply List.flatMap_eq_nil_iff.mpr
    exact fun entry member => Output.toPeer_of_outward (silent entry member)
  rw [grown, Relay.peerBytes, List.flatMap_append]
  exact (congrArg _ none).trans (List.append_nil _)

/-- Failures are silent and look alike.  After any run, take two inputs the relay refuses and
whatever may follow each.  The peer receives the same bytes in both runs, and none after the refused
input; nothing is written or dialed any more in either run; what follows is not processed; and the
circuit ends failed. -/
theorem rejections_look_alike {Key : Type} (aead : NoiseAead Key) (ctx : ConnCtx)
    (accepted : List (ConnEnv Key × Ready)) {first second : ConnEnv Key × Ready}
    (refused : (Connection.run aead ctx accepted).Refused ctx first.1 first.2)
    (alsoRefused : (Connection.run aead ctx accepted).Refused ctx second.1 second.2)
    (later afterwards : List (ConnEnv Key × Ready)) :
    peerBytes (Connection.run aead ctx (accepted ++ first :: later)).outputs =
      peerBytes (Connection.run aead ctx (accepted ++ second :: afterwards)).outputs ∧
    (Connection.run aead ctx accepted).Silenced (Connection.run aead ctx (accepted ++ first :: later)) ∧
    Connection.run aead ctx (accepted ++ first :: later) = Connection.run aead ctx (accepted ++ [first]) := by
  have inStep : (Connection.run aead ctx accepted).InStep := Connection.run_inStep accepted
  have silenced := (@Connection.step_refused Key aead ctx _ _ _ inStep refused).1
  have alsoSilenced := (@Connection.step_refused Key aead ctx _ _ _ inStep alsoRefused).1
  rw [Connection.run_refused refused, Connection.run_refused alsoRefused, Connection.run_refused refused]
  exact ⟨silenced.peerBytes.trans alsoSilenced.peerBytes.symm, silenced, rfl⟩

/-- A listed peer that sends the start signal and a handshake message gets its circuit. -/
theorem Connection.run_driven {Key : Type} {aead : NoiseAead Key} {ctx : ConnCtx} {conn : ConnEnv Key} {doc : Verified}
    {msg1 msg2 : NoiseMsg} {key : Key} (isExit : ctx.cfg.role = .exit)
    (inForce : usable conn.env.instant.registry conn.env.instant.now = some doc)
    (admits : admitsInbound doc .exit ctx.peer.ip = true) (answers : conn.respond msg1.val = some (key, msg2))
    (steady : forall count, conn.env.fault count = none) :
    run aead ctx [(conn, .inboundRead [protoRelay]), (conn, .inboundRead [circuitStart]), (conn, .inboundRead msg1.val)] =
      .active ⟨.active⟩ (CircuitLoop.start .exit ⟨key, [], 0⟩ [(conn.env.instant, .admitted ctx.peer.ip),
        (conn.env.instant, .responded msg1.val), (conn.env.instant, .wrote .handshake msg2.val)]) := by
  have nonempty : msg1.val.isEmpty = false := by
    rw [List.isEmpty_eq_false_iff, ← List.length_pos_iff, msg1.property]
    decide
  have admitted : (accept : Connection Key).step aead ctx conn (.inboundRead [protoRelay]) =
      await .signal [(conn.env.instant, .admitted ctx.peer.ip)] := by
    simp only [accept, await, step, onRead, List.isEmpty_cons, Bool.false_eq_true, if_false,
      FrameAccumulator.receive_new (show [protoRelay].length = Stage.protocol.length from rfl), complete,
      handleConnection, handleRelayConnection, isExit, inForce, admits]
    rfl
  have signalled : (await .signal [(conn.env.instant, .admitted ctx.peer.ip)] : Connection Key).step aead ctx conn
      (.inboundRead [circuitStart]) = await .handshake [(conn.env.instant, .admitted ctx.peer.ip)] := by
    rfl
  have answered : (await .handshake [(conn.env.instant, .admitted ctx.peer.ip)] : Connection Key).step aead ctx conn
      (.inboundRead msg1.val) = .active ⟨.active⟩ (CircuitLoop.start .exit ⟨key, [], 0⟩
        [(conn.env.instant, .admitted ctx.peer.ip), (conn.env.instant, .responded msg1.val),
          (conn.env.instant, .wrote .handshake msg2.val)]) := by
    simp only [await, step, onRead, nonempty, Bool.false_eq_true, if_false,
      FrameAccumulator.receive_new (show msg1.val.length = Stage.handshake.length from msg1.property), complete,
      driveCircuit, answers, steady, isExit]
    rfl
  simp only [run, List.foldl_cons, List.foldl_nil, admitted, signalled, answered]

namespace Sample

/-- A document that lists one middle relay. -/
def published : Verified :=
  ⟨⟨497630, "2026-10-08T14:00:00Z", "2026-10-08T15:00:00Z", "2026-10-08T20:00:00Z",
    [⟨"m1", "o1", "h1", "middle", "10.1.0.1", 9001, "m1.example", ""⟩]⟩, [], []⟩

def exitCtx : ConnCtx where
  cfg := exitConfig
  pubkey := ⟨0, 0⟩
  sha256 := fun _ => ⟨List.replicate 32 0, rfl⟩
  peer := ⟨.v4 ⟨[10, 1, 0, 1], rfl⟩, 50000⟩

def zeroMsg : NoiseMsg := ⟨List.replicate noiseMsgLen 0, List.length_replicate⟩

/-- Half an hour into the document, with a client that has sealed these cells. -/
def exitConn (cells : List Cell) : ConnEnv Unit where
  env := { exitEnv cells with instant := ⟨some published, 1791469800⟩ }
  replay := ReplayWindow.new 0
  clock := 0
  respond := fun _ => some ((), zeroMsg)

/-- The middle relay has brought up a circuit. -/
def broughtUp : List (ConnEnv Unit × Ready) :=
  [(exitConn [], .inboundRead [protoRelay]), (exitConn [], .inboundRead [circuitStart]),
    (exitConn [], .inboundRead zeroMsg.val)]

def drivenLoop : CircuitLoop Unit :=
  CircuitLoop.start .exit ⟨(), [], 0⟩ [((exitConn []).env.instant, .admitted exitCtx.peer.ip),
    ((exitConn []).env.instant, .responded zeroMsg.val),
    ((exitConn []).env.instant, .wrote .handshake zeroMsg.val)]

theorem run_broughtUp :
    Connection.run (Aead.zeroTag noiseTagLen) exitCtx broughtUp = .active ⟨.active⟩ drivenLoop := by
  have inForce : usable (some published) 1791469800 = some published := by decide +kernel
  have admits : admitsInbound published .exit exitCtx.peer.ip = true := by decide +kernel
  exact Connection.run_driven rfl inForce admits rfl fun _ => rfl

/-- A frame nobody sealed. -/
def forged : ConnEnv Unit × Ready := (exitConn [], .inboundRead (frame connectCell))

/-- An EXTEND cell, which no exit takes. -/
def misplaced : ConnEnv Unit × Ready :=
  (exitConn [⟨.extend, []⟩], .inboundRead (frame ⟨.extend, []⟩))

end Sample

/-- The two refused inputs are a frame that fails to open and a cell that opens and is illegal, with a
second frame after it. -/
theorem rejections_look_alike_forged_misplaced :
    peerBytes (Connection.run (Aead.zeroTag noiseTagLen) Sample.exitCtx (Sample.broughtUp ++ [Sample.forged])).outputs =
      peerBytes (Connection.run (Aead.zeroTag noiseTagLen) Sample.exitCtx
        (Sample.broughtUp ++ [Sample.misplaced, Sample.forged])).outputs := by
  have forged : (Connection.run (Aead.zeroTag noiseTagLen) Sample.exitCtx Sample.broughtUp).Refused Sample.exitCtx
      Sample.forged.1 Sample.forged.2 := by
    have complete := @FrameAccumulator.receive_new (inboundLen .exit) (Sample.frame Sample.connectCell)
      (by decide +kernel)
    refine .circuit _ _ Sample.run_broughtUp rfl (.frame _ _ _ rfl (by decide +kernel) complete ?_)
    exact fun plain absent => by cases absent
  have misplaced : (Connection.run (Aead.zeroTag noiseTagLen) Sample.exitCtx Sample.broughtUp).Refused Sample.exitCtx
      Sample.misplaced.1 Sample.misplaced.2 := by
    have found : (takeIn Sample.exitCtx.cfg Sample.misplaced.1.env Sample.drivenLoop.io Sample.misplaced.2).1 =
        .peeled (.toMe ⟨.extend, []⟩) := by decide +kernel
    exact .circuit _ _ Sample.run_broughtUp rfl (.cell _ found (.role _ id))
  exact (rejections_look_alike (Aead.zeroTag noiseTagLen) Sample.exitCtx Sample.broughtUp forged misplaced [] _).1

end Relay
end QuietHop
