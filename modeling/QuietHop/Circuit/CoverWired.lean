import QuietHop.Circuit.CoverClient
import QuietHop.Circuit.CoverExit
import QuietHop.Circuit.Integrity

namespace QuietHop
namespace Circuit

open Lib Wire Client Relay

/-!
# The frames of a covered circuit

Whatever cells the client and the exit seal, and in whatever order, every frame opens at its
reader as it was sealed.  Unlike the integrity of the stream this holds before CONNECT too, and
for an exit that has refused a cell.
-/

/-! ## Turns without cover cells -/

section Plain

variable {Key : Type} (aead : NoiseAead Key)

theorem sendEach_plain (env : TaskEnv) (chunks : List Bytes) :
    sendEach aead env.logs (chunks.map fun chunk => (env.fault, chunk)) = Client.sendChunks aead env chunks := by
  induction chunks with
  | nil => rfl
  | cons chunk rest step =>
      rw [List.map_cons, sendEach, step]
      rfl

theorem replyEach_plain (cfg : RelayConfig) (env : Env) (chunks : List Bytes) :
    replyEach aead cfg env (chunks.map fun chunk => (env.fault, chunk)) = Relay.sendChunks aead cfg env chunks := by
  induction chunks with
  | nil => rfl
  | cons chunk rest step =>
      rw [List.map_cons, replyEach, step]
      rfl

theorem userTurn_nil (env : TaskEnv) (bytes : Bytes) :
    userTurn aead env [] bytes = taskTurn aead env (.userRead bytes) := by
  rw [userTurn, padded_nil, sendEach_plain]
  rfl

theorem destTurn_nil (cfg : RelayConfig) (env : Env) (bytes : Bytes) :
    destTurn aead cfg env [] bytes = Relay.turn aead cfg env (.destRead bytes) := by
  rw [destTurn, padded_nil, replyEach_plain]
  rfl

end Plain

namespace World

variable {Key : Type} {aead : NoiseAead Key} {world : World Key} {ahead behind : List Peeled}

/-- The turn of a circuit without cover cells on a read from the user. -/
theorem stepUser_eq (bytes : Bytes) (fault : Nat -> Option Nat) :
    world.stepUser aead bytes fault = world.coveredUser aead [] bytes fault := by
  cases running : world.client.ended with
  | some reason => simp only [stepUser, coveredUser, running]
  | none =>
      simp only [stepUser, coveredUser, running, CircuitTask.step, userTurn_nil]
      rfl

/-- The turn of a circuit without cover cells on a read from the destination. -/
theorem stepExit_dest (cfg : Hop -> RelayConfig) (env : Env) (bytes : Bytes) :
    world.stepExit aead (cfg .exit) env (.dest bytes) = world.coveredDest aead cfg [] env bytes := by
  cases running : world.exit.loop.ended with
  | some result =>
      simp only [stepExit, coveredDest, running, Station.turn, Option.isNone_some, Bool.false_eq_true, false_and,
        if_false]
  | none =>
      simp only [stepExit, coveredDest, running, Station.turn, CircuitLoop.step, destTurn_nil, Option.isNone_none,
        true_and]

/-- Every frame on the links opens at its reader. -/
def Sound (aead : NoiseAead Key) (world : World Key) : Prop :=
  ∃ ahead behind, Wired aead world ahead behind

theorem Established.sound (established : world.Established) : Sound aead world := by
  refine ⟨[], [], {
    outward := ⟨[], [], established.flows⟩
    inward := fun _ => ⟨[], [], established.returns⟩
    fitting := established.fitting
    guardLinked := ⟨?_, established.guardDest⟩
    middleLinked := ⟨?_, established.middleDest⟩
    exitUnlinked := fun _ => established.exitNext }⟩
  · exact Option.isSome_iff_exists.mpr ⟨_, established.guardNext⟩
  · exact Option.isSome_iff_exists.mpr ⟨_, established.middleNext⟩

/-- What has been read at the two ends does not matter to the frames. -/
theorem Sound.noting (sound : Sound aead world) (userRead destRead : Bytes) (destClosed : Bool) :
    Sound aead { world with userRead := userRead, destRead := destRead, destClosed := destClosed } := by
  rcases sound with ⟨ahead, behind, wired⟩
  exact ⟨ahead, behind, wired.outward, wired.inward, wired.fitting, wired.guardLinked, wired.middleLinked,
    wired.exitUnlinked⟩

/-! ## The client -/

/-- A task that ends before it has written anything in this turn. -/
theorem Wired.clientLeaves (wired : Wired aead world ahead behind) (running : world.client.ended = none)
    {reason : Break} (sound : reason ≠ .linkWrite) (env : TaskEnv) :
    Sound aead { world with client := ⟨teardown aead env reason world.client.io, some reason⟩ } :=
  ⟨_, behind, @Wired.clientCloses Key aead world ahead behind wired running reason sound
    world.client.io.layers.guard.received world.client.io.layers.middle.received
    world.client.io.layers.exit.received world.client.io.inbound world.client.io.outputs rfl env world.clientTaken⟩

theorem Sound.clientSendsEach {logs : PeerLogs} {pieces : Pieces}
    (small : ∀ piece ∈ pieces, piece.2.length ≤ cellPayloadLen) (sound : Sound aead world)
    (running : world.client.ended = none) :
    (∃ io, (sendEach aead logs pieces).run world.client.io = (.ok (), io) ∧
      Sound aead { world with client := ⟨io, none⟩ }) ∨
    ∃ io, (sendEach aead logs pieces).run world.client.io = (.error .linkWrite, io) ∧
      Sound aead { world with client := ⟨io, some .linkWrite⟩ } := by
  induction pieces generalizing world with
  | nil =>
      refine .inl ⟨world.client.io, rfl, ?_⟩
      rw [← running]
      exact sound
  | cons piece rest step =>
      have small' := List.forall_mem_cons.mp small
      have fits : (Cell.mk .data piece.2).Fits := small'.1
      rcases sound with ⟨ahead, behind, wired⟩
      rcases piece with ⟨fault, chunk⟩
      rw [sendEach]
      have sent := @sendChunk_eq Key aead ⟨logs, fault⟩ chunk fits world.client.io
      cases broken : fault world.client.io.outputs.length with
      | none =>
          simp only [broken] at sent
          rw [Program.run_bind_of_ok sent]
          exact step small'.2 ⟨_, behind, wired.clientSeals running fits fun _ => rfl⟩ rfl
      | some count =>
          simp only [broken] at sent
          rw [Program.run_bind_of_error sent]
          exact .inr ⟨_, rfl, _, behind, wired.clientSeals running fits (by simp)⟩

/-- What is left of the task once it has sealed the cells of a turn. -/
theorem Sound.concludes (sound : Sound aead world) (running : world.client.ended = none) (env : TaskEnv)
    {pieces : Pieces} (small : ∀ piece ∈ pieces, piece.2.length ≤ cellPayloadLen) :
    Sound aead { world with
      client := concluded aead env ((sendEach aead env.logs pieces).run world.client.io) } := by
  rcases @Sound.clientSendsEach Key aead world env.logs pieces small sound running with ⟨io, ran, sent⟩ | ⟨io, ran, sent⟩
  · rw [ran]
    exact sent
  · rw [ran]
    rcases sent with ⟨ahead, behind, wired⟩
    simp only [concluded, teardown_lost]
    exact ⟨_, behind, wired.clientLoses .linkWrite⟩

theorem Sound.userTurns (sound : Sound aead world) (covers : List Nat) (bytes : Bytes) (fault : Nat -> Option Nat) :
    Sound aead (world.coveredUser aead covers bytes fault) := by
  cases running : world.client.ended with
  | some reason =>
      simp only [coveredUser, running]
      exact sound
  | none =>
      have after : Sound aead { world with
          client := concluded aead ⟨world.logs, fault⟩
            ((userTurn aead ⟨world.logs, fault⟩ covers bytes).run world.client.io) } := by
        rw [userTurn]
        split_ifs
        · rcases sound with ⟨ahead, behind, wired⟩
          exact wired.clientLeaves running (by simp) _
        · exact sound.concludes running ⟨world.logs, fault⟩
            (small_padded (fun _ => Stream.length_le_of_mem_chunks) 0 covers)
      simp only [coveredUser, running]
      exact after.noting _ world.destRead world.destClosed

theorem Sound.clientCovers (sound : Sound aead world) : Sound aead (world.coverClient aead) := by
  cases running : world.client.ended with
  | some reason =>
      simp only [coverClient, running]
      exact sound
  | none =>
      simp only [coverClient, running]
      exact sound.concludes running ⟨world.logs, noFault⟩ (by simp)

theorem Sound.connects (sound : Sound aead world) (running : world.client.ended = none) {cell : Cell}
    (fits : cell.Fits) : Sound aead (world.connecting aead cell) := by
  rcases sound with ⟨ahead, behind, wired⟩
  have sent := @Wired.clientSeals Key aead world ahead behind wired running _ fits none none fun _ => rfl
  rw [← running] at sent
  exact ⟨_, behind, sent⟩

/-- A cell that has been peeled is handed to the user, or ends the task. -/
theorem Wired.clientActs (wired : Wired aead world ahead behind) (running : world.client.ended = none)
    {guard middle exit taken : Nat} {inbound : FrameAccumulator} {later : List Peeled}
    (returns : ∃ guardItems middleItems, Inward.Returns aead
      { world.inward with
        client := ⟨true, guard, inbound, taken, world.userWritten⟩, middleRx := middle, exitRx := exit }
      guardItems middleItems later) (cell : Cell) (env : TaskEnv) :
    Sound aead { world with
      client := concluded aead env ((Client.onCell env cell).run
        ⟨reread world.client.io.layers guard middle exit, inbound, world.client.io.outputs⟩)
      clientTaken := taken } := by
  have closes (reason : Break) (sound : reason ≠ .linkWrite) (outputs : List TaskOutput)
      (toLink : outputs.flatMap linkBytes = world.linkWritten) : Sound aead { world with
        client := ⟨teardown aead env reason ⟨reread world.client.io.layers guard middle exit, inbound, outputs⟩,
          some reason⟩
        clientTaken := taken } :=
    ⟨_, behind, wired.clientCloses running sound toLink env taken⟩
  rw [Client.onCell]
  cases cell.cellType with
  | data =>
      simp only
      split_ifs
      · exact ⟨ahead, later, wired.clientTakes running rfl returns⟩
      rw [writeUser_eq]
      have silent (fault : Option Nat) :
          (world.client.io.outputs ++ [putUser fault cell.payload]).flatMap linkBytes = world.linkWritten := by
        simp [linkWritten]
      cases env.fault world.client.io.outputs.length with
      | none =>
          refine ⟨ahead, later, wired.clientTakes running (silent none) ?_⟩
          rcases returns with ⟨guardItems, middleItems, returns⟩
          exact ⟨guardItems, middleItems, { returns with client := returns.client.retarget rfl rfl rfl }⟩
      | some count => exact closes .userWrite (by simp) _ (silent (some count))
  | connect => exact closes _ (by simp) _ rfl
  | closeRequest => exact closes _ (by simp) _ rfl
  | closeAck => exact closes _ (by simp) _ rfl
  | extend => exact closes _ (by simp) _ rfl

theorem Sound.linkTurns (sound : Sound aead world) (count : Nat) (fault : Nat -> Option Nat) :
    Sound aead (world.stepLink aead count fault) := by
  cases running : world.client.ended with
  | some reason =>
      simp only [stepLink, running]
      exact sound
  | none =>
      rcases sound with ⟨ahead, behind, wired⟩
      rcases wired.inward running with ⟨guardItems, middleItems, returns⟩
      have turned := linkTurn_of_returns running returns count fault
      simp only [stepLink, running]
      generalize world.client.step aead ⟨world.logs, fault⟩ (.linkRead (world.clientBytes count)) = task at turned ⊢
      cases turned with
      | closed =>
          exact ⟨_, behind, @Wired.clientCloses Key aead world ahead behind wired running .linkRead (by simp)
            world.client.io.layers.guard.received world.client.io.layers.middle.received
            world.client.io.layers.exit.received world.client.io.inbound world.client.io.outputs rfl _ _⟩
      | reads reads => exact ⟨ahead, behind, wired.clientTakes running rfl reads⟩
      | opens first reads => exact wired.clientActs running reads _ _

theorem Sound.linkFails (sound : Sound aead world) (fault : Nat -> Option Nat) :
    Sound aead { world with client := world.client.step aead ⟨world.logs, fault⟩ .linkError } := by
  cases running : world.client.ended with
  | some reason =>
      simp only [CircuitTask.step, running]
      exact sound
  | none =>
      rcases sound with ⟨ahead, behind, wired⟩
      simp only [CircuitTask.step, running, taskTurn, Program.run_fail]
      exact wired.clientLeaves running (by simp) _

/-! ## The exit -/

/-- Nothing has been sealed and nothing put on the link towards the client. -/
structure Quiet (before after : CircuitIo Key) : Prop where
  transport : after.transport = before.transport
  inbound : after.inbound = before.inbound
  nextLink : after.nextLink = before.nextLink
  toClient : written .client after.outputs = written .client before.outputs

instance : Std.Refl (@Quiet Key) where
  refl _ := ⟨rfl, rfl, rfl, rfl⟩

instance : IsTrans (CircuitIo Key) Quiet where
  trans _ _ _ head tail := ⟨tail.transport.trans head.transport, tail.inbound.trans head.inbound,
    tail.nextLink.trans head.nextLink, tail.toClient.trans head.toClient⟩

section Quiet

variable {cfg : RelayConfig} {env : Env}

theorem emit_quiet {output : Output} (silent : bytesTo .client output = []) :
    Program.Keeps (@Quiet Key) (emit env output) := by
  apply Program.keeps_modify
  intro io
  exact ⟨rfl, rfl, rfl, by simp [silent]⟩

theorem writeDest_quiet (payload : Bytes) : Program.Keeps (@Quiet Key) (write env .dest payload) := by
  intro io
  rcases write_run env .dest payload io with ⟨output, piece, -, puts, ⟨ran, -⟩ | ran⟩
  · rw [ran]
    exact ⟨rfl, rfl, rfl, by simp [puts]⟩
  · rw [ran]
    exact ⟨rfl, rfl, rfl, by simp [puts]⟩

theorem setDest_quiet (open' : Bool) :
    Program.Keeps (@Quiet Key) (Program.modify fun io => { io with destLink := open' } : CircuitM Key Unit) := by
  apply Program.keeps_modify
  intro io
  exact ⟨rfl, rfl, rfl, rfl⟩

theorem onConnect_quiet (payload : Bytes) : Program.Keeps (@Quiet Key) (onConnect cfg env payload) := by
  refine Program.keeps_bind Program.keeps_get fun io => ?_
  split_ifs
  · exact Program.keeps_fail _
  refine Program.keeps_bind (Program.keeps_ofExcept _ _) fun connect => ?_
  cases cfg.decodoProxyUrl with
  | none => exact Program.keeps_fail _
  | some proxyUrl =>
      refine Program.keeps_bind ?_ fun _ => Program.keeps_bind (setDest_quiet true) fun _ => Program.keeps_pure _
      rw [dialViaSocks5]
      split_ifs
      · cases (env.parseUrl proxyUrl).bind proxyAddr with
        | none => exact Program.keeps_fail _
        | some addr =>
            refine Program.keeps_bind (emit_quiet rfl) fun _ => ?_
            cases env.dialSocks with
            | connected => exact Program.keeps_pure _
            | refused => exact Program.keeps_fail _
            | timedOut => exact Program.keeps_fail _
      · exact Program.keeps_fail _

theorem onData_quiet (payload : Bytes) : Program.Keeps (@Quiet Key) (onData cfg env payload) := by
  refine Program.keeps_bind Program.keeps_get fun io => ?_
  split_ifs
  · exact Program.keeps_pure _
  · exact Program.keeps_bind (writeDest_quiet payload) fun _ => Program.keeps_pure _
  · exact Program.keeps_fail _

/-- Only CLOSE_REQUEST makes the exit seal a cell. -/
theorem onCell_quiet (role : cfg.role = .exit) {cell : Cell} (other : cell.cellType ≠ .closeRequest) :
    Program.Keeps (@Quiet Key) (Relay.onCell aead cfg env cell) := by
  rw [Relay.onCell, role]
  cases kind : cell.cellType with
  | connect => exact onConnect_quiet cell.payload
  | data => exact onData_quiet cell.payload
  | closeRequest => exact absurd kind other
  | closeAck => exact Program.keeps_fail _
  | extend => exact Program.keeps_fail _

end Quiet

theorem settle_io (result : Except HandleError Control × CircuitIo Key) : (CircuitLoop.settle result).io = result.2 := by
  rcases result with ⟨reason | control, io⟩
  · rfl
  · cases control <;> rfl

/-- The exit has opened the frame that comes first, and has done something that seals nothing. -/
theorem Wired.exitQuiet (wired : Wired aead world ahead behind) (running : world.exit.loop.ended = none)
    {acc : FrameAccumulator} {taken : Nat} {io : CircuitIo Key} {guardItems middleItems later : List Peeled}
    (opened : Opened world acc io) (advanced : Advanced aead world acc taken guardItems middleItems later)
    {result : Except HandleError Control × CircuitIo Key} (quiet : Quiet io result.2) :
    Sound aead { world with exit := ⟨CircuitLoop.settle result, taken, world.exit.nextTaken⟩ } := by
  have transport := quiet.transport.trans opened.transport
  refine ⟨later, behind, @Wired.exitUnsealed Key aead world ahead behind later wired
    ⟨CircuitLoop.settle result, taken, world.exit.nextTaken⟩ guardItems middleItems ?_ (advanced _ ?_ ?_ rfl)⟩
  · exact {
      still := fun _ => running
      key := by simp only [settle_io, transport]
      sent := by simp only [settle_io, transport]
      toClient := by
        simp only [settle_io]
        exact quiet.toClient.trans (opened.quiet .client)
      unlinked := fun _ => by
        simp only [settle_io]
        exact quiet.nextLink.trans opened.nextLink }
  · simp only [Station.reader, settle_io, transport]
  · simp only [Station.reader, settle_io]
    exact quiet.inbound.trans opened.inbound

/-- The exit goes on, or ends, without having read or sealed anything. -/
theorem Sound.exitStays (sound : Sound aead world) (running : world.exit.loop.ended = none)
    (nextLink : Option FrameAccumulator) (destLink : Bool) (ended : Option (Except HandleError Unit))
    (unlinked : ended = none -> nextLink = world.exit.loop.io.nextLink) :
    Sound aead { world with
      exit := { world.exit with
        loop := ⟨{ world.exit.loop.io with nextLink := nextLink, destLink := destLink }, ended⟩ } } := by
  rcases sound with ⟨ahead, behind, wired⟩
  rcases wired.outward with ⟨guardItems, middleItems, flows⟩
  refine ⟨ahead, behind, @Wired.exitUnsealed Key aead world ahead behind ahead wired _ guardItems middleItems ?_ ?_⟩
  · exact ⟨fun _ => running, rfl, rfl, rfl, fun runs => (unlinked runs).trans (wired.exitUnlinked running)⟩
  · refine flows.exitMoves fun _ => ?_
    exact (flows.exit (by simp [World.outward, Station.reader, running])).retarget rfl rfl rfl

section Replies

variable {cfg : RelayConfig} {env : Env}

/-- The exit seals a cell for the client and writes its frame, or a part of it. -/
theorem Sound.exitReplies (sound : Sound aead world) (running : world.exit.loop.ended = none)
    (layers : inboundLayers cfg.role = 1) {cellType : CellType} {payload : Bytes}
    (small : payload.length ≤ cellPayloadLen) :
    (∃ io, (reply aead cfg env cellType payload).run world.exit.loop.io = (.ok (), io) ∧
      Sound aead { world with exit := { world.exit with loop := ⟨io, none⟩ } }) ∨
    ∃ reason io, (reply aead cfg env cellType payload).run world.exit.loop.io = (.error reason, io) ∧
      Sound aead { world with exit := { world.exit with loop := ⟨io, some (.error reason)⟩ } } := by
  rcases sound with ⟨ahead, behind, wired⟩
  have fits : (Cell.mk cellType payload).Fits := small
  have replied := @reply_eq Key aead cfg env layers cellType payload small world.exit.loop.io
  cases fault : env.fault world.exit.loop.io.outputs.length with
  | none =>
      rw [fault] at replied
      exact .inl ⟨_, replied, ahead, _, wired.exitReplies running fits fun _ => rfl⟩
  | some count =>
      rw [fault] at replied
      exact .inr ⟨_, _, replied, ahead, _, wired.exitReplies running fits (by simp)⟩

theorem Sound.exitRepliesEach (layers : inboundLayers cfg.role = 1) {pieces : Pieces}
    (small : ∀ piece ∈ pieces, piece.2.length ≤ cellPayloadLen) (sound : Sound aead world)
    (running : world.exit.loop.ended = none) :
    (∃ io, (replyEach aead cfg env pieces).run world.exit.loop.io = (.ok (), io) ∧
      Sound aead { world with exit := { world.exit with loop := ⟨io, none⟩ } }) ∨
    ∃ reason io, (replyEach aead cfg env pieces).run world.exit.loop.io = (.error reason, io) ∧
      Sound aead { world with exit := { world.exit with loop := ⟨io, some (.error reason)⟩ } } := by
  induction pieces generalizing world with
  | nil =>
      refine .inl ⟨world.exit.loop.io, rfl, ?_⟩
      rw [← running]
      exact sound
  | cons piece rest step =>
      rcases piece with ⟨fault, chunk⟩
      have small' := List.forall_mem_cons.mp small
      rw [replyEach]
      rcases @Sound.exitReplies Key aead world cfg { env with fault := fault } sound running layers .data chunk small'.1
        with ⟨io, ran, sent⟩ | ⟨reason, io, ran, sent⟩
      · rw [Program.run_bind_of_ok ran]
        exact step small'.2 sent rfl
      · rw [Program.run_bind_of_error ran]
        exact .inr ⟨reason, io, rfl, sent⟩

/-- What is left of the exit once it has sealed the cells of a turn. -/
theorem Sound.exitSettles (layers : inboundLayers cfg.role = 1) {pieces : Pieces}
    (small : ∀ piece ∈ pieces, piece.2.length ≤ cellPayloadLen) (sound : Sound aead world)
    (running : world.exit.loop.ended = none) :
    Sound aead { world with
      exit := { world.exit with
        loop := CircuitLoop.settle ((do
          replyEach aead cfg env pieces
          pure .proceed : CircuitM Key Control).run world.exit.loop.io) } } := by
  rcases @Sound.exitRepliesEach Key aead world cfg env layers pieces small sound running with
    ⟨io, ran, sent⟩ | ⟨reason, io, ran, sent⟩
  · rw [Program.run_bind_of_ok ran]
    exact sent
  · rw [Program.run_bind_of_error ran]
    exact sent

/-- The exit acts on the cell that comes first. -/
theorem Wired.exitActsOn (wired : Wired aead world ahead behind) (running : world.exit.loop.ended = none)
    {acc : FrameAccumulator} {taken : Nat} {io : CircuitIo Key} {guardItems middleItems later : List Peeled}
    (opened : Opened world acc io) (advanced : Advanced aead world acc taken guardItems middleItems later)
    (role : cfg.role = .exit) (cell : Cell) :
    Sound aead { world with
      exit := ⟨CircuitLoop.settle ((Relay.onCell aead cfg env cell).run io), taken, world.exit.nextTaken⟩ } := by
  by_cases isClose : cell.cellType = .closeRequest
  · have layers : inboundLayers cfg.role = 1 := by rw [role]; rfl
    -- The frame is opened first; the acknowledgement is then sealed by an exit that still runs.
    have taking : Sound aead { world with exit := ⟨⟨io, none⟩, taken, world.exit.nextTaken⟩ } :=
      @Wired.exitQuiet Key aead world ahead behind wired running _ _ _ _ _ _ opened advanced (.ok .proceed, io)
        ⟨rfl, rfl, rfl, rfl⟩
    have begun : Relay.onCell aead cfg env cell = onCloseRequest aead cfg env := by
      simp only [Relay.onCell, role, isClose]
    rw [begun, onCloseRequest]
    rcases @Sound.exitReplies Key aead _ cfg env taking rfl layers .closeAck [] (Nat.zero_le _) with
      ⟨reached, ran, sent⟩ | ⟨reason, reached, ran, sent⟩
    · rw [Program.run_bind_of_ok ran]
      exact sent.exitStays rfl none false (some (.ok ())) (by simp)
    · rw [Program.run_bind_of_error ran]
      exact sent
  · exact wired.exitQuiet running opened advanced (onCell_quiet role isClose io)

end Replies

theorem Sound.exitInbound (sound : Sound aead world) (running : world.exit.loop.ended = none) (cfg : RelayConfig)
    (env : Env) (count : Nat) :
    Sound aead { world with
      exit := world.exit.turn aead { cfg with role := .exit } { env with peer := world.client.io.layers.exit.sent }
        (written .next world.middle.loop.io.outputs) [] (.inbound count) } := by
  rcases @turn_inbound Key aead { cfg with role := .exit } { env with peer := world.client.io.layers.exit.sent }
    world.exit running (written .next world.middle.loop.io.outputs) [] count with
    ⟨-, same⟩ | ⟨-, incomplete, same⟩ | ⟨-, frame, complete, same⟩
  · rw [same]
    exact sound.exitStays running world.exit.loop.io.nextLink world.exit.loop.io.destLink _ fun _ => rfl
  · rw [same]
    rcases sound with ⟨ahead, behind, wired⟩
    rcases wired.exitReads running incomplete with ⟨guardItems, middleItems, flows⟩
    refine ⟨ahead, behind, @Wired.exitUnsealed Key aead world ahead behind ahead wired _ guardItems middleItems
      ⟨fun _ => running, rfl, rfl, rfl, fun _ => wired.exitUnlinked running⟩ ?_⟩
    refine flows.exitMoves fun _ => ?_
    exact (flows.exit (by simp [Station.reader, Reader.read, running])).retarget rfl rfl rfl
  · rcases sound with ⟨ahead, behind, wired⟩
    rcases wired.exitOpens running complete with ⟨cell, guardItems, middleItems, later, rfl, -, peeled, advanced⟩
    rw [same, onInboundFrame_toMe peeled]
    refine wired.exitActsOn running ?_ advanced rfl cell
    exact {
      transport := rfl
      inbound := rfl
      nextLink := wired.exitUnlinked running
      destLink := rfl
      quiet := fun sink => by simp [bytesTo] }

theorem Sound.destTurns (sound : Sound aead world) (cfg : Hop -> RelayConfig) (covers : List Nat) (env : Env)
    (bytes : Bytes) : Sound aead (world.coveredDest aead cfg covers env bytes) := by
  cases running : world.exit.loop.ended with
  | some result =>
      simp only [coveredDest, running]
      exact sound
  | none =>
      have after : Sound aead { world with
          exit := { world.exit with
            loop := CircuitLoop.settle ((destTurn aead { cfg .exit with role := .exit }
              { env with peer := world.client.io.layers.exit.sent } covers bytes).run world.exit.loop.io) } } := by
        rw [destTurn, Program.run_get_bind]
        split_ifs
        · exact sound.exitStays running world.exit.loop.io.nextLink false none fun _ => rfl
        · exact sound.exitSettles rfl (small_padded (fun _ => Stream.length_le_of_mem_chunks) 0 covers) running
        · exact sound.exitStays running world.exit.loop.io.nextLink world.exit.loop.io.destLink none fun _ => rfl
      simp only [coveredDest, running]
      split_ifs
      · exact after.noting world.userRead _ _
      · exact after

theorem Sound.exitCovers (sound : Sound aead world) (cfg : Hop -> RelayConfig) (env : Env) :
    Sound aead (world.coverExit aead cfg env) := by
  cases running : world.exit.loop.ended with
  | some result =>
      simp only [coverExit, running]
      exact sound
  | none =>
      simp only [coverExit, running]
      exact sound.exitSettles rfl (by simp) running

/-- Every turn of the exit. -/
theorem Sound.exitTurns (sound : Sound aead world) (cfg : Hop -> RelayConfig) (env : Env) (event : RelayEvent) :
    Sound aead (world.stepExit aead (cfg .exit) env event) := by
  cases running : world.exit.loop.ended with
  | some result =>
      cases event with
      | dest bytes =>
          simp only [stepExit, Station.turn_of_ended running, running, Option.isNone_some, Bool.false_eq_true, false_and,
            if_false]
          exact sound
      | _ =>
          simp only [stepExit, Station.turn_of_ended running]
          exact sound
  | none =>
      have stays (ended : Option (Except HandleError Unit)) : Sound aead { world with
          exit := { world.exit with loop := ⟨world.exit.loop.io, ended⟩ } } :=
        sound.exitStays running world.exit.loop.io.nextLink world.exit.loop.io.destLink ended fun _ => rfl
      have unlinked : world.exit.loop.io.nextLink = none := by
        rcases sound with ⟨ahead, behind, wired⟩
        exact wired.exitUnlinked running
      cases event with
      | inbound count => exact sound.exitInbound running (cfg .exit) env count
      | inboundError error =>
          simp only [stepExit, Station.turn, running, CircuitLoop.step]
          exact stays _
      | timeout =>
          simp only [stepExit, Station.turn, running, CircuitLoop.step]
          exact stays _
      | next count =>
          simp only [stepExit, Station.turn, running, CircuitLoop.step, Relay.turn, Program.run_get_bind, unlinked,
            Station.nextBytes, List.drop_nil, List.take_nil, List.length_nil, Nat.add_zero]
          exact stays none
      | nextError error =>
          simp only [stepExit, Station.turn, running, CircuitLoop.step, Relay.turn, Program.run_get_bind, unlinked,
            Option.isSome_none, Bool.false_eq_true, if_false]
          exact stays none
      | dest bytes =>
          rw [stepExit_dest]
          exact sound.destTurns cfg [] env bytes
      | destError error =>
          simp only [stepExit, Station.turn, running, CircuitLoop.step, Relay.turn, Program.run_get_bind]
          split_ifs
          · exact stays _
          · exact stays none

/-! ## Steps -/

theorem Sound.step (sound : Sound aead world) (cfg : Hop -> RelayConfig) (event : WorldEvent) :
    Sound aead (world.step aead cfg event) := by
  cases event with
  | user bytes fault =>
      rw [World.step, stepUser_eq]
      exact sound.userTurns [] bytes fault
  | link count fault => exact sound.linkTurns count fault
  | linkError fault => exact sound.linkFails fault
  | relay hop env event =>
      cases hop with
      | guard =>
          rcases sound with ⟨ahead, behind, wired⟩
          exact ⟨ahead, behind, wired.guardTurns (cfg .guard) env event⟩
      | middle =>
          rcases sound with ⟨ahead, behind, wired⟩
          exact ⟨ahead, behind, wired.middleTurns (cfg .middle) env event⟩
      | exit => exact sound.exitTurns cfg env event

/-- A circuit without cover cells. -/
theorem Sound.act (sound : Sound aead world) (cfg : Hop -> RelayConfig) (event : CircuitEvent) :
    Sound aead (world.act aead cfg event) := by
  cases event with
  | turn event => exact sound.step cfg event
  | connect payload =>
      cases running : world.client.ended with
      | some reason =>
          simp only [World.act, running]
          exact sound
      | none =>
          cases connected : world.connect aead payload with
          | error reason =>
              simp only [World.act, running, connected]
              exact sound
          | ok next =>
              rcases connect_ok connected with ⟨encoded, -, fits, rfl⟩
              simp only [World.act, running, connected]
              exact sound.connects running fits

/-- A covered circuit. -/
theorem Sound.actCovered (sound : Sound aead world) (cfg : Hop -> RelayConfig) (start : World Key)
    (event : CoveredEvent) : Sound aead (actCovered aead cfg start world event) := by
  cases event with
  | clientCover => exact sound.clientCovers
  | exitCover env => exact sound.exitCovers cfg env
  | plain event covers =>
      cases event with
      | connect payload => exact sound.act cfg (.connect payload)
      | turn event =>
          cases event with
          | user bytes fault => exact sound.userTurns covers bytes fault
          | link count fault => exact sound.linkTurns count fault
          | linkError fault => exact sound.linkFails fault
          | relay hop env event =>
              have turns (env : Env) := sound.step cfg (.relay hop env event)
              cases hop with
              | guard => exact turns _
              | middle => exact turns _
              | exit =>
                  cases event with
                  | dest bytes => exact sound.destTurns cfg covers env bytes
                  | _ => exact turns _

end World

/-! ## Logs -/

theorem sealedSince_grows {Key : Type} {before after : Transport Key} (more : before.sent <+: after.sent) (count : Nat) :
    ∃ added, sealedSince count after = sealedSince count before ++ added := by
  rcases more with ⟨added, grown⟩
  exact ⟨_, by rw [sealedSince, ← grown, List.drop_append, List.map_append]; rfl⟩

section Client

variable {Key : Type} {aead : NoiseAead Key} {env : TaskEnv}

/-- The client only adds to what it has sealed for the exit. -/
def SealsMore (before after : TaskIo Key) : Prop :=
  before.layers.exit.sent <+: after.layers.exit.sent

instance : Std.Refl (@SealsMore Key) where
  refl _ := List.prefix_refl _

instance : IsTrans (TaskIo Key) SealsMore where
  trans _ _ _ head tail := List.IsPrefix.trans head tail

theorem sealing_sealsMore {cell : Cell} (fits : cell.Fits) (fault : Option Nat) (io : TaskIo Key) :
    SealsMore io (sealing aead fault cell io) := by
  simp only [SealsMore, sealing, sealedLayers_exit _ fits, Transport.push_sent]
  exact List.prefix_append _ _

theorem sendEach_sealsMore (logs : PeerLogs) {pieces : Pieces}
    (small : ∀ piece ∈ pieces, piece.2.length ≤ cellPayloadLen) :
    Program.Keeps SealsMore (sendEach aead logs pieces) := by
  induction pieces with
  | nil => exact Program.keeps_pure ()
  | cons piece rest step =>
      have small' := List.forall_mem_cons.mp small
      have fits : (Cell.mk .data piece.2).Fits := small'.1
      refine Program.keeps_bind (fun io => ?_) fun _ => step small'.2
      rw [sendChunk_eq small'.1]
      exact sealing_sealsMore fits _ io

theorem userTurn_sealsMore (covers : List Nat) (bytes : Bytes) :
    Program.Keeps SealsMore (userTurn aead env covers bytes) := by
  rw [userTurn]
  split_ifs
  · exact Program.keeps_fail _
  · exact sendEach_sealsMore _ (small_padded (fun _ => Stream.length_le_of_mem_chunks) 0 covers)

theorem onCell_sealsMore (cell : Cell) : Program.Keeps (@SealsMore Key) (Client.onCell env cell) := by
  rw [Client.onCell]
  split
  · split_ifs
    · exact Program.keeps_pure ()
    · intro io
      rw [writeUser_eq]
      exact List.prefix_refl _
  · exact Program.keeps_fail _
  · exact Program.keeps_fail _

theorem concluded_sealsMore {io : TaskIo Key} {result : Except Break Unit × TaskIo Key} (more : SealsMore io result.2) :
    SealsMore io (concluded aead env result).io := by
  rcases result with ⟨reason | _, reached⟩
  · by_cases lost : reason = .linkWrite
    · subst lost
      refine List.IsPrefix.trans more ?_
      simp only [concluded, teardown_lost, sealedLayers_exit _ closing_fits, Transport.push_sent]
      exact List.prefix_append _ _
    · refine List.IsPrefix.trans more ?_
      simp only [concluded, teardown_eq lost]
      exact sealing_sealsMore closing_fits _ reached
  · exact more

/-- Reading the link seals nothing, unless the task ends. -/
theorem link_sealsMore {plains : List Bytes} {start terminal : Terminal Key} {arrivals : Bytes}
    (opens : terminal.task.ended = none -> ClientTallies.OpensCell plains env.logs start terminal arrivals)
    (count : Nat) : SealsMore terminal.task.io (terminal.link aead env arrivals count).task.io := by
  cases running : terminal.task.ended with
  | some reason =>
      simp only [Terminal.link, running]
      exact List.prefix_refl _
  | none =>
      rw [Terminal.link_of_running running]
      apply concluded_sealsMore
      cases bytes : terminal.bytes arrivals count with
      | nil => exact List.prefix_refl _
      | cons byte rest =>
          have nonempty : byte :: rest ≠ [] := List.cons_ne_nil _ _
          cases received : (terminal.task.io.inbound.receive (byte :: rest)).1 with
          | none =>
              rw [linkTurn_none nonempty received]
              exact List.prefix_refl _
          | some frame =>
              rcases opens running count frame (by rw [bytes, received]) with ⟨cell, -, -, peeled⟩
              rw [linkTurn_some nonempty received peeled]
              refine trans_of SealsMore ?_ (onCell_sealsMore cell _)
              exact List.prefix_refl _

end Client

section Exit

variable {Key : Type} {aead : NoiseAead Key} {cfg : RelayConfig} {env : Env}

/-- The exit only adds to what it has sealed for the client. -/
def RepliesMore (before after : CircuitIo Key) : Prop :=
  before.transport.sent <+: after.transport.sent

instance : Std.Refl (@RepliesMore Key) where
  refl _ := List.prefix_refl _

instance : IsTrans (CircuitIo Key) RepliesMore where
  trans _ _ _ head tail := List.IsPrefix.trans head tail

theorem reply_repliesMore (layers : inboundLayers cfg.role = 1) {cellType : CellType} {payload : Bytes}
    (small : payload.length ≤ cellPayloadLen) : Program.Keeps RepliesMore (reply aead cfg env cellType payload) := by
  intro io
  rw [reply_eq layers small]
  exact List.prefix_append _ _

theorem replyEach_repliesMore (layers : inboundLayers cfg.role = 1) {pieces : Pieces}
    (small : ∀ piece ∈ pieces, piece.2.length ≤ cellPayloadLen) :
    Program.Keeps RepliesMore (replyEach aead cfg env pieces) := by
  induction pieces with
  | nil => exact Program.keeps_pure ()
  | cons piece rest step =>
      have small' := List.forall_mem_cons.mp small
      exact Program.keeps_bind (reply_repliesMore layers small'.1) fun _ => step small'.2

theorem setLinks_repliesMore (change : CircuitIo Key -> CircuitIo Key)
    (same : forall io, (change io).transport = io.transport) :
    Program.Keeps RepliesMore (Program.modify change : CircuitM Key Unit) := by
  apply Program.keeps_modify
  intro io
  rw [RepliesMore, same]

theorem destTurn_repliesMore (layers : inboundLayers cfg.role = 1) (covers : List Nat) (bytes : Bytes) :
    Program.Keeps RepliesMore (destTurn aead cfg env covers bytes) := by
  refine Program.keeps_bind Program.keeps_get fun io => ?_
  split_ifs
  · exact Program.keeps_bind (setLinks_repliesMore _ fun _ => rfl) fun _ => Program.keeps_pure _
  · exact Program.keeps_bind (replyEach_repliesMore layers
      (small_padded (fun _ => Stream.length_le_of_mem_chunks) 0 covers)) fun _ => Program.keeps_pure _
  · exact Program.keeps_pure _

theorem onCell_repliesMore (role : cfg.role = .exit) (cell : Cell) :
    Program.Keeps RepliesMore (Relay.onCell aead cfg env cell) := by
  have layers : inboundLayers cfg.role = 1 := by rw [role]; rfl
  by_cases isClose : cell.cellType = .closeRequest
  · have begun : Relay.onCell aead cfg env cell = onCloseRequest aead cfg env := by
      simp only [Relay.onCell, role, isClose]
    rw [begun, onCloseRequest]
    refine Program.keeps_bind (reply_repliesMore layers (Nat.zero_le _)) fun _ => ?_
    exact Program.keeps_bind (setLinks_repliesMore _ fun _ => rfl) fun _ => Program.keeps_pure _
  · intro io
    rw [RepliesMore, (World.onCell_quiet role isClose io).transport]

/-- The exit's turns, but for those on the destination. -/
theorem turn_repliesMore {plains : List Bytes} {start station : Station Key} {arrivals : Bytes} (role : cfg.role = .exit)
    (opens : station.loop.ended = none -> ExitTallies.OpensCell plains env.peer start station arrivals)
    (unlinked : station.loop.ended = none -> station.loop.io.nextLink = none) (event : RelayEvent) :
    RepliesMore station.loop.io (station.turn aead cfg env arrivals [] event).loop.io := by
  have layers : inboundLayers cfg.role = 1 := by rw [role]; rfl
  cases running : station.loop.ended with
  | some result =>
      rw [Station.turn_of_ended running]
      exact List.prefix_refl _
  | none =>
      cases event with
      | inbound count =>
          rcases @turn_inbound Key aead cfg env station running arrivals [] count with
            ⟨-, turned⟩ | ⟨-, -, turned⟩ | ⟨-, frame, complete, turned⟩
          · rw [turned]
            exact List.prefix_refl _
          · rw [turned]
            exact List.prefix_refl _
          · rcases opens running count frame complete with ⟨cell, -, -, peeled⟩
            rw [turned, ExitTallies.onInboundFrame_exit role peeled]
            simp only [World.settle_io]
            refine trans_of RepliesMore ?_ (onCell_repliesMore role cell _)
            exact List.prefix_refl _
      | dest bytes =>
          simp only [Station.turn, running, CircuitLoop.step, World.settle_io, ← destTurn_nil]
          exact destTurn_repliesMore layers [] bytes _
      | next count =>
          simp only [Station.turn, running, CircuitLoop.step, Relay.turn, Program.run_get_bind, unlinked running]
          exact List.prefix_refl _
      | nextError error =>
          simp only [Station.turn, running, CircuitLoop.step, Relay.turn, Program.run_get_bind, unlinked running]
          exact List.prefix_refl _
      | inboundError error =>
          simp only [Station.turn, running, CircuitLoop.step]
          exact List.prefix_refl _
      | timeout =>
          simp only [Station.turn, running, CircuitLoop.step]
          exact List.prefix_refl _
      | destError error =>
          simp only [Station.turn, running, CircuitLoop.step, Relay.turn, Program.run_get_bind]
          split_ifs
          · exact List.prefix_refl _
          · exact List.prefix_refl _

end Exit
end Circuit
end QuietHop
