import QuietHop.Circuit.Carries

namespace QuietHop
namespace Circuit

open Lib Wire Client Relay

/-!
# The exit's turns

The exit opens every frame it reads.  CONNECT comes first and is answered by a dial; DATA is
written to the destination; CLOSE_REQUEST is acknowledged and ends the circuit.  What the
destination sends is cut into DATA cells for the client, and a destination that has closed
leaves a circuit that refuses further DATA.
-/

section Programs

variable {Key : Type} {aead : NoiseAead Key} {cfg : RelayConfig} {env : Env}

/-- CONNECT puts nothing on any link.  It makes a destination, or ends the circuit with an
error of the dial. -/
theorem onConnect_run {io : CircuitIo Key} {payload : Bytes} {target : ConnectPayload} (fresh : io.destLink = false)
    (decoded : ConnectPayload.decode payload = .ok target) :
    ∃ entries, (forall sink, written sink (io.outputs ++ entries) = written sink io.outputs) ∧
      ((onConnect cfg env payload).run io =
          (.ok .proceed, { io with outputs := io.outputs ++ entries, destLink := true }) ∨
        ∃ reason, Benign reason ∧
          (onConnect cfg env payload).run io = (.error reason, { io with outputs := io.outputs ++ entries })) := by
  have unchanged : forall sink, written sink (io.outputs ++ []) = written sink io.outputs := by simp
  have dialed (host : String) (port : UInt16) (sink : Sink) :
      written sink (io.outputs ++ [(env.instant, .dialedDest host port)]) = written sink io.outputs := by
    simp [bytesTo]
  have refused (reason : HandleError) (benign : Benign reason)
      (ran : (onConnect cfg env payload).run io = (.error reason, io)) :
      ∃ entries, (forall sink, written sink (io.outputs ++ entries) = written sink io.outputs) ∧
        ((onConnect cfg env payload).run io =
            (.ok .proceed, { io with outputs := io.outputs ++ entries, destLink := true }) ∨
          ∃ reason, Benign reason ∧
            (onConnect cfg env payload).run io = (.error reason, { io with outputs := io.outputs ++ entries })) :=
    ⟨[], unchanged, .inr ⟨reason, benign, by rw [ran, List.append_nil]⟩⟩
  cases url : cfg.decodoProxyUrl with
  | none =>
      refine refused .missingDecodoUrl trivial ?_
      simp only [onConnect, Program.run_get_bind, fresh, Bool.false_eq_true, if_false, decoded, url]
      rfl
  | some proxyUrl =>
      have begun : (onConnect cfg env payload).run io = (do
          dialViaSocks5 cfg env proxyUrl target.host target.port
          Program.modify fun io => { io with destLink := true }
          pure .proceed : CircuitM Key Control).run io := by
        simp only [onConnect, Program.run_get_bind, fresh, Bool.false_eq_true, if_false, decoded, url]
        rfl
      by_cases allowed : target.port ∉ cfg.allowedExitPorts
      · refine refused (.exit .portNotAllowed) trivial ?_
        rw [begun, dialViaSocks5, if_pos allowed]
        rfl
      cases parsed : (env.parseUrl proxyUrl).bind proxyAddr with
      | none =>
          refine refused (.exit .badProxyUrl) trivial ?_
          rw [begun, dialViaSocks5, if_neg allowed, parsed]
          rfl
      | some addr =>
          refine ⟨[(env.instant, .dialedDest target.host target.port)], dialed _ _, ?_⟩
          rw [begun, dialViaSocks5, if_neg allowed, parsed]
          cases dial : env.dialSocks with
          | connected => exact .inl rfl
          | refused => exact .inr ⟨.exit .dialFailed, trivial, rfl⟩
          | timedOut => exact .inr ⟨.exit .dialTimeout, trivial, rfl⟩

/-- A cell for the exit itself is noted and acted on. -/
theorem onInboundFrame_toMe {io : CircuitIo Key} {tx : Transport Key} {wire : Bytes} {cell : Cell}
    (peeled : peel env.peer io.transport wire (inboundLayers cfg.role) = (.ok (.toMe cell), tx)) :
    (onInboundFrame aead cfg env wire).run io = (Relay.onCell aead cfg env cell).run
      { io with transport := tx, outputs := io.outputs ++ [(env.instant, .acted cell)] } := by
  have opened : (onTransport (peel env.peer · wire (inboundLayers cfg.role))).run io =
      (.ok (.toMe cell), { io with transport := tx }) := by
    simp only [onTransport, peeled]
  rw [onInboundFrame, Program.run_bind_of_ok opened]
  rfl

end Programs

namespace World

variable {Key : Type} {aead : NoiseAead Key} {connect : Bytes} {world : World Key}

/-- The exit has sealed nothing and put nothing on the link towards the client. -/
structure Unsealed (before after : Station Key) : Prop where
  still : after.loop.ended = none -> before.loop.ended = none
  key : after.loop.io.transport.key = before.loop.io.transport.key
  sent : after.loop.io.transport.sent = before.loop.io.transport.sent
  toClient : written .client after.loop.io.outputs = written .client before.loop.io.outputs
  unlinked : after.loop.ended = none -> after.loop.io.nextLink = none

variable {ahead behind later : List Peeled}

/-- The exit goes on without sealing anything. -/
theorem Wired.exitUnsealed (wired : Wired aead world ahead behind) {after : Station Key}
    {guardItems middleItems : List Peeled} (unsealed : Unsealed world.exit after)
    (flows : Outward.Flows aead { world.outward with exit := after.reader .dest } guardItems middleItems later) :
    Wired aead { world with exit := after } later behind := by
  refine { wired with
    outward := ⟨guardItems, middleItems, flows⟩
    inward := ?_
    fitting := ⟨wired.fitting.guard, ?_⟩
    exitUnlinked := unsealed.unlinked }
  · intro clientRuns
    rcases wired.inward clientRuns with ⟨guardItems, middleItems, returns⟩
    refine ⟨guardItems, middleItems, ?_⟩
    cases ended : after.loop.ended with
    | none =>
        have same : World.inward { world with exit := after } = world.inward := by
          simp [World.inward, ended, unsealed.still ended, unsealed.key, unsealed.sent, unsealed.toClient]
          rfl
        rw [same]
        exact returns
    | some result =>
        have same : World.inward { world with exit := after } = { world.inward with exitRuns := false } := by
          simp [World.inward, ended, unsealed.key, unsealed.sent, unsealed.toClient]
          rfl
        rw [same]
        exact returns.exitStops
  · intro running
    have fit := wired.fitting.middle running
    simp only [World.inward, unsealed.toClient]
    exact fit

/-- A whole frame at the exit peels to the cell that comes first. -/
theorem Wired.exitOpens (wired : Wired aead world ahead behind) (running : world.exit.loop.ended = none) {count : Nat}
    {frame : Bytes}
    (complete : (world.exit.loop.io.inbound.receive
      (world.exit.inboundBytes (written .next world.middle.loop.io.outputs) count)).1 = some frame) :
    ∃ cell guardItems middleItems later, ahead = .toMe cell :: later ∧
      Pending aead 0 world.client.io.layers.exit.key world.client.io.layers.exit.sent
        world.exit.loop.io.transport.received (.toMe cell :: later) ∧
      peel world.client.io.layers.exit.sent world.exit.loop.io.transport frame 1 = (.ok (.toMe cell),
        { world.exit.loop.io.transport with received := world.exit.loop.io.transport.received + 1 }) ∧
      forall reader : Reader, reader.received = world.exit.loop.io.transport.received + 1 ->
        reader.acc = (world.exit.loop.io.inbound.receive
          (world.exit.inboundBytes (written .next world.middle.loop.io.outputs) count)).2 ->
        reader.taken = world.exit.inboundTaken +
          (world.exit.inboundBytes (written .next world.middle.loop.io.outputs) count).length ->
        Outward.Flows aead { world.outward with exit := reader } guardItems middleItems later := by
  rcases wired.outward with ⟨guardItems, middleItems, flows⟩
  have inlet := flows.exit (by simp [World.outward, Station.reader, running])
  rcases inlet.read (Nat.min_le_right count _) with ⟨incomplete, -⟩ | ⟨other, item, later, found, rfl, peels, own⟩
  · cases complete.symm.trans incomplete
  cases complete.symm.trans found
  cases item with
  | forward blob =>
      -- Nothing is inside the last layer.
      have legal := inlet.pending.legal (.forward blob) (List.mem_cons_self ..)
      exact absurd legal.1 (Nat.lt_irrefl 0)
  | toMe cell =>
      refine ⟨cell, guardItems, middleItems, later, rfl, inlet.pending, peels world.exit.loop.io.transport rfl, ?_⟩
      intro reader received acc taken
      exact flows.exitMoves fun _ => own.retarget received acc taken

/-- Reading a part of a frame. -/
theorem Wired.exitReads (wired : Wired aead world ahead behind) (running : world.exit.loop.ended = none) {count : Nat}
    (incomplete : (world.exit.loop.io.inbound.receive
      (world.exit.inboundBytes (written .next world.middle.loop.io.outputs) count)).1 = none) :
    ∃ guardItems middleItems, Outward.Flows aead
      { world.outward with
        exit := (world.exit.reader .dest).read
          (world.exit.inboundBytes (written .next world.middle.loop.io.outputs) count) }
      guardItems middleItems ahead := by
  rcases wired.outward with ⟨guardItems, middleItems, flows⟩
  have inlet := flows.exit (by simp [World.outward, Station.reader, running])
  rcases inlet.read (Nat.min_le_right count _) with ⟨-, own⟩ | ⟨frame, -, -, found, -⟩
  · exact ⟨guardItems, middleItems, flows.exitMoves fun _ => own.retarget rfl rfl rfl⟩
  · cases incomplete.symm.trans found

/-- The exit seals a cell for the client and puts its frame, or a piece of it, on the link. -/
theorem Wired.exitReplies (wired : Wired aead world ahead behind) (running : world.exit.loop.ended = none) {cell : Cell}
    (fits : cell.Fits) {instant : Instant} {fault : Option Nat} {ended : Option (Except HandleError Unit)}
    (sound : ended.isNone = true -> fault.isNone = true) :
    Wired aead { world with
      exit := { world.exit with loop := ⟨replying aead instant fault cell world.exit.loop.io, ended⟩ } }
      ahead (behind ++ [.toMe cell]) := by
  have toClient (counter : Nat) : written .client (world.exit.loop.io.outputs ++
      [(instant, put fault .client (aead.encrypt world.exit.loop.io.transport.key counter (toMePlain cell 1)))]) =
      written .client world.exit.loop.io.outputs ++
        putBytes fault (aead.encrypt world.exit.loop.io.transport.key counter (toMePlain cell 1)) := by simp
  refine { wired with
    outward := ?_
    inward := ?_
    fitting := ⟨wired.fitting.guard, ?_⟩
    exitUnlinked := fun _ => wired.exitUnlinked running }
  · rcases wired.outward with ⟨guardItems, middleItems, flows⟩
    refine ⟨guardItems, middleItems, flows.exitMoves fun _ => ?_⟩
    exact (flows.exit (by simp [World.outward, Station.reader, running])).retarget rfl rfl rfl
  · intro clientRuns
    rcases wired.inward clientRuns with ⟨guardItems, middleItems, returns⟩
    have seals := returns.exitSeals wired.fitting (by simp [World.inward, running]) fits
      (putBytes_part fault _) (fun runs => putBytes_of_isNone (sound runs) _)
    refine ⟨guardItems, middleItems, ?_⟩
    simp only [World.inward, replying, toClient]
    exact seals
  · intro middleRuns
    simp only [World.inward, replying, toClient]
    exact (wired.fitting.middle middleRuns).grow _

/-! ## The stream -/

/-- A destination that has closed only allows more. -/
theorem Carries.destCloses (carries : Carries aead connect world) :
    Carries aead connect { world with destClosed := true } :=
  { carries with
    outward := by
      rcases carries.outward with ⟨guardItems, middleItems, exitItems, flows, content⟩
      refine ⟨guardItems, middleItems, exitItems, flows, fun running => ?_⟩
      rcases content running with ⟨connected, tail, holds⟩
      exact ⟨connected, tail, { holds with after := fun _ => .inr rfl }⟩
    inward := fun running => by
      rcases carries.inward running with ⟨guardItems, middleItems, exitItems, returns, replies⟩
      exact ⟨guardItems, middleItems, exitItems, returns, { replies with }⟩
    exitBenign := fun reason ended => by
      rcases carries.exitBenign reason ended with benign | ⟨-, refused⟩
      · exact .inl benign
      · exact .inr ⟨rfl, refused⟩ }

/-- An exit that has ended may let go of its links. -/
theorem Carries.exitUnlinks (carries : Carries aead connect world) (ended : world.exit.loop.ended ≠ none) :
    Carries aead connect { world with
      exit := { world.exit with
        loop := { world.exit.loop with io := { world.exit.loop.io with nextLink := none, destLink := false } } } } :=
  { carries with
    outward := by
      rcases carries.outward with ⟨guardItems, middleItems, exitItems, flows, -⟩
      exact ⟨guardItems, middleItems, exitItems, flows, fun running => absurd running ended⟩
    inward := fun running => by
      rcases carries.inward running with ⟨guardItems, middleItems, exitItems, returns, replies⟩
      exact ⟨guardItems, middleItems, exitItems, returns, { replies with }⟩
    exitUnlinked := fun _ => rfl }

/-- What the destination sent after the exit has ended never matters. -/
theorem Carries.destReads (carries : Carries aead connect world) (ended : world.exit.loop.ended ≠ none)
    (more : Bytes) : Carries aead connect { world with destRead := world.destRead ++ more } :=
  { carries with
    outward := by
      rcases carries.outward with ⟨guardItems, middleItems, exitItems, flows, -⟩
      exact ⟨guardItems, middleItems, exitItems, flows, fun running => absurd running ended⟩
    inward := fun running => by
      rcases carries.inward running with ⟨guardItems, middleItems, exitItems, returns, replies⟩
      exact ⟨guardItems, middleItems, exitItems, returns, replies.kinds,
        replies.within.trans (List.prefix_append _ _), fun running => absurd running ended⟩
    toUser := carries.toUser.trans (List.prefix_append _ _) }

/-! ## Turns in which nothing is sealed -/

theorem Carries.exitUnsealed (carries : Carries aead connect world) {after : Station Key}
    {guardItems middleItems exitItems : List Peeled} (unsealed : Unsealed world.exit after)
    (flows : Outward.Flows aead { world.outward with exit := after.reader .dest } guardItems middleItems exitItems)
    (content : after.loop.ended = none ->
      ∃ connected tail, Content connect { world with exit := after } exitItems connected tail)
    (toDest : written .dest after.loop.io.outputs <+: world.userRead)
    (benign : forall reason, after.loop.ended = some (.error reason) ->
      Benign reason ∨ world.destClosed = true ∧ ∃ cellType, reason = .illegalCellForRole cellType .exit) :
    Carries aead connect { world with exit := after } := by
  rcases carries.wired with ⟨ahead, behind, wired, -, replies⟩
  have still := wired.exitUnsealed unsealed flows
  refine { carries with
    outward := ⟨guardItems, middleItems, exitItems, flows, content⟩
    inward := ?_
    fitting := still.fitting
    exitUnlinked := still.exitUnlinked
    toDest := toDest
    exitBenign := benign }
  intro clientRuns
  rcases still.inward clientRuns with ⟨guardItems, middleItems, returns⟩
  have before := replies clientRuns
  exact ⟨guardItems, middleItems, behind, returns, before.kinds, before.within,
    fun running => before.whole (unsealed.still running)⟩

/-- The exit ends without having done anything. -/
theorem Carries.exitEnds (carries : Carries aead connect world) {reason : HandleError} (benign : Benign reason) :
    Carries aead connect { world with
      exit := { world.exit with loop := { world.exit.loop with ended := some (.error reason) } } } := by
  rcases carries.outward with ⟨guardItems, middleItems, exitItems, flows, -⟩
  refine @Carries.exitUnsealed Key aead connect world carries _ guardItems middleItems exitItems ?_ ?_ ?_
    carries.toDest ?_
  · exact ⟨by simp, rfl, rfl, rfl, by simp⟩
  · exact flows.exitMoves (by simp [Station.reader])
  · simp
  · intro other ended
    cases ended
    exact .inl benign

/-! ## Opening a frame -/

/-- A whole frame at the exit peels to the cell that comes first. -/
theorem Carries.exitOpens (carries : Carries aead connect world) (running : world.exit.loop.ended = none) {count : Nat}
    {frame : Bytes}
    (complete : (world.exit.loop.io.inbound.receive
      (world.exit.inboundBytes (written .next world.middle.loop.io.outputs) count)).1 = some frame) :
    ∃ cell guardItems middleItems later connected tail,
      peel world.client.io.layers.exit.sent world.exit.loop.io.transport frame 1 = (.ok (.toMe cell),
        { world.exit.loop.io.transport with received := world.exit.loop.io.transport.received + 1 }) ∧
      Content connect world (.toMe cell :: later) connected tail ∧
      forall reader : Reader, reader.received = world.exit.loop.io.transport.received + 1 ->
        reader.acc = (world.exit.loop.io.inbound.receive
          (world.exit.inboundBytes (written .next world.middle.loop.io.outputs) count)).2 ->
        reader.taken = world.exit.inboundTaken +
          (world.exit.inboundBytes (written .next world.middle.loop.io.outputs) count).length ->
        Outward.Flows aead { world.outward with exit := reader } guardItems middleItems later := by
  rcases carries.wired with ⟨ahead, behind, wired, content, -⟩
  rcases content running with ⟨connected, tail, holds⟩
  rcases wired.exitOpens running complete with ⟨cell, guardItems, middleItems, later, rfl, -, peeled, flows⟩
  exact ⟨cell, guardItems, middleItems, later, connected, tail, peeled, holds, flows⟩

/-- Reading a part of a frame. -/
theorem Carries.exitReads (carries : Carries aead connect world) (running : world.exit.loop.ended = none) {count : Nat}
    (incomplete : (world.exit.loop.io.inbound.receive
      (world.exit.inboundBytes (written .next world.middle.loop.io.outputs) count)).1 = none) :
    Carries aead connect { world with
      exit := { world.exit with
        loop := ⟨{ world.exit.loop.io with
          inbound := (world.exit.loop.io.inbound.receive
            (world.exit.inboundBytes (written .next world.middle.loop.io.outputs) count)).2 }, none⟩
        inboundTaken := world.exit.inboundTaken +
          (world.exit.inboundBytes (written .next world.middle.loop.io.outputs) count).length } } := by
  rcases carries.wired with ⟨ahead, behind, wired, content, -⟩
  rcases content running with ⟨connected, tail, holds⟩
  rcases wired.exitReads running incomplete with ⟨guardItems, middleItems, flows⟩
  refine @Carries.exitUnsealed Key aead connect world carries _ guardItems middleItems ahead
    ⟨fun _ => running, rfl, rfl, rfl, fun _ => carries.exitUnlinked running⟩ ?_ ?_ carries.toDest (by simp)
  · refine flows.exitMoves fun _ => ?_
    exact (flows.exit (by simp [Station.reader, Reader.read, running])).retarget rfl rfl rfl
  · exact fun _ => ⟨connected, tail, { holds with }⟩

/-! ## Turns in which a cell is sealed -/

/-- The exit seals a cell for the client and puts a piece of its frame on the link. -/
theorem Carries.exitReplies (carries : Carries aead connect world) (running : world.exit.loop.ended = none) {cell : Cell}
    (fits : cell.Fits) (kind : cell.cellType = .data ∨ cell.cellType = .closeAck) {instant : Instant}
    {fault : Option Nat} {ended : Option (Except HandleError Unit)}
    (sound : ended.isNone = true -> fault.isNone = true)
    (benign : forall reason, ended = some (.error reason) -> Benign reason) :
    Carries aead connect { world with
      exit := { world.exit with loop := ⟨replying aead instant fault cell world.exit.loop.io, ended⟩ }
      destRead := world.destRead ++ payloads [cell] } := by
  have toDest : written .dest (replying aead instant fault cell world.exit.loop.io).outputs = world.destWritten :=
    written_put_of_ne (by decide) ..
  rcases carries.wired with ⟨ahead, behind, wired, content, replies⟩
  have sent := @Wired.exitReplies Key aead world ahead behind wired running cell fits instant fault ended sound
  refine { carries with
    outward := ?_
    inward := ?_
    fitting := sent.fitting
    exitUnlinked := sent.exitUnlinked
    toDest := ?_
    toUser := carries.toUser.trans (List.prefix_append _ _)
    exitBenign := fun reason failed => .inl (benign reason failed) }
  · rcases sent.outward with ⟨guardItems, middleItems, flows⟩
    refine ⟨guardItems, middleItems, ahead, flows, ?_⟩
    intro runsOn
    rcases content running with ⟨connected, tail, holds⟩
    refine ⟨connected, tail, holds.cells, holds.kinds, holds.before, holds.after, ?_, ?_⟩
    · simp only [destWritten, toDest]
      exact holds.within
    · simp only [destWritten, toDest]
      exact holds.whole
  · intro clientRuns
    rcases sent.inward clientRuns with ⟨guardItems, middleItems, returns⟩
    have before := replies clientRuns
    have grown : world.userWritten ++ payloads (Peeled.cells (behind ++ [.toMe cell])) =
        world.destRead ++ payloads [cell] := by
      rw [Peeled.cells_append, payloads_append, ← List.append_assoc, before.whole running]
      rfl
    refine ⟨guardItems, middleItems, behind ++ [Peeled.toMe cell], returns, ?_, grown ▸ List.prefix_refl _, fun _ => grown⟩
    intro other member
    rw [Peeled.cells_append, List.mem_append] at member
    rcases member with member | member
    · exact before.kinds other member
    · rw [List.mem_singleton.mp member]
      exact kind
  · simp only [destWritten, toDest]
    exact carries.toDest

/-! ## The cells of a circuit -/

section Cells

variable {acc : FrameAccumulator} {taken : Nat} {io : CircuitIo Key} {cell : Cell}
  {guardItems middleItems later : List Peeled} {connected : Bool} {tail : List Cell}

/-- The exit has opened the frame that comes first and noted its cell. -/
structure Opened (world : World Key) (acc : FrameAccumulator) (io : CircuitIo Key) : Prop where
  transport : io.transport =
    { world.exit.loop.io.transport with received := world.exit.loop.io.transport.received + 1 }
  inbound : io.inbound = acc
  nextLink : io.nextLink = none
  destLink : io.destLink = world.exit.loop.io.destLink
  quiet : forall sink, written sink io.outputs = written sink world.exit.loop.io.outputs

/-- The frames that are left once the one that comes first has been opened. -/
def Advanced (aead : NoiseAead Key) (world : World Key) (acc : FrameAccumulator) (taken : Nat)
    (guardItems middleItems later : List Peeled) : Prop :=
  forall reader : Reader, reader.received = world.exit.loop.io.transport.received + 1 -> reader.acc = acc ->
    reader.taken = taken -> Outward.Flows aead { world.outward with exit := reader } guardItems middleItems later

/-- The exit acts on a cell without sealing anything. -/
theorem Carries.exitActs (carries : Carries aead connect world) (running : world.exit.loop.ended = none)
    (opened : Opened world acc io) (advanced : Advanced aead world acc taken guardItems middleItems later)
    {outputs : List (Instant × Output)} {destLink : Bool} {ended : Option (Except HandleError Unit)}
    (toClient : written .client outputs = written .client io.outputs)
    (content : ended = none -> ∃ connected tail, Content connect
      { world with exit := ⟨⟨{ io with outputs := outputs, destLink := destLink }, ended⟩, taken, world.exit.nextTaken⟩ }
      later connected tail)
    (toDest : written .dest outputs <+: world.userRead)
    (benign : forall reason, ended = some (.error reason) ->
      Benign reason ∨ world.destClosed = true ∧ ∃ cellType, reason = .illegalCellForRole cellType .exit) :
    Carries aead connect { world with
      exit := ⟨⟨{ io with outputs := outputs, destLink := destLink }, ended⟩, taken, world.exit.nextTaken⟩ } := by
  refine @Carries.exitUnsealed Key aead connect world carries _ guardItems middleItems later ?_ ?_ content toDest benign
  · exact {
      still := fun _ => running
      key := by simp only [opened.transport]
      sent := by simp only [opened.transport]
      toClient := toClient.trans (opened.quiet .client)
      unlinked := fun _ => opened.nextLink }
  · apply advanced
    · simp only [Station.reader, opened.transport]
    · exact opened.inbound
    · rfl

/-- CONNECT gives the circuit its destination, or ends it. -/
theorem Carries.exitConnects (carries : Carries aead connect world) (running : world.exit.loop.ended = none)
    (opened : Opened world acc io) (advanced : Advanced aead world acc taken guardItems middleItems later)
    {target : ConnectPayload} (decoded : ConnectPayload.decode connect = .ok target)
    (content : Content connect world (.toMe cell :: later) false tail) (cfg : RelayConfig) (env : Env) :
    Carries aead connect { world with
      exit := ⟨CircuitLoop.settle ((Relay.onCell aead { cfg with role := .exit } env cell).run io), taken,
        world.exit.nextTaken⟩ } := by
  have split : cell :: Peeled.cells later = ⟨.connect, connect⟩ :: tail := content.cells
  rcases List.cons.inj split with ⟨rfl, rest⟩
  have fresh : io.destLink = false := opened.destLink.trans (content.before rfl)
  rcases @onConnect_run Key { cfg with role := .exit } env io connect target fresh decoded with
    ⟨entries, quiet, ran | ⟨reason, benign, ran⟩⟩
  · simp only [Relay.onCell, ran, CircuitLoop.settle]
    have toDest : written .dest (io.outputs ++ entries) = world.destWritten := (quiet .dest).trans (opened.quiet .dest)
    refine carries.exitActs running opened advanced (quiet .client) ?_ (toDest ▸ carries.toDest) (by simp)
    intro _
    refine ⟨true, tail, rest, content.kinds, by simp, fun _ => .inl rfl, ?_, ?_⟩
    · simp only [destWritten, toDest]
      exact content.within
    · simp only [destWritten, toDest]
      exact content.whole
  · simp only [Relay.onCell, ran, CircuitLoop.settle]
    refine carries.exitActs running opened advanced (quiet .client) (by simp) ?_ ?_
    · rw [quiet, opened.quiet]
      exact carries.toDest
    · intro other failed
      cases failed
      exact .inl benign

/-- DATA is written to the destination, unless that has closed. -/
theorem Carries.exitDelivers (carries : Carries aead connect world) (running : world.exit.loop.ended = none)
    (opened : Opened world acc io) (advanced : Advanced aead world acc taken guardItems middleItems later)
    (content : Content connect world (.toMe cell :: later) true tail) (isData : cell.cellType = .data)
    (cfg : RelayConfig) (env : Env) :
    Carries aead connect { world with
      exit := ⟨CircuitLoop.settle ((Relay.onCell aead { cfg with role := .exit } env cell).run io), taken,
        world.exit.nextTaken⟩ } := by
  have split : cell :: Peeled.cells later = tail := content.cells
  subst split
  have kinds : ∀ other ∈ Peeled.cells later, other.cellType = .data ∨ other.cellType = .closeRequest :=
    fun other member => content.kinds other (List.mem_cons_of_mem _ member)
  have within := content.within
  have whole := content.whole
  rw [payloads_cons, if_pos isData] at within whole
  have delivered (outputs : List (Instant × Output))
      (toClient : written .client outputs = written .client io.outputs)
      (toDest : written .dest outputs = world.destWritten ++ cell.payload) :
      Carries aead connect { world with
        exit := ⟨⟨{ io with outputs := outputs, destLink := io.destLink }, none⟩, taken, world.exit.nextTaken⟩ } := by
    rw [← List.append_assoc, ← toDest] at within whole
    refine carries.exitActs running opened advanced toClient ?_ ((List.prefix_append _ _).trans within) (by simp)
    refine fun _ => ⟨true, Peeled.cells later, rfl, kinds, by simp, fun _ => ?_, within, whole⟩
    exact (content.after rfl).imp opened.destLink.trans id
  have begun : (Relay.onCell aead { cfg with role := .exit } env cell).run io =
      (onData { cfg with role := .exit } env cell.payload).run io := by
    simp only [Relay.onCell, isData]
  rw [begun, onData, Program.run_get_bind]
  split_ifs with empty connected
  · apply delivered _ rfl
    rw [List.isEmpty_iff.mp empty, List.append_nil]
    exact opened.quiet .dest
  · rcases write_run env .dest cell.payload io with ⟨output, piece, part, puts, ⟨ran, rfl⟩ | ran⟩
    · rw [Program.run_bind_of_ok ran]
      apply delivered
      · simp [puts]
      · simp only [written_append, puts, opened.quiet]
        rfl
    · rw [Program.run_bind_of_error ran]
      refine carries.exitActs running opened advanced ?_ (by simp) ?_ ?_
      · simp [puts]
      · simp only [written_append, puts, opened.quiet, if_true]
        refine List.IsPrefix.trans ?_ within
        exact (List.prefix_append_right_inj _).mpr (part.trans (List.prefix_append _ _))
      · intro other failed
        cases failed
        exact .inl trivial
  · refine carries.exitActs running opened advanced rfl (by simp) ?_ ?_
    · rw [opened.quiet]
      exact carries.toDest
    · intro other failed
      cases failed
      rcases content.after rfl with linked | closed
      · exact absurd (opened.destLink.trans linked) connected
      · exact .inr ⟨closed, .data, rfl⟩

/-- CLOSE_REQUEST is acknowledged, and ends the circuit. -/
theorem Carries.exitCloses (carries : Carries aead connect world) (running : world.exit.loop.ended = none)
    (opened : Opened world acc io) (advanced : Advanced aead world acc taken guardItems middleItems later)
    (content : Content connect world (.toMe cell :: later) true tail) (isClose : cell.cellType = .closeRequest)
    (cfg : RelayConfig) (env : Env) :
    Carries aead connect { world with
      exit := ⟨CircuitLoop.settle ((Relay.onCell aead { cfg with role := .exit } env cell).run io), taken,
        world.exit.nextTaken⟩ } := by
  have split : cell :: Peeled.cells later = tail := content.cells
  subst split
  have within := content.within
  have whole := content.whole
  rw [payloads_cons, isClose, if_neg (by decide), List.nil_append] at within whole
  -- The frame is opened first; the acknowledgement is then sealed by an exit that still runs.
  have taking : Carries aead connect { world with exit := ⟨⟨io, none⟩, taken, world.exit.nextTaken⟩ } := by
    refine carries.exitActs running opened advanced rfl ?_ ?_ (by simp)
    · refine fun _ => ⟨true, Peeled.cells later, rfl, ?_, by simp, ?_, ?_, ?_⟩
      · exact fun other member => content.kinds other (List.mem_cons_of_mem _ member)
      · exact fun _ => (content.after rfl).imp opened.destLink.trans id
      · simp only [destWritten, opened.quiet]
        exact within
      · simp only [destWritten, opened.quiet]
        exact whole
    · rw [opened.quiet]
      exact carries.toDest
  have nothing : world.destRead ++ payloads [⟨.closeAck, []⟩] = world.destRead := by simp
  have fits : (Cell.mk .closeAck []).Fits := Nat.zero_le _
  have begun : (Relay.onCell aead { cfg with role := .exit } env cell).run io =
      (onCloseRequest aead { cfg with role := .exit } env).run io := by
    simp only [Relay.onCell, isClose]
  rw [begun, onCloseRequest, ← nothing]
  have replied := @reply_eq Key aead { cfg with role := .exit } env rfl .closeAck [] fits io
  cases fault : env.fault io.outputs.length with
  | none =>
      rw [fault] at replied
      rw [Program.run_bind_of_ok replied]
      have sent := @Carries.exitReplies Key aead connect _ taking rfl _ fits (.inr rfl) env.instant none (some (.ok ()))
        (by simp) (by simp)
      exact sent.exitUnlinks (by simp)
  | some count =>
      rw [fault] at replied
      rw [Program.run_bind_of_error replied]
      exact @Carries.exitReplies Key aead connect _ taking rfl _ fits (.inr rfl) env.instant (some count)
        (some (.error (.io (.other "write")))) (by simp) (benign_endedBy (some count))

end Cells

theorem Carries.exitInbound (carries : Carries aead connect world) (running : world.exit.loop.ended = none)
    {target : ConnectPayload} (decoded : ConnectPayload.decode connect = .ok target) (cfg : RelayConfig) (env : Env)
    (count : Nat) :
    Carries aead connect { world with
      exit := world.exit.turn aead { cfg with role := .exit } { env with peer := world.client.io.layers.exit.sent }
        (written .next world.middle.loop.io.outputs) [] (.inbound count) } := by
  rcases @turn_inbound Key aead { cfg with role := .exit } { env with peer := world.client.io.layers.exit.sent }
    world.exit running (written .next world.middle.loop.io.outputs) [] count with
    ⟨-, same⟩ | ⟨-, incomplete, same⟩ | ⟨-, frame, complete, same⟩
  · rw [same]
    exact carries.exitEnds trivial
  · rw [same]
    exact carries.exitReads running incomplete
  rcases carries.exitOpens running complete with
    ⟨cell, guardItems, middleItems, later, connected, tail, peeled, content, advanced⟩
  rw [same, onInboundFrame_toMe peeled]
  have opened : Opened world _ { world.exit.loop.io with
      inbound := (world.exit.loop.io.inbound.receive
        (world.exit.inboundBytes (written .next world.middle.loop.io.outputs) count)).2
      transport := { world.exit.loop.io.transport with received := world.exit.loop.io.transport.received + 1 }
      outputs := world.exit.loop.io.outputs ++ [(env.instant, .acted cell)] } := {
    transport := rfl
    inbound := rfl
    nextLink := carries.exitUnlinked running
    destLink := rfl
    quiet := fun sink => by simp [bytesTo] }
  cases connected with
  | false => exact carries.exitConnects running opened advanced decoded content cfg _
  | true =>
      have first : cell ∈ tail := by
        have split : cell :: Peeled.cells later = tail := content.cells
        rw [← split]
        exact List.mem_cons_self ..
      rcases content.kinds cell first with isData | isClose
      · exact carries.exitDelivers running opened advanced content isData cfg _
      · exact carries.exitCloses running opened advanced content isClose cfg _

/-! ## The destination -/

/-- The chunks of one read are sealed and written in order.  Where a write breaks off the
rest of the read is lost. -/
theorem Carries.exitSendsChunks {cfg : RelayConfig} {env : Env} (layers : inboundLayers cfg.role = 1)
    {chunks : List Bytes} (small : ∀ chunk ∈ chunks, chunk.length ≤ cellPayloadLen)
    (carries : Carries aead connect world) (running : world.exit.loop.ended = none) :
    (∃ io, (Relay.sendChunks aead cfg env chunks).run world.exit.loop.io = (.ok (), io) ∧
      Carries aead connect { world with
        exit := { world.exit with loop := ⟨io, none⟩ }, destRead := world.destRead ++ chunks.flatten }) ∨
    ∃ reason io, (Relay.sendChunks aead cfg env chunks).run world.exit.loop.io = (.error reason, io) ∧
      Carries aead connect { world with
        exit := { world.exit with loop := ⟨io, some (.error reason)⟩ }
        destRead := world.destRead ++ chunks.flatten } := by
  induction chunks generalizing world with
  | nil =>
      left
      refine ⟨world.exit.loop.io, rfl, ?_⟩
      rw [List.flatten_nil, List.append_nil, ← running]
      exact carries
  | cons chunk rest ih =>
      have fits : (Cell.mk .data chunk).Fits := small chunk (List.mem_cons_self ..)
      have carried : world.destRead ++ payloads [⟨.data, chunk⟩] = world.destRead ++ chunk := by simp
      rw [List.flatten_cons, ← List.append_assoc, ← carried, Relay.sendChunks]
      have replied := @reply_eq Key aead cfg env layers .data chunk fits world.exit.loop.io
      cases fault : env.fault world.exit.loop.io.outputs.length with
      | none =>
          rw [fault] at replied
          rw [Program.run_bind_of_ok replied]
          have sends := @Carries.exitReplies Key aead connect world carries running _ fits (.inl rfl) env.instant none none
            (fun _ => rfl) (by simp)
          exact ih (fun other member => small other (List.mem_cons_of_mem _ member)) sends rfl
      | some count =>
          rw [fault] at replied
          rw [Program.run_bind_of_error replied]
          have sends := @Carries.exitReplies Key aead connect world carries running _ fits (.inl rfl) env.instant
            (some count) (some (.error (.io (.other "write")))) (by simp) (benign_endedBy (some count))
          exact .inr ⟨_, _, rfl, sends.destReads (by simp) rest.flatten⟩

theorem Carries.exitReadsDest (carries : Carries aead connect world) (running : world.exit.loop.ended = none)
    (linked : world.exit.loop.io.destLink = true) (cfg : RelayConfig) (env : Env) (arrivals bytes : Bytes) :
    Carries aead connect { world with
      exit := world.exit.turn aead { cfg with role := .exit } env arrivals [] (.dest bytes)
      destRead := world.destRead ++ bytes.take destReadBuf
      destClosed := world.destClosed || bytes.isEmpty } := by
  rcases bytes with - | ⟨first, rest⟩
  · -- The end of the stream closes the destination.
    simp only [Station.turn, running, CircuitLoop.step, Relay.turn, Program.run_get_bind, linked, if_true,
      onDestRead, List.take_nil, List.isEmpty_nil, List.append_nil, Bool.or_true]
    rcases carries.destCloses.outward with ⟨guardItems, middleItems, exitItems, flows, content⟩
    rcases content running with ⟨connected, tail, holds⟩
    refine @Carries.exitUnsealed Key aead connect _ carries.destCloses _ guardItems middleItems exitItems ?_ ?_ ?_
      carries.toDest ?_
    · exact ⟨fun _ => running, rfl, rfl, rfl, fun _ => carries.exitUnlinked running⟩
    · refine flows.exitMoves fun _ => ?_
      exact (flows.exit (by simp [World.outward, Station.reader, running])).retarget rfl rfl rfl
    · exact fun _ => ⟨connected, tail, { holds with before := fun _ => rfl, after := fun _ => .inr rfl }⟩
    · intro reason failed
      cases failed
  have some : ((first :: rest).take destReadBuf).isEmpty = false := rfl
  have joined := Stream.flatten_chunks (by decide : 0 < cellPayloadLen) ((first :: rest).take destReadBuf)
  have small : ∀ chunk ∈ Stream.chunks cellPayloadLen ((first :: rest).take destReadBuf),
      chunk.length ≤ cellPayloadLen := fun _ member => Stream.length_le_of_mem_chunks member
  simp only [Station.turn, running, CircuitLoop.step, Relay.turn, Program.run_get_bind, linked, if_true,
    onDestRead, some, Bool.false_eq_true, if_false, List.isEmpty_cons, Bool.or_false]
  have layers : inboundLayers (RelayConfig.role { cfg with role := .exit }) = 1 := rfl
  rcases @Carries.exitSendsChunks Key aead connect world { cfg with role := .exit } env layers _ small carries running
    with ⟨io, ran, sent⟩ | ⟨reason, io, ran, sent⟩
  · rw [Program.run_bind_of_ok ran]
    rw [joined] at sent
    exact sent
  · rw [Program.run_bind_of_error ran]
    rw [joined] at sent
    exact sent

/-- Every turn of the exit. -/
theorem Carries.exitTurns (carries : Carries aead connect world) {target : ConnectPayload}
    (decoded : ConnectPayload.decode connect = .ok target) (cfg : RelayConfig) (env : Env) (event : RelayEvent) :
    Carries aead connect (world.stepExit aead cfg env event) := by
  cases running : world.exit.loop.ended with
  | some result =>
      cases event with
      | dest bytes =>
          simp only [stepExit, Station.turn_of_ended running, running, Option.isNone_some, Bool.false_eq_true, false_and,
            if_false]
          exact carries
      | _ =>
          simp only [stepExit, Station.turn_of_ended running]
          exact carries
  | none =>
      have unlinked := carries.exitUnlinked running
      have stays : Carries aead connect { world with exit := { world.exit with loop := ⟨world.exit.loop.io, none⟩ } } := by
        rw [← running]
        exact carries
      cases event with
      | inbound count => exact carries.exitInbound running decoded cfg env count
      | inboundError error =>
          simp only [stepExit, Station.turn, running, CircuitLoop.step]
          exact carries.exitEnds trivial
      | timeout =>
          simp only [stepExit, Station.turn, running, CircuitLoop.step]
          exact carries.exitEnds trivial
      | next count =>
          simp only [stepExit, Station.turn, running, CircuitLoop.step, Relay.turn, Program.run_get_bind, unlinked,
            Station.nextBytes, List.drop_nil, List.take_nil, List.length_nil, Nat.add_zero]
          exact stays
      | nextError error =>
          simp only [stepExit, Station.turn, running, CircuitLoop.step, Relay.turn, Program.run_get_bind, unlinked,
            Option.isSome_none, Bool.false_eq_true, if_false]
          exact stays
      | dest bytes =>
          cases linked : world.exit.loop.io.destLink with
          | true =>
              simp only [stepExit, running, linked, Option.isNone_none, and_self, if_true]
              exact carries.exitReadsDest running linked cfg _ _ bytes
          | false =>
              simp only [stepExit, Station.turn, running, CircuitLoop.step, Relay.turn, Program.run_get_bind, linked,
                Bool.false_eq_true, and_false, if_false]
              exact stays
      | destError error =>
          cases linked : world.exit.loop.io.destLink with
          | true =>
              simp only [stepExit, Station.turn, running, CircuitLoop.step, Relay.turn, Program.run_get_bind, linked,
                if_true]
              exact carries.exitEnds trivial
          | false =>
              simp only [stepExit, Station.turn, running, CircuitLoop.step, Relay.turn, Program.run_get_bind, linked,
                Bool.false_eq_true, if_false]
              exact stays

end World

end Circuit
end QuietHop
