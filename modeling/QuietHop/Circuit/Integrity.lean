import QuietHop.Circuit.ClientTurn
import QuietHop.Circuit.ExitTurn

namespace QuietHop
namespace Circuit

open Lib Wire Client Relay

/-!
# End-to-end integrity of the stream

A circuit on which CONNECT has just been sealed carries the stream, every step of every
party preserves that, and so does every run.
-/

namespace World

variable {Key : Type} {aead : NoiseAead Key} {connect : Bytes} {world : World Key}

/-! ## Steps and runs -/

theorem Carries.step (carries : Carries aead connect world) {target : ConnectPayload}
    (decoded : ConnectPayload.decode connect = .ok target) (cfg : Hop -> RelayConfig) (event : WorldEvent) :
    Carries aead connect (world.step aead cfg event) := by
  cases event with
  | user bytes fault => exact carries.userTurns bytes fault
  | link count fault => exact carries.linkTurns count fault
  | linkError fault => exact carries.linkFails fault
  | relay hop env event =>
      cases hop with
      | guard => exact carries.guardTurns (cfg .guard) env event
      | middle => exact carries.middleTurns (cfg .middle) env event
      | exit => exact carries.exitTurns decoded (cfg .exit) env event

theorem Carries.run (carries : Carries aead connect world) {target : ConnectPayload}
    (decoded : ConnectPayload.decode connect = .ok target) (cfg : Hop -> RelayConfig) (events : List WorldEvent) :
    Carries aead connect (world.run aead cfg events) := by
  induction events generalizing world with
  | nil => exact carries
  | cons event rest ih => exact ih (carries.step decoded cfg event)

/-! ## The beginning -/

/-- A reader that has read all that was sealed for it. -/
theorem inlet_idle {depth : Nat} {source : Prop} {tx : Outgoing Key} {reader : Reader} {arrivals : Bytes}
    (received : reader.received = tx.sent.length) (fresh : reader.acc = FrameAccumulator.new (linkCellLen (depth + 1)))
    (taken : reader.taken = arrivals.length) : Inlet aead depth source tx reader arrivals [] [] where
  pending := .nil received
  unfilled := by
    rw [fresh]
    exact FrameAccumulator.unfilled_new (linkCellLen_pos _)
  frameLen := by
    rw [fresh]
    rfl
  within := Nat.le_of_eq taken
  feeds := by
    apply Stream.Feeds.of_eq
    rw [fresh, taken, received, inFlight, List.drop_length, List.drop_length]
    rfl

/-- A wrapper that has wrapped all that was sealed for the client. -/
theorem outlet_idle {wrapper : Wrapper Key} {arrivals : Bytes} {source : Prop} {tx : Outgoing Key} {received depth : Nat}
    (reached : received = tx.sent.length) (fresh : wrapper.acc = FrameAccumulator.new (linkCellLen depth))
    (taken : wrapper.taken = arrivals.length) : Outlet wrapper [] arrivals source tx received := by
  apply Stream.Feeds.of_eq
  rw [Wrapper.held, fresh, taken, reached, inFlight, List.drop_length, List.drop_length]
  split_ifs <;> rfl

theorem fit_idle {wrapper : Wrapper Key} {arrivals : Bytes} {depth : Nat}
    (fresh : wrapper.acc = FrameAccumulator.new (linkCellLen depth)) (taken : wrapper.taken = arrivals.length) :
    wrapper.Fit depth arrivals where
  unfilled := by
    rw [fresh]
    exact FrameAccumulator.unfilled_new (linkCellLen_pos _)
  frameLen := by
    rw [fresh]
    rfl
  within := Nat.le_of_eq taken

theorem Established.flows (established : world.Established) : world.outward.Flows aead [] [] [] where
  guard := fun _ => inlet_idle established.guardOut established.guardIn established.guardTaken
  middle := fun _ => inlet_idle established.middleOut established.middleIn established.middleTaken
  exit := fun _ => inlet_idle established.exitOut established.exitIn established.exitTaken
  guardForwards := by simp
  middleForwards := by simp

theorem Established.guardAcc (established : world.Established) :
    world.guard.wrapper.acc = FrameAccumulator.new (linkCellLen 2) := by
  rw [Station.wrapper, established.guardNext]
  rfl

theorem Established.middleAcc (established : world.Established) :
    world.middle.wrapper.acc = FrameAccumulator.new (linkCellLen 1) := by
  rw [Station.wrapper, established.middleNext]
  rfl

theorem Established.returns (established : world.Established) : world.inward.Returns aead [] [] [] where
  client := inlet_idle established.guardBack established.clientIn established.clientTaken
  middle := .nil established.middleBack
  exit := .nil established.exitBack
  middleOut := outlet_idle established.middleBack established.guardAcc established.guardNextTaken
  exitOut := outlet_idle established.exitBack established.middleAcc established.middleNextTaken
  guardForwards := by simp
  middleForwards := by simp

theorem Established.fitting (established : world.Established) : world.inward.Fitting where
  guard := fun _ => fit_idle established.guardAcc established.guardNextTaken
  middle := fun _ => fit_idle established.middleAcc established.middleNextTaken

/-- The circuit with one more sealed cell on its first link. -/
def connecting (aead : NoiseAead Key) (world : World Key) (cell : Cell) : World Key :=
  { world with
    client := { world.client with
      io := { world.client.io with
        layers := sealedLayers aead world.client.io.layers cell
        outputs := world.client.io.outputs ++ [.wroteLink (sealedFrame aead world.client.io.layers cell)] } } }

theorem connect_of_encode {payload : ConnectPayload} {encoded : Bytes} (encodes : payload.encode = .ok encoded)
    (small : encoded.length ≤ cellPayloadLen) :
    world.connect aead payload = .ok (world.connecting aead ⟨.connect, encoded⟩) := by
  have fits : (Cell.mk .connect encoded).Fits := small
  simp only [World.connect, encodes, Cell.new_of_le small, sealForExit_eq world.client.io.layers fits]
  rfl

/-- Whatever `connect` returns has CONNECT on the link. -/
theorem connect_ok {payload : ConnectPayload} {start : World Key} (connected : world.connect aead payload = .ok start) :
    ∃ encoded, payload.encode = .ok encoded ∧ (Cell.mk .connect encoded).Fits ∧
      start = world.connecting aead ⟨.connect, encoded⟩ := by
  cases encodes : payload.encode with
  | error reason =>
      rw [World.connect, encodes] at connected
      cases connected
  | ok encoded =>
      by_cases small : encoded.length ≤ cellPayloadLen
      · rw [connect_of_encode encodes small] at connected
        cases connected
        exact ⟨encoded, rfl, small, rfl⟩
      · have refused : Cell.new .connect encoded = .error (.tooLarge encoded.length) := by
          rw [Cell.new, if_pos (Nat.lt_of_not_le small)]
        simp only [World.connect, encodes, refused] at connected
        cases connected

/-- Once CONNECT is on the link, the circuit carries the stream. -/
theorem Established.carries (established : world.Established) {encoded : Bytes}
    (fits : (Cell.mk .connect encoded).Fits) :
    Carries aead encoded (world.connecting aead ⟨.connect, encoded⟩) := by
  have clientRuns : world.outward.clientRuns = true := by simp [World.outward, established.clientRuns]
  have exitReads : world.outward.exit.running = true := by simp [World.outward, Station.reader, established.exitRuns]
  have toUser : (world.connecting aead ⟨.connect, encoded⟩).userWritten = world.userWritten :=
    userBytes_sealing aead none _ world.client.io
  have out : (world.connecting aead ⟨.connect, encoded⟩).outward =
      world.outward.sealed aead ⟨.connect, encoded⟩ _ world.client.ended.isNone :=
    outward_sealing fits none world.client.ended
  have back : (world.connecting aead ⟨.connect, encoded⟩).inward = world.inward := inward_sealing fits none
  have flows : world.outward.Flows aead [] [] [] := established.flows
  have seals := flows.seal fits clientRuns (List.prefix_refl _) (fun _ : world.client.ended.isNone = true => rfl)
  refine {
    outward := ⟨_, _, _, out ▸ seals, fun _ => ⟨false, [], ?_⟩⟩
    inward := fun _ => ⟨[], [], [], back ▸ established.returns, by simp [Peeled.cells], ?_, fun _ => ?_⟩
    fitting := back ▸ established.fitting
    guardLinked := ⟨?_, established.guardDest⟩
    middleLinked := ⟨?_, established.middleDest⟩
    exitUnlinked := fun _ => established.exitNext
    toDest := ?_
    toUser := ?_
    guardBenign := ?_
    middleBenign := ?_
    exitBenign := ?_
    clientHarmless := ?_ }
  · rw [Outward.behind_of_running exitReads]
    have within : world.destWritten ++ payloads [] = world.userRead := by
      rw [established.noDestData, established.userRead]
      rfl
    exact {
      cells := rfl
      kinds := by simp
      before := fun _ => established.exitDest
      after := by simp
      within := within ▸ List.prefix_refl _
      whole := fun _ => within }
  · rw [toUser, established.noUserData]
    exact List.nil_prefix
  · rw [toUser, established.noUserData]
    exact established.destRead.symm
  · exact Option.isSome_iff_exists.mpr ⟨_, established.guardNext⟩
  · exact Option.isSome_iff_exists.mpr ⟨_, established.middleNext⟩
  · have none : (world.connecting aead ⟨.connect, encoded⟩).destWritten = [] := established.noDestData
    rw [none]
    exact List.nil_prefix
  · rw [toUser, established.noUserData]
    exact List.nil_prefix
  · intro reason failed
    cases established.guardRuns.symm.trans failed
  · intro reason failed
    cases established.middleRuns.symm.trans failed
  · intro reason failed
    cases established.exitRuns.symm.trans failed
  · intro reason failed
    cases established.clientRuns.symm.trans failed

end World

section Integrity

variable {Key : Type}

/-- Nothing but the data read at one end is written at the other, and no party meets a
layer, a cell or a role it cannot handle, unless the exit is sent data for a destination
that has closed. -/
theorem stream_integrity (aead : NoiseAead Key) (cfg : Hop -> RelayConfig) {world start : World Key}
    (established : world.Established) {payload : ConnectPayload} (connected : world.connect aead payload = .ok start)
    (events : List WorldEvent) :
    (start.run aead cfg events).destWritten <+: (start.run aead cfg events).userRead ∧
    (start.run aead cfg events).userWritten <+: (start.run aead cfg events).destRead ∧
    (forall reason, (start.run aead cfg events).guard.loop.ended = some (.error reason) -> Benign reason) ∧
    (forall reason, (start.run aead cfg events).middle.loop.ended = some (.error reason) -> Benign reason) ∧
    (forall reason, (start.run aead cfg events).exit.loop.ended = some (.error reason) ->
      Benign reason ∨
        (start.run aead cfg events).destClosed = true ∧ ∃ cellType, reason = .illegalCellForRole cellType .exit) ∧
    (forall reason, (start.run aead cfg events).client.ended = some reason -> Harmless reason) := by
  rcases World.connect_ok connected with ⟨encoded, encodes, fits, rfl⟩
  have carries : World.Carries aead encoded (world.connecting aead ⟨.connect, encoded⟩) := established.carries fits
  have reached := carries.run (ConnectPayload.decode_encode encodes) cfg events
  exact ⟨reached.toDest, reached.toUser, reached.guardBenign, reached.middleBenign, reached.exitBenign,
    reached.clientHarmless⟩

/-! ## A circuit on which nothing has happened -/

def idleStation (role : Role) (nextLink : Option FrameAccumulator) : Station Unit :=
  ⟨⟨⟨⟨(), [], 0⟩, FrameAccumulator.new (inboundLen role), nextLink, false, []⟩, none⟩, 0, 0⟩

def idleWorld : World Unit where
  client := CircuitTask.start ⟨⟨(), [], 0⟩, ⟨(), [], 0⟩, ⟨(), [], 0⟩⟩
  clientTaken := 0
  guard := idleStation .guard (some (FrameAccumulator.new (linkCellLen 2)))
  middle := idleStation .middle (some (FrameAccumulator.new (linkCellLen 1)))
  exit := idleStation .exit none
  userRead := []
  destRead := []
  destClosed := false

theorem idleWorld_established : idleWorld.Established := by
  constructor <;> rfl

def idleEnv : Env where
  peer := []
  instant := ⟨none, 0⟩
  fault := fun _ => none
  dialTls := .ok ()
  message2 := .error .timeout
  parseUrl := fun _ => some ⟨"socks5", some "proxy", some 1080⟩
  dialSocks := .connected

/-- The user writes one byte, and every relay reads two frames. -/
def oneByte : List WorldEvent :=
  [.user [104] fun _ => none,
    .relay .guard idleEnv (.inbound 564), .relay .guard idleEnv (.inbound 564),
    .relay .middle idleEnv (.inbound 547), .relay .middle idleEnv (.inbound 547),
    .relay .exit idleEnv (.inbound 530), .relay .exit idleEnv (.inbound 530)]

/-- The byte arrives at the destination, and it is what was read from the user. -/
theorem stream_integrity_one_byte :
    idleWorld.connect (Aead.zeroTag noiseTagLen) ⟨"h", 443⟩ =
      .ok (idleWorld.connecting (Aead.zeroTag noiseTagLen) ⟨.connect, [0, 1, 104, 1, 187]⟩) ∧
    ((idleWorld.connecting (Aead.zeroTag noiseTagLen) ⟨.connect, [0, 1, 104, 1, 187]⟩).run (Aead.zeroTag noiseTagLen)
      (fun _ => ⟨.exit, [443], some "socks5://proxy:1080"⟩) oneByte).destWritten = [104] ∧
    ((idleWorld.connecting (Aead.zeroTag noiseTagLen) ⟨.connect, [0, 1, 104, 1, 187]⟩).run (Aead.zeroTag noiseTagLen)
      (fun _ => ⟨.exit, [443], some "socks5://proxy:1080"⟩) oneByte).destWritten <+:
      ((idleWorld.connecting (Aead.zeroTag noiseTagLen) ⟨.connect, [0, 1, 104, 1, 187]⟩).run
        (Aead.zeroTag noiseTagLen) (fun _ => ⟨.exit, [443], some "socks5://proxy:1080"⟩) oneByte).userRead := by
  have encodes : ConnectPayload.encode ⟨"h", 443⟩ = .ok [0, 1, 104, 1, 187] := by decide +kernel
  have connected := @World.connect_of_encode Unit (Aead.zeroTag noiseTagLen) idleWorld _ _ encodes (by decide)
  exact ⟨connected, by decide +kernel, (stream_integrity _ _ idleWorld_established connected oneByte).1⟩

end Integrity
end Circuit
end QuietHop
