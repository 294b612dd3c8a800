import QuietHop.Circuit.Moves

namespace QuietHop
namespace Circuit

open Lib Wire Client Relay

/-!
# The frames of a circuit

The two directions of the traffic, whatever cells they carry.  `ahead` is what the client
has sealed and the exit still has to open, and `behind` what the exit has sealed and the
client still has to open.  The turns of the guard and the middle change neither.
-/

namespace World

variable {Key : Type}

/-- The traffic away from the client. -/
def outward (world : World Key) : Outward Key where
  clientRuns := world.client.ended.isNone
  guardTx := ⟨world.client.io.layers.guard.key, world.client.io.layers.guard.sent⟩
  middleTx := ⟨world.client.io.layers.middle.key, world.client.io.layers.middle.sent⟩
  exitTx := ⟨world.client.io.layers.exit.key, world.client.io.layers.exit.sent⟩
  clientOut := world.linkWritten
  guard := world.guard.reader .next
  middle := world.middle.reader .next
  exit := world.exit.reader .dest

/-- The traffic towards the client. -/
def inward (world : World Key) : Inward Key where
  client := ⟨world.client.ended.isNone, world.client.io.layers.guard.received, world.client.io.inbound,
    world.clientTaken, world.userWritten⟩
  middleRx := world.client.io.layers.middle.received
  exitRx := world.client.io.layers.exit.received
  guard := world.guard.wrapper
  middle := world.middle.wrapper
  exitRuns := world.exit.loop.ended.isNone
  exitTx := ⟨world.exit.loop.io.transport.key, world.exit.loop.io.transport.sent⟩
  exitOut := written .client world.exit.loop.io.outputs

structure Wired (aead : NoiseAead Key) (world : World Key) (ahead behind : List Peeled) : Prop where
  outward : ∃ guardItems middleItems, world.outward.Flows aead guardItems middleItems ahead
  inward : world.client.ended = none -> ∃ guardItems middleItems, world.inward.Returns aead guardItems middleItems behind
  fitting : world.inward.Fitting
  guardLinked : Linked world.guard
  middleLinked : Linked world.middle
  exitUnlinked : world.exit.loop.ended = none -> world.exit.loop.io.nextLink = none

variable {aead : NoiseAead Key} {world : World Key} {ahead behind : List Peeled}

/-! ## The guard -/

/-- A whole frame at a running guard peels to a frame of the next link. -/
theorem Wired.guardOpens (wired : Wired aead world ahead behind) (running : world.guard.loop.ended = none) {count : Nat}
    {frame : Bytes}
    (complete : (world.guard.loop.io.inbound.receive (world.guard.inboundBytes world.linkWritten count)).1 = some frame) :
    ∃ blob, blob.length = linkCellLen 2 ∧
      peel world.client.io.layers.guard.sent world.guard.loop.io.transport frame 3 = (.ok (.forward blob),
        { world.guard.loop.io.transport with received := world.guard.loop.io.transport.received + 1 }) := by
  rcases wired.outward with ⟨_, _, flows⟩
  have inlet := flows.guard (by simp [World.outward, Station.reader, running])
  rcases inlet.read (Nat.min_le_right count _) with ⟨incomplete, -⟩ | ⟨other, item, later, found, rfl, peels, -⟩
  · cases complete.symm.trans incomplete
  cases complete.symm.trans found
  rcases Inward.eq_forward_of_isForward (flows.guardForwards item (List.mem_cons_self ..)) with ⟨blob, rfl⟩
  have legal := inlet.pending.legal (.forward blob) (List.mem_cons_self ..)
  exact ⟨blob, legal.2, peels world.guard.loop.io.transport rfl⟩

theorem Wired.guardMoved (wired : Wired aead world ahead behind) (running : world.guard.loop.ended = none)
    {after : Station Key}
    (moved : Moved aead 2 world.client.io.layers.guard.sent world.linkWritten
      (written .client world.middle.loop.io.outputs) world.guard after) :
    Wired aead { world with guard := after } ahead behind := by
  have runs : (world.guard.reader .next).running = true := by simp [Station.reader, running]
  have wraps : world.guard.wrapper.running = true := by simp [Station.wrapper, running]
  have fit := wired.fitting.guard wraps
  -- What the move does to each direction is all that is left to say.
  have enough
      (out : forall guardItems middleItems, world.outward.Flows aead guardItems middleItems ahead ->
        ∃ later, Outward.Flows aead { world.outward with guard := after.reader .next } later middleItems ahead)
      (back : forall guardItems middleItems, world.inward.Returns aead guardItems middleItems behind ->
        ∃ later, Inward.Returns aead { world.inward with guard := after.wrapper } later middleItems behind) :
      Wired aead { world with guard := after } ahead behind := by
    refine { wired with
      outward := ?_, inward := ?_, fitting := ⟨moved.moves.fit fit, wired.fitting.middle⟩, guardLinked := moved.linked }
    · rcases wired.outward with ⟨guardItems, middleItems, flows⟩
      rcases out _ _ flows with ⟨later, flows⟩
      exact ⟨later, middleItems, flows⟩
    · intro clientRuns
      rcases wired.inward clientRuns with ⟨guardItems, middleItems, returns⟩
      rcases back _ _ returns with ⟨later, returns⟩
      exact ⟨later, middleItems, returns⟩
  cases moved.moves with
  | stays same =>
      subst same
      exact wired
  | stops reader wrapper =>
      refine enough (fun _ _ flows => ?_) (fun _ _ returns => ?_)
      · exact ⟨[], flows.guardStops (by rw [reader]) (by rw [reader]; exact (List.append_nil _).symm) List.nil_prefix⟩
      · exact ⟨_, returns.guardStops (by rw [wrapper]) (by rw [wrapper]; rfl) (by rw [wrapper]; rfl)⟩
  | reads count fits incomplete reader wrapper =>
      refine enough (fun _ _ flows => ?_) (fun _ _ returns => ?_)
      · rcases (flows.guard runs).read fits with ⟨-, own⟩ | ⟨frame, -, -, complete, -⟩
        · rw [reader]
          exact ⟨_, flows.guardReads (fun _ => own) rfl rfl⟩
        · cases complete.symm.trans incomplete
      · rw [wrapper]
        exact ⟨_, returns⟩
  | passes count fits frame blob piece still complete peeled part whole reader wrapper =>
      refine enough (fun _ _ flows => ?_) (fun _ _ returns => ?_)
      · rcases (flows.guard runs).read fits with ⟨incomplete, -⟩ | ⟨other, item, later, found, rfl, peels, own⟩
        · cases complete.symm.trans incomplete
        cases complete.symm.trans found
        have opened := congrArg Prod.fst (peels world.guard.loop.io.transport rfl)
        cases opened.symm.trans peeled
        rw [reader]
        cases still with
        | true =>
            refine ⟨later, flows.guardPasses (own.retarget rfl rfl rfl) runs.symm ?_⟩
            rw [whole rfl]
            rfl
        | false =>
            refine ⟨[], flows.guardStops rfl rfl ?_⟩
            rw [Peeled.blobs, List.flatten_cons]
            exact part.trans (List.prefix_append _ _)
      · rw [wrapper]
        cases still with
        | true =>
            rw [Station.wrapper_of_running running]
            exact ⟨_, returns⟩
        | false => exact ⟨_, returns.guardStops rfl rfl rfl⟩
  | nextReads count fits incomplete reader wrapper =>
      refine enough (fun _ _ flows => ?_) (fun _ _ returns => ?_)
      · rw [reader]
        exact ⟨_, flows⟩
      · rw [wrapper]
        exact ⟨_, returns.guardReads wraps fit fits incomplete⟩
  | wraps count fits frame piece still complete part whole reader wrapper =>
      refine enough (fun _ _ flows => ?_) (fun _ _ returns => ?_)
      · rw [reader]
        cases still with
        | true =>
            rw [Station.reader_of_running running]
            exact ⟨_, flows⟩
        | false => exact ⟨[], flows.guardStops rfl (List.append_nil _).symm List.nil_prefix⟩
      · rw [wrapper]
        exact ⟨_, returns.guardWraps wraps fit fits complete part whole⟩

/-- Every turn of a running guard is one of the moves. -/
theorem Wired.guardMoves (wired : Wired aead world ahead behind) (running : world.guard.loop.ended = none)
    (cfg : RelayConfig) (env : Env) (event : RelayEvent) :
    Moved aead 2 world.client.io.layers.guard.sent world.linkWritten (written .client world.middle.loop.io.outputs)
      world.guard
      (world.guard.turn aead { cfg with role := .guard } { env with peer := world.client.io.layers.guard.sent }
        world.linkWritten (written .client world.middle.loop.io.outputs) event) := by
  have wraps : world.guard.wrapper.running = true := by simp [Station.wrapper, running]
  refine @moved_turn Key aead { cfg with role := .guard } { env with peer := world.client.io.layers.guard.sent }
    world.guard _ _ 2 running wired.guardLinked rfl (wired.fitting.guard wraps) ?_ event
  intro count frame complete
  rcases wired.guardOpens running complete with ⟨blob, -, peeled⟩
  exact ⟨blob, peeled⟩

theorem Wired.guardTurns (wired : Wired aead world ahead behind) (cfg : RelayConfig) (env : Env)
    (event : RelayEvent) :
    Wired aead { world with
      guard := world.guard.turn aead { cfg with role := .guard } { env with peer := world.client.io.layers.guard.sent }
        world.linkWritten (written .client world.middle.loop.io.outputs) event } ahead behind := by
  cases running : world.guard.loop.ended with
  | some result =>
      rw [Station.turn_of_ended running]
      exact wired
  | none => exact wired.guardMoved running (wired.guardMoves running cfg env event)

/-! ## The middle -/

theorem Wired.middleOpens (wired : Wired aead world ahead behind) (running : world.middle.loop.ended = none)
    {count : Nat} {frame : Bytes}
    (complete : (world.middle.loop.io.inbound.receive
      (world.middle.inboundBytes (written .next world.guard.loop.io.outputs) count)).1 = some frame) :
    ∃ blob, blob.length = linkCellLen 1 ∧
      peel world.client.io.layers.middle.sent world.middle.loop.io.transport frame 2 = (.ok (.forward blob),
        { world.middle.loop.io.transport with received := world.middle.loop.io.transport.received + 1 }) := by
  rcases wired.outward with ⟨_, _, flows⟩
  have inlet := flows.middle (by simp [World.outward, Station.reader, running])
  rcases inlet.read (Nat.min_le_right count _) with ⟨incomplete, -⟩ | ⟨other, item, later, found, rfl, peels, -⟩
  · cases complete.symm.trans incomplete
  cases complete.symm.trans found
  rcases Inward.eq_forward_of_isForward (flows.middleForwards item (List.mem_cons_self ..)) with ⟨blob, rfl⟩
  have legal := inlet.pending.legal (.forward blob) (List.mem_cons_self ..)
  exact ⟨blob, legal.2, peels world.middle.loop.io.transport rfl⟩

theorem Wired.middleMoved (wired : Wired aead world ahead behind) (running : world.middle.loop.ended = none)
    {after : Station Key}
    (moved : Moved aead 1 world.client.io.layers.middle.sent (written .next world.guard.loop.io.outputs)
      (written .client world.exit.loop.io.outputs) world.middle after) :
    Wired aead { world with middle := after } ahead behind := by
  have runs : (world.middle.reader .next).running = true := by simp [Station.reader, running]
  have wraps : world.middle.wrapper.running = true := by simp [Station.wrapper, running]
  have fit := wired.fitting.middle wraps
  -- What the move does to each direction is all that is left to say.
  have enough
      (out : forall guardItems middleItems, world.outward.Flows aead guardItems middleItems ahead ->
        ∃ later, Outward.Flows aead { world.outward with middle := after.reader .next } guardItems later ahead)
      (back : forall guardItems middleItems, world.inward.Returns aead guardItems middleItems behind ->
        ∃ later, Inward.Returns aead { world.inward with middle := after.wrapper } guardItems later behind) :
      Wired aead { world with middle := after } ahead behind := by
    have guardFits : world.guard.wrapper.running = true -> world.guard.wrapper.Fit 2 after.wrapper.out := by
      rcases moved.moves.grown with ⟨piece, out⟩
      intro running
      rw [out]
      exact (wired.fitting.guard running).grow piece
    refine { wired with
      outward := ?_, inward := ?_, fitting := ⟨guardFits, moved.moves.fit fit⟩, middleLinked := moved.linked }
    · rcases wired.outward with ⟨guardItems, middleItems, flows⟩
      rcases out _ _ flows with ⟨later, flows⟩
      exact ⟨guardItems, later, flows⟩
    · intro clientRuns
      rcases wired.inward clientRuns with ⟨guardItems, middleItems, returns⟩
      rcases back _ _ returns with ⟨later, returns⟩
      exact ⟨guardItems, later, returns⟩
  cases moved.moves with
  | stays same =>
      subst same
      exact wired
  | stops reader wrapper =>
      refine enough (fun _ _ flows => ?_) (fun _ _ returns => ?_)
      · exact ⟨[], flows.middleStops (by rw [reader]) (by rw [reader]; exact (List.append_nil _).symm) List.nil_prefix⟩
      · exact ⟨_, returns.middleStops (by rw [wrapper]) (by rw [wrapper]; rfl) (by rw [wrapper]; rfl)⟩
  | reads count fits incomplete reader wrapper =>
      refine enough (fun _ _ flows => ?_) (fun _ _ returns => ?_)
      · rcases (flows.middle runs).read fits with ⟨-, own⟩ | ⟨frame, -, -, complete, -⟩
        · rw [reader]
          exact ⟨_, flows.middleReads (fun _ => own) rfl rfl⟩
        · cases complete.symm.trans incomplete
      · rw [wrapper]
        exact ⟨_, returns⟩
  | passes count fits frame blob piece still complete peeled part whole reader wrapper =>
      refine enough (fun _ _ flows => ?_) (fun _ _ returns => ?_)
      · rcases (flows.middle runs).read fits with ⟨incomplete, -⟩ | ⟨other, item, later, found, rfl, peels, own⟩
        · cases complete.symm.trans incomplete
        cases complete.symm.trans found
        have opened := congrArg Prod.fst (peels world.middle.loop.io.transport rfl)
        cases opened.symm.trans peeled
        rw [reader]
        cases still with
        | true =>
            refine ⟨later, flows.middlePasses (own.retarget rfl rfl rfl) runs.symm ?_⟩
            rw [whole rfl]
            rfl
        | false =>
            refine ⟨[], flows.middleStops rfl rfl ?_⟩
            rw [Peeled.blobs, List.flatten_cons]
            exact part.trans (List.prefix_append _ _)
      · rw [wrapper]
        cases still with
        | true =>
            rw [Station.wrapper_of_running running]
            exact ⟨_, returns⟩
        | false => exact ⟨_, returns.middleStops rfl rfl rfl⟩
  | nextReads count fits incomplete reader wrapper =>
      refine enough (fun _ _ flows => ?_) (fun _ _ returns => ?_)
      · rw [reader]
        exact ⟨_, flows⟩
      · rw [wrapper]
        exact ⟨_, returns.middleReads wraps fit fits incomplete⟩
  | wraps count fits frame piece still complete part whole reader wrapper =>
      refine enough (fun _ _ flows => ?_) (fun _ _ returns => ?_)
      · rw [reader]
        cases still with
        | true =>
            rw [Station.reader_of_running running]
            exact ⟨_, flows⟩
        | false => exact ⟨[], flows.middleStops rfl (List.append_nil _).symm List.nil_prefix⟩
      · rw [wrapper]
        exact ⟨_, returns.middleWraps wired.fitting wraps fits complete part whole⟩

/-- Every turn of a running middle is one of the moves. -/
theorem Wired.middleMoves (wired : Wired aead world ahead behind) (running : world.middle.loop.ended = none)
    (cfg : RelayConfig) (env : Env) (event : RelayEvent) :
    Moved aead 1 world.client.io.layers.middle.sent (written .next world.guard.loop.io.outputs)
      (written .client world.exit.loop.io.outputs) world.middle
      (world.middle.turn aead { cfg with role := .middle } { env with peer := world.client.io.layers.middle.sent }
        (written .next world.guard.loop.io.outputs) (written .client world.exit.loop.io.outputs) event) := by
  have wraps : world.middle.wrapper.running = true := by simp [Station.wrapper, running]
  refine @moved_turn Key aead { cfg with role := .middle } { env with peer := world.client.io.layers.middle.sent }
    world.middle _ _ 1 running wired.middleLinked rfl (wired.fitting.middle wraps) ?_ event
  intro count frame complete
  rcases wired.middleOpens running complete with ⟨blob, -, peeled⟩
  exact ⟨blob, peeled⟩

theorem Wired.middleTurns (wired : Wired aead world ahead behind) (cfg : RelayConfig) (env : Env)
    (event : RelayEvent) :
    Wired aead { world with
      middle := world.middle.turn aead { cfg with role := .middle }
        { env with peer := world.client.io.layers.middle.sent } (written .next world.guard.loop.io.outputs)
        (written .client world.exit.loop.io.outputs) event } ahead behind := by
  cases running : world.middle.loop.ended with
  | some result =>
      rw [Station.turn_of_ended running]
      exact wired
  | none => exact wired.middleMoved running (wired.middleMoves running cfg env event)

end World
end Circuit
end QuietHop
