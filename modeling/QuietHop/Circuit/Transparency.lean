import QuietHop.Circuit.CoverWired

namespace QuietHop
namespace Circuit

open Lib Lib.Thinning Wire Client Relay

/-!
# Cover cells are transparent

The four parties of a covered circuit stay in step with those of the circuit without cover
cells.  Each turn of the covered circuit either reads or seals cover cells only, and then the
other circuit does nothing, or it is matched by the same turn there.
-/

/-! ## What the ends open -/

theorem sealedSince_at {Key : Type} {tx : Transport Key} {count index : Nat} {message : Sealed}
    (here : tx.sent[index]? = some message) (begun : count ≤ index) :
    (sealedSince count tx)[index - count]? = some message.plain := by
  rw [sealedSince, List.getElem?_map, List.getElem?_drop, Nat.add_sub_cancel' begun, here]
  rfl

namespace World

variable {Key : Type} {aead : NoiseAead Key} {cfg : Hop -> RelayConfig} {start world whole thin : World Key}

def terminal (world : World Key) : Terminal Key := ⟨world.client, world.clientTaken⟩

/-- The exit opens the cells that the client has sealed, in order. -/
theorem Sound.exitOpensCell (sound : Sound aead world) (established : start.Established)
    (running : world.exit.loop.ended = none) (begun : start.exit.inboundEnd.count ≤ world.exit.inboundEnd.count) :
    ExitTallies.OpensCell (outPlains start world) world.client.io.layers.exit.sent start.exit world.exit
      (written .next world.middle.loop.io.outputs) := by
  intro count frame complete
  rcases sound with ⟨ahead, behind, wired⟩
  rcases wired.exitOpens running complete with ⟨cell, _, _, later, rfl, pending, peeled, -⟩
  refine ⟨cell, pending.legal _ (List.mem_cons_self ..), ?_, peeled⟩
  have from_start : start.exit.inboundEnd.count = start.client.io.layers.exit.sent.length := established.exitOut
  rw [from_start] at begun ⊢
  exact sealedSince_at pending.getElem?_log begun

/-- The client opens the cells that the exit has sealed, in order. -/
theorem Sound.clientOpensCell (sound : Sound aead world) (established : start.Established)
    (running : world.client.ended = none)
    (begun : start.terminal.inboundEnd.count ≤ world.terminal.inboundEnd.count) :
    ClientTallies.OpensCell (backPlains start world) world.logs start.terminal world.terminal
      (written .client world.guard.loop.io.outputs) := by
  intro count frame complete
  rcases sound with ⟨ahead, behind, wired⟩
  rcases wired.inward running with ⟨guardItems, middleItems, returns⟩
  have room : min count world.client.io.inbound.room ≤ world.inward.client.acc.room := Nat.min_le_right _ _
  rcases @Inward.Returns.clientReads Key aead world.inward _ _ _ _ returns world.client.io.layers ⟨rfl, rfl, rfl⟩ room
    with ⟨incomplete, -⟩ | ⟨other, cell, _, _, later, found, rfl, peeled, -⟩
  · cases complete.symm.trans incomplete
  cases complete.symm.trans found
  refine ⟨cell, returns.exit.legal _ (List.mem_cons_self ..), ?_, peeled⟩
  have from_start : start.terminal.inboundEnd.count = start.exit.loop.io.transport.sent.length := established.exitBack
  rw [from_start] at begun ⊢
  exact sealedSince_at returns.exit.getElem?_log begun

/-! ## Circuits in step -/

/-- A covered circuit and its counterpart, which have both begun at `start`. -/
structure Paired (start whole thin : World Key) : Prop where
  client : ClientTallies (backPlains start whole) start.terminal whole.terminal thin.terminal
  guard : Tallies (outPlains start whole) (backPlains start whole) 2 start.guard whole.guard thin.guard
  middle : Tallies (outPlains start whole) (backPlains start whole) 1 start.middle whole.middle thin.middle
  exit : ExitTallies (outPlains start whole) start.exit whole.exit thin.exit

/-- Two circuits in step look the same from outside. -/
theorem Paired.seen (paired : Paired start whole thin) : thin.seen = whole.seen := by
  rcases paired.client.alike with ⟨_, client⟩
  rcases paired.exit.alike with ⟨_, exit⟩
  have toDest : thin.destWritten = whole.destWritten := exit.toDest
  have toUser : thin.userWritten = whole.userWritten := client.toUser
  have ended : thin.client.ended = whole.client.ended := paired.client.ended
  rw [World.seen, World.seen, toDest, toUser, exit.dialed, ended, paired.guard.ended, paired.middle.ended,
    paired.exit.ended]

theorem Paired.outPlains_thin (paired : Paired start whole thin) :
    outPlains start thin = (outPlains start whole).filter isReal := by
  rcases paired.client.alike with ⟨_, client⟩
  exact client.sealedAs

theorem Paired.backPlains_thin (paired : Paired start whole thin) :
    backPlains start thin = (backPlains start whole).filter isReal := by
  rcases paired.exit.alike with ⟨_, exit⟩
  exact exit.sealedAs

/-! ## The beginning -/

theorem sealedSince_self (tx : Transport Key) : sealedSince tx.sent.length tx = [] := by
  rw [sealedSince, List.drop_length]
  rfl

theorem Tallies.begin {depth : Nat} {station : Station Key}
    (inbound : station.loop.io.inbound = FrameAccumulator.new (linkCellLen (depth + 1)))
    (nextLink : station.loop.io.nextLink = some (FrameAccumulator.new (linkCellLen depth))) :
    Tallies [] [] depth station station station where
  ended := rfl
  fewer := Nat.le_refl _
  inbound := fun _ => Reading.begin _ _ (by simp [Station.inboundEnd, inbound, FrameAccumulator.new])
    (by simp [Station.inboundEnd, inbound, FrameAccumulator.new]) (linkCellLen_pos _)
  next := fun _ => Reading.begin _ _ (by simp [Station.nextEnd, nextLink, FrameAccumulator.new])
    (by simp [Station.nextEnd, nextLink, FrameAccumulator.new]) (linkCellLen_pos _)
  toNext := Squeezed.start _
  toClient := Squeezed.start _
  passed := fun _ => by rw [Nat.sub_self, Nat.mul_zero, Nat.add_zero]
  wrapped := fun _ => by rw [Nat.sub_self, Nat.mul_zero, Nat.add_zero]

theorem Established.paired (established : world.Established) : Paired world world world := by
  have out : outPlains world world = [] := sealedSince_self _
  have back : backPlains world world = [] := sealedSince_self _
  refine ⟨?_, ?_, ?_, ?_⟩
  · rw [back]
    refine ⟨rfl, ⟨0, rfl, rfl, rfl, rfl, Nat.le_refl _, Nat.le_refl _, ?_, Squeezed.start _⟩, fun _ => ?_, fun _ => ?_⟩
    · rw [sealedSince_self]
      rfl
    · refine Reading.begin _ _ ?_ ?_ (linkCellLen_pos _)
      · simp [terminal, Terminal.inboundEnd, established.clientIn, FrameAccumulator.new]
      · simp [terminal, Terminal.inboundEnd, established.clientIn, FrameAccumulator.new]
    · rw [sealedSince_self]
      rfl
  · rw [out, back]
    exact Tallies.begin established.guardIn established.guardNext
  · rw [out, back]
    exact Tallies.begin established.middleIn established.middleNext
  · rw [out]
    refine ⟨rfl, ⟨0, rfl, rfl, rfl, rfl, rfl, rfl, Nat.le_refl _, Nat.le_refl _, ?_, Squeezed.start _⟩, fun _ => ?_,
      fun _ => ?_⟩
    · rw [sealedSince_self]
      rfl
    · refine Reading.begin _ _ ?_ ?_ (linkCellLen_pos _)
      · simp [Station.inboundEnd, established.exitIn, FrameAccumulator.new]
      · simp [Station.inboundEnd, established.exitIn, FrameAccumulator.new, inboundLen, inboundLayers]
    · rw [sealedSince_self]
      rfl

/-! ## What the parties find on their links -/

section Beside

variable (paired : Paired start whole thin) (established : start.Established) (sound : Sound aead whole)
  (thinSound : Sound aead thin)
include paired established sound thinSound

theorem Paired.guardBeside :
    Tallies.Beside (outPlains start whole) (backPlains start whole) 2 start.guard whole.guard thin.guard
      whole.linkWritten thin.linkWritten (written .client whole.middle.loop.io.outputs)
      (written .client thin.middle.loop.io.outputs) whole.client.io.layers.guard.sent
      thin.client.io.layers.guard.sent := by
  rcases sound with ⟨_, _, wired⟩
  rcases thinSound with ⟨_, _, thinWired⟩
  rcases paired.client.alike with ⟨_, client⟩
  exact {
    inbound := established.guardTaken ▸ client.toLink
    next := established.guardNextTaken ▸ paired.middle.toClient
    linked := wired.guardLinked
    thinLinked := thinWired.guardLinked
    inboundWithin := fun running => by
      rcases wired.outward with ⟨_, _, flows⟩
      exact (flows.guard (by simp [World.outward, Station.reader, running])).within
    fit := fun running => wired.fitting.guard (by simp [World.inward, Station.wrapper, running])
    thinFit := fun running => thinWired.fitting.guard (by simp [World.inward, Station.wrapper, running])
    opens := fun running _ _ complete => wired.guardOpens running complete
    thinOpens := fun running _ _ complete => thinWired.guardOpens running complete }

theorem Paired.middleBeside :
    Tallies.Beside (outPlains start whole) (backPlains start whole) 1 start.middle whole.middle thin.middle
      (written .next whole.guard.loop.io.outputs) (written .next thin.guard.loop.io.outputs)
      (written .client whole.exit.loop.io.outputs) (written .client thin.exit.loop.io.outputs)
      whole.client.io.layers.middle.sent thin.client.io.layers.middle.sent := by
  rcases sound with ⟨_, _, wired⟩
  rcases thinSound with ⟨_, _, thinWired⟩
  rcases paired.exit.alike with ⟨_, exit⟩
  exact {
    inbound := established.middleTaken ▸ paired.guard.toNext
    next := established.middleNextTaken ▸ exit.toClient
    linked := wired.middleLinked
    thinLinked := thinWired.middleLinked
    inboundWithin := fun running => by
      rcases wired.outward with ⟨_, _, flows⟩
      exact (flows.middle (by simp [World.outward, Station.reader, running])).within
    fit := fun running => wired.fitting.middle (by simp [World.inward, Station.wrapper, running])
    thinFit := fun running => thinWired.fitting.middle (by simp [World.inward, Station.wrapper, running])
    opens := fun running _ _ complete => wired.middleOpens running complete
    thinOpens := fun running _ _ complete => thinWired.middleOpens running complete }

theorem Paired.exitBeside :
    ExitTallies.Beside (outPlains start whole) start.exit whole.exit thin.exit
      (written .next whole.middle.loop.io.outputs) (written .next thin.middle.loop.io.outputs)
      whole.client.io.layers.exit.sent thin.client.io.layers.exit.sent where
  inbound := established.exitTaken ▸ paired.middle.toNext
  unlinked := fun running => by
    rcases sound with ⟨_, _, wired⟩
    exact wired.exitUnlinked running
  thinUnlinked := fun running => by
    rcases thinSound with ⟨_, _, wired⟩
    exact wired.exitUnlinked running
  inboundWithin := fun running => by
    rcases sound with ⟨_, _, wired⟩
    rcases wired.outward with ⟨_, _, flows⟩
    exact (flows.exit (by simp [World.outward, Station.reader, running])).within
  opens := fun running => sound.exitOpensCell established running (paired.exit.inbound running).count_le
  thinOpens := fun running => by
    rw [← paired.outPlains_thin]
    have runs : whole.exit.loop.ended = none := paired.exit.ended.symm.trans running
    exact thinSound.exitOpensCell established running (paired.exit.inbound runs).thin_count_le

theorem Paired.clientBeside :
    ClientTallies.Beside (backPlains start whole) start.terminal whole.terminal thin.terminal
      (written .client whole.guard.loop.io.outputs) (written .client thin.guard.loop.io.outputs) whole.logs
      thin.logs where
  inbound := by
    have taken : start.terminal.taken = (written .client start.guard.loop.io.outputs).length := established.clientTaken
    rw [taken]
    exact paired.guard.toClient
  inboundWithin := fun running => by
    rcases sound with ⟨_, _, wired⟩
    rcases wired.inward running with ⟨_, _, returns⟩
    exact returns.client.within
  opens := fun running => sound.clientOpensCell established running (paired.client.inbound running).count_le
  thinOpens := fun running => by
    rw [← paired.backPlains_thin]
    have runs : whole.client.ended = none := paired.client.ended.symm.trans running
    exact thinSound.clientOpensCell established running (paired.client.inbound runs).thin_count_le

end Beside

/-! ## Turns of the client -/

/-- Both clients move.  What the one of the covered circuit has sealed grows at the end. -/
theorem Paired.clientMoves (paired : Paired start whole thin) {task thinTask : CircuitTask Key} {taken thinTaken : Nat}
    (more : SealsMore whole.client.io task.io)
    (client : ClientTallies (backPlains start whole) start.terminal ⟨task, taken⟩ ⟨thinTask, thinTaken⟩)
    (userRead thinUserRead : Bytes) :
    Paired start { whole with client := task, clientTaken := taken, userRead := userRead }
      { thin with client := thinTask, clientTaken := thinTaken, userRead := thinUserRead } := by
  rcases sealedSince_grows more start.client.io.layers.exit.sent.length with ⟨added, grown⟩
  have out : outPlains start { whole with client := task, clientTaken := taken, userRead := userRead } =
      outPlains start whole ++ added := grown
  have guard := paired.guard.grow added []
  have middle := paired.middle.grow added []
  rw [List.append_nil] at guard middle
  refine ⟨client, ?_, ?_, ?_⟩
  · rw [out]
    exact guard
  · rw [out]
    exact middle
  · rw [out]
    exact paired.exit.grow added

theorem Paired.userTurns (paired : Paired start whole thin) (covers : List Nat) (bytes : Bytes)
    (fault : Nat -> Option Nat) :
    Paired start (whole.coveredUser aead covers bytes fault)
      (thin.stepUser aead bytes (advanced (clientSurplus whole thin) fault)) := by
  cases running : whole.client.ended with
  | some reason =>
      have thinEnded : thin.client.ended = some reason := paired.client.ended.trans running
      simp only [coveredUser, stepUser, running, thinEnded]
      exact paired
  | none =>
      have thinRuns : thin.client.ended = none := paired.client.ended.trans running
      simp only [coveredUser, stepUser, running, thinRuns]
      refine paired.clientMoves (concluded_sealsMore (userTurn_sealsMore covers bytes _)) ?_ _ _
      exact paired.client.userTurn running (fun _ => rfl) covers bytes

theorem Paired.clientCovers (paired : Paired start whole thin) : Paired start (whole.coverClient aead) thin := by
  cases running : whole.client.ended with
  | some reason =>
      simp only [coverClient, running]
      exact paired
  | none =>
      simp only [coverClient, running]
      refine paired.clientMoves (concluded_sealsMore (sendEach_sealsMore whole.logs (by simp) _)) ?_ _ _
      exact paired.client.coverTurn running

/-- CONNECT is sealed in both circuits, or refused in both. -/
theorem Paired.connects (paired : Paired start whole thin) (payload : ConnectPayload) :
    Paired start (whole.act aead cfg (.connect payload)) (thin.act aead cfg (.connect payload)) := by
  cases running : whole.client.ended with
  | some reason =>
      have thinEnded : thin.client.ended = some reason := paired.client.ended.trans running
      simp only [act, running, thinEnded]
      exact paired
  | none =>
      have thinRuns : thin.client.ended = none := paired.client.ended.trans running
      cases connected : whole.connect aead payload with
      | ok next =>
          rcases connect_ok connected with ⟨encoded, encodes, fits, rfl⟩
          have thinConnected := @connect_of_encode Key aead thin _ _ encodes fits
          have real : Cell.mk .connect encoded ≠ cover := by
            intro isCover
            cases congrArg Cell.cellType isCover
          have sends := @ClientTallies.sends Key _ _ _ _ aead paired.client running _ fits real
          simp only [act, running, thinRuns, connected, thinConnected, connecting]
          exact paired.clientMoves (sealing_sealsMore fits none whole.client.io) sends _ _
      | error reason =>
          cases thinConnected : thin.connect aead payload with
          | ok next =>
              rcases connect_ok thinConnected with ⟨encoded, encodes, fits, -⟩
              cases connected.symm.trans (connect_of_encode encodes fits)
          | error thinReason =>
              simp only [act, running, thinRuns, connected, thinConnected]
              exact paired

theorem stepLink_eq (count : Nat) (fault : Nat -> Option Nat) :
    world.stepLink aead count fault =
      { world with
        client := (world.terminal.link aead ⟨world.logs, fault⟩ (written .client world.guard.loop.io.outputs) count).task
        clientTaken :=
          (world.terminal.link aead ⟨world.logs, fault⟩ (written .client world.guard.loop.io.outputs) count).taken } := by
  cases running : world.client.ended with
  | some reason =>
      have ended : world.terminal.task.ended = some reason := running
      simp only [stepLink, Terminal.link, running, ended]
      rfl
  | none =>
      have runs : world.terminal.task.ended = none := running
      simp only [stepLink, Terminal.link, running, runs]
      rfl

theorem Paired.linkTurns (paired : Paired start whole thin) (established : start.Established) (sound : Sound aead whole)
    (thinSound : Sound aead thin) (count : Nat) (fault : Nat -> Option Nat) :
    Paired start (whole.stepLink aead count fault)
      (((uncoveredLink start whole thin count fault).map .turn).elim thin (thin.act aead cfg)) := by
  have beside := paired.clientBeside established sound thinSound
  have opens := beside.opens
  have linked := @ClientTallies.link Key _ _ _ _ aead ⟨whole.logs, fault⟩
    ⟨thin.logs, advanced (clientSurplus whole thin) fault⟩ _ _ paired.client beside (fun _ => rfl) count
  have more := @link_sealsMore Key aead ⟨whole.logs, fault⟩ _ _ _ _ opens count
  rw [stepLink_eq, uncoveredLink]
  have bytes : (whole.terminal.bytes (written .client whole.guard.loop.io.outputs) count) = whole.clientBytes count := rfl
  have covers : ((backPlains start whole)[whole.terminal.inboundEnd.count - start.terminal.inboundEnd.count]? ==
      some coverPlain) = clientReadsCover start whole := rfl
  rw [bytes, covers] at linked
  split_ifs at linked ⊢ with nothing covered
  · simp only [Option.map_some, Option.elim_some, act, World.step, stepLink_eq]
    exact paired.clientMoves more linked _ _
  · exact paired.clientMoves more linked _ _
  · simp only [Option.map_some, Option.elim_some, act, World.step, stepLink_eq]
    exact paired.clientMoves more linked _ _

theorem Paired.linkFails (paired : Paired start whole thin) (fault : Nat -> Option Nat) :
    Paired start (whole.act aead cfg (.turn (.linkError fault)))
      (thin.act aead cfg (.turn (.linkError (advanced (clientSurplus whole thin) fault)))) := by
  have fails := @ClientTallies.linkFails Key _ _ _ _ aead ⟨whole.logs, fault⟩
    ⟨thin.logs, advanced (clientSurplus whole thin) fault⟩ paired.client fun _ => rfl
  refine paired.clientMoves ?_ fails whole.userRead thin.userRead
  cases running : whole.client.ended with
  | some reason =>
      simp only [CircuitTask.step, terminal, running]
      exact List.prefix_refl _
  | none =>
      simp only [CircuitTask.step, terminal, running]
      exact @concluded_sealsMore Key aead ⟨whole.logs, fault⟩ whole.client.io (.error .linkRead, whole.client.io)
        (List.prefix_refl _)

/-! ## Turns of the relays -/

/-- The surroundings of a relay's turn in the covered circuit. -/
def coveredEnv (start world : World Key) (hop : Hop) (env : Env) (event : RelayEvent) : Env :=
  if readsCover start world hop event then { env with fault := noFault } else env

theorem coveredEnv_of_cover (hop : Hop) (env : Env) (event : RelayEvent)
    (covered : readsCover start world hop event = true) :
    (coveredEnv start world hop env event).fault = noFault := by
  rw [coveredEnv, if_pos covered]

theorem coveredEnv_of_real (hop : Hop) (env : Env) (event : RelayEvent)
    (uncovered : readsCover start world hop event = false) : coveredEnv start world hop env event = env := by
  rw [coveredEnv, if_neg (Bool.eq_false_iff.mp uncovered)]

/-- The fault of a write in the circuit without cover cells is that of its counterpart. -/
theorem advanced_surplus {hop : Hop} (fewer : (thin.station hop).loop.io.outputs.length ≤
      (whole.station hop).loop.io.outputs.length) (fault : Nat -> Option Nat) :
    advanced (surplus whole thin hop) fault (thin.station hop).loop.io.outputs.length =
      fault (whole.station hop).loop.io.outputs.length := by
  rw [advanced, surplus, Nat.add_sub_cancel' fewer]

section Relays

variable (paired : Paired start whole thin) (established : start.Established) (sound : Sound aead whole)
  (thinSound : Sound aead thin) (env : Env) (event : RelayEvent)
include paired established sound thinSound

theorem Paired.guardTurns :
    Paired start (whole.step aead cfg (.relay .guard (coveredEnv start whole .guard env event) event))
      (((uncoveredRelay start whole thin .guard env event).map .turn).elim thin (thin.act aead cfg)) := by
  have turned := @Tallies.turn Key _ _ _ _ _ _ aead { cfg .guard with role := .guard }
    { coveredEnv start whole .guard env event with peer := whole.client.io.layers.guard.sent }
    { env with
      fault := advanced (surplus whole thin .guard) env.fault, peer := thin.client.io.layers.guard.sent }
    _ _ _ _ _ _ paired.guard (paired.guardBeside established sound thinSound) rfl rfl rfl event
    (fun covered => congrFun (coveredEnv_of_cover .guard env event covered) _)
    (fun uncovered => by
      rw [coveredEnv_of_real .guard env event uncovered]
      exact @advanced_surplus Key whole thin .guard paired.guard.fewer env.fault)
  have left : uncoveredRelay start whole thin .guard env event =
      (Station.uncovered (outPlains start whole) (backPlains start whole) start.guard whole.guard whole.linkWritten
        (written .client whole.middle.loop.io.outputs) event).map
        (.relay .guard { env with fault := advanced (surplus whole thin .guard) env.fault }) := rfl
  rw [left]
  cases kept : Station.uncovered (outPlains start whole) (backPlains start whole) start.guard whole.guard
    whole.linkWritten (written .client whole.middle.loop.io.outputs) event with
  | none =>
      rw [kept] at turned
      exact { paired with guard := turned }
  | some other =>
      rw [kept] at turned
      exact { paired with guard := turned }

theorem Paired.middleTurns :
    Paired start (whole.step aead cfg (.relay .middle (coveredEnv start whole .middle env event) event))
      (((uncoveredRelay start whole thin .middle env event).map .turn).elim thin (thin.act aead cfg)) := by
  have turned := @Tallies.turn Key _ _ _ _ _ _ aead { cfg .middle with role := .middle }
    { coveredEnv start whole .middle env event with peer := whole.client.io.layers.middle.sent }
    { env with
      fault := advanced (surplus whole thin .middle) env.fault, peer := thin.client.io.layers.middle.sent }
    _ _ _ _ _ _ paired.middle (paired.middleBeside established sound thinSound) rfl rfl rfl event
    (fun covered => congrFun (coveredEnv_of_cover .middle env event covered) _)
    (fun uncovered => by
      rw [coveredEnv_of_real .middle env event uncovered]
      exact @advanced_surplus Key whole thin .middle paired.middle.fewer env.fault)
  have left : uncoveredRelay start whole thin .middle env event =
      (Station.uncovered (outPlains start whole) (backPlains start whole) start.middle whole.middle (written .next whole.guard.loop.io.outputs)
        (written .client whole.exit.loop.io.outputs) event).map
        (.relay .middle { env with fault := advanced (surplus whole thin .middle) env.fault }) := rfl
  rw [left]
  cases kept : Station.uncovered (outPlains start whole) (backPlains start whole) start.middle whole.middle
    (written .next whole.guard.loop.io.outputs) (written .client whole.exit.loop.io.outputs) event with
  | none =>
      rw [kept] at turned
      exact { paired with middle := turned }
  | some other =>
      rw [kept] at turned
      exact { paired with middle := turned }

end Relays

/-! ## Turns of the exit -/

/-- Both exits move.  What the one of the covered circuit has sealed grows at the end. -/
theorem Paired.exitMoves (paired : Paired start whole thin) {exit thinExit : Station Key}
    (more : RepliesMore whole.exit.loop.io exit.loop.io)
    (tallies : ExitTallies (outPlains start whole) start.exit exit thinExit)
    (destRead thinDestRead : Bytes) (destClosed thinDestClosed : Bool) :
    Paired start { whole with exit := exit, destRead := destRead, destClosed := destClosed }
      { thin with exit := thinExit, destRead := thinDestRead, destClosed := thinDestClosed } := by
  rcases sealedSince_grows more start.exit.loop.io.transport.sent.length with ⟨added, grown⟩
  have back : backPlains start { whole with exit := exit, destRead := destRead, destClosed := destClosed } =
      backPlains start whole ++ added := grown
  have guard := paired.guard.grow [] added
  have middle := paired.middle.grow [] added
  rw [List.append_nil] at guard middle
  refine ⟨?_, ?_, ?_, tallies⟩
  · rw [back]
    exact paired.client.grow added
  · rw [back]
    exact guard
  · rw [back]
    exact middle

theorem stepExit_of_ne {config : RelayConfig} {env : Env} {event : RelayEvent}
    (other : forall bytes, event ≠ .dest bytes) :
    world.stepExit aead config env event =
      { world with
        exit := world.exit.turn aead { config with role := .exit } { env with peer := world.client.io.layers.exit.sent }
          (written .next world.middle.loop.io.outputs) [] event } := by
  cases event with
  | dest bytes => exact absurd rfl (other bytes)
  | _ => rfl

/-- What is left of a turn is of the same kind. -/
theorem uncovered_ne_dest {out back : List Bytes} {first station : Station Key} {arrivals nextArrivals : Bytes}
    {event left : RelayEvent} (other : forall bytes, event ≠ .dest bytes)
    (kept : Station.uncovered out back first station arrivals nextArrivals event = some left) :
    forall bytes, left ≠ .dest bytes := by
  rw [Station.uncovered] at kept
  split_ifs at kept
  · cases kept
    cases event with
    | dest bytes => exact absurd rfl (other bytes)
    | _ => simp [RelayEvent.atEnd]
  · cases kept
    exact other

/-- The surroundings of the exit's turn without cover cells. -/
theorem sameEnv (whole thin : World Key) (env : Env) :
    SameEnv (ExitTallies.surplus whole.exit thin.exit) { env with peer := whole.client.io.layers.exit.sent }
      { env with
        fault := advanced (surplus whole thin .exit) env.fault, peer := thin.client.io.layers.exit.sent } where
  instant := rfl
  parseUrl := rfl
  dialSocks := rfl
  fault := fun _ => rfl

theorem Paired.exitTurns (paired : Paired start whole thin) (established : start.Established)
    (sound : Sound aead whole) (thinSound : Sound aead thin) (env : Env) (event : RelayEvent)
    (other : forall bytes, event ≠ .dest bytes) :
    Paired start (whole.step aead cfg (.relay .exit (coveredEnv start whole .exit env event) event))
      (((uncoveredRelay start whole thin .exit env event).map .turn).elim thin (thin.act aead cfg)) := by
  have beside := paired.exitBeside established sound thinSound
  have turned := @ExitTallies.turn Key _ _ _ _ aead { cfg .exit with role := .exit }
    { coveredEnv start whole .exit env event with peer := whole.client.io.layers.exit.sent }
    { env with
      fault := advanced (surplus whole thin .exit) env.fault, peer := thin.client.io.layers.exit.sent }
    _ _ (backPlains start whole) _ _ paired.exit beside rfl rfl rfl event other
    (fun uncovered => by
      rw [coveredEnv_of_real .exit env event uncovered]
      exact sameEnv whole thin env)
  have more := @turn_repliesMore Key aead { cfg .exit with role := .exit }
    { coveredEnv start whole .exit env event with peer := whole.client.io.layers.exit.sent } _ _ _ _ rfl beside.opens
    beside.unlinked event
  have left : uncoveredRelay start whole thin .exit env event =
      (Station.uncovered (outPlains start whole) (backPlains start whole) start.exit whole.exit
        (written .next whole.middle.loop.io.outputs) [] event).map
        (.relay .exit { env with fault := advanced (surplus whole thin .exit) env.fault }) := rfl
  rw [left, World.step, stepExit_of_ne other]
  cases kept : Station.uncovered (outPlains start whole) (backPlains start whole) start.exit whole.exit
    (written .next whole.middle.loop.io.outputs) [] event with
  | none =>
      rw [kept] at turned
      exact paired.exitMoves more turned _ thin.destRead _ thin.destClosed
  | some rest =>
      rw [kept] at turned
      simp only [Option.map_some, Option.elim_some, act, World.step, stepExit_of_ne (uncovered_ne_dest other kept)]
      exact paired.exitMoves more turned _ thin.destRead _ thin.destClosed

theorem Paired.destTurns (paired : Paired start whole thin) (covers : List Nat) (env : Env) (bytes : Bytes) :
    Paired start (whole.coveredDest aead cfg covers env bytes)
      (((uncoveredRelay start whole thin .exit env (.dest bytes)).map .turn).elim thin (thin.act aead cfg)) := by
  have left : uncoveredRelay start whole thin .exit env (.dest bytes) =
      some (.relay .exit { env with fault := advanced (surplus whole thin .exit) env.fault } (.dest bytes)) := rfl
  rw [left]
  simp only [Option.map_some, Option.elim_some, act, World.step]
  cases running : whole.exit.loop.ended with
  | some result =>
      have thinEnded : thin.exit.loop.ended = some result := paired.exit.ended.trans running
      simp only [coveredDest, running, stepExit, Station.turn_of_ended thinEnded, thinEnded, Option.isNone_some,
        Bool.false_eq_true, false_and, if_false]
      exact paired
  | none =>
      have thinRuns : thin.exit.loop.ended = none := paired.exit.ended.trans running
      have destLink : thin.exit.loop.io.destLink = whole.exit.loop.io.destLink :=
        (paired.exit.abreast running).destLink
      have turned := @ExitTallies.destTurn Key _ _ _ _ aead { cfg .exit with role := .exit } _ _
        (written .next thin.middle.loop.io.outputs) paired.exit running rfl (sameEnv whole thin env) covers bytes
      have more : RepliesMore whole.exit.loop.io
          (CircuitLoop.settle ((destTurn aead { cfg .exit with role := .exit }
            { env with peer := whole.client.io.layers.exit.sent } covers bytes).run whole.exit.loop.io)).io := by
        rw [settle_io]
        exact destTurn_repliesMore rfl covers bytes _
      simp only [coveredDest, running, stepExit, thinRuns, Option.isNone_none, true_and, destLink]
      split_ifs
      · exact paired.exitMoves more turned _ _ _ _
      · exact paired.exitMoves more turned _ _ _ _

theorem Paired.exitCovers (paired : Paired start whole thin) (env : Env) :
    Paired start (whole.coverExit aead cfg env) thin := by
  cases running : whole.exit.loop.ended with
  | some result =>
      simp only [coverExit, running]
      exact paired
  | none =>
      have covers := @ExitTallies.coverTurn Key _ _ _ _ aead { cfg .exit with role := .exit } env paired.exit running rfl
      simp only [coverExit, running]
      refine paired.exitMoves ?_ covers _ thin.destRead _ thin.destClosed
      rw [settle_io]
      exact Program.keeps_bind (replyEach_repliesMore rfl (by simp)) (fun _ => Program.keeps_pure _) _

/-! ## Steps and runs -/

/-- Every turn of the covered circuit is matched by the turn that is left of it. -/
theorem Paired.step (paired : Paired start whole thin) (established : start.Established) (sound : Sound aead whole)
    (thinSound : Sound aead thin) (event : CoveredEvent) :
    Paired start (actCovered aead cfg start whole event)
      ((uncovered start whole thin event).elim thin (thin.act aead cfg)) := by
  cases event with
  | clientCover => exact paired.clientCovers
  | exitCover env => exact paired.exitCovers env
  | plain event covers =>
      cases event with
      | connect payload => exact @Paired.connects Key aead cfg _ _ _ paired payload
      | turn event =>
          cases event with
          | user bytes fault => exact paired.userTurns covers bytes fault
          | link count fault => exact paired.linkTurns established sound thinSound count fault
          | linkError fault => exact @Paired.linkFails Key aead cfg _ _ _ paired fault
          | relay hop env event =>
              cases hop with
              | guard => exact paired.guardTurns established sound thinSound env event
              | middle => exact paired.middleTurns established sound thinSound env event
              | exit =>
                  have turns := @Paired.exitTurns Key aead cfg _ _ _ paired established sound thinSound env
                  cases event with
                  | dest bytes => exact paired.destTurns covers env bytes
                  | inbound count => exact turns (.inbound count) (by simp)
                  | inboundError error => exact turns (.inboundError error) (by simp)
                  | timeout => exact turns .timeout (by simp)
                  | next count => exact turns (.next count) (by simp)
                  | nextError error => exact turns (.nextError error) (by simp)
                  | destError error => exact turns (.destError error) (by simp)

/-- A covered circuit stays in step with what is left of it. -/
theorem Paired.run (established : start.Established) (paired : Paired start whole thin) (sound : Sound aead whole)
    (thinSound : Sound aead thin) (events : List CoveredEvent) :
    Paired start (runCovered aead cfg start whole events)
      (thin.runPlain aead cfg (uncoveredRun aead cfg start whole thin events)) := by
  induction events generalizing whole thin with
  | nil => exact paired
  | cons event rest step =>
      have stepped := @Paired.step Key aead cfg _ _ _ paired established sound thinSound event
      have sounds := sound.actCovered cfg start event
      rw [uncoveredRun]
      cases left : uncovered start whole thin event with
      | none =>
          rw [left] at stepped
          exact step stepped sounds thinSound
      | some turn =>
          rw [left] at stepped
          exact step stepped sounds (thinSound.act cfg turn)

end World

section Transparency

variable {Key : Type}

/-- A circuit whose client and exit put in cover cells, wherever and whenever they do, gives the
destination and the user the same bytes, dials the same destination, and ends for the same
reasons as the circuit that is left when the cover cells are taken out. -/
theorem cover_transparent (aead : NoiseAead Key) (cfg : Hop -> RelayConfig) {world : World Key}
    (established : world.Established) (events : List CoveredEvent) :
    (World.runCovered aead cfg world world events).seen =
      (world.runPlain aead cfg (World.uncoveredRun aead cfg world world world events)).seen :=
  (World.Paired.run established established.paired established.sound established.sound events).seen.symm

/-- CONNECT, then a byte from the user with a cover cell before it.  Every relay reads three
frames. -/
def coveredByte : List CoveredEvent :=
  [.plain (.connect ⟨"h", 443⟩) [], .plain (.turn (.user [104] noFault)) [1],
    .plain (.turn (.relay .guard idleEnv (.inbound 564))) [], .plain (.turn (.relay .guard idleEnv (.inbound 564))) [],
    .plain (.turn (.relay .guard idleEnv (.inbound 564))) [], .plain (.turn (.relay .middle idleEnv (.inbound 547))) [],
    .plain (.turn (.relay .middle idleEnv (.inbound 547))) [], .plain (.turn (.relay .middle idleEnv (.inbound 547))) [],
    .plain (.turn (.relay .exit idleEnv (.inbound 530))) [], .plain (.turn (.relay .exit idleEnv (.inbound 530))) [],
    .plain (.turn (.relay .exit idleEnv (.inbound 530))) []]

/-- The byte arrives, and the rest is as without the cover cell. -/
theorem cover_transparent_one_byte :
    (World.runCovered (Aead.zeroTag noiseTagLen) (fun _ => ⟨.exit, [443], some "socks5://proxy:1080"⟩) idleWorld idleWorld
      coveredByte).seen.toDest = [104] ∧
    (World.runCovered (Aead.zeroTag noiseTagLen) (fun _ => ⟨.exit, [443], some "socks5://proxy:1080"⟩) idleWorld idleWorld
      coveredByte).seen =
      (idleWorld.runPlain (Aead.zeroTag noiseTagLen) (fun _ => ⟨.exit, [443], some "socks5://proxy:1080"⟩)
        (World.uncoveredRun (Aead.zeroTag noiseTagLen) (fun _ => ⟨.exit, [443], some "socks5://proxy:1080"⟩) idleWorld
          idleWorld idleWorld coveredByte)).seen :=
  ⟨by decide +kernel, cover_transparent _ _ idleWorld_established coveredByte⟩

end Transparency

/-! ## Read timers

A relay gives a whole frame of its inbound link a fixed time to arrive.  The timer is set anew
whenever the loop goes round, whatever made it do so, and so by a cover cell too. -/

/-- `CELL_READ_TIMEOUT`, in seconds. -/
def cellReadTimeout : Nat := 120

/-- The loop has gone round: the relay has handled a frame, or a read of the destination. -/
def wentRound {Key : Type} (before after : Station Key) : Bool :=
  before.loop.io.transport.received != after.loop.io.transport.received ||
    before.loop.io.transport.sent.length != after.loop.io.transport.sent.length ||
    before.loop.io.destLink != after.loop.io.destLink

/-- A circuit, and when each relay's timer was set. -/
structure Timed (Key : Type) where
  world : World Key
  since : Hop -> Nat

namespace Timed

variable {Key : Type} (aead : NoiseAead Key) (cfg : Hop -> RelayConfig) (env : Env)

def start (world : World Key) : Timed Key := ⟨world, fun _ => 0⟩

/-- The timers that have run out. -/
def expire (now : Nat) (timed : Timed Key) : Timed Key :=
  { timed with
    world := [Hop.guard, Hop.middle, Hop.exit].foldl (fun world hop =>
      if timed.since hop + cellReadTimeout ≤ now then world.step aead cfg (.relay hop env .timeout) else world)
      timed.world }

/-- A turn at a point in time. -/
def act (first : World Key) (timed : Timed Key) (turn : Nat × CoveredEvent) : Timed Key :=
  let expired := timed.expire aead cfg env turn.1
  let after := World.actCovered aead cfg first expired.world turn.2
  ⟨after, fun hop => if wentRound (expired.world.station hop) (after.station hop) then turn.1 else timed.since hop⟩

def run (world : World Key) (turns : List (Nat × CoveredEvent)) (now : Nat) : World Key :=
  ((turns.foldl (act aead cfg env world) (start world)).expire aead cfg env now).world

end Timed

/-- After a minute the client seals a cover cell, which all three relays read. -/
def coverAtSixty : List (Nat × CoveredEvent) :=
  [(60, .clientCover), (60, .plain (.turn (.relay .guard idleEnv (.inbound 564))) []),
    (60, .plain (.turn (.relay .middle idleEnv (.inbound 547))) []),
    (60, .plain (.turn (.relay .exit idleEnv (.inbound 530))) [])]

/-- The cover cell keeps the circuit alive that would have ended without it. -/
theorem cover_restarts_timers :
    (Timed.run (Aead.zeroTag noiseTagLen) (fun _ => ⟨.exit, [443], none⟩) idleEnv idleWorld coverAtSixty 130).seen.guard =
      none ∧
    (Timed.run (Aead.zeroTag noiseTagLen) (fun _ => ⟨.exit, [443], none⟩) idleEnv idleWorld [] 130).seen.guard =
      some (.error .timeout) :=
  ⟨by decide +kernel, by decide +kernel⟩
end Circuit
end QuietHop
