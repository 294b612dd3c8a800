import QuietHop.Circuit.Carries

namespace QuietHop
namespace Circuit

open Lib Wire Client Relay

/-!
# The client's turns

What the user writes is cut into DATA cells and sealed for the exit; what arrives on the
link is peeled to the cells the exit has sealed.  A task that ends still seals
CLOSE_REQUEST, which is written unless the link has already failed.
-/

section Programs

variable {Key : Type} {aead : NoiseAead Key} {env : TaskEnv} {io : TaskIo Key}

/-- The transports after a cell has been sealed for the exit. -/
def sealedLayers (aead : NoiseAead Key) (layers : Layers Key) (cell : Cell) : Layers Key :=
  (layers.sealForExit aead cell).2

/-- The frame that is sealed for the guard. -/
def sealedFrame (aead : NoiseAead Key) (layers : Layers Key) (cell : Cell) : Bytes :=
  frameOf aead layers.guard 3
    (.forward (frameOf aead layers.middle 2 (.forward (frameOf aead layers.exit 1 (.toMe cell)))))

theorem sealForExit_eq (layers : Layers Key) {cell : Cell} (fits : cell.Fits) :
    layers.sealForExit aead cell = (.ok (sealedFrame aead layers cell), sealedLayers aead layers cell) := by
  rw [sealedLayers, Layers.sealForExit_of_fits aead layers fits]
  rfl

/-- What a write to the link leaves of a frame. -/
structure Puts (output : TaskOutput) (frame piece : Bytes) : Prop where
  part : piece <+: frame
  toLink : linkBytes output = piece
  toUser : userBytes output = []

/-- What a write to the guard leaves in the record. -/
def putLink (fault : Option Nat) (frame : Bytes) : TaskOutput :=
  match fault with
  | none => .wroteLink frame
  | some count => .cutLink frame count

def putUser (fault : Option Nat) (payload : Bytes) : TaskOutput :=
  match fault with
  | none => .wroteUser payload
  | some count => .cutUser payload count

def brokenBy (reason : Break) : Option Nat -> Except Break Unit
  | none => .ok ()
  | some _ => .error reason

theorem puts_putLink (fault : Option Nat) (frame : Bytes) : Puts (putLink fault frame) frame (putBytes fault frame) := by
  cases fault with
  | none => exact ⟨List.prefix_refl _, rfl, rfl⟩
  | some count => exact ⟨List.take_prefix _ _, rfl, rfl⟩

@[simp] theorem linkBytes_putUser (fault : Option Nat) (payload : Bytes) : linkBytes (putUser fault payload) = [] := by
  cases fault <;> rfl

@[simp] theorem userBytes_putUser (fault : Option Nat) (payload : Bytes) :
    userBytes (putUser fault payload) = putBytes fault payload := by
  cases fault <;> rfl

theorem writeLink_eq (frame : Bytes) (io : TaskIo Key) :
    (writeLink env frame).run io = (brokenBy .linkWrite (env.fault io.outputs.length),
      { io with outputs := io.outputs ++ [putLink (env.fault io.outputs.length) frame] }) := by
  rw [writeLink, Program.run_get_bind]
  cases env.fault io.outputs.length with
  | none => rfl
  | some count => rfl

theorem writeUser_eq (payload : Bytes) (io : TaskIo Key) :
    (writeUser env payload).run io = (brokenBy .userWrite (env.fault io.outputs.length),
      { io with outputs := io.outputs ++ [putUser (env.fault io.outputs.length) payload] }) := by
  rw [writeUser, Program.run_get_bind]
  cases env.fault io.outputs.length with
  | none => rfl
  | some count => rfl

/-- The state after a cell has been sealed and its frame, or a part of it, written. -/
def sealing (aead : NoiseAead Key) (fault : Option Nat) (cell : Cell) (io : TaskIo Key) : TaskIo Key :=
  { io with
    layers := sealedLayers aead io.layers cell
    outputs := io.outputs ++ [putLink fault (sealedFrame aead io.layers cell)] }

theorem linkBytes_sealing (aead : NoiseAead Key) (fault : Option Nat) (cell : Cell) (io : TaskIo Key) :
    (sealing aead fault cell io).outputs.flatMap linkBytes =
      io.outputs.flatMap linkBytes ++ putBytes fault (sealedFrame aead io.layers cell) := by
  rw [sealing, List.flatMap_append, List.flatMap_singleton, (puts_putLink _ _).toLink]

theorem userBytes_sealing (aead : NoiseAead Key) (fault : Option Nat) (cell : Cell) (io : TaskIo Key) :
    (sealing aead fault cell io).outputs.flatMap userBytes = io.outputs.flatMap userBytes := by
  rw [sealing, List.flatMap_append, List.flatMap_singleton, (puts_putLink _ _).toUser, List.append_nil]

theorem sendChunk_eq {chunk : Bytes} (small : chunk.length ≤ cellPayloadLen) (io : TaskIo Key) :
    (sendChunk aead env chunk).run io = (brokenBy .linkWrite (env.fault io.outputs.length),
      sealing aead (env.fault io.outputs.length) ⟨.data, chunk⟩ io) := by
  have fits : (Cell.mk .data chunk).Fits := small
  have made : (Program.ofExcept .cell (Cell.new .data chunk) : TaskM Key Cell).run io = (.ok ⟨.data, chunk⟩, io) := by
    rw [Cell.new_of_le small]
    rfl
  have opened : (onLayers .sealing (Layers.sealForExit aead · ⟨.data, chunk⟩)).run io =
      (.ok (sealedFrame aead io.layers ⟨.data, chunk⟩),
        { io with layers := sealedLayers aead io.layers ⟨.data, chunk⟩ }) := by
    simp only [onLayers, sealForExit_eq io.layers fits]
  rw [sendChunk, Program.run_bind_of_ok made, Program.run_bind_of_ok opened, writeLink_eq]
  rfl

def closing : Cell := ⟨.closeRequest, []⟩

theorem closing_fits : closing.Fits := Nat.zero_le _

/-- A task that ends on a sound link writes CLOSE_REQUEST. -/
theorem teardown_eq {reason : Break} (sound : reason ≠ .linkWrite) (io : TaskIo Key) :
    teardown aead env reason io = sealing aead (env.fault io.outputs.length) closing io := by
  have made : Cell.new .closeRequest [] = .ok closing := rfl
  simp only [teardown, made, sealForExit_eq io.layers closing_fits, if_neg sound]
  cases env.fault io.outputs.length with
  | none => rfl
  | some count => rfl

/-- A task that ends because a write has failed seals CLOSE_REQUEST and writes nothing. -/
theorem teardown_lost (io : TaskIo Key) :
    teardown aead env .linkWrite io = { io with layers := sealedLayers aead io.layers closing } := by
  have made : Cell.new .closeRequest [] = .ok closing := rfl
  simp only [teardown, made, sealForExit_eq io.layers closing_fits, if_true]

/-- How a turn of the task is concluded. -/
def concluded (aead : NoiseAead Key) (env : TaskEnv) (result : Except Break Unit × TaskIo Key) : CircuitTask Key :=
  match result with
  | (.ok (), io) => ⟨io, none⟩
  | (.error reason, io) => ⟨teardown aead env reason io, some reason⟩

theorem linkTurn_none {io : TaskIo Key} {bytes : Bytes} (nonempty : bytes ≠ [])
    (incomplete : (io.inbound.receive bytes).1 = none) :
    (taskTurn aead env (.linkRead bytes)).run io = (.ok (), { io with inbound := (io.inbound.receive bytes).2 }) := by
  have filled : bytes.isEmpty = false := by simpa using nonempty
  simp only [taskTurn, Program.run_get_bind, filled, Bool.false_eq_true, if_false, Program.run_modify_bind, incomplete]
  rfl

theorem linkTurn_some {io : TaskIo Key} {bytes frame : Bytes} {cell : Cell} {layers : Layers Key}
    (nonempty : bytes ≠ []) (complete : (io.inbound.receive bytes).1 = some frame)
    (peeled : io.layers.peelInbound env.logs frame = (.ok cell, layers)) :
    (taskTurn aead env (.linkRead bytes)).run io =
      (Client.onCell env cell).run { io with inbound := (io.inbound.receive bytes).2, layers := layers } := by
  have filled : bytes.isEmpty = false := by simpa using nonempty
  have opened : (onLayers .peeling (Layers.peelInbound env.logs · frame)).run
      { io with inbound := (io.inbound.receive bytes).2 } =
      (.ok cell, { io with inbound := (io.inbound.receive bytes).2, layers := layers }) := by
    simp only [onLayers, peeled]
  simp only [taskTurn, Program.run_get_bind, filled, Bool.false_eq_true, if_false, Program.run_modify_bind, complete,
    onFrame]
  rw [Program.run_bind_of_ok opened]

end Programs

namespace World

variable {Key : Type} {aead : NoiseAead Key} {connect : Bytes} {world : World Key}

/-- The client's transports with other receive counters. -/
def reread (layers : Layers Key) (guard middle exit : Nat) : Layers Key :=
  ⟨{ layers.guard with received := guard }, { layers.middle with received := middle },
    { layers.exit with received := exit }⟩

theorem outward_sealed {cell : Cell} (fits : cell.Fits) (guard middle exit : Nat) {outputs : List TaskOutput}
    {piece : Bytes} (toLink : outputs.flatMap linkBytes = world.linkWritten ++ piece) (inbound : FrameAccumulator)
    (ended : Option Break) :
    World.outward { world with
      client := ⟨⟨sealedLayers aead (reread world.client.io.layers guard middle exit) cell, inbound, outputs⟩, ended⟩ } =
      world.outward.sealed aead cell piece ended.isNone := by
  simp only [World.outward, linkWritten, toLink, sealedLayers, Layers.sealForExit_of_fits aead _ fits]
  rfl

/-- The same where the task has just sealed the cell. -/
theorem outward_sealing {cell : Cell} (fits : cell.Fits) (fault : Option Nat) (ended : Option Break) :
    World.outward { world with client := ⟨sealing aead fault cell world.client.io, ended⟩ } =
      world.outward.sealed aead cell (putBytes fault (sealedFrame aead world.client.io.layers cell)) ended.isNone :=
  outward_sealed fits world.client.io.layers.guard.received world.client.io.layers.middle.received
    world.client.io.layers.exit.received (linkBytes_sealing aead fault cell world.client.io) world.client.io.inbound ended

theorem inward_sealing {cell : Cell} (fits : cell.Fits) (fault : Option Nat) :
    World.inward { world with client := ⟨sealing aead fault cell world.client.io, world.client.ended⟩ } =
      world.inward := by
  simp only [World.inward, userWritten, userBytes_sealing]
  simp only [sealing, sealedLayers, Layers.sealForExit_of_fits aead _ fits]
  rfl

variable {ahead behind : List Peeled}

/-- The client seals a cell for the exit and puts a piece of its frame on the link. -/
theorem Wired.clientSends (wired : Wired aead world ahead behind) (running : world.client.ended = none) {cell : Cell}
    (fits : cell.Fits) {task : CircuitTask Key} {piece : Bytes} (part : piece <+: world.outward.guardFrame aead cell)
    (whole : task.ended = none -> piece = world.outward.guardFrame aead cell)
    (out : World.outward { world with client := task } = world.outward.sealed aead cell piece task.ended.isNone)
    (back : task.ended = none -> World.inward { world with client := task } = world.inward) :
    Wired aead { world with client := task } (Outward.behind world.outward.exit.running ahead (.toMe cell)) behind := by
  refine { wired with
    outward := ?_
    inward := fun runs => ?_
    fitting := ⟨wired.fitting.guard, wired.fitting.middle⟩ }
  · rcases wired.outward with ⟨guardItems, middleItems, flows⟩
    have clientRuns : world.outward.clientRuns = true := by simp [World.outward, running]
    have seals := flows.seal fits clientRuns part fun runs => whole (Option.isNone_iff_eq_none.mp runs)
    rw [← out] at seals
    exact ⟨_, _, seals⟩
  · rw [back runs]
    exact wired.inward running

theorem Wired.clientSeals (wired : Wired aead world ahead behind) (running : world.client.ended = none) {cell : Cell}
    (fits : cell.Fits) {fault : Option Nat} {ended : Option Break} (sound : ended = none -> fault.isNone = true) :
    Wired aead { world with client := ⟨sealing aead fault cell world.client.io, ended⟩ }
      (Outward.behind world.outward.exit.running ahead (.toMe cell)) behind := by
  refine wired.clientSends running fits (putBytes_part fault _) (fun runs => putBytes_of_isNone (sound runs) _)
    (outward_sealing fits fault ended) fun runs => ?_
  rw [show ended = world.client.ended from runs.trans running.symm]
  exact inward_sealing fits fault

/-- A task that has ended seals a cell that is never written. -/
theorem Wired.clientLoses (wired : Wired aead world ahead behind) (reason : Break) :
    Wired aead { world with
      client := ⟨{ world.client.io with layers := sealedLayers aead world.client.io.layers closing }, some reason⟩ }
      (Outward.behind world.outward.exit.running ahead (.toMe closing)) behind := by
  refine { wired with
    outward := ?_
    inward := fun running => by cases running
    fitting := ⟨wired.fitting.guard, wired.fitting.middle⟩ }
  rcases wired.outward with ⟨guardItems, middleItems, flows⟩
  have out := @outward_sealed Key aead world closing closing_fits world.client.io.layers.guard.received
    world.client.io.layers.middle.received world.client.io.layers.exit.received world.client.io.outputs []
    (List.append_nil _).symm world.client.io.inbound (some reason)
  exact ⟨_, _, out ▸ flows.sealLost closing_fits⟩

/-- The task ends on a sound link. -/
theorem Wired.clientCloses (wired : Wired aead world ahead behind) (running : world.client.ended = none)
    {reason : Break} (sound : reason ≠ .linkWrite) {guard middle exit : Nat} {inbound : FrameAccumulator}
    {outputs : List TaskOutput} (toLink : outputs.flatMap linkBytes = world.linkWritten) (env : TaskEnv) (taken : Nat) :
    Wired aead { world with
      client := ⟨teardown aead env reason ⟨reread world.client.io.layers guard middle exit, inbound, outputs⟩,
        some reason⟩
      clientTaken := taken } (Outward.behind world.outward.exit.running ahead (.toMe closing)) behind := by
  rw [teardown_eq sound]
  have grown := linkBytes_sealing aead (env.fault outputs.length) closing
    ⟨reread world.client.io.layers guard middle exit, inbound, outputs⟩
  simp only [toLink] at grown
  have sends := @Wired.clientSends Key aead world ahead behind wired running closing closing_fits
    ⟨sealing aead (env.fault outputs.length) closing ⟨reread world.client.io.layers guard middle exit, inbound, outputs⟩,
      some reason⟩
    _ (putBytes_part _ _) (by simp) (outward_sealed closing_fits guard middle exit grown inbound (some reason)) (by simp)
  exact { sends with
    outward := sends.outward
    inward := fun runs => by cases runs
    fitting := ⟨sends.fitting.guard, sends.fitting.middle⟩ }

/-- The task goes on with what it has read off its link. -/
theorem Wired.clientTakes (wired : Wired aead world ahead behind) (running : world.client.ended = none)
    {guard middle exit taken : Nat} {inbound : FrameAccumulator} {outputs : List TaskOutput} {later : List Peeled}
    (toLink : outputs.flatMap linkBytes = world.linkWritten)
    (returns : ∃ guardItems middleItems, Inward.Returns aead
      { world.inward with
        client := ⟨true, guard, inbound, taken, outputs.flatMap userBytes⟩, middleRx := middle, exitRx := exit }
      guardItems middleItems later) :
    Wired aead { world with
      client := ⟨⟨reread world.client.io.layers guard middle exit, inbound, outputs⟩, none⟩
      clientTaken := taken } ahead later := by
  have same : World.outward { world with
      client := ⟨⟨reread world.client.io.layers guard middle exit, inbound, outputs⟩, none⟩
      clientTaken := taken } = world.outward := by
    simp only [World.outward, linkWritten, toLink, running]
    rfl
  exact { wired with
    outward := same ▸ wired.outward
    inward := fun _ => returns
    fitting := ⟨wired.fitting.guard, wired.fitting.middle⟩ }

/-- What the exit still has to open grows by the cell that the client seals. -/
theorem Content.grow {items : List Peeled} {connected : Bool} {tail : List Cell} {cell : Cell}
    (content : Content connect world items connected tail) {after : World Key} (exit : after.exit = world.exit)
    (destClosed : after.destClosed = world.destClosed)
    (kind : cell.cellType = .data ∨ cell.cellType = .closeRequest)
    (within : world.destWritten ++ payloads tail ++ payloads [cell] <+: after.userRead)
    (whole : after.client.ended = none -> world.destWritten ++ payloads tail ++ payloads [cell] = after.userRead) :
    Content connect after (items ++ [.toMe cell]) connected (tail ++ [cell]) where
  cells := by
    rw [Peeled.cells_append, content.cells]
    cases connected <;> rfl
  kinds := by
    intro other member
    rcases List.mem_append.mp member with member | member
    · exact content.kinds other member
    · rw [List.mem_singleton.mp member]
      exact kind
  before := by
    rw [exit]
    exact content.before
  after := by
    rw [exit, destClosed]
    exact content.after
  within := by
    rw [destWritten, exit, payloads_append, ← List.append_assoc]
    exact within
  whole := by
    rw [destWritten, exit, payloads_append, ← List.append_assoc]
    exact whole

/-- The client seals a cell for the exit and puts a piece of its frame on the link. -/
theorem Carries.clientSends (carries : Carries aead connect world) (running : world.client.ended = none) {cell : Cell}
    (fits : cell.Fits) (kind : cell.cellType = .data ∨ cell.cellType = .closeRequest) {task : CircuitTask Key}
    {piece : Bytes} (part : piece <+: world.outward.guardFrame aead cell)
    (whole : task.ended = none -> piece = world.outward.guardFrame aead cell)
    (out : World.outward { world with client := task } = world.outward.sealed aead cell piece task.ended.isNone)
    (back : task.ended = none -> World.inward { world with client := task } = world.inward)
    (toUser : World.userWritten { world with client := task } <+: world.destRead)
    (harmless : forall reason, task.ended = some reason -> Harmless reason) :
    Carries aead connect { world with client := task, userRead := world.userRead ++ payloads [cell] } := by
  rcases carries.wired with ⟨ahead, behind, wired, content, replies⟩
  have sent := wired.clientSends running fits part whole out back
  refine { carries with
    outward := ?_
    inward := ?_
    fitting := ⟨sent.fitting.guard, sent.fitting.middle⟩
    toDest := carries.toDest.trans (List.prefix_append _ _)
    toUser := toUser
    clientHarmless := harmless }
  · rcases sent.outward with ⟨guardItems, middleItems, flows⟩
    refine ⟨guardItems, middleItems, _, flows, ?_⟩
    intro exitRuns
    have exitRuns : world.exit.loop.ended = none := exitRuns
    have reads : world.outward.exit.running = true := by simp [World.outward, Station.reader, exitRuns]
    rcases content exitRuns with ⟨connected, tail, holds⟩
    rw [Outward.behind_of_running reads]
    refine ⟨connected, tail ++ [cell], holds.grow rfl rfl kind ?_ fun _ => ?_⟩
    · rw [holds.whole running]
    · rw [holds.whole running]
  · intro runs
    rcases sent.inward runs with ⟨guardItems, middleItems, returns⟩
    have same : World.userWritten { world with client := task } = world.userWritten :=
      congrArg (fun flow : Inward Key => flow.client.out) (back runs)
    refine ⟨guardItems, middleItems, behind, returns, (replies running).kinds, ?_, ?_⟩
    · exact same ▸ (replies running).within
    · exact same ▸ (replies running).whole

theorem Carries.clientSeals (carries : Carries aead connect world) (running : world.client.ended = none) {cell : Cell}
    (fits : cell.Fits) (kind : cell.cellType = .data ∨ cell.cellType = .closeRequest) {fault : Option Nat}
    {ended : Option Break} (sound : ended = none -> fault.isNone = true)
    (harmless : forall reason, ended = some reason -> Harmless reason) :
    Carries aead connect { world with
      client := ⟨sealing aead fault cell world.client.io, ended⟩
      userRead := world.userRead ++ payloads [cell] } := by
  refine carries.clientSends running fits kind (putBytes_part fault _)
    (fun runs => putBytes_of_isNone (sound runs) _) (outward_sealing fits fault ended) (fun runs => ?_) ?_ harmless
  · rw [show ended = world.client.ended from runs.trans running.symm]
    exact inward_sealing fits fault
  · rw [userWritten, userBytes_sealing]
    exact carries.toUser

/-- A task that has ended seals a cell that is never written. -/
theorem Carries.clientLoses (carries : Carries aead connect world) {reason : Break}
    (ended : world.client.ended = some reason) :
    Carries aead connect { world with
      client := ⟨{ world.client.io with layers := sealedLayers aead world.client.io.layers closing }, some reason⟩ } := by
  rcases carries.wired with ⟨ahead, behind, wired, content, -⟩
  have lost := wired.clientLoses reason
  refine { carries with
    outward := ?_
    inward := fun running => by cases running
    fitting := ⟨lost.fitting.guard, lost.fitting.middle⟩
    clientHarmless := fun other same => carries.clientHarmless other (ended.trans same) }
  rcases lost.outward with ⟨guardItems, middleItems, flows⟩
  refine ⟨guardItems, middleItems, _, flows, ?_⟩
  intro exitRuns
  have exitRuns : world.exit.loop.ended = none := exitRuns
  have reads : world.outward.exit.running = true := by simp [World.outward, Station.reader, exitRuns]
  rcases content exitRuns with ⟨connected, tail, holds⟩
  rw [Outward.behind_of_running reads]
  refine ⟨connected, tail ++ [closing], holds.grow rfl rfl (.inr rfl) ?_ fun runs => by cases runs⟩
  have nothing : payloads [closing] = [] := rfl
  rw [nothing, List.append_nil]
  exact holds.within

/-- What a task that has ended has read off its link does not matter. -/
theorem Carries.withTaken (carries : Carries aead connect world) (ended : world.client.ended ≠ none) (taken : Nat) :
    Carries aead connect { world with clientTaken := taken } :=
  { carries with
    outward := by
      rcases carries.outward with ⟨guardItems, middleItems, exitItems, flows, content⟩
      refine ⟨guardItems, middleItems, exitItems, flows, fun running => ?_⟩
      rcases content running with ⟨connected, tail, holds⟩
      exact ⟨connected, tail, { holds with }⟩
    inward := fun running => absurd running ended
    fitting := ⟨carries.fitting.guard, carries.fitting.middle⟩ }

/-- What the user writes after the task has ended never matters. -/
theorem Carries.userReads (carries : Carries aead connect world) (ended : world.client.ended ≠ none) (more : Bytes) :
    Carries aead connect { world with userRead := world.userRead ++ more } :=
  { carries with
    outward := by
      rcases carries.outward with ⟨guardItems, middleItems, exitItems, flows, content⟩
      refine ⟨guardItems, middleItems, exitItems, flows, fun running => ?_⟩
      rcases content running with ⟨connected, tail, holds⟩
      exact ⟨connected, tail, { holds with
        within := holds.within.trans (List.prefix_append _ _)
        whole := fun running => absurd running ended }⟩
    inward := fun running => absurd running ended
    toDest := carries.toDest.trans (List.prefix_append _ _) }

/-- The task ends on a sound link. -/
theorem Carries.clientCloses (carries : Carries aead connect world) (running : world.client.ended = none)
    {reason : Break} (sound : reason ≠ .linkWrite) (harmless : Harmless reason) {guard middle exit : Nat}
    {inbound : FrameAccumulator} {outputs : List TaskOutput}
    (toLink : outputs.flatMap linkBytes = world.linkWritten) (toUser : outputs.flatMap userBytes <+: world.destRead)
    (env : TaskEnv) (taken : Nat) :
    Carries aead connect { world with
      client := ⟨teardown aead env reason ⟨reread world.client.io.layers guard middle exit, inbound, outputs⟩,
        some reason⟩
      clientTaken := taken } := by
  rw [teardown_eq sound]
  have grown := linkBytes_sealing aead (env.fault outputs.length) closing
    ⟨reread world.client.io.layers guard middle exit, inbound, outputs⟩
  simp only [toLink] at grown
  have kept := userBytes_sealing aead (env.fault outputs.length) closing
    ⟨reread world.client.io.layers guard middle exit, inbound, outputs⟩
  have sends := @Carries.clientSends Key aead connect world carries running closing closing_fits (.inr rfl)
    ⟨sealing aead (env.fault outputs.length) closing ⟨reread world.client.io.layers guard middle exit, inbound, outputs⟩,
      some reason⟩
    _ (putBytes_part _ _) (by simp) (outward_sealed closing_fits guard middle exit grown inbound (some reason)) (by simp)
    (by simpa only [userWritten, kept] using toUser) (by simpa using harmless)
  have nothing : world.userRead ++ payloads [closing] = world.userRead := List.append_nil _
  rw [nothing] at sends
  exact sends.withTaken (by simp) taken

/-! ## The user -/

theorem Carries.clientSendsChunks {env : TaskEnv} {chunks : List Bytes}
    (small : ∀ chunk ∈ chunks, chunk.length ≤ cellPayloadLen) (carries : Carries aead connect world)
    (running : world.client.ended = none) :
    (∃ io, (Client.sendChunks aead env chunks).run world.client.io = (.ok (), io) ∧
      Carries aead connect { world with client := ⟨io, none⟩, userRead := world.userRead ++ chunks.flatten }) ∨
    ∃ io, (Client.sendChunks aead env chunks).run world.client.io = (.error .linkWrite, io) ∧
      Carries aead connect { world with
        client := ⟨io, some .linkWrite⟩, userRead := world.userRead ++ chunks.flatten } := by
  induction chunks generalizing world with
  | nil =>
      left
      refine ⟨world.client.io, rfl, ?_⟩
      rw [List.flatten_nil, List.append_nil, ← running]
      exact carries
  | cons chunk rest ih =>
      have fits : (Cell.mk .data chunk).Fits := small chunk (List.mem_cons_self ..)
      have carried : world.userRead ++ payloads [⟨.data, chunk⟩] = world.userRead ++ chunk := by simp
      have sent := @sendChunk_eq Key aead env chunk fits world.client.io
      rw [List.flatten_cons, ← List.append_assoc, ← carried, Client.sendChunks]
      cases fault : env.fault world.client.io.outputs.length with
      | none =>
          rw [fault] at sent
          rw [Program.run_bind_of_ok sent]
          have sends := @Carries.clientSeals Key aead connect world carries running _ fits (.inl rfl) none none
            (fun _ => rfl) (by simp)
          exact ih (fun other member => small other (List.mem_cons_of_mem _ member)) sends rfl
      | some count =>
          rw [fault] at sent
          rw [Program.run_bind_of_error sent]
          have sends := @Carries.clientSeals Key aead connect world carries running _ fits (.inl rfl) (some count)
            (some .linkWrite) (by simp) (by simp [Harmless])
          exact .inr ⟨_, rfl, sends.userReads (by simp) rest.flatten⟩

theorem Carries.userTurns (carries : Carries aead connect world) (bytes : Bytes) (fault : Nat -> Option Nat) :
    Carries aead connect (world.stepUser aead bytes fault) := by
  cases running : world.client.ended with
  | some reason =>
      simp only [stepUser, running]
      exact carries
  | none =>
      rcases bytes with - | ⟨first, rest⟩
      · simp only [stepUser, CircuitTask.step, running, taskTurn, List.isEmpty_nil, if_true, Program.run_fail,
          List.take_nil, List.append_nil]
        exact @Carries.clientCloses Key aead connect world carries running .userClosed (by simp) trivial
          world.client.io.layers.guard.received world.client.io.layers.middle.received
          world.client.io.layers.exit.received world.client.io.inbound world.client.io.outputs rfl carries.toUser _ _
      have joined := Stream.flatten_chunks (by decide : 0 < cellPayloadLen) ((first :: rest).take userReadBuf)
      have small : ∀ chunk ∈ Stream.chunks cellPayloadLen ((first :: rest).take userReadBuf),
          chunk.length ≤ cellPayloadLen := fun _ member => Stream.length_le_of_mem_chunks member
      simp only [stepUser, CircuitTask.step, running, taskTurn, List.isEmpty_cons, Bool.false_eq_true, if_false]
      rcases @Carries.clientSendsChunks Key aead connect world ⟨world.logs, fault⟩ _ small carries running with
        ⟨io, ran, sent⟩ | ⟨io, ran, sent⟩
      · rw [ran]
        rw [joined] at sent
        exact sent
      · rw [ran]
        rw [joined] at sent
        simp only [teardown_lost]
        exact sent.clientLoses rfl

/-! ## The link -/

/-- The task goes on with what it has read off its link. -/
theorem Carries.clientTakes (carries : Carries aead connect world) (running : world.client.ended = none)
    {guard middle exit taken : Nat} {inbound : FrameAccumulator} {outputs : List TaskOutput}
    {exitItems : List Peeled} (toLink : outputs.flatMap linkBytes = world.linkWritten)
    (returns : ∃ guardItems middleItems, Inward.Returns aead
      { world.inward with
        client := ⟨true, guard, inbound, taken, outputs.flatMap userBytes⟩, middleRx := middle, exitRx := exit }
      guardItems middleItems exitItems)
    (kinds : ∀ cell ∈ Peeled.cells exitItems, cell.cellType = .data ∨ cell.cellType = .closeAck)
    (within : outputs.flatMap userBytes ++ payloads (Peeled.cells exitItems) <+: world.destRead)
    (whole : world.exit.loop.ended = none ->
      outputs.flatMap userBytes ++ payloads (Peeled.cells exitItems) = world.destRead) :
    Carries aead connect { world with
      client := ⟨⟨reread world.client.io.layers guard middle exit, inbound, outputs⟩, none⟩
      clientTaken := taken } := by
  rcases carries.wired with ⟨ahead, behind, wired, content, -⟩
  have taking := wired.clientTakes running toLink returns
  refine { carries with
    outward := ?_
    inward := ?_
    fitting := ⟨taking.fitting.guard, taking.fitting.middle⟩
    toUser := (List.prefix_append _ _).trans within
    clientHarmless := by simp }
  · rcases taking.outward with ⟨guardItems, middleItems, flows⟩
    refine ⟨guardItems, middleItems, ahead, flows, fun exitRuns => ?_⟩
    rcases content exitRuns with ⟨connected, tail, holds⟩
    exact ⟨connected, tail, { holds with whole := fun _ => holds.whole running }⟩
  · intro runs
    rcases taking.inward runs with ⟨guardItems, middleItems, returns⟩
    exact ⟨guardItems, middleItems, exitItems, returns, kinds, within, whole⟩

/-- A cell that has been peeled is handed to the user, or ends the task. -/
theorem Carries.clientActs (carries : Carries aead connect world) (running : world.client.ended = none)
    {guard middle exit taken : Nat} {inbound : FrameAccumulator} {later : List Peeled} {cell : Cell}
    (returns : ∃ guardItems middleItems, Inward.Returns aead
      { world.inward with
        client := ⟨true, guard, inbound, taken, world.userWritten⟩, middleRx := middle, exitRx := exit }
      guardItems middleItems later)
    (replies : Replies world (.toMe cell :: later)) (env : TaskEnv) :
    Carries aead connect { world with
      client := concluded aead env ((Client.onCell env cell).run
        ⟨reread world.client.io.layers guard middle exit, inbound, world.client.io.outputs⟩)
      clientTaken := taken } := by
  have kinds : ∀ other ∈ Peeled.cells later, other.cellType = .data ∨ other.cellType = .closeAck :=
    fun other member => replies.kinds other (List.mem_cons_of_mem _ member)
  have within := replies.within
  have whole := replies.whole
  rw [Peeled.cells, payloads_cons] at within whole
  rcases replies.kinds cell (List.mem_cons_self ..) with isData | isAck
  · rw [if_pos isData] at within whole
    rw [← List.append_assoc] at within whole
    simp only [Client.onCell, isData]
    split_ifs with empty
    · rw [List.isEmpty_iff.mp empty, List.append_nil] at within whole
      exact carries.clientTakes running rfl returns kinds within whole
    rw [writeUser_eq]
    have silent (fault : Option Nat) :
        (world.client.io.outputs ++ [putUser fault cell.payload]).flatMap linkBytes = world.linkWritten := by
      simp [linkWritten]
    have handed (fault : Option Nat) : (world.client.io.outputs ++ [putUser fault cell.payload]).flatMap userBytes =
        world.userWritten ++ putBytes fault cell.payload := by
      simp [userWritten]
    cases env.fault world.client.io.outputs.length with
    | none =>
        have handedAll : (world.client.io.outputs ++ [putUser none cell.payload]).flatMap userBytes =
            world.userWritten ++ cell.payload := handed none
        rw [← handedAll] at within whole
        refine carries.clientTakes running (silent none) ?_ kinds within whole
        rcases returns with ⟨guardItems, middleItems, returns⟩
        exact ⟨guardItems, middleItems, { returns with client := returns.client.retarget rfl rfl rfl }⟩
    | some count =>
        refine carries.clientCloses running (by simp) (by trivial) (silent (some count)) ?_ env taken
        rw [handed]
        refine List.IsPrefix.trans ?_ ((List.prefix_append _ _).trans within)
        exact (List.prefix_append_right_inj _).mpr (putBytes_part _ _)
  · simp only [Client.onCell, isAck, Program.run_fail]
    exact carries.clientCloses running (by simp) (by trivial) rfl carries.toUser env taken

/-- What a read of the link makes of the task: the end of the link ends it, a part of a frame is
kept, and a whole frame holds the oldest cell that the exit has sealed. -/
inductive LinkTurn (aead : NoiseAead Key) (world : World Key) (env : TaskEnv) (inbound : FrameAccumulator) (taken : Nat)
    (exitItems : List Peeled) : CircuitTask Key -> Prop where
  | closed : LinkTurn aead world env inbound taken exitItems
      ⟨teardown aead env .linkRead world.client.io, some .linkRead⟩
  | reads (returns : ∃ guardItems middleItems, Inward.Returns aead
        { world.inward with
          client := ⟨true, world.client.io.layers.guard.received, inbound, taken, world.userWritten⟩ }
        guardItems middleItems exitItems) :
      LinkTurn aead world env inbound taken exitItems ⟨{ world.client.io with inbound := inbound }, none⟩
  | opens {cell : Cell} {later : List Peeled} (first : exitItems = .toMe cell :: later)
      (returns : ∃ guardItems middleItems, Inward.Returns aead
        { world.inward with
          client := ⟨true, world.client.io.layers.guard.received + 1, inbound, taken, world.userWritten⟩
          middleRx := world.client.io.layers.middle.received + 1
          exitRx := world.client.io.layers.exit.received + 1 }
        guardItems middleItems later) :
      LinkTurn aead world env inbound taken exitItems (concluded aead env ((Client.onCell env cell).run
        ⟨reread world.client.io.layers (world.client.io.layers.guard.received + 1)
          (world.client.io.layers.middle.received + 1) (world.client.io.layers.exit.received + 1),
          inbound, world.client.io.outputs⟩))

theorem linkTurn_of_returns (running : world.client.ended = none) {guardItems middleItems exitItems : List Peeled}
    (returns : Inward.Returns aead world.inward guardItems middleItems exitItems) (count : Nat)
    (fault : Nat -> Option Nat) :
    LinkTurn aead world ⟨world.logs, fault⟩ (world.client.io.inbound.receive (world.clientBytes count)).2
      (world.clientTaken + (world.clientBytes count).length) exitItems
      (world.client.step aead ⟨world.logs, fault⟩ (.linkRead (world.clientBytes count))) := by
  have stepped : world.client.step aead ⟨world.logs, fault⟩ (.linkRead (world.clientBytes count)) =
      concluded aead ⟨world.logs, fault⟩
        ((taskTurn aead ⟨world.logs, fault⟩ (.linkRead (world.clientBytes count))).run world.client.io) := by
    simp only [CircuitTask.step, running]
    rfl
  rw [stepped]
  by_cases nonempty : world.clientBytes count = []
  · simp only [nonempty, taskTurn, Program.run_get_bind, List.isEmpty_nil, if_true, Program.run_fail]
    exact .closed
  have room : min count world.client.io.inbound.room ≤ world.inward.client.acc.room := Nat.min_le_right _ _
  rcases @Inward.Returns.clientReads Key aead world.inward _ _ _ _ returns world.client.io.layers ⟨rfl, rfl, rfl⟩ room
    with ⟨incomplete, reads⟩ | ⟨frame, cell, guardLater, middleLater, later, complete, rfl, peeled, reads⟩
  · rw [linkTurn_none nonempty incomplete]
    exact .reads ⟨guardItems, middleItems, { reads with client := reads.client.retarget rfl rfl rfl }⟩
  · rw [@linkTurn_some Key aead ⟨world.logs, fault⟩ world.client.io _ frame cell _ nonempty complete peeled]
    exact .opens rfl ⟨guardLater, middleLater, { reads with client := reads.client.retarget rfl rfl rfl }⟩

theorem Carries.linkTurns (carries : Carries aead connect world) (count : Nat) (fault : Nat -> Option Nat) :
    Carries aead connect (world.stepLink aead count fault) := by
  cases running : world.client.ended with
  | some reason =>
      simp only [stepLink, running]
      exact carries
  | none =>
      rcases carries.inward running with ⟨guardItems, middleItems, exitItems, returns, replies⟩
      have turned := linkTurn_of_returns running returns count fault
      simp only [stepLink, running]
      generalize world.client.step aead ⟨world.logs, fault⟩ (.linkRead (world.clientBytes count)) = task at turned ⊢
      cases turned with
      | closed =>
          exact @Carries.clientCloses Key aead connect world carries running .linkRead (by simp) trivial
            world.client.io.layers.guard.received world.client.io.layers.middle.received
            world.client.io.layers.exit.received world.client.io.inbound world.client.io.outputs rfl carries.toUser _ _
      | reads reads => exact carries.clientTakes running rfl reads replies.kinds replies.within replies.whole
      | opens first reads => exact carries.clientActs running reads (first ▸ replies) _

theorem Carries.linkFails (carries : Carries aead connect world) (fault : Nat -> Option Nat) :
    Carries aead connect { world with client := world.client.step aead ⟨world.logs, fault⟩ .linkError } := by
  cases running : world.client.ended with
  | some reason =>
      simp only [CircuitTask.step, running]
      exact carries
  | none =>
      simp only [CircuitTask.step, running, taskTurn, Program.run_fail]
      exact @Carries.clientCloses Key aead connect world carries running .linkRead (by simp) trivial
        world.client.io.layers.guard.received world.client.io.layers.middle.received
        world.client.io.layers.exit.received world.client.io.inbound world.client.io.outputs rfl carries.toUser _ _

end World

end Circuit
end QuietHop
