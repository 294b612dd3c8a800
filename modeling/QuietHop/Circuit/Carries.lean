import QuietHop.Circuit.Wired

namespace QuietHop
namespace Circuit

open Lib Wire Client Relay

/-!
# What holds in every state of a circuit

The two directions of the traffic, and what the frames in flight contain.  Away from the
client these are CONNECT, then DATA, then perhaps CLOSE_REQUEST; towards the client DATA and
perhaps CLOSE_ACK.  What has been written at one end and the data in flight are together
what has been read at the other end, as long as the party that read it runs.
-/

/-- The data among some cells. -/
def payloads (cells : List Cell) : Bytes :=
  cells.flatMap fun cell => if cell.cellType = .data then cell.payload else []

@[simp] theorem payloads_append (first second : List Cell) :
    payloads (first ++ second) = payloads first ++ payloads second := by
  simp [payloads]

@[simp] theorem payloads_cons (cell : Cell) (rest : List Cell) :
    payloads (cell :: rest) = (if cell.cellType = .data then cell.payload else []) ++ payloads rest := by
  simp [payloads]

@[simp] theorem payloads_nil : payloads [] = [] := rfl

/-- Why a task may end. -/
def Harmless : Break -> Prop
  | .cell _ => False
  | .sealing _ => False
  | .peeling _ => False
  | .unexpected _ => False
  | _ => True

namespace World

variable {Key : Type}

/-- What a running exit still has to open.  Until CONNECT has been opened it comes first;
afterwards there is a destination, unless it has closed. -/
structure Content (connect : Bytes) (world : World Key) (items : List Peeled) (connected : Bool)
    (tail : List Cell) : Prop where
  cells : Peeled.cells items = if connected then tail else ⟨.connect, connect⟩ :: tail
  kinds : ∀ cell ∈ tail, cell.cellType = .data ∨ cell.cellType = .closeRequest
  before : connected = false -> world.exit.loop.io.destLink = false
  after : connected = true -> world.exit.loop.io.destLink = true ∨ world.destClosed = true
  within : world.destWritten ++ payloads tail <+: world.userRead
  whole : world.client.ended = none -> world.destWritten ++ payloads tail = world.userRead

/-- What a running client still has to open. -/
structure Replies (world : World Key) (items : List Peeled) : Prop where
  kinds : ∀ cell ∈ Peeled.cells items, cell.cellType = .data ∨ cell.cellType = .closeAck
  within : world.userWritten ++ payloads (Peeled.cells items) <+: world.destRead
  whole : world.exit.loop.ended = none -> world.userWritten ++ payloads (Peeled.cells items) = world.destRead

structure Carries (aead : NoiseAead Key) (connect : Bytes) (world : World Key) : Prop where
  outward : ∃ guardItems middleItems exitItems, world.outward.Flows aead guardItems middleItems exitItems ∧
    (world.exit.loop.ended = none -> ∃ connected tail, Content connect world exitItems connected tail)
  inward : world.client.ended = none -> ∃ guardItems middleItems exitItems,
    world.inward.Returns aead guardItems middleItems exitItems ∧ Replies world exitItems
  fitting : world.inward.Fitting
  guardLinked : Linked world.guard
  middleLinked : Linked world.middle
  exitUnlinked : world.exit.loop.ended = none -> world.exit.loop.io.nextLink = none
  toDest : world.destWritten <+: world.userRead
  toUser : world.userWritten <+: world.destRead
  guardBenign : forall reason, world.guard.loop.ended = some (.error reason) -> Benign reason
  middleBenign : forall reason, world.middle.loop.ended = some (.error reason) -> Benign reason
  exitBenign : forall reason, world.exit.loop.ended = some (.error reason) ->
    Benign reason ∨ world.destClosed = true ∧ ∃ cellType, reason = .illegalCellForRole cellType .exit
  clientHarmless : forall reason, world.client.ended = some reason -> Harmless reason

variable {aead : NoiseAead Key} {connect : Bytes} {world : World Key}

/-- The frames of a circuit that carries the stream, and what they contain. -/
theorem Carries.wired (carries : Carries aead connect world) :
    ∃ ahead behind, Wired aead world ahead behind ∧
      (world.exit.loop.ended = none -> ∃ connected tail, Content connect world ahead connected tail) ∧
      (world.client.ended = none -> Replies world behind) := by
  rcases carries.outward with ⟨guardItems, middleItems, ahead, flows, content⟩
  have wired (behind : List Peeled) (inward : world.client.ended = none ->
      ∃ guardItems middleItems, world.inward.Returns aead guardItems middleItems behind) :
      Wired aead world ahead behind :=
    ⟨⟨guardItems, middleItems, flows⟩, inward, carries.fitting, carries.guardLinked, carries.middleLinked,
      carries.exitUnlinked⟩
  cases running : world.client.ended with
  | none =>
      rcases carries.inward running with ⟨guardItems, middleItems, behind, returns, replies⟩
      exact ⟨ahead, behind, wired behind fun _ => ⟨guardItems, middleItems, returns⟩, content, fun _ => replies⟩
  | some reason =>
      refine ⟨ahead, [], wired [] ?_, content, by simp⟩
      rw [running]
      simp

/-! ## The guard and the middle -/

/-- A turn of a relay that only passes frames on changes nothing about what they contain. -/
theorem Carries.rewire (carries : Carries aead connect world) {guard middle : Station Key}
    (wired : forall ahead behind, Wired aead world ahead behind ->
      Wired aead { world with guard := guard, middle := middle } ahead behind)
    (guardBenign : forall reason, guard.loop.ended = some (.error reason) -> Benign reason)
    (middleBenign : forall reason, middle.loop.ended = some (.error reason) -> Benign reason) :
    Carries aead connect { world with guard := guard, middle := middle } := by
  rcases carries.wired with ⟨ahead, behind, before, content, replies⟩
  have after := wired ahead behind before
  refine { carries with
    outward := ?_
    inward := ?_
    fitting := after.fitting
    guardLinked := after.guardLinked
    middleLinked := after.middleLinked
    guardBenign := guardBenign
    middleBenign := middleBenign }
  · rcases after.outward with ⟨guardItems, middleItems, flows⟩
    refine ⟨guardItems, middleItems, ahead, flows, fun running => ?_⟩
    rcases content running with ⟨connected, tail, holds⟩
    exact ⟨connected, tail, { holds with }⟩
  · intro running
    rcases after.inward running with ⟨guardItems, middleItems, returns⟩
    exact ⟨guardItems, middleItems, behind, returns, { replies running with }⟩

theorem Carries.guardTurns (carries : Carries aead connect world) (cfg : RelayConfig) (env : Env)
    (event : RelayEvent) :
    Carries aead connect { world with
      guard := world.guard.turn aead { cfg with role := .guard } { env with peer := world.client.io.layers.guard.sent }
        world.linkWritten (written .client world.middle.loop.io.outputs) event } := by
  cases running : world.guard.loop.ended with
  | some result =>
      rw [Station.turn_of_ended running]
      exact carries
  | none =>
      rcases carries.wired with ⟨_, _, wired, -⟩
      have moved := wired.guardMoves running cfg env event
      exact carries.rewire (fun _ _ wired => wired.guardMoved running moved) moved.benign carries.middleBenign

theorem Carries.middleTurns (carries : Carries aead connect world) (cfg : RelayConfig) (env : Env)
    (event : RelayEvent) :
    Carries aead connect { world with
      middle := world.middle.turn aead { cfg with role := .middle }
        { env with peer := world.client.io.layers.middle.sent } (written .next world.guard.loop.io.outputs)
        (written .client world.exit.loop.io.outputs) event } := by
  cases running : world.middle.loop.ended with
  | some result =>
      rw [Station.turn_of_ended running]
      exact carries
  | none =>
      rcases carries.wired with ⟨_, _, wired, -⟩
      have moved := wired.middleMoves running cfg env event
      exact carries.rewire (fun _ _ wired => wired.middleMoved running moved) carries.guardBenign moved.benign

end World
end Circuit
end QuietHop
