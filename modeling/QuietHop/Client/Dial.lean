import QuietHop.Client.Layers
import QuietHop.Lib.Program
import QuietHop.Lib.Stream
import QuietHop.Wire.FrameReader

namespace QuietHop
namespace Client

open Lib Wire

/-!
# The client's end of an established circuit

`circuit_task` waits for the user and for the guard.  What the user writes is cut into
DATA cells for the exit; what comes back is peeled and handed to the user.  Everything
that can go wrong leaves the loop, after which the exit is asked to close.

A turn of the loop is a program over the task's state, as at a relay.  Which messages
open under the three transports is decided by what the hops have sealed, which the
environment of each turn says.
-/

/-- Why the loop was left. -/
inductive Break where
  | userClosed
  | cell (error : CellError)
  | sealing (error : ClientError)
  | linkWrite
  | linkRead
  | peeling (error : ClientError)
  | userWrite
  | closeAck
  | unexpected (cellType : CellType)
  deriving DecidableEq

inductive TaskOutput where
  | wroteLink (frame : Bytes)
  /-- A write to the guard that broke off after `written` bytes. -/
  | cutLink (frame : Bytes) (written : Nat)
  | wroteUser (payload : Bytes)
  | cutUser (payload : Bytes) (written : Nat)

structure TaskIo (Key : Type) where
  layers : Layers Key
  inbound : FrameAccumulator
  outputs : List TaskOutput

/-- What one turn of the task meets outside. -/
structure TaskEnv where
  /-- What each hop has sealed so far. -/
  logs : PeerLogs
  /-- Where the write that follows this many outputs breaks off, if it does. -/
  fault : Nat -> Option Nat

inductive TaskReady where
  /-- A read from the user; no bytes is the end of the stream or an error. -/
  | userRead (bytes : Bytes)
  /-- A read from the guard; no bytes is the end of the stream. -/
  | linkRead (bytes : Bytes)
  | linkError

def userReadBuf : Nat := cellPayloadLen * 32

abbrev TaskM (Key : Type) := Program Break (TaskIo Key)

section Programs

variable {Key : Type} (aead : NoiseAead Key) (env : TaskEnv)

def emitTask (output : TaskOutput) : TaskM Key Unit :=
  Program.modify fun io => { io with outputs := io.outputs ++ [output] }

def writeLink (frame : Bytes) : TaskM Key Unit := do
  let io ← Program.get
  match env.fault io.outputs.length with
  | none => emitTask (.wroteLink frame)
  | some written => do
      emitTask (.cutLink frame written)
      Program.fail .linkWrite

def writeUser (payload : Bytes) : TaskM Key Unit := do
  let io ← Program.get
  match env.fault io.outputs.length with
  | none => emitTask (.wroteUser payload)
  | some written => do
      emitTask (.cutUser payload written)
      Program.fail .userWrite

/-- An operation on the three transports. -/
def onLayers {Value : Type} (embed : ClientError -> Break)
    (operation : Layers Key -> Except ClientError Value × Layers Key) : TaskM Key Value where
  run io :=
    match operation io.layers with
    | (.error reason, layers) => (.error (embed reason), { io with layers := layers })
    | (.ok value, layers) => (.ok value, { io with layers := layers })

/-- One chunk of what the user wrote. -/
def sendChunk (chunk : Bytes) : TaskM Key Unit := do
  let cell ← Program.ofExcept .cell (Cell.new .data chunk)
  let wire ← onLayers .sealing (Layers.sealForExit aead · cell)
  writeLink env wire

def sendChunks : List Bytes -> TaskM Key Unit
  | [] => pure ()
  | chunk :: rest => do
      sendChunk aead env chunk
      sendChunks rest

/-- A zero-length DATA cell is legal and does nothing. -/
def onCell (cell : Cell) : TaskM Key Unit :=
  match cell.cellType with
  | .data => if cell.payload.isEmpty then pure () else writeUser env cell.payload
  | .closeAck => Program.fail .closeAck
  | other => Program.fail (.unexpected other)

def onFrame (frame : Bytes) : TaskM Key Unit := do
  let cell ← onLayers .peeling (Layers.peelInbound env.logs · frame)
  onCell env cell

def taskTurn : TaskReady -> TaskM Key Unit
  | .userRead bytes =>
      if bytes.isEmpty then Program.fail .userClosed
      else sendChunks aead env (Stream.chunks cellPayloadLen (bytes.take userReadBuf))
  | .linkRead bytes => do
      let io ← Program.get
      if bytes.isEmpty then Program.fail .linkRead
      else do
        let received := io.inbound.receive bytes
        Program.modify fun io => { io with inbound := received.2 }
        match received.1 with
        | none => pure ()
        | some frame => onFrame env frame
  | .linkError => Program.fail .linkRead

/-- Ask the exit to close.  A link on which a write has failed carries nothing more. -/
def teardown (reason : Break) (io : TaskIo Key) : TaskIo Key :=
  match Cell.new .closeRequest [] with
  | .error _ => io
  | .ok cell =>
      match io.layers.sealForExit aead cell with
      | (.error _, layers) => { io with layers := layers }
      | (.ok wire, layers) =>
          if reason = .linkWrite then { io with layers := layers }
          else
            match env.fault io.outputs.length with
            | none => { io with layers := layers, outputs := io.outputs ++ [.wroteLink wire] }
            | some written => { io with layers := layers, outputs := io.outputs ++ [.cutLink wire written] }

end Programs

/-- The task and why it ended, if it has. -/
structure CircuitTask (Key : Type) where
  io : TaskIo Key
  ended : Option Break

namespace CircuitTask

variable {Key : Type} (aead : NoiseAead Key)

def start (layers : Layers Key) : CircuitTask Key :=
  ⟨⟨layers, FrameAccumulator.new (linkCellLen clientLayers), []⟩, none⟩

def step (task : CircuitTask Key) (env : TaskEnv) (ready : TaskReady) : CircuitTask Key :=
  match task.ended with
  | some _ => task
  | none =>
      match (taskTurn aead env ready).run task.io with
      | (.ok (), io) => ⟨io, none⟩
      | (.error reason, io) => ⟨teardown aead env reason io, some reason⟩

end CircuitTask

/-! ## What reaches the user -/

/-- The payload an output hands to the user, or begins to. -/
def TaskOutput.toUser : TaskOutput -> Option Bytes
  | wroteUser payload => some payload
  | cutUser payload _ => some payload
  | _ => none

/-- The payloads handed to the user, in order. -/
def TaskIo.delivered {Key : Type} (io : TaskIo Key) : List Bytes :=
  io.outputs.filterMap TaskOutput.toUser

section Delivery

variable {Key : Type} {aead : NoiseAead Key} {env : TaskEnv}

/-- Nothing is handed to the user in between. -/
def Silent (before after : TaskIo Key) : Prop :=
  after.delivered = before.delivered

instance : Std.Refl (@Silent Key) where
  refl _ := rfl

instance : IsTrans (TaskIo Key) Silent where
  trans _ _ _ head tail := Eq.trans tail head

theorem emitTask_silent {output : TaskOutput} (quiet : output.toUser = none) :
    Program.Keeps (@Silent Key) (emitTask output) := by
  apply Program.keeps_modify
  intro io
  simp [Silent, TaskIo.delivered, quiet]

theorem onLayers_silent {Value : Type} (embed : ClientError -> Break)
    (operation : Layers Key -> Except ClientError Value × Layers Key) :
    Program.Keeps Silent (onLayers embed operation) := by
  intro io
  simp only [onLayers]
  split <;> rfl

theorem writeLink_silent (frame : Bytes) : Program.Keeps (@Silent Key) (writeLink env frame) := by
  refine Program.keeps_bind Program.keeps_get fun io => ?_
  cases env.fault io.outputs.length with
  | none => exact emitTask_silent rfl
  | some written => exact Program.keeps_bind (emitTask_silent rfl) fun _ => Program.keeps_fail _

theorem sendChunks_silent (pieces : List Bytes) : Program.Keeps Silent (sendChunks aead env pieces) := by
  induction pieces with
  | nil => exact Program.keeps_pure ()
  | cons piece rest ih =>
      refine Program.keeps_bind ?_ fun _ => ih
      refine Program.keeps_bind (Program.keeps_ofExcept _ _) fun cell => ?_
      exact Program.keeps_bind (onLayers_silent _ _) fun wire => writeLink_silent wire

theorem teardown_silent (reason : Break) (io : TaskIo Key) : Silent io (teardown aead env reason io) := by
  rw [teardown]
  split
  · rfl
  · split
    · rfl
    · split_ifs
      · rfl
      · split <;> simp [Silent, TaskIo.delivered, TaskOutput.toUser]

theorem onCell_delivered (cell : Cell) (io : TaskIo Key) :
    Silent io ((onCell env cell).run io).2 ∨
    cell.cellType = .data ∧ cell.payload ≠ [] ∧
      ((onCell env cell).run io).2.delivered = io.delivered ++ [cell.payload] := by
  rw [onCell]
  split
  · next isData =>
      split_ifs with empty
      · exact .inl rfl
      · refine .inr ⟨isData, by simpa using empty, ?_⟩
        simp only [writeUser, Program.run_get_bind]
        cases env.fault io.outputs.length with
        | none => simp [emitTask, TaskIo.delivered, TaskOutput.toUser]
        | some written => simp [emitTask, TaskIo.delivered, TaskOutput.toUser]
  · exact .inl rfl
  · exact .inl rfl

/-- A turn hands nothing to the user, or the payload of a non-empty DATA cell that a frame
peeled to. -/
theorem taskTurn_delivered (ready : TaskReady) (io : TaskIo Key) :
    Silent io ((taskTurn aead env ready).run io).2 ∨
    ∃ frame cell, (io.layers.peelInbound env.logs frame).1 = .ok cell ∧
      cell.cellType = .data ∧ cell.payload ≠ [] ∧
      ((taskTurn aead env ready).run io).2.delivered = io.delivered ++ [cell.payload] := by
  cases ready with
  | userRead bytes =>
      left
      simp only [taskTurn]
      split_ifs
      · rfl
      · exact sendChunks_silent _ io
  | linkError => exact .inl rfl
  | linkRead bytes =>
      simp only [taskTurn, Program.run_get_bind]
      split_ifs
      · exact .inl rfl
      simp only [Program.run_modify_bind]
      split
      · exact .inl rfl
      next frame _ =>
      rcases result : io.layers.peelInbound env.logs frame with ⟨outcome, layers⟩
      cases outcome with
      | error reason =>
          left
          rw [onFrame, Program.run_bind_of_error (by simp only [onLayers, result]; rfl)]
          rfl
      | ok cell =>
          rw [onFrame, Program.run_bind_of_ok (by simp only [onLayers, result]; rfl)]
          rcases onCell_delivered cell _ with silent | ⟨isData, nonempty, delivered⟩
          · exact .inl silent
          · exact .inr ⟨frame, cell, by rw [result], isData, nonempty, delivered⟩

/-- A read that is a whole frame, when nothing of it has arrived before. -/
theorem taskTurn_frame {io : TaskIo Key} {frame : Bytes} (fresh : io.inbound.buf = [])
    (size : frame.length = io.inbound.frameLen) (positive : 0 < frame.length) :
    (taskTurn aead env (.linkRead frame)).run io = (onFrame env frame).run io := by
  have received : io.inbound.receive frame = (some frame, io.inbound) := by
    rcases io with ⟨layers, ⟨frameLen, buf⟩, outputs⟩
    simp only at fresh size
    subst fresh size
    simp [FrameAccumulator.receive, FrameAccumulator.nextFrame, FrameAccumulator.push, FrameAccumulator.room,
      FrameAccumulator.pending]
  have nonempty : frame.isEmpty = false := by
    cases frame with
    | nil => cases positive
    | cons byte rest => rfl
  simp only [taskTurn, Program.run_get_bind, nonempty, received, Bool.false_eq_true, if_false,
    Program.run_modify_bind]

/-- A frame that peels to a non-empty DATA cell is handed to the user. -/
theorem step_delivers {io : TaskIo Key} {frame payload : Bytes} {layers : Layers Key} (fresh : io.inbound.buf = [])
    (size : frame.length = io.inbound.frameLen) (positive : 0 < frame.length)
    (peeled : io.layers.peelInbound env.logs frame = (.ok ⟨.data, payload⟩, layers)) (nonempty : payload ≠ [])
    (sound : env.fault io.outputs.length = none) :
    (CircuitTask.step aead ⟨io, none⟩ env (.linkRead frame)).io.delivered = io.delivered ++ [payload] := by
  have opened : (onLayers .peeling (Layers.peelInbound env.logs · frame)).run io =
      (.ok ⟨.data, payload⟩, { io with layers := layers }) := by
    simp only [onLayers, peeled]
  have filled : payload.isEmpty = false := by
    cases payload with
    | nil => exact absurd rfl nonempty
    | cons byte rest => rfl
  have handed : (onFrame env frame).run io =
      (.ok (), { io with layers := layers, outputs := io.outputs ++ [.wroteUser payload] }) := by
    rw [onFrame, Program.run_bind_of_ok opened]
    simp only [onCell, filled, Bool.false_eq_true, if_false, writeUser, Program.run_get_bind, sound]
    rfl
  simp only [CircuitTask.step, taskTurn_frame fresh size positive, handed]
  simp [TaskIo.delivered, TaskOutput.toUser]

end Delivery
end Client
end QuietHop
