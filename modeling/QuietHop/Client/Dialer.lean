import QuietHop.Client.Dial
import QuietHop.Client.Path
import QuietHop.Lib.Handshake
import QuietHop.Wire.Payload

namespace QuietHop
namespace Client

open Lib Net Registry Wire

/-!
# Building a circuit

`dial` connects to the guard, presents a token and makes one handshake with each hop:
with the guard on the connection itself, with the middle and the exit through EXTEND
cells that the hop in front acts on.  CONNECT is the last thing it sends; the task then
takes over.

Between two reads `dial` is a program over the transports it holds so far and the record
of what it has written.  A hop's answer is read as a whole, so the reads are those of an
accumulator whose frame is the whole message.
-/

/-- How the connection to the guard fails. -/
inductive LinkError where
  | io (text : String)
  | invalidServerName (name : String)
  deriving DecidableEq, Repr

/-- What `dial` fails with. -/
inductive DialError where
  | link (error : LinkError)
  | noise (error : NoiseError)
  | client (error : ClientError)
  deriving DecidableEq, Repr

/-- The arguments of one call.  The token may have any length; a guard reads one of 256 bytes. -/
structure DialArgs where
  route : SelectedPath
  mRaw : Bytes
  token : Bytes
  destHost : String
  destPort : UInt16
  mRaw_length : mRaw.length = mRawLen

/-- The state of a part of `dial`: the transports it works on, and its record. -/
structure DialIo (Transports : Type) where
  transports : Transports
  outputs : List TaskOutput

/-- The hops reached before the exit. -/
structure Reached (Key : Type) where
  guard : Transport Key
  middle : Option (Transport Key)

abbrev DialM (Transports : Type) := Program DialError (DialIo Transports)

/-- The handshake of the crate, between 32-byte static keys. -/
abbrev NoiseNk (Secret Seed Initiator Key : Type) := Handshake Key32 Secret Seed Initiator NoiseMsg Key

/-- Bytes as a handshake message. -/
def noiseMsg (bytes : Bytes) : Option NoiseMsg :=
  if size : bytes.length = noiseMsgLen then some ⟨bytes, size⟩ else none

section Programs

variable {Transports Secret Seed Initiator Key : Type} (nk : NoiseNk Secret Seed Initiator Key)
  (aead : NoiseAead Key) (args : DialArgs) (env : TaskEnv)

/-- `write_all` and the `flush` that follows the last of several. -/
def send (bytes : Bytes) : DialM Transports Unit := do
  let io ← Program.get
  match env.fault io.outputs.length with
  | none => Program.modify fun io => { io with outputs := io.outputs ++ [.wroteLink bytes] }
  | some written => do
      Program.modify fun io => { io with outputs := io.outputs ++ [.cutLink bytes written] }
      Program.fail (.link (.io "write"))

def ofRegistry {Value : Type} (result : Except RegistryError Value) : DialM Transports Value :=
  Program.ofExcept (fun error => .client (.registry error)) result

def ofCell {Value : Type} (result : Except CellError Value) : DialM Transports Value :=
  Program.ofExcept (fun error => .client (.cell error)) result

/-- `Initiator::start`. -/
def initiate (key : Key32) (seed : Seed) : DialM Transports (Initiator × NoiseMsg) :=
  match nk.start key seed with
  | none => Program.fail (.noise .handshake)
  | some started => pure started

/-- `Initiator::finish`. -/
def conclude (initiator : Initiator) (message2 : Option NoiseMsg) : DialM Transports Key :=
  match message2.bind (nk.finish initiator) with
  | none => Program.fail (.noise .handshake)
  | some key => pure key

/-- An operation on the transports. -/
def onTransports {Value : Type} (operation : Transports -> Except ClientError Value × Transports) :
    DialM Transports Value where
  run io :=
    match operation io.transports with
    | (.error reason, transports) => (.error (.client reason), { io with transports := transports })
    | (.ok value, transports) => (.ok value, { io with transports := transports })

/-- Up to the guard's answer. -/
def greet (tls : Except LinkError Unit) (seed : Seed) : DialM Unit Initiator := do
  let _ ← ofRegistry args.route.guard.addr
  let key ← ofRegistry args.route.guard.staticKey
  Program.ofExcept .link tls
  send env [protoClient]
  send env args.mRaw
  send env args.token
  let started ← initiate nk key seed
  send env started.2.val
  pure started.1

/-- Seal an EXTEND for the deepest hop. -/
def sealExtend (reached : Reached Key) (cell : Cell) : Except ClientError Bytes × Reached Key :=
  match reached.middle with
  | none =>
      match sealToMe aead reached.guard cell clientLayers with
      | (.error e, tx) => (.error (.layer e), { reached with guard := tx })
      | (.ok wire, tx) => (.ok wire, { reached with guard := tx })
  | some middle =>
      match sealToMe aead middle cell (clientLayers - 1) with
      | (.error e, tx) => (.error (.layer e), { reached with middle := some tx })
      | (.ok inner, middle) =>
          match sealForward aead reached.guard inner clientLayers with
          | (.error e, tx) => (.error (.layer e), ⟨tx, some middle⟩)
          | (.ok wire, tx) => (.ok wire, ⟨tx, some middle⟩)

/-- Peel the answer to an EXTEND; it must come from the deepest hop. -/
def peelReply (reached : Reached Key) (wire : Bytes) : Except ClientError Cell × Reached Key :=
  match peel env.logs.guard reached.guard wire clientLayers, reached.middle with
  | (.error e, tx), _ => (.error (.layer e), { reached with guard := tx })
  | (.ok (.toMe cell), tx), none => (.ok cell, { reached with guard := tx })
  | (.ok (.toMe cell), tx), some _ => (.error (.unexpectedCell cell.cellType), { reached with guard := tx })
  | (.ok (.forward _), tx), none => (.error (.unexpectedCell .extend), { reached with guard := tx })
  | (.ok (.forward blob), guard), some middle =>
      match peel env.logs.middle middle blob (clientLayers - 1) with
      | (.error e, tx) => (.error (.layer e), ⟨guard, some tx⟩)
      | (.ok (.toMe cell), tx) => (.ok cell, ⟨guard, some tx⟩)
      | (.ok (.forward _), tx) => (.error (.unexpectedCell .extend), ⟨guard, some tx⟩)

/-- `extend_hop` up to its read. -/
def extendHop (next : RelayEntry) (seed : Seed) : DialM (Reached Key) Initiator := do
  let key ← ofRegistry next.staticKey
  let started ← initiate nk key seed
  let addr ← ofRegistry next.addr
  let cell ← ofCell (Cell.new .extend (ExtendForward.encode ⟨addr, started.2⟩))
  let wire ← onTransports (sealExtend aead · cell)
  send env wire
  pure started.1

/-- `extend_hop` from its read on. -/
def extended (initiator : Initiator) (back : Bytes) : DialM (Reached Key) Key := do
  let reply ← onTransports (peelReply env · back)
  if reply.cellType ≠ .extend then Program.fail (.client (.unexpectedCell reply.cellType))
  else do
    let message2 ← ofCell (parseExtendBackward reply.payload)
    conclude nk initiator (some message2)

/-- CONNECT, sealed for the exit. -/
def sendConnect : DialM (Layers Key) Unit := do
  let payload ← ofCell (ConnectPayload.encode ⟨args.destHost, args.destPort⟩)
  let cell ← ofCell (Cell.new .connect payload)
  let wire ← onTransports (Layers.sealForExit aead · cell)
  send env wire

end Programs

/-! ## The dialer -/

/-- A call of `dial` between two reads, and the task that it leaves behind. -/
inductive Dialer (Initiator Key : Type) where
  /-- The guard's handshake message is awaited. -/
  | greeting (initiator : Initiator) (inbound : FrameAccumulator) (outputs : List TaskOutput)
  /-- The answer to an EXTEND is awaited. -/
  | extending (initiator : Initiator) (inbound : FrameAccumulator) (io : DialIo (Reached Key))
  /-- It failed; the transports are those it held. -/
  | failed (error : DialError) (transports : Hop -> Option (Transport Key)) (outputs : List TaskOutput)
  | streaming (task : CircuitTask Key)

def Reached.tx {Key : Type} (reached : Reached Key) : Hop -> Option (Transport Key)
  | .guard => some reached.guard
  | .middle => reached.middle
  | .exit => none

namespace Dialer

variable {Secret Seed Initiator Key : Type} (nk : NoiseNk Secret Seed Initiator Key) (aead : NoiseAead Key)
  (args : DialArgs) (seed : Hop -> Seed) (env : TaskEnv)

/-- The transports held towards each hop. -/
def tx : Dialer Initiator Key -> Hop -> Option (Transport Key)
  | greeting _ _ _, _ => none
  | extending _ _ io, hop => io.transports.tx hop
  | failed _ transports _, hop => transports hop
  | streaming task, hop => some (task.io.layers.tx hop)

def outputs : Dialer Initiator Key -> List TaskOutput
  | greeting _ _ outputs => outputs
  | extending _ _ io => io.outputs
  | failed _ _ outputs => outputs
  | streaming task => task.io.outputs

/-- How much one read of the link may ask for. -/
def room : Dialer Initiator Key -> Nat
  | greeting _ inbound _ => inbound.room
  | extending _ inbound _ => inbound.room
  | failed _ _ _ => 0
  | streaming task => if task.ended.isSome then 0 else task.io.inbound.room

/-- The guard is connected to and greeted. -/
def start (tls : Except LinkError Unit) (fault : Nat -> Option Nat) : Dialer Initiator Key :=
  match (greet nk args ⟨⟨[], [], []⟩, fault⟩ tls (seed .guard)).run ⟨(), []⟩ with
  | (.error e, io) => failed e (fun _ => none) io.outputs
  | (.ok initiator, io) => greeting initiator (FrameAccumulator.new noiseMsgLen) io.outputs

/-- Extend by the hop behind the deepest one. -/
def extend (io : DialIo (Reached Key)) : Dialer Initiator Key :=
  let hop := if io.transports.middle.isSome then (args.route.exit, seed .exit) else (args.route.middle, seed .middle)
  match (extendHop nk aead env hop.1 hop.2).run io with
  | (.error e, io) => failed e io.transports.tx io.outputs
  | (.ok initiator, io) => extending initiator (FrameAccumulator.new (linkCellLen clientLayers)) io

/-- All three hops are reached. -/
def connect (layers : Layers Key) (outputs : List TaskOutput) : Dialer Initiator Key :=
  match (sendConnect aead args env).run ⟨layers, outputs⟩ with
  | (.error e, io) => failed e (fun hop => some (io.transports.tx hop)) io.outputs
  | (.ok (), io) => streaming ⟨⟨io.transports, FrameAccumulator.new (linkCellLen clientLayers), io.outputs⟩, none⟩

/-- The guard has answered. -/
def onGreeting (initiator : Initiator) (message2 : Bytes) (outputs : List TaskOutput) : Dialer Initiator Key :=
  match (conclude nk initiator (noiseMsg message2) : DialM Unit Key).run ⟨(), outputs⟩ with
  | (.error e, io) => failed e (fun _ => none) io.outputs
  | (.ok key, io) => extend nk aead args seed env ⟨⟨⟨key, [], 0⟩, none⟩, io.outputs⟩

/-- The answer to an EXTEND is there. -/
def onReply (initiator : Initiator) (back : Bytes) (io : DialIo (Reached Key)) : Dialer Initiator Key :=
  match (extended nk env initiator back).run io with
  | (.error e, io) => failed e io.transports.tx io.outputs
  | (.ok key, io) =>
      match io.transports.middle with
      | none => extend nk aead args seed env ⟨{ io.transports with middle := some ⟨key, [], 0⟩ }, io.outputs⟩
      | some middle => connect aead args env ⟨io.transports.guard, middle, ⟨key, [], 0⟩⟩ io.outputs

/-- The connection to the guard breaks. -/
def abort (error : LinkError) (dialer : Dialer Initiator Key) : Dialer Initiator Key :=
  failed (.link error) dialer.tx dialer.outputs

/-- One read of the link, or a turn of the task. -/
def step (dialer : Dialer Initiator Key) (ready : TaskReady) : Dialer Initiator Key :=
  match dialer, ready with
  | streaming task, ready => streaming (task.step aead env ready)
  | failed e transports outputs, _ => failed e transports outputs
  -- The user's end of the stream does not exist before the circuit does.
  | dialer, .userRead _ => dialer
  | dialer, .linkError => dialer.abort (.io "read")
  | greeting initiator inbound outputs, .linkRead bytes =>
      if bytes.isEmpty then abort (.io "unexpected end of file") (greeting initiator inbound outputs)
      else
        match inbound.receive bytes with
        | (none, inbound) => greeting initiator inbound outputs
        | (some message2, _) => onGreeting nk aead args seed env initiator message2 outputs
  | extending initiator inbound io, .linkRead bytes =>
      if bytes.isEmpty then abort (.io "unexpected end of file") (extending initiator inbound io)
      else
        match inbound.receive bytes with
        | (none, inbound) => extending initiator inbound io
        | (some back, _) => onReply nk aead args seed env initiator back io

/-- A dialer that awaits the guard's message goes on waiting, gives up, or has been answered. -/
theorem step_greeting {motive : Dialer Initiator Key -> Prop} {initiator : Initiator} {inbound : FrameAccumulator}
    {outputs : List TaskOutput} (waits : forall inbound, motive (greeting initiator inbound outputs))
    (aborts : forall error, motive (abort error (greeting initiator inbound outputs)))
    (answered : forall message2, motive (onGreeting nk aead args seed env initiator message2 outputs))
    (ready : TaskReady) : motive (step nk aead args seed env (greeting initiator inbound outputs) ready) := by
  cases ready with
  | userRead bytes => exact waits inbound
  | linkError => exact aborts _
  | linkRead bytes =>
      rw [step]
      split_ifs
      · exact aborts _
      split
      · exact waits _
      · exact answered _

/-- The same of one that awaits the answer to an EXTEND. -/
theorem step_extending {motive : Dialer Initiator Key -> Prop} {initiator : Initiator} {inbound : FrameAccumulator}
    {io : DialIo (Reached Key)} (waits : forall inbound, motive (extending initiator inbound io))
    (aborts : forall error, motive (abort error (extending initiator inbound io)))
    (answered : forall back, motive (onReply nk aead args seed env initiator back io))
    (ready : TaskReady) : motive (step nk aead args seed env (extending initiator inbound io) ready) := by
  cases ready with
  | userRead bytes => exact waits inbound
  | linkError => exact aborts _
  | linkRead bytes =>
      rw [step]
      split_ifs
      · exact aborts _
      split
      · exact waits _
      · exact answered _

end Dialer
end Client
end QuietHop
