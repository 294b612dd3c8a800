import QuietHop.Lib.Program
import QuietHop.Lib.Stream
import QuietHop.Relay.Registry
import QuietHop.Relay.Token
import QuietHop.Wire.FrameReader
import QuietHop.Wire.Link
import QuietHop.Wire.Payload

namespace QuietHop
namespace Relay

open Lib Net Registry Wire

/-!
# One circuit's loop at a relay

`run_circuit_io` waits for one of three sources: the inbound link, the next link, and
the destination.  Each turn of the loop is a program over the circuit's state.  What
the turn finds outside the relay, such as the document in force, the outcome of a
dial or the point at which a write breaks off, comes from an environment that may be
different at every turn.

Everything the relay does to the outside is recorded, together with the instant it
was done at.  Two entries of the record are only seen by the model: a cell is noted
when the relay starts to act on it, and the tests that let a peer in are noted with
their outcome.
-/

/-! ## Errors -/

inductive IoError where
  | unexpectedEof
  | other (text : String)
  deriving DecidableEq, Repr

inductive ExitError where
  | portNotAllowed
  | badProxyUrl
  | dialFailed
  | dialTimeout
  deriving DecidableEq, Repr

/-- What dialing the next hop over TLS can run into. -/
inductive TlsError where
  | handshake (text : String) (error : IoError)
  | invalidServerName (name : String)
  deriving DecidableEq, Repr

/-- The states of a circuit. -/
inductive State where
  | pending
  | active
  | closed
  | failed
  deriving DecidableEq, Repr

inductive CircuitError where
  | illegalTransition (origin target : State)
  deriving DecidableEq, Repr

inductive HandleError where
  | io (error : IoError)
  | timeout
  | token (error : TokenError)
  | handshake
  | layer (error : LayerError)
  | circuit (error : CircuitError)
  | cell (error : CellError)
  | exit (error : ExitError)
  | unexpectedProtocol (byte : UInt8)
  | peerNotAllowed
  | illegalCellForRole (cellType : CellType) (role : Role)
  | peerClosed
  | missingDecodoUrl
  | peerHostnameMissing (addr : SocketAddr)
  | forwardWithoutNextLink (role : Role)
  | tls (error : TlsError)
  deriving DecidableEq

/-- How reading a fixed number of bytes under a timeout fails. -/
inductive ReadError where
  | io (error : IoError)
  | timeout
  deriving DecidableEq, Repr

def ReadError.toHandle : ReadError -> HandleError
  | io error => .io error
  | timeout => .timeout

/-! ## The state machine of a circuit -/

structure Circuit where
  state : State
  deriving DecidableEq, Repr

namespace Circuit

def new : Circuit := ⟨.pending⟩

def activate (circuit : Circuit) : Except CircuitError Unit × Circuit :=
  if circuit.state ≠ .pending then (.error (.illegalTransition circuit.state .active), circuit)
  else (.ok (), ⟨.active⟩)

def close (circuit : Circuit) : Except CircuitError Unit × Circuit :=
  match circuit.state with
  | .pending => (.ok (), ⟨.closed⟩)
  | .active => (.ok (), ⟨.closed⟩)
  | other => (.error (.illegalTransition other .closed), circuit)

/-- Failing after a close is ignored. -/
def fail (circuit : Circuit) : Circuit :=
  match circuit.state with
  | .pending => ⟨.failed⟩
  | .active => ⟨.failed⟩
  | .failed => circuit
  | .closed => circuit

end Circuit

/-! ## Sizes -/

/-- How many AEAD layers this role's inbound link carries. -/
def inboundLayers : Role -> Nat
  | .guard => 3
  | .middle => 2
  | .exit => 1

def inboundLen (role : Role) : Nat :=
  linkCellLen (inboundLayers role)

/-- Cell size on this role's outbound relay link, if it has one. -/
def outboundLen : Role -> Option Nat
  | .exit => none
  | other => some (linkCellLen (inboundLayers other - 1))

def destReadBuf : Nat := cellPayloadLen * 32

/-! ## State, environment and record -/

/-- The fields of the configuration that a circuit reads. -/
structure RelayConfig where
  role : Role
  allowedExitPorts : List UInt16
  decodoProxyUrl : Option String

/-- What is known about the network's relays at one moment. -/
structure Instant where
  registry : Option Verified
  now : Int

inductive Sink where
  /-- Cells towards the client. -/
  | client
  /-- Cells to the next link. -/
  | next
  | dest
  /-- The answer to the peer's handshake. -/
  | handshake
  /-- The protocol bytes and the client's handshake message on a new next link. -/
  | courier
  deriving DecidableEq, Repr

inductive Output where
  | wrote (sink : Sink) (bytes : Bytes)
  /-- A write that broke off after `written` bytes. -/
  | cut (sink : Sink) (bytes : Bytes) (written : Nat)
  | dialedNext (addr : SocketAddr) (tlsName : String)
  | dialedDest (host : String) (port : UInt16)
  | verified (mRaw token : Bytes) (result : Except TokenError Unit)
  | admitted (peer : IpAddr)
  | responded (message : Bytes)
  | acted (cell : Cell)

structure CircuitIo (Key : Type) where
  transport : Transport Key
  inbound : FrameAccumulator
  nextLink : Option FrameAccumulator
  destLink : Bool
  outputs : List (Instant × Output)

/-- The parts of a parsed proxy URL that are checked. -/
structure Url where
  scheme : String
  hostStr : Option String
  port : Option UInt16

/-- The SOCKS5 dial under its timeout. -/
inductive Dialed where
  | connected
  | refused
  | timedOut
  deriving DecidableEq, Repr

/-- What one turn of the loop meets outside the relay. -/
structure Env where
  /-- What the other end of the transport has sealed so far. -/
  peer : List Sealed
  instant : Instant
  /-- Where the write that follows this many outputs breaks off, if it does. -/
  fault : Nat -> Option Nat
  dialTls : Except TlsError Unit
  /-- The next hop's answer to the client's handshake message. -/
  message2 : Except ReadError NoiseMsg
  /-- `Url::parse`. -/
  parseUrl : String -> Option Url
  dialSocks : Dialed

/-- A source that became ready, with what it yields. -/
inductive Ready where
  /-- A read on the inbound link; no bytes is the end of the stream. -/
  | inboundRead (bytes : Bytes)
  | inboundError (error : IoError)
  | timeout
  | nextRead (bytes : Bytes)
  | nextError (error : IoError)
  | destRead (bytes : Bytes)
  | destError (error : IoError)

/-- Whether the loop goes on. -/
inductive Control where
  | proceed
  | closed
  deriving DecidableEq, Repr

/-! ## The programs -/

abbrev CircuitM (Key : Type) := Program HandleError (CircuitIo Key)

section Programs

variable {Key : Type} (aead : NoiseAead Key) (cfg : RelayConfig) (env : Env)

def emit (output : Output) : CircuitM Key Unit :=
  Program.modify fun io => { io with outputs := io.outputs ++ [(env.instant, output)] }

/-- `write_all` and the `flush` after it. -/
def write (sink : Sink) (bytes : Bytes) : CircuitM Key Unit := do
  let io ← Program.get
  match env.fault io.outputs.length with
  | none => emit env (.wrote sink bytes)
  | some written => do
      emit env (.cut sink bytes written)
      Program.fail (.io (.other "write"))

/-- An operation of the layer module on the circuit's transport. -/
def onTransport {Value : Type} (operation : Transport Key -> Except LayerError Value × Transport Key) :
    CircuitM Key Value where
  run io :=
    match operation io.transport with
    | (.error reason, transport) => (.error (.layer reason), { io with transport := transport })
    | (.ok value, transport) => (.ok value, { io with transport := transport })

/-- Seal a cell and send it towards the client. -/
def reply (cellType : CellType) (payload : Bytes) : CircuitM Key Unit := do
  let cell ← Program.ofExcept .cell (Cell.new cellType payload)
  let framed ← onTransport (sealToMe aead · cell (inboundLayers cfg.role))
  write env .client framed

/-- Carry the client's handshake to the hop that has just been dialed. -/
def courier (extend : ExtendForward) (frameLen : Nat) : CircuitM Key (FrameAccumulator × NoiseMsg) := do
  Program.ofExcept .tls env.dialTls
  write env .courier [protoRelay]
  write env .courier [circuitStart]
  write env .courier extend.noiseMsg1.val
  let noiseMsg2 ← Program.ofExcept ReadError.toHandle env.message2
  pure (FrameAccumulator.new frameLen, noiseMsg2)

/-- The hop to extend to must be listed in the document in force. -/
def openNextLink (extend : ExtendForward) (frameLen : Nat) : CircuitM Key (FrameAccumulator × NoiseMsg) :=
  match usable env.instant.registry env.instant.now with
  | none => Program.fail (.peerHostnameMissing extend.nextHop)
  | some doc =>
      match extendTarget doc cfg.role extend.nextHop with
      | none => Program.fail (.peerHostnameMissing extend.nextHop)
      | some entry => do
          emit env (.dialedNext extend.nextHop entry.tlsName)
          courier env extend frameLen

/-- The proxy's host and port, or none for a URL that cannot be used. -/
def proxyAddr (url : Url) : Option (String × UInt16) :=
  if url.scheme.toLower ≠ "socks5" ∧ url.scheme.toLower ≠ "socks5h" then none
  else do
    let host ← url.hostStr
    let port ← url.port
    pure (host, port)

/-- `dial_via_socks5`: the port is checked before anything else. -/
def dialViaSocks5 (proxyUrl host : String) (port : UInt16) : CircuitM Key Unit :=
  if port ∉ cfg.allowedExitPorts then Program.fail (.exit .portNotAllowed)
  else
    match (env.parseUrl proxyUrl).bind proxyAddr with
    | none => Program.fail (.exit .badProxyUrl)
    | some _ => do
        emit env (.dialedDest host port)
        match env.dialSocks with
        | .connected => pure ()
        | .refused => Program.fail (.exit .dialFailed)
        | .timedOut => Program.fail (.exit .dialTimeout)

def onExtend (payload : Bytes) : CircuitM Key Control := do
  let io ← Program.get
  if io.nextLink.isSome then Program.fail (.illegalCellForRole .extend cfg.role)
  else do
    let extend ← Program.ofExcept .cell (ExtendForward.decode payload)
    match outboundLen cfg.role with
    | none => Program.fail (.illegalCellForRole .extend cfg.role)
    | some out => do
        let nl ← openNextLink cfg env extend out
        reply aead cfg env .extend (extendBackwardPayload nl.2)
        Program.modify fun io => { io with nextLink := some nl.1 }
        pure .proceed

def onConnect (payload : Bytes) : CircuitM Key Control := do
  let io ← Program.get
  if io.destLink then Program.fail (.illegalCellForRole .connect cfg.role)
  else do
    let connect ← Program.ofExcept .cell (ConnectPayload.decode payload)
    match cfg.decodoProxyUrl with
    | none => Program.fail .missingDecodoUrl
    | some proxyUrl => do
        dialViaSocks5 cfg env proxyUrl connect.host connect.port
        Program.modify fun io => { io with destLink := true }
        pure .proceed

def onData (payload : Bytes) : CircuitM Key Control := do
  let io ← Program.get
  if payload.isEmpty then pure .proceed
  else if io.destLink then do
    write env .dest payload
    pure .proceed
  else Program.fail (.illegalCellForRole .data cfg.role)

def onCloseRequest : CircuitM Key Control := do
  reply aead cfg env .closeAck []
  Program.modify fun io => { io with nextLink := none, destLink := false }
  pure .closed

def onCell (cell : Cell) : CircuitM Key Control :=
  match cell.cellType, cfg.role with
  | .extend, .guard => onExtend aead cfg env cell.payload
  | .extend, .middle => onExtend aead cfg env cell.payload
  | .connect, .exit => onConnect cfg env cell.payload
  | .data, .exit => onData cfg env cell.payload
  | .closeRequest, _ => onCloseRequest aead cfg env
  | .closeAck, _ => Program.fail .peerClosed
  | t, r => Program.fail (.illegalCellForRole t r)

def onPeeled : Peeled -> CircuitM Key Control
  | .forward blob => do
      let io ← Program.get
      if io.nextLink.isSome then do
        write env .next blob
        pure .proceed
      else Program.fail (.forwardWithoutNextLink cfg.role)
  | .toMe cell => do
      emit env (.acted cell)
      onCell aead cfg env cell

/-- A whole frame from the inbound link. -/
def onInboundFrame (wire : Bytes) : CircuitM Key Control := do
  let peeled ← onTransport (peel env.peer · wire (inboundLayers cfg.role))
  onPeeled aead cfg env peeled

/-- A whole frame from the next link. -/
def onNextFrame (blob : Bytes) : CircuitM Key Control := do
  let framed ← onTransport (sealForward aead · blob (inboundLayers cfg.role))
  write env .client framed
  pure .proceed

/-- The chunks of one destination read. -/
def sendChunks : List Bytes -> CircuitM Key Unit
  | [] => pure ()
  | chunk :: rest => do
      reply aead cfg env .data chunk
      sendChunks rest

def onDestRead (bytes : Bytes) : CircuitM Key Control :=
  if bytes.isEmpty then do
    Program.modify fun io => { io with destLink := false }
    pure .proceed
  else do
    sendChunks aead cfg env (Stream.chunks cellPayloadLen bytes)
    pure .proceed

/-- One read of a frame reader: keep what is incomplete, and hand a whole frame on. -/
def whenFrame (received : Option Bytes × FrameAccumulator) (store : FrameAccumulator -> CircuitIo Key -> CircuitIo Key)
    (handle : Bytes -> CircuitM Key Control) : CircuitM Key Control := do
  Program.modify (store received.2)
  match received.1 with
  | none => pure .proceed
  | some frame => handle frame

/-- One turn of the loop.  A branch whose link is absent is never ready. -/
def turn : Ready -> CircuitM Key Control
  | .inboundRead bytes => do
      let io ← Program.get
      if bytes.isEmpty then Program.fail (.io .unexpectedEof)
      else
        whenFrame (io.inbound.receive bytes) (fun acc io => { io with inbound := acc })
          (onInboundFrame aead cfg env)
  | .inboundError error => Program.fail (.io error)
  | .timeout => Program.fail .timeout
  | .nextRead bytes => do
      let io ← Program.get
      match io.nextLink with
      | none => pure .proceed
      | some acc =>
          if bytes.isEmpty then Program.fail (.io .unexpectedEof)
          else
            whenFrame (acc.receive bytes) (fun acc io => { io with nextLink := some acc })
              (onNextFrame aead cfg env)
  | .nextError error => do
      let io ← Program.get
      if io.nextLink.isSome then Program.fail (.io error) else pure .proceed
  | .destRead bytes => do
      let io ← Program.get
      if io.destLink then onDestRead aead cfg env (bytes.take destReadBuf) else pure .proceed
  | .destError error => do
      let io ← Program.get
      if io.destLink then Program.fail (.io error) else pure .proceed

end Programs

/-! ## Runs -/

/-- A circuit's loop and how it ended, if it has. -/
structure CircuitLoop (Key : Type) where
  io : CircuitIo Key
  ended : Option (Except HandleError Unit)

namespace CircuitLoop

variable {Key : Type}

/-- The state `run_circuit_io` starts in. -/
def start (role : Role) (transport : Transport Key) (outputs : List (Instant × Output)) : CircuitLoop Key :=
  ⟨⟨transport, FrameAccumulator.new (inboundLen role), none, false, outputs⟩, none⟩

def settle (result : Except HandleError Control × CircuitIo Key) : CircuitLoop Key :=
  match result with
  | (.ok .proceed, io) => ⟨io, none⟩
  | (.ok .closed, io) => ⟨io, some (.ok ())⟩
  | (.error reason, io) => ⟨io, some (.error reason)⟩

variable (aead : NoiseAead Key) (cfg : RelayConfig)

def step (circuit : CircuitLoop Key) (env : Env) (ready : Ready) : CircuitLoop Key :=
  match circuit.ended with
  | some _ => circuit
  | none => settle ((turn aead cfg env ready).run circuit.io)

def run (circuit : CircuitLoop Key) (turns : List (Env × Ready)) : CircuitLoop Key :=
  turns.foldl (fun circuit next => circuit.step aead cfg next.1 next.2) circuit

end CircuitLoop
end Relay
end QuietHop
