import QuietHop.Client.Error
import QuietHop.Lib.Program
import QuietHop.Wire.Payload

namespace QuietHop
namespace Client

open Lib Net Wire

/-!
# The SOCKS5 side of the client

`serve` reads a greeting and one CONNECT request from a local socket and hands the destination
to the circuit.  The destination travels to the exit as text and a port: an address is written
out, a name is passed on as it came.

The socket is the bytes that will still arrive and the way they end.  Reads take exactly what
they ask for; a write may fail.
-/

namespace Socks

def ver : UInt8 := 0x05
def methodNoAuth : UInt8 := 0x00
def methodNoneAcceptable : UInt8 := 0xFF
def cmdConnect : UInt8 := 0x01
def atypIpv4 : UInt8 := 0x01
def atypDomain : UInt8 := 0x03
def atypIpv6 : UInt8 := 0x04
def repSuccess : UInt8 := 0x00
def repGeneralFailure : UInt8 := 0x01
def repCommandNotSupported : UInt8 := 0x07
def repAddressNotSupported : UInt8 := 0x08

inductive SocketError where
  | unexpectedEof
  | other (text : String)
  deriving DecidableEq, Repr

inductive SocksError where
  | io (error : SocketError)
  | client (error : ClientError)
  | unsupportedVersion (byte : UInt8)
  | unsupportedCommand (byte : UInt8)
  | unsupportedAtyp (byte : UInt8)
  | noAcceptableAuth
  deriving DecidableEq, Repr

structure Session where
  /-- What the local program has sent or will send. -/
  input : Bytes
  /-- What has been written back, one entry for each write. -/
  replies : List Bytes
  deriving DecidableEq

/-- What the session meets outside. -/
structure SessionEnv where
  /-- How the input ends, once it is used up. -/
  finish : SocketError
  /-- Whether the write that follows this many others fails. -/
  fault : Nat -> Option SocketError

abbrev SocksM := Program SocksError Session

section Programs

variable (env : SessionEnv)

def readExact (count : Nat) : SocksM Bytes := do
  let session ← Program.get
  if session.input.length < count then Program.fail (.io env.finish)
  else do
    Program.modify fun session => { session with input := session.input.drop count }
    pure (session.input.take count)

def writeAll (bytes : Bytes) : SocksM Unit := do
  let session ← Program.get
  match env.fault session.replies.length with
  | some error => Program.fail (.io error)
  | none => Program.modify fun session => { session with replies := session.replies ++ [bytes] }

def writeReply (rep : UInt8) : SocksM Unit :=
  writeAll env [ver, rep, 0x00, atypIpv4, 0, 0, 0, 0, 0, 0]

/-- A write whose failure is ignored. -/
def attempt (program : SocksM Unit) : SocksM Unit where
  run session := (.ok (), (program.run session).2)

/-- The greeting must offer the method without authentication. -/
def greet : SocksM Unit := do
  let greet ← readExact env 2
  if greet.getD 0 0 ≠ ver then Program.fail (.unsupportedVersion (greet.getD 0 0))
  else do
    let methods ← readExact env (greet.getD 1 0).toNat
    if methodNoAuth ∉ methods then do
      attempt (writeAll env [ver, methodNoneAcceptable])
      Program.fail .noAcceptableAuth
    else writeAll env [ver, methodNoAuth]

def destHost (atyp : UInt8) : SocksM String :=
  if atyp = atypIpv4 then do
    let a ← readExact env 4
    pure (ofAscii (Display.ipv4 a))
  else if atyp = atypIpv6 then do
    let a ← readExact env 16
    if size : a.length = 16 then pure (ofAscii (Display.ipv6 ⟨a, size⟩)) else Program.fail (.io env.finish)
  else if atyp = atypDomain then do
    let len ← readExact env 1
    let name ← readExact env (len.getD 0 0).toNat
    match String.fromUTF8? ⟨name.toArray⟩ with
    | some host => pure host
    | none => do
        writeReply env repAddressNotSupported
        Program.fail (.unsupportedAtyp atyp)
  else do
    writeReply env repAddressNotSupported
    Program.fail (.unsupportedAtyp atyp)

/-- Everything `serve` does before it asks for a circuit. -/
def request : SocksM (String × UInt16) := do
  greet env
  let reqHead ← readExact env 4
  if reqHead.getD 0 0 ≠ ver then Program.fail (.unsupportedVersion (reqHead.getD 0 0))
  else if reqHead.getD 1 0 ≠ cmdConnect then do
    writeReply env repCommandNotSupported
    Program.fail (.unsupportedCommand (reqHead.getD 1 0))
  else do
    let host ← destHost env (reqHead.getD 3 0)
    let portBuf ← readExact env 2
    pure (host, UInt16.ofNat (BigEndian.toNat portBuf))

/-- The session up to the reply after which bytes are only copied.  A token, a path and a circuit
are asked for in one go. -/
def serve (dial : String -> UInt16 -> Except ClientError Unit) : SocksM Unit := do
  let destination ← request env
  match dial destination.1 destination.2 with
  | .error e => do
      attempt (writeReply env repGeneralFailure)
      Program.fail (.client e)
  | .ok () => writeReply env repSuccess

end Programs

/-! ## Hosts fit -/

/-- A host that a session can ask for. -/
def Short (host : String) : Prop := (asBytes host).length ≤ 255

section Returns

variable {env : SessionEnv}

theorem readExact_returns (count : Nat) :
    Program.Returns (fun bytes => bytes.length = count) (readExact env count) := by
  intro session bytes returned
  simp only [readExact, Program.run_get_bind] at returned
  split_ifs at returned with short
  · cases returned
  · rw [← Except.ok.inj returned, List.length_take]
    omega

theorem short_ofAscii {bytes : Bytes} (ascii : ∀ byte ∈ bytes, byte.toNat < 128) (small : bytes.length ≤ 255) :
    Short (ofAscii bytes) := by
  rw [Short, asBytes_ofAscii ascii]
  exact small

theorem destHost_returns (atyp : UInt8) : Program.Returns Short (destHost env atyp) := by
  rw [destHost]
  split_ifs
  · apply Program.returns_bind
    intro a
    apply Program.returns_pure
    exact short_ofAscii (Display.ipv4_ascii a) (Nat.le_trans (Display.length_ipv4 a) (by decide))
  · apply Program.returns_bind
    intro a
    split_ifs with size
    · apply Program.returns_pure
      exact short_ofAscii (Display.ipv6_ascii _) (Nat.le_trans (Display.length_ipv6 _) (by decide))
    · exact Program.returns_fail _
  · apply Program.returns_bind
    intro len
    refine Program.returns_bind_of_returns (readExact_returns _) fun name size => ?_
    split
    · next host read =>
        apply Program.returns_pure
        have byte := (len.getD 0 0).toNat_lt
        rw [Short, ConnectPayload.asBytes_of_fromUTF8? read, size]
        omega
    · apply Program.returns_bind
      intro _
      exact Program.returns_fail _
  · apply Program.returns_bind
    intro _
    exact Program.returns_fail _

/-- Whatever is sent, the host of a request that is read is at most 255 bytes long. -/
theorem request_returns : Program.Returns (fun destination => Short destination.1) (request env) := by
  rw [request]
  apply Program.returns_bind
  intro _
  apply Program.returns_bind
  intro reqHead
  split_ifs
  · exact Program.returns_fail _
  · apply Program.returns_bind
    intro _
    exact Program.returns_fail _
  · refine Program.returns_bind_of_returns (destHost_returns _) fun host short => ?_
    refine Program.returns_bind fun portBuf => ?_
    exact Program.returns_pure short

end Returns

example : ((request ⟨.unexpectedEof, fun _ => none⟩).run
    ⟨[5, 2, 2, 0, 5, 1, 0, 4] ++ [0xfe, 0x80, 0, 0, 0, 0, 0, 0, 0, 0, 0, 0, 0, 0, 0, 1] ++ [0, 80], []⟩).1 =
      .ok ("fe80::1", 80) := by
  decide +kernel

/-- A short host and its port fit one cell. -/
theorem encode_of_short {host : String} (short : Short host) (port : UInt16) :
    ∃ payload, (ConnectPayload.mk host port).encode = .ok payload ∧ payload.length ≤ cellPayloadLen := by
  have small : (asBytes host).length ≤ 255 := short
  have room : ¬ (asBytes host).length > maxConnectHostLen := by
    rw [maxConnectHostLen, cellPayloadLen]
    omega
  refine ⟨BigEndian.ofNat 2 (asBytes host).length ++ asBytes host ++ BigEndian.ofNat 2 port.toNat, ?_, ?_⟩
  · simp only [ConnectPayload.encode, if_neg room]
  · simp only [List.length_append, BigEndian.length_ofNat, cellPayloadLen]
    omega

end Socks

end Client
end QuietHop
