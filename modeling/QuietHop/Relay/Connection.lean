import QuietHop.Relay.Conduct

namespace QuietHop
namespace Relay

open Lib Lib.Rsa Net Registry Wire

/-!
# A connection from its first byte on

A connection reads a protocol byte and then what that protocol demands before a
circuit may begin: a guard reads and verifies a token, a middle or an exit checks the
peer's address against the document in force and reads the start signal.  Then the
handshake message is read and answered, and the circuit's loop begins.

The reads before the loop are exact reads, so they are the reads of an accumulator
whose frame is the whole message.
-/

/-! ## The handlers -/

/-- What is being read before the loop begins. -/
inductive Stage where
  | protocol
  | presentation
  | signal
  | handshake
  deriving DecidableEq, Repr

def Stage.length : Stage -> Nat
  | protocol => 1
  | presentation => presentationLen
  | signal => 1
  | handshake => noiseMsgLen

/-- The circuit that a read which fails leaves behind: there is one from the handshake on. -/
def Stage.failed : Stage -> Option Circuit
  | handshake => some Circuit.new.fail
  | _ => none

inductive Connection (Key : Type) where
  | reading (stage : Stage) (acc : FrameAccumulator) (outputs : List (Instant × Output))
  | active (machine : Circuit) (loop : CircuitLoop Key)
  /-- It ended before the loop began. -/
  | ended (machine : Option Circuit) (result : Except HandleError Unit) (outputs : List (Instant × Output))

/-- What a connection meets outside, the circuit's loop included. -/
structure ConnEnv (Key : Type) where
  env : Env
  /-- The replay window as the other connections have left it. -/
  replay : ReplayWindow
  clock : Nat
  /-- The handshake crate's answer to a first message, under this relay's static key. -/
  respond : Bytes -> Option (Key × NoiseMsg)

/-- What is fixed for a connection. -/
structure ConnCtx where
  cfg : RelayConfig
  pubkey : RsaPublicKey
  sha256 : Bytes -> Digest
  peer : SocketAddr

namespace Connection

variable {Key : Type}

def outputs : Connection Key -> List (Instant × Output)
  | reading _ _ outputs => outputs
  | active _ loop => loop.io.outputs
  | ended _ _ outputs => outputs

/-- The circuit's state machine, once there is one. -/
def machine : Connection Key -> Option Circuit
  | reading .handshake _ _ => some Circuit.new
  | reading _ _ _ => none
  | active machine _ => some machine
  | ended machine _ _ => machine

/-- Begin to read what a stage asks for. -/
def await (stage : Stage) (outputs : List (Instant × Output)) : Connection Key :=
  reading stage (FrameAccumulator.new stage.length) outputs

/-- The peer's address must be listed for the role directly upstream. -/
def handleRelayConnection (ctx : ConnCtx) (env : Env) (outputs : List (Instant × Output)) : Connection Key :=
  match usable env.instant.registry env.instant.now with
  | none => ended none (.error .peerNotAllowed) outputs
  | some doc =>
      if admitsInbound doc ctx.cfg.role ctx.peer.ip then
        await .signal (outputs ++ [(env.instant, .admitted ctx.peer.ip)])
      else ended none (.error .peerNotAllowed) outputs

def handleConnection (ctx : ConnCtx) (env : Env) (proto : UInt8) (outputs : List (Instant × Output)) :
    Connection Key :=
  if proto = protoClient ∧ ctx.cfg.role = .guard then await .presentation outputs
  else if proto = protoRelay ∧ (ctx.cfg.role = .middle ∨ ctx.cfg.role = .exit) then
    handleRelayConnection ctx env outputs
  else ended none (.error (.unexpectedProtocol proto)) outputs

/-- The token is verified before anything else is read. -/
def handleClientConnection (ctx : ConnCtx) (conn : ConnEnv Key) (buf : Bytes) (outputs : List (Instant × Output)) :
    Connection Key :=
  let mRaw := buf.take mRawLen
  let token := buf.drop mRawLen
  let result := (verify ctx.sha256 mRaw token ctx.pubkey conn.clock conn.replay).1
  let noted := outputs ++ [(conn.env.instant, .verified mRaw token result)]
  match result with
  | .error e => ended none (.error (.token e)) noted
  | .ok () => await .handshake noted

/-- Any byte but the start signal ends the link. -/
def onSignal (signal : UInt8) (outputs : List (Instant × Output)) : Connection Key :=
  if signal ≠ circuitStart then ended none (.ok ()) outputs else await .handshake outputs

/-- The state machine follows the way the loop ends. -/
def follow (machine : Circuit) (loop : CircuitLoop Key) : Connection Key :=
  match loop.ended with
  | none => active machine loop
  | some (.ok ()) => active machine.close.2 loop
  | some (.error _) => active machine.fail loop

/-- The handshake is answered, the circuit becomes active and its loop begins. -/
def driveCircuit (ctx : ConnCtx) (conn : ConnEnv Key) (msg1 : Bytes) (outputs : List (Instant × Output)) :
    Connection Key :=
  let noted := outputs ++ [(conn.env.instant, .responded msg1)]
  match conn.respond msg1 with
  | none => ended (some Circuit.new.fail) (.error .handshake) noted
  | some (key, msg2) =>
      match conn.env.fault noted.length with
      | some written =>
          ended (some Circuit.new.fail) (.error (.io (.other "write")))
            (noted ++ [(conn.env.instant, .cut .handshake msg2.val written)])
      | none =>
          let sent := noted ++ [(conn.env.instant, .wrote .handshake msg2.val)]
          match Circuit.new.activate with
          | (.error e, machine) => ended (some machine.fail) (.error (.circuit e)) sent
          | (.ok (), machine) => active machine (CircuitLoop.start ctx.cfg.role ⟨key, [], 0⟩ sent)

/-- A whole message has been read. -/
def complete (ctx : ConnCtx) (conn : ConnEnv Key) (message : Bytes) (outputs : List (Instant × Output)) :
    Stage -> Connection Key
  | .protocol => handleConnection ctx conn.env (message.getD 0 0) outputs
  | .presentation => handleClientConnection ctx conn message outputs
  | .signal => onSignal (message.getD 0 0) outputs
  | .handshake => driveCircuit ctx conn message outputs

/-- A read that fails.  The end of the stream in place of the start signal is how the
dialer leaves. -/
def readFailed (stage : Stage) (error : IoError) (outputs : List (Instant × Output)) : Connection Key :=
  if stage = .signal ∧ error = .unexpectedEof then ended none (.ok ()) outputs
  else ended stage.failed (.error (.io error)) outputs

def onRead (ctx : ConnCtx) (conn : ConnEnv Key) (stage : Stage) (acc : FrameAccumulator)
    (outputs : List (Instant × Output)) : Ready -> Connection Key
  | .inboundRead bytes =>
      if bytes.isEmpty then readFailed stage .unexpectedEof outputs
      else
        match acc.receive bytes with
        | (none, acc) => reading stage acc outputs
        | (some message, _) => complete ctx conn message outputs stage
  | .inboundError error => readFailed stage error outputs
  -- The start signal is awaited without a timeout.
  | .timeout => if stage = .signal then reading stage acc outputs else ended stage.failed (.error .timeout) outputs
  -- There is no next link and no destination yet.
  | _ => reading stage acc outputs

def step (aead : NoiseAead Key) (ctx : ConnCtx) (connection : Connection Key) (conn : ConnEnv Key) (ready : Ready) :
    Connection Key :=
  match connection with
  | reading stage acc outputs => onRead ctx conn stage acc outputs ready
  | active machine loop =>
      match loop.ended with
      | some _ => active machine loop
      | none => follow machine (loop.step aead ctx.cfg conn.env ready)
  | ended machine result outputs => ended machine result outputs

def accept : Connection Key := await .protocol []

def run (aead : NoiseAead Key) (ctx : ConnCtx) (turns : List (ConnEnv Key × Ready)) : Connection Key :=
  turns.foldl (fun connection next => connection.step aead ctx next.1 next.2) accept

/-! ## What clears a peer -/

end Connection

/-- An entry that notes a handshake message or a cell being handled. -/
def Output.handles : Output -> Bool
  | responded _ => true
  | acted _ => true
  | _ => false

/-- An entry that lets the peer in: at a guard a token that `verify` accepted, at a
middle or an exit an address listed for the role directly upstream in the document in
force at that instant. -/
def Clears (ctx : ConnCtx) (entry : Instant × Output) : Prop :=
  match entry.2 with
  | .verified mRaw token result =>
      ctx.cfg.role = .guard ∧ result = .ok () ∧
        ∃ clock window, (verify ctx.sha256 mRaw token ctx.pubkey clock window).1 = .ok ()
  | .admitted ip =>
      ctx.cfg.role ≠ .guard ∧ ip = ctx.peer.ip ∧
        ∃ doc want, InForce entry.1.registry entry.1.now doc ∧ upstreamRole ctx.cfg.role = some want ∧
          Lists doc want ip
  | _ => False

/-- Nothing is handled before the peer is cleared. -/
def ClearedFirst (ctx : ConnCtx) (outputs : List (Instant × Output)) : Prop :=
  forall before entry after, outputs = before ++ entry :: after -> entry.2.handles = true ->
    ∃ cleared ∈ before, Clears ctx cleared

theorem ClearedFirst.append {ctx : ConnCtx} {outputs : List (Instant × Output)} (cleared : ClearedFirst ctx outputs)
    {added : List (Instant × Output)}
    (fine : (∃ entry ∈ outputs, Clears ctx entry) ∨ ∀ entry ∈ added, entry.2.handles = false) :
    ClearedFirst ctx (outputs ++ added) := by
  intro before entry after split handles
  rcases List.append_eq_append_iff.mp split with ⟨early, begins, rest⟩ | ⟨late, begins, rest⟩
  · -- The entry is among those added.
    rcases fine with ⟨clearing, member, clears⟩ | unhandled
    · exact ⟨clearing, begins ▸ List.mem_append_left _ member, clears⟩
    · have inside : entry ∈ added := rest ▸ List.mem_append_right _ (List.mem_cons_self ..)
      rw [unhandled entry inside] at handles
      cases handles
  · cases late with
    | nil =>
        rw [List.append_nil] at begins
        rw [List.nil_append] at rest
        rcases fine with ⟨clearing, member, clears⟩ | unhandled
        · exact ⟨clearing, begins ▸ member, clears⟩
        · rw [unhandled entry (rest ▸ List.mem_cons_self ..)] at handles
          cases handles
    | cons head tail =>
        rw [List.cons_append, List.cons.injEq] at rest
        exact cleared before entry tail (by rw [begins, rest.1]) handles

/-! ## The record of a connection -/

/-- An entry that only the circuit's loop makes. -/
def Output.ofCircuit : Output -> Bool
  | wrote .handshake _ => false
  | cut .handshake _ _ => false
  | wrote _ _ => true
  | cut _ _ _ => true
  | dialedNext _ _ => true
  | dialedDest _ _ => true
  | _ => false

/-- The record before the loop begins. -/
structure Opening (ctx : ConnCtx) (outputs : List (Instant × Output)) : Prop where
  clearedFirst : ClearedFirst ctx outputs
  entries : ∀ entry ∈ outputs, entry.2.ofCircuit = false

/-- What has been established when a stage is entered. -/
def Stage.Holds (ctx : ConnCtx) (outputs : List (Instant × Output)) : Stage -> Prop
  | protocol => True
  | presentation => ctx.cfg.role = .guard
  | signal => ∃ entry ∈ outputs, Clears ctx entry
  | handshake => ∃ entry ∈ outputs, Clears ctx entry

/-- The record of a connection in its loop. -/
structure Driven (ctx : ConnCtx) {Key : Type} (loop : CircuitLoop Key) : Prop where
  clearedFirst : ClearedFirst ctx loop.io.outputs
  cleared : ∃ entry ∈ loop.io.outputs, Clears ctx entry
  entries : ∀ entry ∈ loop.io.outputs, entry.2.ofCircuit = true -> Permitted ctx.cfg entry
  lawful : loop.Lawful ctx.cfg

def Connection.Accounted (ctx : ConnCtx) {Key : Type} : Connection Key -> Prop
  | reading stage _ outputs => Opening ctx outputs ∧ stage.Holds ctx outputs
  | active _ loop => Driven ctx loop
  | ended _ _ outputs => Opening ctx outputs

section Opening

variable {ctx : ConnCtx} {outputs : List (Instant × Output)}

theorem Opening.push (opening : Opening ctx outputs) {entry : Instant × Output} (early : entry.2.ofCircuit = false)
    (fine : (∃ clearing ∈ outputs, Clears ctx clearing) ∨ entry.2.handles = false) :
    Opening ctx (outputs ++ [entry]) where
  clearedFirst := by
    apply opening.clearedFirst.append
    rcases fine with cleared | unhandled
    · exact .inl cleared
    · exact .inr fun other member => by rwa [List.mem_singleton.mp member]
  entries := by
    intro other member
    rcases List.mem_append.mp member with member | member
    · exact opening.entries other member
    · rwa [List.mem_singleton.mp member]

theorem Opening.dials (opening : Opening ctx outputs) : Relay.dials outputs = 0 := by
  apply List.countP_eq_zero.mpr
  intro entry member dialed
  have early := opening.entries entry member
  cases output : entry.2 <;> simp_all [Output.isDial, Output.ofCircuit]

end Opening

namespace Connection

variable {Key : Type} {ctx : ConnCtx} {conn : ConnEnv Key} {outputs : List (Instant × Output)}

theorem handleRelayConnection_accounted (opening : Opening ctx outputs) (relays : ctx.cfg.role ≠ .guard) (env : Env) :
    (handleRelayConnection ctx env outputs : Connection Key).Accounted ctx := by
  rw [handleRelayConnection]
  split
  · exact opening
  next doc inForce =>
  split_ifs with admitted
  · rcases lists_of_admitsInbound admitted with ⟨want, upstream, listed⟩
    have clears : Clears ctx (env.instant, .admitted ctx.peer.ip) :=
      ⟨relays, rfl, doc, want, usable_eq_some_iff.mp inForce, upstream, listed⟩
    exact ⟨opening.push rfl (.inr rfl), _, List.mem_append_right _ (List.mem_singleton_self _), clears⟩
  · exact opening

theorem handleConnection_accounted (opening : Opening ctx outputs) (env : Env) (proto : UInt8) :
    (handleConnection ctx env proto outputs : Connection Key).Accounted ctx := by
  rw [handleConnection]
  split_ifs with client relay
  · exact ⟨opening, client.2⟩
  · apply handleRelayConnection_accounted opening
    rcases relay.2 with role | role <;> simp [role]
  · exact opening

theorem handleClientConnection_accounted (opening : Opening ctx outputs) (isGuard : ctx.cfg.role = .guard)
    (buf : Bytes) : (handleClientConnection ctx conn buf outputs).Accounted ctx := by
  have noted (result : Except TokenError Unit) :
      Opening ctx (outputs ++ [(conn.env.instant, .verified (buf.take mRawLen) (buf.drop mRawLen) result)]) :=
    opening.push rfl (.inr rfl)
  simp only [handleClientConnection]
  split
  · exact noted _
  next accepted =>
  refine ⟨noted _, _, List.mem_append_right _ (List.mem_singleton_self _), ?_⟩
  exact ⟨isGuard, accepted, conn.clock, conn.replay, accepted⟩

theorem driveCircuit_accounted (opening : Opening ctx outputs) (cleared : ∃ entry ∈ outputs, Clears ctx entry)
    (msg1 : Bytes) : (driveCircuit ctx conn msg1 outputs).Accounted ctx := by
  have noted : Opening ctx (outputs ++ [(conn.env.instant, .responded msg1)]) := opening.push rfl (.inl cleared)
  simp only [driveCircuit]
  split
  · exact noted
  next key msg2 _ =>
  split
  · exact noted.push rfl (.inr rfl)
  have sent : Opening ctx (outputs ++ [(conn.env.instant, .responded msg1)] ++
      [(conn.env.instant, .wrote .handshake msg2.val)]) := noted.push rfl (.inr rfl)
  rw [show Circuit.new.activate = (.ok (), ⟨.active⟩) from rfl]
  have once : Relay.dials (outputs ++ [(conn.env.instant, .responded msg1)] ++
      [(conn.env.instant, .wrote .handshake msg2.val)]) ≤ 1 := by
    rw [sent.dials]
    exact Nat.zero_le 1
  rcases cleared with ⟨entry, member, clears⟩
  exact {
    clearedFirst := sent.clearedFirst
    cleared := ⟨entry, List.mem_append_left _ (List.mem_append_left _ member), clears⟩
    entries := fun other inside made => by
      rw [sent.entries other inside] at made
      cases made
    lawful := ⟨once, fun _ => ⟨once, fun _ => sent.dials, fun _ absent => by cases absent⟩⟩ }

theorem complete_accounted {stage : Stage} (opening : Opening ctx outputs) (holds : stage.Holds ctx outputs)
    (message : Bytes) : (complete ctx conn message outputs stage).Accounted ctx := by
  cases stage with
  | protocol => exact handleConnection_accounted opening conn.env _
  | presentation => exact handleClientConnection_accounted opening holds message
  | signal =>
      simp only [complete, onSignal]
      split_ifs
      · exact opening
      · exact ⟨opening, holds⟩
  | handshake => exact driveCircuit_accounted opening holds message

theorem onRead_accounted {stage : Stage} (opening : Opening ctx outputs) (holds : stage.Holds ctx outputs)
    (acc : FrameAccumulator) (ready : Ready) : (onRead ctx conn stage acc outputs ready).Accounted ctx := by
  have failed (error : IoError) : (readFailed stage error outputs : Connection Key).Accounted ctx := by
    rw [readFailed]
    split_ifs <;> exact opening
  cases ready with
  | inboundRead bytes =>
      simp only [onRead]
      split_ifs
      · exact failed _
      split
      · exact ⟨opening, holds⟩
      · exact complete_accounted opening holds _
  | inboundError error => exact failed error
  | timeout =>
      simp only [onRead]
      split_ifs
      · exact ⟨opening, holds⟩
      · exact opening
  | nextRead bytes => exact ⟨opening, holds⟩
  | nextError error => exact ⟨opening, holds⟩
  | destRead bytes => exact ⟨opening, holds⟩
  | destError error => exact ⟨opening, holds⟩

theorem follow_accounted {machine : Circuit} {loop : CircuitLoop Key} (driven : Driven ctx loop) :
    (follow machine loop).Accounted ctx := by
  rw [follow]
  split <;> exact driven

/-- Once the peer is cleared, the loop keeps the record in order. -/
theorem driven_step {aead : NoiseAead Key} {loop : CircuitLoop Key} (driven : Driven ctx loop) (env : Env)
    (ready : Ready) : Driven ctx (loop.step aead ctx.cfg env ready) := by
  rcases @CircuitLoop.step_outputs Key aead ctx.cfg loop env ready with ⟨added, grown, allowed⟩
  refine ⟨?_, ?_, ?_, driven.lawful.step env ready⟩
  · rw [grown]
    exact driven.clearedFirst.append (.inl driven.cleared)
  · rcases driven.cleared with ⟨entry, member, clears⟩
    exact ⟨entry, grown ▸ List.mem_append_left _ member, clears⟩
  · intro entry member made
    rw [grown] at member
    rcases List.mem_append.mp member with member | member
    · exact driven.entries entry member made
    · rcases allowed entry member with permitted | ⟨cell, acted⟩
      · exact permitted
      · rw [acted] at made
        cases made

theorem step_accounted {aead : NoiseAead Key} {connection : Connection Key} (accounted : connection.Accounted ctx)
    (ready : Ready) : (connection.step aead ctx conn ready).Accounted ctx := by
  cases connection with
  | reading stage acc outputs => exact onRead_accounted accounted.1 accounted.2 acc ready
  | active machine loop =>
      simp only [step]
      split
      · exact accounted
      · exact follow_accounted (driven_step accounted conn.env ready)
  | ended machine result outputs => exact accounted

theorem run_accounted (aead : NoiseAead Key) (ctx : ConnCtx) (turns : List (ConnEnv Key × Ready)) :
    (run aead ctx turns).Accounted ctx := by
  have begun : (accept : Connection Key).Accounted ctx := by
    refine ⟨⟨?_, by simp⟩, trivial⟩
    intro before entry after split
    simp at split
  apply List.foldlRecOn turns _ begun
  intro connection accounted next _
  exact step_accounted accounted next.2

/-! ## What the record says -/

theorem Accounted.clearedFirst {connection : Connection Key} (accounted : connection.Accounted ctx) :
    ClearedFirst ctx connection.outputs := by
  cases connection with
  | reading stage acc outputs => exact accounted.1.clearedFirst
  | active machine loop => exact Driven.clearedFirst accounted
  | ended machine result outputs => exact Opening.clearedFirst accounted

theorem Accounted.dials_le {connection : Connection Key} (accounted : connection.Accounted ctx) :
    dials connection.outputs ≤ 1 := by
  have early {outputs : List (Instant × Output)} (opening : Opening ctx outputs) : dials outputs ≤ 1 := by
    rw [opening.dials]
    exact Nat.zero_le 1
  cases connection with
  | reading stage acc outputs => exact early accounted.1
  | active machine loop => exact (Driven.lawful accounted).atMostOnce
  | ended machine result outputs => exact early accounted

theorem Accounted.permitted {connection : Connection Key} (accounted : connection.Accounted ctx)
    {entry : Instant × Output} (member : entry ∈ connection.outputs) (made : entry.2.ofCircuit = true) :
    Permitted ctx.cfg entry := by
  have early {outputs : List (Instant × Output)} (opening : Opening ctx outputs) (inside : entry ∈ outputs) :
      Permitted ctx.cfg entry := by
    rw [opening.entries entry inside] at made
    cases made
  cases connection with
  | reading stage acc outputs => exact early accounted.1 member
  | active machine loop => exact Driven.entries accounted entry member made
  | ended machine result outputs => exact early accounted member

end Connection

/-- The frame an entry puts on a link, or begins to. -/
def Output.frameTo (sink : Sink) : Output -> Option Bytes
  | wrote other bytes => if other = sink then some bytes else none
  | cut other bytes _ => if other = sink then some bytes else none
  | _ => none

theorem Permitted.frameTo {cfg : RelayConfig} {entry : Instant × Output} {sink : Sink} {frame : Bytes}
    (permitted : entry.2.ofCircuit = true -> Permitted cfg entry) (loops : sink ≠ .handshake)
    (sent : entry.2.frameTo sink = some frame) : sink.Permits cfg frame := by
  rcases entry with ⟨instant, output⟩
  cases output with
  | wrote other bytes =>
      simp only [Output.frameTo, Option.ite_none_right_eq_some, Option.some.injEq] at sent
      rcases sent with ⟨rfl, rfl⟩
      cases other <;> first | exact permitted rfl | exact absurd rfl loops
  | cut other bytes written =>
      simp only [Output.frameTo, Option.ite_none_right_eq_some, Option.some.injEq] at sent
      rcases sent with ⟨rfl, rfl⟩
      cases other <;> first | exact permitted rfl | exact absurd rfl loops
  | dialedNext addr tlsName => cases sent
  | dialedDest host port => cases sent
  | verified mRaw token result => cases sent
  | admitted ip => cases sent
  | responded message => cases sent
  | acted cell => cases sent

/-- What a connection may ever do.  Whatever arrives and whatever is published meanwhile:
no handshake message and no cell is handled before the peer is cleared; a next link is
dialed at most once, never by an exit, and only to an address and port listed for the
role directly downstream in the document in force; a destination is dialed only by an
exit and only on an allowed port; and the frames of the circuit have the lengths of
their links, so that a frame from the next link can always be sealed for the client. -/
theorem relay_conduct {Key : Type} (aead : NoiseAead Key) (ctx : ConnCtx) (turns : List (ConnEnv Key × Ready)) :
    ClearedFirst ctx (Connection.run aead ctx turns).outputs ∧
    (dials (Connection.run aead ctx turns).outputs ≤ 1 ∧
      forall instant addr tlsName, (instant, .dialedNext addr tlsName) ∈ (Connection.run aead ctx turns).outputs ->
        ctx.cfg.role ≠ .exit ∧ ∃ doc want, InForce instant.registry instant.now doc ∧
          downstreamRole ctx.cfg.role = some want ∧ ListsAt doc want addr tlsName) ∧
    (forall instant host port, (instant, .dialedDest host port) ∈ (Connection.run aead ctx turns).outputs ->
      ctx.cfg.role = .exit ∧ port ∈ ctx.cfg.allowedExitPorts) ∧
    ((∀ entry ∈ (Connection.run aead ctx turns).outputs, forall frame,
        (entry.2.frameTo .client = some frame -> frame.length = inboundLen ctx.cfg.role) ∧
        (entry.2.frameTo .next = some frame -> some frame.length = outboundLen ctx.cfg.role)) ∧
      forall machine loop acc next bytes frame,
        Connection.run aead ctx turns = .active machine loop -> loop.ended = none ->
        loop.io.nextLink = some acc -> acc.receive bytes = (some frame, next) ->
        ∃ framed tx, sealForward aead loop.io.transport frame (inboundLayers ctx.cfg.role) = (.ok framed, tx)) := by
  have accounted := Connection.run_accounted aead ctx turns
  refine ⟨accounted.clearedFirst, ⟨accounted.dials_le, ?_⟩, ?_, ?_, ?_⟩
  · intro instant addr tlsName member
    rcases accounted.permitted member rfl with ⟨doc, want, inForce, downstream, listed⟩
    refine ⟨?_, doc, want, inForce, downstream, listed⟩
    intro isExit
    rw [isExit] at downstream
    cases downstream
  · intro instant host port member
    exact accounted.permitted member rfl
  · intro entry member frame
    constructor
    · exact Permitted.frameTo (accounted.permitted member) (by decide)
    · exact Permitted.frameTo (accounted.permitted member) (by decide)
  · intro machine loop acc next bytes frame reached running present complete
    rw [reached] at accounted
    exact ((Driven.lawful accounted).sound running).sealForward present complete

end Relay
end QuietHop
