import QuietHop.Relay.Arrival

namespace QuietHop
namespace Relay

open Lib Net Registry Wire

/-!
# What one turn of a circuit may do

`Permitted` says what may be recorded while the loop runs, entry by entry, apart from
the cells acted on.  Every handler adds only permitted entries and leaves the receive
counter alone.  Opening the next link is the one thing that may
happen at most once, so the handlers that never do it are told apart from the one
that may.
-/

/-! ## Entries -/

/-- What may be written where. -/
def Sink.Permits (cfg : RelayConfig) (bytes : Bytes) : Sink -> Prop
  | client => bytes.length = inboundLen cfg.role
  | next => some bytes.length = outboundLen cfg.role
  | dest => cfg.role = .exit
  | handshake => False
  | courier => cfg.role ≠ .exit

def Permitted (cfg : RelayConfig) (entry : Instant × Output) : Prop :=
  match entry.2 with
  | .wrote sink bytes => sink.Permits cfg bytes
  | .cut sink bytes _ => sink.Permits cfg bytes
  | .dialedNext addr tlsName =>
      ∃ doc want, InForce entry.1.registry entry.1.now doc ∧ downstreamRole cfg.role = some want ∧
        ListsAt doc want addr tlsName
  | .dialedDest _ port => cfg.role = .exit ∧ port ∈ cfg.allowedExitPorts
  | .verified _ _ _ => False
  | .admitted _ => False
  | .responded _ => False
  | .acted _ => False

def Output.isDial : Output -> Bool
  | dialedNext _ _ => true
  | _ => false

/-- How often a next link has been dialed. -/
def dials (outputs : List (Instant × Output)) : Nat :=
  outputs.countP fun entry => entry.2.isDial

/-- A permitted entry that is not the opening of a next link. -/
def Modest (cfg : RelayConfig) (entry : Instant × Output) : Prop :=
  Permitted cfg entry ∧ entry.2.isDial = false

/-- A frame for the client, sent whole or in part. -/
def TowardsClient (cfg : RelayConfig) (entry : Instant × Output) : Prop :=
  ∃ frame, frame.length = inboundLen cfg.role ∧
    (entry.2 = .wrote .client frame ∨ ∃ written, entry.2 = .cut .client frame written)

theorem TowardsClient.modest {cfg : RelayConfig} {entry : Instant × Output} (towards : TowardsClient cfg entry) :
    Modest cfg entry := by
  rcases entry with ⟨instant, output⟩
  rcases towards with ⟨frame, size, rfl | ⟨written, rfl⟩⟩
  · exact ⟨size, rfl⟩
  · exact ⟨size, rfl⟩

theorem dials_append (first second : List (Instant × Output)) :
    dials (first ++ second) = dials first + dials second :=
  List.countP_append

theorem dials_eq_zero {cfg : RelayConfig} {outputs : List (Instant × Output)}
    (modest : ∀ entry ∈ outputs, Modest cfg entry) : dials outputs = 0 := by
  apply List.countP_eq_zero.mpr
  intro entry member
  simp [(modest entry member).2]

/-! ## Relations between the states around a handler -/

section Relations

variable {Key : Type}

/-- The record grows by allowed entries; nothing more is peeled. -/
structure Adds (allowed : Instant × Output -> Prop) (before after : CircuitIo Key) : Prop where
  received : after.transport.received = before.transport.received
  outputs : ∃ added, after.outputs = before.outputs ++ added ∧ ∀ entry ∈ added, allowed entry

/-- In addition the next link stays as it is. -/
structure Conducts (allowed : Instant × Output -> Prop) (before after : CircuitIo Key) : Prop
    extends Adds allowed before after where
  nextLink : after.nextLink = before.nextLink

/-- And so does the destination. -/
structure Sends (allowed : Instant × Output -> Prop) (before after : CircuitIo Key) : Prop
    extends Conducts allowed before after where
  destLink : after.destLink = before.destLink

variable {allowed : Instant × Output -> Prop}

theorem Adds.trans {first second third : CircuitIo Key} (head : Adds allowed first second)
    (tail : Adds allowed second third) : Adds allowed first third where
  received := tail.received.trans head.received
  outputs := by
    rcases head.outputs with ⟨early, begun, earlyAllowed⟩
    rcases tail.outputs with ⟨late, ended, lateAllowed⟩
    refine ⟨early ++ late, by rw [ended, begun, List.append_assoc], ?_⟩
    intro entry member
    rcases List.mem_append.mp member with member | member
    · exact earlyAllowed entry member
    · exact lateAllowed entry member

theorem Adds.mono {wider : Instant × Output -> Prop} {before after : CircuitIo Key}
    (adds : Adds allowed before after) (implies : forall entry, allowed entry -> wider entry) :
    Adds wider before after where
  received := adds.received
  outputs := by
    rcases adds.outputs with ⟨added, grown, all⟩
    exact ⟨added, grown, fun entry member => implies entry (all entry member)⟩

theorem Sends.mono {wider : Instant × Output -> Prop} {before after : CircuitIo Key}
    (sends : Sends allowed before after) (implies : forall entry, allowed entry -> wider entry) :
    Sends wider before after :=
  ⟨⟨sends.toAdds.mono implies, sends.nextLink⟩, sends.destLink⟩

instance : Std.Refl (@Adds Key allowed) where
  refl _ := ⟨rfl, [], by simp, by simp⟩

instance : IsTrans (CircuitIo Key) (Adds allowed) where
  trans _ _ _ := Adds.trans

instance : Std.Refl (@Conducts Key allowed) where
  refl io := ⟨refl_of (Adds allowed) io, rfl⟩

instance : IsTrans (CircuitIo Key) (Conducts allowed) where
  trans _ _ _ head tail := ⟨head.toAdds.trans tail.toAdds, tail.nextLink.trans head.nextLink⟩

instance : Std.Refl (@Sends Key allowed) where
  refl io := ⟨refl_of (Conducts allowed) io, rfl⟩

instance : IsTrans (CircuitIo Key) (Sends allowed) where
  trans _ _ _ head tail := ⟨trans_of (Conducts allowed) head.toConducts tail.toConducts, tail.destLink.trans head.destLink⟩

/-- Whoever leaves the destination alone conducts itself. -/
theorem conducts_of_keeps {Value : Type} {program : CircuitM Key Value} (keeps : Program.Keeps (Sends allowed) program) :
    Program.Keeps (Conducts allowed) program :=
  fun io => (keeps io).toConducts

end Relations

/-! ## Handlers -/

section Handlers

variable {Key : Type} {aead : NoiseAead Key} {cfg : RelayConfig} {env : Env} {allowed : Instant × Output -> Prop}

theorem emit_keeps {output : Output} (fine : allowed (env.instant, output)) :
    Program.Keeps (@Sends Key allowed) (emit env output) := by
  apply Program.keeps_modify
  intro io
  refine ⟨⟨⟨rfl, [(env.instant, output)], rfl, ?_⟩, rfl⟩, rfl⟩
  intro entry member
  rwa [List.mem_singleton.mp member]

theorem write_sends {sink : Sink} {bytes : Bytes} (whole : allowed (env.instant, .wrote sink bytes))
    (part : forall written, allowed (env.instant, .cut sink bytes written)) :
    Program.Keeps (@Sends Key allowed) (write env sink bytes) := by
  refine Program.keeps_bind Program.keeps_get fun io => ?_
  cases env.fault io.outputs.length with
  | none => exact emit_keeps whole
  | some written => exact Program.keeps_bind (emit_keeps (part written)) fun _ => Program.keeps_fail _

theorem write_keeps {sink : Sink} {bytes : Bytes} (permits : sink.Permits cfg bytes) :
    Program.Keeps (@Sends Key (Modest cfg)) (write env sink bytes) :=
  write_sends ⟨permits, rfl⟩ fun _ => ⟨permits, rfl⟩

theorem writeClient_sends {frame : Bytes} (size : frame.length = inboundLen cfg.role) :
    Program.Keeps (@Sends Key (TowardsClient cfg)) (write env .client frame) :=
  write_sends ⟨frame, size, .inl rfl⟩ fun written => ⟨frame, size, .inr ⟨written, rfl⟩⟩

/-- Sealing moves the send side of the transport only. -/
def Seals {Value : Type} (operation : Transport Key -> Except LayerError Value × Transport Key) : Prop :=
  forall tx, (operation tx).2.received = tx.received

theorem onTransport_keeps {Value : Type} {operation : Transport Key -> Except LayerError Value × Transport Key}
    (seals : Seals operation) : Program.Keeps (@Sends Key allowed) (onTransport operation) := by
  intro io
  have same := seals io.transport
  rcases result : operation io.transport with ⟨outcome, transport⟩
  rw [result] at same
  cases outcome with
  | error reason =>
      simp only [onTransport, result]
      exact ⟨⟨⟨same, [], by simp, by simp⟩, rfl⟩, rfl⟩
  | ok value =>
      simp only [onTransport, result]
      exact ⟨⟨⟨same, [], by simp, by simp⟩, rfl⟩, rfl⟩

theorem onTransport_returns {Value : Type} {operation : Transport Key -> Except LayerError Value × Transport Key}
    {property : Value -> Prop}
    (holds : forall tx next value, operation tx = (.ok value, next) -> property value) :
    Program.Returns property (onTransport operation) := by
  intro io value returned
  rcases result : operation io.transport with ⟨outcome, transport⟩
  cases outcome with
  | error reason => simp [onTransport, result] at returned
  | ok found =>
      simp only [onTransport, result, Except.ok.injEq] at returned
      exact returned ▸ holds _ _ _ result

theorem reply_sends (cellType : CellType) (payload : Bytes) :
    Program.Keeps (Sends (TowardsClient cfg)) (reply aead cfg env cellType payload) := by
  rcases inboundLayers_succ cfg.role with ⟨depth, layers⟩
  refine Program.keeps_bind (Program.keeps_ofExcept _ _) fun cell => ?_
  have framed : Program.Returns (fun frame => frame.length = inboundLen cfg.role)
      (onTransport (sealToMe aead · cell (inboundLayers cfg.role))) := by
    apply onTransport_returns
    intro tx next frame done
    rw [layers] at done
    simp only [inboundLen, layers]
    exact length_of_sealToMe aead done
  refine Program.keeps_bind_of_returns framed ?_ fun frame size => writeClient_sends size
  exact onTransport_keeps fun tx => sealToMe_received aead tx cell _

theorem sendChunks_sends (pieces : List Bytes) :
    Program.Keeps (Sends (TowardsClient cfg)) (sendChunks aead cfg env pieces) := by
  induction pieces with
  | nil => exact Program.keeps_pure ()
  | cons piece rest ih => exact Program.keeps_bind (reply_sends .data piece) fun _ => ih

/-- Whoever only sends to the client is modest. -/
theorem modest_of_sends {Value : Type} {program : CircuitM Key Value}
    (sends : Program.Keeps (Sends (TowardsClient cfg)) program) : Program.Keeps (Sends (Modest cfg)) program :=
  fun io => (sends io).mono fun _ towards => towards.modest

theorem reply_keeps (cellType : CellType) (payload : Bytes) :
    Program.Keeps (Conducts (Modest cfg)) (reply aead cfg env cellType payload) :=
  conducts_of_keeps (modest_of_sends (reply_sends cellType payload))

/-- Changing the destination link only is no conduct at all. -/
theorem setDest_keeps (connected : Bool) :
    Program.Keeps (@Conducts Key allowed) (Program.modify fun io => { io with destLink := connected } :
      CircuitM Key Unit) := by
  apply Program.keeps_modify
  exact fun io => ⟨⟨rfl, [], by simp, by simp⟩, rfl⟩

theorem onDestRead_keeps (bytes : Bytes) :
    Program.Keeps (Conducts (Modest cfg)) (onDestRead aead cfg env bytes) := by
  rw [onDestRead]
  split_ifs
  · exact Program.keeps_bind (setDest_keeps false) fun _ => Program.keeps_pure _
  · exact Program.keeps_bind (conducts_of_keeps (modest_of_sends (sendChunks_sends _))) fun _ => Program.keeps_pure _

theorem dialViaSocks5_keeps (isExit : cfg.role = .exit) (proxyUrl host : String) (port : UInt16) :
    Program.Keeps (@Sends Key (Modest cfg)) (dialViaSocks5 cfg env proxyUrl host port) := by
  rw [dialViaSocks5]
  by_cases allowed : port ∈ cfg.allowedExitPorts
  swap
  · rw [if_pos allowed]
    exact Program.keeps_fail _
  rw [if_neg (not_not_intro allowed)]
  cases (env.parseUrl proxyUrl).bind proxyAddr with
  | none => exact Program.keeps_fail _
  | some proxy =>
      have listed : Modest cfg (env.instant, .dialedDest host port) := ⟨⟨isExit, allowed⟩, rfl⟩
      refine Program.keeps_bind (emit_keeps listed) fun _ => ?_
      cases env.dialSocks with
      | connected => exact Program.keeps_pure _
      | refused => exact Program.keeps_fail _
      | timedOut => exact Program.keeps_fail _

theorem onConnect_keeps (isExit : cfg.role = .exit) (payload : Bytes) :
    Program.Keeps (@Conducts Key (Modest cfg)) (onConnect cfg env payload) := by
  refine Program.keeps_bind Program.keeps_get fun io => ?_
  split_ifs
  · exact Program.keeps_fail _
  refine Program.keeps_bind (Program.keeps_ofExcept _ _) fun connect => ?_
  cases cfg.decodoProxyUrl with
  | none => exact Program.keeps_fail _
  | some proxyUrl =>
      refine Program.keeps_bind (conducts_of_keeps (dialViaSocks5_keeps isExit _ _ _)) fun _ => ?_
      exact Program.keeps_bind (setDest_keeps true) fun _ => Program.keeps_pure _

theorem onData_keeps (isExit : cfg.role = .exit) (payload : Bytes) :
    Program.Keeps (@Sends Key (Modest cfg)) (onData cfg env payload) := by
  refine Program.keeps_bind Program.keeps_get fun io => ?_
  split_ifs
  · exact Program.keeps_pure _
  · exact Program.keeps_bind (write_keeps isExit) fun _ => Program.keeps_pure _
  · exact Program.keeps_fail _

theorem courier_keeps (relays : cfg.role ≠ .exit) (extend : ExtendForward) (frameLen : Nat) :
    Program.Keeps (@Sends Key (Modest cfg)) (courier env extend frameLen) := by
  refine Program.keeps_bind (Program.keeps_ofExcept _ _) fun _ => ?_
  refine Program.keeps_bind (write_keeps relays) fun _ => ?_
  refine Program.keeps_bind (write_keeps relays) fun _ => ?_
  refine Program.keeps_bind (write_keeps relays) fun _ => ?_
  exact Program.keeps_bind (Program.keeps_ofExcept _ _) fun _ => Program.keeps_pure _

/-- An entry for an EXTEND target is permitted to be dialed. -/
theorem permitted_dial {doc : Verified} {next : SocketAddr} {entry : RelayEntry}
    (inForce : usable env.instant.registry env.instant.now = some doc)
    (target : extendTarget doc cfg.role next = some entry) :
    Permitted cfg (env.instant, .dialedNext next entry.tlsName) := by
  rcases listsAt_of_extendTarget target with ⟨want, downstream, listed⟩
  exact ⟨doc, want, usable_eq_some_iff.mp inForce, downstream, listed⟩

theorem openNextLink_keeps (relays : cfg.role ≠ .exit) (extend : ExtendForward) (frameLen : Nat) :
    Program.Keeps (@Sends Key (Permitted cfg)) (openNextLink cfg env extend frameLen) := by
  rw [openNextLink]
  split
  · exact Program.keeps_fail _
  next doc inForce =>
  split
  · exact Program.keeps_fail _
  next entry target =>
  refine Program.keeps_bind (emit_keeps (permitted_dial inForce target)) fun _ => ?_
  exact fun io => (courier_keeps relays extend frameLen io).mono fun _ holds => holds.1

theorem addsPermitted_of_keeps {Value : Type} {program : CircuitM Key Value}
    (keeps : Program.Keeps (Conducts (Modest cfg)) program) : Program.Keeps (Adds (Permitted cfg)) program :=
  fun io => (keeps io).toAdds.mono fun _ holds => holds.1

theorem onExtend_keeps (relays : cfg.role ≠ .exit) (payload : Bytes) :
    Program.Keeps (Adds (Permitted cfg)) (onExtend aead cfg env payload) := by
  refine Program.keeps_bind Program.keeps_get fun io => ?_
  split_ifs
  · exact Program.keeps_fail _
  refine Program.keeps_bind (Program.keeps_ofExcept _ _) fun extend => ?_
  cases outboundLen cfg.role with
  | none => exact Program.keeps_fail _
  | some out =>
      refine Program.keeps_bind (fun io => (openNextLink_keeps relays extend out io).toAdds) fun nl => ?_
      refine Program.keeps_bind (addsPermitted_of_keeps (reply_keeps _ _)) fun _ => ?_
      refine Program.keeps_bind (Program.keeps_modify ?_) fun _ => Program.keeps_pure _
      exact fun io => ⟨rfl, [], by simp, by simp⟩

theorem onCloseRequest_keeps : Program.Keeps (Adds (Permitted cfg)) (onCloseRequest aead cfg env) := by
  refine Program.keeps_bind (addsPermitted_of_keeps (reply_keeps _ _)) fun _ => ?_
  refine Program.keeps_bind (Program.keeps_modify ?_) fun _ => Program.keeps_pure _
  exact fun io => ⟨rfl, [], by simp, by simp⟩

/-- The handler a cell is given to, by what it has to be for which role. -/
theorem onCell_cases (cell : Cell) :
    (cell.cellType = .extend ∧ cfg.role ≠ .exit ∧ onCell aead cfg env cell = onExtend aead cfg env cell.payload) ∨
    (cell.cellType = .connect ∧ cfg.role = .exit ∧ onCell aead cfg env cell = onConnect cfg env cell.payload) ∨
    (cell.cellType = .data ∧ cfg.role = .exit ∧ onCell aead cfg env cell = onData cfg env cell.payload) ∨
    (cell.cellType = .closeRequest ∧ onCell aead cfg env cell = onCloseRequest aead cfg env) ∨
    ∃ reason, onCell aead cfg env cell = Program.fail reason := by
  rw [onCell]
  cases cell.cellType <;> cases cfg.role <;> simp

theorem onCell_keeps (cell : Cell) : Program.Keeps (Adds (Permitted cfg)) (onCell aead cfg env cell) := by
  rcases @onCell_cases Key aead cfg env cell with
    ⟨-, relays, same⟩ | ⟨-, isExit, same⟩ | ⟨-, isExit, same⟩ | ⟨-, same⟩ | ⟨reason, same⟩
  · exact same ▸ onExtend_keeps relays cell.payload
  · exact same ▸ addsPermitted_of_keeps (onConnect_keeps isExit cell.payload)
  · exact same ▸ addsPermitted_of_keeps (conducts_of_keeps (onData_keeps isExit cell.payload))
  · exact same ▸ onCloseRequest_keeps
  · exact same ▸ Program.keeps_fail reason

/-! ## Frames -/

theorem onNextFrame_sends (blob : Bytes) :
    Program.Keeps (Sends (TowardsClient cfg)) (onNextFrame aead cfg env blob) := by
  rcases inboundLayers_succ cfg.role with ⟨depth, layers⟩
  have framed : Program.Returns (fun frame => frame.length = inboundLen cfg.role)
      (onTransport (sealForward aead · blob (inboundLayers cfg.role))) := by
    apply onTransport_returns
    intro tx next frame done
    rw [layers] at done
    simp only [inboundLen, layers]
    exact length_of_sealForward aead done
  refine Program.keeps_bind_of_returns framed ?_ fun frame size => ?_
  · exact onTransport_keeps fun tx => sealForward_received aead tx blob _
  · exact Program.keeps_bind (writeClient_sends size) fun _ => Program.keeps_pure _

theorem onNextFrame_keeps (blob : Bytes) :
    Program.Keeps (Conducts (Modest cfg)) (onNextFrame aead cfg env blob) :=
  conducts_of_keeps (modest_of_sends (onNextFrame_sends blob))

/-- The entry that notes a cell being acted on. -/
def noted (instant : Instant) : Peeled -> List (Instant × Output)
  | .toMe cell => [(instant, .acted cell)]
  | .forward _ => []

/-- A peeled layer is noted if it is a cell, and handled with permitted entries. -/
theorem onPeeled_adds {peeled : Peeled} (legal : LegalFor cfg.role peeled) (io : CircuitIo Key) :
    Adds (Permitted cfg) { io with outputs := io.outputs ++ noted env.instant peeled }
      ((onPeeled aead cfg env peeled).run io).2 := by
  cases peeled with
  | toMe cell => exact onCell_keeps cell _
  | forward blob =>
      have keeps : Program.Keeps (Adds (Permitted cfg)) (onPeeled aead cfg env (.forward blob)) := by
        refine Program.keeps_bind Program.keeps_get fun io => ?_
        split_ifs
        · refine Program.keeps_bind (addsPermitted_of_keeps (conducts_of_keeps (write_keeps legal))) fun _ => ?_
          exact Program.keeps_pure _
        · exact Program.keeps_fail _
      simpa [noted] using keeps io

/-- What one turn can do: add permitted entries without peeling anything, refuse a frame,
or peel the next message of the peer, note it and add permitted entries. -/
theorem turn_cases (ready : Ready) (io : CircuitIo Key) :
    Adds (Permitted cfg) io ((turn aead cfg env ready).run io).2 ∨
    (∃ reason, ((turn aead cfg env ready).run io).1 = .error (.layer reason) ∧
      ((turn aead cfg env ready).run io).2.outputs = io.outputs) ∨
    (∃ plain wire peeled, env.peer[io.transport.received]? = some ⟨plain, wire⟩ ∧
      unwrap plain (inboundLayers cfg.role) = .ok peeled ∧
      Adds (Permitted cfg) { io.counted with outputs := io.outputs ++ noted env.instant peeled }
        ((turn aead cfg env ready).run io).2) := by
  have unchanged : Adds (Permitted cfg) io io := refl_of (Adds (Permitted cfg)) io
  have finds := takeIn_finds cfg env io ready
  rw [turn_run]
  generalize (takeIn cfg env io ready).1 = found, (takeIn cfg env io ready).2 = begun at finds ⊢
  cases finds with
  | idle => exact .inl unchanged
  | part acc => exact .inl ⟨unchanged.received, unchanged.outputs⟩
  | peeled item acc plain wire sealed read legal =>
      have adds := @onPeeled_adds Key aead cfg env item legal { io.counted with inbound := acc }
      exact .inr (.inr ⟨plain, wire, item, sealed, read, adds.received, adds.outputs⟩)
  | refused reason acc count => exact .inr (.inl ⟨reason, rfl, rfl⟩)
  | nextPart acc later present same => exact .inl ⟨unchanged.received, unchanged.outputs⟩
  | nextFrame frame acc later present same =>
      have adds := addsPermitted_of_keeps (@onNextFrame_keeps Key aead cfg env frame) { io with nextLink := some later }
      exact .inl ⟨adds.received, adds.outputs⟩
  | destination bytes connected => exact .inl (addsPermitted_of_keeps (onDestRead_keeps bytes) io)
  | interrupted reason interrupts => exact .inl unchanged

end Handlers

/-! ## The next link is opened at most once -/

section NextLink

variable {Key : Type}

/-- What holds between two turns.  A next link reads frames of this role's outbound
length, and without a next link none has been dialed. -/
structure Sound (cfg : RelayConfig) (io : CircuitIo Key) : Prop where
  atMostOnce : dials io.outputs ≤ 1
  unopened : io.nextLink = none -> dials io.outputs = 0
  frameLen : forall acc, io.nextLink = some acc -> some acc.frameLen = outboundLen cfg.role

/-- A program that may dial once if no next link is there, and leaves the circuit sound
unless it ends it. -/
def Orderly (cfg : RelayConfig) (program : CircuitM Key Control) : Prop :=
  Program.Meets (Sound cfg) program
    (fun control io => dials io.outputs ≤ 1 ∧ (control = .proceed -> Sound cfg io))
    (fun _ io => dials io.outputs ≤ 1)

variable {aead : NoiseAead Key} {cfg : RelayConfig} {env : Env}

theorem dials_of_modest {before after : CircuitIo Key} (conducts : Conducts (Modest cfg) before after) :
    dials after.outputs = dials before.outputs := by
  rcases conducts.outputs with ⟨added, grown, modest⟩
  rw [grown, dials_append, dials_eq_zero modest, Nat.add_zero]

theorem Sound.conducts {before after : CircuitIo Key} (sound : Sound cfg before)
    (conducts : Conducts (Modest cfg) before after) : Sound cfg after where
  atMostOnce := by rw [dials_of_modest conducts]; exact sound.atMostOnce
  unopened := by rw [dials_of_modest conducts, conducts.nextLink]; exact sound.unopened
  frameLen := by rw [conducts.nextLink]; exact sound.frameLen

/-- A next link that has read more is the same link. -/
theorem Sound.nextLink {io : CircuitIo Key} (sound : Sound cfg io) {acc later : FrameAccumulator}
    (present : io.nextLink = some acc) (same : later.frameLen = acc.frameLen) :
    Sound cfg { io with nextLink := some later } where
  atMostOnce := sound.atMostOnce
  unopened absent := by cases absent
  frameLen other isLater := by
    cases isLater
    rw [same]
    exact sound.frameLen acc present

theorem orderly_of_keeps {program : CircuitM Key Control}
    (keeps : Program.Keeps (Conducts (Modest cfg)) program) : Orderly cfg program := by
  apply Program.meets_of_keeps keeps (Program.returns_anything program)
  · intro control before after sound conducts _
    exact ⟨(sound.conducts conducts).atMostOnce, fun _ => sound.conducts conducts⟩
  · intro reason before after sound conducts
    exact (sound.conducts conducts).atMostOnce

theorem openNextLink_meets (relays : cfg.role ≠ .exit) (extend : ExtendForward) (frameLen : Nat) :
    Program.Meets (fun io : CircuitIo Key => dials io.outputs = 0) (openNextLink cfg env extend frameLen)
      (fun nl io => dials io.outputs ≤ 1 ∧ nl.1.frameLen = frameLen) (fun _ io => dials io.outputs ≤ 1) := by
  rw [openNextLink]
  split
  · exact Program.meets_fail fun io none => by omega
  split
  · exact Program.meets_fail fun io none => by omega
  next entry _ =>
  have dialed : Program.Meets (fun io : CircuitIo Key => dials io.outputs = 0)
      (emit env (.dialedNext extend.nextHop entry.tlsName)) (fun _ io => dials io.outputs = 1)
      (fun _ io => dials io.outputs ≤ 1) := by
    apply Program.meets_modify
    intro io none
    simp only [dials_append, none]
    rfl
  have linked : Program.Returns (fun nl : FrameAccumulator × NoiseMsg => nl.1.frameLen = frameLen)
      (courier env extend frameLen : CircuitM Key _) :=
    Program.returns_bind fun _ => Program.returns_bind fun _ => Program.returns_bind fun _ =>
      Program.returns_bind fun _ => Program.returns_bind fun _ => Program.returns_pure rfl
  refine Program.meets_bind dialed fun _ => ?_
  apply Program.meets_of_keeps (conducts_of_keeps (courier_keeps relays extend frameLen)) linked
  · intro nl before after once conducts same
    rw [dials_of_modest conducts, once]
    exact ⟨Nat.le_refl 1, same⟩
  · intro reason before after once conducts
    rw [dials_of_modest conducts, once]

/-- A next link is opened only where none is, and is there once the reply has been sent. -/
theorem onExtend_orderly (relays : cfg.role ≠ .exit) (payload : Bytes) :
    Orderly cfg (onExtend aead cfg env payload) := by
  refine Program.meets_get_bind fun io sound => ?_
  split_ifs with opened
  · exact Program.meets_fail fun _ same => same ▸ sound.atMostOnce
  have unopened : dials io.outputs = 0 := sound.unopened (Option.not_isSome_iff_eq_none.mp opened)
  have decoded (result : Except CellError ExtendForward) :
      Program.Meets (· = io) (Program.ofExcept .cell result : CircuitM Key ExtendForward)
        (fun _ reached => dials reached.outputs = 0) (fun _ reached => dials reached.outputs ≤ 1) := by
    apply Program.meets_ofExcept
    · exact fun _ _ _ same => same ▸ unopened
    · exact fun _ _ _ same => same ▸ sound.atMostOnce
  refine Program.meets_bind (decoded _) fun extend => ?_
  split
  · exact Program.meets_fail fun reached none => by omega
  next out outbound =>
  refine Program.meets_bind (openNextLink_meets relays extend out) fun nl => ?_
  have replied : Program.Meets (fun io : CircuitIo Key => dials io.outputs ≤ 1 ∧ nl.1.frameLen = out)
      (reply aead cfg env .extend (extendBackwardPayload nl.2))
      (fun _ io => dials io.outputs ≤ 1 ∧ nl.1.frameLen = out) (fun _ io => dials io.outputs ≤ 1) := by
    apply Program.meets_of_keeps (reply_keeps _ _) (Program.returns_anything _)
    · intro _ before after holds conducts _
      rwa [dials_of_modest conducts]
    · intro _ before after holds conducts
      rw [dials_of_modest conducts]
      exact holds.1
  refine Program.meets_bind replied fun _ => ?_
  intro reached holds
  refine ⟨holds.1, fun _ => ⟨holds.1, ?_, ?_⟩⟩
  · intro absent
    cases absent
  · intro acc present
    cases present
    rw [holds.2, outbound]

theorem onCloseRequest_orderly : Orderly cfg (onCloseRequest aead cfg env) := by
  have acked : Program.Meets (Sound cfg) (reply aead cfg env .closeAck []) (fun _ io => dials io.outputs ≤ 1)
      (fun _ io => dials io.outputs ≤ 1) := by
    apply Program.meets_of_keeps (reply_keeps _ _) (Program.returns_anything _)
    · exact fun _ before after sound conducts _ => (sound.conducts conducts).atMostOnce
    · exact fun _ before after sound conducts => (sound.conducts conducts).atMostOnce
  refine Program.meets_bind acked fun _ => ?_
  intro io once
  refine ⟨once, fun proceeds => ?_⟩
  cases proceeds

theorem onCell_orderly (cell : Cell) : Orderly cfg (onCell aead cfg env cell) := by
  rcases @onCell_cases Key aead cfg env cell with
    ⟨-, relays, same⟩ | ⟨-, isExit, same⟩ | ⟨-, isExit, same⟩ | ⟨-, same⟩ | ⟨reason, same⟩
  · exact same ▸ onExtend_orderly relays cell.payload
  · exact same ▸ orderly_of_keeps (onConnect_keeps isExit cell.payload)
  · exact same ▸ orderly_of_keeps (conducts_of_keeps (onData_keeps isExit cell.payload))
  · exact same ▸ onCloseRequest_orderly
  · exact same ▸ orderly_of_keeps (Program.keeps_fail reason)

theorem onPeeled_orderly {peeled : Peeled} (legal : LegalFor cfg.role peeled) :
    Orderly cfg (onPeeled aead cfg env peeled) := by
  cases peeled with
  | toMe cell =>
      have noting : Program.Meets (Sound cfg) (emit env (.acted cell) : CircuitM Key Unit) (fun _ => Sound cfg)
          (fun _ io => dials io.outputs ≤ 1) := by
        apply Program.meets_modify
        intro io sound
        have same : dials (io.outputs ++ [(env.instant, .acted cell)]) = dials io.outputs := dials_append _ _
        exact ⟨same ▸ sound.atMostOnce, fun absent => same ▸ sound.unopened absent, sound.frameLen⟩
      exact Program.meets_bind noting fun _ => onCell_orderly cell
  | forward blob =>
      apply orderly_of_keeps
      refine Program.keeps_bind Program.keeps_get fun io => ?_
      split_ifs
      · exact Program.keeps_bind (conducts_of_keeps (write_keeps legal)) fun _ => Program.keeps_pure _
      · exact Program.keeps_fail _

/-- What is taken in leaves the circuit sound, and what is found is handled in order. -/
theorem turn_orderly (ready : Ready) : Orderly cfg (turn aead cfg env ready) := by
  intro io sound
  have finds := takeIn_finds cfg env io ready
  rw [turn_run]
  generalize (takeIn cfg env io ready).1 = found, (takeIn cfg env io ready).2 = begun at finds ⊢
  cases finds with
  | idle => exact ⟨sound.atMostOnce, fun _ => sound⟩
  | part acc =>
      exact ⟨sound.atMostOnce, fun _ => ⟨sound.atMostOnce, sound.unopened, sound.frameLen⟩⟩
  | peeled item acc plain wire sealed read legal =>
      exact onPeeled_orderly legal _ ⟨sound.atMostOnce, sound.unopened, sound.frameLen⟩
  | refused reason acc count => exact sound.atMostOnce
  | nextPart acc later present same =>
      exact ⟨sound.atMostOnce, fun _ => sound.nextLink present same⟩
  | nextFrame frame acc later present same =>
      exact orderly_of_keeps (onNextFrame_keeps frame) _ (sound.nextLink present same)
  | destination bytes connected => exact orderly_of_keeps (onDestRead_keeps bytes) io sound
  | interrupted reason interrupts => exact sound.atMostOnce

/-- Whatever the next link delivers, a whole frame of it can be sealed for the client. -/
theorem Sound.sealForward {io : CircuitIo Key} (sound : Sound cfg io) {acc next : FrameAccumulator}
    (present : io.nextLink = some acc) {bytes frame : Bytes} (complete : acc.receive bytes = (some frame, next)) :
    ∃ framed tx, Wire.sealForward aead io.transport frame (inboundLayers cfg.role) = (.ok framed, tx) := by
  have size : some frame.length = outboundLen cfg.role := by
    rw [FrameAccumulator.length_of_receive complete]
    exact sound.frameLen acc present
  cases role : cfg.role with
  | guard =>
      rw [role] at size
      exact ⟨_, _, sealForward_of_length aead io.transport (Option.some.inj size)⟩
  | middle =>
      rw [role] at size
      exact ⟨_, _, sealForward_of_length aead io.transport (Option.some.inj size)⟩
  | exit =>
      rw [role] at size
      cases size

end NextLink

/-! ## Whole runs of the loop -/

namespace CircuitLoop

variable {Key : Type} {aead : NoiseAead Key} {cfg : RelayConfig}

/-- A next link has been dialed at most once, and a running circuit is sound. -/
structure Lawful (cfg : RelayConfig) (circuit : CircuitLoop Key) : Prop where
  atMostOnce : dials circuit.io.outputs ≤ 1
  sound : circuit.ended = none -> Sound cfg circuit.io

theorem settle_io (result : Except HandleError Control × CircuitIo Key) : (settle result).io = result.2 := by
  rcases result with ⟨outcome, io⟩
  cases outcome with
  | error reason => rfl
  | ok control => cases control <;> rfl

theorem Lawful.step {circuit : CircuitLoop Key} (lawful : Lawful cfg circuit) (env : Env) (ready : Ready) :
    Lawful cfg (circuit.step aead cfg env ready) := by
  rw [CircuitLoop.step]
  split
  · exact lawful
  next running =>
  have orderly := @turn_orderly Key aead cfg env ready circuit.io (lawful.sound running)
  rcases result : (turn aead cfg env ready).run circuit.io with ⟨outcome, io⟩
  rw [result] at orderly
  cases outcome with
  | error reason => exact ⟨orderly, fun ended => by cases ended⟩
  | ok control =>
      cases control with
      | proceed => exact ⟨orderly.1, fun _ => orderly.2 rfl⟩
      | closed => exact ⟨orderly.1, fun ended => by cases ended⟩

/-- A turn adds permitted entries and notes of cells acted on. -/
theorem step_outputs (circuit : CircuitLoop Key) (env : Env) (ready : Ready) :
    ∃ added, (circuit.step aead cfg env ready).io.outputs = circuit.io.outputs ++ added ∧
      ∀ entry ∈ added, Permitted cfg entry ∨ ∃ cell, entry.2 = .acted cell := by
  rw [CircuitLoop.step]
  split
  · exact ⟨[], by simp, by simp⟩
  rw [settle_io]
  rcases @turn_cases Key aead cfg env ready circuit.io with
    adds | ⟨reason, -, same⟩ | ⟨plain, wire, peeled, -, -, adds⟩
  · rcases adds.outputs with ⟨added, grown, permitted⟩
    exact ⟨added, grown, fun entry member => .inl (permitted entry member)⟩
  · exact ⟨[], by simpa using same, by simp⟩
  · rcases adds.outputs with ⟨added, grown, permitted⟩
    refine ⟨noted env.instant peeled ++ added, by rw [grown, List.append_assoc], ?_⟩
    intro entry member
    rcases List.mem_append.mp member with member | member
    · cases peeled with
      | toMe cell => exact .inr ⟨cell, by rw [List.mem_singleton.mp member]⟩
      | forward blob => cases member
    · exact .inl (permitted entry member)

end CircuitLoop
end Relay
end QuietHop
