import QuietHop.Circuit.Carries
import QuietHop.Relay.Arrival

namespace QuietHop
namespace Circuit

open Lib Net Registry Wire Client Relay

/-!
# What the parties seal

No turn of any party changes the key of a session.  A relay seals for the client what the
destination has sent, and answers that are no data; a relay without a destination seals no
data at all.
-/

/-! ## Transports -/

section Transports

variable {Key : Type} {aead : NoiseAead Key}

theorem encrypt_key (tx : Transport Key) (plain : Bytes) (outLen : Nat) :
    (tx.encrypt aead plain outLen).2.key = tx.key := by
  simp only [Transport.encrypt]
  split_ifs <;> rfl

theorem sealToMe_key (tx : Transport Key) (cell : Cell) (layers : Nat) : (sealToMe aead tx cell layers).2.key = tx.key := by
  unfold sealToMe
  simp only
  split
  · rfl
  next encoded _ =>
    have same := @encrypt_key Key aead tx (dispositionToMe ::
      (encoded ++ (List.replicate (bodyLen layers) (0 : UInt8)).drop cellPlaintextLen))
    split
    · next sealed => rw [← same, sealed]
    · next sealed => rw [← same, sealed]

theorem sealForward_key (tx : Transport Key) (blob : Bytes) (layers : Nat) :
    (sealForward aead tx blob layers).2.key = tx.key := by
  have same := @encrypt_key Key aead tx (forwardPlain blob)
  unfold sealForward
  simp only
  split
  · rfl
  · split
    · next sealed => rw [← same, sealed]
    · next sealed => rw [← same, sealed]

theorem peel_key (peer : List Sealed) (tx : Transport Key) (wire : Bytes) (layers : Nat) :
    (peel peer tx wire layers).2.key = tx.key := by
  rcases peel_tx peer tx wire layers with ⟨count, same⟩
  rw [same]

end Transports

/-! ## Logs and the cells in them -/

/-- A log has grown by messages that are some cells to whoever peels them off a link of this depth. -/
structure Voices (layers : Nat) (cells : List Cell) (before after : List Sealed) : Prop where
  grows : before <+: after
  cells : cellsOf layers after = cellsOf layers before ++ cells

namespace Voices

variable {layers : Nat} {cells more : List Cell} {before after last : List Sealed}

theorem refl (log : List Sealed) : Voices layers [] log log :=
  ⟨List.prefix_refl _, (List.append_nil _).symm⟩

theorem trans (head : Voices layers cells before after) (tail : Voices layers more after last) :
    Voices layers (cells ++ more) before last :=
  ⟨head.grows.trans tail.grows, by rw [tail.cells, head.cells, List.append_assoc]⟩

theorem of_eq (same : after = before) : Voices layers [] before after := by
  rw [same]
  exact refl before

theorem of_append {message : Sealed} (grown : after = before ++ [message]) :
    Voices layers (cellOf layers message).toList before after := by
  rw [grown]
  refine ⟨List.prefix_append _ _, ?_⟩
  rw [cellsOf_append]
  cases found : cellOf layers message <;> simp [cellsOf, found]

end Voices

/-! ## Relays -/

section Relays

variable {Key : Type} {aead : NoiseAead Key} {cfg : RelayConfig} {env : Env}

/-- Some cells have been sealed for the client.  Only an exit gets a destination. -/
structure Speaks (cfg : RelayConfig) (cells : List Cell) (before after : CircuitIo Key) : Prop where
  key : after.transport.key = before.transport.key
  voices : Voices (inboundLayers cfg.role) cells before.transport.sent after.transport.sent
  dest : cfg.role ≠ .exit -> after.destLink = true -> before.destLink = true

theorem Speaks.trans {cells more : List Cell} {first second third : CircuitIo Key}
    (head : Speaks cfg cells first second) (tail : Speaks cfg more second third) :
    Speaks cfg (cells ++ more) first third where
  key := tail.key.trans head.key
  voices := head.voices.trans tail.voices
  dest := fun relays later => head.dest relays (tail.dest relays later)

/-- Whatever leaves the transport and the destination alone seals nothing. -/
theorem speaks_of_same {before after : CircuitIo Key} (transport : after.transport = before.transport)
    (dest : cfg.role ≠ .exit -> after.destLink = true -> before.destLink = true) : Speaks cfg [] before after :=
  ⟨by rw [transport], Voices.of_eq (by rw [transport]), dest⟩

theorem Speaks.refl (io : CircuitIo Key) : Speaks cfg [] io io :=
  speaks_of_same rfl (fun _ held => held)

instance : Std.Refl (@Speaks Key cfg []) where
  refl := Speaks.refl

instance : IsTrans (CircuitIo Key) (Speaks cfg []) where
  trans _ _ _ := Speaks.trans

theorem emit_speaks (output : Output) : Program.Keeps (Speaks cfg []) (emit env output : CircuitM Key Unit) :=
  Program.keeps_modify fun _ => ⟨rfl, Voices.refl _, fun _ held => held⟩

theorem write_speaks (sink : Sink) (bytes : Bytes) :
    Program.Keeps (Speaks cfg []) (write env sink bytes : CircuitM Key Unit) := by
  refine Program.keeps_bind Program.keeps_get fun io => ?_
  split
  · exact emit_speaks _
  · exact Program.keeps_bind (emit_speaks _) fun _ => Program.keeps_fail _

theorem dialViaSocks5_speaks (proxyUrl host : String) (port : UInt16) :
    Program.Keeps (Speaks cfg []) (dialViaSocks5 cfg env proxyUrl host port : CircuitM Key Unit) := by
  rw [dialViaSocks5]
  split_ifs
  · split
    · exact Program.keeps_fail _
    · refine Program.keeps_bind (emit_speaks _) fun _ => ?_
      split
      · exact Program.keeps_pure ()
      · exact Program.keeps_fail _
      · exact Program.keeps_fail _
  · exact Program.keeps_fail _

theorem onConnect_speaks (isExit : cfg.role = .exit) (payload : Bytes) :
    Program.Keeps (Speaks cfg []) (onConnect cfg env payload : CircuitM Key Control) := by
  refine Program.keeps_bind Program.keeps_get fun io => ?_
  split_ifs
  · exact Program.keeps_fail _
  · refine Program.keeps_bind (Program.keeps_ofExcept _ _) fun connect => ?_
    split
    · exact Program.keeps_fail _
    · refine Program.keeps_bind (dialViaSocks5_speaks _ _ _) fun _ => ?_
      refine Program.keeps_bind (Program.keeps_modify fun _ => ?_) fun _ => Program.keeps_pure _
      exact speaks_of_same rfl (fun relays => absurd isExit relays)

theorem onData_speaks (payload : Bytes) : Program.Keeps (Speaks cfg []) (onData cfg env payload : CircuitM Key Control) := by
  refine Program.keeps_bind Program.keeps_get fun io => ?_
  split_ifs
  · exact Program.keeps_pure _
  · exact Program.keeps_bind (write_speaks .dest payload) fun _ => Program.keeps_pure _
  · exact Program.keeps_fail _

theorem openNextLink_speaks (extend : ExtendForward) (frameLen : Nat) :
    Program.Keeps (Speaks cfg []) (openNextLink cfg env extend frameLen : CircuitM Key _) := by
  rw [openNextLink]
  split
  · exact Program.keeps_fail _
  split
  · exact Program.keeps_fail _
  refine Program.keeps_bind (emit_speaks _) fun _ => ?_
  refine Program.keeps_bind (Program.keeps_ofExcept _ _) fun _ => ?_
  refine Program.keeps_bind (write_speaks _ _) fun _ => Program.keeps_bind (write_speaks _ _) fun _ => ?_
  refine Program.keeps_bind (write_speaks _ _) fun _ => ?_
  exact Program.keeps_bind (Program.keeps_ofExcept _ _) fun _ => Program.keeps_pure _

/-- One sealing operation. -/
theorem onTransport_speaks {operation : Transport Key -> Except LayerError Bytes × Transport Key} {cells : List Cell}
    {io : CircuitIo Key} (key : (operation io.transport).2.key = io.transport.key)
    (voices : Voices (inboundLayers cfg.role) cells io.transport.sent (operation io.transport).2.sent) :
    Speaks cfg cells io ((onTransport operation).run io).2 := by
  rcases result : operation io.transport with ⟨outcome, tx⟩
  rw [result] at key voices
  cases outcome with
  | error reason =>
      simp only [onTransport, result]
      exact ⟨key, voices, fun _ held => held⟩
  | ok value =>
      simp only [onTransport, result]
      exact ⟨key, voices, fun _ held => held⟩

/-! ### What a program says to the client -/

/-- The cells that the program seals hold an initial part of these bytes, and all of them if it returns. -/
def Tells {Value : Type} (cfg : RelayConfig) (bytes : Bytes) (program : CircuitM Key Value) : Prop :=
  forall io, ∃ cells, Speaks cfg cells io (program.run io).2 ∧ payloads cells <+: bytes ∧
    (forall value, (program.run io).1 = .ok value -> payloads cells = bytes)

theorem tells_of_keeps {Value : Type} {program : CircuitM Key Value} (keeps : Program.Keeps (Speaks cfg []) program) :
    Tells cfg [] program :=
  fun io => ⟨[], keeps io, List.prefix_refl _, fun _ _ => rfl⟩

theorem Tells.bind {Value Next : Type} {first second : Bytes} {program : CircuitM Key Value}
    {next : Value -> CircuitM Key Next} (head : Tells cfg first program) (tail : forall value, Tells cfg second (next value)) :
    Tells cfg (first ++ second) (program >>= next) := by
  intro io
  rcases head io with ⟨cells, speaks, part, whole⟩
  rcases result : program.run io with ⟨outcome, reached⟩
  rw [result] at speaks whole
  cases outcome with
  | error reason =>
      rw [Program.run_bind_of_error result]
      exact ⟨cells, speaks, part.trans (List.prefix_append _ _), by rintro _ ⟨⟩⟩
  | ok value =>
      rcases tail value reached with ⟨more, onward, rest, all⟩
      rw [Program.run_bind_of_ok result]
      refine ⟨cells ++ more, speaks.trans onward, ?_, fun last done => ?_⟩
      · rw [payloads_append, whole value rfl]
        exact (List.prefix_append_right_inj first).mpr rest
      · rw [payloads_append, whole value rfl, all last done]

/-- A program that says nothing, before or after one that does. -/
theorem Tells.after {Value Next : Type} {bytes : Bytes} {program : CircuitM Key Value} {next : Value -> CircuitM Key Next}
    (keeps : Program.Keeps (Speaks cfg []) program) (tail : forall value, Tells cfg bytes (next value)) :
    Tells cfg bytes (program >>= next) :=
  (tells_of_keeps keeps).bind tail

theorem Tells.before {Value Next : Type} {bytes : Bytes} {program : CircuitM Key Value} {next : Value -> CircuitM Key Next}
    (head : Tells cfg bytes program) (keeps : forall value, Program.Keeps (Speaks cfg []) (next value)) :
    Tells cfg bytes (program >>= next) := by
  have both := head.bind fun value => tells_of_keeps (keeps value)
  rw [List.append_nil] at both
  exact both

theorem push_voices (tx : Transport Key) {cell : Cell} (fits : cell.Fits) (depth : Nat) :
    Voices (depth + 1) [cell] tx.sent (tx.push aead (toMePlain cell (depth + 1))).sent := by
  have grown : (tx.push aead (toMePlain cell (depth + 1))).sent = tx.sent ++ [⟨toMePlain cell (depth + 1),
      aead.encrypt tx.key tx.sent.length (toMePlain cell (depth + 1))⟩] := rfl
  have voices := @Voices.of_append (depth + 1) _ _ _ grown
  simp only [cellOf, unwrap_toMePlain fits (depth + 1), Option.toList_some] at voices
  exact voices

theorem seal_tells {cell : Cell} (fits : cell.Fits) :
    Tells cfg (payloads [cell]) (onTransport (sealToMe aead · cell (inboundLayers cfg.role)) : CircuitM Key Bytes) := by
  intro io
  rcases inboundLayers_succ cfg.role with ⟨depth, layers⟩
  refine ⟨[cell], onTransport_speaks ?_ ?_, List.prefix_refl _, fun _ _ => rfl⟩
  · exact sealToMe_key io.transport cell _
  · rw [layers, sealToMe_of_fits aead io.transport fits depth]
    exact push_voices io.transport fits depth

theorem reply_tells (cellType : CellType) (payload : Bytes) :
    Tells cfg (payloads [⟨cellType, payload⟩]) (reply aead cfg env cellType payload) := by
  by_cases small : payload.length ≤ cellPayloadLen
  · have same : reply aead cfg env cellType payload = (do
        let framed ← onTransport (sealToMe aead · ⟨cellType, payload⟩ (inboundLayers cfg.role))
        write env .client framed : CircuitM Key Unit) := by
      rw [reply, Cell.new_of_le small]
      rfl
    have fits : (Cell.mk cellType payload).Fits := small
    rw [same]
    exact (seal_tells fits).before fun framed => write_speaks .client framed
  · have refused : Cell.new cellType payload = .error (.tooLarge payload.length) := by
      rw [Cell.new, if_pos (Nat.lt_of_not_le small)]
    intro io
    refine ⟨[], ?_, List.nil_prefix, ?_⟩ <;> rw [reply, refused]
    · exact Speaks.refl io
    · rintro _ ⟨⟩

/-- A reply without data says nothing. -/
theorem reply_quiet {cellType : CellType} (kind : cellType ≠ .data) (payload : Bytes) :
    Tells cfg [] (reply aead cfg env cellType payload) := by
  have told := @reply_tells Key aead cfg env cellType payload
  rw [payloads_cons, if_neg kind] at told
  exact told

theorem sendChunks_tells (pieces : List Bytes) : Tells cfg pieces.flatten (Relay.sendChunks aead cfg env pieces) := by
  induction pieces with
  | nil => exact tells_of_keeps (Program.keeps_pure ())
  | cons piece rest ih =>
      have first : Tells cfg piece (reply aead cfg env .data piece) := by
        have told := @reply_tells Key aead cfg env .data piece
        rw [payloads_cons, if_pos rfl, payloads_nil, List.append_nil] at told
        exact told
      exact first.bind fun _ => ih

theorem onDestRead_tells (bytes : Bytes) : Tells cfg bytes (onDestRead aead cfg env bytes) := by
  rw [onDestRead]
  split_ifs with nothing
  · rw [List.isEmpty_iff.mp nothing]
    refine tells_of_keeps (Program.keeps_bind (Program.keeps_modify fun _ => ?_) fun _ => Program.keeps_pure _)
    exact speaks_of_same rfl (fun _ held => by cases held)
  · have told := @sendChunks_tells Key aead cfg env (Stream.chunks cellPayloadLen bytes)
    rw [Stream.flatten_chunks (Nat.pos_of_ne_zero (by decide))] at told
    exact told.before fun _ => Program.keeps_pure _

theorem onCloseRequest_tells : Tells cfg [] (onCloseRequest aead cfg env) := by
  refine (reply_quiet (by decide) []).before fun _ => ?_
  refine Program.keeps_bind (Program.keeps_modify fun _ => ?_) fun _ => Program.keeps_pure _
  exact speaks_of_same rfl (fun _ held => by cases held)

theorem onExtend_tells (payload : Bytes) : Tells cfg [] (onExtend aead cfg env payload) := by
  refine Tells.after Program.keeps_get fun io => ?_
  split_ifs
  · exact tells_of_keeps (Program.keeps_fail _)
  refine Tells.after (Program.keeps_ofExcept _ _) fun extend => ?_
  split
  · exact tells_of_keeps (Program.keeps_fail _)
  refine Tells.after (openNextLink_speaks extend _) fun link => ?_
  refine (reply_quiet (by decide) _).before fun _ => ?_
  exact Program.keeps_bind (Program.keeps_modify fun _ => speaks_of_same rfl (fun _ held => held)) fun _ =>
    Program.keeps_pure _

theorem onCell_tells (cell : Cell) : Tells cfg [] (Relay.onCell aead cfg env cell) := by
  have fails (reason : HandleError) : Tells cfg [] (Program.fail reason : CircuitM Key Control) :=
    tells_of_keeps (Program.keeps_fail _)
  rcases cell with ⟨kind, payload⟩
  cases role : cfg.role with
  | exit =>
      cases kind with
      | connect =>
          simp only [Relay.onCell, role]
          exact tells_of_keeps (onConnect_speaks role payload)
      | data =>
          simp only [Relay.onCell, role]
          exact tells_of_keeps (onData_speaks payload)
      | closeRequest =>
          simp only [Relay.onCell]
          exact onCloseRequest_tells
      | closeAck =>
          simp only [Relay.onCell]
          exact fails _
      | extend =>
          simp only [Relay.onCell, role]
          exact fails _
  | _ =>
      cases kind with
      | extend =>
          simp only [Relay.onCell, role]
          exact onExtend_tells payload
      | closeRequest =>
          simp only [Relay.onCell]
          exact onCloseRequest_tells
      | _ =>
          simp only [Relay.onCell, role]
          exact fails _

theorem onPeeled_tells (item : Peeled) : Tells cfg [] (onPeeled aead cfg env item) := by
  cases item with
  | forward blob =>
      refine Tells.after Program.keeps_get fun io => ?_
      split_ifs
      · exact tells_of_keeps (Program.keeps_bind (write_speaks .next blob) fun _ => Program.keeps_pure _)
      · exact tells_of_keeps (Program.keeps_fail _)
  | toMe cell => exact Tells.after (emit_speaks _) fun _ => onCell_tells cell

/-- A frame that is wrapped is no cell of the relay that wraps it. -/
theorem cellOf_forward (blob cipher : Bytes) (layers : Nat) : cellOf layers ⟨forwardPlain blob, cipher⟩ = none := by
  have other : (forwardPlain blob).getD 0 0 = dispositionForward := rfl
  rw [cellOf, unwrap]
  simp only [other]
  rw [if_neg (by decide), if_pos trivial]
  split_ifs <;> rfl

theorem sealForward_voices (tx : Transport Key) (blob : Bytes) (depth : Nat) :
    Voices (depth + 1) [] tx.sent (sealForward aead tx blob (depth + 1)).2.sent := by
  by_cases size : blob.length = linkCellLen depth
  · rw [sealForward_of_length aead tx size]
    have grown : (tx.push aead (forwardPlain blob)).sent = tx.sent ++ [⟨forwardPlain blob,
        aead.encrypt tx.key tx.sent.length (forwardPlain blob)⟩] := rfl
    have voices := @Voices.of_append (depth + 1) _ _ _ grown
    rw [cellOf_forward] at voices
    exact voices
  · have refused : sealForward aead tx blob (depth + 1) = (.error (.wrongSize blob.length (linkCellLen depth)), tx) := by
      simp only [sealForward, Nat.add_sub_cancel, ne_eq, size, not_false_eq_true, if_true]
    rw [refused]
    exact Voices.refl _

theorem onNextFrame_speaks (blob : Bytes) : Program.Keeps (Speaks cfg []) (onNextFrame aead cfg env blob) := by
  have wraps : Program.Keeps (Speaks cfg []) (onTransport (sealForward aead · blob (inboundLayers cfg.role)) :
      CircuitM Key Bytes) := by
    intro io
    refine onTransport_speaks (sealForward_key io.transport blob _) ?_
    rcases inboundLayers_succ cfg.role with ⟨depth, layers⟩
    rw [layers]
    exact sealForward_voices io.transport blob depth
  refine Program.keeps_bind wraps fun framed => ?_
  exact Program.keeps_bind (write_speaks .client framed) fun _ => Program.keeps_pure _

/-- What a turn reads from the destination. -/
def fromDest (io : CircuitIo Key) : Ready -> Bytes
  | .destRead bytes => if io.destLink then bytes.take destReadBuf else []
  | _ => []

/-- What is to be passed to the client. -/
def Arrival.toClient : Arrival -> Bytes
  | .destination bytes => bytes
  | _ => []

theorem toClient_takeIn (io : CircuitIo Key) (ready : Ready) :
    Arrival.toClient (takeIn cfg env io ready).1 = fromDest io ready := by
  cases ready with
  | destRead bytes =>
      rw [takeIn, fromDest]
      split_ifs <;> rfl
  | inboundRead bytes =>
      rw [takeIn]
      split_ifs
      · rfl
      · rw [takeInFrame]
        split
        · rfl
        · split <;> rfl
  | nextRead bytes =>
      rw [takeIn]
      split
      · rfl
      · split_ifs
        · rfl
        · rw [takeInNext]
          split <;> rfl
  | inboundError error => rfl
  | timeout => rfl
  | nextError error =>
      rw [takeIn]
      split_ifs <;> rfl
  | destError error =>
      rw [takeIn]
      split_ifs <;> rfl

theorem act_tells (found : Arrival) : Tells cfg (Arrival.toClient found) (act aead cfg env found) := by
  cases found with
  | nothing => exact tells_of_keeps (Program.keeps_pure _)
  | peeled item => exact onPeeled_tells item
  | nextFrame blob => exact tells_of_keeps (onNextFrame_speaks blob)
  | destination bytes => exact onDestRead_tells bytes
  | fails reason => exact tells_of_keeps (Program.keeps_fail _)

/-- One turn of a relay: what it seals for the client is what it has read from the destination. -/
theorem turn_tells (io : CircuitIo Key) (ready : Ready) :
    ∃ cells, Speaks cfg cells io ((turn aead cfg env ready).run io).2 ∧ payloads cells <+: fromDest io ready ∧
      (forall control, ((turn aead cfg env ready).run io).1 = .ok control -> payloads cells = fromDest io ready) := by
  have taken : Speaks cfg [] io (takeIn cfg env io ready).2 := by
    have finds := @takeIn_finds Key cfg env io ready
    generalize (takeIn cfg env io ready).1 = found, (takeIn cfg env io ready).2 = begun at finds ⊢
    cases finds <;> exact ⟨rfl, Voices.refl _, fun _ held => held⟩
  rcases @act_tells Key aead cfg env (takeIn cfg env io ready).1 (takeIn cfg env io ready).2 with
    ⟨cells, speaks, part, whole⟩
  rw [toClient_takeIn] at part whole
  rw [turn_run]
  exact ⟨cells, taken.trans speaks, part, whole⟩

theorem turn_key (io : CircuitIo Key) (ready : Ready) :
    ((turn aead cfg env ready).run io).2.transport.key = io.transport.key := by
  rcases @turn_tells Key aead cfg env io ready with ⟨cells, speaks, -⟩
  exact speaks.key

end Relays

/-! ## The client -/

section Client

variable {Key : Type} {aead : NoiseAead Key} {env : TaskEnv}

/-- Every transport keeps its key. -/
def SameKeys (before after : Layers Key) : Prop :=
  forall hop, (after.tx hop).key = (before.tx hop).key

theorem SameKeys.refl (layers : Layers Key) : SameKeys layers layers :=
  fun _ => rfl

theorem SameKeys.trans {first second third : Layers Key} (head : SameKeys first second) (tail : SameKeys second third) :
    SameKeys first third :=
  fun hop => (tail hop).trans (head hop)

theorem sameKeys_of {before : Layers Key} {guard middle exit : Transport Key} (guardKey : guard.key = before.guard.key)
    (middleKey : middle.key = before.middle.key) (exitKey : exit.key = before.exit.key) :
    SameKeys before ⟨guard, middle, exit⟩ := by
  intro hop
  cases hop with
  | guard => exact guardKey
  | middle => exact middleKey
  | exit => exact exitKey

theorem wrapForGuard_keys (layers : Layers Key) (inner : Bytes) : SameKeys layers (layers.wrapForGuard aead inner).2 := by
  have same := @sealForward_key Key aead layers.guard inner clientLayers
  rw [Layers.wrapForGuard]
  split
  · next result => exact sameKeys_of (by rw [← same, result]) rfl rfl
  · next result => exact sameKeys_of (by rw [← same, result]) rfl rfl

theorem sealForExit_keys (layers : Layers Key) (cell : Cell) : SameKeys layers (layers.sealForExit aead cell).2 := by
  have inner := @sealToMe_key Key aead layers.exit cell 1
  rw [Layers.sealForExit]
  split
  · next result => exact sameKeys_of rfl rfl (by rw [← inner, result])
  next blob exit result =>
    have exitKey : exit.key = layers.exit.key := by rw [← inner, result]
    have outer := @sealForward_key Key aead layers.middle blob (clientLayers - 1)
    split
    · next sealed => exact sameKeys_of rfl (by rw [← outer, sealed]) exitKey
    next mid middle sealed =>
      have middleKey : middle.key = layers.middle.key := by rw [← outer, sealed]
      exact (sameKeys_of rfl middleKey exitKey).trans (wrapForGuard_keys _ mid)

theorem peelExit_keys (logs : PeerLogs) (layers : Layers Key) (blob : Bytes) :
    SameKeys layers (Layers.peelExit logs layers blob).2 := by
  have same := peel_key logs.exit layers.exit blob 1
  rw [Layers.peelExit]
  split
  · next result => exact sameKeys_of rfl rfl (by rw [← same, result])
  · next result => exact sameKeys_of rfl rfl (by rw [← same, result])
  · next result => exact sameKeys_of rfl rfl (by rw [← same, result])

theorem peelMiddle_keys (logs : PeerLogs) (layers : Layers Key) (blob : Bytes) :
    SameKeys layers (Layers.peelMiddle logs layers blob).2 := by
  have same := peel_key logs.middle layers.middle blob (clientLayers - 1)
  rw [Layers.peelMiddle]
  split
  · next result => exact sameKeys_of rfl (by rw [← same, result]) rfl
  · next result => exact sameKeys_of rfl (by rw [← same, result]) rfl
  · next result => exact (sameKeys_of rfl (by rw [← same, result]) rfl).trans (peelExit_keys logs _ _)

theorem peelInbound_keys (logs : PeerLogs) (layers : Layers Key) (wire : Bytes) :
    SameKeys layers (Layers.peelInbound logs layers wire).2 := by
  have same := peel_key logs.guard layers.guard wire clientLayers
  rw [Layers.peelInbound]
  split
  · next result => exact sameKeys_of (by rw [← same, result]) rfl rfl
  · next result => exact sameKeys_of (by rw [← same, result]) rfl rfl
  · next result => exact (sameKeys_of (by rw [← same, result]) rfl rfl).trans (peelMiddle_keys logs _ _)

/-- A part of the task that leaves the keys alone. -/
def KeepsKeys (before after : TaskIo Key) : Prop :=
  SameKeys before.layers after.layers

instance : Std.Refl (@KeepsKeys Key) where
  refl io := SameKeys.refl io.layers

instance : IsTrans (TaskIo Key) KeepsKeys where
  trans _ _ _ := SameKeys.trans

theorem onLayers_keys {Value : Type} {embed : ClientError -> Break}
    {operation : Layers Key -> Except ClientError Value × Layers Key}
    (keeps : forall layers, SameKeys layers (operation layers).2) :
    Program.Keeps KeepsKeys (onLayers embed operation) := by
  intro io
  have same := keeps io.layers
  simp only [onLayers]
  split
  · next result =>
      rw [result] at same
      exact same
  · next result =>
      rw [result] at same
      exact same

theorem emitTask_keys (output : TaskOutput) : Program.Keeps KeepsKeys (emitTask output : TaskM Key Unit) :=
  Program.keeps_modify fun io => SameKeys.refl io.layers

theorem writeLink_keys (frame : Bytes) : Program.Keeps KeepsKeys (writeLink env frame : TaskM Key Unit) := by
  refine Program.keeps_bind Program.keeps_get fun io => ?_
  split
  · exact emitTask_keys _
  · exact Program.keeps_bind (emitTask_keys _) fun _ => Program.keeps_fail _

theorem writeUser_keys (payload : Bytes) : Program.Keeps KeepsKeys (writeUser env payload : TaskM Key Unit) := by
  refine Program.keeps_bind Program.keeps_get fun io => ?_
  split
  · exact emitTask_keys _
  · exact Program.keeps_bind (emitTask_keys _) fun _ => Program.keeps_fail _

theorem sendChunk_keys (chunk : Bytes) : Program.Keeps KeepsKeys (sendChunk aead env chunk) := by
  refine Program.keeps_bind (Program.keeps_ofExcept _ _) fun cell => ?_
  exact Program.keeps_bind (onLayers_keys fun layers => sealForExit_keys layers cell) fun wire => writeLink_keys wire

theorem taskChunks_keys (pieces : List Bytes) : Program.Keeps KeepsKeys (Client.sendChunks aead env pieces) := by
  induction pieces with
  | nil => exact Program.keeps_pure ()
  | cons piece rest ih => exact Program.keeps_bind (sendChunk_keys piece) fun _ => ih

theorem onFrame_keys (frame : Bytes) : Program.Keeps KeepsKeys (onFrame env frame : TaskM Key Unit) := by
  refine Program.keeps_bind (onLayers_keys fun layers => peelInbound_keys env.logs layers frame) fun cell => ?_
  rw [Client.onCell]
  split
  · split_ifs
    · exact Program.keeps_pure ()
    · exact writeUser_keys _
  · exact Program.keeps_fail _
  · exact Program.keeps_fail _

theorem taskTurn_keys (ready : TaskReady) : Program.Keeps KeepsKeys (taskTurn aead env ready) := by
  cases ready with
  | userRead bytes =>
      rw [taskTurn]
      split_ifs
      · exact Program.keeps_fail _
      · exact taskChunks_keys _
  | linkRead bytes =>
      refine Program.keeps_bind Program.keeps_get fun io => ?_
      split_ifs
      · exact Program.keeps_fail _
      · refine Program.keeps_bind (Program.keeps_modify fun io => SameKeys.refl io.layers) fun _ => ?_
        split
        · exact Program.keeps_pure ()
        · exact onFrame_keys _
  | linkError => exact Program.keeps_fail _

theorem teardown_keys (reason : Break) (io : TaskIo Key) : SameKeys io.layers (teardown aead env reason io).layers := by
  rw [teardown]
  split
  · exact SameKeys.refl _
  next cell _ =>
    have same := @sealForExit_keys Key aead io.layers cell
    split
    · next result =>
        rw [result] at same
        exact same
    · next result =>
        rw [result] at same
        split_ifs
        · exact same
        · split
          · exact same
          · exact same

/-- No turn of the task changes a key. -/
theorem task_keys (task : CircuitTask Key) (ready : TaskReady) :
    SameKeys task.io.layers (task.step aead env ready).io.layers := by
  rw [CircuitTask.step]
  split
  · exact SameKeys.refl _
  · have same := @taskTurn_keys Key aead env ready task.io
    split
    · next result =>
        rw [result] at same
        exact same
    · next reason io result =>
        rw [result] at same
        exact SameKeys.trans same (teardown_keys reason io)

end Client
end Circuit
end QuietHop
