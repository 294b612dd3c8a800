import QuietHop.Circuit.CoverRelay

namespace QuietHop
namespace Circuit

open Lib Lib.Thinning Wire Client Relay

/-!
# The exit with and without cover cells

The two exits have sealed the same cells for the client, up to cover cells, and have done the
same to the destination.  They act alike on every cell that is not a cover cell.  On a cover
cell the exit of the covered circuit does nothing, whatever its state.
-/

section Exit

variable {Key : Type}

/-! ## Acting on a cell -/

/-- The states of the two exits.  The record of the covered circuit is longer by `surplus`, and
what the two have read is fixed. -/
structure Alike (start : Station Key) (surplus : Nat) (read thinRead : Nat × FrameAccumulator)
    (whole thin : CircuitIo Key) : Prop where
  record : whole.outputs.length = thin.outputs.length + surplus
  reads : (whole.transport.received, whole.inbound) = read
  thinReads : (thin.transport.received, thin.inbound) = thinRead
  destLink : thin.destLink = whole.destLink
  toDest : written .dest thin.outputs = written .dest whole.outputs
  dialed : World.dialed thin.outputs = World.dialed whole.outputs
  reached : start.loop.io.transport.sent.length ≤ whole.transport.sent.length
  thinReached : start.loop.io.transport.sent.length ≤ thin.transport.sent.length
  sealedAs : sealedSince start.loop.io.transport.sent.length thin.transport =
    (sealedSince start.loop.io.transport.sent.length whole.transport).filter isReal
  toClient : Squeezed isReal (linkCellLen 1) (sealedSince start.loop.io.transport.sent.length whole.transport)
    (start.wrote .client) (written .client whole.outputs).length (written .client thin.outputs).length

/-- No frame has been cut: the exit of the covered circuit has written all that it has sealed. -/
structure Abreast (start : Station Key) (surplus : Nat) (read thinRead : Nat × FrameAccumulator)
    (whole thin : CircuitIo Key) : Prop extends Alike start surplus read thinRead whole thin where
  answered : (written .client whole.outputs).length = start.wrote .client +
    linkCellLen 1 * (sealedSince start.loop.io.transport.sent.length whole.transport).length

/-- The same surroundings for a record that is shorter by `surplus`. -/
structure SameEnv (surplus : Nat) (env thinEnv : Env) : Prop where
  instant : thinEnv.instant = env.instant
  parseUrl : thinEnv.parseUrl = env.parseUrl
  dialSocks : thinEnv.dialSocks = env.dialSocks
  fault : forall index, thinEnv.fault index = env.fault (index + surplus)

variable {aead : NoiseAead Key} {cfg : RelayConfig} {env thinEnv : Env} {start : Station Key} {surplus : Nat}
  {read thinRead : Nat × FrameAccumulator} {whole thin : CircuitIo Key}

theorem Alike.fault (alike : Alike start surplus read thinRead whole thin) (same : SameEnv surplus env thinEnv) :
    thinEnv.fault thin.outputs.length = env.fault whole.outputs.length := by
  rw [same.fault, alike.record]

/-- An entry of the record that is written nowhere. -/
theorem coupled_emit (same : SameEnv surplus env thinEnv) {output : Output}
    (silent : forall sink, bytesTo sink output = []) :
    Program.Coupled (Abreast start surplus read thinRead) (fun _ => Alike start surplus read thinRead)
      (emit env output : CircuitM Key Unit) (emit thinEnv output) := by
  apply Program.coupled_modify
  intro whole thin abreast
  have record := abreast.record
  exact { abreast with
    record := by
      simp only [List.length_append, List.length_singleton]
      omega
    toDest := by simp [silent, abreast.toDest]
    dialed := by
      have before := abreast.dialed
      simp only [World.dialed] at before
      simp [World.dialed, before, same.instant]
    toClient := by simpa [silent] using abreast.toClient
    answered := by simpa [silent] using abreast.answered }

theorem coupled_writeDest (same : SameEnv surplus env thinEnv) (payload : Bytes) :
    Program.Coupled (Abreast start surplus read thinRead) (fun _ => Alike start surplus read thinRead)
      (write env .dest payload : CircuitM Key Unit) (write thinEnv .dest payload) := by
  intro whole thin abreast
  have record := abreast.record
  have before := abreast.dialed
  simp only [World.dialed] at before
  have after : Abreast start surplus read thinRead
      { whole with outputs := whole.outputs ++
        [(env.instant, put (env.fault whole.outputs.length) .dest payload)] }
      { thin with outputs := thin.outputs ++
        [(thinEnv.instant, put (env.fault whole.outputs.length) .dest payload)] } :=
    { abreast with
      record := by
        simp only [List.length_append, List.length_singleton]
        omega
      toDest := by simp [abreast.toDest]
      dialed := by
        cases env.fault whole.outputs.length with
        | none => simp [World.dialed, put, before]
        | some count => simp [World.dialed, put, before]
      toClient := by
        simp only [written_put_of_ne (show Sink.dest ≠ Sink.client by decide)]
        exact abreast.toClient
      answered := by
        simp only [written_put_of_ne (show Sink.dest ≠ Sink.client by decide)]
        exact abreast.answered }
  rw [write_eq, write_eq, abreast.fault same]
  cases fault : env.fault whole.outputs.length with
  | none =>
      rw [fault] at after
      exact .inl ⟨(), _, _, rfl, rfl, after⟩
  | some count =>
      rw [fault] at after
      exact .inr ⟨_, _, _, rfl, rfl, after.toAlike⟩

theorem length_encrypt_toMe {cell : Cell} (fits : cell.Fits) (key : Key) (counter : Nat) :
    (aead.encrypt key counter (toMePlain cell 1)).length = linkCellLen 1 := by
  rw [aead.length_encrypt]
  exact length_toMePlain fits 0

/-- The record after a write towards the client has what it had otherwise. -/
theorem dialed_put (outputs : List (Instant × Output)) (instant : Instant) (fault : Option Nat) (sink : Sink)
    (bytes : Bytes) : World.dialed (outputs ++ [(instant, put fault sink bytes)]) = World.dialed outputs := by
  cases fault with
  | none => simp [World.dialed, put]
  | some count => simp [World.dialed, put]

/-- A reply that is not a cover cell is made by both exits. -/
theorem Abreast.replies (abreast : Abreast start surplus read thinRead whole thin)
    (layers : inboundLayers cfg.role = 1) {cellType : CellType} {payload : Bytes}
    (small : payload.length ≤ cellPayloadLen) (real : Cell.mk cellType payload ≠ cover)
    (fault : thinEnv.fault thin.outputs.length = env.fault whole.outputs.length) :
    Program.Together (Abreast start surplus read thinRead) (fun _ => Alike start surplus read thinRead)
      ((reply aead cfg env cellType payload).run whole) ((reply aead cfg thinEnv cellType payload).run thin) := by
  have fits : (Cell.mk cellType payload).Fits := small
  have record := abreast.record
  have grown := abreast.toClient.grow [toMePlain ⟨cellType, payload⟩ 1]
  have kept : keptAt isReal
      (sealedSince start.loop.io.transport.sent.length whole.transport ++ [toMePlain ⟨cellType, payload⟩ 1])
      (sealedSince start.loop.io.transport.sent.length whole.transport).length = true := by
    simp [keptAt, isReal_toMePlain fits real]
  rw [reply_eq layers small, reply_eq layers small, fault]
  have after : Alike start surplus read thinRead
      (replying aead env.instant (env.fault whole.outputs.length) ⟨cellType, payload⟩ whole)
      (replying aead thinEnv.instant (env.fault whole.outputs.length) ⟨cellType, payload⟩ thin) :=
    { record := by
        simp only [replying, List.length_append, List.length_singleton]
        omega
      reads := abreast.reads
      thinReads := abreast.thinReads
      destLink := abreast.destLink
      toDest := by
        simp only [replying, written_put_of_ne (show Sink.client ≠ Sink.dest by decide)]
        exact abreast.toDest
      dialed := by
        simp only [replying, dialed_put]
        exact abreast.dialed
      reached := by
        simp only [replying, Transport.push_sent, List.length_append]
        exact Nat.le_trans abreast.reached (Nat.le_add_right _ _)
      thinReached := by
        simp only [replying, Transport.push_sent, List.length_append]
        exact Nat.le_trans abreast.thinReached (Nat.le_add_right _ _)
      sealedAs := by
        simp only [replying, sealedSince_push abreast.reached, sealedSince_push abreast.thinReached, List.filter_append,
          abreast.sealedAs, List.filter_cons_of_pos (isReal_toMePlain fits real), List.filter_nil]
      toClient := by
        simp only [replying, sealedSince_push abreast.reached, length_written_put, length_encrypt_toMe fits]
        exact grown.write abreast.answered kept (putLength_le _ _) }
  cases broken : env.fault whole.outputs.length with
  | none =>
      rw [broken] at after
      refine .inl ⟨(), _, _, rfl, rfl, { after with answered := ?_ }⟩
      simp only [replying, sealedSince_push abreast.reached, length_written_put, length_encrypt_toMe fits, putLength,
        abreast.answered, List.length_append, List.length_singleton, Nat.mul_succ]
      omega
  | some count =>
      rw [broken] at after
      exact .inr ⟨_, _, _, rfl, rfl, after⟩

/-- A cover cell is sealed by the exit of the covered circuit alone. -/
theorem Abreast.covers (abreast : Abreast start surplus read thinRead whole thin)
    (layers : inboundLayers cfg.role = 1) (sound : env.fault whole.outputs.length = none) :
    ∃ reached, (reply aead cfg env .data []).run whole = (.ok (), reached) ∧
      Abreast start (surplus + 1) read thinRead reached thin := by
  have record := abreast.record
  have small : ([] : Bytes).length ≤ cellPayloadLen := Nat.zero_le _
  have grown := abreast.toClient.grow [coverPlain]
  have skipped : keptAt isReal (sealedSince start.loop.io.transport.sent.length whole.transport ++ [coverPlain])
      (sealedSince start.loop.io.transport.sent.length whole.transport).length = false := by
    simp [keptAt, isReal_coverPlain]
  have plain : toMePlain ⟨.data, []⟩ 1 = coverPlain := rfl
  have size : (aead.encrypt whole.transport.key whole.transport.sent.length coverPlain).length = linkCellLen 1 :=
    length_encrypt_toMe cover_fits _ _
  rw [reply_eq layers small, sound, replying]
  refine ⟨_, rfl, ?_⟩
  exact {
    record := by
      simp only [List.length_append, List.length_singleton]
      omega
    reads := abreast.reads
    thinReads := abreast.thinReads
    destLink := abreast.destLink
    toDest := by
      simp only [written_put_of_ne (show Sink.client ≠ Sink.dest by decide)]
      exact abreast.toDest
    dialed := by
      simp only [dialed_put]
      exact abreast.dialed
    reached := by
      simp only [Transport.push_sent, List.length_append]
      exact Nat.le_trans abreast.reached (Nat.le_add_right _ _)
    thinReached := abreast.thinReached
    sealedAs := by
      simp only [plain, sealedSince_push abreast.reached, List.filter_append, abreast.sealedAs, List.filter_cons,
        isReal_coverPlain, Bool.false_eq_true, if_false, List.filter_nil, List.append_nil]
    toClient := by
      simp only [plain, sealedSince_push abreast.reached, length_written_put, putLength, size]
      exact grown.skip abreast.answered skipped (by simp)
    answered := by
      simp only [plain, sealedSince_push abreast.reached, length_written_put, putLength, size, abreast.answered,
        List.length_append, List.length_singleton, Nat.mul_succ]
      omega }

theorem Abreast.coversEach (abreast : Abreast start surplus read thinRead whole thin)
    (layers : inboundLayers cfg.role = 1) (pieces : Pieces) (count : Nat) :
    ∃ reached, (replyEach aead cfg env (List.replicate count (noFault, []) ++ pieces)).run whole =
        (replyEach aead cfg env pieces).run reached ∧
      Abreast start (surplus + count) read thinRead reached thin := by
  induction count generalizing surplus whole with
  | zero => exact ⟨whole, rfl, abreast⟩
  | succ count step =>
      rcases @Abreast.covers _ aead cfg { env with fault := noFault } _ _ _ _ _ _ abreast layers rfl with
        ⟨next, ran, covered⟩
      rcases step covered with ⟨reached, rest, after⟩
      rw [Nat.add_right_comm] at after
      refine ⟨reached, ?_, after⟩
      rw [List.replicate_succ, List.cons_append, replyEach, Program.run_bind_of_ok ran, rest]

/-- The chunks of one read are sealed by both exits, those of the covered circuit with cover
cells among them. -/
theorem Abreast.repliesEach (layers : inboundLayers cfg.role = 1) (same : SameEnv surplus env thinEnv)
    {chunks : List Bytes} (small : ∀ chunk ∈ chunks, chunk.length ≤ cellPayloadLen)
    (real : ∀ chunk ∈ chunks, chunk ≠ []) (inserted : Nat) (covers : List Nat)
    (abreast : Abreast start (surplus + inserted) read thinRead whole thin) :
    ∃ more, Program.Together (Abreast start more read thinRead) (fun _ => Alike start more read thinRead)
      ((replyEach aead cfg env (padded env.fault inserted covers chunks)).run whole)
      ((Relay.sendChunks aead cfg thinEnv chunks).run thin) := by
  induction chunks generalizing inserted covers whole thin with
  | nil => exact ⟨_, .inl ⟨(), whole, thin, rfl, rfl, abreast⟩⟩
  | cons chunk rest step =>
      have small' := List.forall_mem_cons.mp small
      have real' := List.forall_mem_cons.mp real
      have notCover : Cell.mk .data chunk ≠ cover := by
        intro isCover
        exact real'.1 (congrArg Cell.payload isCover)
      rcases @Abreast.coversEach _ aead cfg env _ _ _ _ _ _ abreast layers
        ((delayed (inserted + covers.headD 0) env.fault, chunk) ::
          padded env.fault (inserted + covers.headD 0) covers.tail rest) (covers.headD 0) with ⟨reached, ran, covered⟩
      rw [Nat.add_assoc] at covered
      have fault : thinEnv.fault thin.outputs.length =
          delayed (inserted + covers.headD 0) env.fault reached.outputs.length := by
        rw [same.fault, delayed, covered.record]
        congr 1
        omega
      rw [padded, ran, replyEach, Relay.sendChunks]
      rcases @Abreast.replies _ aead cfg { env with fault := delayed (inserted + covers.headD 0) env.fault } thinEnv _ _ _ _
        _ _ covered layers .data chunk small'.1 notCover fault with
        ⟨_, next, there, sent, thinSent, after⟩ | ⟨reason, next, there, sent, thinSent, after⟩
      · rw [Program.run_bind_of_ok sent, Program.run_bind_of_ok thinSent]
        exact step small'.2 real'.2 _ _ after
      · rw [Program.run_bind_of_error sent, Program.run_bind_of_error thinSent]
        exact ⟨_, .inr ⟨reason, next, there, rfl, rfl, after⟩⟩

theorem coupled_refuse {Value : Type} (reason : HandleError) :
    Program.Coupled (Abreast start surplus read thinRead) (fun _ => Alike start surplus read thinRead)
      (Program.fail reason : CircuitM Key Value) (Program.fail reason) :=
  Program.coupled_fail fun _ _ abreast => abreast.toAlike

/-- The two exits dial alike. -/
theorem coupled_dial (same : SameEnv surplus env thinEnv) (proxyUrl host : String) (port : UInt16) :
    Program.Coupled (Abreast start surplus read thinRead) (fun _ => Alike start surplus read thinRead)
      (dialViaSocks5 cfg env proxyUrl host port : CircuitM Key Unit) (dialViaSocks5 cfg thinEnv proxyUrl host port) := by
  rw [dialViaSocks5, dialViaSocks5, same.parseUrl]
  by_cases allowed : port ∉ cfg.allowedExitPorts
  · rw [if_pos allowed, if_pos allowed]
    exact coupled_refuse _
  rw [if_neg allowed, if_neg allowed]
  cases (env.parseUrl proxyUrl).bind proxyAddr with
  | none => exact coupled_refuse _
  | some addr =>
      refine Program.coupled_bind (coupled_emit same fun _ => rfl) fun _ => ?_
      rw [same.dialSocks]
      cases env.dialSocks with
      | connected => exact Program.coupled_pure ()
      | refused => exact coupled_refuse _
      | timedOut => exact coupled_refuse _

theorem coupled_onConnect (same : SameEnv surplus env thinEnv) (payload : Bytes) :
    Program.Coupled (Abreast start surplus read thinRead) (fun _ => Alike start surplus read thinRead)
      (onConnect cfg env payload : CircuitM Key Control) (onConnect cfg thinEnv payload) := by
  apply Program.coupled_get_bind
  intro whole thin abreast
  rw [abreast.destLink]
  split_ifs
  · exact coupled_refuse _
  refine Program.coupled_bind (Program.coupled_ofExcept (fun _ _ _ abreast => abreast.toAlike) _) fun connect => ?_
  cases cfg.decodoProxyUrl with
  | none => exact coupled_refuse _
  | some proxyUrl =>
      refine Program.coupled_bind (coupled_dial same _ _ _) fun _ => ?_
      refine Program.coupled_bind ?_ fun _ => Program.coupled_pure _
      exact Program.coupled_modify fun _ _ abreast => { abreast with destLink := rfl }

theorem coupled_onData (same : SameEnv surplus env thinEnv) (payload : Bytes) :
    Program.Coupled (Abreast start surplus read thinRead) (fun _ => Alike start surplus read thinRead)
      (onData cfg env payload : CircuitM Key Control) (onData cfg thinEnv payload) := by
  apply Program.coupled_get_bind
  intro whole thin abreast
  rw [abreast.destLink]
  split_ifs
  · exact Program.coupled_pure _
  · exact Program.coupled_bind (coupled_writeDest same payload) fun _ => Program.coupled_pure _
  · exact coupled_refuse _

theorem coupled_onCloseRequest (layers : inboundLayers cfg.role = 1) (same : SameEnv surplus env thinEnv) :
    Program.Coupled (Abreast start surplus read thinRead) (fun _ => Alike start surplus read thinRead)
      (onCloseRequest aead cfg env) (onCloseRequest aead cfg thinEnv) := by
  refine Program.coupled_bind ?_ fun _ => ?_
  · intro whole thin abreast
    exact abreast.replies layers (Nat.zero_le _) (by decide) (abreast.fault same)
  · refine Program.coupled_bind ?_ fun _ => Program.coupled_pure _
    exact Program.coupled_modify fun _ _ abreast => { abreast with destLink := rfl }

/-- The two exits act alike on a cell. -/
theorem coupled_onCell (role : cfg.role = .exit) (same : SameEnv surplus env thinEnv) (cell : Cell) :
    Program.Coupled (Abreast start surplus read thinRead) (fun _ => Alike start surplus read thinRead)
      (Relay.onCell aead cfg env cell) (Relay.onCell aead cfg thinEnv cell) := by
  have layers : inboundLayers cfg.role = 1 := by rw [role]; rfl
  rw [Relay.onCell, Relay.onCell, role]
  cases cell.cellType with
  | connect => exact coupled_onConnect same cell.payload
  | data => exact coupled_onData same cell.payload
  | closeRequest => exact coupled_onCloseRequest layers same
  | closeAck => exact coupled_refuse _
  | extend => exact coupled_refuse _

/-- The two exits read alike from the destination. -/
theorem Abreast.destTurns (layers : inboundLayers cfg.role = 1) (same : SameEnv surplus env thinEnv)
    (abreast : Abreast start surplus read thinRead whole thin) (covers : List Nat) (bytes : Bytes) :
    ∃ more, Program.Together (Abreast start more read thinRead) (fun _ => Alike start more read thinRead)
      ((destTurn aead cfg env covers bytes).run whole) ((Relay.turn aead cfg thinEnv (.destRead bytes)).run thin) := by
  rw [destTurn, Relay.turn, Program.run_get_bind, Program.run_get_bind, abreast.destLink, onDestRead]
  split_ifs
  · exact ⟨surplus, .inl ⟨_, _, _, rfl, rfl, { abreast with destLink := rfl }⟩⟩
  · rcases @Abreast.repliesEach _ aead cfg env thinEnv _ _ _ _ _ _ layers same
      (Stream.chunks cellPayloadLen (bytes.take destReadBuf)) (fun _ => Stream.length_le_of_mem_chunks)
      (fun _ => Stream.ne_nil_of_mem_chunks (by decide)) 0 covers abreast with
      ⟨more, ⟨_, reached, there, ran, thinRan, after⟩ | ⟨reason, reached, there, ran, thinRan, after⟩⟩
    · rw [Program.run_bind_of_ok ran, Program.run_bind_of_ok thinRan]
      exact ⟨more, .inl ⟨_, reached, there, rfl, rfl, after⟩⟩
    · rw [Program.run_bind_of_error ran, Program.run_bind_of_error thinRan]
      exact ⟨more, .inr ⟨reason, reached, there, rfl, rfl, after⟩⟩
  · exact ⟨surplus, .inl ⟨_, _, _, rfl, rfl, abreast⟩⟩

/-- On a cover cell the exit does nothing. -/
theorem onCell_cover (role : cfg.role = .exit) (io : CircuitIo Key) :
    (Relay.onCell aead cfg env cover).run io = (.ok .proceed, io) := by
  rw [Relay.onCell, role]
  rfl

end Exit

/-! ## Turns -/

/-- The exit of the covered circuit and its counterpart.  `out` is what the client has sealed. -/
structure ExitTallies {Key : Type} (out : List Bytes) (start whole thin : Station Key) : Prop where
  ended : thin.loop.ended = whole.loop.ended
  alike : ∃ surplus, Alike start surplus (whole.loop.io.transport.received, whole.loop.io.inbound)
    (thin.loop.io.transport.received, thin.loop.io.inbound) whole.loop.io thin.loop.io
  inbound : whole.loop.ended = none -> Reading (linkCellLen 1) out start.inboundEnd whole.inboundEnd thin.inboundEnd
  answered : whole.loop.ended = none -> whole.wrote .client = start.wrote .client +
    linkCellLen 1 * (sealedSince start.loop.io.transport.sent.length whole.loop.io.transport).length

namespace ExitTallies

variable {Key : Type} {out : List Bytes} {start whole thin : Station Key}

theorem grow (tallies : ExitTallies out start whole thin) (more : List Bytes) :
    ExitTallies (out ++ more) start whole thin :=
  { tallies with inbound := fun running => (tallies.inbound running).grow more }

theorem stop (tallies : ExitTallies out start whole thin) (result : Except HandleError Unit) :
    ExitTallies out start { whole with loop := { whole.loop with ended := some result } }
      { thin with loop := { thin.loop with ended := some result } } :=
  { tallies with
    ended := rfl
    inbound := fun running => by cases running
    answered := fun running => by cases running }

theorem stay (tallies : ExitTallies out start whole thin) (running : whole.loop.ended = none) :
    ExitTallies out start { whole with loop := ⟨whole.loop.io, none⟩ } { thin with loop := ⟨thin.loop.io, none⟩ } :=
  { tallies with
    ended := rfl
    inbound := fun _ => tallies.inbound running
    answered := fun _ => tallies.answered running }

/-- The record of the covered circuit is the longer one. -/
def surplus (whole thin : Station Key) : Nat :=
  whole.loop.io.outputs.length - thin.loop.io.outputs.length

theorem abreast (tallies : ExitTallies out start whole thin) (running : whole.loop.ended = none) :
    Abreast start (surplus whole thin) (whole.loop.io.transport.received, whole.loop.io.inbound)
      (thin.loop.io.transport.received, thin.loop.io.inbound) whole.loop.io thin.loop.io := by
  rcases tallies.alike with ⟨more, alike⟩
  have same : more = surplus whole thin := by
    have record := alike.record
    rw [surplus]
    omega
  subst same
  exact { alike with answered := tallies.answered running }

/-- Two exits that have run coupled programs. -/
theorem settled {surplus count taken nextTaken thinCount thinTaken thinNextTaken : Nat} {acc thinAcc : FrameAccumulator}
    {result thinResult : Except HandleError Control × CircuitIo Key}
    (reading : Reading (linkCellLen 1) out start.inboundEnd ⟨count, acc, taken⟩ ⟨thinCount, thinAcc, thinTaken⟩)
    (outcome : Program.Together (Abreast start surplus (count, acc) (thinCount, thinAcc))
      (fun _ => Alike start surplus (count, acc) (thinCount, thinAcc)) result thinResult) :
    ExitTallies out start ⟨CircuitLoop.settle result, taken, nextTaken⟩
      ⟨CircuitLoop.settle thinResult, thinTaken, thinNextTaken⟩ := by
  rcases outcome with ⟨control, reached, there, rfl, rfl, abreast⟩ | ⟨reason, reached, there, rfl, rfl, alike⟩
  · cases abreast.reads
    cases abreast.thinReads
    cases control with
    | proceed => exact ⟨rfl, ⟨surplus, abreast.toAlike⟩, fun _ => reading, fun _ => abreast.answered⟩
    | closed =>
        exact ⟨rfl, ⟨surplus, abreast.toAlike⟩, fun running => (by cases running), fun running => by cases running⟩
  · cases alike.reads
    cases alike.thinReads
    exact ⟨rfl, ⟨surplus, alike⟩, fun running => (by cases running), fun running => by cases running⟩

section Turns

variable {aead : NoiseAead Key} {cfg : RelayConfig} {env thinEnv : Env} {arrivals thinArrivals : Bytes} {count : Nat}

/-- Where the exit completes a frame, it peels to the cell sealed at that place. -/
def OpensCell (plains : List Bytes) (log : List Sealed) (start station : Station Key) (arrivals : Bytes) : Prop :=
  forall count frame, (station.loop.io.inbound.receive (station.inboundBytes arrivals count)).1 = some frame ->
    ∃ cell, cell.Fits ∧ plains[station.inboundEnd.count - start.inboundEnd.count]? = some (toMePlain cell 1) ∧
      peel log station.loop.io.transport frame 1 = (.ok (.toMe cell),
        { station.loop.io.transport with received := station.loop.io.transport.received + 1 })

theorem onInboundFrame_exit (role : cfg.role = .exit) {io : CircuitIo Key} {tx : Transport Key} {wire : Bytes}
    {cell : Cell} (peeled : peel env.peer io.transport wire 1 = (.ok (.toMe cell), tx)) (acc : FrameAccumulator) :
    (onInboundFrame aead cfg env wire).run { io with inbound := acc } = (Relay.onCell aead cfg env cell).run
      { io with transport := tx, inbound := acc, outputs := io.outputs ++ [(env.instant, .acted cell)] } := by
  have layers : inboundLayers cfg.role = 1 := by rw [role]; rfl
  apply onInboundFrame_toMe
  rw [layers]
  exact peeled

theorem inboundNothing (tallies : ExitTallies out start whole thin) (running : whole.loop.ended = none)
    (nothing : whole.inboundBytes arrivals count = []) :
    ExitTallies out start (whole.turn aead cfg env arrivals [] (.inbound count))
      (thin.turn aead cfg thinEnv thinArrivals [] (.inbound 0)) := by
  have thinRuns : thin.loop.ended = none := tallies.ended.trans running
  have thinNothing : thin.inboundBytes thinArrivals 0 = [] := Reading.nothing thin.inboundEnd thinArrivals
  rw [turn_ends running nothing, turn_ends thinRuns thinNothing]
  exact tallies.stop _

/-- A frame that is kept is read and acted on by both exits. -/
theorem inboundKept (tallies : ExitTallies out start whole thin) (running : whole.loop.ended = none)
    (role : cfg.role = .exit)
    (squeezed : Squeezed isReal (linkCellLen 1) out start.inboundTaken arrivals.length thinArrivals.length)
    (within : whole.inboundTaken ≤ arrivals.length) (opens : OpensCell out env.peer start whole arrivals)
    (thinOpens : OpensCell (out.filter isReal) thinEnv.peer start thin thinArrivals)
    (same : SameEnv (surplus whole thin) env thinEnv) (nonempty : whole.inboundBytes arrivals count ≠ [])
    (uncovered : (out[whole.inboundEnd.count - start.inboundEnd.count]? == some coverPlain) = false) :
    ExitTallies out start (whole.turn aead cfg env arrivals [] (.inbound count))
      (thin.turn aead cfg thinEnv thinArrivals [] (.inbound count)) := by
  have thinRuns : thin.loop.ended = none := tallies.ended.trans running
  have abreast := tallies.abreast running
  have reading := tallies.inbound running
  have kept := reading.kept squeezed nonempty uncovered
  have sameLength := reading.length_bytes squeezed within kept count
  have thinNonempty : thin.inboundBytes thinArrivals count ≠ [] := by
    rw [← List.length_pos_iff] at nonempty ⊢
    exact Nat.lt_of_lt_of_eq nonempty sameLength.symm
  rcases reading.step kept sameLength with ⟨after, ⟨none, thinNone⟩ | ⟨⟨frame, complete⟩, thinFrame, thinComplete⟩⟩
  · -- A part of the frame.
    rw [turn_reads running nonempty none, turn_reads thinRuns thinNonempty thinNone]
    simp only [ReadEnd.read, none, thinNone, Option.isSome_none, Bool.false_eq_true, if_false, Nat.add_zero] at after
    exact ⟨rfl, ⟨_, { abreast with reads := rfl, thinReads := rfl }⟩, fun _ => after, fun _ => tallies.answered running⟩
  · -- The whole frame: it holds the same cell in both circuits.
    rcases opens count frame complete with ⟨cell, fits, here, peeled⟩
    rcases thinOpens count thinFrame thinComplete with ⟨thinCell, thinFits, thinHere, thinPeeled⟩
    have real : isReal (toMePlain cell 1) = true := by
      simpa [keptAt, here] using kept
    have sameCell : cell = thinCell := by
      rw [reading.getElem?_thin here real] at thinHere
      exact toMePlain_inj fits thinFits (Option.some.inj thinHere)
    subst sameCell
    rw [turn_frame running nonempty complete, turn_frame thinRuns thinNonempty thinComplete,
      onInboundFrame_exit role peeled, onInboundFrame_exit role thinPeeled]
    simp only [ReadEnd.read, complete, thinComplete, Option.isSome_some, if_true] at after
    refine settled after (coupled_onCell role same cell _ _ ?_)
    have noted : forall sink, bytesTo sink (.acted cell) = [] := fun _ => rfl
    rcases coupled_emit same noted _ _ abreast with ⟨_, reached, there, ran, thinRan, next⟩ | ⟨_, _, _, ran, -⟩
    · cases ran
      cases thinRan
      exact { next with reads := rfl, thinReads := rfl }
    · cases ran

/-- The frame of a cover cell is read by the exit of the covered circuit alone, which does
nothing about it. -/
theorem inboundCover (tallies : ExitTallies out start whole thin) (running : whole.loop.ended = none)
    (role : cfg.role = .exit) (opens : OpensCell out env.peer start whole arrivals)
    (nonempty : whole.inboundBytes arrivals count ≠ [])
    (covered : (out[whole.inboundEnd.count - start.inboundEnd.count]? == some coverPlain) = true) :
    ExitTallies out start (whole.turn aead cfg env arrivals [] (.inbound count)) thin := by
  have thinRuns : thin.loop.ended = none := tallies.ended.trans running
  have abreast := tallies.abreast running
  have reading := tallies.inbound running
  have after := @Reading.pass _ _ _ _ _ arrivals reading covered count
  rcases @turn_inbound Key aead cfg env whole running arrivals [] count with
    ⟨empty, -⟩ | ⟨-, incomplete, turned⟩ | ⟨-, frame, complete, turned⟩
  · exact absurd empty nonempty
  · have inWhole : (whole.inboundEnd.acc.receive (whole.inboundEnd.bytes arrivals count)).1 = none := incomplete
    rw [turned]
    simp only [ReadEnd.read, inWhole, Option.isSome_none, Bool.false_eq_true, if_false, Nat.add_zero] at after
    exact ⟨thinRuns, ⟨_, { abreast with reads := rfl, thinReads := rfl }⟩, fun _ => after,
      fun _ => tallies.answered running⟩
  · have inWhole : (whole.inboundEnd.acc.receive (whole.inboundEnd.bytes arrivals count)).1 = some frame := complete
    rcases opens count frame complete with ⟨cell, fits, here, peeled⟩
    have isCover : cell = cover := by
      rw [here] at covered
      have plain : toMePlain cell 1 = coverPlain := by simpa using covered
      exact toMePlain_inj fits cover_fits plain
    subst isCover
    rw [turned, onInboundFrame_exit role peeled, onCell_cover role]
    simp only [ReadEnd.read, inWhole, Option.isSome_some, if_true] at after
    have record := abreast.record
    refine ⟨thinRuns, ⟨surplus whole thin + 1, ?_⟩, fun _ => after, fun _ => ?_⟩
    · exact { abreast with
        record := by
          simp only [CircuitLoop.settle, List.length_append, List.length_singleton]
          omega
        reads := rfl
        thinReads := rfl
        toDest := by simpa [CircuitLoop.settle, bytesTo] using abreast.toDest
        dialed := by
          have before := abreast.dialed
          simp only [World.dialed] at before
          simp [World.dialed, CircuitLoop.settle, before]
        toClient := by simpa [CircuitLoop.settle, bytesTo, sealedSince] using abreast.toClient }
    · have before := tallies.answered running
      simpa [Station.wrote, CircuitLoop.settle, bytesTo, sealedSince] using before

/-- What the two exits find on their links, and that each opens what was sealed for it. -/
structure Beside (out : List Bytes) (start whole thin : Station Key) (arrivals thinArrivals : Bytes)
    (log thinLog : List Sealed) : Prop where
  inbound : Squeezed isReal (linkCellLen 1) out start.inboundTaken arrivals.length thinArrivals.length
  unlinked : whole.loop.ended = none -> whole.loop.io.nextLink = none
  thinUnlinked : thin.loop.ended = none -> thin.loop.io.nextLink = none
  inboundWithin : whole.loop.ended = none -> whole.inboundTaken ≤ arrivals.length
  opens : whole.loop.ended = none -> OpensCell out log start whole arrivals
  thinOpens : thin.loop.ended = none -> OpensCell (out.filter isReal) thinLog start thin thinArrivals

/-- Every turn of the covered circuit's exit that does not read from the destination is matched
by the turn that is left of it. -/
theorem turn {back : List Bytes} {log thinLog : List Sealed} (tallies : ExitTallies out start whole thin)
    (beside : Beside out start whole thin arrivals thinArrivals log thinLog) (role : cfg.role = .exit)
    (peer : env.peer = log) (thinPeer : thinEnv.peer = thinLog) (event : RelayEvent)
    (other : forall bytes, event ≠ .dest bytes)
    (same : Station.readsCover out back start whole event = false -> SameEnv (surplus whole thin) env thinEnv) :
    ExitTallies out start (whole.turn aead cfg env arrivals [] event)
      ((Station.uncovered out back start whole arrivals [] event).elim thin
        (thin.turn aead cfg thinEnv thinArrivals [])) := by
  cases running : whole.loop.ended with
  | some result =>
      have thinEnded : thin.loop.ended = some result := tallies.ended.trans running
      rw [Station.turn_of_ended running]
      cases Station.uncovered out back start whole arrivals [] event with
      | none => exact tallies
      | some event =>
          simp only [Option.elim, Station.turn_of_ended thinEnded]
          exact tallies
  | none =>
      have thinRuns : thin.loop.ended = none := tallies.ended.trans running
      have unlinked := beside.unlinked running
      have thinUnlinked := beside.thinUnlinked thinRuns
      subst peer thinPeer
      cases event with
      | inbound count =>
          rw [Station.uncovered]
          split_ifs with nothing covered
          · rw [Option.elim_some]
            exact tallies.inboundNothing running (List.isEmpty_iff.mp nothing)
          · have nonempty := fun none => nothing (List.isEmpty_iff.mpr none)
            exact tallies.inboundCover running role (beside.opens running) nonempty covered
          · have nonempty := fun none => nothing (List.isEmpty_iff.mpr none)
            have uncovered := Bool.eq_false_iff.mpr covered
            rw [Option.elim_some]
            exact tallies.inboundKept running role beside.inbound (beside.inboundWithin running) (beside.opens running)
              (beside.thinOpens thinRuns) (same uncovered) nonempty uncovered
      | next count =>
          -- The exit has no next link, so the read finds nothing and nothing is done about it.
          have nothing : whole.nextBytes [] count = [] := by simp [Station.nextBytes]
          have thinNothing : thin.nextBytes [] 0 = [] := by simp [Station.nextBytes]
          simp only [Station.uncovered, Station.readsNothing, nothing, List.isEmpty_nil, if_true, RelayEvent.atEnd,
            Option.elim, Station.turn, running, thinRuns, CircuitLoop.step, Relay.turn, Program.run_get_bind, unlinked,
            thinUnlinked, thinNothing]
          exact tallies.stay running
      | inboundError error =>
          simp only [Station.uncovered, Station.readsNothing, Station.readsCover, Bool.false_eq_true, if_false,
            Option.elim, Station.turn, running, thinRuns, CircuitLoop.step]
          exact tallies.stop _
      | timeout =>
          simp only [Station.uncovered, Station.readsNothing, Station.readsCover, Bool.false_eq_true, if_false,
            Option.elim, Station.turn, running, thinRuns, CircuitLoop.step]
          exact tallies.stop _
      | nextError error =>
          simp only [Station.uncovered, Station.readsNothing, Station.readsCover, Bool.false_eq_true, if_false,
            Option.elim, Station.turn, running, thinRuns, CircuitLoop.step, Relay.turn, Program.run_get_bind, unlinked,
            thinUnlinked, Option.isSome_none]
          exact tallies.stay running
      | dest bytes => exact absurd rfl (other bytes)
      | destError error =>
          simp only [Station.uncovered, Station.readsNothing, Station.readsCover, Bool.false_eq_true, if_false,
            Option.elim, Station.turn, running, thinRuns, CircuitLoop.step, Relay.turn, Program.run_get_bind,
            (tallies.abreast running).destLink]
          cases whole.loop.io.destLink with
          | false => exact tallies.stay running
          | true => exact tallies.stop _

/-- A read from the destination, with cover cells among its chunks. -/
theorem destTurn (tallies : ExitTallies out start whole thin) (running : whole.loop.ended = none)
    (role : cfg.role = .exit) (same : SameEnv (surplus whole thin) env thinEnv) (covers : List Nat) (bytes : Bytes) :
    ExitTallies out start
      { whole with loop := CircuitLoop.settle ((Circuit.destTurn aead cfg env covers bytes).run whole.loop.io) }
      (thin.turn aead cfg thinEnv thinArrivals [] (.dest bytes)) := by
  have layers : inboundLayers cfg.role = 1 := by rw [role]; rfl
  have thinRuns : thin.loop.ended = none := tallies.ended.trans running
  rcases @Abreast.destTurns _ aead cfg env thinEnv _ _ _ _ _ _ layers same (tallies.abreast running) covers bytes with
    ⟨more, outcome⟩
  simp only [Station.turn, thinRuns, CircuitLoop.step]
  exact settled (tallies.inbound running) outcome

/-- A cover cell that the exit seals on its own. -/
theorem coverTurn (tallies : ExitTallies out start whole thin) (running : whole.loop.ended = none)
    (role : cfg.role = .exit) :
    ExitTallies out start
      { whole with
        loop := CircuitLoop.settle ((do
          replyEach aead cfg env [(noFault, [])]
          pure .proceed : CircuitM Key Control).run whole.loop.io) } thin := by
  have layers : inboundLayers cfg.role = 1 := by rw [role]; rfl
  have thinRuns : thin.loop.ended = none := tallies.ended.trans running
  rcases @Abreast.coversEach _ aead cfg env _ _ _ _ _ _ (tallies.abreast running) layers [] 1 with ⟨reached, ran, after⟩
  have finished : (replyEach aead cfg env [(noFault, [])]).run whole.loop.io = (.ok (), reached) := ran
  rw [Program.run_bind_of_ok finished]
  have thinSame : thin = { thin with loop := CircuitLoop.settle (.ok .proceed, thin.loop.io) } := by
    rw [CircuitLoop.settle, ← thinRuns]
  rw [thinSame]
  exact settled (tallies.inbound running) (.inl ⟨_, reached, thin.loop.io, rfl, rfl, after⟩)

end Turns
end ExitTallies

end Circuit
end QuietHop
