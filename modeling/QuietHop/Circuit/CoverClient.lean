import QuietHop.Circuit.CoverRelay

namespace QuietHop
namespace Circuit

open Lib Lib.Thinning Wire Client Relay

/-!
# The client with and without cover cells

The two clients have sealed the same cells for the exit, up to cover cells, and have handed the
same bytes to the user.  A cover cell from the exit is peeled by the client of the covered
circuit alone and does nothing.
-/

section Client

variable {Key : Type} {aead : NoiseAead Key} {env thinEnv : TaskEnv}

theorem sealedLayers_exit (layers : Layers Key) {cell : Cell} (fits : cell.Fits) :
    (sealedLayers aead layers cell).exit = layers.exit.push aead (toMePlain cell 1) := by
  rw [sealedLayers, Layers.sealForExit_of_fits aead layers fits]
  rfl

theorem length_sealedFrame (layers : Layers Key) {cell : Cell} (fits : cell.Fits) :
    (sealedFrame aead layers cell).length = linkCellLen clientLayers := by
  have inner : (Peeled.toMe cell).Legal 0 := fits
  have middle : (Peeled.forward (frameOf aead layers.exit 1 (.toMe cell))).Legal 1 :=
    ⟨Nat.one_pos, length_frameOf aead layers.exit inner⟩
  exact length_frameOf aead layers.guard ⟨Nat.two_pos, length_frameOf aead layers.middle middle⟩

theorem length_linkBytes_putLink (fault : Option Nat) (frame : Bytes) :
    (linkBytes (putLink fault frame)).length = putLength fault frame.length := by
  rw [(puts_putLink fault frame).toLink, length_putBytes]

@[simp] theorem userBytes_putLink (fault : Option Nat) (frame : Bytes) : userBytes (putLink fault frame) = [] :=
  (puts_putLink fault frame).toUser

/-! ## States -/

/-- The states of the two clients.  The record of the covered circuit is longer by `surplus`, and
what the two have read is fixed. -/
structure TaskAlike (start : TaskIo Key) (surplus : Nat) (read thinRead : Nat × FrameAccumulator)
    (whole thin : TaskIo Key) : Prop where
  record : whole.outputs.length = thin.outputs.length + surplus
  reads : (whole.layers.exit.received, whole.inbound) = read
  thinReads : (thin.layers.exit.received, thin.inbound) = thinRead
  toUser : thin.outputs.flatMap userBytes = whole.outputs.flatMap userBytes
  reached : start.layers.exit.sent.length ≤ whole.layers.exit.sent.length
  thinReached : start.layers.exit.sent.length ≤ thin.layers.exit.sent.length
  sealedAs : sealedSince start.layers.exit.sent.length thin.layers.exit =
    (sealedSince start.layers.exit.sent.length whole.layers.exit).filter isReal
  toLink : Squeezed isReal (linkCellLen clientLayers) (sealedSince start.layers.exit.sent.length whole.layers.exit)
    (start.outputs.flatMap linkBytes).length (whole.outputs.flatMap linkBytes).length
    (thin.outputs.flatMap linkBytes).length

/-- No frame has been cut: the client of the covered circuit has written all that it has
sealed. -/
structure TaskAbreast (start : TaskIo Key) (surplus : Nat) (read thinRead : Nat × FrameAccumulator)
    (whole thin : TaskIo Key) : Prop extends TaskAlike start surplus read thinRead whole thin where
  sent : (whole.outputs.flatMap linkBytes).length = (start.outputs.flatMap linkBytes).length +
    linkCellLen clientLayers * (sealedSince start.layers.exit.sent.length whole.layers.exit).length

/-- How the two tasks leave their loops: the link has failed, or CLOSE_REQUEST can still be
written, and is in both or in neither. -/
inductive Leaves (start : TaskIo Key) (surplus : Nat) (env thinEnv : TaskEnv) (read thinRead : Nat × FrameAccumulator) :
    Break -> TaskIo Key -> TaskIo Key -> Prop where
  | lost {whole thin : TaskIo Key} (alike : TaskAlike start surplus read thinRead whole thin) :
      Leaves start surplus env thinEnv read thinRead .linkWrite whole thin
  | sound {whole thin : TaskIo Key} {reason : Break} (other : reason ≠ .linkWrite)
      (abreast : TaskAbreast start surplus read thinRead whole thin)
      (fault : thinEnv.fault thin.outputs.length = env.fault whole.outputs.length) :
      Leaves start surplus env thinEnv read thinRead reason whole thin

variable {start whole thin : TaskIo Key} {surplus : Nat} {read thinRead : Nat × FrameAccumulator}

theorem TaskAlike.fault (alike : TaskAlike start surplus read thinRead whole thin)
    (same : forall index, thinEnv.fault index = env.fault (index + surplus)) :
    thinEnv.fault thin.outputs.length = env.fault whole.outputs.length := by
  rw [same, alike.record]

/-- A cell that is not a cover cell is sealed by both clients. -/
theorem TaskAbreast.seals (abreast : TaskAbreast start surplus read thinRead whole thin) {cell : Cell} (fits : cell.Fits)
    (real : cell ≠ cover) (fault : Option Nat) :
    TaskAlike start surplus read thinRead (sealing aead fault cell whole) (sealing aead fault cell thin) where
  record := by
    have record := abreast.record
    simp only [sealing, List.length_append, List.length_singleton]
    omega
  reads := by
    simp only [sealing, sealedLayers_exit _ fits]
    exact abreast.reads
  thinReads := by
    simp only [sealing, sealedLayers_exit _ fits]
    exact abreast.thinReads
  toUser := by simp [sealing, abreast.toUser]
  reached := by
    simp only [sealing, sealedLayers_exit _ fits, Transport.push_sent, List.length_append]
    exact Nat.le_trans abreast.reached (Nat.le_add_right _ _)
  thinReached := by
    simp only [sealing, sealedLayers_exit _ fits, Transport.push_sent, List.length_append]
    exact Nat.le_trans abreast.thinReached (Nat.le_add_right _ _)
  sealedAs := by
    simp only [sealing, sealedLayers_exit _ fits, sealedSince_push abreast.reached,
      sealedSince_push abreast.thinReached, List.filter_append, abreast.sealedAs,
      List.filter_cons_of_pos (isReal_toMePlain fits real), List.filter_nil]
  toLink := by
    have kept : keptAt isReal (sealedSince start.layers.exit.sent.length whole.layers.exit ++ [toMePlain cell 1])
        (sealedSince start.layers.exit.sent.length whole.layers.exit).length = true := by
      simp [keptAt, isReal_toMePlain fits real]
    simp only [sealing, sealedLayers_exit _ fits, sealedSince_push abreast.reached, List.flatMap_append,
      List.flatMap_singleton, List.length_append, length_linkBytes_putLink, length_sealedFrame _ fits]
    exact (abreast.toLink.grow [toMePlain cell 1]).write abreast.sent kept (putLength_le _ _)

theorem TaskAbreast.sends (abreast : TaskAbreast start surplus read thinRead whole thin) {cell : Cell} (fits : cell.Fits)
    (real : cell ≠ cover) :
    TaskAbreast start surplus read thinRead (sealing aead none cell whole) (sealing aead none cell thin) :=
  { abreast.seals fits real none with
    sent := by
      simp only [sealing, sealedLayers_exit _ fits, sealedSince_push abreast.reached, List.flatMap_append,
        List.flatMap_singleton, List.length_append, length_linkBytes_putLink, length_sealedFrame _ fits, putLength,
        abreast.sent, List.length_singleton, Nat.mul_succ]
      omega }

/-- A cover cell is sealed by the client of the covered circuit alone. -/
theorem TaskAbreast.covers (abreast : TaskAbreast start surplus read thinRead whole thin) :
    TaskAbreast start (surplus + 1) read thinRead (sealing aead none cover whole) thin := by
  have plain : toMePlain cover 1 = coverPlain := rfl
  have skipped : keptAt isReal (sealedSince start.layers.exit.sent.length whole.layers.exit ++ [coverPlain])
      (sealedSince start.layers.exit.sent.length whole.layers.exit).length = false := by
    simp [keptAt, isReal_coverPlain]
  exact {
    record := by
      have record := abreast.record
      simp only [sealing, List.length_append, List.length_singleton]
      omega
    reads := by
      simp only [sealing, sealedLayers_exit _ cover_fits]
      exact abreast.reads
    thinReads := abreast.thinReads
    toUser := by simp [sealing, abreast.toUser]
    reached := by
      simp only [sealing, sealedLayers_exit _ cover_fits, Transport.push_sent, List.length_append]
      exact Nat.le_trans abreast.reached (Nat.le_add_right _ _)
    thinReached := abreast.thinReached
    sealedAs := by
      simp only [sealing, sealedLayers_exit _ cover_fits, plain, sealedSince_push abreast.reached, List.filter_append,
        abreast.sealedAs, List.filter_cons, isReal_coverPlain, Bool.false_eq_true, if_false, List.filter_nil,
        List.append_nil]
    toLink := by
      simp only [sealing, sealedLayers_exit _ cover_fits, plain, sealedSince_push abreast.reached, List.flatMap_append,
        List.flatMap_singleton, List.length_append, length_linkBytes_putLink, length_sealedFrame _ cover_fits, putLength]
      exact (abreast.toLink.grow [coverPlain]).skip abreast.sent skipped (by simp)
    sent := by
      simp only [sealing, sealedLayers_exit _ cover_fits, plain, sealedSince_push abreast.reached, List.flatMap_append,
        List.flatMap_singleton, List.length_append, length_linkBytes_putLink, length_sealedFrame _ cover_fits, putLength,
        abreast.sent, List.length_singleton, Nat.mul_succ]
      omega }

/-- Both tasks seal CLOSE_REQUEST for a link that has failed. -/
theorem TaskAlike.loses (alike : TaskAlike start surplus read thinRead whole thin) :
    TaskAlike start surplus read thinRead { whole with layers := sealedLayers aead whole.layers closing }
      { thin with layers := sealedLayers aead thin.layers closing } where
  record := alike.record
  reads := by
    rw [sealedLayers_exit _ closing_fits]
    exact alike.reads
  thinReads := by
    rw [sealedLayers_exit _ closing_fits]
    exact alike.thinReads
  toUser := alike.toUser
  reached := by
    simp only [sealedLayers_exit _ closing_fits, Transport.push_sent, List.length_append]
    exact Nat.le_trans alike.reached (Nat.le_add_right _ _)
  thinReached := by
    simp only [sealedLayers_exit _ closing_fits, Transport.push_sent, List.length_append]
    exact Nat.le_trans alike.thinReached (Nat.le_add_right _ _)
  sealedAs := by
    simp only [sealedLayers_exit _ closing_fits, sealedSince_push alike.reached, sealedSince_push alike.thinReached,
      List.filter_append, alike.sealedAs, List.filter_cons_of_pos (isReal_toMePlain closing_fits (by decide)),
      List.filter_nil]
  toLink := by
    simp only [sealedLayers_exit _ closing_fits, sealedSince_push alike.reached]
    exact alike.toLink.grow [toMePlain closing 1]

/-- What the two teardowns leave. -/
theorem Leaves.teardown {reason : Break} (leaves : Leaves start surplus env thinEnv read thinRead reason whole thin) :
    TaskAlike start surplus read thinRead (Client.teardown aead env reason whole)
      (Client.teardown aead thinEnv reason thin) := by
  cases leaves with
  | lost alike =>
      rw [teardown_lost, teardown_lost]
      exact alike.loses
  | sound other abreast fault =>
      rw [teardown_eq other, teardown_eq other, fault]
      exact abreast.seals closing_fits (by decide) _

/-! ## Programs -/

theorem TaskAbreast.coversEach (abreast : TaskAbreast start surplus read thinRead whole thin) (logs : PeerLogs)
    (pieces : Pieces) (count : Nat) :
    ∃ reached, (sendEach aead logs (List.replicate count (noFault, []) ++ pieces)).run whole =
        (sendEach aead logs pieces).run reached ∧
      TaskAbreast start (surplus + count) read thinRead reached thin := by
  induction count generalizing surplus whole with
  | zero => exact ⟨whole, rfl, abreast⟩
  | succ count step =>
      have sent := @sendChunk_eq Key aead ⟨logs, noFault⟩ [] (Nat.zero_le _) whole
      rcases step (@TaskAbreast.covers Key aead _ _ _ _ _ _ abreast) with ⟨reached, rest, after⟩
      rw [Nat.add_right_comm] at after
      refine ⟨reached, ?_, after⟩
      rw [List.replicate_succ, List.cons_append, sendEach, Program.run_bind_of_ok sent]
      exact rest

/-- The chunks of one read are sealed by both clients, those of the covered circuit with cover
cells among them. -/
theorem TaskAbreast.sendsEach (same : forall index, thinEnv.fault index = env.fault (index + surplus))
    {chunks : List Bytes} (small : ∀ chunk ∈ chunks, chunk.length ≤ cellPayloadLen)
    (real : ∀ chunk ∈ chunks, chunk ≠ []) (inserted : Nat) (covers : List Nat)
    (abreast : TaskAbreast start (surplus + inserted) read thinRead whole thin) :
    ∃ more, Program.Together (TaskAbreast start more read thinRead) (Leaves start more env thinEnv read thinRead)
      ((sendEach aead env.logs (padded env.fault inserted covers chunks)).run whole)
      ((Client.sendChunks aead thinEnv chunks).run thin) := by
  induction chunks generalizing inserted covers whole thin with
  | nil => exact ⟨_, .inl ⟨(), whole, thin, rfl, rfl, abreast⟩⟩
  | cons chunk rest step =>
      have small' := List.forall_mem_cons.mp small
      have real' := List.forall_mem_cons.mp real
      have fits : (Cell.mk .data chunk).Fits := small'.1
      have notCover : Cell.mk .data chunk ≠ cover := by
        intro isCover
        exact real'.1 (congrArg Cell.payload isCover)
      rcases @TaskAbreast.coversEach Key aead _ _ _ _ _ _ abreast env.logs
        ((delayed (inserted + covers.headD 0) env.fault, chunk) ::
          padded env.fault (inserted + covers.headD 0) covers.tail rest) (covers.headD 0) with ⟨reached, ran, covered⟩
      rw [Nat.add_assoc] at covered
      have fault : delayed (inserted + covers.headD 0) env.fault reached.outputs.length =
          thinEnv.fault thin.outputs.length := by
        rw [same, delayed, covered.record]
        congr 1
        omega
      have sent := @sendChunk_eq Key aead ⟨env.logs, delayed (inserted + covers.headD 0) env.fault⟩ chunk small'.1 reached
      have thinSent := @sendChunk_eq Key aead thinEnv chunk small'.1 thin
      simp only [fault] at sent
      rw [padded, ran, sendEach, Client.sendChunks]
      cases broken : thinEnv.fault thin.outputs.length with
      | none =>
          rw [broken] at sent thinSent
          rw [Program.run_bind_of_ok sent, Program.run_bind_of_ok thinSent]
          exact step small'.2 real'.2 _ _ (covered.sends fits notCover)
      | some count =>
          rw [broken] at sent thinSent
          rw [Program.run_bind_of_error sent, Program.run_bind_of_error thinSent]
          exact ⟨_, .inr ⟨_, _, _, rfl, rfl, .lost (covered.seals fits notCover _)⟩⟩

/-- The two clients read alike from the user. -/
theorem TaskAbreast.userTurns (abreast : TaskAbreast start surplus read thinRead whole thin)
    (same : forall index, thinEnv.fault index = env.fault (index + surplus)) (covers : List Nat) (bytes : Bytes) :
    ∃ more, Program.Together (TaskAbreast start more read thinRead) (Leaves start more env thinEnv read thinRead)
      ((userTurn aead env covers bytes).run whole) ((taskTurn aead thinEnv (.userRead bytes)).run thin) := by
  rw [userTurn, taskTurn]
  split_ifs
  · exact ⟨surplus, .inr ⟨_, _, _, rfl, rfl, .sound (by simp) abreast (abreast.fault same)⟩⟩
  · exact TaskAbreast.sendsEach same (fun _ => Stream.length_le_of_mem_chunks)
      (fun _ => Stream.ne_nil_of_mem_chunks (by decide)) 0 covers abreast

/-- The two clients act alike on a cell. -/
theorem TaskAbreast.actsOn (abreast : TaskAbreast start surplus read thinRead whole thin)
    (same : forall index, thinEnv.fault index = env.fault (index + surplus)) (cell : Cell) :
    Program.Together (TaskAbreast start surplus read thinRead) (Leaves start surplus env thinEnv read thinRead)
      ((Client.onCell env cell).run whole) ((Client.onCell thinEnv cell).run thin) := by
  have record := abreast.record
  -- The same byte counts for a record that is longer by one entry that is not written to the link.
  have handed : forall fault, TaskAbreast start surplus read thinRead
      { whole with outputs := whole.outputs ++ [putUser fault cell.payload] }
      { thin with outputs := thin.outputs ++ [putUser fault cell.payload] } := fun fault =>
    { abreast with
      record := by
        simp only [List.length_append, List.length_singleton]
        omega
      toUser := by simp [abreast.toUser]
      toLink := by simpa using abreast.toLink
      sent := by simpa using abreast.sent }
  rw [Client.onCell, Client.onCell]
  cases cell.cellType with
  | data =>
      simp only
      split_ifs
      · exact .inl ⟨(), whole, thin, rfl, rfl, abreast⟩
      rw [writeUser_eq, writeUser_eq, abreast.fault same]
      cases broken : env.fault whole.outputs.length with
      | none => exact .inl ⟨(), _, _, rfl, rfl, handed none⟩
      | some count =>
          refine .inr ⟨_, _, _, rfl, rfl, .sound (by simp) (handed (some count)) ?_⟩
          exact (handed (some count)).fault same
  | connect => exact .inr ⟨_, _, _, rfl, rfl, .sound (by simp) abreast (abreast.fault same)⟩
  | closeRequest => exact .inr ⟨_, _, _, rfl, rfl, .sound (by simp) abreast (abreast.fault same)⟩
  | closeAck => exact .inr ⟨_, _, _, rfl, rfl, .sound (by simp) abreast (abreast.fault same)⟩
  | extend => exact .inr ⟨_, _, _, rfl, rfl, .sound (by simp) abreast (abreast.fault same)⟩

end Client

/-! ## Turns -/

/-- The client's task and how much it has read of its link. -/
structure Terminal (Key : Type) where
  task : CircuitTask Key
  taken : Nat

namespace Terminal

variable {Key : Type}

def inboundEnd (terminal : Terminal Key) : ReadEnd :=
  ⟨terminal.task.io.layers.exit.received, terminal.task.io.inbound, terminal.taken⟩

def bytes (terminal : Terminal Key) (arrivals : Bytes) (count : Nat) : Bytes :=
  terminal.inboundEnd.bytes arrivals count

/-- One read of the link. -/
def link (aead : NoiseAead Key) (env : TaskEnv) (terminal : Terminal Key) (arrivals : Bytes) (count : Nat) :
    Terminal Key :=
  match terminal.task.ended with
  | some _ => terminal
  | none =>
      ⟨terminal.task.step aead env (.linkRead (terminal.bytes arrivals count)),
        terminal.taken + (terminal.bytes arrivals count).length⟩

theorem link_of_running {aead : NoiseAead Key} {env : TaskEnv} {terminal : Terminal Key}
    (running : terminal.task.ended = none) (arrivals : Bytes) (count : Nat) :
    terminal.link aead env arrivals count =
      ⟨concluded aead env ((taskTurn aead env (.linkRead (terminal.bytes arrivals count))).run terminal.task.io),
        terminal.taken + (terminal.bytes arrivals count).length⟩ := by
  simp only [link, CircuitTask.step, running]
  rfl

end Terminal

/-- The client of the covered circuit and its counterpart.  `back` is what the exit has sealed. -/
structure ClientTallies {Key : Type} (back : List Bytes) (start whole thin : Terminal Key) : Prop where
  ended : thin.task.ended = whole.task.ended
  alike : ∃ surplus, TaskAlike start.task.io surplus (whole.task.io.layers.exit.received, whole.task.io.inbound)
    (thin.task.io.layers.exit.received, thin.task.io.inbound) whole.task.io thin.task.io
  inbound : whole.task.ended = none ->
    Reading (linkCellLen clientLayers) back start.inboundEnd whole.inboundEnd thin.inboundEnd
  sent : whole.task.ended = none ->
    (whole.task.io.outputs.flatMap linkBytes).length = (start.task.io.outputs.flatMap linkBytes).length +
      linkCellLen clientLayers *
        (sealedSince start.task.io.layers.exit.sent.length whole.task.io.layers.exit).length

namespace ClientTallies

variable {Key : Type} {back : List Bytes} {start whole thin : Terminal Key}

theorem grow (tallies : ClientTallies back start whole thin) (more : List Bytes) :
    ClientTallies (back ++ more) start whole thin :=
  { tallies with inbound := fun running => (tallies.inbound running).grow more }

/-- The record of the covered circuit is the longer one. -/
def surplus (whole thin : Terminal Key) : Nat :=
  whole.task.io.outputs.length - thin.task.io.outputs.length

theorem abreast (tallies : ClientTallies back start whole thin) (running : whole.task.ended = none) :
    TaskAbreast start.task.io (surplus whole thin) (whole.task.io.layers.exit.received, whole.task.io.inbound)
      (thin.task.io.layers.exit.received, thin.task.io.inbound) whole.task.io thin.task.io := by
  rcases tallies.alike with ⟨more, alike⟩
  have same : more = surplus whole thin := by
    have record := alike.record
    rw [surplus]
    omega
  subst same
  exact { alike with sent := tallies.sent running }

section Turns

variable {aead : NoiseAead Key} {env thinEnv : TaskEnv}

/-- Two tasks that have run programs side by side. -/
theorem concluded {more count taken thinCount thinTaken : Nat} {acc thinAcc : FrameAccumulator}
    {result thinResult : Except Break Unit × TaskIo Key}
    (reading : Reading (linkCellLen clientLayers) back start.inboundEnd ⟨count, acc, taken⟩
      ⟨thinCount, thinAcc, thinTaken⟩)
    (outcome : Program.Together (TaskAbreast start.task.io more (count, acc) (thinCount, thinAcc))
      (Leaves start.task.io more env thinEnv (count, acc) (thinCount, thinAcc)) result thinResult) :
    ClientTallies back start ⟨Circuit.concluded aead env result, taken⟩
      ⟨Circuit.concluded aead thinEnv thinResult, thinTaken⟩ := by
  rcases outcome with ⟨_, reached, there, rfl, rfl, abreast⟩ | ⟨reason, reached, there, rfl, rfl, leaves⟩
  · cases abreast.reads
    cases abreast.thinReads
    exact ⟨rfl, ⟨more, abreast.toTaskAlike⟩, fun _ => reading, fun _ => abreast.sent⟩
  · have alike := @Leaves.teardown _ aead _ _ _ _ _ _ _ _ _ leaves
    have here := alike
    rw [← alike.reads, ← alike.thinReads] at here
    exact ⟨rfl, ⟨more, here⟩, fun running => (by cases running), fun running => by cases running⟩

/-- A read from the user, with cover cells among its chunks. -/
theorem userTurn (tallies : ClientTallies back start whole thin) (running : whole.task.ended = none)
    (same : forall index, thinEnv.fault index = env.fault (index + surplus whole thin)) (covers : List Nat)
    (bytes : Bytes) :
    ClientTallies back start
      ⟨Circuit.concluded aead env ((Circuit.userTurn aead env covers bytes).run whole.task.io), whole.taken⟩
      ⟨thin.task.step aead thinEnv (.userRead bytes), thin.taken⟩ := by
  have thinRuns : thin.task.ended = none := tallies.ended.trans running
  rcases @TaskAbreast.userTurns _ aead env thinEnv _ _ _ _ _ _ (tallies.abreast running) same covers bytes with
    ⟨more, outcome⟩
  simp only [CircuitTask.step, thinRuns]
  exact concluded (tallies.inbound running) outcome

/-- The link fails at both clients. -/
theorem linkFails (tallies : ClientTallies back start whole thin)
    (same : forall index, thinEnv.fault index = env.fault (index + surplus whole thin)) :
    ClientTallies back start ⟨whole.task.step aead env .linkError, whole.taken⟩
      ⟨thin.task.step aead thinEnv .linkError, thin.taken⟩ := by
  cases running : whole.task.ended with
  | some reason =>
      have thinEnded : thin.task.ended = some reason := tallies.ended.trans running
      simp only [CircuitTask.step, running, thinEnded]
      exact tallies
  | none =>
      have thinRuns : thin.task.ended = none := tallies.ended.trans running
      have abreast := tallies.abreast running
      simp only [CircuitTask.step, running, thinRuns]
      exact concluded (tallies.inbound running)
        (.inr ⟨.linkRead, _, _, rfl, rfl, .sound (by simp) abreast (abreast.fault same)⟩)

/-- Both clients seal a cell that is not a cover cell, and write it. -/
theorem sends (tallies : ClientTallies back start whole thin) (running : whole.task.ended = none) {cell : Cell}
    (fits : cell.Fits) (real : cell ≠ cover) :
    ClientTallies back start ⟨⟨sealing aead none cell whole.task.io, none⟩, whole.taken⟩
      ⟨⟨sealing aead none cell thin.task.io, none⟩, thin.taken⟩ := by
  have unused : TaskEnv := ⟨⟨[], [], []⟩, noFault⟩
  exact @concluded _ _ start aead unused unused _ _ _ _ _ _ _ (.ok (), _) (.ok (), _) (tallies.inbound running)
    (.inl ⟨(), _, _, rfl, rfl, (tallies.abreast running).sends fits real⟩)

/-- A cover cell that the client seals on its own. -/
theorem coverTurn (tallies : ClientTallies back start whole thin) (running : whole.task.ended = none) :
    ClientTallies back start
      ⟨Circuit.concluded aead env ((sendEach aead env.logs [(noFault, [])]).run whole.task.io), whole.taken⟩ thin := by
  have thinRuns : thin.task.ended = none := tallies.ended.trans running
  rcases @TaskAbreast.coversEach _ aead _ _ _ _ _ _ (tallies.abreast running) env.logs [] 1 with ⟨reached, ran, after⟩
  have finished : (sendEach aead env.logs [(noFault, [])]).run whole.task.io = (.ok (), reached) := ran
  have thinSame : thin = ⟨Circuit.concluded aead env (.ok (), thin.task.io), thin.taken⟩ := by
    rw [Circuit.concluded, ← thinRuns]
  rw [finished, thinSame]
  exact concluded (tallies.inbound running) (.inl ⟨(), reached, thin.task.io, rfl, rfl, after⟩)

/-- Where the client completes a frame, it peels to the cell sealed at that place. -/
def OpensCell (plains : List Bytes) (logs : PeerLogs) (start terminal : Terminal Key) (arrivals : Bytes) : Prop :=
  forall count frame, (terminal.task.io.inbound.receive (terminal.bytes arrivals count)).1 = some frame ->
    ∃ cell, cell.Fits ∧ plains[terminal.inboundEnd.count - start.inboundEnd.count]? = some (toMePlain cell 1) ∧
      terminal.task.io.layers.peelInbound logs frame = (.ok cell, World.reread terminal.task.io.layers
        (terminal.task.io.layers.guard.received + 1) (terminal.task.io.layers.middle.received + 1)
        (terminal.task.io.layers.exit.received + 1))

variable {arrivals thinArrivals : Bytes} {count : Nat}

theorem linkNothing (tallies : ClientTallies back start whole thin) (running : whole.task.ended = none)
    (same : forall index, thinEnv.fault index = env.fault (index + surplus whole thin))
    (nothing : whole.bytes arrivals count = []) :
    ClientTallies back start (whole.link aead env arrivals count) (thin.link aead thinEnv thinArrivals 0) := by
  have thinRuns : thin.task.ended = none := tallies.ended.trans running
  have abreast := tallies.abreast running
  have thinNothing : thin.bytes thinArrivals 0 = [] := Reading.nothing thin.inboundEnd thinArrivals
  rw [Terminal.link_of_running running, Terminal.link_of_running thinRuns, nothing, thinNothing]
  exact concluded (tallies.inbound running)
    (.inr ⟨.linkRead, _, _, rfl, rfl, .sound (by simp) abreast (abreast.fault same)⟩)

/-- A frame that is kept is read and acted on by both clients. -/
theorem linkKept (tallies : ClientTallies back start whole thin) (running : whole.task.ended = none)
    (squeezed : Squeezed isReal (linkCellLen clientLayers) back start.taken arrivals.length thinArrivals.length)
    (within : whole.taken ≤ arrivals.length) (opens : OpensCell back env.logs start whole arrivals)
    (thinOpens : OpensCell (back.filter isReal) thinEnv.logs start thin thinArrivals)
    (same : forall index, thinEnv.fault index = env.fault (index + surplus whole thin))
    (nonempty : whole.bytes arrivals count ≠ [])
    (uncovered : (back[whole.inboundEnd.count - start.inboundEnd.count]? == some coverPlain) = false) :
    ClientTallies back start (whole.link aead env arrivals count) (thin.link aead thinEnv thinArrivals count) := by
  have thinRuns : thin.task.ended = none := tallies.ended.trans running
  have abreast := tallies.abreast running
  have reading := tallies.inbound running
  have kept := reading.kept squeezed nonempty uncovered
  have sameLength := reading.length_bytes squeezed within kept count
  have thinNonempty : thin.bytes thinArrivals count ≠ [] := by
    rw [← List.length_pos_iff] at nonempty ⊢
    exact Nat.lt_of_lt_of_eq nonempty sameLength.symm
  rw [Terminal.link_of_running running, Terminal.link_of_running thinRuns]
  rcases reading.step kept sameLength with
    ⟨after, ⟨incomplete, thinIncomplete⟩ | ⟨⟨frame, complete⟩, thinFrame, thinComplete⟩⟩
  · -- A part of the frame.
    simp only [ReadEnd.read, incomplete, thinIncomplete, Option.isSome_none, Bool.false_eq_true, if_false,
      Nat.add_zero] at after
    rw [linkTurn_none nonempty incomplete, linkTurn_none thinNonempty thinIncomplete]
    exact concluded after (.inl ⟨(), _, _, rfl, rfl, { abreast with reads := rfl, thinReads := rfl }⟩)
  · -- The whole frame: it holds the same cell in both circuits.
    rcases opens count frame complete with ⟨cell, fits, here, peeled⟩
    rcases thinOpens count thinFrame thinComplete with ⟨thinCell, thinFits, thinHere, thinPeeled⟩
    have real : isReal (toMePlain cell 1) = true := by
      simpa [keptAt, here] using kept
    have sameCell : cell = thinCell := by
      rw [reading.getElem?_thin here real] at thinHere
      exact toMePlain_inj fits thinFits (Option.some.inj thinHere)
    subst sameCell
    simp only [ReadEnd.read, complete, thinComplete, Option.isSome_some, if_true] at after
    rw [linkTurn_some nonempty complete peeled, linkTurn_some thinNonempty thinComplete thinPeeled]
    refine concluded after (TaskAbreast.actsOn ?_ same cell)
    exact { abreast with reads := rfl, thinReads := rfl }

/-- The frame of a cover cell is read by the client of the covered circuit alone, which does
nothing about it. -/
theorem linkCover (tallies : ClientTallies back start whole thin) (running : whole.task.ended = none)
    (opens : OpensCell back env.logs start whole arrivals) (nonempty : whole.bytes arrivals count ≠ [])
    (covered : (back[whole.inboundEnd.count - start.inboundEnd.count]? == some coverPlain) = true) :
    ClientTallies back start (whole.link aead env arrivals count) thin := by
  have thinRuns : thin.task.ended = none := tallies.ended.trans running
  have abreast := tallies.abreast running
  have reading := tallies.inbound running
  have after := @Reading.pass _ _ _ _ _ arrivals reading covered count
  have thinSame : thin = ⟨Circuit.concluded aead env (.ok (), thin.task.io), thin.taken⟩ := by
    rw [Circuit.concluded, ← thinRuns]
  rw [Terminal.link_of_running running, thinSame]
  cases received : (whole.task.io.inbound.receive (whole.bytes arrivals count)).1 with
  | none =>
      have inWhole : (whole.inboundEnd.acc.receive (whole.inboundEnd.bytes arrivals count)).1 = none := received
      simp only [ReadEnd.read, inWhole, Option.isSome_none, Bool.false_eq_true, if_false, Nat.add_zero] at after
      rw [linkTurn_none nonempty received]
      exact concluded after (.inl ⟨(), _, _, rfl, rfl, { abreast with reads := rfl, thinReads := rfl }⟩)
  | some frame =>
      have inWhole : (whole.inboundEnd.acc.receive (whole.inboundEnd.bytes arrivals count)).1 = some frame := received
      rcases opens count frame received with ⟨cell, fits, here, peeled⟩
      have isCover : cell = cover := by
        rw [here] at covered
        have plain : toMePlain cell 1 = coverPlain := by simpa using covered
        exact toMePlain_inj fits cover_fits plain
      subst isCover
      simp only [ReadEnd.read, inWhole, Option.isSome_some, if_true] at after
      rw [linkTurn_some nonempty received peeled]
      exact concluded after (.inl ⟨(), _, _, rfl, rfl, { abreast with reads := rfl, thinReads := rfl }⟩)

/-- What the two clients find on their links, and that each opens what was sealed for it. -/
structure Beside (back : List Bytes) (start whole thin : Terminal Key) (arrivals thinArrivals : Bytes)
    (logs thinLogs : PeerLogs) : Prop where
  inbound : Squeezed isReal (linkCellLen clientLayers) back start.taken arrivals.length thinArrivals.length
  inboundWithin : whole.task.ended = none -> whole.taken ≤ arrivals.length
  opens : whole.task.ended = none -> OpensCell back logs start whole arrivals
  thinOpens : thin.task.ended = none -> OpensCell (back.filter isReal) thinLogs start thin thinArrivals

/-- Every read of the link is matched by what is left of it. -/
theorem link (tallies : ClientTallies back start whole thin)
    (beside : Beside back start whole thin arrivals thinArrivals env.logs thinEnv.logs)
    (same : forall index, thinEnv.fault index = env.fault (index + surplus whole thin)) (count : Nat) :
    ClientTallies back start (whole.link aead env arrivals count)
      (if (whole.bytes arrivals count).isEmpty then thin.link aead thinEnv thinArrivals 0
      else if back[whole.inboundEnd.count - start.inboundEnd.count]? == some coverPlain then thin
      else thin.link aead thinEnv thinArrivals count) := by
  cases running : whole.task.ended with
  | some reason =>
      have thinEnded : thin.task.ended = some reason := tallies.ended.trans running
      simp only [Terminal.link, running, thinEnded, ite_self]
      exact tallies
  | none =>
      have thinRuns : thin.task.ended = none := tallies.ended.trans running
      split_ifs with nothing covered
      · exact tallies.linkNothing running same (List.isEmpty_iff.mp nothing)
      · have nonempty := fun none => nothing (List.isEmpty_iff.mpr none)
        exact tallies.linkCover running (beside.opens running) nonempty covered
      · have nonempty := fun none => nothing (List.isEmpty_iff.mpr none)
        exact tallies.linkKept running beside.inbound (beside.inboundWithin running) (beside.opens running)
          (beside.thinOpens thinRuns) same nonempty (Bool.eq_false_iff.mpr covered)

end Turns
end ClientTallies
end Circuit
end QuietHop
