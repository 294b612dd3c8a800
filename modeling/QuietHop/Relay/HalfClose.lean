import QuietHop.Relay.Destination

namespace QuietHop
namespace Relay

open Lib Net Registry Wire

/-!
# Half-close at the exit

DATA cells are written to the destination in the order in which they arrive, and what the
destination sends goes to the client.  When the destination has closed its write half the
circuit lives on.  But with the connection gone there is nothing left to write to, and the next
DATA cell that is not empty ends the circuit.
-/

/-! ## Writing to the destination -/

def Output.wroteTo (sink : Sink) : Output -> Option Bytes
  | .wrote other bytes => if other = sink then some bytes else none
  | _ => none

/-- What has been written to a sink, write by write. -/
def writes (sink : Sink) (outputs : List (Instant × Output)) : List Bytes :=
  outputs.filterMap fun entry => entry.2.wroteTo sink

def Output.destination : Output -> Option (String × UInt16)
  | .dialedDest host port => some (host, port)
  | _ => none

/-- The destinations dialed, in order. -/
def destinations (outputs : List (Instant × Output)) : List (String × UInt16) :=
  outputs.filterMap fun entry => entry.2.destination

section Writing

variable {Key : Type} {aead : NoiseAead Key} {cfg : RelayConfig} {env : Env}

/-- Payloads have been written to the destination, and it is still the same one. -/
structure Delivers (payloads : List Bytes) (before after : CircuitIo Key) : Prop where
  written : writes .dest after.outputs = writes .dest before.outputs ++ payloads
  same : destinations after.outputs = destinations before.outputs

theorem Delivers.trans {first second third : CircuitIo Key} {early late : List Bytes}
    (head : Delivers early first second) (tail : Delivers late second third) : Delivers (early ++ late) first third where
  written := by rw [tail.written, head.written, List.append_assoc]
  same := tail.same.trans head.same

theorem delivers_of_outputs {before after : CircuitIo Key} (same : after.outputs = before.outputs) :
    Delivers [] before after where
  written := by rw [same, List.append_nil]
  same := by rw [same]

theorem Delivers.push {before after : CircuitIo Key} {payloads : List Bytes} (delivers : Delivers payloads before after)
    (instant : Instant) (output : Output) (undialed : output.destination = none) :
    Delivers (payloads ++ (output.wroteTo .dest).toList) before
      { after with outputs := after.outputs ++ [(instant, output)] } where
  written := by
    have last : writes .dest [(instant, output)] = (output.wroteTo .dest).toList := by
      cases written : output.wroteTo .dest <;> simp [writes, written]
    rw [writes, List.filterMap_append, ← List.append_assoc, ← delivers.written, ← last]
    rfl
  same := by
    rw [← delivers.same]
    simp [destinations, undialed]

/-- What is sent to the client is not written to the destination. -/
theorem Sends.delivers {before after : CircuitIo Key} (sends : Sends (TowardsClient cfg) before after) :
    Delivers [] before after := by
  rcases sends.outputs with ⟨added, grown, towards⟩
  have unwritten : writes .dest added = [] := by
    apply List.filterMap_eq_nil_iff.mpr
    intro entry member
    rcases towards entry member with ⟨frame, -, same | ⟨count, same⟩⟩
    · rw [same]
      rfl
    · rw [same]
      rfl
  have undialed : destinations added = [] := by
    apply List.filterMap_eq_nil_iff.mpr
    intro entry member
    rcases towards entry member with ⟨frame, -, same | ⟨count, same⟩⟩
    · rw [same]
      rfl
    · rw [same]
      rfl
  constructor
  · rw [grown, writes, List.filterMap_append]
    exact congrArg _ unwritten
  · rw [grown, destinations, List.filterMap_append]
    exact (congrArg _ undialed).trans (List.append_nil _)

theorem write_failsWith (sink : Sink) (bytes : Bytes) :
    Program.FailsWith Interrupts (write env sink bytes : CircuitM Key Unit) := by
  intro io reason failed
  simp only [write, Program.run_get_bind] at failed
  split at failed
  · cases failed
  · cases failed
    trivial

/-- Sealing a cell that fits cannot fail, so a reply can only break off. -/
theorem reply_failsWith {cellType : CellType} {payload : Bytes} (small : payload.length ≤ cellPayloadLen) :
    Program.FailsWith Interrupts (reply aead cfg env cellType payload) := by
  rcases inboundLayers_succ cfg.role with ⟨depth, layers⟩
  have fits : (Cell.mk cellType payload).Fits := small
  have sealing : Program.FailsWith Interrupts
      (onTransport (sealToMe aead · ⟨cellType, payload⟩ (inboundLayers cfg.role)) : CircuitM Key Bytes) := by
    intro io reason failed
    simp only [onTransport, layers, sealToMe_of_fits aead io.transport fits depth] at failed
    cases failed
  intro io reason failed
  rw [reply, Cell.new_of_le small] at failed
  exact Program.failsWith_bind sealing (fun framed => write_failsWith .client framed) io reason failed

theorem sendChunks_failsWith {pieces : List Bytes} (small : ∀ piece ∈ pieces, piece.length ≤ cellPayloadLen) :
    Program.FailsWith Interrupts (sendChunks aead cfg env pieces) := by
  induction pieces with
  | nil => exact Program.failsWith_pure ()
  | cons piece rest ih =>
      refine Program.failsWith_bind (reply_failsWith (small piece List.mem_cons_self)) fun _ => ?_
      exact ih fun other member => small other (List.mem_cons_of_mem _ member)

/-- What may arrive after CONNECT: DATA and CLOSE_REQUEST cells, what the destination
sends, and the end of a stream or of the patience with it. -/
def Arrival.Interleaved : Arrival -> Prop
  | .nothing => True
  | .peeled (.toMe cell) => cell.cellType = .data ∨ cell.cellType = .closeRequest
  | .destination _ => True
  | .fails reason => Interrupts reason
  | _ => False

/-- The circuit breaks off with nothing more delivered. -/
def Breaks (io : CircuitIo Key) (reason : HandleError) (after : CircuitIo Key) : Prop :=
  Interrupts reason ∧ Delivers [] io after

variable {io : CircuitIo Key}

theorem meets_of_towards {Value : Type} {program : CircuitM Key Value}
    (sends : Program.Keeps (Sends (TowardsClient cfg)) program) (fails : Program.FailsWith Interrupts program) :
    Program.Meets (Delivers [] io) program (fun _ => Delivers [] io) (Breaks io) := by
  intro begun before
  have sent := (sends begun).delivers
  rcases result : program.run begun with ⟨outcome, after⟩
  rw [result] at sent
  cases outcome with
  | ok value => exact before.trans sent
  | error reason => exact ⟨fails begun reason (by rw [result]), before.trans sent⟩

theorem note_delivers (cell : Cell) :
    Program.Meets (· = io) (emit env (.acted cell) : CircuitM Key Unit)
      (fun _ begun => Delivers [] io begun ∧ begun.destLink = io.destLink) (Breaks io) := by
  apply Program.meets_modify
  rintro begun rfl
  exact ⟨(delivers_of_outputs rfl).push env.instant (.acted cell) rfl, rfl⟩

/-- A write that breaks off has delivered nothing. -/
theorem writeDest_delivers (payload : Bytes) :
    Program.Meets (Delivers [] io) (write env .dest payload) (fun _ => Delivers [payload] io) (Breaks io) := by
  intro begun before
  simp only [write, Program.run_get_bind]
  cases env.fault begun.outputs.length with
  | none => exact before.push env.instant (.wrote .dest payload) rfl
  | some count => exact ⟨trivial, before.push env.instant (.cut .dest payload count) rfl⟩

/-- What was found has been delivered, and the circuit is closed only if that was asked for. -/
def Handles (io : CircuitIo Key) (found : Arrival) (control : Control) (after : CircuitIo Key) : Prop :=
  Delivers found.data.toList io after ∧ (control = .closed -> ∃ payload, found = .peeled (.toMe ⟨.closeRequest, payload⟩))

theorem onData_handles {payload : Bytes}
    (connected : (Arrival.peeled (.toMe ⟨.data, payload⟩)).data ≠ none -> io.destLink = true) :
    Program.Meets (fun begun => Delivers [] io begun ∧ begun.destLink = io.destLink) (onData cfg env payload)
      (Handles io (.peeled (.toMe ⟨.data, payload⟩))) (Breaks io) := by
  refine Program.meets_get_bind fun begun before => ?_
  cases payload with
  | nil => exact Program.meets_pure fun _ same => ⟨same ▸ before.1, fun closes => by cases closes⟩
  | cons byte rest =>
      have wrote : Program.Meets (· = begun) (write env .dest (byte :: rest)) (fun _ => Delivers [byte :: rest] io)
          (Breaks io) :=
        Program.meets_conseq (fun _ same => same ▸ before.1) (writeDest_delivers (byte :: rest))
      simp only [List.isEmpty_cons, Bool.false_eq_true, if_false, before.2, connected (by simp [Arrival.data]), if_true]
      refine Program.meets_bind wrote fun _ => Program.meets_pure ?_
      exact fun _ delivered => ⟨delivered, fun closes => by cases closes⟩

theorem onCloseRequest_handles (payload : Bytes) :
    Program.Meets (Delivers [] io) (onCloseRequest aead cfg env)
      (Handles io (.peeled (.toMe ⟨.closeRequest, payload⟩))) (Breaks io) := by
  refine Program.meets_bind (meets_of_towards (reply_sends _ _) (reply_failsWith (Nat.zero_le _))) fun _ => ?_
  exact fun after delivers => ⟨⟨delivers.written, delivers.same⟩, fun _ => ⟨payload, rfl⟩⟩

theorem onDestRead_handles (bytes : Bytes) :
    Program.Meets (Delivers [] io) (onDestRead aead cfg env bytes) (Handles io (.destination bytes)) (Breaks io) := by
  cases bytes with
  | nil => exact fun after delivers => ⟨⟨delivers.written, delivers.same⟩, fun closes => by cases closes⟩
  | cons byte rest =>
      have small : Program.FailsWith Interrupts
          (sendChunks aead cfg env (Stream.chunks cellPayloadLen (byte :: rest))) :=
        sendChunks_failsWith fun _ => Stream.length_le_of_mem_chunks
      refine Program.meets_bind (meets_of_towards (sendChunks_sends _) small) fun _ => Program.meets_pure ?_
      exact fun _ delivers => ⟨delivers, fun closes => by cases closes⟩

/-- A turn on what may arrive delivers what it carries or breaks off. -/
theorem act_handles (isExit : cfg.role = .exit) {found : Arrival} (interleaved : found.Interleaved)
    (connected : found.data ≠ none -> io.destLink = true) :
    Program.Meets (· = io) (act aead cfg env found) (Handles io found) (Breaks io) := by
  have unchanged (begun : CircuitIo Key) (same : begun = io) : Delivers [] io begun :=
    delivers_of_outputs (by rw [same])
  cases found with
  | nothing => exact Program.meets_pure fun begun same => ⟨unchanged begun same, fun closes => by cases closes⟩
  | peeled item =>
      cases item with
      | forward blob => exact interleaved.elim
      | toMe cell =>
          rcases cell with ⟨cellType, payload⟩
          refine Program.meets_bind (note_delivers _) fun _ => ?_
          rcases interleaved with rfl | rfl
          · have toExit : onCell aead cfg env ⟨.data, payload⟩ = onData cfg env payload := by
              simp only [onCell, isExit]
            rw [toExit]
            exact onData_handles connected
          · exact Program.meets_conseq (fun _ noted => noted.1) (onCloseRequest_handles payload)
  | nextFrame blob => exact interleaved.elim
  | destination bytes => exact Program.meets_conseq unchanged (onDestRead_handles bytes)
  | fails reason => exact Program.meets_fail fun begun same => ⟨interleaved, unchanged begun same⟩

end Writing

/-! ## Half-close -/

section HalfClose

variable {Key : Type} {aead : NoiseAead Key} {cfg : RelayConfig} {env : Env}

theorem dialViaSocks5_ok {io after : CircuitIo Key} {proxyUrl host : String} {port : UInt16}
    (dialed : (dialViaSocks5 cfg env proxyUrl host port).run io = (.ok (), after)) :
    after = { io with outputs := io.outputs ++ [(env.instant, .dialedDest host port)] } := by
  rw [dialViaSocks5] at dialed
  by_cases allowed : port ∉ cfg.allowedExitPorts
  · rw [if_pos allowed] at dialed
    cases dialed
  rw [if_neg allowed] at dialed
  cases proxy : (env.parseUrl proxyUrl).bind proxyAddr with
  | none =>
      rw [proxy] at dialed
      cases dialed
  | some addr =>
      rw [proxy] at dialed
      cases socks : env.dialSocks with
      | connected =>
          simp only [socks] at dialed
          exact (Prod.mk.inj dialed).2.symm
      | refused =>
          simp only [socks] at dialed
          cases dialed
      | timedOut =>
          simp only [socks] at dialed
          cases dialed

/-- A CONNECT that succeeds has dialed the destination it names. -/
theorem onConnect_ok {io after : CircuitIo Key} {payload : Bytes} {control : Control}
    (connects : (onConnect cfg env payload).run io = (.ok control, after)) :
    ∃ target, ConnectPayload.decode payload = .ok target ∧
      after = { io with outputs := io.outputs ++ [(env.instant, .dialedDest target.host target.port)], destLink := true } := by
  cases wanted : dialFor cfg io.destLink payload with
  | error reason =>
      rw [onConnect_refuses wanted] at connects
      cases connects
  | ok call =>
      rcases call with ⟨proxyUrl, target⟩
      rw [onConnect_dials wanted] at connects
      refine ⟨target, decode_of_dialFor wanted, ?_⟩
      rcases result : (dialViaSocks5 cfg env proxyUrl target.host target.port).run io with ⟨outcome, reached⟩
      cases outcome with
      | error reason =>
          rw [Program.run_bind_of_error result] at connects
          cases connects
      | ok value =>
          rw [Program.run_bind_of_ok result, dialViaSocks5_ok result] at connects
          exact (Prod.mk.inj connects).2.symm

namespace CircuitLoop

variable {circuit after : CircuitLoop Key}

theorem step_connects {next : Env × Ready} {payload : Bytes} (isExit : cfg.role = .exit)
    (found : (takeIn cfg next.1 circuit.io next.2).1 = .peeled (.toMe ⟨.connect, payload⟩))
    (stepped : circuit.step aead cfg next.1 next.2 = after) (running : after.ended = none) :
    after.io.destLink = true ∧ ∃ target, ConnectPayload.decode payload = .ok target ∧
      destinations after.io.outputs = destinations circuit.io.outputs ++ [(target.host, target.port)] := by
  have begun : circuit.ended = none := by
    cases ended : circuit.ended with
    | none => rfl
    | some result =>
        rw [step_of_ended ended] at stepped
        rw [← stepped, ended] at running
        cases running
  rw [step_of_running begun, found, act_toMe, onCell_connect isExit] at stepped
  rw [← stepped] at running
  rcases onConnect_ok (eq_of_settle running) with ⟨target, decoded, reached⟩
  rw [← stepped, reached]
  refine ⟨rfl, target, decoded, ?_⟩
  simp [destinations, Output.destination, takeIn_outputs]

/-- The payloads of the DATA cells found. -/
def payloads (found : List Arrival) : List Bytes :=
  found.filterMap Arrival.data

theorem payloads_singleton (found : Arrival) : payloads [found] = found.data.toList := by
  cases carried : found.data <;> simp [payloads, carried]

/-- Where a run has come: the circuit is alive or closed on request with every payload written to
the one destination, or broken off. -/
inductive Kept (io : CircuitIo Key) (found : List Arrival) (after : CircuitLoop Key) : Prop where
  | alive (running : after.ended = none) (delivers : Delivers (payloads found) io after.io)
  | closed (payload : Bytes) (ended : after.ended = some (.ok ()))
      (asked : .peeled (.toMe ⟨.closeRequest, payload⟩) ∈ found)
      (delivers : Delivers (payloads found) io after.io)
  | broken (reason : HandleError) (delivered : List Bytes) (ended : after.ended = some (.error reason))
      (interrupts : Interrupts reason) (part : delivered <+: payloads found)
      (delivers : Delivers delivered io after.io)

theorem Kept.cons {io between : CircuitIo Key} {first : Arrival} {rest : List Arrival}
    (head : Delivers (payloads [first]) io between) (tail : Kept between rest after) : Kept io (first :: rest) after := by
  have split : payloads (first :: rest) = payloads [first] ++ payloads rest :=
    @List.filterMap_append _ _ [first] rest Arrival.data
  cases tail with
  | alive running delivers => exact .alive running (split ▸ head.trans delivers)
  | closed payload ended asked delivers =>
      exact .closed payload ended (List.mem_cons_of_mem _ asked) (split ▸ head.trans delivers)
  | broken reason delivered ended interrupts part delivers =>
      refine .broken reason _ ended interrupts ?_ (head.trans delivers)
      rw [split]
      exact (List.prefix_append_right_inj _).mpr part

/-- After the destination has closed there is no DATA but empty cells. -/
def NoLaterData (found : List Arrival) : Prop :=
  found.Pairwise fun earlier later => earlier = .destination [] -> later.data = none

/-- One turn delivers, closes on request or breaks off. -/
theorem step_kept {next : Env × Ready} (isExit : cfg.role = .exit) (running : circuit.ended = none)
    (interleaved : (takeIn cfg next.1 circuit.io next.2).1.Interleaved)
    (connected : (takeIn cfg next.1 circuit.io next.2).1.data ≠ none -> circuit.io.destLink = true) :
    Kept circuit.io [(takeIn cfg next.1 circuit.io next.2).1] (circuit.step aead cfg next.1 next.2) := by
  have still : (takeIn cfg next.1 circuit.io next.2).2.destLink = circuit.io.destLink := takeIn_destLink ..
  have begun : Delivers [] circuit.io (takeIn cfg next.1 circuit.io next.2).2 := delivers_of_outputs (takeIn_outputs ..)
  have handles := @act_handles Key aead cfg next.1 _ isExit _ interleaved (fun carries => still.trans (connected carries))
    _ rfl
  rw [step_of_running running]
  rcases result : (act aead cfg next.1 (takeIn cfg next.1 circuit.io next.2).1).run
    (takeIn cfg next.1 circuit.io next.2).2 with ⟨outcome, io⟩
  rw [result] at handles
  cases outcome with
  | error reason => exact .broken reason [] rfl handles.1 List.nil_prefix (begun.trans handles.2)
  | ok control =>
      have all : Delivers (payloads [(takeIn cfg next.1 circuit.io next.2).1]) circuit.io io := by
        rw [payloads_singleton]
        exact begun.trans handles.1
      cases control with
      | proceed => exact .alive rfl all
      | closed =>
          rcases handles.2 rfl with ⟨payload, asked⟩
          exact .closed payload rfl (asked ▸ List.mem_singleton_self _) all

theorem run_kept {turns : List (Env × Ready)} (isExit : cfg.role = .exit) (running : circuit.ended = none)
    (interleaved : ∀ found ∈ circuit.arrivals aead cfg turns, found.Interleaved)
    (ready : circuit.io.destLink = true ∨ ∀ found ∈ circuit.arrivals aead cfg turns, found.data = none)
    (later : NoLaterData (circuit.arrivals aead cfg turns)) :
    Kept circuit.io (circuit.arrivals aead cfg turns) (circuit.run aead cfg turns) := by
  induction turns generalizing circuit with
  | nil => exact .alive running (delivers_of_outputs rfl)
  | cons next rest ih =>
      rw [arrivals_cons running] at interleaved ready later ⊢
      rw [run_cons]
      have connected : (takeIn cfg next.1 circuit.io next.2).1.data ≠ none -> circuit.io.destLink = true := by
        intro carries
        rcases ready with connected | empty
        · exact connected
        · exact absurd (empty _ List.mem_cons_self) carries
      have kept := @step_kept Key aead cfg circuit next isExit running (interleaved _ List.mem_cons_self) connected
      cases kept with
      | closed payload ended asked delivers =>
          rw [run_of_ended ended, arrivals_of_ended ended]
          exact .closed payload ended asked delivers
      | broken reason delivered ended interrupts part delivers =>
          rw [run_of_ended ended, arrivals_of_ended ended]
          exact .broken reason delivered ended interrupts part delivers
      | alive still delivers =>
          have ready : (circuit.step aead cfg next.1 next.2).io.destLink = true ∨
              ∀ found ∈ (circuit.step aead cfg next.1 next.2).arrivals aead cfg rest, found.data = none := by
            rcases ready with connected | empty
            swap
            · exact .inr fun found member => empty found (List.mem_cons_of_mem _ member)
            by_cases closes : (takeIn cfg next.1 circuit.io next.2).1 = .destination []
            · exact .inr fun found member => (List.pairwise_cons.mp later).1 found member closes
            · exact .inl (by rw [step_destLink running still, connected, Arrival.leaves_true closes])
          have tail := ih still (fun found member => interleaved found (List.mem_cons_of_mem _ member)) ready
            (List.pairwise_cons.mp later).2
          exact tail.cons delivers

end CircuitLoop

end HalfClose

namespace Sample

/-- DATA, and then the destination closes. -/
def dataFirst : List (Env × Ready) :=
  [(exitEnv [connectCell, ⟨.data, [104]⟩], .inboundRead (frame ⟨.data, [104]⟩)),
    (exitEnv [connectCell, ⟨.data, [104]⟩], .destRead [])]

/-- The exit after CONNECT. -/
def connected : CircuitLoop Unit :=
  exitStart.step (Aead.zeroTag noiseTagLen) exitConfig (exitEnv [connectCell]) (.inboundRead (frame connectCell))

end Sample

end Relay
end QuietHop
