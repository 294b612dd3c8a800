import QuietHop.Relay.Circuit

namespace QuietHop
namespace Relay

open Lib Net Registry Wire

/-!
# What a turn finds

A turn of the loop takes in what its source yields and then acts on it.  Taking in moves a
frame reader and the receive counter and does nothing else.  What is found is of one of a few
kinds, so that a statement about turns is a statement about each kind.
-/

inductive Arrival where
  /-- No whole frame yet, or a branch that is not ready. -/
  | nothing
  | peeled (item : Peeled)
  | nextFrame (blob : Bytes)
  /-- A read of the destination; no bytes is the end of its stream. -/
  | destination (bytes : Bytes)
  | fails (reason : HandleError)
  deriving DecidableEq

section Turns

variable {Key : Type} (aead : NoiseAead Key) (cfg : RelayConfig) (env : Env)

def takeInFrame (io : CircuitIo Key) (bytes : Bytes) : Arrival × CircuitIo Key :=
  match io.inbound.receive bytes with
  | (none, acc) => (.nothing, { io with inbound := acc })
  | (some frame, acc) =>
      match peel env.peer io.transport frame (inboundLayers cfg.role) with
      | (.error reason, tx) => (.fails (.layer reason), { io with inbound := acc, transport := tx })
      | (.ok item, tx) => (.peeled item, { io with inbound := acc, transport := tx })

def takeInNext (io : CircuitIo Key) (acc : FrameAccumulator) (bytes : Bytes) : Arrival × CircuitIo Key :=
  match acc.receive bytes with
  | (none, acc) => (.nothing, { io with nextLink := some acc })
  | (some frame, acc) => (.nextFrame frame, { io with nextLink := some acc })

/-- What a turn finds, and the state it then acts in. -/
def takeIn (io : CircuitIo Key) : Ready -> Arrival × CircuitIo Key
  | .inboundRead bytes => if bytes.isEmpty then (.fails (.io .unexpectedEof), io) else takeInFrame cfg env io bytes
  | .inboundError error => (.fails (.io error), io)
  | .timeout => (.fails .timeout, io)
  | .nextRead bytes =>
      match io.nextLink with
      | none => (.nothing, io)
      | some acc => if bytes.isEmpty then (.fails (.io .unexpectedEof), io) else takeInNext io acc bytes
  | .nextError error => (if io.nextLink.isSome then .fails (.io error) else .nothing, io)
  | .destRead bytes => (if io.destLink then .destination (bytes.take destReadBuf) else .nothing, io)
  | .destError error => (if io.destLink then .fails (.io error) else .nothing, io)

def act : Arrival -> CircuitM Key Control
  | .nothing => pure .proceed
  | .peeled item => onPeeled aead cfg env item
  | .nextFrame blob => onNextFrame aead cfg env blob
  | .destination bytes => onDestRead aead cfg env bytes
  | .fails reason => Program.fail reason

theorem whenFrame_run (received : Option Bytes × FrameAccumulator)
    (store : FrameAccumulator -> CircuitIo Key -> CircuitIo Key) (handle : Bytes -> CircuitM Key Control)
    (io : CircuitIo Key) :
    (whenFrame received store handle).run io =
      match received.1 with
      | none => (.ok .proceed, store received.2 io)
      | some frame => (handle frame).run (store received.2 io) := by
  rcases received with ⟨frame, acc⟩
  cases frame <;> rfl

theorem onInboundFrame_run (io : CircuitIo Key) (frame : Bytes) :
    (onInboundFrame aead cfg env frame).run io =
      match peel env.peer io.transport frame (inboundLayers cfg.role) with
      | (.error reason, tx) => (.error (.layer reason), { io with transport := tx })
      | (.ok item, tx) => (onPeeled aead cfg env item).run { io with transport := tx } := by
  rcases result : peel env.peer io.transport frame (inboundLayers cfg.role) with ⟨outcome, tx⟩
  cases outcome with
  | error reason => exact Program.run_bind_of_error (by simp only [onTransport, result])
  | ok item => exact Program.run_bind_of_ok (by simp only [onTransport, result])

theorem turn_run (io : CircuitIo Key) (ready : Ready) :
    (turn aead cfg env ready).run io = (act aead cfg env (takeIn cfg env io ready).1).run (takeIn cfg env io ready).2 := by
  cases ready with
  | inboundRead bytes =>
      simp only [turn, Program.run_get_bind, takeIn]
      split_ifs
      · rfl
      rw [whenFrame_run, takeInFrame]
      rcases received : io.inbound.receive bytes with ⟨frame, acc⟩
      cases frame with
      | none => rfl
      | some frame =>
          simp only [onInboundFrame_run]
          rcases peel env.peer io.transport frame (inboundLayers cfg.role) with ⟨outcome, tx⟩
          cases outcome with
          | error reason => rfl
          | ok item => rfl
  | inboundError error => rfl
  | timeout => rfl
  | nextRead bytes =>
      simp only [turn, Program.run_get_bind, takeIn]
      cases io.nextLink with
      | none => rfl
      | some acc =>
          simp only
          split_ifs
          · rfl
          rw [whenFrame_run, takeInNext]
          rcases acc.receive bytes with ⟨frame, acc⟩
          cases frame with
          | none => rfl
          | some frame => rfl
  | nextError error =>
      simp only [turn, Program.run_get_bind, takeIn]
      split_ifs <;> rfl
  | destRead bytes =>
      simp only [turn, Program.run_get_bind, takeIn]
      split_ifs <;> rfl
  | destError error =>
      simp only [turn, Program.run_get_bind, takeIn]
      split_ifs <;> rfl

end Turns

/-! ## How things are found -/

theorem inboundLayers_succ (role : Role) : ∃ depth, inboundLayers role = depth + 1 := by
  cases role
  · exact ⟨2, rfl⟩
  · exact ⟨1, rfl⟩
  · exact ⟨0, rfl⟩

/-- What is peeled on a link of this role. -/
def LegalFor (role : Role) : Peeled -> Prop
  | .toMe _ => True
  | .forward blob => some blob.length = outboundLen role

section Found

variable {Key : Type}

theorem legalFor_of_unwrap {plain : Bytes} {role : Role} {peeled : Peeled}
    (size : plain.length + noiseTagLen = linkCellLen (inboundLayers role))
    (read : unwrap plain (inboundLayers role) = .ok peeled) : LegalFor role peeled := by
  cases peeled with
  | toMe cell => trivial
  | forward blob =>
      cases role with
      | guard => exact congrArg some (length_of_unwrap_forward size read)
      | middle => exact congrArg some (length_of_unwrap_forward size read)
      | exit => exact absurd read unwrap_one_ne_forward

theorem legalFor_of_peel {peer : List Sealed} {tx next : Transport Key} {wire : Bytes} {role : Role}
    {peeled : Peeled} (read : peel peer tx wire (inboundLayers role) = (.ok peeled, next)) :
    LegalFor role peeled := by
  rcases peel_ok read with ⟨plain, -, unwrapped, -, plainSize, wireSize⟩
  apply legalFor_of_unwrap _ unwrapped
  rcases inboundLayers_succ role with ⟨depth, layers⟩
  rw [layers, linkCellLen_succ] at wireSize ⊢
  omega

/-- The stream breaks off or falls silent. -/
def Interrupts : HandleError -> Prop
  | .io _ => True
  | .timeout => True
  | _ => False

/-- The state after one more layer has been peeled. -/
def CircuitIo.counted (io : CircuitIo Key) : CircuitIo Key :=
  { io with transport := { io.transport with received := io.transport.received + 1 } }

/-- What a turn can find, with what it takes in on the way. -/
inductive Finds (cfg : RelayConfig) (env : Env) (io : CircuitIo Key) : Arrival -> CircuitIo Key -> Prop where
  | idle : Finds cfg env io .nothing io
  | part (acc : FrameAccumulator) : Finds cfg env io .nothing { io with inbound := acc }
  /-- The peer sealed the frame at this counter. -/
  | peeled (item : Peeled) (acc : FrameAccumulator) (plain wire : Bytes)
      (sealed : env.peer[io.transport.received]? = some ⟨plain, wire⟩)
      (read : unwrap plain (inboundLayers cfg.role) = .ok item) (legal : LegalFor cfg.role item) :
      Finds cfg env io (.peeled item) { io.counted with inbound := acc }
  | refused (reason : LayerError) (acc : FrameAccumulator) (count : Nat) :
      Finds cfg env io (.fails (.layer reason))
        { io with inbound := acc, transport := { io.transport with received := count } }
  | nextPart (acc later : FrameAccumulator) (present : io.nextLink = some acc)
      (same : later.frameLen = acc.frameLen) : Finds cfg env io .nothing { io with nextLink := some later }
  | nextFrame (frame : Bytes) (acc later : FrameAccumulator) (present : io.nextLink = some acc)
      (same : later.frameLen = acc.frameLen) : Finds cfg env io (.nextFrame frame) { io with nextLink := some later }
  | destination (bytes : Bytes) (connected : io.destLink = true) : Finds cfg env io (.destination bytes) io
  | interrupted (reason : HandleError) (interrupts : Interrupts reason) : Finds cfg env io (.fails reason) io

variable (cfg : RelayConfig) (env : Env)

theorem takeInFrame_finds (io : CircuitIo Key) (bytes : Bytes) :
    Finds cfg env io (takeInFrame cfg env io bytes).1 (takeInFrame cfg env io bytes).2 := by
  rw [takeInFrame]
  rcases io.inbound.receive bytes with ⟨frame, acc⟩
  cases frame with
  | none => exact .part acc
  | some frame =>
      rcases result : peel env.peer io.transport frame (inboundLayers cfg.role) with ⟨outcome, tx⟩
      cases outcome with
      | error reason =>
          rcases peel_tx env.peer io.transport frame (inboundLayers cfg.role) with ⟨count, moved⟩
          rw [result] at moved
          simp only at moved
          subst moved
          simp only [result]
          exact .refused reason acc count
      | ok item =>
          have legal := legalFor_of_peel result
          rcases peel_ok result with ⟨plain, sealed, read, rfl, -, -⟩
          simp only [result]
          exact .peeled item acc plain frame sealed read legal

theorem takeIn_finds (io : CircuitIo Key) (ready : Ready) :
    Finds cfg env io (takeIn cfg env io ready).1 (takeIn cfg env io ready).2 := by
  cases ready with
  | inboundRead bytes =>
      rw [takeIn]
      split_ifs
      · exact .interrupted _ trivial
      · exact takeInFrame_finds cfg env io bytes
  | inboundError error => exact .interrupted _ trivial
  | timeout => exact .interrupted _ trivial
  | nextRead bytes =>
      rw [takeIn]
      split
      · exact .idle
      next acc present =>
      split_ifs
      · exact .interrupted _ trivial
      have same := acc.receive_frameLen bytes
      rw [takeInNext]
      rcases received : acc.receive bytes with ⟨frame, later⟩
      rw [received] at same
      cases frame with
      | none => exact .nextPart acc later present same
      | some frame => exact .nextFrame frame acc later present same
  | nextError error =>
      rw [takeIn]
      split_ifs
      · exact .interrupted _ trivial
      · exact .idle
  | destRead bytes =>
      rw [takeIn]
      split_ifs with connected
      · exact .destination _ connected
      · exact .idle
  | destError error =>
      rw [takeIn]
      split_ifs
      · exact .interrupted _ trivial
      · exact .idle

end Found

/-! ## The arrivals of a run -/

namespace CircuitLoop

variable {Key : Type} (aead : NoiseAead Key) (cfg : RelayConfig)

/-- What the turns of a run find, each with the state it was found in. -/
def trace (circuit : CircuitLoop Key) : List (Env × Ready) -> List (CircuitIo Key × Arrival)
  | [] => []
  | next :: rest =>
      match circuit.ended with
      | some _ => []
      | none =>
          (circuit.io, (takeIn cfg next.1 circuit.io next.2).1) ::
            trace (circuit.step aead cfg next.1 next.2) rest

def arrivals (circuit : CircuitLoop Key) (turns : List (Env × Ready)) : List Arrival :=
  (circuit.trace aead cfg turns).map Prod.snd

variable {aead cfg} {circuit : CircuitLoop Key}

theorem step_of_ended {result : Except HandleError Unit} (ended : circuit.ended = some result) (env : Env)
    (ready : Ready) : circuit.step aead cfg env ready = circuit := by
  rw [step, ended]

theorem step_of_running (running : circuit.ended = none) (env : Env) (ready : Ready) :
    circuit.step aead cfg env ready =
      settle ((act aead cfg env (takeIn cfg env circuit.io ready).1).run (takeIn cfg env circuit.io ready).2) := by
  rw [step, running, ← turn_run]

theorem run_cons (next : Env × Ready) (rest : List (Env × Ready)) :
    circuit.run aead cfg (next :: rest) = (circuit.step aead cfg next.1 next.2).run aead cfg rest := rfl

theorem run_append (first second : List (Env × Ready)) :
    circuit.run aead cfg (first ++ second) = (circuit.run aead cfg first).run aead cfg second :=
  List.foldl_append

theorem run_of_ended {result : Except HandleError Unit} (ended : circuit.ended = some result)
    (turns : List (Env × Ready)) : circuit.run aead cfg turns = circuit := by
  induction turns with
  | nil => rfl
  | cons next rest ih => rw [run_cons, step_of_ended ended, ih]

theorem trace_of_ended {result : Except HandleError Unit} (ended : circuit.ended = some result)
    (turns : List (Env × Ready)) : circuit.trace aead cfg turns = [] := by
  cases turns with
  | nil => rfl
  | cons next rest => simp only [trace, ended]

theorem trace_cons (running : circuit.ended = none) (next : Env × Ready) (rest : List (Env × Ready)) :
    circuit.trace aead cfg (next :: rest) =
      (circuit.io, (takeIn cfg next.1 circuit.io next.2).1) ::
        (circuit.step aead cfg next.1 next.2).trace aead cfg rest := by
  simp only [trace, running]

theorem arrivals_of_ended {result : Except HandleError Unit} (ended : circuit.ended = some result)
    (turns : List (Env × Ready)) : circuit.arrivals aead cfg turns = [] := by
  rw [arrivals, trace_of_ended ended, List.map_nil]

theorem arrivals_cons (running : circuit.ended = none) (next : Env × Ready) (rest : List (Env × Ready)) :
    circuit.arrivals aead cfg (next :: rest) =
      (takeIn cfg next.1 circuit.io next.2).1 :: (circuit.step aead cfg next.1 next.2).arrivals aead cfg rest := by
  rw [arrivals, trace_cons running]
  rfl

theorem trace_append (first second : List (Env × Ready)) :
    circuit.trace aead cfg (first ++ second) =
      circuit.trace aead cfg first ++ (circuit.run aead cfg first).trace aead cfg second := by
  induction first generalizing circuit with
  | nil => rfl
  | cons next rest ih =>
      cases ended : circuit.ended with
      | some result => simp only [trace_of_ended ended, run_of_ended ended, List.nil_append]
      | none => rw [List.cons_append, trace_cons ended, trace_cons ended, ih, run_cons, List.cons_append]

theorem arrivals_append (first second : List (Env × Ready)) :
    circuit.arrivals aead cfg (first ++ second) =
      circuit.arrivals aead cfg first ++ (circuit.run aead cfg first).arrivals aead cfg second := by
  simp only [arrivals, trace_append, List.map_append]

end CircuitLoop

end Relay
end QuietHop
