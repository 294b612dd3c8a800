import QuietHop.Relay.Conduct

namespace QuietHop
namespace Relay

open Lib Net Registry Wire

/-!
# The destination of a circuit

At an exit CONNECT opens the destination.  A read of no bytes says that the destination will
send nothing more; the exit then lets go of the whole connection, the direction towards the
destination included, and another CONNECT opens another destination.

Whether there is a destination after a turn depends only on what the turn found, so the
statements are about the arrivals of a run.
-/

/-! ## Opening and letting go -/

/-- The payload of a CONNECT cell. -/
def Arrival.connect : Arrival -> Option Bytes
  | .peeled (.toMe ⟨.connect, payload⟩) => some payload
  | _ => none

/-- The payload of a DATA cell that is not empty. -/
def Arrival.data : Arrival -> Option Bytes
  | .peeled (.toMe ⟨.data, payload⟩) => if payload.isEmpty then none else some payload
  | _ => none

/-- Whether there is a destination after a turn that lets the circuit go on. -/
def Arrival.leaves (before : Bool) : Arrival -> Bool
  | .peeled (.toMe ⟨.connect, _⟩) => true
  | .destination bytes => !bytes.isEmpty && before
  | _ => before

/-- Only the end of its stream closes an open destination. -/
theorem Arrival.leaves_true {found : Arrival} (more : found ≠ .destination []) : found.leaves true = true := by
  cases found with
  | peeled item =>
      cases item with
      | toMe cell =>
          rcases cell with ⟨cellType, payload⟩
          cases cellType <;> rfl
      | forward blob => rfl
  | destination bytes =>
      cases bytes with
      | nil => exact absurd rfl more
      | cons byte rest => rfl
  | nothing => rfl
  | nextFrame blob => rfl
  | fails reason => rfl

theorem Arrival.connect_eq_some {found : Arrival} {payload : Bytes} (connects : found.connect = some payload) :
    found = .peeled (.toMe ⟨.connect, payload⟩) := by
  unfold Arrival.connect at connects
  split at connects
  · rw [Option.some.inj connects]
  · cases connects

section Opening

variable {Key : Type} {aead : NoiseAead Key} {cfg : RelayConfig} {env : Env}

/-- What `dial_via_socks5` is called with, or the error that comes before it. -/
def dialFor (cfg : RelayConfig) (connected : Bool) (payload : Bytes) : Except HandleError (String × ConnectPayload) :=
  if connected then .error (.illegalCellForRole .connect cfg.role)
  else
    match ConnectPayload.decode payload with
    | .error e => .error (.cell e)
    | .ok target =>
        match cfg.decodoProxyUrl with
        | none => .error .missingDecodoUrl
        | some proxyUrl => .ok (proxyUrl, target)

theorem decode_of_dialFor {connected : Bool} {payload : Bytes} {proxyUrl : String} {target : ConnectPayload}
    (wanted : dialFor cfg connected payload = .ok (proxyUrl, target)) : ConnectPayload.decode payload = .ok target := by
  unfold dialFor at wanted
  split_ifs at wanted
  split at wanted
  · cases wanted
  · next found decoded =>
      split at wanted
      · cases wanted
      · cases wanted
        exact decoded

theorem onConnect_run (io : CircuitIo Key) (payload : Bytes) :
    (onConnect cfg env payload).run io =
      match dialFor cfg io.destLink payload with
      | .error reason => (.error reason, io)
      | .ok (proxyUrl, target) => (do
          dialViaSocks5 cfg env proxyUrl target.host target.port
          Program.modify fun io => { io with destLink := true }
          pure .proceed : CircuitM Key Control).run io := by
  simp only [onConnect, dialFor, Program.run_get_bind]
  split_ifs
  · rfl
  cases ConnectPayload.decode payload with
  | error e => rfl
  | ok target =>
      cases cfg.decodoProxyUrl with
      | none => rfl
      | some proxyUrl => rfl

theorem onConnect_refuses {io : CircuitIo Key} {payload : Bytes} {reason : HandleError}
    (refused : dialFor cfg io.destLink payload = .error reason) :
    (onConnect cfg env payload).run io = (.error reason, io) := by
  rw [onConnect_run, refused]

theorem onConnect_dials {io : CircuitIo Key} {payload : Bytes} {proxyUrl : String} {target : ConnectPayload}
    (wanted : dialFor cfg io.destLink payload = .ok (proxyUrl, target)) :
    (onConnect cfg env payload).run io = (do
      dialViaSocks5 cfg env proxyUrl target.host target.port
      Program.modify fun io => { io with destLink := true }
      pure .proceed : CircuitM Key Control).run io := by
  rw [onConnect_run, wanted]

theorem onCell_connect (isExit : cfg.role = .exit) (payload : Bytes) :
    onCell aead cfg env ⟨.connect, payload⟩ = onConnect cfg env payload := by
  simp only [onCell, isExit]

/-- A cell is noted before it is acted on. -/
theorem act_toMe (cell : Cell) (io : CircuitIo Key) :
    (act aead cfg env (.peeled (.toMe cell))).run io =
      (onCell aead cfg env cell).run { io with outputs := io.outputs ++ [(env.instant, .acted cell)] } := rfl

/-- Started with or without a destination, the program leaves the circuit with one or without
unless it ends it. -/
def Leaves (program : CircuitM Key Control) (before after : Bool) : Prop :=
  Program.Meets (fun io => io.destLink = before) program
    (fun control io => control = .proceed -> io.destLink = after) (fun _ _ => True)

variable {before : Bool}

theorem leaves_of_sends {allowed : Instant × Output -> Prop} {program : CircuitM Key Control}
    (sends : Program.Keeps (Sends allowed) program) : Leaves program before before := by
  apply Program.meets_of_keeps sends (Program.returns_anything program)
  · intro control io after same sends _ _
    rw [sends.destLink, same]
  · exact fun _ _ _ _ _ => trivial

theorem meets_of_sends {allowed : Instant × Output -> Prop} {Value : Type} {program : CircuitM Key Value}
    (sends : Program.Keeps (Sends allowed) program) :
    Program.Meets (fun io => io.destLink = before) program (fun _ io => io.destLink = before) (fun _ _ => True) := by
  apply Program.meets_of_keeps sends (Program.returns_anything program)
  · intro control io after same sends _
    rw [sends.destLink, same]
  · exact fun _ _ _ _ _ => trivial

theorem onConnect_leaves (payload : Bytes) : Leaves (onConnect cfg env payload : CircuitM Key Control) before true := by
  intro io _
  cases wanted : dialFor cfg io.destLink payload with
  | error reason =>
      rw [onConnect_refuses wanted]
      trivial
  | ok found =>
      rcases found with ⟨proxyUrl, target⟩
      rw [onConnect_dials wanted]
      rcases result : (dialViaSocks5 cfg env proxyUrl target.host target.port).run io with ⟨outcome, reached⟩
      cases outcome with
      | error reason =>
          rw [Program.run_bind_of_error result]
          trivial
      | ok value =>
          rw [Program.run_bind_of_ok result]
          exact fun _ => rfl

theorem onExtend_leaves (relays : cfg.role ≠ .exit) (payload : Bytes) :
    Leaves (onExtend aead cfg env payload) before before := by
  refine Program.meets_get_bind fun io same => ?_
  split_ifs
  · exact Program.meets_fail fun _ _ => trivial
  have decoded : Program.Meets (· = io) (Program.ofExcept .cell (ExtendForward.decode payload) : CircuitM Key _)
      (fun _ reached => reached.destLink = before) (fun _ _ => True) := by
    apply Program.meets_ofExcept
    · exact fun _ _ reached isIo => isIo ▸ same
    · exact fun _ _ _ _ => trivial
  refine Program.meets_bind decoded fun extend => ?_
  split
  · exact Program.meets_fail fun _ _ => trivial
  refine Program.meets_bind (meets_of_sends (openNextLink_keeps relays extend _)) fun nl => ?_
  refine Program.meets_bind (meets_of_sends (reply_sends _ _)) fun _ => ?_
  exact fun reached same _ => same

theorem onCloseRequest_leaves (after : Bool) : Leaves (onCloseRequest aead cfg env) before after := by
  refine Program.meets_bind (meets_of_sends (reply_sends _ _)) fun _ => ?_
  intro io _ proceeds
  cases proceeds

theorem onCell_leaves (cell : Cell) :
    Leaves (onCell aead cfg env cell) before (Arrival.leaves before (.peeled (.toMe cell))) := by
  rcases cell with ⟨cellType, payload⟩
  rcases @onCell_cases Key aead cfg env ⟨cellType, payload⟩ with
    ⟨rfl, relays, same⟩ | ⟨rfl, -, same⟩ | ⟨rfl, isExit, same⟩ | ⟨rfl, same⟩ | ⟨reason, same⟩
  · exact same ▸ onExtend_leaves relays payload
  · exact same ▸ onConnect_leaves payload
  · exact same ▸ leaves_of_sends (onData_keeps isExit payload)
  · exact same ▸ onCloseRequest_leaves _
  · exact same ▸ Program.meets_fail fun _ _ => trivial

theorem act_leaves (found : Arrival) : Leaves (act aead cfg env found) before (found.leaves before) := by
  cases found with
  | nothing => exact Program.meets_pure fun _ same _ => same
  | peeled item =>
      cases item with
      | toMe cell =>
          have noted : Program.Keeps (@Sends Key fun _ => True) (emit env (.acted cell)) := emit_keeps trivial
          exact Program.meets_bind (meets_of_sends noted) fun _ => onCell_leaves cell
      | forward blob =>
          refine Program.meets_get_bind fun io same => ?_
          split_ifs
          · have sends : Program.Keeps (@Sends Key fun _ => True) (do write env .next blob; pure Control.proceed) :=
              Program.keeps_bind (write_sends trivial fun _ => trivial) fun _ => Program.keeps_pure _
            exact Program.meets_conseq (fun _ isIo => isIo ▸ same) (leaves_of_sends sends)
          · exact Program.meets_fail fun _ _ => trivial
  | nextFrame blob => exact leaves_of_sends (onNextFrame_sends blob)
  | destination bytes =>
      simp only [act, onDestRead]
      cases bytes with
      | nil => exact fun _ _ _ => rfl
      | cons byte rest =>
          exact leaves_of_sends (Program.keeps_bind (sendChunks_sends _) fun _ => Program.keeps_pure _)
  | fails reason => exact Program.meets_fail fun _ _ => trivial

end Opening

/-! ## One destination -/

/-- Whether acting on what was found calls `dial_via_socks5`. -/
def callsDial {Key : Type} (cfg : RelayConfig) (found : CircuitIo Key × Arrival) : Bool :=
  match found.2.connect with
  | some payload => (dialFor cfg found.1.destLink payload).isOk
  | none => false

namespace CircuitLoop

variable {Key : Type} (aead : NoiseAead Key) (cfg : RelayConfig)

/-- How many turns of a run call `dial_via_socks5`. -/
def calls (circuit : CircuitLoop Key) (turns : List (Env × Ready)) : Nat :=
  (circuit.trace aead cfg turns).countP (callsDial cfg)

variable {aead cfg} {circuit : CircuitLoop Key}

theorem calls_cons (running : circuit.ended = none) (next : Env × Ready) (rest : List (Env × Ready)) :
    circuit.calls aead cfg (next :: rest) = (circuit.step aead cfg next.1 next.2).calls aead cfg rest +
      if callsDial cfg (circuit.io, (takeIn cfg next.1 circuit.io next.2).1) then 1 else 0 := by
  rw [calls, trace_cons running, List.countP_cons]
  rfl

theorem calls_of_ended {result : Except HandleError Unit} (ended : circuit.ended = some result)
    (turns : List (Env × Ready)) : circuit.calls aead cfg turns = 0 := by
  rw [calls, trace_of_ended ended]
  rfl

/-- Taking in leaves the destination and the record as they are. -/
theorem takeIn_destLink (env : Env) (io : CircuitIo Key) (ready : Ready) :
    (takeIn cfg env io ready).2.destLink = io.destLink := by
  have finds := takeIn_finds cfg env io ready
  generalize (takeIn cfg env io ready).1 = found, (takeIn cfg env io ready).2 = begun at finds ⊢
  cases finds <;> rfl

theorem takeIn_outputs (env : Env) (io : CircuitIo Key) (ready : Ready) :
    (takeIn cfg env io ready).2.outputs = io.outputs := by
  have finds := takeIn_finds cfg env io ready
  generalize (takeIn cfg env io ready).1 = found, (takeIn cfg env io ready).2 = begun at finds ⊢
  cases finds <;> rfl

/-- The circuit goes on only when the turn says so. -/
theorem eq_of_settle {result : Except HandleError Control × CircuitIo Key} (running : (settle result).ended = none) :
    result = (.ok .proceed, (settle result).io) := by
  rcases result with ⟨outcome, io⟩
  cases outcome with
  | error reason => cases running
  | ok control =>
      cases control with
      | proceed => rfl
      | closed => cases running

theorem step_destLink {env : Env} {ready : Ready} (running : circuit.ended = none)
    (still : (circuit.step aead cfg env ready).ended = none) :
    (circuit.step aead cfg env ready).io.destLink =
      (takeIn cfg env circuit.io ready).1.leaves circuit.io.destLink := by
  have leaves := @act_leaves Key aead cfg env circuit.io.destLink (takeIn cfg env circuit.io ready).1
    (takeIn cfg env circuit.io ready).2 (takeIn_destLink env circuit.io ready)
  rw [step_of_running running] at still ⊢
  rw [eq_of_settle still] at leaves
  exact leaves rfl

/-- Without a CONNECT nothing is dialed. -/
theorem calls_eq_zero {turns : List (Env × Ready)}
    (unconnected : ∀ found ∈ circuit.arrivals aead cfg turns, found.connect = none) :
    circuit.calls aead cfg turns = 0 := by
  apply List.countP_eq_zero.mpr
  intro found member
  simp [callsDial, unconnected found.2 (List.mem_map_of_mem member)]

/-- A dial leaves a destination. -/
theorem leaves_of_callsDial {io : CircuitIo Key} {found : Arrival} (dials : callsDial cfg (io, found) = true)
    (before : Bool) : found.leaves before = true := by
  unfold callsDial at dials
  split at dials
  · next payload connects =>
      obtain rfl : found = _ := Arrival.connect_eq_some connects
      rfl
  · cases dials

/-- After the destination has closed there is no CONNECT. -/
def NoReconnect (found : List Arrival) : Prop :=
  found.Pairwise fun earlier later => earlier = .destination [] -> later.connect = none

theorem NoReconnect.tail {found : Arrival} {rest : List Arrival} (noReconnect : NoReconnect (found :: rest)) :
    NoReconnect rest :=
  (List.pairwise_cons.mp noReconnect).2

/-- With a destination open nothing is dialed any more. -/
theorem calls_of_connected {turns : List (Env × Ready)} (running : circuit.ended = none)
    (connected : circuit.io.destLink = true) (noReconnect : NoReconnect (circuit.arrivals aead cfg turns)) :
    circuit.calls aead cfg turns = 0 := by
  induction turns generalizing circuit with
  | nil => rfl
  | cons next rest ih =>
      rw [arrivals_cons running] at noReconnect
      have refused : callsDial cfg (circuit.io, (takeIn cfg next.1 circuit.io next.2).1) = false := by
        simp only [callsDial, connected]
        split <;> rfl
      rw [calls_cons running, refused, if_neg Bool.false_ne_true, Nat.add_zero]
      cases ended : (circuit.step aead cfg next.1 next.2).ended with
      | some result => exact calls_of_ended ended rest
      | none =>
          have leaves := step_destLink running ended
          by_cases closes : (takeIn cfg next.1 circuit.io next.2).1 = .destination []
          · apply calls_eq_zero
            intro found member
            exact (List.pairwise_cons.mp noReconnect).1 found member closes
          · apply ih ended _ noReconnect.tail
            rw [leaves, connected, Arrival.leaves_true closes]

theorem calls_le_one {turns : List (Env × Ready)} (noReconnect : NoReconnect (circuit.arrivals aead cfg turns)) :
    circuit.calls aead cfg turns ≤ 1 := by
  induction turns generalizing circuit with
  | nil => exact Nat.zero_le 1
  | cons next rest ih =>
      cases running : circuit.ended with
      | some result =>
          rw [calls_of_ended running]
          exact Nat.zero_le 1
      | none =>
          rw [arrivals_cons running] at noReconnect
          rw [calls_cons running]
          split_ifs with dials
          swap
          · exact ih noReconnect.tail
          -- the dial leaves a destination, or the circuit has ended
          have none : (circuit.step aead cfg next.1 next.2).calls aead cfg rest = 0 := by
            cases ended : (circuit.step aead cfg next.1 next.2).ended with
            | some result => exact calls_of_ended ended rest
            | none =>
                apply calls_of_connected ended _ noReconnect.tail
                rw [step_destLink running ended, leaves_of_callsDial dials]
          omega

/-- A destination that has been opened is there until its stream ends. -/
theorem connected_or_closed {turns : List (Env × Ready)} (running : (circuit.run aead cfg turns).ended = none)
    (opened : circuit.io.destLink = true ∨ 0 < circuit.calls aead cfg turns) :
    (circuit.run aead cfg turns).io.destLink = true ∨ .destination [] ∈ circuit.arrivals aead cfg turns := by
  induction turns generalizing circuit with
  | nil =>
      rcases opened with connected | impossible
      · exact .inl connected
      · cases impossible
  | cons next rest ih =>
      cases begun : circuit.ended with
      | some result =>
          rw [run_of_ended begun, begun] at running
          cases running
      | none =>
          rw [run_cons] at running ⊢
          rw [arrivals_cons begun]
          have still : (circuit.step aead cfg next.1 next.2).ended = none := by
            cases ended : (circuit.step aead cfg next.1 next.2).ended with
            | none => rfl
            | some result =>
                rw [run_of_ended ended, ended] at running
                cases running
          have leaves := step_destLink begun still
          by_cases closes : (takeIn cfg next.1 circuit.io next.2).1 = .destination []
          · exact .inr (closes ▸ List.mem_cons_self)
          have later : (circuit.step aead cfg next.1 next.2).io.destLink = true ∨
              0 < (circuit.step aead cfg next.1 next.2).calls aead cfg rest := by
            rcases opened with connected | dialed
            · exact .inl (by rw [leaves, connected, Arrival.leaves_true closes])
            rw [calls_cons begun] at dialed
            split_ifs at dialed with dials
            · exact .inl (by rw [leaves, leaves_of_callsDial dials])
            · exact .inr dialed
          rcases ih running later with connected | closed
          · exact .inl connected
          · exact .inr (List.mem_cons_of_mem _ closed)

end CircuitLoop

/-- A CONNECT while there is a destination ends the circuit. -/
theorem CircuitLoop.step_connect_refused {Key : Type} (aead : NoiseAead Key) {cfg : RelayConfig}
    {circuit : CircuitLoop Key} {next : Env × Ready} {payload : Bytes} (isExit : cfg.role = .exit)
    (running : circuit.ended = none) (connected : circuit.io.destLink = true)
    (found : (takeIn cfg next.1 circuit.io next.2).1 = .peeled (.toMe ⟨.connect, payload⟩)) :
    (circuit.step aead cfg next.1 next.2).ended = some (.error (.illegalCellForRole .connect .exit)) := by
  have still : (takeIn cfg next.1 circuit.io next.2).2.destLink = true := (takeIn_destLink ..).trans connected
  rw [step_of_running running, found, act_toMe, onCell_connect isExit]
  have refused : dialFor cfg true payload = .error (.illegalCellForRole .connect .exit) := by
    rw [dialFor, if_pos rfl, isExit]
  rw [onConnect_refuses (still ▸ refused)]
  rfl

/-- While no CONNECT follows the end of the destination's stream, one CONNECT is dialed at most
and any later one ends the circuit. -/
theorem one_destination {Key : Type} (aead : NoiseAead Key) {cfg : RelayConfig} (isExit : cfg.role = .exit)
    (tx : Transport Key) (outputs : List (Instant × Output)) (turns : List (Env × Ready))
    (noReconnect : CircuitLoop.NoReconnect ((CircuitLoop.start cfg.role tx outputs).arrivals aead cfg turns)) :
    (CircuitLoop.start cfg.role tx outputs).calls aead cfg turns ≤ 1 ∧
    forall before next after payload, turns = before ++ next :: after ->
      0 < (CircuitLoop.start cfg.role tx outputs).calls aead cfg before ->
      ((CircuitLoop.start cfg.role tx outputs).run aead cfg before).ended = none ->
      (takeIn cfg next.1 ((CircuitLoop.start cfg.role tx outputs).run aead cfg before).io next.2).1 =
        .peeled (.toMe ⟨.connect, payload⟩) ->
      ((CircuitLoop.start cfg.role tx outputs).run aead cfg turns).ended =
        some (.error (.illegalCellForRole .connect .exit)) := by
  generalize CircuitLoop.start cfg.role tx outputs = circuit at noReconnect ⊢
  refine ⟨CircuitLoop.calls_le_one noReconnect, ?_⟩
  rintro before next after payload rfl dialed running found
  rw [CircuitLoop.arrivals_append, CircuitLoop.arrivals_cons running, found] at noReconnect
  have connected : (circuit.run aead cfg before).io.destLink = true := by
    rcases CircuitLoop.connected_or_closed running (.inr dialed) with connected | closed
    · exact connected
    · have never := (List.pairwise_append.mp noReconnect).2.2 _ closed _ List.mem_cons_self rfl
      cases never
  have refused := CircuitLoop.step_connect_refused aead isExit running connected found
  rw [CircuitLoop.run_append, CircuitLoop.run_cons, CircuitLoop.run_of_ended refused, refused]

namespace Sample

def exitConfig : RelayConfig := ⟨.exit, [443], some "socks5://proxy:1080"⟩

def exitStart : CircuitLoop Unit := CircuitLoop.start .exit ⟨(), [], 0⟩ []

def frame (cell : Cell) : Bytes := toMePlain cell 1 ++ List.replicate noiseTagLen 0

/-- The client has sealed these cells, and every dial succeeds. -/
def exitEnv (cells : List Cell) : Env where
  peer := cells.map fun cell => ⟨toMePlain cell 1, frame cell⟩
  instant := ⟨none, 0⟩
  fault := fun _ => none
  dialTls := .ok ()
  message2 := .error .timeout
  parseUrl := fun _ => some ⟨"socks5", some "proxy", some 1080⟩
  dialSocks := .connected

/-- CONNECT to port 443 of the host `h`. -/
def connectCell : Cell := ⟨.connect, [0, 1, 104, 1, 187]⟩

/-- CONNECT, a read of the destination, and another cell. -/
def readBetween (bytes : Bytes) (cell : Cell) : List (Env × Ready) :=
  [(exitEnv [connectCell, cell], .inboundRead (frame connectCell)),
    (exitEnv [connectCell, cell], .destRead bytes),
    (exitEnv [connectCell, cell], .inboundRead (frame cell))]

end Sample

/-- Once the destination has closed, a second CONNECT is dialed like the first. -/
theorem two_destinations :
    Sample.exitStart.calls (Aead.zeroTag noiseTagLen) Sample.exitConfig
        (Sample.readBetween [] Sample.connectCell) = 2 ∧
      (Sample.exitStart.run (Aead.zeroTag noiseTagLen) Sample.exitConfig
        (Sample.readBetween [] Sample.connectCell)).ended = none := by
  decide +kernel

theorem one_destination_open :
    Sample.exitStart.calls (Aead.zeroTag noiseTagLen) Sample.exitConfig
        (Sample.readBetween [97] Sample.connectCell) ≤ 1 ∧
      (Sample.exitStart.run (Aead.zeroTag noiseTagLen) Sample.exitConfig
        (Sample.readBetween [97] Sample.connectCell)).ended =
          some (.error (.illegalCellForRole .connect .exit)) := by
  have arrives : Sample.exitStart.arrivals (Aead.zeroTag noiseTagLen) Sample.exitConfig
      (Sample.readBetween [97] Sample.connectCell) =
        [.peeled (.toMe Sample.connectCell), .destination [97], .peeled (.toMe Sample.connectCell)] := by
    decide +kernel
  have noReconnect : CircuitLoop.NoReconnect (Sample.exitStart.arrivals (Aead.zeroTag noiseTagLen) Sample.exitConfig
      (Sample.readBetween [97] Sample.connectCell)) := by
    rw [arrives]
    simp [CircuitLoop.NoReconnect]
  rcases one_destination (Aead.zeroTag noiseTagLen) rfl ⟨(), [], 0⟩ [] _ noReconnect with ⟨once, later⟩
  refine ⟨once, later ((Sample.readBetween [97] Sample.connectCell).take 2) _ [] [0, 1, 104, 1, 187] rfl ?_ ?_ ?_⟩
  · decide +kernel
  · decide +kernel
  · decide +kernel

end Relay
end QuietHop
