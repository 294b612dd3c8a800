import QuietHop.Circuit.World

namespace QuietHop
namespace Circuit

open Lib Wire Client Relay

/-!
# What a turn of a relay leaves behind

The state after a turn, as it stands.  The record of a relay says where each of its writes broke
off, so that a write is one entry whether it succeeds or not.
-/

/-! ## Writes -/

/-- What a write leaves in the record. -/
def put (fault : Option Nat) (sink : Sink) (bytes : Bytes) : Output :=
  match fault with
  | none => .wrote sink bytes
  | some count => .cut sink bytes count

def putResult : Option Nat -> Except HandleError Unit
  | none => .ok ()
  | some _ => .error (.io (.other "write"))

/-- Whether and why a circuit has ended after a write at the end of a turn. -/
def endedBy : Option Nat -> Option (Except HandleError Unit)
  | none => none
  | some _ => some (.error (.io (.other "write")))

/-- How much of so many bytes gets written. -/
def putLength (fault : Option Nat) (length : Nat) : Nat :=
  match fault with
  | none => length
  | some count => min count length

theorem putLength_le (fault : Option Nat) (length : Nat) : putLength fault length ≤ length := by
  cases fault with
  | none => exact Nat.le_refl _
  | some count => exact Nat.min_le_right _ _

/-- What gets written. -/
def putBytes (fault : Option Nat) (bytes : Bytes) : Bytes :=
  match fault with
  | none => bytes
  | some count => bytes.take count

theorem putBytes_part (fault : Option Nat) (bytes : Bytes) : putBytes fault bytes <+: bytes := by
  cases fault with
  | none => exact List.prefix_refl _
  | some count => exact List.take_prefix _ _

theorem putBytes_of_isNone {fault : Option Nat} (sound : fault.isNone = true) (bytes : Bytes) :
    putBytes fault bytes = bytes := by
  rw [Option.isNone_iff_eq_none.mp sound]
  rfl

theorem length_putBytes (fault : Option Nat) (bytes : Bytes) :
    (putBytes fault bytes).length = putLength fault bytes.length := by
  cases fault with
  | none => rfl
  | some count => exact List.length_take

@[simp] theorem isNone_endedBy (fault : Option Nat) : (endedBy fault).isNone = fault.isNone := by
  cases fault <;> rfl

@[simp] theorem bytesTo_put (fault : Option Nat) (sink other : Sink) (bytes : Bytes) :
    bytesTo other (put fault sink bytes) = if sink = other then putBytes fault bytes else [] := by
  cases fault <;> rfl

theorem length_written_put (sink : Sink) (outputs : List (Instant × Output)) (instant : Instant) (fault : Option Nat)
    (bytes : Bytes) :
    (written sink (outputs ++ [(instant, put fault sink bytes)])).length =
      (written sink outputs).length + putLength fault bytes.length := by
  rw [written_append, List.length_append, bytesTo_put, if_pos rfl, length_putBytes]

theorem written_put_of_ne {sink other : Sink} (different : sink ≠ other) (outputs : List (Instant × Output))
    (instant : Instant) (fault : Option Nat) (bytes : Bytes) :
    written other (outputs ++ [(instant, put fault sink bytes)]) = written other outputs := by
  rw [written_append, bytesTo_put, if_neg different, List.append_nil]

section Turns

variable {Key : Type} {aead : NoiseAead Key} {cfg : RelayConfig} {env : Env} {station : Station Key}

theorem Station.turn_of_ended {result : Except HandleError Unit}
    (ended : station.loop.ended = some result) (aead : NoiseAead Key) (cfg : RelayConfig) (env : Env)
    (arrivals nextArrivals : Bytes) (event : RelayEvent) :
    station.turn aead cfg env arrivals nextArrivals event = station := by
  simp only [Station.turn, ended]

theorem write_eq (sink : Sink) (bytes : Bytes) (io : CircuitIo Key) :
    (write env sink bytes).run io = (putResult (env.fault io.outputs.length),
      { io with outputs := io.outputs ++ [(env.instant, put (env.fault io.outputs.length) sink bytes)] }) := by
  cases fault : env.fault io.outputs.length with
  | none =>
      simp only [write, Program.run_get_bind, fault]
      rfl
  | some count =>
      simp only [write, Program.run_get_bind, fault]
      rfl

/-- A write puts the whole of its bytes on the link, or a piece and fails. -/
theorem write_run (env : Env) (sink : Sink) (bytes : Bytes) (io : CircuitIo Key) :
    ∃ output piece, piece <+: bytes ∧ (forall other, bytesTo other output = if sink = other then piece else []) ∧
      (((write env sink bytes).run io = (.ok (), { io with outputs := io.outputs ++ [(env.instant, output)] }) ∧
          piece = bytes) ∨
        (write env sink bytes).run io = (.error (.io (.other "write")),
          { io with outputs := io.outputs ++ [(env.instant, output)] })) := by
  refine ⟨_, _, putBytes_part (env.fault io.outputs.length) bytes, fun other => bytesTo_put _ sink other bytes, ?_⟩
  rw [write_eq]
  cases env.fault io.outputs.length with
  | none => exact .inl ⟨rfl, rfl⟩
  | some count => exact .inr rfl

/-- A turn that ends with a write. -/
theorem settle_write (sink : Sink) (bytes : Bytes) (io : CircuitIo Key) :
    CircuitLoop.settle ((do
      write env sink bytes
      pure .proceed : CircuitM Key Control).run io) =
      ⟨{ io with outputs := io.outputs ++ [(env.instant, put (env.fault io.outputs.length) sink bytes)] },
        endedBy (env.fault io.outputs.length)⟩ := by
  simp only [Bind.bind, Program.bind, write_eq]
  cases env.fault io.outputs.length with
  | none => rfl
  | some count => rfl

/-- One turn on bytes of the inbound link: no bytes end the circuit, a part of a frame is kept,
and a whole frame is handled. -/
theorem turn_inbound (running : station.loop.ended = none) (arrivals nextArrivals : Bytes)
    (count : Nat) :
    (station.inboundBytes arrivals count = [] ∧
      station.turn aead cfg env arrivals nextArrivals (.inbound count) =
        { station with loop := { station.loop with ended := some (.error (.io .unexpectedEof)) } }) ∨
    (station.inboundBytes arrivals count ≠ [] ∧
      (station.loop.io.inbound.receive (station.inboundBytes arrivals count)).1 = none ∧
      station.turn aead cfg env arrivals nextArrivals (.inbound count) =
        { station with
          loop := ⟨{ station.loop.io with
            inbound := (station.loop.io.inbound.receive (station.inboundBytes arrivals count)).2 }, none⟩
          inboundTaken := station.inboundTaken + (station.inboundBytes arrivals count).length }) ∨
    station.inboundBytes arrivals count ≠ [] ∧
      ∃ frame, (station.loop.io.inbound.receive (station.inboundBytes arrivals count)).1 = some frame ∧
        station.turn aead cfg env arrivals nextArrivals (.inbound count) =
          { station with
            loop := CircuitLoop.settle ((onInboundFrame aead cfg env frame).run { station.loop.io with
              inbound := (station.loop.io.inbound.receive (station.inboundBytes arrivals count)).2 })
            inboundTaken := station.inboundTaken + (station.inboundBytes arrivals count).length } := by
  rcases station with ⟨⟨io, ended⟩, inboundTaken, nextTaken⟩
  cases running
  simp only [Station.turn, CircuitLoop.step, Relay.turn, Program.run_get_bind]
  split_ifs with eof
  · left
    refine ⟨List.isEmpty_iff.mp eof, ?_⟩
    simp only [List.isEmpty_iff.mp eof, List.length_nil, Nat.add_zero]
    rfl
  right
  have nonempty := fun none => eof (List.isEmpty_iff.mpr none)
  rw [whenFrame_run]
  cases complete : (io.inbound.receive (Station.inboundBytes ⟨⟨io, none⟩, inboundTaken, nextTaken⟩ arrivals count)).1 with
  | none => exact .inl ⟨nonempty, rfl, rfl⟩
  | some frame => exact .inr ⟨nonempty, frame, rfl, rfl⟩

section Inbound

variable {arrivals nextArrivals frame : Bytes} {count : Nat} (running : station.loop.ended = none)
include running

theorem turn_ends (nothing : station.inboundBytes arrivals count = []) :
    station.turn aead cfg env arrivals nextArrivals (.inbound count) =
      { station with loop := { station.loop with ended := some (.error (.io .unexpectedEof)) } } := by
  rcases @turn_inbound Key aead cfg env station running arrivals nextArrivals count with
    ⟨-, turned⟩ | ⟨nonempty, -⟩ | ⟨nonempty, -⟩
  · exact turned
  · exact absurd nothing nonempty
  · exact absurd nothing nonempty

theorem turn_reads (nonempty : station.inboundBytes arrivals count ≠ [])
    (incomplete : (station.loop.io.inbound.receive (station.inboundBytes arrivals count)).1 = none) :
    station.turn aead cfg env arrivals nextArrivals (.inbound count) =
      { station with
        loop := ⟨{ station.loop.io with
          inbound := (station.loop.io.inbound.receive (station.inboundBytes arrivals count)).2 }, none⟩
        inboundTaken := station.inboundTaken + (station.inboundBytes arrivals count).length } := by
  rcases @turn_inbound Key aead cfg env station running arrivals nextArrivals count with
    ⟨nothing, -⟩ | ⟨-, -, turned⟩ | ⟨-, other, complete, -⟩
  · exact absurd nothing nonempty
  · exact turned
  · cases incomplete.symm.trans complete

theorem turn_frame (nonempty : station.inboundBytes arrivals count ≠ [])
    (complete : (station.loop.io.inbound.receive (station.inboundBytes arrivals count)).1 = some frame) :
    station.turn aead cfg env arrivals nextArrivals (.inbound count) =
      { station with
        loop := CircuitLoop.settle ((onInboundFrame aead cfg env frame).run { station.loop.io with
          inbound := (station.loop.io.inbound.receive (station.inboundBytes arrivals count)).2 })
        inboundTaken := station.inboundTaken + (station.inboundBytes arrivals count).length } := by
  rcases @turn_inbound Key aead cfg env station running arrivals nextArrivals count with
    ⟨nothing, -⟩ | ⟨-, incomplete, -⟩ | ⟨-, other, found, turned⟩
  · exact absurd nothing nonempty
  · cases incomplete.symm.trans complete
  · cases found.symm.trans complete
    exact turned

/-- A whole frame that is to be passed on. -/
theorem turn_passes {blob : Bytes} {tx : Transport Key} (linked : station.loop.io.nextLink.isSome = true)
    (nonempty : station.inboundBytes arrivals count ≠ [])
    (complete : (station.loop.io.inbound.receive (station.inboundBytes arrivals count)).1 = some frame)
    (peeled : peel env.peer station.loop.io.transport frame (inboundLayers cfg.role) = (.ok (.forward blob), tx)) :
    station.turn aead cfg env arrivals nextArrivals (.inbound count) =
      { station with
        loop := ⟨{ station.loop.io with
          inbound := (station.loop.io.inbound.receive (station.inboundBytes arrivals count)).2
          transport := tx
          outputs := station.loop.io.outputs ++
            [(env.instant, put (env.fault station.loop.io.outputs.length) .next blob)] },
          endedBy (env.fault station.loop.io.outputs.length)⟩
        inboundTaken := station.inboundTaken + (station.inboundBytes arrivals count).length } := by
  rw [turn_frame running nonempty complete]
  have opened : (onTransport (peel env.peer · frame (inboundLayers cfg.role))).run
      { station.loop.io with inbound := (station.loop.io.inbound.receive (station.inboundBytes arrivals count)).2 } =
      (.ok (.forward blob), { station.loop.io with
        inbound := (station.loop.io.inbound.receive (station.inboundBytes arrivals count)).2, transport := tx }) := by
    simp only [onTransport, peeled]
  rw [onInboundFrame, Program.run_bind_of_ok opened]
  simp only [onPeeled, Program.run_get_bind, linked, if_true, settle_write]

end Inbound

/-- One turn on bytes of the next link: no bytes end the circuit, a part of a frame is kept, and
a whole frame is wrapped. -/
theorem turn_next {depth : Nat} {acc : FrameAccumulator} (running : station.loop.ended = none)
    (link : station.loop.io.nextLink = some acc) (layers : inboundLayers cfg.role = depth + 1)
    (frameLen : acc.frameLen = linkCellLen depth) (arrivals nextArrivals : Bytes) (count : Nat) :
    (station.nextBytes nextArrivals count = [] ∧
      station.turn aead cfg env arrivals nextArrivals (.next count) =
        { station with loop := { station.loop with ended := some (.error (.io .unexpectedEof)) } }) ∨
    (station.nextBytes nextArrivals count ≠ [] ∧ (acc.receive (station.nextBytes nextArrivals count)).1 = none ∧
      station.turn aead cfg env arrivals nextArrivals (.next count) =
        { station with
          loop := ⟨{ station.loop.io with
            nextLink := some (acc.receive (station.nextBytes nextArrivals count)).2 }, none⟩
          nextTaken := station.nextTaken + (station.nextBytes nextArrivals count).length }) ∨
    station.nextBytes nextArrivals count ≠ [] ∧
      ∃ frame, frame.length = linkCellLen depth ∧
        (acc.receive (station.nextBytes nextArrivals count)).1 = some frame ∧
        station.turn aead cfg env arrivals nextArrivals (.next count) =
          { station with
            loop := ⟨{ station.loop.io with
              nextLink := some (acc.receive (station.nextBytes nextArrivals count)).2
              transport := station.loop.io.transport.push aead (forwardPlain frame)
              outputs := station.loop.io.outputs ++
                [(env.instant, put (env.fault station.loop.io.outputs.length) .client
                  (aead.encrypt station.loop.io.transport.key station.loop.io.transport.sent.length
                    (forwardPlain frame)))] },
              endedBy (env.fault station.loop.io.outputs.length)⟩
            nextTaken := station.nextTaken + (station.nextBytes nextArrivals count).length } := by
  rcases station with ⟨⟨io, ended⟩, inboundTaken, nextTaken⟩
  cases running
  simp only at link
  simp only [Station.turn, CircuitLoop.step, Relay.turn, Program.run_get_bind, link]
  split_ifs with eof
  · left
    refine ⟨List.isEmpty_iff.mp eof, ?_⟩
    simp only [List.isEmpty_iff.mp eof, List.length_nil, Nat.add_zero]
    rfl
  right
  have nonempty := fun none => eof (List.isEmpty_iff.mpr none)
  rw [whenFrame_run]
  rcases received : acc.receive (Station.nextBytes ⟨⟨io, none⟩, inboundTaken, nextTaken⟩ nextArrivals count) with
    ⟨completed, held⟩
  cases completed with
  | none => exact .inl ⟨nonempty, rfl, rfl⟩
  | some frame =>
      have size : frame.length = linkCellLen depth := (FrameAccumulator.length_of_receive received).trans frameLen
      have opened : (onTransport (sealForward aead · frame (inboundLayers cfg.role))).run
          { io with nextLink := some held } =
          (.ok (aead.encrypt io.transport.key io.transport.sent.length (forwardPlain frame)),
            { io with
              nextLink := some held
              transport := io.transport.push aead (forwardPlain frame) }) := by
        simp only [onTransport, layers, sealForward_of_length aead io.transport size]
      refine .inr ⟨nonempty, frame, size, rfl, ?_⟩
      simp only
      rw [onNextFrame, Program.run_bind_of_ok opened, settle_write]

/-- The relay with one more cell sealed and its frame, or a part of it, on the client's link. -/
def replying (aead : NoiseAead Key) (instant : Instant) (fault : Option Nat) (cell : Cell) (io : CircuitIo Key) :
    CircuitIo Key :=
  { io with
    transport := io.transport.push aead (toMePlain cell 1)
    outputs := io.outputs ++ [(instant, put fault .client
      (aead.encrypt io.transport.key io.transport.sent.length (toMePlain cell 1)))] }

theorem reply_eq (layers : inboundLayers cfg.role = 1) {cellType : CellType} {payload : Bytes}
    (small : payload.length ≤ cellPayloadLen) (io : CircuitIo Key) :
    (reply aead cfg env cellType payload).run io = (putResult (env.fault io.outputs.length),
      replying aead env.instant (env.fault io.outputs.length) ⟨cellType, payload⟩ io) := by
  have fits : (Cell.mk cellType payload).Fits := small
  have made : (Program.ofExcept .cell (Cell.new cellType payload) : CircuitM Key Cell).run io =
      (.ok ⟨cellType, payload⟩, io) := by
    rw [Cell.new_of_le small]
    rfl
  have opened : (onTransport (sealToMe aead · ⟨cellType, payload⟩ (inboundLayers cfg.role))).run io =
      (.ok (aead.encrypt io.transport.key io.transport.sent.length (toMePlain ⟨cellType, payload⟩ 1)),
        { io with transport := io.transport.push aead (toMePlain ⟨cellType, payload⟩ 1) }) := by
    simp only [onTransport, layers, sealToMe_of_fits aead io.transport fits 0]
  rw [reply, Program.run_bind_of_ok made, Program.run_bind_of_ok opened, write_eq]
  rfl

end Turns

end Circuit
end QuietHop
