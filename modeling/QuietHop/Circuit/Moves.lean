import QuietHop.Circuit.Turns

namespace QuietHop
namespace Circuit

open Lib Wire Client Relay

/-!
# What a turn does to the flow

A relay between the client and the exit, seen from its two links.  In the data phase a turn
of its loop is one of a few moves: it reads a part of a frame, passes a frame on, wraps one,
or ends.  Where a write breaks off the relay ends with a piece of the frame on the link.
-/

namespace Station

variable {Key : Type}

/-- The relay as a reader of its inbound link. -/
def reader (sink : Sink) (station : Station Key) : Reader :=
  ⟨station.loop.ended.isNone, station.loop.io.transport.received, station.loop.io.inbound, station.inboundTaken,
    written sink station.loop.io.outputs⟩

/-- The relay as a wrapper of its next link. -/
def wrapper (station : Station Key) : Wrapper Key :=
  ⟨station.loop.ended.isNone, ⟨station.loop.io.transport.key, station.loop.io.transport.sent⟩,
    station.loop.io.nextLink.getD (FrameAccumulator.new 0), station.nextTaken,
    written .client station.loop.io.outputs⟩

theorem reader_of_running {station : Station Key} (running : station.loop.ended = none) (sink : Sink) :
    { station.reader sink with running := true } = station.reader sink := by
  simp [reader, running]

theorem wrapper_of_running {station : Station Key} (running : station.loop.ended = none) :
    { station.wrapper with running := true } = station.wrapper := by
  simp [wrapper, running]

end Station

/-- Errors of the circuit's own making. -/
def Benign : HandleError -> Prop
  | .layer _ => False
  | .cell _ => False
  | .illegalCellForRole _ _ => False
  | _ => True

theorem benign_endedBy (fault : Option Nat) (reason : HandleError) (ended : endedBy fault = some (.error reason)) :
    Benign reason := by
  cases fault with
  | none => cases ended
  | some count =>
      cases ended
      trivial

section Moves

variable {Key : Type}

inductive Moves (aead : NoiseAead Key) (depth : Nat) (log : List Sealed) (arrivals nextArrivals : Bytes)
    (before after : Station Key) : Prop where
  | stays (same : after = before)
  | stops (reader : after.reader .next = { before.reader .next with running := false })
      (wrapper : after.wrapper = { before.wrapper with running := false })
  | reads (count : Nat) (fits : count ≤ before.loop.io.inbound.room)
      (incomplete : (before.loop.io.inbound.receive ((arrivals.drop before.inboundTaken).take count)).1 = none)
      (reader : after.reader .next = (before.reader .next).read ((arrivals.drop before.inboundTaken).take count))
      (wrapper : after.wrapper = before.wrapper)
  | passes (count : Nat) (fits : count ≤ before.loop.io.inbound.room) (frame blob piece : Bytes) (runs : Bool)
      (complete : (before.loop.io.inbound.receive ((arrivals.drop before.inboundTaken).take count)).1 = some frame)
      (peeled : (peel log before.loop.io.transport frame (depth + 1)).1 = .ok (.forward blob))
      (part : piece <+: blob) (whole : runs = true -> piece = blob)
      (reader : after.reader .next =
        { (before.reader .next).read ((arrivals.drop before.inboundTaken).take count) with
          running := runs
          received := before.loop.io.transport.received + 1
          out := (before.reader .next).out ++ piece })
      (wrapper : after.wrapper = { before.wrapper with running := runs })
  | nextReads (count : Nat) (fits : count ≤ before.wrapper.acc.room)
      (incomplete : (before.wrapper.acc.receive ((nextArrivals.drop before.nextTaken).take count)).1 = none)
      (reader : after.reader .next = before.reader .next)
      (wrapper : after.wrapper = before.wrapper.read ((nextArrivals.drop before.nextTaken).take count))
  | wraps (count : Nat) (fits : count ≤ before.wrapper.acc.room) (frame piece : Bytes) (runs : Bool)
      (complete : (before.wrapper.acc.receive ((nextArrivals.drop before.nextTaken).take count)).1 = some frame)
      (part : piece <+: before.wrapper.tx.frame aead (Peeled.plain (depth + 1) (.forward frame)))
      (whole : runs = true -> piece = before.wrapper.tx.frame aead (Peeled.plain (depth + 1) (.forward frame)))
      (reader : after.reader .next = { before.reader .next with running := runs })
      (wrapper : after.wrapper = Inward.wrapped aead (depth + 1)
        (before.wrapper.read ((nextArrivals.drop before.nextTaken).take count)) frame piece runs)

/-- A relay that has its next link and no destination. -/
structure Linked (station : Station Key) : Prop where
  nextLink : station.loop.io.nextLink.isSome = true
  noDest : station.loop.io.destLink = false

variable {aead : NoiseAead Key} {cfg : RelayConfig} {env : Env} {before : Station Key} {arrivals nextArrivals : Bytes}
  {depth : Nat}

/-- What is left to show about a turn: its move, and that the relay stays as it was set up
or ends without an error of its own making. -/
structure Moved (aead : NoiseAead Key) (depth : Nat) (log : List Sealed) (arrivals nextArrivals : Bytes)
    (before after : Station Key) : Prop where
  moves : Moves aead depth log arrivals nextArrivals before after
  linked : Linked after
  benign : forall reason, after.loop.ended = some (.error reason) -> Benign reason

/-- A relay that still runs goes on reading whole frames of the next link. -/
theorem Moves.fit {log : List Sealed} {after : Station Key}
    (moves : Moves aead depth log arrivals nextArrivals before after) (fit : before.wrapper.Fit depth nextArrivals)
    (running : after.wrapper.running = true) : after.wrapper.Fit depth nextArrivals := by
  cases moves with
  | stays same =>
      rw [same]
      exact fit
  | stops reader wrapper =>
      rw [wrapper] at running
      cases running
  | reads count fits incomplete reader wrapper =>
      rw [wrapper]
      exact fit
  | passes count fits frame blob piece runs complete peeled part whole reader wrapper =>
      rw [wrapper]
      exact ⟨fit.unfilled, fit.frameLen, fit.within⟩
  | nextReads count fits incomplete reader wrapper =>
      rw [wrapper]
      exact fit.read fits
  | wraps count fits frame piece runs complete part whole reader wrapper =>
      have reads := fit.read fits
      rw [wrapper]
      exact ⟨reads.unfilled, reads.frameLen, reads.within⟩

/-- What a relay has written towards the client only grows. -/
theorem Moves.grown {log : List Sealed} {after : Station Key}
    (moves : Moves aead depth log arrivals nextArrivals before after) :
    ∃ piece, after.wrapper.out = before.wrapper.out ++ piece := by
  cases moves with
  | wraps count fits frame piece runs complete part whole reader wrapper => exact ⟨piece, by rw [wrapper]; rfl⟩
  | stays same => exact ⟨[], by rw [same, List.append_nil]⟩
  | stops reader wrapper => exact ⟨[], by rw [wrapper, List.append_nil]⟩
  | reads count fits incomplete reader wrapper => exact ⟨[], by rw [wrapper, List.append_nil]⟩
  | passes count fits frame blob piece runs complete peeled part whole reader wrapper =>
      exact ⟨[], by rw [wrapper, List.append_nil]⟩
  | nextReads count fits incomplete reader wrapper =>
      exact ⟨[], by rw [wrapper, List.append_nil]; rfl⟩

theorem moved_of_stop {log : List Sealed} {reason : HandleError} (linked : Linked before) (benign : Benign reason) :
    Moved aead depth log arrivals nextArrivals before
      { before with loop := { before.loop with ended := some (.error reason) } } where
  moves := .stops rfl rfl
  linked := ⟨linked.nextLink, linked.noDest⟩
  benign := by
    intro other same
    cases same
    exact benign

theorem moved_inbound (running : before.loop.ended = none) (linked : Linked before)
    (layers : inboundLayers cfg.role = depth + 1) (count : Nat)
    (peels : forall frame, (before.loop.io.inbound.receive (before.inboundBytes arrivals count)).1 = some frame ->
      ∃ blob, peel env.peer before.loop.io.transport frame (depth + 1) = (.ok (.forward blob),
        { before.loop.io.transport with received := before.loop.io.transport.received + 1 })) :
    Moved aead depth env.peer arrivals nextArrivals before
      (before.turn aead cfg env arrivals nextArrivals (.inbound count)) := by
  have reads := @turn_inbound Key aead cfg env before running arrivals nextArrivals count
  rcases before with ⟨⟨io, ended⟩, inboundTaken, nextTaken⟩
  cases running
  have fits : min count io.inbound.room ≤ io.inbound.room := Nat.min_le_right _ _
  rcases reads with ⟨-, stopped⟩ | ⟨-, incomplete, turned⟩ | ⟨nonempty, frame, complete, -⟩
  · rw [stopped]
    exact moved_of_stop linked trivial
  · rw [turned]
    exact ⟨.reads _ fits incomplete rfl rfl, ⟨linked.nextLink, linked.noDest⟩, fun _ ended => by cases ended⟩
  · rcases peels frame complete with ⟨blob, peeled⟩
    have opened := congrArg Prod.fst peeled
    rw [← layers] at peeled
    rw [turn_passes rfl linked.nextLink nonempty complete peeled]
    refine ⟨.passes _ fits frame blob _ (env.fault io.outputs.length).isNone complete opened
      (putBytes_part (env.fault io.outputs.length) blob) (fun sound => putBytes_of_isNone sound blob) ?_ ?_,
      ⟨linked.nextLink, linked.noDest⟩, benign_endedBy _⟩
    · simp [Station.reader, Reader.read, Station.inboundBytes]
    · simp [Station.wrapper]

theorem moved_next (running : before.loop.ended = none) (linked : Linked before)
    (layers : inboundLayers cfg.role = depth + 1) (fit : before.wrapper.Fit depth nextArrivals) (log : List Sealed)
    (count : Nat) :
    Moved aead depth log arrivals nextArrivals before
      (before.turn aead cfg env arrivals nextArrivals (.next count)) := by
  rcases Option.isSome_iff_exists.mp linked.nextLink with ⟨acc, link⟩
  have accOf : before.wrapper.acc = acc := by simp only [Station.wrapper, link, Option.getD_some]
  have bytesOf : before.nextBytes nextArrivals count =
      (nextArrivals.drop before.nextTaken).take (min count acc.room) := by
    simp only [Station.nextBytes, Station.nextRoom, link]
  have reads := @turn_next Key aead cfg env before depth acc running link layers (accOf ▸ fit.frameLen) arrivals
    nextArrivals count
  rcases before with ⟨⟨io, ended⟩, inboundTaken, nextTaken⟩
  cases running
  rw [bytesOf] at reads
  have fits : min count acc.room ≤ (Station.wrapper ⟨⟨io, none⟩, inboundTaken, nextTaken⟩).acc.room := by
    rw [accOf]
    exact Nat.min_le_right _ _
  rcases reads with ⟨-, stopped⟩ | ⟨-, incomplete, turned⟩ | ⟨-, frame, -, complete, turned⟩
  · rw [stopped]
    exact moved_of_stop linked trivial
  · rw [turned]
    refine ⟨.nextReads _ fits (accOf ▸ incomplete) rfl ?_, ⟨rfl, linked.noDest⟩, fun _ ended => by cases ended⟩
    simp only [Wrapper.read, accOf]
    rfl
  · rw [turned]
    refine ⟨.wraps _ fits frame _ (env.fault io.outputs.length).isNone (accOf ▸ complete)
      (putBytes_part (env.fault io.outputs.length) _) (fun sound => putBytes_of_isNone sound _) ?_ ?_,
      ⟨rfl, linked.noDest⟩, benign_endedBy _⟩
    · simp [Station.reader]
    · simp only [Wrapper.read, accOf, Inward.wrapped]
      simp [Station.wrapper, Outgoing.push, Outgoing.frame, Peeled.plain]

/-- Every turn of a relay in the data phase is one of the moves. -/
theorem moved_turn (running : before.loop.ended = none) (linked : Linked before)
    (layers : inboundLayers cfg.role = depth + 1) (fit : before.wrapper.Fit depth nextArrivals)
    (peels : forall count frame, (before.loop.io.inbound.receive (before.inboundBytes arrivals count)).1 = some frame ->
      ∃ blob, peel env.peer before.loop.io.transport frame (depth + 1) = (.ok (.forward blob),
        { before.loop.io.transport with received := before.loop.io.transport.received + 1 }))
    (event : RelayEvent) :
    Moved aead depth env.peer arrivals nextArrivals before
      (before.turn aead cfg env arrivals nextArrivals event) := by
  rcases before with ⟨⟨io, ended⟩, inboundTaken, nextTaken⟩
  cases running
  have noDest : io.destLink = false := linked.noDest
  have nextLink : io.nextLink.isSome = true := linked.nextLink
  have stays : Moved aead depth env.peer arrivals nextArrivals ⟨⟨io, none⟩, inboundTaken, nextTaken⟩
      ⟨⟨io, none⟩, inboundTaken, nextTaken⟩ := ⟨.stays rfl, linked, fun _ ended => by cases ended⟩
  cases event with
  | inbound count => exact moved_inbound rfl linked layers count (peels count)
  | next count => exact moved_next rfl linked layers fit env.peer count
  | inboundError error => exact moved_of_stop linked trivial
  | timeout => exact moved_of_stop linked trivial
  | nextError error =>
      simp only [Station.turn, CircuitLoop.step, Relay.turn, Program.run_get_bind, nextLink, if_true]
      exact moved_of_stop linked trivial
  | dest bytes =>
      simp only [Station.turn, CircuitLoop.step, Relay.turn, Program.run_get_bind, noDest, Bool.false_eq_true, if_false]
      exact stays
  | destError error =>
      simp only [Station.turn, CircuitLoop.step, Relay.turn, Program.run_get_bind, noDest, Bool.false_eq_true, if_false]
      exact stays

end Moves
end Circuit
end QuietHop
