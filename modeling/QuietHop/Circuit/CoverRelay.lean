import QuietHop.Circuit.Cover

namespace QuietHop
namespace Circuit

open Lib Lib.Thinning Wire Client Relay

/-!
# A relay with and without cover cells

Two relays that pass frames on, one in the covered circuit and one in the circuit without
cover cells.  Each has read and written what belongs to the place of the other, counted in
frames and in bytes of the frame that comes next.  They see frames of different content but
of one size, so they do the same wherever the next frame is not that of a cover cell.
-/

/-! ## The reading end of a link -/

/-- How many frames have been completed, what there is of the next one, and how much of the
link has been read. -/
structure ReadEnd where
  count : Nat
  acc : FrameAccumulator
  taken : Nat

namespace ReadEnd

/-- What one read finds. -/
def bytes (reading : ReadEnd) (arrivals : Bytes) (count : Nat) : Bytes :=
  (arrivals.drop reading.taken).take (min count reading.acc.room)

def read (reading : ReadEnd) (bytes : Bytes) : ReadEnd where
  count := reading.count + if (reading.acc.receive bytes).1.isSome then 1 else 0
  acc := (reading.acc.receive bytes).2
  taken := reading.taken + bytes.length

/-- A reading end at a place, counted from where it was at the beginning. -/
structure At (reading : ReadEnd) (size : Nat) (start : ReadEnd) (place : Place) : Prop where
  count : reading.count = start.count + place.blocks
  taken : reading.taken = start.taken + place.reached size
  part : reading.acc.buf.length = place.part
  frameLen : reading.acc.frameLen = size

variable {size : Nat} {start reading : ReadEnd} {place : Place}

theorem At.blocks (here : reading.At size start place) : reading.count - start.count = place.blocks := by
  rw [here.count, Nat.add_sub_cancel_left]

theorem At.room (here : reading.At size start place) : reading.acc.room = size - place.part := by
  rw [FrameAccumulator.room, FrameAccumulator.pending, here.part, here.frameLen]

theorem At.length_bytes (here : reading.At size start place) (arrivals : Bytes) (count : Nat) :
    (reading.bytes arrivals count).length =
      min count (min (size - place.part) (arrivals.length - start.taken - place.reached size)) := by
  rw [bytes, List.length_take, List.length_drop, here.room, here.taken]
  omega

/-- A read brings a part of the next frame, or completes it. -/
theorem At.read (here : reading.At size start place) (unfilled : place.part < size) {bytes : Bytes}
    (fits : bytes.length ≤ size - place.part) :
    (place.part + bytes.length < size ∧ (reading.acc.receive bytes).1 = none ∧
      (reading.read bytes).At size start ⟨place.blocks, place.part + bytes.length⟩) ∨
    (place.part + bytes.length = size ∧ (∃ frame, (reading.acc.receive bytes).1 = some frame) ∧
      (reading.read bytes).At size start ⟨place.blocks + 1, 0⟩) := by
  have held : reading.acc.Unfilled := by
    rw [FrameAccumulator.Unfilled, here.part, here.frameLen]
    exact unfilled
  have frameLen := (FrameAccumulator.receive_frameLen reading.acc bytes).trans here.frameLen
  have taken := here.taken
  rw [Place.reached] at taken
  rcases FrameAccumulator.receive_cases held (here.room ▸ fits) with ⟨received, short⟩ | ⟨received, full⟩
  · left
    rw [here.part, here.frameLen] at short
    refine ⟨short, by rw [received], ?_, ?_, ?_, frameLen⟩
    · simp [ReadEnd.read, received, here.count]
    · simp only [ReadEnd.read, Place.reached]
      omega
    · simp [ReadEnd.read, received, here.part]
  · right
    rw [List.length_append, here.part, here.frameLen] at full
    refine ⟨full, ⟨_, by rw [received]⟩, ?_, ?_, ?_, frameLen⟩
    · simp [ReadEnd.read, received, here.count, Nat.add_assoc]
    · simp only [ReadEnd.read, Place.reached, Nat.mul_succ]
      omega
    · simp [ReadEnd.read, received]

end ReadEnd

/-- The reading ends of a link in the two circuits, at places that belong together. -/
def Reading (size : Nat) (plains : List Bytes) (start whole thin : ReadEnd) : Prop :=
  ∃ inWhole inThin, Placed isReal size plains inWhole inThin ∧ whole.At size start inWhole ∧ thin.At size start inThin

namespace Reading

variable {size : Nat} {plains : List Bytes} {start whole thin : ReadEnd} {arrivals thinArrivals : Bytes}

theorem begin (size : Nat) (plains : List Bytes) {start : ReadEnd} (fresh : start.acc.buf = [])
    (frameLen : start.acc.frameLen = size) (positive : 0 < size) : Reading size plains start start start := by
  have here : start.At size start ⟨0, 0⟩ := ⟨rfl, rfl, by rw [fresh]; rfl, frameLen⟩
  refine ⟨⟨0, 0⟩, ⟨0, 0⟩, ⟨?_, positive, ?_, by simp⟩, here, here⟩
  · simp [Place.reached]
  · simp [keptBefore]

theorem grow (reading : Reading size plains start whole thin) (more : List Bytes) :
    Reading size (plains ++ more) start whole thin := by
  rcases reading with ⟨inWhole, inThin, placed, atWhole, atThin⟩
  exact ⟨inWhole, inThin, placed.grow more, atWhole, atThin⟩

/-- A reading end that has not passed the start of the stream. -/
theorem count_le (reading : Reading size plains start whole thin) : start.count ≤ whole.count := by
  rcases reading with ⟨inWhole, -, -, atWhole, -⟩
  rw [atWhole.count]
  exact Nat.le_add_right _ _

theorem thin_count_le (reading : Reading size plains start whole thin) : start.count ≤ thin.count := by
  rcases reading with ⟨-, inThin, -, -, atThin⟩
  rw [atThin.count]
  exact Nat.le_add_right _ _

/-- Where the covered circuit's read finds nothing, a read of nothing is made in the other. -/
theorem nothing (reading : ReadEnd) (arrivals : Bytes) : reading.bytes arrivals 0 = [] := by
  simp [ReadEnd.bytes]

/-- Whatever is read belongs to a frame that has been sealed. -/
theorem present (reading : Reading size plains start whole thin)
    (squeezed : Squeezed isReal size plains start.taken arrivals.length thinArrivals.length) {count : Nat}
    (nonempty : whole.bytes arrivals count ≠ []) : whole.count - start.count < plains.length := by
  rcases reading with ⟨inWhole, inThin, placed, atWhole, atThin⟩
  rcases squeezed with ⟨reached, within, length, -⟩
  have positive := List.length_pos_iff.mpr nonempty
  rw [atWhole.length_bytes, length] at positive
  rw [atWhole.blocks]
  by_contra beyond
  have enough : size * plains.length ≤ size * inWhole.blocks := Nat.mul_le_mul_left _ (Nat.le_of_not_lt beyond)
  simp only [Place.reached] at positive
  omega

/-- A frame that is read and is not that of a cover cell is kept. -/
theorem kept (reading : Reading size plains start whole thin)
    (squeezed : Squeezed isReal size plains start.taken arrivals.length thinArrivals.length) {count : Nat}
    (nonempty : whole.bytes arrivals count ≠ [])
    (uncovered : (plains[whole.count - start.count]? == some coverPlain) = false) :
    keptAt isReal plains (whole.count - start.count) = true := by
  have inside := reading.present squeezed nonempty
  rw [List.getElem?_eq_getElem inside] at uncovered
  have other : plains[whole.count - start.count] ≠ coverPlain := by simpa using uncovered
  simp [keptAt, List.getElem?_eq_getElem inside, isReal, other]

theorem skipped {plains : List Bytes} {index : Nat} (covered : (plains[index]? == some coverPlain) = true) :
    keptAt isReal plains index = false ∧ index < plains.length := by
  have found : plains[index]? = some coverPlain := by simpa using covered
  refine ⟨by simp [keptAt, found, isReal], ?_⟩
  by_contra beyond
  rw [List.getElem?_eq_none (Nat.le_of_not_lt beyond)] at found
  cases found

/-- The place of a frame that is kept in the circuit without cover cells. -/
theorem getElem?_thin (reading : Reading size plains start whole thin) {plain : Bytes}
    (here : plains[whole.count - start.count]? = some plain) (kept : isReal plain = true) :
    (plains.filter isReal)[thin.count - start.count]? = some plain := by
  rcases reading with ⟨inWhole, inThin, placed, atWhole, atThin⟩
  rw [atThin.blocks, placed.blocks]
  rw [atWhole.blocks] at here
  exact getElem?_filter_keptBefore here kept

/-- Both circuits find as much of a frame that is kept. -/
theorem length_bytes (reading : Reading size plains start whole thin)
    (squeezed : Squeezed isReal size plains start.taken arrivals.length thinArrivals.length)
    (within : whole.taken ≤ arrivals.length) (kept : keptAt isReal plains (whole.count - start.count) = true)
    (count : Nat) : (thin.bytes thinArrivals count).length = (whole.bytes arrivals count).length := by
  rcases reading with ⟨inWhole, inThin, placed, atWhole, atThin⟩
  rcases squeezed with ⟨reached, -, length, thinLength⟩
  rw [atWhole.blocks] at kept
  have taken := atWhole.taken
  have before : inWhole.reached size ≤ reached := by omega
  have same := (placed.same_read kept before).2
  rw [atWhole.length_bytes, atThin.length_bytes, length, thinLength, Nat.add_sub_cancel_left,
    Nat.add_sub_cancel_left, same]

theorem bytes_fit {reading : ReadEnd} {place : Place} (here : reading.At size start place) (arrivals : Bytes)
    (count : Nat) :
    (reading.bytes arrivals count).length ≤ size - place.part := by
  rw [here.length_bytes]
  omega

/-- A read of a kept frame, in both circuits: it completes the frame in both or in neither. -/
theorem step (reading : Reading size plains start whole thin)
    (kept : keptAt isReal plains (whole.count - start.count) = true) {count : Nat}
    (same : (thin.bytes thinArrivals count).length = (whole.bytes arrivals count).length) :
    Reading size plains start (whole.read (whole.bytes arrivals count)) (thin.read (thin.bytes thinArrivals count)) ∧
      ((whole.acc.receive (whole.bytes arrivals count)).1 = none ∧
          (thin.acc.receive (thin.bytes thinArrivals count)).1 = none ∨
        (∃ frame, (whole.acc.receive (whole.bytes arrivals count)).1 = some frame) ∧
          ∃ frame, (thin.acc.receive (thin.bytes thinArrivals count)).1 = some frame) := by
  rcases reading with ⟨inWhole, inThin, placed, atWhole, atThin⟩
  rw [atWhole.blocks] at kept
  have part : inThin.part = inWhole.part := by rw [placed.part, if_pos kept]
  have unfilled : inThin.part < size := part ▸ placed.unfilled
  rcases atWhole.read placed.unfilled (bytes_fit atWhole arrivals count) with
    ⟨short, none, next⟩ | ⟨full, some, next⟩
  · rcases atThin.read unfilled (bytes_fit atThin thinArrivals count) with ⟨-, thinNone, thinNext⟩ | ⟨thinFull, -⟩
    · rw [same] at thinNext
      exact ⟨⟨_, _, placed.advance kept short, next, thinNext⟩, .inl ⟨none, thinNone⟩⟩
    · omega
  · rcases atThin.read unfilled (bytes_fit atThin thinArrivals count) with ⟨thinShort, -⟩ | ⟨-, thinSome, thinNext⟩
    · omega
    · exact ⟨⟨_, _, placed.complete kept, next, thinNext⟩, .inr ⟨some, thinSome⟩⟩

/-- A read of a cover cell's frame, in the covered circuit. -/
theorem pass (reading : Reading size plains start whole thin)
    (covered : (plains[whole.count - start.count]? == some coverPlain) = true) (count : Nat) :
    Reading size plains start (whole.read (whole.bytes arrivals count)) thin := by
  rcases reading with ⟨inWhole, inThin, placed, atWhole, atThin⟩
  rw [atWhole.blocks] at covered
  rcases skipped covered with ⟨skipped, present⟩
  rcases atWhole.read placed.unfilled (bytes_fit atWhole arrivals count) with ⟨short, -, next⟩ | ⟨-, -, next⟩
  · exact ⟨_, _, placed.skip skipped present short, next, atThin⟩
  · exact ⟨_, _, placed.skipAll skipped present, next, atThin⟩

end Reading

/-! ## Relays that pass frames on -/

namespace Station

variable {Key : Type}

def inboundEnd (station : Station Key) : ReadEnd :=
  ⟨station.loop.io.transport.received, station.loop.io.inbound, station.inboundTaken⟩

def nextEnd (station : Station Key) : ReadEnd :=
  ⟨station.loop.io.transport.sent.length, station.loop.io.nextLink.getD (FrameAccumulator.new 0), station.nextTaken⟩

/-- How much has been written to a link. -/
def wrote (sink : Sink) (station : Station Key) : Nat :=
  (written sink station.loop.io.outputs).length

theorem nextBytes_eq (station : Station Key) (arrivals : Bytes) (count : Nat) :
    station.nextBytes arrivals count = station.nextEnd.bytes arrivals count := by
  rw [nextBytes, nextRoom, ReadEnd.bytes, nextEnd]
  cases station.loop.io.nextLink with
  | none => rfl
  | some acc => rfl

end Station

/-- A relay of the covered circuit and its counterpart.  `out` and `back` are what has been
sealed at the two ends. -/
structure Tallies {Key : Type} (out back : List Bytes) (depth : Nat) (start whole thin : Station Key) : Prop where
  ended : thin.loop.ended = whole.loop.ended
  fewer : thin.loop.io.outputs.length ≤ whole.loop.io.outputs.length
  inbound : whole.loop.ended = none ->
    Reading (linkCellLen (depth + 1)) out start.inboundEnd whole.inboundEnd thin.inboundEnd
  next : whole.loop.ended = none -> Reading (linkCellLen depth) back start.nextEnd whole.nextEnd thin.nextEnd
  toNext : Squeezed isReal (linkCellLen depth) out (start.wrote .next) (whole.wrote .next) (thin.wrote .next)
  toClient : Squeezed isReal (linkCellLen (depth + 1)) back (start.wrote .client) (whole.wrote .client)
    (thin.wrote .client)
  -- A relay that runs has passed on every frame it has completed.
  passed : whole.loop.ended = none -> whole.wrote .next = start.wrote .next +
    linkCellLen depth * (whole.inboundEnd.count - start.inboundEnd.count)
  wrapped : whole.loop.ended = none -> whole.wrote .client = start.wrote .client +
    linkCellLen (depth + 1) * (whole.nextEnd.count - start.nextEnd.count)

namespace Tallies

variable {Key : Type} {out back : List Bytes} {depth : Nat} {start whole thin : Station Key}

theorem grow (tallies : Tallies out back depth start whole thin) (moreOut moreBack : List Bytes) :
    Tallies (out ++ moreOut) (back ++ moreBack) depth start whole thin :=
  { tallies with
    inbound := fun running => (tallies.inbound running).grow moreOut
    next := fun running => (tallies.next running).grow moreBack
    toNext := tallies.toNext.grow moreOut
    toClient := tallies.toClient.grow moreBack }

/-- Both relays end, without having done anything. -/
theorem stop (tallies : Tallies out back depth start whole thin) (result : Except HandleError Unit) :
    Tallies out back depth start { whole with loop := { whole.loop with ended := some result } }
      { thin with loop := { thin.loop with ended := some result } } :=
  { tallies with
    ended := rfl
    inbound := fun running => by cases running
    next := fun running => by cases running
    passed := fun running => by cases running
    wrapped := fun running => by cases running }

/-- Neither relay does anything. -/
theorem stay (tallies : Tallies out back depth start whole thin) (running : whole.loop.ended = none) :
    Tallies out back depth start { whole with loop := ⟨whole.loop.io, none⟩ }
      { thin with loop := ⟨thin.loop.io, none⟩ } :=
  { tallies with
    ended := rfl
    inbound := fun _ => tallies.inbound running
    next := fun _ => tallies.next running
    passed := fun _ => tallies.passed running
    wrapped := fun _ => tallies.wrapped running }

section Turns

variable {aead : NoiseAead Key} {cfg : RelayConfig} {env thinEnv : Env}
  {arrivals thinArrivals nextArrivals thinNext : Bytes} {count : Nat}

/-- Where the relay completes a frame, it peels to a frame of the next link. -/
def Opens (depth : Nat) (log : List Sealed) (station : Station Key) (arrivals : Bytes) : Prop :=
  forall count frame, (station.loop.io.inbound.receive (station.inboundBytes arrivals count)).1 = some frame ->
    ∃ blob, blob.length = linkCellLen depth ∧
      peel log station.loop.io.transport frame (depth + 1) = (.ok (.forward blob),
        { station.loop.io.transport with received := station.loop.io.transport.received + 1 })

theorem inboundNothing (tallies : Tallies out back depth start whole thin) (running : whole.loop.ended = none)
    (nothing : whole.inboundBytes arrivals count = []) :
    Tallies out back depth start (whole.turn aead cfg env arrivals nextArrivals (.inbound count))
      (thin.turn aead cfg thinEnv thinArrivals thinNext (.inbound 0)) := by
  have thinRuns : thin.loop.ended = none := tallies.ended.trans running
  have thinNothing : thin.inboundBytes thinArrivals 0 = [] := Reading.nothing thin.inboundEnd thinArrivals
  rw [turn_ends running nothing, turn_ends thinRuns thinNothing]
  exact tallies.stop _

/-- A frame that is kept is read and passed on by both relays. -/
theorem inboundKept (tallies : Tallies out back depth start whole thin) (running : whole.loop.ended = none)
    (linked : whole.loop.io.nextLink.isSome = true) (thinLinked : thin.loop.io.nextLink.isSome = true)
    (layers : inboundLayers cfg.role = depth + 1)
    (squeezed : Squeezed isReal (linkCellLen (depth + 1)) out start.inboundTaken arrivals.length thinArrivals.length)
    (within : whole.inboundTaken ≤ arrivals.length) (opens : Opens depth env.peer whole arrivals)
    (thinOpens : Opens depth thinEnv.peer thin thinArrivals)
    (fault : thinEnv.fault thin.loop.io.outputs.length = env.fault whole.loop.io.outputs.length)
    (nonempty : whole.inboundBytes arrivals count ≠ [])
    (uncovered : (out[whole.inboundEnd.count - start.inboundEnd.count]? == some coverPlain) = false) :
    Tallies out back depth start (whole.turn aead cfg env arrivals nextArrivals (.inbound count))
      (thin.turn aead cfg thinEnv thinArrivals thinNext (.inbound count)) := by
  have thinRuns : thin.loop.ended = none := tallies.ended.trans running
  have reading := tallies.inbound running
  have kept := reading.kept squeezed nonempty uncovered
  have same := reading.length_bytes squeezed within kept count
  have thinNonempty : thin.inboundBytes thinArrivals count ≠ [] := by
    rw [← List.length_pos_iff] at nonempty ⊢
    exact Nat.lt_of_lt_of_eq nonempty same.symm
  rcases reading.step kept same with ⟨after, ⟨none, thinNone⟩ | ⟨⟨frame, complete⟩, thinFrame, thinComplete⟩⟩
  · -- A part of the frame.
    rw [turn_reads running nonempty none, turn_reads thinRuns thinNonempty thinNone]
    simp only [ReadEnd.read, none, thinNone, Option.isSome_none, Bool.false_eq_true, if_false, Nat.add_zero] at after
    exact { tallies with
      ended := rfl
      inbound := fun _ => after
      next := fun _ => tallies.next running
      passed := fun _ => tallies.passed running
      wrapped := fun _ => tallies.wrapped running }
  · -- The whole frame.
    rcases opens count frame complete with ⟨blob, size, peeled⟩
    rcases thinOpens count thinFrame thinComplete with ⟨thinBlob, thinSize, thinPeeled⟩
    rw [← layers] at peeled thinPeeled
    rw [turn_passes running linked nonempty complete peeled,
      turn_passes thinRuns thinLinked thinNonempty thinComplete thinPeeled, fault]
    simp only [ReadEnd.read, complete, thinComplete, Option.isSome_some, if_true] at after
    have begun := reading.count_le
    have aligned := tallies.passed running
    constructor
    · rfl
    · simpa using tallies.fewer
    · exact fun _ => after
    · exact fun _ => tallies.next running
    · simp only [Station.wrote, length_written_put, size, thinSize]
      exact tallies.toNext.write aligned kept (putLength_le _ _)
    · simp only [Station.wrote, written_put_of_ne (show Sink.next ≠ Sink.client by decide)]
      exact tallies.toClient
    · intro runs
      cases noFault : env.fault whole.loop.io.outputs.length with
      | some broken => simp [noFault, endedBy] at runs
      | none =>
          simp only [Station.wrote, length_written_put, size, putLength]
          simp only [Station.wrote, Station.inboundEnd] at aligned begun ⊢
          rw [aligned, Nat.succ_sub begun, Nat.mul_succ, Nat.add_assoc]
    · intro _
      simp only [Station.wrote, written_put_of_ne (show Sink.next ≠ Sink.client by decide)]
      exact tallies.wrapped running

/-- The frame of a cover cell is read and passed on by the covered circuit's relay alone. -/
theorem inboundCover (tallies : Tallies out back depth start whole thin) (running : whole.loop.ended = none)
    (linked : whole.loop.io.nextLink.isSome = true) (layers : inboundLayers cfg.role = depth + 1)
    (opens : Opens depth env.peer whole arrivals) (sound : env.fault whole.loop.io.outputs.length = none)
    (nonempty : whole.inboundBytes arrivals count ≠ [])
    (covered : (out[whole.inboundEnd.count - start.inboundEnd.count]? == some coverPlain) = true) :
    Tallies out back depth start (whole.turn aead cfg env arrivals nextArrivals (.inbound count)) thin := by
  have thinRuns : thin.loop.ended = none := tallies.ended.trans running
  have reading := tallies.inbound running
  have after := @Reading.pass _ _ _ _ _ arrivals reading covered count
  rcases @turn_inbound Key aead cfg env whole running arrivals nextArrivals count with
    ⟨empty, -⟩ | ⟨-, incomplete, turned⟩ | ⟨-, frame, complete, -⟩
  · exact absurd empty nonempty
  · have inWhole : (whole.inboundEnd.acc.receive (whole.inboundEnd.bytes arrivals count)).1 = none := incomplete
    rw [turned]
    simp only [ReadEnd.read, inWhole, Option.isSome_none, Bool.false_eq_true, if_false, Nat.add_zero] at after
    exact { tallies with
      ended := thinRuns
      inbound := fun _ => after
      next := fun _ => tallies.next running
      passed := fun _ => tallies.passed running
      wrapped := fun _ => tallies.wrapped running }
  · have inWhole : (whole.inboundEnd.acc.receive (whole.inboundEnd.bytes arrivals count)).1 = some frame := complete
    rcases opens count frame complete with ⟨blob, size, peeled⟩
    rw [← layers] at peeled
    rw [turn_passes running linked nonempty complete peeled, sound]
    simp only [ReadEnd.read, inWhole, Option.isSome_some, if_true] at after
    rcases Reading.skipped covered with ⟨skipped, present⟩
    have begun := reading.count_le
    have aligned := tallies.passed running
    have fewer := tallies.fewer
    constructor
    · exact thinRuns
    · simp only [List.length_append, List.length_singleton]
      omega
    · exact fun _ => after
    · exact fun _ => tallies.next running
    · simp only [Station.wrote, length_written_put, size, putLength]
      exact tallies.toNext.skip aligned skipped present
    · simp only [Station.wrote, written_put_of_ne (show Sink.next ≠ Sink.client by decide)]
      exact tallies.toClient
    · intro _
      simp only [Station.wrote, length_written_put, size, putLength]
      simp only [Station.wrote, Station.inboundEnd] at aligned begun ⊢
      rw [aligned, Nat.succ_sub begun, Nat.mul_succ, Nat.add_assoc]
    · intro _
      simp only [Station.wrote, written_put_of_ne (show Sink.next ≠ Sink.client by decide)]
      exact tallies.wrapped running

theorem nextNothing {acc thinAcc : FrameAccumulator} (tallies : Tallies out back depth start whole thin)
    (running : whole.loop.ended = none) (link : whole.loop.io.nextLink = some acc)
    (thinLink : thin.loop.io.nextLink = some thinAcc) (layers : inboundLayers cfg.role = depth + 1)
    (frameLen : acc.frameLen = linkCellLen depth) (thinFrameLen : thinAcc.frameLen = linkCellLen depth)
    (nothing : whole.nextBytes nextArrivals count = []) :
    Tallies out back depth start (whole.turn aead cfg env arrivals nextArrivals (.next count))
      (thin.turn aead cfg thinEnv thinArrivals thinNext (.next 0)) := by
  have thinRuns : thin.loop.ended = none := tallies.ended.trans running
  have thinNothing : thin.nextBytes thinNext 0 = [] := by
    rw [Station.nextBytes_eq]
    exact Reading.nothing thin.nextEnd thinNext
  rcases @turn_next Key aead cfg env whole depth acc running link layers frameLen arrivals nextArrivals count with
    ⟨-, turned⟩ | ⟨some, -⟩ | ⟨some, -⟩
  · rcases @turn_next Key aead cfg thinEnv thin depth thinAcc thinRuns thinLink layers thinFrameLen thinArrivals thinNext
      0 with ⟨-, thinTurned⟩ | ⟨some, -⟩ | ⟨some, -⟩
    · rw [turned, thinTurned]
      exact tallies.stop _
    · exact absurd thinNothing some
    · exact absurd thinNothing some
  · exact absurd nothing some
  · exact absurd nothing some

/-- A frame that is kept is read and wrapped by both relays. -/
theorem nextKept {acc thinAcc : FrameAccumulator} (tallies : Tallies out back depth start whole thin)
    (running : whole.loop.ended = none) (link : whole.loop.io.nextLink = some acc)
    (thinLink : thin.loop.io.nextLink = some thinAcc) (layers : inboundLayers cfg.role = depth + 1)
    (frameLen : acc.frameLen = linkCellLen depth) (thinFrameLen : thinAcc.frameLen = linkCellLen depth)
    (squeezed : Squeezed isReal (linkCellLen depth) back start.nextTaken nextArrivals.length thinNext.length)
    (within : whole.nextTaken ≤ nextArrivals.length)
    (fault : thinEnv.fault thin.loop.io.outputs.length = env.fault whole.loop.io.outputs.length)
    (nonempty : whole.nextBytes nextArrivals count ≠ [])
    (uncovered : (back[whole.nextEnd.count - start.nextEnd.count]? == some coverPlain) = false) :
    Tallies out back depth start (whole.turn aead cfg env arrivals nextArrivals (.next count))
      (thin.turn aead cfg thinEnv thinArrivals thinNext (.next count)) := by
  have thinRuns : thin.loop.ended = none := tallies.ended.trans running
  have reading := tallies.next running
  have accOf : whole.nextEnd.acc = acc := by simp [Station.nextEnd, link]
  have thinAccOf : thin.nextEnd.acc = thinAcc := by simp [Station.nextEnd, thinLink]
  have bytesOf := whole.nextBytes_eq nextArrivals count
  have thinBytesOf := thin.nextBytes_eq thinNext count
  have kept := reading.kept squeezed (bytesOf ▸ nonempty) uncovered
  have same := reading.length_bytes squeezed within kept count
  have thinNonempty : thin.nextBytes thinNext count ≠ [] := by
    rw [← List.length_pos_iff, bytesOf] at nonempty
    rw [← List.length_pos_iff, thinBytesOf]
    exact Nat.lt_of_lt_of_eq nonempty same.symm
  rcases reading.step kept same with ⟨after, split⟩
  rw [accOf, thinAccOf, ← bytesOf, ← thinBytesOf] at split
  rw [ReadEnd.read, ReadEnd.read, accOf, thinAccOf, ← bytesOf, ← thinBytesOf] at after
  rcases @turn_next Key aead cfg env whole depth acc running link layers frameLen arrivals nextArrivals count with
    ⟨empty, -⟩ | ⟨-, none, turned⟩ | ⟨-, frame, size, complete, turned⟩
  · exact absurd empty nonempty
  · rcases @turn_next Key aead cfg thinEnv thin depth thinAcc thinRuns thinLink layers thinFrameLen thinArrivals thinNext
      count with ⟨empty, -⟩ | ⟨-, thinNone, thinTurned⟩ | ⟨-, frame, -, thinComplete, -⟩
    · exact absurd empty thinNonempty
    · rw [turned, thinTurned]
      simp only [none, thinNone, Option.isSome_none, Bool.false_eq_true, if_false, Nat.add_zero] at after
      exact { tallies with
        ended := rfl
        inbound := fun _ => tallies.inbound running
        next := fun _ => after
        passed := fun _ => tallies.passed running
        wrapped := fun _ => tallies.wrapped running }
    · simp [none, thinComplete] at split
  · rcases @turn_next Key aead cfg thinEnv thin depth thinAcc thinRuns thinLink layers thinFrameLen thinArrivals thinNext
      count with ⟨empty, -⟩ | ⟨-, thinNone, -⟩ | ⟨-, thinFrame, thinSize, thinComplete, thinTurned⟩
    · exact absurd empty thinNonempty
    · simp [complete, thinNone] at split
    rw [turned, thinTurned, fault]
    simp only [complete, thinComplete, Option.isSome_some, if_true] at after
    have begun := reading.count_le
    have aligned := tallies.wrapped running
    constructor
    · rfl
    · simpa using tallies.fewer
    · exact fun _ => tallies.inbound running
    · intro _
      simp only [Station.nextEnd, Option.getD_some, Transport.push, List.length_append, List.length_singleton]
      exact after
    · simp only [Station.wrote, written_put_of_ne (show Sink.client ≠ Sink.next by decide)]
      exact tallies.toNext
    · simp only [Station.wrote, length_written_put, aead.length_encrypt, length_forwardPlain size,
        length_forwardPlain thinSize]
      exact tallies.toClient.write aligned kept (putLength_le _ _)
    · intro _
      simp only [Station.wrote, written_put_of_ne (show Sink.client ≠ Sink.next by decide)]
      exact tallies.passed running
    · intro runs
      cases noFault : env.fault whole.loop.io.outputs.length with
      | some broken => simp [noFault, endedBy] at runs
      | none =>
          simp only [Station.wrote, length_written_put, aead.length_encrypt, length_forwardPlain size, putLength]
          simp only [Station.wrote, Station.nextEnd, Transport.push, List.length_append, List.length_singleton]
            at aligned begun ⊢
          rw [aligned, Nat.succ_sub begun, Nat.mul_succ, Nat.add_assoc]

/-- The frame of a cover cell is read and wrapped by the covered circuit's relay alone. -/
theorem nextCover {acc : FrameAccumulator} (tallies : Tallies out back depth start whole thin)
    (running : whole.loop.ended = none) (link : whole.loop.io.nextLink = some acc)
    (layers : inboundLayers cfg.role = depth + 1) (frameLen : acc.frameLen = linkCellLen depth)
    (sound : env.fault whole.loop.io.outputs.length = none) (nonempty : whole.nextBytes nextArrivals count ≠ [])
    (covered : (back[whole.nextEnd.count - start.nextEnd.count]? == some coverPlain) = true) :
    Tallies out back depth start (whole.turn aead cfg env arrivals nextArrivals (.next count)) thin := by
  have thinRuns : thin.loop.ended = none := tallies.ended.trans running
  have reading := tallies.next running
  have after := @Reading.pass _ _ _ _ _ nextArrivals reading covered count
  have accOf : whole.nextEnd.acc = acc := by simp [Station.nextEnd, link]
  rw [ReadEnd.read, accOf, ← whole.nextBytes_eq] at after
  rcases @turn_next Key aead cfg env whole depth acc running link layers frameLen arrivals nextArrivals count with
    ⟨empty, -⟩ | ⟨-, none, turned⟩ | ⟨-, frame, size, complete, turned⟩
  · exact absurd empty nonempty
  · rw [turned]
    simp only [none, Option.isSome_none, Bool.false_eq_true, if_false, Nat.add_zero] at after
    exact { tallies with
      ended := thinRuns
      inbound := fun _ => tallies.inbound running
      next := fun _ => after
      passed := fun _ => tallies.passed running
      wrapped := fun _ => tallies.wrapped running }
  · rw [turned, sound]
    simp only [complete, Option.isSome_some, if_true] at after
    rcases Reading.skipped covered with ⟨skipped, present⟩
    have begun := reading.count_le
    have aligned := tallies.wrapped running
    have fewer := tallies.fewer
    constructor
    · exact thinRuns
    · simp only [List.length_append, List.length_singleton]
      omega
    · exact fun _ => tallies.inbound running
    · intro _
      simp only [Station.nextEnd, Option.getD_some, Transport.push, List.length_append, List.length_singleton]
      exact after
    · simp only [Station.wrote, written_put_of_ne (show Sink.client ≠ Sink.next by decide)]
      exact tallies.toNext
    · simp only [Station.wrote, length_written_put, aead.length_encrypt, length_forwardPlain size, putLength]
      exact tallies.toClient.skip aligned skipped present
    · intro _
      simp only [Station.wrote, written_put_of_ne (show Sink.client ≠ Sink.next by decide)]
      exact tallies.passed running
    · intro _
      simp only [Station.wrote, length_written_put, aead.length_encrypt, length_forwardPlain size, putLength]
      simp only [Station.wrote, Station.nextEnd, Transport.push, List.length_append, List.length_singleton]
        at aligned begun ⊢
      rw [aligned, Nat.succ_sub begun, Nat.mul_succ, Nat.add_assoc]

/-- What the two relays find on their links, and that each passes on what it opens. -/
structure Beside (out back : List Bytes) (depth : Nat) (start whole thin : Station Key)
    (arrivals thinArrivals nextArrivals thinNext : Bytes) (log thinLog : List Sealed) : Prop where
  inbound : Squeezed isReal (linkCellLen (depth + 1)) out start.inboundTaken arrivals.length thinArrivals.length
  next : Squeezed isReal (linkCellLen depth) back start.nextTaken nextArrivals.length thinNext.length
  linked : Linked whole
  thinLinked : Linked thin
  inboundWithin : whole.loop.ended = none -> whole.inboundTaken ≤ arrivals.length
  fit : whole.loop.ended = none -> whole.wrapper.Fit depth nextArrivals
  thinFit : thin.loop.ended = none -> thin.wrapper.Fit depth thinNext
  opens : whole.loop.ended = none -> Opens depth log whole arrivals
  thinOpens : thin.loop.ended = none -> Opens depth thinLog thin thinArrivals

/-- Every turn of the covered circuit's relay is matched by the turn that is left of it. -/
theorem turn {log thinLog : List Sealed} (tallies : Tallies out back depth start whole thin)
    (beside : Beside out back depth start whole thin arrivals thinArrivals nextArrivals thinNext log thinLog)
    (layers : inboundLayers cfg.role = depth + 1) (peer : env.peer = log) (thinPeer : thinEnv.peer = thinLog)
    (event : RelayEvent)
    (sound : Station.readsCover out back start whole event = true -> env.fault whole.loop.io.outputs.length = none)
    (fault : Station.readsCover out back start whole event = false ->
      thinEnv.fault thin.loop.io.outputs.length = env.fault whole.loop.io.outputs.length) :
    Tallies out back depth start (whole.turn aead cfg env arrivals nextArrivals event)
      ((Station.uncovered out back start whole arrivals nextArrivals event).elim thin
        (thin.turn aead cfg thinEnv thinArrivals thinNext)) := by
  cases running : whole.loop.ended with
  | some result =>
      have thinEnded : thin.loop.ended = some result := tallies.ended.trans running
      rw [Station.turn_of_ended running]
      cases Station.uncovered out back start whole arrivals nextArrivals event with
      | none => exact tallies
      | some event =>
          simp only [Option.elim, Station.turn_of_ended thinEnded]
          exact tallies
  | none =>
      have thinRuns : thin.loop.ended = none := tallies.ended.trans running
      subst peer thinPeer
      rcases Option.isSome_iff_exists.mp beside.linked.nextLink with ⟨acc, link⟩
      rcases Option.isSome_iff_exists.mp beside.thinLinked.nextLink with ⟨thinAcc, thinLink⟩
      have frameLen : acc.frameLen = linkCellLen depth := by
        simpa [Station.wrapper, link] using (beside.fit running).frameLen
      have thinFrameLen : thinAcc.frameLen = linkCellLen depth := by
        simpa [Station.wrapper, thinLink] using (beside.thinFit thinRuns).frameLen
      cases event with
      | inbound count =>
          rw [Station.uncovered]
          split_ifs with nothing covered
          · rw [Option.elim_some]
            exact tallies.inboundNothing running (List.isEmpty_iff.mp nothing)
          · have nonempty := fun none => nothing (List.isEmpty_iff.mpr none)
            exact tallies.inboundCover running beside.linked.nextLink layers (beside.opens running) (sound covered)
              nonempty covered
          · have nonempty := fun none => nothing (List.isEmpty_iff.mpr none)
            have uncovered := Bool.eq_false_iff.mpr covered
            rw [Option.elim_some]
            exact tallies.inboundKept running beside.linked.nextLink beside.thinLinked.nextLink layers beside.inbound
              (beside.inboundWithin running) (beside.opens running) (beside.thinOpens thinRuns) (fault uncovered)
              nonempty uncovered
      | next count =>
          rw [Station.uncovered]
          split_ifs with nothing covered
          · rw [Option.elim_some]
            exact tallies.nextNothing running link thinLink layers frameLen thinFrameLen (List.isEmpty_iff.mp nothing)
          · have nonempty := fun none => nothing (List.isEmpty_iff.mpr none)
            exact tallies.nextCover running link layers frameLen (sound covered) nonempty covered
          · have nonempty := fun none => nothing (List.isEmpty_iff.mpr none)
            have uncovered := Bool.eq_false_iff.mpr covered
            rw [Option.elim_some]
            exact tallies.nextKept running link thinLink layers frameLen thinFrameLen beside.next
              (beside.fit running).within (fault uncovered) nonempty uncovered
      | inboundError error =>
          simp only [Station.uncovered, Station.readsNothing, Station.readsCover, Bool.false_eq_true, if_false,
            Option.elim, Station.turn, running, thinRuns, CircuitLoop.step]
          exact tallies.stop _
      | timeout =>
          simp only [Station.uncovered, Station.readsNothing, Station.readsCover, Bool.false_eq_true, if_false,
            Option.elim, Station.turn, running, thinRuns, CircuitLoop.step]
          exact tallies.stop _
      | nextError error =>
          simp only [Station.uncovered, Station.readsNothing, Station.readsCover, Bool.false_eq_true, if_false,
            Option.elim, Station.turn, running, thinRuns, CircuitLoop.step, Relay.turn, Program.run_get_bind, link,
            thinLink, Option.isSome_some, if_true]
          exact tallies.stop _
      | dest bytes =>
          simp only [Station.uncovered, Station.readsNothing, Station.readsCover, Bool.false_eq_true, if_false,
            Option.elim, Station.turn, running, thinRuns, CircuitLoop.step, Relay.turn, Program.run_get_bind,
            beside.linked.noDest, beside.thinLinked.noDest]
          exact tallies.stay running
      | destError error =>
          simp only [Station.uncovered, Station.readsNothing, Station.readsCover, Bool.false_eq_true, if_false,
            Option.elim, Station.turn, running, thinRuns, CircuitLoop.step, Relay.turn, Program.run_get_bind,
            beside.linked.noDest, beside.thinLinked.noDest]
          exact tallies.stay running

end Turns
end Tallies

end Circuit
end QuietHop
