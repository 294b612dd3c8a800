import QuietHop.Client.Layers
import QuietHop.Lib.Stream
import QuietHop.Wire.FrameReader

namespace QuietHop
namespace Circuit

open Lib Lib.Stream Wire Client

/-!
# Frames in the pieces in which they arrive

A circuit seen as bytes on links.  The parties are reduced to what matters for one
direction of the traffic: away from the client three readers, each behind the link of the
one before; towards the client two relays that wrap what they read, and the client.

For every link, what the reader holds of the frame being assembled, followed by what is on
the link and by what is still inside the layers of the hop before, is an initial part of
the frames sealed and not yet peeled.  It is all of them as long as the hop before runs.
-/

/-- The sending half of a transport. -/
structure Outgoing (Key : Type) where
  key : Key
  sent : List Sealed

namespace Outgoing

variable {Key : Type} (aead : NoiseAead Key)

def frame (tx : Outgoing Key) (plain : Bytes) : Bytes :=
  aead.encrypt tx.key tx.sent.length plain

def push (tx : Outgoing Key) (plain : Bytes) : Outgoing Key :=
  { tx with sent := tx.sent ++ [⟨plain, tx.frame aead plain⟩] }

end Outgoing

/-- The receiving side of a party: whether it runs, its counter, the frame it is
assembling, how much of its link it has read, and what it has passed on. -/
structure Reader where
  running : Bool
  received : Nat
  acc : FrameAccumulator
  taken : Nat
  out : Bytes

/-- The reader after a read of these bytes. -/
def Reader.read (reader : Reader) (bytes : Bytes) : Reader :=
  { reader with acc := (reader.acc.receive bytes).2, taken := reader.taken + bytes.length }

section Inlet

variable {Key : Type} (aead : NoiseAead Key)

/-- A reader, its link and what is still `waiting` at the hop before. -/
structure Inlet (depth : Nat) (source : Prop) (tx : Outgoing Key) (reader : Reader) (arrivals : Bytes)
    (waiting : List Bytes) (items : List Peeled) : Prop where
  pending : Pending aead depth tx.key tx.sent reader.received items
  unfilled : reader.acc.Unfilled
  frameLen : reader.acc.frameLen = linkCellLen (depth + 1)
  within : reader.taken ≤ arrivals.length
  feeds : Feeds source (reader.acc.buf ++ arrivals.drop reader.taken ++ waiting.flatten)
    (inFlight tx.sent reader.received)

variable {aead}
variable {depth : Nat} {source : Prop} {tx : Outgoing Key} {reader : Reader} {arrivals : Bytes}
  {waiting : List Bytes} {items : List Peeled}

theorem length_frame_of_legal {item : Peeled} (legal : item.Legal depth) :
    (tx.frame aead (item.plain (depth + 1))).length = linkCellLen (depth + 1) := by
  rw [Outgoing.frame, aead.length_encrypt]
  exact Peeled.length_plain legal

theorem Inlet.weaken {other : Prop} (inlet : Inlet aead depth source tx reader arrivals waiting items)
    (implies : other -> source) : Inlet aead depth other tx reader arrivals waiting items :=
  { inlet with feeds := inlet.feeds.weaken implies }

/-- What a reader has passed on does not matter to its own link. -/
theorem Inlet.retarget {other : Reader} (inlet : Inlet aead depth source tx reader arrivals waiting items)
    (received : other.received = reader.received) (acc : other.acc = reader.acc)
    (taken : other.taken = reader.taken) : Inlet aead depth source tx other arrivals waiting items where
  pending := received ▸ inlet.pending
  unfilled := acc ▸ inlet.unfilled
  frameLen := acc ▸ inlet.frameLen
  within := taken ▸ inlet.within
  feeds := by
    rw [received, acc, taken]
    exact inlet.feeds

theorem Inlet.inFlight_push (inlet : Inlet aead depth source tx reader arrivals waiting items) (plain : Bytes) :
    inFlight (tx.push aead plain).sent reader.received =
      inFlight tx.sent reader.received ++ [tx.frame aead plain] :=
  Wire.inFlight_push inlet.pending.reached _

/-- The item just sealed has arrived on the link, up to a `piece` of its frame. -/
theorem Inlet.arrive {other : Prop} {piece : Bytes} {item : Peeled}
    (inlet : Inlet aead depth source tx reader arrivals [] items) (holds : source) (legal : item.Legal depth)
    (part : piece <+: tx.frame aead (item.plain (depth + 1)))
    (whole : other -> piece = tx.frame aead (item.plain (depth + 1))) :
    Inlet aead depth other (tx.push aead (item.plain (depth + 1))) reader (arrivals ++ piece) []
      (items ++ [item]) where
  pending := inlet.pending.push legal
  unfilled := inlet.unfilled
  frameLen := inlet.frameLen
  within := by
    rw [List.length_append]
    exact Nat.le_trans inlet.within (Nat.le_add_right _ _)
  feeds := by
    have before := inlet.feeds
    simp only [List.flatten_nil, List.append_nil] at before ⊢
    rw [inlet.inFlight_push, List.drop_append_of_le_length inlet.within, ← List.append_assoc]
    constructor
    · exact (before.cut holds part).within
    · intro still
      rw [whole still]
      exact (before.push holds _).whole holds

/-- The item just sealed waits at the hop before. -/
theorem Inlet.wait {item : Peeled} (inlet : Inlet aead depth source tx reader arrivals waiting items)
    (holds : source) (legal : item.Legal depth) :
    Inlet aead depth source (tx.push aead (item.plain (depth + 1))) reader arrivals
      (waiting ++ [tx.frame aead (item.plain (depth + 1))]) (items ++ [item]) where
  pending := inlet.pending.push legal
  unfilled := inlet.unfilled
  frameLen := inlet.frameLen
  within := inlet.within
  feeds := by
    rw [inlet.inFlight_push, List.flatten_append, List.flatten_singleton, ← List.append_assoc]
    exact inlet.feeds.push holds _

/-- The item just sealed will never come. -/
theorem Inlet.lose {item : Peeled} {other : Prop} (inlet : Inlet aead depth source tx reader arrivals waiting items)
    (closed : ¬ other) (legal : item.Legal depth) :
    Inlet aead depth other (tx.push aead (item.plain (depth + 1))) reader arrivals waiting (items ++ [item]) where
  pending := inlet.pending.push legal
  unfilled := inlet.unfilled
  frameLen := inlet.frameLen
  within := inlet.within
  feeds := by
    rw [inlet.inFlight_push]
    exact (inlet.feeds.unsent _).weaken closed

/-- The hop before passes on what was waiting longest. -/
theorem Inlet.pass {blob : Bytes} (inlet : Inlet aead depth source tx reader arrivals (blob :: waiting) items) :
    Inlet aead depth source tx reader (arrivals ++ blob) waiting items where
  pending := inlet.pending
  unfilled := inlet.unfilled
  frameLen := inlet.frameLen
  within := by
    rw [List.length_append]
    exact Nat.le_trans inlet.within (Nat.le_add_right _ _)
  feeds := by
    have before := inlet.feeds
    rw [List.flatten_cons] at before
    rw [List.drop_append_of_le_length inlet.within]
    simpa only [List.append_assoc] using before

/-- The hop before ends, perhaps in the middle of what it was passing on. -/
theorem Inlet.stop {other : Prop} {piece : Bytes} (inlet : Inlet aead depth source tx reader arrivals waiting items)
    (closed : ¬ other) (part : piece <+: waiting.flatten) :
    Inlet aead depth other tx reader (arrivals ++ piece) [] items where
  pending := inlet.pending
  unfilled := inlet.unfilled
  frameLen := inlet.frameLen
  within := by
    rw [List.length_append]
    exact Nat.le_trans inlet.within (Nat.le_add_right _ _)
  feeds := by
    rcases part with ⟨rest, whole⟩
    have before := inlet.feeds
    rw [← whole, ← List.append_assoc] at before
    rw [List.drop_append_of_le_length inlet.within, List.flatten_nil, List.append_nil, ← List.append_assoc]
    exact before.drop_end.weaken closed

/-- Bytes read off a link move from the link to the reader. -/
theorem read_append_drop (buf arrivals : Bytes) (taken count : Nat) :
    (buf ++ (arrivals.drop taken).take count) ++ arrivals.drop (taken + ((arrivals.drop taken).take count).length) =
      buf ++ arrivals.drop taken := by
  have whole := List.prefix_iff_eq_append.mp (List.take_prefix count (arrivals.drop taken))
  rw [List.append_assoc, ← List.drop_drop, whole]

theorem taken_add_le {arrivals : Bytes} {taken : Nat} (within : taken ≤ arrivals.length) (count : Nat) :
    taken + ((arrivals.drop taken).take count).length ≤ arrivals.length := by
  rw [List.length_take, List.length_drop]
  omega

/-- A read off the link leaves the frame incomplete, or completes the oldest frame sent.
Whatever completes it peels to the oldest item. -/
theorem Inlet.read (inlet : Inlet aead depth source tx reader arrivals waiting items) {count : Nat}
    (fits : count ≤ reader.acc.room) :
    ((reader.acc.receive ((arrivals.drop reader.taken).take count)).1 = none ∧
      Inlet aead depth source tx (reader.read ((arrivals.drop reader.taken).take count)) arrivals waiting items) ∨
    ∃ frame item later, (reader.acc.receive ((arrivals.drop reader.taken).take count)).1 = some frame ∧
      items = item :: later ∧
      (forall rx : Transport Key, rx.received = reader.received ->
        peel tx.sent rx frame (depth + 1) = (.ok item, { rx with received := rx.received + 1 })) ∧
      Inlet aead depth source tx
        { reader.read ((arrivals.drop reader.taken).take count) with received := reader.received + 1 }
        arrivals waiting later := by
  have small : ((arrivals.drop reader.taken).take count).length ≤ reader.acc.room :=
    Nat.le_trans (List.length_take_le _ _) fits
  have unfilled := FrameAccumulator.unfilled_receive inlet.unfilled small
  have frameLen := (FrameAccumulator.receive_frameLen reader.acc ((arrivals.drop reader.taken).take count)).trans
    inlet.frameLen
  have joined := read_append_drop reader.acc.buf arrivals reader.taken count
  have within := taken_add_le inlet.within count
  rcases FrameAccumulator.receive_cases inlet.unfilled small with ⟨received, -⟩ | ⟨received, full⟩
  · left
    refine ⟨by rw [received], inlet.pending, unfilled, frameLen, within, ?_⟩
    simp only [Reader.read, received]
    rw [joined]
    exact inlet.feeds
  · right
    have arrived := inlet.feeds
    rw [← joined, List.append_assoc] at arrived
    rcases arrived.front inlet.pending.length_frame (linkCellLen_pos _) (full.trans inlet.frameLen) with
      ⟨rest, front, feeds⟩
    rcases @Pending.peel_front Key aead depth tx.key tx.sent items ⟨tx.key, [], reader.received⟩ _ rest
      inlet.pending front with ⟨item, later, same, -, remaining, onward⟩
    refine ⟨_, item, later, by rw [received], same, ?_, onward, unfilled, frameLen, within, ?_⟩
    · intro rx counter
      have pending : Pending aead depth tx.key tx.sent rx.received items := counter ▸ inlet.pending
      rcases pending.peel_front (counter ▸ front) with ⟨other, _, split, peeled, -⟩
      rw [same] at split
      cases split
      exact peeled
    · simp only [Reader.read, received, List.nil_append]
      rw [remaining]
      exact feeds

end Inlet

/-! ## Away from the client -/

/-- The client's sending side and the three readers. -/
structure Outward (Key : Type) where
  clientRuns : Bool
  guardTx : Outgoing Key
  middleTx : Outgoing Key
  exitTx : Outgoing Key
  clientOut : Bytes
  guard : Reader
  middle : Reader
  exit : Reader

namespace Outward

variable {Key : Type} (aead : NoiseAead Key)

/-- Every running relay reads the frames sealed for it.  The guard and the middle have only
frames to pass on. -/
structure Flows (flow : Outward Key) (guardItems middleItems exitItems : List Peeled) : Prop where
  guard : flow.guard.running = true ->
    Inlet aead 2 (flow.clientRuns = true) flow.guardTx flow.guard flow.clientOut [] guardItems
  middle : flow.middle.running = true ->
    Inlet aead 1 (flow.guard.running = true) flow.middleTx flow.middle flow.guard.out (Peeled.blobs guardItems)
      middleItems
  exit : flow.exit.running = true ->
    Inlet aead 0 (flow.middle.running = true) flow.exitTx flow.exit flow.middle.out (Peeled.blobs middleItems)
      exitItems
  guardForwards : ∀ item ∈ guardItems, item.isForward = true
  middleForwards : ∀ item ∈ middleItems, item.isForward = true

/-- The frames for the three hops that sealing a cell for the exit makes. -/
def exitFrame (flow : Outward Key) (cell : Cell) : Bytes :=
  flow.exitTx.frame aead (Peeled.plain 1 (.toMe cell))

def middleFrame (flow : Outward Key) (cell : Cell) : Bytes :=
  flow.middleTx.frame aead (Peeled.plain 2 (.forward (flow.exitFrame aead cell)))

def guardFrame (flow : Outward Key) (cell : Cell) : Bytes :=
  flow.guardTx.frame aead (Peeled.plain 3 (.forward (flow.middleFrame aead cell)))

/-- A cell is sealed for the exit, and `piece` of its frame is put on the link. -/
def sealed (flow : Outward Key) (cell : Cell) (piece : Bytes) (runs : Bool) : Outward Key :=
  { flow with
    clientRuns := runs
    exitTx := flow.exitTx.push aead (Peeled.plain 1 (.toMe cell))
    middleTx := flow.middleTx.push aead (Peeled.plain 2 (.forward (flow.exitFrame aead cell)))
    guardTx := flow.guardTx.push aead (Peeled.plain 3 (.forward (flow.middleFrame aead cell)))
    clientOut := flow.clientOut ++ piece }

variable {aead}
variable {flow : Outward Key} {guardItems middleItems exitItems : List Peeled}

/-- What a hop has to peel after the client has sealed one more item for it. -/
def behind (running : Bool) (items : List Peeled) (item : Peeled) : List Peeled :=
  if running then items ++ [item] else items

theorem behind_of_running {running : Bool} (runs : running = true) (items : List Peeled) (item : Peeled) :
    behind running items item = items ++ [item] := by
  rw [behind, if_pos runs]

theorem behind_forwards {running : Bool} {items : List Peeled} {item : Peeled}
    (forwards : ∀ other ∈ items, other.isForward = true) (forward : item.isForward = true) :
    ∀ other ∈ behind running items item, other.isForward = true := by
  intro other member
  rw [behind] at member
  split_ifs at member
  · rcases List.mem_append.mp member with member | member
    · exact forwards other member
    · rwa [List.mem_singleton.mp member]
  · exact forwards other member

/-- What the next hop has to read when the hop before it may have ended. -/
theorem wait_behind {depth : Nat} {tx : Outgoing Key} {reader before : Reader} {items own : List Peeled}
    {item : Peeled} {blob : Bytes} (legal : item.Legal depth)
    (frame : tx.frame aead (item.plain (depth + 1)) = blob)
    (inlet : Inlet aead depth (before.running = true) tx reader before.out (Peeled.blobs items) own) :
    Inlet aead depth (before.running = true) (tx.push aead (item.plain (depth + 1))) reader before.out
      (Peeled.blobs (behind before.running items (.forward blob))) (own ++ [item]) := by
  cases runs : before.running with
  | true =>
      rw [runs] at inlet
      have waits := inlet.wait rfl legal
      rw [frame] at waits
      simpa only [behind, if_true, Peeled.blobs_append, Peeled.blobs] using waits
  | false =>
      have loses : Inlet aead depth (false = true) _ _ _ _ _ := inlet.lose (by decide) legal
      simpa only [behind, Bool.false_eq_true, if_false] using loses

/-- The client seals a cell for the exit.  The hops behind the guard find it inside what is
on its way to them. -/
theorem Flows.seals (flows : Flows aead flow guardItems middleItems exitItems) {cell : Cell} (fits : cell.Fits)
    {piece : Bytes} {runs : Bool}
    (guard : (Peeled.forward (flow.middleFrame aead cell)).Legal 2 -> flow.guard.running = true ->
      Inlet aead 2 (runs = true)
        (flow.guardTx.push aead (Peeled.plain 3 (.forward (flow.middleFrame aead cell)))) flow.guard
        (flow.clientOut ++ piece) [] (guardItems ++ [.forward (flow.middleFrame aead cell)])) :
    Flows aead (flow.sealed aead cell piece runs)
      (behind flow.guard.running guardItems (.forward (flow.middleFrame aead cell)))
      (behind flow.middle.running middleItems (.forward (flow.exitFrame aead cell)))
      (behind flow.exit.running exitItems (.toMe cell)) := by
  have inner : (Peeled.toMe cell).Legal 0 := fits
  have middle : (Peeled.forward (flow.exitFrame aead cell)).Legal 1 :=
    ⟨Nat.one_pos, length_frame_of_legal inner⟩
  have outer : (Peeled.forward (flow.middleFrame aead cell)).Legal 2 :=
    ⟨Nat.two_pos, length_frame_of_legal middle⟩
  constructor
  · intro running
    have running : flow.guard.running = true := running
    rw [behind_of_running running]
    exact guard outer running
  · intro running
    have running : flow.middle.running = true := running
    rw [behind_of_running running]
    exact wait_behind middle rfl (flows.middle running)
  · intro running
    have running : flow.exit.running = true := running
    rw [behind_of_running running]
    exact wait_behind inner rfl (flows.exit running)
  · exact behind_forwards flows.guardForwards rfl
  · exact behind_forwards flows.middleForwards rfl

/-- If only a piece of the frame gets onto the link, the client runs no longer. -/
theorem Flows.seal (flows : Flows aead flow guardItems middleItems exitItems) {cell : Cell} (fits : cell.Fits)
    (open_ : flow.clientRuns = true) {piece : Bytes} {runs : Bool} (part : piece <+: flow.guardFrame aead cell)
    (whole : runs = true -> piece = flow.guardFrame aead cell) :
    Flows aead (flow.sealed aead cell piece runs)
      (behind flow.guard.running guardItems (.forward (flow.middleFrame aead cell)))
      (behind flow.middle.running middleItems (.forward (flow.exitFrame aead cell)))
      (behind flow.exit.running exitItems (.toMe cell)) :=
  flows.seals fits fun legal running => (flows.guard running).arrive open_ legal part whole

/-- A client that has ended seals a cell and writes nothing. -/
theorem Flows.sealLost (flows : Flows aead flow guardItems middleItems exitItems) {cell : Cell} (fits : cell.Fits) :
    Flows aead (flow.sealed aead cell [] false)
      (behind flow.guard.running guardItems (.forward (flow.middleFrame aead cell)))
      (behind flow.middle.running middleItems (.forward (flow.exitFrame aead cell)))
      (behind flow.exit.running exitItems (.toMe cell)) := by
  apply flows.seals fits
  intro legal running
  rw [List.append_nil]
  exact (flows.guard running).lose (by decide) legal

/-! ### Steps of one relay

A relay that reads without completing a frame changes nothing for the relay behind it; one
that passes on its oldest frame moves it onto the next link; one that ends may have put a
piece of that frame there. -/

section Relay

variable {reader : Reader} {blob piece : Bytes} {later : List Peeled}

theorem Flows.guardReads (flows : Flows aead flow guardItems middleItems exitItems)
    (own : reader.running = true -> Inlet aead 2 (flow.clientRuns = true) flow.guardTx reader flow.clientOut [] guardItems)
    (runs : reader.running = flow.guard.running) (out : reader.out = flow.guard.out) :
    Flows aead { flow with guard := reader } guardItems middleItems exitItems :=
  { flows with
    guard := own
    middle := fun running => by
      simp only [runs, out]
      exact flows.middle running }

theorem Flows.guardPasses (flows : Flows aead flow (.forward blob :: later) middleItems exitItems)
    (own : Inlet aead 2 (flow.clientRuns = true) flow.guardTx reader flow.clientOut [] later)
    (runs : reader.running = flow.guard.running) (out : reader.out = flow.guard.out ++ blob) :
    Flows aead { flow with guard := reader } later middleItems exitItems :=
  { flows with
    guard := fun _ => own
    middle := fun running => by
      simp only [runs, out]
      exact (flows.middle running).pass
    guardForwards := fun item member => flows.guardForwards item (List.mem_cons_of_mem _ member) }

theorem Flows.guardStops (flows : Flows aead flow guardItems middleItems exitItems) (ended : reader.running = false)
    (out : reader.out = flow.guard.out ++ piece) (part : piece <+: (Peeled.blobs guardItems).flatten) :
    Flows aead { flow with guard := reader } [] middleItems exitItems :=
  { flows with
    guard := fun running => by
      simp only [ended] at running
      cases running
    middle := fun running => by
      simp only [out]
      exact (flows.middle running).stop (by simp [ended]) part
    guardForwards := by simp }

theorem Flows.middleReads (flows : Flows aead flow guardItems middleItems exitItems)
    (own : reader.running = true -> Inlet aead 1 (flow.guard.running = true) flow.middleTx reader flow.guard.out
      (Peeled.blobs guardItems) middleItems)
    (runs : reader.running = flow.middle.running) (out : reader.out = flow.middle.out) :
    Flows aead { flow with middle := reader } guardItems middleItems exitItems :=
  { flows with
    middle := own
    exit := fun running => by
      simp only [runs, out]
      exact flows.exit running }

theorem Flows.middlePasses (flows : Flows aead flow guardItems (.forward blob :: later) exitItems)
    (own : Inlet aead 1 (flow.guard.running = true) flow.middleTx reader flow.guard.out (Peeled.blobs guardItems) later)
    (runs : reader.running = flow.middle.running) (out : reader.out = flow.middle.out ++ blob) :
    Flows aead { flow with middle := reader } guardItems later exitItems :=
  { flows with
    middle := fun _ => own
    exit := fun running => by
      simp only [runs, out]
      exact (flows.exit running).pass
    middleForwards := fun item member => flows.middleForwards item (List.mem_cons_of_mem _ member) }

theorem Flows.middleStops (flows : Flows aead flow guardItems middleItems exitItems) (ended : reader.running = false)
    (out : reader.out = flow.middle.out ++ piece) (part : piece <+: (Peeled.blobs middleItems).flatten) :
    Flows aead { flow with middle := reader } guardItems [] exitItems :=
  { flows with
    middle := fun running => by
      simp only [ended] at running
      cases running
    exit := fun running => by
      simp only [out]
      exact (flows.exit running).stop (by simp [ended]) part
    middleForwards := by simp }

/-- The exit has no link behind it. -/
theorem Flows.exitMoves (flows : Flows aead flow guardItems middleItems exitItems)
    (own : reader.running = true -> Inlet aead 0 (flow.middle.running = true) flow.exitTx reader flow.middle.out
      (Peeled.blobs middleItems) later) :
    Flows aead { flow with exit := reader } guardItems middleItems later :=
  { flows with exit := own }

end Relay

end Outward

/-! ## Towards the client -/

/-- The side of a relay that wraps what the next link delivers. -/
structure Wrapper (Key : Type) where
  running : Bool
  tx : Outgoing Key
  acc : FrameAccumulator
  taken : Nat
  out : Bytes

namespace Wrapper

variable {Key : Type}

/-- What has been put on the next link and is not wrapped yet; an ended relay wraps nothing. -/
def held (wrapper : Wrapper Key) (arrivals : Bytes) : Bytes :=
  if wrapper.running then wrapper.acc.buf ++ arrivals.drop wrapper.taken else []

/-- A running relay assembles frames of the next link. -/
structure Fit (depth : Nat) (wrapper : Wrapper Key) (arrivals : Bytes) : Prop where
  unfilled : wrapper.acc.Unfilled
  frameLen : wrapper.acc.frameLen = linkCellLen depth
  within : wrapper.taken ≤ arrivals.length

/-- The relay after a read of these bytes from the next link. -/
def read (wrapper : Wrapper Key) (bytes : Bytes) : Wrapper Key :=
  { wrapper with acc := (wrapper.acc.receive bytes).2, taken := wrapper.taken + bytes.length }

variable {wrapper : Wrapper Key} {depth : Nat} {arrivals : Bytes}

theorem held_of_running (running : wrapper.running = true) :
    wrapper.held arrivals = wrapper.acc.buf ++ arrivals.drop wrapper.taken := by
  rw [held, if_pos running]

theorem held_of_ended (ended : wrapper.running = false) : wrapper.held arrivals = [] := by
  rw [held, ended]
  rfl

theorem Fit.grow (fit : wrapper.Fit depth arrivals) (piece : Bytes) : wrapper.Fit depth (arrivals ++ piece) where
  unfilled := fit.unfilled
  frameLen := fit.frameLen
  within := by
    rw [List.length_append]
    exact Nat.le_trans fit.within (Nat.le_add_right _ _)

theorem Fit.read (fit : wrapper.Fit depth arrivals) {count : Nat} (fits : count ≤ wrapper.acc.room) :
    (wrapper.read ((arrivals.drop wrapper.taken).take count)).Fit depth arrivals where
  unfilled := FrameAccumulator.unfilled_receive fit.unfilled (Nat.le_trans (List.length_take_le _ _) fits)
  frameLen := (FrameAccumulator.receive_frameLen wrapper.acc _).trans fit.frameLen
  within := taken_add_le fit.within count

theorem Fit.length_of_complete (fit : wrapper.Fit depth arrivals) {bytes frame : Bytes}
    (complete : (wrapper.acc.receive bytes).1 = some frame) : frame.length = linkCellLen depth := by
  have received : wrapper.acc.receive bytes = (some frame, (wrapper.acc.receive bytes).2) := by rw [← complete]
  rw [FrameAccumulator.length_of_receive received, fit.frameLen]

/-- A completed frame was at the front of what was held, and the rest still is. -/
theorem Fit.held_read (fit : wrapper.Fit depth arrivals) {count : Nat} (fits : count ≤ wrapper.acc.room)
    (running : wrapper.running = true) :
    wrapper.held arrivals = ((wrapper.acc.receive ((arrivals.drop wrapper.taken).take count)).1.getD []) ++
      (wrapper.read ((arrivals.drop wrapper.taken).take count)).held arrivals := by
  have joined := read_append_drop wrapper.acc.buf arrivals wrapper.taken count
  have small : ((arrivals.drop wrapper.taken).take count).length ≤ wrapper.acc.room :=
    Nat.le_trans (List.length_take_le _ _) fits
  have still : (wrapper.read ((arrivals.drop wrapper.taken).take count)).running = true := running
  rw [held_of_running running, held_of_running still, ← joined]
  rcases FrameAccumulator.receive_cases fit.unfilled small with ⟨received, -⟩ | ⟨received, -⟩
  · simp only [Wrapper.read, received, Option.getD_none, List.nil_append]
  · simp only [Wrapper.read, received, Option.getD_some, List.nil_append]

end Wrapper

section Outlet

variable {Key : Type}

/-- What a hop has sealed for the client, against what the relay in front of it has wrapped
and what it still holds. -/
def Outlet (wrapper : Wrapper Key) (items : List Peeled) (arrivals : Bytes) (source : Prop) (tx : Outgoing Key)
    (received : Nat) : Prop :=
  Feeds (wrapper.running = true ∧ source) ((Peeled.blobs items).flatten ++ wrapper.held arrivals)
    (inFlight tx.sent received)

variable {aead : NoiseAead Key} {wrapper next : Wrapper Key} {items : List Peeled} {arrivals : Bytes} {source : Prop}
  {tx : Outgoing Key} {received depth : Nat}

theorem Outlet.weaken {other : Prop} (outlet : Outlet wrapper items arrivals source tx received)
    (implies : other -> source) : Outlet wrapper items arrivals other tx received :=
  Feeds.weaken outlet fun holds => ⟨holds.1, implies holds.2⟩

/-- The hop seals one more frame and puts a piece of it on the link. -/
theorem Outlet.emit {other : Prop} {plain piece : Bytes} (outlet : Outlet wrapper items arrivals source tx received)
    (reached : received ≤ tx.sent.length) (within : wrapper.running = true -> wrapper.taken ≤ arrivals.length)
    (holds : source) (part : piece <+: tx.frame aead plain) (whole : other -> piece = tx.frame aead plain) :
    Outlet wrapper items (arrivals ++ piece) other (tx.push aead plain) received := by
  have flight : inFlight (tx.push aead plain).sent received = inFlight tx.sent received ++ [tx.frame aead plain] :=
    inFlight_push reached _
  rw [Outlet, flight]
  cases runs : wrapper.running with
  | true =>
      rw [Wrapper.held_of_running runs, List.drop_append_of_le_length (within runs), ← List.append_assoc,
        ← List.append_assoc]
      have before : Feeds (wrapper.running = true ∧ source) _ _ := outlet
      rw [Wrapper.held_of_running runs, ← List.append_assoc] at before
      constructor
      · exact (before.cut ⟨runs, holds⟩ part).within
      · intro still
        rw [whole still.2]
        exact (before.push ⟨runs, holds⟩ _).whole ⟨runs, holds⟩
  | false =>
      rw [Wrapper.held_of_ended runs]
      have before : Feeds (wrapper.running = true ∧ source) _ _ := outlet
      rw [Wrapper.held_of_ended runs] at before
      exact (before.unsent _).weaken (by simp)

/-- The relay in front stops: what it held will not come. -/
theorem Outlet.stop (outlet : Outlet wrapper items arrivals source tx received) (ended : next.running = false) :
    Outlet next items arrivals source tx received := by
  rw [Outlet, Wrapper.held_of_ended ended, List.append_nil]
  exact (Feeds.drop_end outlet).weaken (by simp [ended])

/-- The relay in front reads, and wraps the frame if one is complete. -/
theorem Outlet.read (outlet : Outlet wrapper items arrivals source tx received) (fit : wrapper.Fit depth arrivals)
    {count : Nat} (fits : count ≤ wrapper.acc.room) (running : wrapper.running = true) :
    Outlet (wrapper.read ((arrivals.drop wrapper.taken).take count))
      (items ++ ((wrapper.acc.receive ((arrivals.drop wrapper.taken).take count)).1.map Peeled.forward).toList)
      arrivals source tx received := by
  have before : Feeds (wrapper.running = true ∧ source) _ _ := outlet
  rw [fit.held_read fits running, ← List.append_assoc] at before
  have moved (frame : Option Bytes) : (Peeled.blobs (items ++ (frame.map Peeled.forward).toList)).flatten =
      (Peeled.blobs items).flatten ++ frame.getD [] := by
    cases frame <;> simp [Peeled.blobs_append, Peeled.blobs]
  rw [Outlet, moved]
  exact before

/-- What the relay has passed on or sealed itself does not matter to what it holds. -/
theorem Outlet.retarget (outlet : Outlet wrapper items arrivals source tx received)
    (running : next.running = wrapper.running) (acc : next.acc = wrapper.acc) (taken : next.taken = wrapper.taken) :
    Outlet next items arrivals source tx received := by
  rw [Outlet, Wrapper.held, running, acc, taken]
  exact outlet

/-- The client peels the oldest frame inside the oldest frame of the hop in front. -/
theorem Outlet.peel {own : List Peeled} {blob : Bytes} {rx : Transport Key}
    (outlet : Outlet wrapper (.forward blob :: items) arrivals source tx rx.received)
    (pending : Pending aead depth tx.key tx.sent rx.received own) (size : blob.length = linkCellLen (depth + 1)) :
    ∃ item later, own = item :: later ∧
      Wire.peel tx.sent rx blob (depth + 1) = (.ok item, { rx with received := rx.received + 1 }) ∧
      Pending aead depth tx.key tx.sent (rx.received + 1) later ∧
      Outlet wrapper items arrivals source tx (rx.received + 1) := by
  have before : Feeds (wrapper.running = true ∧ source) _ _ := outlet
  rw [Peeled.blobs, List.flatten_cons, List.append_assoc] at before
  rcases before.front pending.length_frame (linkCellLen_pos _) size with ⟨rest, front, feeds⟩
  rcases pending.peel_front front with ⟨item, later, same, peeled, remaining, onward⟩
  refine ⟨item, later, same, peeled, onward, ?_⟩
  rw [Outlet, remaining]
  exact feeds

end Outlet

/-- The client's receiving side, the two relays that wrap, and the exit.  The counter of the
client's reader is the one of its guard transport. -/
structure Inward (Key : Type) where
  client : Reader
  middleRx : Nat
  exitRx : Nat
  guard : Wrapper Key
  middle : Wrapper Key
  exitRuns : Bool
  exitTx : Outgoing Key
  exitOut : Bytes

namespace Inward

variable {Key : Type} (aead : NoiseAead Key)

/-- The running relays assemble frames of their next links. -/
structure Fitting (flow : Inward Key) : Prop where
  guard : flow.guard.running = true -> flow.guard.Fit 2 flow.middle.out
  middle : flow.middle.running = true -> flow.middle.Fit 1 flow.exitOut

/-- The client reads the guard's frames; inside them are the middle's, and inside those the
exit's. -/
structure Returns (flow : Inward Key) (guardItems middleItems exitItems : List Peeled) : Prop where
  client : Inlet aead 2 (flow.guard.running = true) flow.guard.tx flow.client flow.guard.out [] guardItems
  middle : Pending aead 1 flow.middle.tx.key flow.middle.tx.sent flow.middleRx middleItems
  exit : Pending aead 0 flow.exitTx.key flow.exitTx.sent flow.exitRx exitItems
  middleOut : Outlet flow.guard guardItems flow.middle.out (flow.middle.running = true) flow.middle.tx flow.middleRx
  exitOut : Outlet flow.middle middleItems flow.exitOut (flow.exitRuns = true) flow.exitTx flow.exitRx
  guardForwards : ∀ item ∈ guardItems, item.isForward = true
  middleForwards : ∀ item ∈ middleItems, item.isForward = true

variable {aead}
variable {flow : Inward Key} {guardItems middleItems exitItems : List Peeled} {count : Nat} {frame piece : Bytes}
  {runs : Bool}

theorem forwards_append {items : List Peeled} (forwards : ∀ item ∈ items, item.isForward = true) (blob : Bytes) :
    ∀ item ∈ items ++ [Peeled.forward blob], item.isForward = true := by
  intro item member
  rcases List.mem_append.mp member with member | member
  · exact forwards item member
  · rw [List.mem_singleton.mp member]
    rfl

/-- A relay after it has wrapped a frame and put a piece of the result on its link. -/
def wrapped (aead : NoiseAead Key) (layers : Nat) (wrapper : Wrapper Key) (frame piece : Bytes) (runs : Bool) :
    Wrapper Key :=
  { wrapper with
    running := runs
    tx := wrapper.tx.push aead (Peeled.plain layers (.forward frame))
    out := wrapper.out ++ piece }

/-- Wrapping a frame completes the read that brought it. -/
theorem outlet_wrapped {wrapper : Wrapper Key} {items : List Peeled} {arrivals : Bytes} {source : Prop}
    {tx : Outgoing Key} {received depth layers : Nat} (outlet : Outlet wrapper items arrivals source tx received)
    (fit : wrapper.Fit depth arrivals) (fits : count ≤ wrapper.acc.room) (running : wrapper.running = true)
    (complete : (wrapper.acc.receive ((arrivals.drop wrapper.taken).take count)).1 = some frame) :
    Outlet (wrapped aead layers (wrapper.read ((arrivals.drop wrapper.taken).take count)) frame piece runs)
      (items ++ [.forward frame]) arrivals source tx received := by
  have reads := outlet.read fit fits running
  rw [complete] at reads
  cases runs with
  | true => exact reads.retarget running.symm rfl rfl
  | false => exact reads.stop rfl

/-! ### Steps of the guard -/

theorem Returns.guardReads (returns : Returns aead flow guardItems middleItems exitItems)
    (running : flow.guard.running = true) (fit : flow.guard.Fit 2 flow.middle.out) (fits : count ≤ flow.guard.acc.room)
    (incomplete : (flow.guard.acc.receive ((flow.middle.out.drop flow.guard.taken).take count)).1 = none) :
    Returns aead { flow with guard := flow.guard.read ((flow.middle.out.drop flow.guard.taken).take count) }
      guardItems middleItems exitItems :=
  { returns with
    middleOut := by
      have reads := returns.middleOut.read fit fits running
      rw [incomplete] at reads
      simpa using reads }

theorem Returns.guardWraps (returns : Returns aead flow guardItems middleItems exitItems)
    (running : flow.guard.running = true) (fit : flow.guard.Fit 2 flow.middle.out) (fits : count ≤ flow.guard.acc.room)
    (complete : (flow.guard.acc.receive ((flow.middle.out.drop flow.guard.taken).take count)).1 = some frame)
    (part : piece <+: flow.guard.tx.frame aead (Peeled.plain 3 (.forward frame)))
    (whole : runs = true -> piece = flow.guard.tx.frame aead (Peeled.plain 3 (.forward frame))) :
    Returns aead
      { flow with
        guard := wrapped aead 3 (flow.guard.read ((flow.middle.out.drop flow.guard.taken).take count)) frame
          piece runs }
      (guardItems ++ [.forward frame]) middleItems exitItems :=
  { returns with
    client := returns.client.arrive running ⟨Nat.two_pos, fit.length_of_complete complete⟩ part whole
    middleOut := outlet_wrapped returns.middleOut fit fits running complete
    guardForwards := forwards_append returns.guardForwards frame }

theorem Returns.guardStops (returns : Returns aead flow guardItems middleItems exitItems) {wrapper : Wrapper Key}
    (ended : wrapper.running = false) (tx : wrapper.tx = flow.guard.tx) (out : wrapper.out = flow.guard.out) :
    Returns aead { flow with guard := wrapper } guardItems middleItems exitItems :=
  { returns with
    client := by
      simp only [tx, out]
      exact returns.client.weaken (by simp [ended])
    middleOut := returns.middleOut.stop ended }

/-! ### Steps of the middle -/

theorem Returns.middleReads (returns : Returns aead flow guardItems middleItems exitItems)
    (running : flow.middle.running = true) (fit : flow.middle.Fit 1 flow.exitOut) (fits : count ≤ flow.middle.acc.room)
    (incomplete : (flow.middle.acc.receive ((flow.exitOut.drop flow.middle.taken).take count)).1 = none) :
    Returns aead { flow with middle := flow.middle.read ((flow.exitOut.drop flow.middle.taken).take count) }
      guardItems middleItems exitItems :=
  { returns with
    exitOut := by
      have reads := returns.exitOut.read fit fits running
      rw [incomplete] at reads
      simpa using reads }

theorem Returns.middleWraps (returns : Returns aead flow guardItems middleItems exitItems) (fitting : flow.Fitting)
    (running : flow.middle.running = true) (fits : count ≤ flow.middle.acc.room)
    (complete : (flow.middle.acc.receive ((flow.exitOut.drop flow.middle.taken).take count)).1 = some frame)
    (part : piece <+: flow.middle.tx.frame aead (Peeled.plain 2 (.forward frame)))
    (whole : runs = true -> piece = flow.middle.tx.frame aead (Peeled.plain 2 (.forward frame))) :
    Returns aead
      { flow with
        middle := wrapped aead 2 (flow.middle.read ((flow.exitOut.drop flow.middle.taken).take count)) frame
          piece runs }
      guardItems (middleItems ++ [.forward frame]) exitItems :=
  have legal : (Peeled.forward frame).Legal 1 := ⟨Nat.one_pos, (fitting.middle running).length_of_complete complete⟩
  { returns with
    middle := returns.middle.push legal
    middleOut := returns.middleOut.emit returns.middle.reached (fun runs => (fitting.guard runs).within) running
      part whole
    exitOut := outlet_wrapped returns.exitOut (fitting.middle running) fits running complete
    middleForwards := forwards_append returns.middleForwards frame }

theorem Returns.middleStops (returns : Returns aead flow guardItems middleItems exitItems) {wrapper : Wrapper Key}
    (ended : wrapper.running = false) (tx : wrapper.tx = flow.middle.tx) (out : wrapper.out = flow.middle.out) :
    Returns aead { flow with middle := wrapper } guardItems middleItems exitItems :=
  { returns with
    middle := by
      simp only [tx]
      exact returns.middle
    middleOut := by
      simp only [tx, out]
      exact returns.middleOut.weaken (by simp [ended])
    exitOut := returns.exitOut.stop ended }

/-! ### Steps of the exit -/

theorem Returns.exitSeals (returns : Returns aead flow guardItems middleItems exitItems) (fitting : flow.Fitting)
    (running : flow.exitRuns = true) {cell : Cell} (fits : cell.Fits)
    (part : piece <+: flow.exitTx.frame aead (Peeled.plain 1 (.toMe cell)))
    (whole : runs = true -> piece = flow.exitTx.frame aead (Peeled.plain 1 (.toMe cell))) :
    Returns aead
      { flow with
        exitRuns := runs
        exitTx := flow.exitTx.push aead (Peeled.plain 1 (.toMe cell))
        exitOut := flow.exitOut ++ piece }
      guardItems middleItems (exitItems ++ [.toMe cell]) :=
  have legal : (Peeled.toMe cell).Legal 0 := fits
  { returns with
    exit := returns.exit.push legal
    exitOut := returns.exitOut.emit returns.exit.reached (fun runs => (fitting.middle runs).within) running part whole }

theorem Returns.exitStops (returns : Returns aead flow guardItems middleItems exitItems) :
    Returns aead { flow with exitRuns := false } guardItems middleItems exitItems :=
  { returns with exitOut := returns.exitOut.weaken (by simp) }

/-! ### Steps of the client -/

theorem eq_forward_of_isForward {item : Peeled} (forward : item.isForward = true) : ∃ blob, item = .forward blob := by
  cases item with
  | toMe cell => cases forward
  | forward blob => exact ⟨blob, rfl⟩

/-- The counters of the client's three transports. -/
structure Counts (flow : Inward Key) (layers : Layers Key) : Prop where
  guard : layers.guard.received = flow.client.received
  middle : layers.middle.received = flow.middleRx
  exit : layers.exit.received = flow.exitRx

/-- A read at the client leaves the frame incomplete, or completes a frame that peels
through three layers to the oldest cell the exit has sealed. -/
theorem Returns.clientReads (returns : Returns aead flow guardItems middleItems exitItems)
    {layers : Layers Key} (counts : Counts flow layers) (fits : count ≤ flow.client.acc.room) :
    ((flow.client.acc.receive ((flow.guard.out.drop flow.client.taken).take count)).1 = none ∧
      Returns aead { flow with client := flow.client.read ((flow.guard.out.drop flow.client.taken).take count) }
        guardItems middleItems exitItems) ∨
    ∃ frame cell guardLater middleLater exitLater,
      (flow.client.acc.receive ((flow.guard.out.drop flow.client.taken).take count)).1 = some frame ∧
      exitItems = .toMe cell :: exitLater ∧
      layers.peelInbound ⟨flow.guard.tx.sent, flow.middle.tx.sent, flow.exitTx.sent⟩ frame =
        (.ok cell, ⟨{ layers.guard with received := layers.guard.received + 1 },
          { layers.middle with received := layers.middle.received + 1 },
          { layers.exit with received := layers.exit.received + 1 }⟩) ∧
      Returns aead
        { flow with
          client := { flow.client.read ((flow.guard.out.drop flow.client.taken).take count) with
            received := flow.client.received + 1 }
          middleRx := flow.middleRx + 1
          exitRx := flow.exitRx + 1 }
        guardLater middleLater exitLater := by
  rcases returns.client.read fits with ⟨incomplete, client⟩ | ⟨frame, item, guardLater, complete, split, peels, client⟩
  · exact .inl ⟨incomplete, { returns with client := client }⟩
  right
  subst split
  rcases eq_forward_of_isForward (returns.guardForwards item (List.mem_cons_self ..)) with ⟨blob, rfl⟩
  have outer := returns.client.pending.legal (.forward blob) (List.mem_cons_self ..)
  have middleOut := returns.middleOut
  have exitOut := returns.exitOut
  have middle := returns.middle
  have exit := returns.exit
  rw [← counts.middle] at middleOut middle
  rw [← counts.exit] at exitOut exit
  rcases middleOut.peel middle outer.2 with ⟨item, middleLater, rfl, second, middleOn, middleOut⟩
  rcases eq_forward_of_isForward (returns.middleForwards item (List.mem_cons_self ..)) with ⟨inner, rfl⟩
  have between := returns.middle.legal (.forward inner) (List.mem_cons_self ..)
  rcases exitOut.peel exit between.2 with ⟨item, exitLater, rfl, third, exitOn, exitOut⟩
  cases item with
  | forward innermost =>
      -- Nothing is forwarded by the exit.
      have legal := returns.exit.legal (.forward innermost) (List.mem_cons_self ..)
      exact absurd legal.1 (Nat.lt_irrefl 0)
  | toMe cell =>
      refine ⟨frame, cell, guardLater, middleLater, exitLater, complete, rfl, ?_, ?_⟩
      · exact Layers.peelInbound_exit (peels layers.guard counts.guard) second third
      · rw [counts.middle] at middleOn middleOut
        rw [counts.exit] at exitOn exitOut
        exact {
          client := client
          middle := middleOn
          exit := exitOn
          middleOut := middleOut
          exitOut := exitOut
          guardForwards := fun other member => returns.guardForwards other (List.mem_cons_of_mem _ member)
          middleForwards := fun other member => returns.middleForwards other (List.mem_cons_of_mem _ member) }

end Inward
end Circuit
end QuietHop
