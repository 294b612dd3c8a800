import QuietHop.Circuit.ClientTurn
import QuietHop.Circuit.ExitTurn
import QuietHop.Lib.Thinning

namespace QuietHop
namespace Circuit

open Lib Wire Client Relay

/-!
# Cover cells

A zero-length DATA cell is legal at the exit and at the client in every state and does
nothing, so that a sender may put in such cells as cover traffic.  Nothing sends one yet.  A
covered circuit is one whose client and exit do: on their own, and among the cells into which
one read of the user or of the destination is cut.

The frame of a cover cell is written whole, at every hop.  A turn that reads a part of such a
frame, or handles it, has no counterpart in the circuit without cover cells; every other turn
has one, in which a write breaks off where it does in the covered circuit.
-/

/-- A zero-length DATA cell. -/
def cover : Cell := ⟨.data, []⟩

/-- What the exit or the client finds when it peels one. -/
def coverPlain : Bytes := toMePlain cover 1

def isReal (plain : Bytes) : Bool :=
  decide (plain ≠ coverPlain)

/-- What has been sealed after so many messages. -/
def sealedSince {Key : Type} (count : Nat) (tx : Transport Key) : List Bytes :=
  (tx.sent.drop count).map Sealed.plain

theorem cover_fits : cover.Fits := Nat.zero_le _

theorem toMePlain_inj {first second : Cell} (fits : first.Fits) (secondFits : second.Fits)
    (same : toMePlain first 1 = toMePlain second 1) : first = second := by
  have read := unwrap_toMePlain fits 1
  rw [same, unwrap_toMePlain secondFits 1] at read
  cases read
  rfl

theorem isReal_toMePlain {cell : Cell} (fits : cell.Fits) (other : cell ≠ cover) : isReal (toMePlain cell 1) = true := by
  rw [isReal, decide_eq_true_iff]
  exact fun same => other (toMePlain_inj fits cover_fits same)

theorem isReal_coverPlain : isReal coverPlain = false := by
  simp [isReal]

theorem sealedSince_push {Key : Type} {aead : NoiseAead Key} {tx : Transport Key} {count : Nat}
    (reached : count ≤ tx.sent.length) (plain : Bytes) :
    sealedSince count (tx.push aead plain) = sealedSince count tx ++ [plain] := by
  rw [sealedSince, Transport.push_sent, List.drop_append_of_le_length reached, List.map_append]
  rfl

/-! ## Writing cells with cover cells among them -/

/-- No write breaks off. -/
def noFault : Nat -> Option Nat := fun _ => none

/-- The same faults for a record that is this much longer. -/
def delayed (count : Nat) (fault : Nat -> Option Nat) : Nat -> Option Nat :=
  fun index => fault (index - count)

/-- The same faults for a record that is this much shorter. -/
def advanced (count : Nat) (fault : Nat -> Option Nat) : Nat -> Option Nat :=
  fun index => fault (index + count)

/-- Payloads of DATA cells, each with the faults its write may meet. -/
abbrev Pieces := List ((Nat -> Option Nat) × Bytes)

/-- The chunks of one read with cover cells before each of them. -/
def padded (fault : Nat -> Option Nat) : Nat -> List Nat -> List Bytes -> Pieces
  | _, _, [] => []
  | inserted, covers, chunk :: rest =>
      List.replicate (covers.headD 0) (noFault, []) ++
        (delayed (inserted + covers.headD 0) fault, chunk) ::
          padded fault (inserted + covers.headD 0) covers.tail rest

theorem padded_nil (fault : Nat -> Option Nat) (chunks : List Bytes) :
    padded fault 0 [] chunks = chunks.map fun chunk => (fault, chunk) := by
  induction chunks with
  | nil => rfl
  | cons chunk rest step =>
      rw [padded, List.map_cons, ← step]
      rfl

theorem small_padded {fault : Nat -> Option Nat} {chunks : List Bytes}
    (small : ∀ chunk ∈ chunks, chunk.length ≤ cellPayloadLen) (inserted : Nat) (covers : List Nat) :
    ∀ piece ∈ padded fault inserted covers chunks, piece.2.length ≤ cellPayloadLen := by
  induction chunks generalizing inserted covers with
  | nil => simp [padded]
  | cons chunk rest step =>
      have small' := List.forall_mem_cons.mp small
      intro piece member
      rw [padded, List.mem_append, List.mem_cons] at member
      rcases member with inserted | rfl | later
      · rw [List.eq_of_mem_replicate inserted]
        exact Nat.zero_le _
      · exact small'.1
      · exact step small'.2 _ _ piece later

section Programs

variable {Key : Type} (aead : NoiseAead Key)

def sendEach (logs : PeerLogs) : Pieces -> TaskM Key Unit
  | [] => pure ()
  | (fault, piece) :: rest => do
      sendChunk aead ⟨logs, fault⟩ piece
      sendEach logs rest

def replyEach (cfg : RelayConfig) (env : Env) : Pieces -> CircuitM Key Unit
  | [] => pure ()
  | (fault, piece) :: rest => do
      reply aead cfg { env with fault := fault } .data piece
      replyEach cfg env rest

/-- The task's turn on a read from the user, with cover cells among the chunks. -/
def userTurn (env : TaskEnv) (covers : List Nat) (bytes : Bytes) : TaskM Key Unit :=
  if bytes.isEmpty then Program.fail .userClosed
  else sendEach aead env.logs (padded env.fault 0 covers (Stream.chunks cellPayloadLen (bytes.take userReadBuf)))

/-- The exit's turn on a read from the destination, with cover cells among the chunks. -/
def destTurn (cfg : RelayConfig) (env : Env) (covers : List Nat) (bytes : Bytes) : CircuitM Key Control := do
  let io ← Program.get
  if io.destLink then
    if (bytes.take destReadBuf).isEmpty then do
      Program.modify fun io => { io with destLink := false }
      pure .proceed
    else do
      replyEach aead cfg env (padded env.fault 0 covers (Stream.chunks cellPayloadLen (bytes.take destReadBuf)))
      pure .proceed
  else pure .proceed

end Programs

/-! ## Covered circuits -/

/-- What happens to a circuit from the time it is established: CONNECT is sealed, or a party
takes a turn. -/
inductive CircuitEvent where
  | connect (payload : ConnectPayload)
  | turn (event : WorldEvent)

/-- What happens to a covered circuit.  The numbers are those of the cover cells before each
chunk of a read. -/
inductive CoveredEvent where
  | plain (event : CircuitEvent) (covers : List Nat)
  | clientCover
  | exitCover (env : Env)

/-- A read that finds the end of the stream. -/
def RelayEvent.atEnd : RelayEvent -> RelayEvent
  | .inbound _ => .inbound 0
  | .next _ => .next 0
  | other => other

namespace Station

variable {Key : Type}

/-- Whether a read finds the end of the stream. -/
def readsNothing (station : Station Key) (arrivals nextArrivals : Bytes) : RelayEvent -> Bool
  | .inbound count => (station.inboundBytes arrivals count).isEmpty
  | .next count => (station.nextBytes nextArrivals count).isEmpty
  | _ => false

/-- Whether the frame that a relay is reading is that of a cover cell.  `out` and `back` are
what the client and the exit have sealed since the beginning. -/
def readsCover (out back : List Bytes) (start station : Station Key) : RelayEvent -> Bool
  | .inbound _ =>
      out[station.loop.io.transport.received - start.loop.io.transport.received]? == some coverPlain
  | .next _ =>
      back[station.loop.io.transport.sent.length - start.loop.io.transport.sent.length]? == some coverPlain
  | _ => false

/-- What a relay without cover cells reads instead. -/
def uncovered (out back : List Bytes) (start station : Station Key) (arrivals nextArrivals : Bytes)
    (event : RelayEvent) : Option RelayEvent :=
  if station.readsNothing arrivals nextArrivals event then some event.atEnd
  else if readsCover out back start station event then none
  else some event

end Station

namespace World

variable {Key : Type}

def station (world : World Key) : Hop -> Station Key
  | .guard => world.guard
  | .middle => world.middle
  | .exit => world.exit

/-- What has been written to the link into a hop. -/
def arrivals (world : World Key) : Hop -> Bytes
  | .guard => world.linkWritten
  | .middle => written .next world.guard.loop.io.outputs
  | .exit => written .next world.middle.loop.io.outputs

/-- What has been written to a hop's next link. -/
def nextArrivals (world : World Key) : Hop -> Bytes
  | .guard => written .client world.middle.loop.io.outputs
  | .middle => written .client world.exit.loop.io.outputs
  | .exit => []

/-- What the client has sealed for the exit since the beginning. -/
def outPlains (start world : World Key) : List Bytes :=
  sealedSince start.client.io.layers.exit.sent.length world.client.io.layers.exit

/-- What the exit has sealed for the client since the beginning. -/
def backPlains (start world : World Key) : List Bytes :=
  sealedSince start.exit.loop.io.transport.sent.length world.exit.loop.io.transport

def clientReadsCover (start world : World Key) : Bool :=
  (backPlains start world)[world.client.io.layers.exit.received -
    start.client.io.layers.exit.received]? == some coverPlain

/-- Whether a relay's read is of the frame of a cover cell. -/
def readsCover (start world : World Key) (hop : Hop) (event : RelayEvent) : Bool :=
  Station.readsCover (outPlains start world) (backPlains start world) (start.station hop) (world.station hop) event

section Steps

variable (aead : NoiseAead Key) (cfg : Hop -> RelayConfig)

/-- A circuit without cover cells. -/
def act (world : World Key) : CircuitEvent -> World Key
  | .connect payload =>
      match world.client.ended with
      | some _ => world
      | none =>
          match world.connect aead payload with
          | .error _ => world
          | .ok next => next
  | .turn event => world.step aead cfg event

def runPlain (world : World Key) (events : List CircuitEvent) : World Key :=
  events.foldl (act aead cfg) world

def coverClient (world : World Key) : World Key :=
  match world.client.ended with
  | some _ => world
  | none =>
      { world with
        client := concluded aead ⟨world.logs, noFault⟩ ((sendEach aead world.logs [(noFault, [])]).run world.client.io) }

def coverExit (world : World Key) (env : Env) : World Key :=
  match world.exit.loop.ended with
  | some _ => world
  | none =>
      { world with
        exit := { world.exit with
          loop := CircuitLoop.settle ((do
            replyEach aead { cfg .exit with role := .exit } env [(noFault, [])]
            pure .proceed : CircuitM Key Control).run world.exit.loop.io) } }

def coveredUser (world : World Key) (covers : List Nat) (bytes : Bytes) (fault : Nat -> Option Nat) : World Key :=
  match world.client.ended with
  | some _ => world
  | none =>
      { world with
        client := concluded aead ⟨world.logs, fault⟩
          ((userTurn aead ⟨world.logs, fault⟩ covers bytes).run world.client.io)
        userRead := world.userRead ++ bytes.take userReadBuf }

def coveredDest (world : World Key) (covers : List Nat) (env : Env) (bytes : Bytes) : World Key :=
  match world.exit.loop.ended with
  | some _ => world
  | none =>
      let exit := { world.exit with
        loop := CircuitLoop.settle ((destTurn aead { cfg .exit with role := .exit }
          { env with peer := world.client.io.layers.exit.sent } covers bytes).run world.exit.loop.io) }
      if world.exit.loop.io.destLink = true then
        { world with
          exit := exit
          destRead := world.destRead ++ bytes.take destReadBuf
          destClosed := world.destClosed || bytes.isEmpty }
      else { world with exit := exit }

/-- A covered circuit.  Frames of cover cells are written whole. -/
def actCovered (start world : World Key) : CoveredEvent -> World Key
  | .plain (.turn (.user bytes fault)) covers => world.coveredUser aead covers bytes fault
  | .plain (.turn (.relay .exit env (.dest bytes))) covers => world.coveredDest aead cfg covers env bytes
  | .plain (.turn (.relay hop env event)) _ =>
      world.step aead cfg
        (.relay hop (if readsCover start world hop event then { env with fault := noFault } else env) event)
  | .plain event _ => world.act aead cfg event
  | .clientCover => world.coverClient aead
  | .exitCover env => world.coverExit aead cfg env

def runCovered (start world : World Key) (events : List CoveredEvent) : World Key :=
  events.foldl (actCovered aead cfg start) world

end Steps

/-! ## What is left without the cover cells -/

/-- How many entries more the covered circuit has in a record. -/
def clientSurplus (world plain : World Key) : Nat :=
  world.client.io.outputs.length - plain.client.io.outputs.length

def surplus (world plain : World Key) (hop : Hop) : Nat :=
  (world.station hop).loop.io.outputs.length - (plain.station hop).loop.io.outputs.length

def uncoveredLink (start world plain : World Key) (count : Nat) (fault : Nat -> Option Nat) : Option WorldEvent :=
  if (world.clientBytes count).isEmpty then some (.link 0 (advanced (clientSurplus world plain) fault))
  else if clientReadsCover start world then none
  else some (.link count (advanced (clientSurplus world plain) fault))

def uncoveredRelay (start world plain : World Key) (hop : Hop) (env : Env) (event : RelayEvent) : Option WorldEvent :=
  (Station.uncovered (outPlains start world) (backPlains start world) (start.station hop) (world.station hop)
    (world.arrivals hop) (world.nextArrivals hop) event).map
    (.relay hop { env with fault := advanced (surplus world plain hop) env.fault })

/-- The turn without cover cells that a turn of the covered circuit stands for, if it stands
for one. -/
def uncovered (start world plain : World Key) : CoveredEvent -> Option CircuitEvent
  | .plain (.connect payload) _ => some (.connect payload)
  | .plain (.turn (.user bytes fault)) _ => some (.turn (.user bytes (advanced (clientSurplus world plain) fault)))
  | .plain (.turn (.link count fault)) _ => (uncoveredLink start world plain count fault).map .turn
  | .plain (.turn (.linkError fault)) _ => some (.turn (.linkError (advanced (clientSurplus world plain) fault)))
  | .plain (.turn (.relay hop env event)) _ => (uncoveredRelay start world plain hop env event).map .turn
  | .clientCover => none
  | .exitCover _ => none

/-- The run without cover cells that a run of the covered circuit stands for. -/
def uncoveredRun (aead : NoiseAead Key) (cfg : Hop -> RelayConfig) (start : World Key) :
    World Key -> World Key -> List CoveredEvent -> List CircuitEvent
  | _, _, [] => []
  | world, plain, event :: rest =>
      match uncovered start world plain event with
      | none => uncoveredRun aead cfg start (actCovered aead cfg start world event) plain rest
      | some turn =>
          turn :: uncoveredRun aead cfg start (actCovered aead cfg start world event) (plain.act aead cfg turn) rest

/-! ## What is seen from outside -/

/-- The destinations a relay has dialed. -/
def dialed (outputs : List (Instant × Output)) : List (String × UInt16) :=
  outputs.filterMap fun entry =>
    match entry.2 with
    | .dialedDest host port => some (host, port)
    | _ => none

/-- What the destination and the user are given, what is dialed, and whether and why each
party has ended. -/
structure Seen where
  toDest : Bytes
  toUser : Bytes
  dialed : List (String × UInt16)
  client : Option Break
  guard : Option (Except HandleError Unit)
  middle : Option (Except HandleError Unit)
  exit : Option (Except HandleError Unit)

def seen (world : World Key) : Seen where
  toDest := world.destWritten
  toUser := world.userWritten
  dialed := dialed world.exit.loop.io.outputs
  client := world.client.ended
  guard := world.guard.loop.ended
  middle := world.middle.loop.ended
  exit := world.exit.loop.ended

end World
end Circuit
end QuietHop
