import QuietHop.Circuit.Adversary
import QuietHop.Circuit.Flow
import QuietHop.Client.Dial

namespace QuietHop
namespace Circuit

open Lib Wire Client Relay

/-!
# A whole circuit

The client's task and the loops of three relays, joined by links that keep the order of
what is written to them.  A link is what its writer has written so far and how much of it
its reader has read.  One step is one turn of one party; which party, which of its sources
is ready, how many bytes a read returns, where a write breaks off and how a dial ends are
chosen freely at every step.

A read of no bytes is the end of the stream.  It may come at any time, as may an error or a
timeout, so a party may end at any point.
-/

/-! ## Bytes on links -/

/-- What an entry of a relay's record puts on a link. -/
def bytesTo (sink : Sink) : Output -> Bytes
  | .wrote other bytes => if other = sink then bytes else []
  | .cut other bytes written => if other = sink then bytes.take written else []
  | _ => []

def written (sink : Sink) (outputs : List (Instant × Output)) : Bytes :=
  outputs.flatMap fun entry => bytesTo sink entry.2

def linkBytes : TaskOutput -> Bytes
  | .wroteLink frame => frame
  | .cutLink frame written => frame.take written
  | _ => []

def userBytes : TaskOutput -> Bytes
  | .wroteUser payload => payload
  | .cutUser payload written => payload.take written
  | _ => []

@[simp] theorem written_append (sink : Sink) (outputs : List (Instant × Output)) (entry : Instant × Output) :
    written sink (outputs ++ [entry]) = written sink outputs ++ bytesTo sink entry.2 := by
  simp [written]

/-! ## Relays -/

/-- A relay's loop and how much it has read of its two links. -/
structure Station (Key : Type) where
  loop : CircuitLoop Key
  inboundTaken : Nat
  nextTaken : Nat

inductive RelayEvent where
  | inbound (count : Nat)
  | inboundError (error : IoError)
  | timeout
  | next (count : Nat)
  | nextError (error : IoError)
  | dest (bytes : Bytes)
  | destError (error : IoError)

namespace Station

variable {Key : Type}

/-- How much one read of the next link may ask for. -/
def nextRoom (station : Station Key) : Nat :=
  match station.loop.io.nextLink with
  | none => 0
  | some acc => acc.room

def inboundBytes (station : Station Key) (arrivals : Bytes) (count : Nat) : Bytes :=
  (arrivals.drop station.inboundTaken).take (min count station.loop.io.inbound.room)

def nextBytes (station : Station Key) (arrivals : Bytes) (count : Nat) : Bytes :=
  (arrivals.drop station.nextTaken).take (min count station.nextRoom)

/-- One turn of the relay on what its links hold. -/
def turn (aead : NoiseAead Key) (cfg : RelayConfig) (env : Env) (station : Station Key)
    (arrivals nextArrivals : Bytes) (event : RelayEvent) : Station Key :=
  match station.loop.ended with
  | some _ => station
  | none =>
      match event with
      | .inbound count =>
          { station with
            loop := station.loop.step aead cfg env (.inboundRead (station.inboundBytes arrivals count))
            inboundTaken := station.inboundTaken + (station.inboundBytes arrivals count).length }
      | .next count =>
          { station with
            loop := station.loop.step aead cfg env (.nextRead (station.nextBytes nextArrivals count))
            nextTaken := station.nextTaken + (station.nextBytes nextArrivals count).length }
      | .inboundError error => { station with loop := station.loop.step aead cfg env (.inboundError error) }
      | .timeout => { station with loop := station.loop.step aead cfg env .timeout }
      | .nextError error => { station with loop := station.loop.step aead cfg env (.nextError error) }
      | .dest bytes => { station with loop := station.loop.step aead cfg env (.destRead bytes) }
      | .destError error => { station with loop := station.loop.step aead cfg env (.destError error) }

end Station

/-! ## The circuit -/

structure World (Key : Type) where
  client : CircuitTask Key
  clientTaken : Nat
  guard : Station Key
  middle : Station Key
  exit : Station Key
  /-- Everything read from the user. -/
  userRead : Bytes
  /-- Everything read from the destination, and whether it has closed. -/
  destRead : Bytes
  destClosed : Bool

inductive WorldEvent where
  | user (bytes : Bytes) (fault : Nat -> Option Nat)
  | link (count : Nat) (fault : Nat -> Option Nat)
  | linkError (fault : Nat -> Option Nat)
  | relay (hop : Hop) (env : Env) (event : RelayEvent)

namespace World

variable {Key : Type}

def linkWritten (world : World Key) : Bytes :=
  world.client.io.outputs.flatMap linkBytes

def userWritten (world : World Key) : Bytes :=
  world.client.io.outputs.flatMap userBytes

def destWritten (world : World Key) : Bytes :=
  written .dest world.exit.loop.io.outputs

def logs (world : World Key) : PeerLogs :=
  ⟨world.guard.loop.io.transport.sent, world.middle.loop.io.transport.sent, world.exit.loop.io.transport.sent⟩

/-- How many bytes the client reads off its link. -/
def clientBytes (world : World Key) (count : Nat) : Bytes :=
  ((written .client world.guard.loop.io.outputs).drop world.clientTaken).take (min count world.client.io.inbound.room)

def stepUser (aead : NoiseAead Key) (world : World Key) (bytes : Bytes) (fault : Nat -> Option Nat) : World Key :=
  match world.client.ended with
  | some _ => world
  | none =>
      { world with
        client := world.client.step aead ⟨world.logs, fault⟩ (.userRead bytes)
        userRead := world.userRead ++ bytes.take userReadBuf }

def stepLink (aead : NoiseAead Key) (world : World Key) (count : Nat) (fault : Nat -> Option Nat) : World Key :=
  match world.client.ended with
  | some _ => world
  | none =>
      { world with
        client := world.client.step aead ⟨world.logs, fault⟩ (.linkRead (world.clientBytes count))
        clientTaken := world.clientTaken + (world.clientBytes count).length }

/-- The exit's loop, with what it reads from the destination. -/
def stepExit (aead : NoiseAead Key) (cfg : RelayConfig) (world : World Key) (env : Env) (event : RelayEvent) :
    World Key :=
  let exit := world.exit.turn aead { cfg with role := .exit } { env with peer := world.client.io.layers.exit.sent }
    (written .next world.middle.loop.io.outputs) [] event
  match event with
  | .dest bytes =>
      if world.exit.loop.ended.isNone ∧ world.exit.loop.io.destLink = true then
        { world with
          exit := exit
          destRead := world.destRead ++ bytes.take destReadBuf
          destClosed := world.destClosed || bytes.isEmpty }
      else { world with exit := exit }
  | _ => { world with exit := exit }

def step (aead : NoiseAead Key) (cfg : Hop -> RelayConfig) (world : World Key) : WorldEvent -> World Key
  | .user bytes fault => world.stepUser aead bytes fault
  | .link count fault => world.stepLink aead count fault
  | .linkError fault => { world with client := world.client.step aead ⟨world.logs, fault⟩ .linkError }
  | .relay .guard env event =>
      { world with
        guard := world.guard.turn aead { cfg .guard with role := .guard }
          { env with peer := world.client.io.layers.guard.sent } world.linkWritten
          (written .client world.middle.loop.io.outputs) event }
  | .relay .middle env event =>
      { world with
        middle := world.middle.turn aead { cfg .middle with role := .middle }
          { env with peer := world.client.io.layers.middle.sent } (written .next world.guard.loop.io.outputs)
          (written .client world.exit.loop.io.outputs) event }
  | .relay .exit env event => world.stepExit aead (cfg .exit) env event

def run (aead : NoiseAead Key) (cfg : Hop -> RelayConfig) (world : World Key) (events : List WorldEvent) : World Key :=
  events.foldl (fun world event => world.step aead cfg event) world

/-! ## The beginning -/

/-- A circuit that has been extended to three hops and on which nothing is in flight. -/
structure Established (world : World Key) : Prop where
  clientRuns : world.client.ended = none
  guardRuns : world.guard.loop.ended = none
  middleRuns : world.middle.loop.ended = none
  exitRuns : world.exit.loop.ended = none
  -- Both ends of every transport have sealed and opened the same number of messages.
  guardOut : world.guard.loop.io.transport.received = world.client.io.layers.guard.sent.length
  middleOut : world.middle.loop.io.transport.received = world.client.io.layers.middle.sent.length
  exitOut : world.exit.loop.io.transport.received = world.client.io.layers.exit.sent.length
  guardBack : world.client.io.layers.guard.received = world.guard.loop.io.transport.sent.length
  middleBack : world.client.io.layers.middle.received = world.middle.loop.io.transport.sent.length
  exitBack : world.client.io.layers.exit.received = world.exit.loop.io.transport.sent.length
  -- Every reader is between frames and has read all of its link.
  clientIn : world.client.io.inbound = FrameAccumulator.new (linkCellLen clientLayers)
  guardIn : world.guard.loop.io.inbound = FrameAccumulator.new (inboundLen .guard)
  middleIn : world.middle.loop.io.inbound = FrameAccumulator.new (inboundLen .middle)
  exitIn : world.exit.loop.io.inbound = FrameAccumulator.new (inboundLen .exit)
  guardNext : world.guard.loop.io.nextLink = some (FrameAccumulator.new (linkCellLen 2))
  middleNext : world.middle.loop.io.nextLink = some (FrameAccumulator.new (linkCellLen 1))
  clientTaken : world.clientTaken = (written .client world.guard.loop.io.outputs).length
  guardTaken : world.guard.inboundTaken = world.linkWritten.length
  middleTaken : world.middle.inboundTaken = (written .next world.guard.loop.io.outputs).length
  exitTaken : world.exit.inboundTaken = (written .next world.middle.loop.io.outputs).length
  guardNextTaken : world.guard.nextTaken = (written .client world.middle.loop.io.outputs).length
  middleNextTaken : world.middle.nextTaken = (written .client world.exit.loop.io.outputs).length
  -- No destination has been dialed, and no data has been carried.
  exitNext : world.exit.loop.io.nextLink = none
  guardDest : world.guard.loop.io.destLink = false
  middleDest : world.middle.loop.io.destLink = false
  exitDest : world.exit.loop.io.destLink = false
  noDestData : world.destWritten = []
  noUserData : world.userWritten = []
  userRead : world.userRead = []
  destRead : world.destRead = []
  destOpen : world.destClosed = false

/-- The last thing `dial` does before the task takes over: CONNECT, sealed for the exit. -/
def connect (aead : NoiseAead Key) (world : World Key) (payload : ConnectPayload) : Except ClientError (World Key) :=
  match payload.encode with
  | .error e => .error (.cell e)
  | .ok encoded =>
      match Cell.new .connect encoded with
      | .error e => .error (.cell e)
      | .ok cell =>
          match world.client.io.layers.sealForExit aead cell with
          | (.error e, _) => .error e
          | (.ok wire, layers) =>
              .ok { world with
                client := { world.client with
                  io := { world.client.io with
                    layers := layers
                    outputs := world.client.io.outputs ++ [.wroteLink wire] } } }

end World
end Circuit
end QuietHop
