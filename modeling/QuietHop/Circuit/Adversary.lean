import QuietHop.Client.Layers
import QuietHop.Relay.Conduct

namespace QuietHop
namespace Circuit

open Lib Wire Client Relay

/-!
# One relay against everything between it and the client

The client seals cells for any of the three hops, in any order.  The relay at one hop
runs its loop on whatever the adversary lets arrive: any bytes at any time, in reads of
any size, with any documents, dials and faults around them.  The two sides share
nothing but what the client has sealed under that hop's transport.

While the loop runs, the cells it has acted on are those among the messages it has
opened.  Any frame that is not the next message of the client ends the loop.
-/

/-- The role a relay has at a hop. -/
def roleAt : Hop -> Role
  | .guard => .guard
  | .middle => .middle
  | .exit => .exit

theorem inboundLayers_roleAt (hop : Hop) : inboundLayers (roleAt hop) = hop.layers := by
  cases hop <;> rfl

/-- The client and the relay at one hop. -/
structure Attack (Key : Type) where
  client : Layers Key
  relay : CircuitLoop Key
  /-- What the client has sealed under this hop's transport for this hop. -/
  sealedCells : List Cell

inductive Move where
  | clientSeals (target : Hop) (cell : Cell)
  /-- The adversary and the relay's surroundings choose everything the relay sees but
  what the client has sealed. -/
  | relayTurns (env : Env) (ready : Ready)

namespace Attack

variable {Key : Type} (aead : NoiseAead Key) (cfg : RelayConfig) (hop : Hop)

/-- Fresh transports on both sides. -/
def start (keys : Hop -> Key) : Attack Key where
  client := ⟨⟨keys .guard, [], 0⟩, ⟨keys .middle, [], 0⟩, ⟨keys .exit, [], 0⟩⟩
  relay := CircuitLoop.start (roleAt hop) ⟨keys hop, [], 0⟩ []
  sealedCells := []

def step (state : Attack Key) : Move -> Attack Key
  | .clientSeals target cell =>
      match state.client.sealFor aead cell target with
      | (.error _, client) => { state with client := client }
      | (.ok _, client) =>
          { state with
            client := client
            sealedCells := if target = hop then state.sealedCells ++ [cell] else state.sealedCells }
  | .relayTurns env ready =>
      { state with
        relay := state.relay.step aead { cfg with role := roleAt hop }
          { env with peer := (state.client.tx hop).sent } ready }

def run (state : Attack Key) (moves : List Move) : Attack Key :=
  moves.foldl (fun state move => state.step aead cfg hop move) state

end Attack

/-! ## Cells acted on and cells sealed -/

def actedCell : Output -> Option Cell
  | .acted cell => some cell
  | _ => none

/-- The cells a relay has acted on, in order. -/
def actedCells (outputs : List (Instant × Output)) : List Cell :=
  outputs.filterMap fun entry => actedCell entry.2

/-- The cell a message is, for a relay that peels it off a link of this depth. -/
def cellOf (layers : Nat) (message : Sealed) : Option Cell :=
  match unwrap message.plain layers with
  | .ok (.toMe cell) => some cell
  | _ => none

def cellsOf (layers : Nat) (log : List Sealed) : List Cell :=
  log.filterMap (cellOf layers)

theorem actedCells_append (first second : List (Instant × Output)) :
    actedCells (first ++ second) = actedCells first ++ actedCells second :=
  List.filterMap_append

theorem actedCells_permitted {cfg : RelayConfig} {outputs : List (Instant × Output)}
    (permitted : ∀ entry ∈ outputs, Permitted cfg entry) : actedCells outputs = [] := by
  apply List.filterMap_eq_nil_iff.mpr
  intro entry member
  have fine := permitted entry member
  cases output : entry.2 with
  | acted cell =>
      rw [Permitted, output] at fine
      exact fine.elim
  | _ => rfl

theorem cellsOf_append (layers : Nat) (first second : List Sealed) :
    cellsOf layers (first ++ second) = cellsOf layers first ++ cellsOf layers second :=
  List.filterMap_append

/-- What sealing legal items adds to the cells. -/
theorem cellsOf_items {hop : Hop} (frame : Peeled -> Bytes) (items : List Peeled)
    (legal : ∀ item ∈ items, item.Legal hop.depth) :
    cellsOf hop.layers (items.map fun item => ⟨item.plain hop.layers, frame item⟩) = Peeled.cells items := by
  induction items with
  | nil => rfl
  | cons item rest ih =>
      have tail := ih fun other inside => legal other (List.mem_cons_of_mem _ inside)
      have read : unwrap (item.plain hop.layers) hop.layers = .ok item :=
        Peeled.unwrap_plain (legal item (List.mem_cons_self ..))
      cases item with
      | toMe cell => simpa [cellsOf, cellOf, read, Peeled.cells] using tail
      | forward blob => simpa [cellsOf, cellOf, read, Peeled.cells] using tail

namespace Attack

variable {Key : Type} {aead : NoiseAead Key} {cfg : RelayConfig} {hop : Hop} {state : Attack Key}

def acted (state : Attack Key) : List Cell :=
  actedCells state.relay.io.outputs

/-- The cells in the client's log are those it sealed for this hop.  The relay has acted on
an initial part of them; while it runs, on exactly those among the messages it has opened. -/
structure Tracks (hop : Hop) (state : Attack Key) : Prop where
  sealedCells : cellsOf hop.layers (state.client.tx hop).sent = state.sealedCells
  acted : state.acted <+: cellsOf hop.layers (state.client.tx hop).sent
  running : state.relay.ended = none -> state.relay.io.transport.received ≤ (state.client.tx hop).sent.length ∧
    state.acted = cellsOf hop.layers ((state.client.tx hop).sent.take state.relay.io.transport.received)

theorem tracks_start (keys : Hop -> Key) : Tracks hop (start hop keys) where
  sealedCells := by cases hop <;> rfl
  acted := List.nil_prefix
  running := by
    intro _
    cases hop <;> exact ⟨Nat.le_refl 0, rfl⟩

theorem tracks_clientSeals (tracks : Tracks hop state) (target : Hop) (cell : Cell) :
    Tracks hop (state.step aead cfg hop (.clientSeals target cell)) := by
  by_cases fits : cell.Fits
  · rcases state.client.sealFor_of_fits aead fits target hop with ⟨wire, next, items, done, legal, grown, own⟩
    have cells : cellsOf hop.layers (next.tx hop).sent =
        cellsOf hop.layers (state.client.tx hop).sent ++ if target = hop then [cell] else [] := by
      rw [grown, cellsOf_append, cellsOf_items _ items legal, own]
    simp only [step, done]
    refine ⟨?_, ?_, fun running => ?_⟩
    · simp only [cells, tracks.sealedCells]
      split_ifs <;> simp
    · simp only [cells]
      exact tracks.acted.trans (List.prefix_append _ _)
    · rcases tracks.running running with ⟨reached, same⟩
      refine ⟨?_, ?_⟩
      · rw [grown, List.length_append]
        exact Nat.le_trans reached (Nat.le_add_right _ _)
      · rw [grown, List.take_append_of_le_length reached]
        exact same
  · rcases state.client.sealFor_of_not_fits aead fits target with ⟨reason, refused⟩
    simp only [step, refused]
    exact tracks

/-- An opened message is the next one of the log. -/
theorem cellsOf_take_succ {layers count : Nat} {log : List Sealed} {plain wire : Bytes} {peeled : Peeled}
    (instant : Instant) (here : log[count]? = some ⟨plain, wire⟩) (read : unwrap plain layers = .ok peeled) :
    cellsOf layers (log.take (count + 1)) = cellsOf layers (log.take count) ++ actedCells (noted instant peeled) := by
  rw [List.take_add_one, here, cellsOf_append]
  cases peeled with
  | toMe cell => simp [cellsOf, cellOf, read, actedCells, noted, actedCell]
  | forward blob => simp [cellsOf, cellOf, read, actedCells, noted]

theorem tracks_relayTurns (tracks : Tracks hop state) (env : Env) (ready : Ready) :
    Tracks hop (state.step aead cfg hop (.relayTurns env ready)) := by
  have behind := tracks.running
  rcases state with ⟨client, ⟨io, ended⟩, sealedCells⟩
  cases ended with
  | some result => exact tracks
  | none =>
  rcases behind rfl with ⟨reached, same⟩
  -- It is enough to say how the record and the counter stand after the turn.
  have enough {after : CircuitIo Key} {result : Except HandleError Control}
      (within : after.transport.received ≤ (client.tx hop).sent.length ∧ actedCells after.outputs =
        cellsOf hop.layers ((client.tx hop).sent.take after.transport.received)) :
      Tracks hop ⟨client, CircuitLoop.settle (result, after), sealedCells⟩ := by
    refine ⟨tracks.sealedCells, ?_, fun _ => ?_⟩
    · simp only [acted, CircuitLoop.settle_io, within.2]
      exact (List.take_prefix _ _).filterMap _
    · simpa only [acted, CircuitLoop.settle_io] using within
  rcases turned : (turn aead { cfg with role := roleAt hop } { env with peer := (client.tx hop).sent } ready).run io
    with ⟨result, after⟩
  simp only [step, CircuitLoop.step, turned]
  have cases := @turn_cases Key aead { cfg with role := roleAt hop } { env with peer := (client.tx hop).sent } ready io
  rw [turned] at cases
  rcases cases with adds | ⟨reason, refused, unchanged⟩ | ⟨plain, wire, peeled, here, read, adds⟩
  · rcases adds.outputs with ⟨added, grown, permitted⟩
    apply enough
    rw [adds.received, grown, actedCells_append, actedCells_permitted permitted, List.append_nil]
    exact ⟨reached, same⟩
  · simp only at refused unchanged
    subst refused
    refine ⟨tracks.sealedCells, ?_, fun running => by cases running⟩
    simp only [acted, CircuitLoop.settle_io, unchanged]
    exact tracks.acted
  · rcases adds.outputs with ⟨added, grown, permitted⟩
    apply enough
    rw [inboundLayers_roleAt] at read
    have counted : after.transport.received = io.transport.received + 1 := adds.received
    have within : io.transport.received < (client.tx hop).sent.length := (List.getElem?_eq_some_iff.mp here).1
    rw [counted, grown, actedCells_append, actedCells_permitted permitted, List.append_nil, actedCells_append,
      cellsOf_take_succ env.instant here read]
    exact ⟨within, congrArg (· ++ _) same⟩

theorem tracks_run (tracks : Tracks hop state) (moves : List Move) : Tracks hop (state.run aead cfg hop moves) := by
  apply List.foldlRecOn moves _ tracks
  intro reached holds move _
  cases move with
  | clientSeals target cell => exact tracks_clientSeals holds target cell
  | relayTurns env ready => exact tracks_relayTurns holds env ready

end Attack

/-- No forged, dropped, replayed or reordered cell is ever acted on.  At any hop, against
any sequence of bytes and any behaviour of the surroundings, interleaved in any way with
the client's sealing: the cells the relay has acted on are an initial part of the cells the
client has sealed for it, in order and without repetition. -/
theorem acted_isPrefix_sealed {Key : Type} (aead : NoiseAead Key) (cfg : RelayConfig) (hop : Hop)
    (keys : Hop -> Key) (moves : List Move) :
    ((Attack.start hop keys).run aead cfg hop moves).acted <+:
      ((Attack.start hop keys).run aead cfg hop moves).sealedCells := by
  have tracks : Attack.Tracks hop ((Attack.start hop keys).run aead cfg hop moves) :=
    Attack.tracks_run (Attack.tracks_start keys) moves
  rw [← tracks.sealedCells]
  exact tracks.acted

end Circuit
end QuietHop
