import QuietHop.Client.Error
import QuietHop.Wire.Link

namespace QuietHop
namespace Client

open Lib Wire

/-!
# The client's three transports

A client holds one transport per hop.  A cell for the exit is sealed three times
from the inside out, and an inbound frame is peeled from the outside in until a
cell appears, which may happen at any layer.
-/

inductive Hop where
  | guard
  | middle
  | exit
  deriving DecidableEq, Repr

/-- The number of layers inside the one this hop peels. -/
def Hop.depth : Hop -> Nat
  | guard => 2
  | middle => 1
  | exit => 0

/-- The layers on the link into this hop. -/
def Hop.layers (hop : Hop) : Nat := hop.depth + 1

def clientLayers : Nat := 3

/-- The three per-hop transports, outermost first. -/
structure Layers (Key : Type) where
  guard : Transport Key
  middle : Transport Key
  exit : Transport Key

/-- What each hop has sealed towards the client. -/
structure PeerLogs where
  guard : List Sealed
  middle : List Sealed
  exit : List Sealed

namespace Layers

variable {Key : Type} (aead : NoiseAead Key)

def tx (layers : Layers Key) : Hop -> Transport Key
  | .guard => layers.guard
  | .middle => layers.middle
  | .exit => layers.exit

/-- Wrap a frame of the guard-middle link for the guard. -/
def wrapForGuard (layers : Layers Key) (inner : Bytes) : Except ClientError Bytes × Layers Key :=
  match sealForward aead layers.guard inner clientLayers with
  | (.error e, tx) => (.error (.layer e), { layers with guard := tx })
  | (.ok wire, tx) => (.ok wire, { layers with guard := tx })

/-- Seal a cell for the exit and wrap it for the middle and the guard. -/
def sealForExit (layers : Layers Key) (cell : Cell) : Except ClientError Bytes × Layers Key :=
  match sealToMe aead layers.exit cell 1 with
  | (.error e, tx) => (.error (.layer e), { layers with exit := tx })
  | (.ok inner, exit) =>
      match sealForward aead layers.middle inner (clientLayers - 1) with
      | (.error e, tx) => (.error (.layer e), { layers with exit := exit, middle := tx })
      | (.ok mid, middle) => wrapForGuard aead { layers with exit := exit, middle := middle } mid

/-- Seal a cell for the middle, as the client does to extend to the exit. -/
def sealForMiddle (layers : Layers Key) (cell : Cell) : Except ClientError Bytes × Layers Key :=
  match sealToMe aead layers.middle cell (clientLayers - 1) with
  | (.error e, tx) => (.error (.layer e), { layers with middle := tx })
  | (.ok inner, middle) => wrapForGuard aead { layers with middle := middle } inner

/-- Seal a cell for the guard, as the client does to extend to the middle. -/
def sealForGuard (layers : Layers Key) (cell : Cell) : Except ClientError Bytes × Layers Key :=
  match sealToMe aead layers.guard cell clientLayers with
  | (.error e, tx) => (.error (.layer e), { layers with guard := tx })
  | (.ok wire, tx) => (.ok wire, { layers with guard := tx })

def sealFor (layers : Layers Key) (cell : Cell) : Hop -> Except ClientError Bytes × Layers Key
  | .guard => layers.sealForGuard aead cell
  | .middle => layers.sealForMiddle aead cell
  | .exit => layers.sealForExit aead cell

/-- The innermost peel of an inbound frame. -/
def peelExit (logs : PeerLogs) (layers : Layers Key) (blob : Bytes) : Except ClientError Cell × Layers Key :=
  match peel logs.exit layers.exit blob 1 with
  | (.error e, tx) => (.error (.layer e), { layers with exit := tx })
  | (.ok (.toMe cell), tx) => (.ok cell, { layers with exit := tx })
  | (.ok (.forward _), tx) => (.error (.unexpectedCell .data), { layers with exit := tx })

/-- The inner two peels of an inbound frame. -/
def peelMiddle (logs : PeerLogs) (layers : Layers Key) (blob : Bytes) :
    Except ClientError Cell × Layers Key :=
  match peel logs.middle layers.middle blob (clientLayers - 1) with
  | (.error e, tx) => (.error (.layer e), { layers with middle := tx })
  | (.ok (.toMe cell), tx) => (.ok cell, { layers with middle := tx })
  | (.ok (.forward inner), tx) => peelExit logs { layers with middle := tx } inner

/-- Peel every layer off an inbound frame until a cell appears. -/
def peelInbound (logs : PeerLogs) (layers : Layers Key) (wire : Bytes) :
    Except ClientError Cell × Layers Key :=
  match peel logs.guard layers.guard wire clientLayers with
  | (.error e, tx) => (.error (.layer e), { layers with guard := tx })
  | (.ok (.toMe cell), tx) => (.ok cell, { layers with guard := tx })
  | (.ok (.forward blob), tx) => peelMiddle logs { layers with guard := tx } blob

/-! ## Sealing never fails on a cell that fits -/

theorem wrapForGuard_of_length (layers : Layers Key) {inner : Bytes} (size : inner.length = linkCellLen 2) :
    layers.wrapForGuard aead inner = (.ok (frameOf aead layers.guard 3 (.forward inner)),
      { layers with guard := layers.guard.push aead (Peeled.plain 3 (.forward inner)) }) := by
  unfold wrapForGuard
  rw [clientLayers, sealForward_of_length aead layers.guard size]
  rfl

theorem sealForGuard_of_fits (layers : Layers Key) {cell : Cell} (fits : cell.Fits) :
    layers.sealForGuard aead cell = (.ok (frameOf aead layers.guard 3 (.toMe cell)),
      { layers with guard := layers.guard.push aead (Peeled.plain 3 (.toMe cell)) }) := by
  unfold sealForGuard
  rw [clientLayers, sealToMe_of_fits aead layers.guard fits 2]
  rfl

theorem sealForMiddle_of_fits (layers : Layers Key) {cell : Cell} (fits : cell.Fits) :
    layers.sealForMiddle aead cell =
      (.ok (frameOf aead layers.guard 3 (.forward (frameOf aead layers.middle 2 (.toMe cell)))),
        { layers with
          middle := layers.middle.push aead (Peeled.plain 2 (.toMe cell))
          guard := layers.guard.push aead
            (Peeled.plain 3 (.forward (frameOf aead layers.middle 2 (.toMe cell)))) }) := by
  have legal : (Peeled.toMe cell).Legal 1 := fits
  have size := length_frameOf aead layers.middle legal
  unfold sealForMiddle
  rw [clientLayers, sealToMe_of_fits aead layers.middle fits 1]
  exact wrapForGuard_of_length aead _ size

theorem sealForExit_of_fits (layers : Layers Key) {cell : Cell} (fits : cell.Fits) :
    layers.sealForExit aead cell =
      (.ok (frameOf aead layers.guard 3
          (.forward (frameOf aead layers.middle 2 (.forward (frameOf aead layers.exit 1 (.toMe cell)))))),
        { exit := layers.exit.push aead (Peeled.plain 1 (.toMe cell))
          middle := layers.middle.push aead (Peeled.plain 2 (.forward (frameOf aead layers.exit 1 (.toMe cell))))
          guard := layers.guard.push aead (Peeled.plain 3
            (.forward (frameOf aead layers.middle 2
              (.forward (frameOf aead layers.exit 1 (.toMe cell)))))) }) := by
  have inner : (Peeled.toMe cell).Legal 0 := fits
  have innerSize := length_frameOf aead layers.exit inner
  have outer : (Peeled.forward (frameOf aead layers.exit 1 (.toMe cell))).Legal 1 :=
    ⟨Nat.one_pos, innerSize⟩
  have outerSize := length_frameOf aead layers.middle outer
  have first : sealToMe aead layers.exit cell 1 = (.ok (frameOf aead layers.exit 1 (.toMe cell)),
      layers.exit.push aead (Peeled.plain 1 (.toMe cell))) := sealToMe_of_fits aead layers.exit fits 0
  have second : sealForward aead layers.middle (frameOf aead layers.exit 1 (.toMe cell)) (clientLayers - 1) =
      (.ok (frameOf aead layers.middle 2 (.forward (frameOf aead layers.exit 1 (.toMe cell)))),
        layers.middle.push aead (Peeled.plain 2 (.forward (frameOf aead layers.exit 1 (.toMe cell))))) :=
    sealForward_of_length aead layers.middle innerSize
  unfold sealForExit
  simp only [first, second]
  exact wrapForGuard_of_length aead _ outerSize

/-- A cell that does not fit is sealed for no hop. -/
theorem sealFor_of_not_fits (layers : Layers Key) {cell : Cell} (large : ¬ cell.Fits) (hop : Hop) :
    ∃ reason, layers.sealFor aead cell hop = (.error reason, layers) := by
  cases hop with
  | guard =>
      rcases sealToMe_of_not_fits aead layers.guard large clientLayers with ⟨reason, refused⟩
      exact ⟨.layer reason, by simp only [sealFor, sealForGuard, refused]⟩
  | middle =>
      rcases sealToMe_of_not_fits aead layers.middle large (clientLayers - 1) with ⟨reason, refused⟩
      exact ⟨.layer reason, by simp only [sealFor, sealForMiddle, refused]⟩
  | exit =>
      rcases sealToMe_of_not_fits aead layers.exit large 1 with ⟨reason, refused⟩
      exact ⟨.layer reason, by simp only [sealFor, sealForExit, refused]⟩

/-- Sealing for one hop adds to each transport at most one message, which its hop will
peel to the cell if it is the target and pass on if it is not. -/
theorem sealFor_of_fits (layers : Layers Key) {cell : Cell} (fits : cell.Fits) (target hop : Hop) :
    ∃ wire next items, layers.sealFor aead cell target = (.ok wire, next) ∧
      (∀ item ∈ items, item.Legal hop.depth) ∧
      (next.tx hop).sent = (layers.tx hop).sent ++ items.map (fun item =>
        ⟨item.plain hop.layers, frameOf aead (layers.tx hop) hop.layers item⟩) ∧
      Peeled.cells items = if target = hop then [cell] else [] := by
  have atExit : (Peeled.toMe cell).Legal 0 := fits
  have atMiddle : (Peeled.toMe cell).Legal 1 := fits
  have atGuard : (Peeled.toMe cell).Legal 2 := fits
  have past : (Peeled.forward (frameOf aead layers.exit 1 (.toMe cell))).Legal 1 :=
    ⟨Nat.one_pos, length_frameOf aead layers.exit atExit⟩
  have pastTwo : (Peeled.forward (frameOf aead layers.middle 2
      (.forward (frameOf aead layers.exit 1 (.toMe cell))))).Legal 2 :=
    ⟨Nat.two_pos, length_frameOf aead layers.middle past⟩
  have pastOne : (Peeled.forward (frameOf aead layers.middle 2 (.toMe cell))).Legal 2 :=
    ⟨Nat.two_pos, length_frameOf aead layers.middle atMiddle⟩
  have one {item : Peeled} {depth : Nat} (legal : item.Legal depth) : ∀ other ∈ [item], other.Legal depth :=
    List.forall_mem_singleton.mpr legal
  have untouched {log : List Sealed} : log = log ++ [] := (List.append_nil log).symm
  cases target with
  | guard =>
      refine ⟨_, _, (if hop = .guard then [.toMe cell] else []), sealForGuard_of_fits aead layers fits, ?_⟩
      cases hop with
      | guard => exact ⟨one atGuard, rfl, rfl⟩
      | middle => exact ⟨by simp, untouched, rfl⟩
      | exit => exact ⟨by simp, untouched, rfl⟩
  | middle =>
      refine ⟨_, _, (match hop with
        | .guard => [.forward (frameOf aead layers.middle 2 (.toMe cell))]
        | .middle => [.toMe cell]
        | .exit => []), sealForMiddle_of_fits aead layers fits, ?_⟩
      cases hop with
      | guard => exact ⟨one pastOne, rfl, rfl⟩
      | middle => exact ⟨one atMiddle, rfl, rfl⟩
      | exit => exact ⟨by simp, untouched, rfl⟩
  | exit =>
      refine ⟨_, _, (match hop with
        | .guard => [.forward (frameOf aead layers.middle 2 (.forward (frameOf aead layers.exit 1 (.toMe cell))))]
        | .middle => [.forward (frameOf aead layers.exit 1 (.toMe cell))]
        | .exit => [.toMe cell]), sealForExit_of_fits aead layers fits, ?_⟩
      cases hop with
      | guard => exact ⟨one pastTwo, rfl, rfl⟩
      | middle => exact ⟨one past, rfl, rfl⟩
      | exit => exact ⟨one atExit, rfl, rfl⟩

/-! ## Peeling stops at the first cell -/

section Peeling

variable {logs : PeerLogs} {layers : Layers Key} {wire blob inner : Bytes} {cell : Cell}
  {guardTx middleTx exitTx : Transport Key}

theorem peelInbound_guard (outer : peel logs.guard layers.guard wire 3 = (.ok (.toMe cell), guardTx)) :
    layers.peelInbound logs wire = (.ok cell, { layers with guard := guardTx }) := by
  unfold peelInbound
  rw [clientLayers, outer]

theorem peelInbound_middle (outer : peel logs.guard layers.guard wire 3 = (.ok (.forward blob), guardTx))
    (second : peel logs.middle layers.middle blob 2 = (.ok (.toMe cell), middleTx)) :
    layers.peelInbound logs wire = (.ok cell, { layers with guard := guardTx, middle := middleTx }) := by
  unfold peelInbound
  rw [clientLayers, outer]
  simp only [peelMiddle, clientLayers, second]

theorem peelInbound_exit (outer : peel logs.guard layers.guard wire 3 = (.ok (.forward blob), guardTx))
    (second : peel logs.middle layers.middle blob 2 = (.ok (.forward inner), middleTx))
    (third : peel logs.exit layers.exit inner 1 = (.ok (.toMe cell), exitTx)) :
    layers.peelInbound logs wire = (.ok cell, ⟨guardTx, middleTx, exitTx⟩) := by
  unfold peelInbound
  rw [clientLayers, outer]
  simp only [peelMiddle, clientLayers, second, peelExit, third]

end Peeling

end Layers
end Client
end QuietHop
