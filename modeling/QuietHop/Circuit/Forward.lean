import QuietHop.Client.Layers

namespace QuietHop
namespace Circuit

open Lib Wire Client

/-!
# Onion layering away from the client

Each hop has its own transport, and its counters move only for the frames it
seals or peels.  Under mixed-depth traffic the three counters drift apart.  They
stay in step link by link: what the client has sealed for a hop and the hop has
not peeled is what is on the link before it, followed by what is still wrapped in
the layers outside.
-/

variable {Key : Type} (aead : NoiseAead Key)

/-- The client, the three relays and the frames on the links between them, in the
direction away from the client. -/
structure Forward (Key : Type) where
  client : Layers Key
  guard : Transport Key
  middle : Transport Key
  exit : Transport Key
  guardLink : List Bytes
  middleLink : List Bytes
  exitLink : List Bytes
  guardCells : List Cell
  middleCells : List Cell
  exitCells : List Cell

inductive ForwardEvent where
  | send (hop : Hop) (cell : FittingCell)
  | deliver (hop : Hop)

namespace Forward

def send (state : Forward Key) (hop : Hop) (cell : Cell) : Except ClientError (Forward Key) :=
  match state.client.sealFor aead cell hop with
  | (.error e, _) => .error e
  | (.ok wire, client) => .ok { state with client := client, guardLink := state.guardLink ++ [wire] }

/-- The guard peels the next frame and keeps a cell or passes a blob on. -/
def guardPeels (state : Forward Key) : Except ClientError (Forward Key) :=
  match state.guardLink with
  | [] => .ok state
  | frame :: rest =>
      match peel state.client.guard.sent state.guard frame 3 with
      | (.error e, _) => .error (.layer e)
      | (.ok (.toMe cell), rx) =>
          .ok { state with guard := rx, guardLink := rest, guardCells := state.guardCells ++ [cell] }
      | (.ok (.forward blob), rx) =>
          .ok { state with guard := rx, guardLink := rest, middleLink := state.middleLink ++ [blob] }

def middlePeels (state : Forward Key) : Except ClientError (Forward Key) :=
  match state.middleLink with
  | [] => .ok state
  | frame :: rest =>
      match peel state.client.middle.sent state.middle frame 2 with
      | (.error e, _) => .error (.layer e)
      | (.ok (.toMe cell), rx) =>
          .ok { state with middle := rx, middleLink := rest, middleCells := state.middleCells ++ [cell] }
      | (.ok (.forward blob), rx) =>
          .ok { state with middle := rx, middleLink := rest, exitLink := state.exitLink ++ [blob] }

def exitPeels (state : Forward Key) : Except ClientError (Forward Key) :=
  match state.exitLink with
  | [] => .ok state
  | frame :: rest =>
      match peel state.client.exit.sent state.exit frame 1 with
      | (.error e, _) => .error (.layer e)
      | (.ok (.toMe cell), rx) =>
          .ok { state with exit := rx, exitLink := rest, exitCells := state.exitCells ++ [cell] }
      | (.ok (.forward _), _) => .error (.unexpectedCell .data)

def step (state : Forward Key) : ForwardEvent -> Except ClientError (Forward Key)
  | .send hop cell => state.send aead hop cell.val
  | .deliver .guard => state.guardPeels
  | .deliver .middle => state.middlePeels
  | .deliver .exit => state.exitPeels

def run (state : Forward Key) : List ForwardEvent -> Except ClientError (Forward Key)
  | [] => .ok state
  | event :: rest =>
      match state.step aead event with
      | .error e => .error e
      | .ok next => next.run rest

/-- Nothing is in flight, and every relay has peeled what the client sealed. -/
structure InStep (state : Forward Key) : Prop where
  guard : state.guard.received = state.client.guard.sent.length
  middle : state.middle.received = state.client.middle.sent.length
  exit : state.exit.received = state.client.exit.sent.length
  guardLink : state.guardLink = []
  middleLink : state.middleLink = []
  exitLink : state.exitLink = []

def link (state : Forward Key) : Hop -> List Bytes
  | .guard => state.guardLink
  | .middle => state.middleLink
  | .exit => state.exitLink

def recovered (state : Forward Key) : Hop -> List Cell
  | .guard => state.guardCells
  | .middle => state.middleCells
  | .exit => state.exitCells

/-- What is pending on each link, and where it lies. -/
structure Aligned (state : Forward Key) (addressed : Hop -> List Cell)
    (guardItems middleItems exitItems : List Peeled) : Prop where
  guard : Pending aead 2 state.client.guard.key state.client.guard.sent state.guard.received guardItems
  middle : Pending aead 1 state.client.middle.key state.client.middle.sent state.middle.received middleItems
  exit : Pending aead 0 state.client.exit.key state.client.exit.sent state.exit.received exitItems
  guardLink : inFlight state.client.guard.sent state.guard.received = state.guardLink
  middleLink : inFlight state.client.middle.sent state.middle.received =
    state.middleLink ++ Peeled.blobs guardItems
  exitLink : inFlight state.client.exit.sent state.exit.received = state.exitLink ++ Peeled.blobs middleItems
  guardCells : state.guardCells ++ Peeled.cells guardItems = addressed .guard
  middleCells : state.middleCells ++ Peeled.cells middleItems = addressed .middle
  exitCells : state.exitCells ++ Peeled.cells exitItems = addressed .exit

/-- The cells an event addresses to a hop. -/
def addressedTo (hop : Hop) : ForwardEvent -> List Cell
  | .send target cell => if target = hop then [cell.val] else []
  | .deliver _ => []

variable {aead}
variable {state : Forward Key} {addressed : Hop -> List Cell} {guardItems middleItems exitItems : List Peeled}

theorem aligned_of_inStep (inStep : state.InStep) : Aligned aead state state.recovered [] [] [] where
  guard := Pending.nil inStep.guard
  middle := Pending.nil inStep.middle
  exit := Pending.nil inStep.exit
  guardLink := by simp [inFlight, inStep.guard, inStep.guardLink]
  middleLink := by simp [inFlight, inStep.middle, inStep.middleLink, Peeled.blobs]
  exitLink := by simp [inFlight, inStep.exit, inStep.exitLink, Peeled.blobs]
  guardCells := by simp [recovered, Peeled.cells]
  middleCells := by simp [recovered, Peeled.cells]
  exitCells := by simp [recovered, Peeled.cells]

theorem send_guard (aligned : Aligned aead state addressed guardItems middleItems exitItems)
    (cell : FittingCell) :
    ∃ next, state.send aead .guard cell.val = .ok next ∧
      Aligned aead next (fun hop => addressed hop ++ addressedTo hop (.send .guard cell))
        (guardItems ++ [.toMe cell.val]) middleItems exitItems := by
  have legal : (Peeled.toMe cell.val).Legal 2 := cell.property
  refine ⟨_, by simp only [send, Layers.sealFor, Layers.sealForGuard_of_fits aead _ cell.property]; rfl, ?_⟩
  exact {
    guard := aligned.guard.push legal
    middle := aligned.middle
    exit := aligned.exit
    guardLink := by
      change inFlight (_ ++ [_]) _ = _
      rw [inFlight_push aligned.guard.reached, aligned.guardLink]
      rfl
    middleLink := by simpa [Peeled.blobs_append, Peeled.blobs] using aligned.middleLink
    exitLink := aligned.exitLink
    guardCells := by
      rw [Peeled.cells_append, ← List.append_assoc]
      exact congrArg (· ++ [cell.val]) aligned.guardCells
    middleCells := by simpa [addressedTo] using aligned.middleCells
    exitCells := by simpa [addressedTo] using aligned.exitCells }

theorem send_middle (aligned : Aligned aead state addressed guardItems middleItems exitItems)
    (cell : FittingCell) :
    ∃ next blob, state.send aead .middle cell.val = .ok next ∧
      Aligned aead next (fun hop => addressed hop ++ addressedTo hop (.send .middle cell))
        (guardItems ++ [.forward blob]) (middleItems ++ [.toMe cell.val]) exitItems := by
  have legal : (Peeled.toMe cell.val).Legal 1 := cell.property
  have outer : (Peeled.forward (frameOf aead state.client.middle 2 (.toMe cell.val))).Legal 2 :=
    ⟨Nat.two_pos, length_frameOf aead state.client.middle legal⟩
  refine ⟨_, frameOf aead state.client.middle 2 (.toMe cell.val),
    by simp only [send, Layers.sealFor, Layers.sealForMiddle_of_fits aead _ cell.property]; rfl, ?_⟩
  exact {
    guard := aligned.guard.push outer
    middle := aligned.middle.push legal
    exit := aligned.exit
    guardLink := by
      change inFlight (_ ++ [_]) _ = _
      rw [inFlight_push aligned.guard.reached, aligned.guardLink]
      rfl
    middleLink := by
      change inFlight (_ ++ [_]) _ = _
      rw [inFlight_push aligned.middle.reached, aligned.middleLink, Peeled.blobs_append, List.append_assoc]
      rfl
    exitLink := by simpa [Peeled.blobs_append, Peeled.blobs] using aligned.exitLink
    guardCells := by simpa [Peeled.cells_append, Peeled.cells, addressedTo] using aligned.guardCells
    middleCells := by
      rw [Peeled.cells_append, ← List.append_assoc]
      exact congrArg (· ++ [cell.val]) aligned.middleCells
    exitCells := by simpa [addressedTo] using aligned.exitCells }

theorem send_exit (aligned : Aligned aead state addressed guardItems middleItems exitItems)
    (cell : FittingCell) :
    ∃ next blob inner, state.send aead .exit cell.val = .ok next ∧
      Aligned aead next (fun hop => addressed hop ++ addressedTo hop (.send .exit cell))
        (guardItems ++ [.forward blob]) (middleItems ++ [.forward inner]) (exitItems ++ [.toMe cell.val]) := by
  have legal : (Peeled.toMe cell.val).Legal 0 := cell.property
  have inner : (Peeled.forward (frameOf aead state.client.exit 1 (.toMe cell.val))).Legal 1 :=
    ⟨Nat.one_pos, length_frameOf aead state.client.exit legal⟩
  have outer : (Peeled.forward (frameOf aead state.client.middle 2
      (.forward (frameOf aead state.client.exit 1 (.toMe cell.val))))).Legal 2 :=
    ⟨Nat.two_pos, length_frameOf aead state.client.middle inner⟩
  refine ⟨_, frameOf aead state.client.middle 2 (.forward (frameOf aead state.client.exit 1 (.toMe cell.val))),
    frameOf aead state.client.exit 1 (.toMe cell.val),
    by simp only [send, Layers.sealFor, Layers.sealForExit_of_fits aead _ cell.property]; rfl, ?_⟩
  exact {
    guard := aligned.guard.push outer
    middle := aligned.middle.push inner
    exit := aligned.exit.push legal
    guardLink := by
      change inFlight (_ ++ [_]) _ = _
      rw [inFlight_push aligned.guard.reached, aligned.guardLink]
      rfl
    middleLink := by
      change inFlight (_ ++ [_]) _ = _
      rw [inFlight_push aligned.middle.reached, aligned.middleLink, Peeled.blobs_append, List.append_assoc]
      rfl
    exitLink := by
      change inFlight (_ ++ [_]) _ = _
      rw [inFlight_push aligned.exit.reached, aligned.exitLink, Peeled.blobs_append, List.append_assoc]
      rfl
    guardCells := by simpa [Peeled.cells_append, Peeled.cells, addressedTo] using aligned.guardCells
    middleCells := by simpa [Peeled.cells_append, Peeled.cells, addressedTo] using aligned.middleCells
    exitCells := by
      rw [Peeled.cells_append, ← List.append_assoc]
      exact congrArg (· ++ [cell.val]) aligned.exitCells }

/-- The guard never fails, and what it peels leaves its link for its own cells or
for the link behind it. -/
theorem guardPeels_aligned (aligned : Aligned aead state addressed guardItems middleItems exitItems) :
    ∃ next later, state.guardPeels = .ok next ∧ Aligned aead next addressed later middleItems exitItems := by
  cases onLink : state.guardLink with
  | nil => exact ⟨state, guardItems, by simp [guardPeels, onLink], aligned⟩
  | cons frame rest =>
      rcases aligned.guard.peel_front (aligned.guardLink.trans onLink) with
        ⟨item, later, rfl, peeled, remaining, onward⟩
      cases item with
      | toMe cell =>
          refine ⟨_, later, by simp only [guardPeels, onLink, peeled]; rfl, ?_⟩
          exact { aligned with
            guard := onward
            guardLink := remaining
            guardCells := by simpa [Peeled.cells] using aligned.guardCells }
      | forward blob =>
          refine ⟨_, later, by simp only [guardPeels, onLink, peeled]; rfl, ?_⟩
          exact { aligned with
            guard := onward
            guardLink := remaining
            middleLink := by simpa [Peeled.blobs] using aligned.middleLink
            guardCells := aligned.guardCells }

theorem middlePeels_aligned (aligned : Aligned aead state addressed guardItems middleItems exitItems) :
    ∃ next later, state.middlePeels = .ok next ∧ Aligned aead next addressed guardItems later exitItems := by
  cases onLink : state.middleLink with
  | nil => exact ⟨state, middleItems, by simp [middlePeels, onLink], aligned⟩
  | cons frame rest =>
      have front := aligned.middleLink
      rw [onLink, List.cons_append] at front
      rcases aligned.middle.peel_front front with ⟨item, later, rfl, peeled, remaining, onward⟩
      cases item with
      | toMe cell =>
          refine ⟨_, later, by simp only [middlePeels, onLink, peeled]; rfl, ?_⟩
          exact { aligned with
            middle := onward
            middleLink := remaining
            middleCells := by simpa [Peeled.cells] using aligned.middleCells }
      | forward blob =>
          refine ⟨_, later, by simp only [middlePeels, onLink, peeled]; rfl, ?_⟩
          exact { aligned with
            middle := onward
            middleLink := remaining
            exitLink := by simpa [Peeled.blobs] using aligned.exitLink
            middleCells := aligned.middleCells }

theorem exitPeels_aligned (aligned : Aligned aead state addressed guardItems middleItems exitItems) :
    ∃ next later, state.exitPeels = .ok next ∧ Aligned aead next addressed guardItems middleItems later := by
  cases onLink : state.exitLink with
  | nil => exact ⟨state, exitItems, by simp [exitPeels, onLink], aligned⟩
  | cons frame rest =>
      have front := aligned.exitLink
      rw [onLink, List.cons_append] at front
      rcases aligned.exit.peel_front front with ⟨item, later, rfl, peeled, remaining, onward⟩
      cases item with
      | toMe cell =>
          refine ⟨_, later, by simp only [exitPeels, onLink, peeled]; rfl, ?_⟩
          exact { aligned with
            exit := onward
            exitLink := remaining
            exitCells := by simpa [Peeled.cells] using aligned.exitCells }
      | forward blob =>
          -- A forward layer is not legal on the innermost link, so none was sealed there.
          have legal := aligned.exit.legal (.forward blob) (List.mem_cons_self ..)
          exact absurd legal.1 (Nat.lt_irrefl 0)

/-- Some split of what is pending aligns the state. -/
def Aligns (aead : NoiseAead Key) (state : Forward Key) (addressed : Hop -> List Cell) : Prop :=
  ∃ guardItems middleItems exitItems, Aligned aead state addressed guardItems middleItems exitItems

theorem step_aligns (aligns : Aligns aead state addressed) (event : ForwardEvent) :
    ∃ next, state.step aead event = .ok next ∧
      Aligns aead next (fun hop => addressed hop ++ addressedTo hop event) := by
  rcases aligns with ⟨guardItems, middleItems, exitItems, aligned⟩
  have unaddressed (hop : Hop) : (fun target => addressed target ++ addressedTo target (.deliver hop)) = addressed := by
    funext target
    exact List.append_nil _
  cases event with
  | send hop cell =>
      cases hop with
      | guard =>
          rcases send_guard aligned cell with ⟨next, sent, kept⟩
          exact ⟨next, sent, _, _, _, kept⟩
      | middle =>
          rcases send_middle aligned cell with ⟨next, blob, sent, kept⟩
          exact ⟨next, sent, _, _, _, kept⟩
      | exit =>
          rcases send_exit aligned cell with ⟨next, blob, inner, sent, kept⟩
          exact ⟨next, sent, _, _, _, kept⟩
  | deliver hop =>
      rw [unaddressed hop]
      cases hop with
      | guard =>
          rcases guardPeels_aligned aligned with ⟨next, later, peeled, kept⟩
          exact ⟨next, peeled, _, _, _, kept⟩
      | middle =>
          rcases middlePeels_aligned aligned with ⟨next, later, peeled, kept⟩
          exact ⟨next, peeled, _, _, _, kept⟩
      | exit =>
          rcases exitPeels_aligned aligned with ⟨next, later, peeled, kept⟩
          exact ⟨next, peeled, _, _, _, kept⟩

theorem run_aligns (aligns : Aligns aead state addressed) (events : List ForwardEvent) :
    ∃ final, state.run aead events = .ok final ∧
      Aligns aead final (fun hop => addressed hop ++ events.flatMap (addressedTo hop)) := by
  induction events generalizing state addressed with
  | nil => exact ⟨state, rfl, by simpa using aligns⟩
  | cons event rest ih =>
      rcases step_aligns aligns event with ⟨next, stepped, kept⟩
      rcases ih kept with ⟨final, ran, settled⟩
      refine ⟨final, by simp only [run, stepped, ran], ?_⟩
      simpa [List.append_assoc] using settled

/-! ### What alignment says about cells and frames -/

theorem recovered_isPrefix (aligns : Aligns aead state addressed) (hop : Hop) :
    state.recovered hop <+: addressed hop := by
  rcases aligns with ⟨guardItems, middleItems, exitItems, aligned⟩
  cases hop with
  | guard => exact ⟨_, aligned.guardCells⟩
  | middle => exact ⟨_, aligned.middleCells⟩
  | exit => exact ⟨_, aligned.exitCells⟩

theorem length_of_mem_link (aligns : Aligns aead state addressed) (hop : Hop) :
    ∀ frame ∈ state.link hop, frame.length = linkCellLen hop.layers := by
  rcases aligns with ⟨guardItems, middleItems, exitItems, aligned⟩
  intro frame member
  cases hop with
  | guard =>
      apply aligned.guard.length_frame
      rw [aligned.guardLink]
      exact member
  | middle =>
      apply aligned.middle.length_frame
      rw [aligned.middleLink]
      exact List.mem_append_left _ member
  | exit =>
      apply aligned.exit.length_frame
      rw [aligned.exitLink]
      exact List.mem_append_left _ member

private theorem items_nil {depth counter : Nat} {key : Key} {log : List Sealed} {items : List Peeled}
    (pending : Pending aead depth key log counter items) (empty : inFlight log counter = []) : items = [] := by
  have size := pending.length_inFlight
  rw [empty] at size
  exact List.length_eq_zero_iff.mp size.symm

/-- With nothing left on any link every addressed cell has been recovered. -/
theorem recovered_eq (aligns : Aligns aead state addressed) (idle : forall hop, state.link hop = []) (hop : Hop) :
    state.recovered hop = addressed hop := by
  rcases aligns with ⟨guardItems, middleItems, exitItems, aligned⟩
  have guardIdle : guardItems = [] := items_nil aligned.guard (aligned.guardLink.trans (idle .guard))
  subst guardIdle
  have middleIdle : middleItems = [] := by
    apply items_nil aligned.middle
    rw [aligned.middleLink]
    exact congrArg (· ++ []) (idle .middle)
  subst middleIdle
  have exitIdle : exitItems = [] := by
    apply items_nil aligned.exit
    rw [aligned.exitLink]
    exact congrArg (· ++ []) (idle .exit)
  subst exitIdle
  cases hop with
  | guard => simpa [recovered, Peeled.cells] using aligned.guardCells
  | middle => simpa [recovered, Peeled.cells] using aligned.middleCells
  | exit => simpa [recovered, Peeled.cells] using aligned.exitCells

/-! ### Delivery comes to an end -/

/-- Peels still to be made if every frame went all the way to the exit. -/
def weight (state : Forward Key) : Nat :=
  3 * state.guardLink.length + 2 * state.middleLink.length + state.exitLink.length

theorem weight_lt_of_deliver {next : Forward Key} {hop : Hop} (busy : state.link hop ≠ [])
    (stepped : state.step aead (.deliver hop) = .ok next) : next.weight < state.weight := by
  cases hop with
  | guard =>
      simp only [step, guardPeels] at stepped
      split at stepped
      · next idle => exact absurd idle busy
      · next onLink =>
          split at stepped
          · cases stepped
          · cases stepped
            simp only [weight, onLink, List.length_cons]
            omega
          · cases stepped
            simp only [weight, onLink, List.length_cons, List.length_append, List.length_nil]
            omega
  | middle =>
      simp only [step, middlePeels] at stepped
      split at stepped
      · next idle => exact absurd idle busy
      · next onLink =>
          split at stepped
          · cases stepped
          · cases stepped
            simp only [weight, onLink, List.length_cons]
            omega
          · cases stepped
            simp only [weight, onLink, List.length_cons, List.length_append, List.length_nil]
            omega
  | exit =>
      simp only [step, exitPeels] at stepped
      split at stepped
      · next idle => exact absurd idle busy
      · next onLink =>
          split at stepped
          · cases stepped
          · cases stepped
            simp only [weight, onLink, List.length_cons]
            omega
          · cases stepped

/-- From any aligned state some deliveries empty every link. -/
theorem exists_drained (aligns : Aligns aead state addressed) :
    ∃ (hops : List Hop) (final : Forward Key), state.run aead (hops.map .deliver) = .ok final ∧
      forall hop, final.link hop = [] := by
  induction size : state.weight using Nat.strongRecOn generalizing state with
  | ind size ih =>
      by_cases idle : forall hop, state.link hop = []
      · exact ⟨[], state, rfl, idle⟩
      · rcases not_forall.mp idle with ⟨hop, busy⟩
        rcases step_aligns aligns (.deliver hop) with ⟨next, stepped, kept⟩
        have smaller := weight_lt_of_deliver busy stepped
        have same : Aligns aead next addressed := by simpa [addressedTo] using kept
        rcases ih _ (size ▸ smaller) same rfl with ⟨hops, final, ran, drained⟩
        exact ⟨hop :: hops, final, by simp only [List.map_cons, run, stepped, ran], drained⟩

end Forward
end Circuit
end QuietHop
