import QuietHop.Client.Dial

namespace QuietHop
namespace Circuit

open Lib Wire Client

/-!
# Whose data reaches the user

The client's task against an adversary that holds the transports of the guard and the
middle.  The adversary decides what arrives on the link and what those two transports
have sealed; only the exit's transport is out of its reach.

`peel_inbound` stops at the first layer addressed to the client, and the task does not
ask which layer that was.  A DATA cell that the guard or the middle seals for the client
is handed to the user like one of the exit's.
-/

/-- The client's task and the exit's transport. -/
structure Tapped (Key : Type) where
  client : CircuitTask Key
  exit : Transport Key
  /-- The cells the exit has sealed. -/
  sealedCells : List Cell

inductive TapMove where
  | exitSeals (cell : Cell)
  | taskTurns (guardLog middleLog : List Sealed) (fault : Nat -> Option Nat) (ready : TaskReady)

namespace Tapped

variable {Key : Type} (aead : NoiseAead Key)

/-- An established circuit on which the exit has sealed nothing yet. -/
def start (layers : Layers Key) (key : Key) : Tapped Key :=
  ⟨CircuitTask.start layers, ⟨key, [], 0⟩, []⟩

def step (state : Tapped Key) : TapMove -> Tapped Key
  | .exitSeals cell =>
      match sealToMe aead state.exit cell 1 with
      | (.error _, exit) => { state with exit := exit }
      | (.ok _, exit) => { state with exit := exit, sealedCells := state.sealedCells ++ [cell] }
  | .taskTurns guardLog middleLog fault ready =>
      { state with client := state.client.step aead ⟨⟨guardLog, middleLog, state.exit.sent⟩, fault⟩ ready }

def run (state : Tapped Key) (moves : List TapMove) : Tapped Key :=
  moves.foldl (fun state move => state.step aead move) state

/-- The payloads handed to the user. -/
def delivered (state : Tapped Key) : List Bytes :=
  state.client.io.delivered

end Tapped

/-! ## Where a peeled cell comes from -/

/-- The log holds a layer that peels to this cell. -/
def Holds (log : List Sealed) (layers : Nat) (cell : Cell) : Prop :=
  ∃ message ∈ log, unwrap message.plain layers = .ok (.toMe cell)

theorem holds_of_peel {Key : Type} {log : List Sealed} {tx next : Transport Key} {wire : Bytes} {layers : Nat}
    {cell : Cell} (read : peel log tx wire layers = (.ok (.toMe cell), next)) : Holds log layers cell := by
  rcases peel_ok read with ⟨plain, here, unwrapped, -⟩
  exact ⟨_, List.mem_of_getElem? here, unwrapped⟩

/-- An inbound frame peels to a cell that one of the three hops has sealed. -/
theorem origin_of_peelInbound {Key : Type} {logs : PeerLogs} {layers : Layers Key} {wire : Bytes} {cell : Cell}
    (read : (layers.peelInbound logs wire).1 = .ok cell) :
    Holds logs.guard 3 cell ∨ Holds logs.middle 2 cell ∨ Holds logs.exit 1 cell := by
  simp only [Layers.peelInbound] at read
  split at read
  · cases read
  · next peeled =>
      cases read
      exact .inl (holds_of_peel peeled)
  simp only [Layers.peelMiddle] at read
  split at read
  · cases read
  · next peeled =>
      cases read
      exact .inr (.inl (holds_of_peel peeled))
  simp only [Layers.peelExit] at read
  split at read
  · cases read
  · next peeled =>
      cases read
      exact .inr (.inr (holds_of_peel peeled))
  · cases read

/-- The log holds no layer with data for the client. -/
def NoData (log : List Sealed) (layers : Nat) : Prop :=
  forall cell, Holds log layers cell -> cell.cellType = .data -> cell.payload = []

/-- The guard and the middle have sealed no data for the client. -/
def TapMove.Uninjected : TapMove -> Prop
  | exitSeals _ => True
  | taskTurns guardLog middleLog _ _ => NoData guardLog 3 ∧ NoData middleLog 2

namespace Tapped

variable {Key : Type} {aead : NoiseAead Key} {state : Tapped Key}

/-- The exit's log holds the cells it sealed, and they account for what was delivered. -/
structure Accounts (state : Tapped Key) : Prop where
  log : forall cell, Holds state.exit.sent 1 cell -> cell ∈ state.sealedCells
  delivered : ∀ payload ∈ state.delivered, (⟨.data, payload⟩ : Cell) ∈ state.sealedCells

theorem accounts_exitSeals (accounts : Accounts state) (cell : Cell) : Accounts (state.step aead (.exitSeals cell)) := by
  by_cases fits : cell.Fits
  · have sealing : sealToMe aead state.exit cell 1 = (.ok _, state.exit.push aead (toMePlain cell 1)) :=
      sealToMe_of_fits aead state.exit fits 0
    simp only [step, sealing]
    constructor
    · rintro other ⟨message, member, read⟩
      rcases List.mem_append.mp member with member | member
      · exact List.mem_append_left _ (accounts.log other ⟨message, member, read⟩)
      · rw [List.mem_singleton.mp member, unwrap_toMePlain fits 1] at read
        cases read
        exact List.mem_append_right _ (List.mem_singleton_self _)
    · exact fun payload member => List.mem_append_left _ (accounts.delivered payload member)
  · rcases sealToMe_of_not_fits aead state.exit fits 1 with ⟨reason, refused⟩
    simp only [step, refused]
    exact accounts

theorem accounts_taskTurns (accounts : Accounts state) {guardLog middleLog : List Sealed}
    (uninjected : NoData guardLog 3 ∧ NoData middleLog 2) (fault : Nat -> Option Nat) (ready : TaskReady) :
    Accounts (state.step aead (.taskTurns guardLog middleLog fault ready)) := by
  refine ⟨accounts.log, ?_⟩
  have before := accounts.delivered
  rcases state with ⟨⟨io, ended⟩, exit, sealedCells⟩
  cases ended with
  | some reason => exact before
  | none =>
  have after : ∀ payload ∈ ((taskTurn aead ⟨⟨guardLog, middleLog, exit.sent⟩, fault⟩ ready).run io).2.delivered,
      (⟨.data, payload⟩ : Cell) ∈ sealedCells := by
    rcases @taskTurn_delivered Key aead ⟨⟨guardLog, middleLog, exit.sent⟩, fault⟩ ready io with
      silent | ⟨frame, cell, read, isData, nonempty, delivered⟩
    · exact silent ▸ before
    · intro payload member
      rw [delivered] at member
      rcases List.mem_append.mp member with member | member
      · exact before payload member
      rw [List.mem_singleton.mp member]
      have same : cell = ⟨.data, cell.payload⟩ := by rw [← isData]
      rw [← same]
      rcases origin_of_peelInbound read with fromGuard | fromMiddle | fromExit
      · exact absurd (uninjected.1 cell fromGuard isData) nonempty
      · exact absurd (uninjected.2 cell fromMiddle isData) nonempty
      · exact accounts.log cell fromExit
  simp only [delivered, step, CircuitTask.step]
  split
  · next turned =>
      rw [turned] at after
      exact after
  · next turned =>
      rw [turned] at after
      rw [teardown_silent]
      exact after

theorem accounts_run (accounts : Accounts state) {moves : List TapMove}
    (uninjected : ∀ move ∈ moves, move.Uninjected) : Accounts (state.run aead moves) := by
  apply List.foldlRecOn moves _ accounts
  intro reached holds move member
  cases move with
  | exitSeals cell => exact accounts_exitSeals holds cell
  | taskTurns guardLog middleLog fault ready =>
      exact accounts_taskTurns holds (uninjected _ member) fault ready

end Tapped

/-- As long as the guard and the middle seal no data for the client themselves, every payload
handed to the user was sealed as a DATA cell by the exit, whatever arrives on the link. -/
theorem delivered_from_exit {Key : Type} (aead : NoiseAead Key) (layers : Layers Key) (key : Key)
    (moves : List TapMove) (uninjected : ∀ move ∈ moves, move.Uninjected) :
    ∀ payload ∈ ((Tapped.start layers key).run aead moves).delivered,
      (⟨.data, payload⟩ : Cell) ∈ ((Tapped.start layers key).run aead moves).sealedCells := by
  have begun : (Tapped.start layers key).Accounts := by
    constructor
    · rintro cell ⟨message, member, -⟩
      cases member
    · intro payload member
      cases member
  exact (Tapped.accounts_run begun uninjected).delivered

/-! ## The task hands over whatever layer addresses it -/

namespace Tapped

variable {Key : Type} {aead : NoiseAead Key}

/-- A frame the guard has sealed for the client itself, with data in it. -/
def injection (aead : NoiseAead Key) (key : Key) (cell : Cell) : TapMove :=
  let frame := aead.encrypt key 0 (toMePlain cell 3)
  .taskTurns [⟨toMePlain cell 3, frame⟩] [] (fun _ => none) (.linkRead frame)

/-- The same data from the exit, wrapped by the middle and the guard. -/
def relayed (aead : NoiseAead Key) (key : Key) (cell : Cell) : TapMove :=
  let inner := aead.encrypt key 0 (toMePlain cell 1)
  let middle := aead.encrypt key 0 (forwardPlain inner)
  let frame := aead.encrypt key 0 (forwardPlain middle)
  .taskTurns [⟨forwardPlain middle, frame⟩] [⟨forwardPlain inner, middle⟩] (fun _ => none) (.linkRead frame)

/-- Sessions on which nothing has been sealed. -/
def freshLayers (key : Key) : Layers Key :=
  ⟨⟨key, [], 0⟩, ⟨key, [], 0⟩, ⟨key, [], 0⟩⟩

theorem delivered_injection (key : Key) {payload : Bytes} (fits : Cell.Fits ⟨.data, payload⟩)
    (nonempty : payload ≠ []) :
    ((start (freshLayers key) key).run aead [injection aead key ⟨.data, payload⟩]).delivered = [payload] := by
  have plainSize := length_toMePlain fits 2
  have size : (aead.encrypt key 0 (toMePlain ⟨.data, payload⟩ 3)).length = linkCellLen 3 := by
    rw [aead.length_encrypt]
    exact plainSize
  have outer : peel [⟨toMePlain ⟨.data, payload⟩ 3, aead.encrypt key 0 (toMePlain ⟨.data, payload⟩ 3)⟩]
      (⟨key, [], 0⟩ : Transport Key) (aead.encrypt key 0 (toMePlain ⟨.data, payload⟩ 3)) 3 =
        (.ok (.toMe ⟨.data, payload⟩), ⟨key, [], 1⟩) := by
    rw [peel_of_sealed _ rfl size plainSize, unwrap_toMePlain fits 3]
  exact step_delivers rfl size (size ▸ linkCellLen_pos 3) (Layers.peelInbound_guard outer) nonempty rfl

theorem delivered_relayed (key : Key) {payload : Bytes} (fits : Cell.Fits ⟨.data, payload⟩)
    (nonempty : payload ≠ []) :
    ((start (freshLayers key) key).run aead
      [.exitSeals ⟨.data, payload⟩, relayed aead key ⟨.data, payload⟩]).delivered = [payload] := by
  have sealing : sealToMe aead (⟨key, [], 0⟩ : Transport Key) ⟨.data, payload⟩ 1 = (.ok _, _) :=
    sealToMe_of_fits aead _ fits 0
  have plainSize := length_toMePlain fits 0
  generalize plainOf : toMePlain ⟨.data, payload⟩ 1 = plain at plainSize
  have innerSize : (aead.encrypt key 0 plain).length = linkCellLen 1 := by
    rw [aead.length_encrypt]
    exact plainSize
  generalize innerOf : aead.encrypt key 0 plain = inner at innerSize
  have middleSize : (aead.encrypt key 0 (forwardPlain inner)).length = linkCellLen 2 := by
    rw [aead.length_encrypt]
    exact length_forwardPlain innerSize
  generalize middleOf : aead.encrypt key 0 (forwardPlain inner) = middle at middleSize
  have size : (aead.encrypt key 0 (forwardPlain middle)).length = linkCellLen 3 := by
    rw [aead.length_encrypt]
    exact length_forwardPlain middleSize
  generalize frameOf : aead.encrypt key 0 (forwardPlain middle) = frame at size
  have first : peel [⟨forwardPlain middle, frame⟩] (⟨key, [], 0⟩ : Transport Key) frame 3 =
      (.ok (.forward middle), ⟨key, [], 1⟩) := by
    rw [peel_of_sealed _ rfl size (length_forwardPlain middleSize), unwrap_forwardPlain]
  have second : peel [⟨forwardPlain inner, middle⟩] (⟨key, [], 0⟩ : Transport Key) middle 2 =
      (.ok (.forward inner), ⟨key, [], 1⟩) := by
    rw [peel_of_sealed _ rfl middleSize (length_forwardPlain innerSize), unwrap_forwardPlain]
  have third : peel [⟨plain, inner⟩] (⟨key, [], 0⟩ : Transport Key) inner 1 =
      (.ok (.toMe ⟨.data, payload⟩), ⟨key, [], 1⟩) := by
    rw [peel_of_sealed _ rfl innerSize plainSize, ← plainOf, unwrap_toMePlain fits 1]
  simp only [run, List.foldl_cons, List.foldl_nil, step, start, sealing, relayed, delivered, Transport.push,
    plainOf, innerOf, middleOf, frameOf, List.nil_append, List.length_nil]
  exact step_delivers rfl size (size ▸ linkCellLen_pos 3) (Layers.peelInbound_exit first second third) nonempty rfl

end Tapped

/-- One byte of data sealed by the guard reaches the user, and the exit has sealed nothing. -/
theorem delivered_without_exit :
    ∃ moves : List TapMove,
      ((Tapped.start (Tapped.freshLayers ()) ()).run (Aead.zeroTag noiseTagLen) moves).delivered = [[120]] ∧
      ((Tapped.start (Tapped.freshLayers ()) ()).run (Aead.zeroTag noiseTagLen) moves).sealedCells = [] := by
  refine ⟨[Tapped.injection (Aead.zeroTag noiseTagLen) () ⟨.data, [120]⟩], ?_, rfl⟩
  exact Tapped.delivered_injection () (by decide) (by decide)

theorem noData_forward {depth : Nat} (blob cipher : Bytes) : NoData [⟨forwardPlain blob, cipher⟩] (depth + 2) := by
  rintro cell ⟨message, member, read⟩
  rw [List.mem_singleton.mp member, unwrap_forwardPlain] at read
  cases read

/-- The same byte sealed by the exit and wrapped on its way meets the condition. -/
theorem delivered_from_exit_sample :
    ((Tapped.start (Tapped.freshLayers ()) ()).run (Aead.zeroTag noiseTagLen)
      [.exitSeals ⟨.data, [120]⟩, Tapped.relayed (Aead.zeroTag noiseTagLen) () ⟨.data, [120]⟩]).delivered = [[120]] ∧
    ∀ payload ∈ ((Tapped.start (Tapped.freshLayers ()) ()).run (Aead.zeroTag noiseTagLen)
        [.exitSeals ⟨.data, [120]⟩, Tapped.relayed (Aead.zeroTag noiseTagLen) () ⟨.data, [120]⟩]).delivered,
      (⟨.data, payload⟩ : Cell) ∈ ((Tapped.start (Tapped.freshLayers ()) ()).run (Aead.zeroTag noiseTagLen)
        [.exitSeals ⟨.data, [120]⟩, Tapped.relayed (Aead.zeroTag noiseTagLen) () ⟨.data, [120]⟩]).sealedCells := by
  refine ⟨Tapped.delivered_relayed () (by decide) (by decide), delivered_from_exit _ _ _ _ ?_⟩
  intro move member
  rcases List.mem_cons.mp member with rfl | member
  · trivial
  · rw [List.mem_singleton.mp member]
    exact ⟨noData_forward _ _, noData_forward _ _⟩

end Circuit
end QuietHop
