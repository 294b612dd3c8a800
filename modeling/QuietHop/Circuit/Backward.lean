import QuietHop.Circuit.Forward

namespace QuietHop
namespace Circuit

open Lib Wire Client

/-!
# Onion layering towards the client

Any relay may originate a cell, and each relay wraps the next link's frames.  A
frame on a link carries the cell it was made for as a ghost that no operation
reads; the order in which the guard emits frames is recorded through it.  The
client's counters stay in step with each relay's log: what a relay has sealed and
the client has not peeled is what is still wrapped further out, followed by what
is on the link.
-/

/-- A frame with the cell it was made for. -/
structure Tagged where
  frame : Bytes
  cell : Cell

variable {Key : Type} (aead : NoiseAead Key)

/-- The three relays, the client and the frames between them, in the direction
towards the client.  `exitLink` leads from the exit to the middle, `guardLink`
from the guard to the client. -/
structure Backward (Key : Type) where
  client : Layers Key
  guard : Transport Key
  middle : Transport Key
  exit : Transport Key
  guardLink : List Tagged
  middleLink : List Tagged
  exitLink : List Tagged
  emitted : List Cell
  returned : List Cell

inductive BackwardEvent where
  | originate (hop : Hop) (cell : FittingCell)
  | wrapAtMiddle
  | wrapAtGuard
  | receive

namespace Backward

/-- What the relays have sealed, as the client's transports see it. -/
def logs (state : Backward Key) : PeerLogs := ⟨state.guard.sent, state.middle.sent, state.exit.sent⟩

/-- The guard seals a cell of its own for the client and emits it. -/
def originateAtGuard (state : Backward Key) (cell : Cell) : Except ClientError (Backward Key) :=
  match sealToMe aead state.guard cell 3 with
  | (.error e, _) => .error (.layer e)
  | (.ok wire, tx) =>
      .ok { state with
        guard := tx
        guardLink := state.guardLink ++ [⟨wire, cell⟩]
        emitted := state.emitted ++ [cell] }

def originateAtMiddle (state : Backward Key) (cell : Cell) : Except ClientError (Backward Key) :=
  match sealToMe aead state.middle cell 2 with
  | (.error e, _) => .error (.layer e)
  | (.ok wire, tx) => .ok { state with middle := tx, middleLink := state.middleLink ++ [⟨wire, cell⟩] }

def originateAtExit (state : Backward Key) (cell : Cell) : Except ClientError (Backward Key) :=
  match sealToMe aead state.exit cell 1 with
  | (.error e, _) => .error (.layer e)
  | (.ok wire, tx) => .ok { state with exit := tx, exitLink := state.exitLink ++ [⟨wire, cell⟩] }

/-- The middle wraps the next frame from the exit. -/
def wrapAtMiddle (state : Backward Key) : Except ClientError (Backward Key) :=
  match state.exitLink with
  | [] => .ok state
  | tagged :: rest =>
      match sealForward aead state.middle tagged.frame 2 with
      | (.error e, _) => .error (.layer e)
      | (.ok wire, tx) =>
          .ok { state with
            middle := tx
            exitLink := rest
            middleLink := state.middleLink ++ [⟨wire, tagged.cell⟩] }

/-- The guard wraps the next frame from the middle and emits it. -/
def wrapAtGuard (state : Backward Key) : Except ClientError (Backward Key) :=
  match state.middleLink with
  | [] => .ok state
  | tagged :: rest =>
      match sealForward aead state.guard tagged.frame 3 with
      | (.error e, _) => .error (.layer e)
      | (.ok wire, tx) =>
          .ok { state with
            guard := tx
            middleLink := rest
            guardLink := state.guardLink ++ [⟨wire, tagged.cell⟩]
            emitted := state.emitted ++ [tagged.cell] }

/-- The client peels the next frame. -/
def receive (state : Backward Key) : Except ClientError (Backward Key) :=
  match state.guardLink with
  | [] => .ok state
  | tagged :: rest =>
      match state.client.peelInbound state.logs tagged.frame with
      | (.error e, _) => .error e
      | (.ok cell, client) =>
          .ok { state with client := client, guardLink := rest, returned := state.returned ++ [cell] }

def step (state : Backward Key) : BackwardEvent -> Except ClientError (Backward Key)
  | .originate .guard cell => state.originateAtGuard aead cell.val
  | .originate .middle cell => state.originateAtMiddle aead cell.val
  | .originate .exit cell => state.originateAtExit aead cell.val
  | .wrapAtMiddle => state.wrapAtMiddle aead
  | .wrapAtGuard => state.wrapAtGuard aead
  | .receive => state.receive

def run (state : Backward Key) : List BackwardEvent -> Except ClientError (Backward Key)
  | [] => .ok state
  | event :: rest =>
      match state.step aead event with
      | .error e => .error e
      | .ok next => next.run rest

/-- Nothing is in flight, and the client has peeled what every relay sealed. -/
structure InStep (state : Backward Key) : Prop where
  guard : state.client.guard.received = state.guard.sent.length
  middle : state.client.middle.received = state.middle.sent.length
  exit : state.client.exit.received = state.exit.sent.length
  guardLink : state.guardLink = []
  middleLink : state.middleLink = []
  exitLink : state.exitLink = []
  returned : state.returned = state.emitted

def link (state : Backward Key) : Hop -> List Tagged
  | .guard => state.guardLink
  | .middle => state.middleLink
  | .exit => state.exitLink

/-! ## Frames in flight, with their cells -/

/-- Pair frames with the cells they carry. -/
def tag (frames : List Bytes) (cells : List Cell) : List Tagged := List.zipWith Tagged.mk frames cells

/-- The frames wrapped inside pending messages. -/
def wrapped : List (Peeled × Cell) -> List Tagged
  | [] => []
  | (.toMe _, _) :: rest => wrapped rest
  | (.forward blob, cell) :: rest => ⟨blob, cell⟩ :: wrapped rest

theorem wrapped_append (first second : List (Peeled × Cell)) :
    wrapped (first ++ second) = wrapped first ++ wrapped second := by
  induction first with
  | nil => rfl
  | cons entry rest ih =>
      rcases entry with ⟨item, cell⟩
      cases item with
      | toMe own => exact ih
      | forward blob => exact congrArg (Tagged.mk blob cell :: ·) ih

/-- A pending cell that is not wrapped is the cell its frame was made for. -/
def Own (entries : List (Peeled × Cell)) : Prop :=
  ∀ entry ∈ entries, forall cell, entry.1 = .toMe cell -> cell = entry.2

theorem frame_mem_of_mem_tag {frames : List Bytes} {cells : List Cell} {tagged : Tagged}
    (member : tagged ∈ tag frames cells) : tagged.frame ∈ frames := by
  induction frames generalizing cells with
  | nil => simp [tag] at member
  | cons frame rest ih =>
      cases cells with
      | nil => simp [tag] at member
      | cons cell others =>
          rcases List.mem_cons.mp member with same | member
          · rw [same]
            exact List.mem_cons_self ..
          · exact List.mem_cons_of_mem _ (ih member)

variable {aead}

/-- One hop's log against the client's counter, every pending message with the
cell it was made for. -/
structure Holds (aead : NoiseAead Key) (depth : Nat) (relay : Transport Key) (counter : Nat)
    (entries : List (Peeled × Cell)) : Prop where
  pending : Pending aead depth relay.key relay.sent counter (entries.map Prod.fst)
  own : Own entries

namespace Holds

variable {depth counter : Nat} {relay : Transport Key} {entries : List (Peeled × Cell)}

theorem nil (reached : counter = relay.sent.length) : Holds aead depth relay counter [] :=
  ⟨Pending.nil reached, by simp [Own]⟩

theorem push (holds : Holds aead depth relay counter entries) {item : Peeled} {cell : Cell}
    (legal : item.Legal depth) (own : forall inner, item = .toMe inner -> inner = cell) :
    Holds aead depth (relay.push aead (item.plain (depth + 1))) counter (entries ++ [(item, cell)]) where
  pending := by
    rw [List.map_append]
    exact holds.pending.push legal
  own := by
    intro entry member
    rcases List.mem_append.mp member with member | member
    · exact holds.own entry member
    · rw [List.mem_singleton.mp member]
      exact own

theorem tag_push (holds : Holds aead depth relay counter entries) (plain : Bytes) (item : Peeled) (cell : Cell) :
    tag (inFlight (relay.push aead plain).sent counter) ((entries ++ [(item, cell)]).map Prod.snd) =
      tag (inFlight relay.sent counter) (entries.map Prod.snd) ++
        [⟨aead.encrypt relay.key relay.sent.length plain, cell⟩] := by
  have sizes : (inFlight relay.sent counter).length = (entries.map Prod.snd).length := by
    rw [holds.pending.length_inFlight, List.length_map, List.length_map]
  rw [Transport.push_sent, inFlight_push holds.pending.reached, List.map_append]
  unfold tag
  rw [List.zipWith_append sizes]
  rfl

/-- The client peels the frame at the front of what this hop has in flight. -/
theorem peel_front {rx : Transport Key} {entries : List (Peeled × Cell)} {tagged : Tagged}
    {rest : List Tagged} (holds : Holds aead depth relay rx.received entries)
    (front : tag (inFlight relay.sent rx.received) (entries.map Prod.snd) = tagged :: rest) :
    ∃ item later, entries = (item, tagged.cell) :: later ∧
      peel relay.sent rx tagged.frame (depth + 1) = (.ok item, { rx with received := rx.received + 1 }) ∧
      tag (inFlight relay.sent (rx.received + 1)) (later.map Prod.snd) = rest ∧
      Holds aead depth relay (rx.received + 1) later := by
  cases entries with
  | nil => simp [tag] at front
  | cons entry later =>
      rcases entry with ⟨item, cell⟩
      rcases holds.pending.peel with ⟨frame, frames, peeled, onward⟩
      rw [frames] at front
      simp only [tag, List.map_cons, List.zipWith_cons_cons, List.cons.injEq] at front
      rcases front with ⟨rfl, rfl⟩
      refine ⟨item, later, rfl, peeled, rfl, onward, ?_⟩
      exact fun other member => holds.own other (List.mem_cons_of_mem _ member)

theorem length_frame (holds : Holds aead depth relay counter entries) {tagged : Tagged}
    (member : tagged ∈ tag (inFlight relay.sent counter) (entries.map Prod.snd)) :
    tagged.frame.length = linkCellLen (depth + 1) :=
  holds.pending.length_frame tagged.frame (frame_mem_of_mem_tag member)

end Holds

/-! ## Alignment of the whole direction -/

/-- What is pending at each hop, and where it lies. -/
structure Aligned (aead : NoiseAead Key) (state : Backward Key)
    (guardEntries middleEntries exitEntries : List (Peeled × Cell)) : Prop where
  guard : Holds aead 2 state.guard state.client.guard.received guardEntries
  middle : Holds aead 1 state.middle state.client.middle.received middleEntries
  exit : Holds aead 0 state.exit state.client.exit.received exitEntries
  guardLink : tag (inFlight state.guard.sent state.client.guard.received) (guardEntries.map Prod.snd) =
    state.guardLink
  middleLink : tag (inFlight state.middle.sent state.client.middle.received) (middleEntries.map Prod.snd) =
    wrapped guardEntries ++ state.middleLink
  exitLink : tag (inFlight state.exit.sent state.client.exit.received) (exitEntries.map Prod.snd) =
    wrapped middleEntries ++ state.exitLink
  order : state.returned ++ guardEntries.map Prod.snd = state.emitted

variable {state : Backward Key} {guardEntries middleEntries exitEntries : List (Peeled × Cell)}

theorem aligned_of_inStep (inStep : state.InStep) : Aligned aead state [] [] [] where
  guard := Holds.nil inStep.guard
  middle := Holds.nil inStep.middle
  exit := Holds.nil inStep.exit
  guardLink := by simp [tag, inStep.guardLink]
  middleLink := by simp [tag, wrapped, inStep.middleLink]
  exitLink := by simp [tag, wrapped, inStep.exitLink]
  order := by simp [inStep.returned]

theorem originateAtGuard_aligned (aligned : Aligned aead state guardEntries middleEntries exitEntries)
    (cell : FittingCell) :
    ∃ next, state.originateAtGuard aead cell.val = .ok next ∧
      Aligned aead next (guardEntries ++ [(.toMe cell.val, cell.val)]) middleEntries exitEntries := by
  have legal : (Peeled.toMe cell.val).Legal 2 := cell.property
  have sealedCell : sealToMe aead state.guard cell.val 3 = (.ok (frameOf aead state.guard 3 (.toMe cell.val)),
      state.guard.push aead (Peeled.plain 3 (.toMe cell.val))) := sealToMe_of_fits aead state.guard cell.property 2
  have ran : state.originateAtGuard aead cell.val = .ok { state with
      guard := state.guard.push aead (Peeled.plain 3 (.toMe cell.val))
      guardLink := state.guardLink ++ [⟨frameOf aead state.guard 3 (.toMe cell.val), cell.val⟩]
      emitted := state.emitted ++ [cell.val] } := by
    simp only [originateAtGuard, sealedCell]
  refine ⟨_, ran, ?_⟩
  exact { aligned with
    guard := aligned.guard.push legal (by simp)
    guardLink := (aligned.guard.tag_push _ _ _).trans (by rw [aligned.guardLink]; rfl)
    middleLink := by simpa [wrapped_append, wrapped] using aligned.middleLink
    order := by
      rw [List.map_append, ← List.append_assoc, aligned.order]
      rfl }

theorem originateAtMiddle_aligned (aligned : Aligned aead state guardEntries middleEntries exitEntries)
    (cell : FittingCell) :
    ∃ next, state.originateAtMiddle aead cell.val = .ok next ∧
      Aligned aead next guardEntries (middleEntries ++ [(.toMe cell.val, cell.val)]) exitEntries := by
  have legal : (Peeled.toMe cell.val).Legal 1 := cell.property
  have sealedCell : sealToMe aead state.middle cell.val 2 = (.ok (frameOf aead state.middle 2 (.toMe cell.val)),
      state.middle.push aead (Peeled.plain 2 (.toMe cell.val))) := sealToMe_of_fits aead state.middle cell.property 1
  have ran : state.originateAtMiddle aead cell.val = .ok { state with
      middle := state.middle.push aead (Peeled.plain 2 (.toMe cell.val))
      middleLink := state.middleLink ++ [⟨frameOf aead state.middle 2 (.toMe cell.val), cell.val⟩] } := by
    simp only [originateAtMiddle, sealedCell]
  refine ⟨_, ran, ?_⟩
  exact { aligned with
    middle := aligned.middle.push legal (by simp)
    middleLink := (aligned.middle.tag_push _ _ _).trans (by rw [aligned.middleLink, List.append_assoc]; rfl)
    exitLink := by simpa [wrapped_append, wrapped] using aligned.exitLink }

theorem originateAtExit_aligned (aligned : Aligned aead state guardEntries middleEntries exitEntries)
    (cell : FittingCell) :
    ∃ next, state.originateAtExit aead cell.val = .ok next ∧
      Aligned aead next guardEntries middleEntries (exitEntries ++ [(.toMe cell.val, cell.val)]) := by
  have legal : (Peeled.toMe cell.val).Legal 0 := cell.property
  have sealedCell : sealToMe aead state.exit cell.val 1 = (.ok (frameOf aead state.exit 1 (.toMe cell.val)),
      state.exit.push aead (Peeled.plain 1 (.toMe cell.val))) := sealToMe_of_fits aead state.exit cell.property 0
  have ran : state.originateAtExit aead cell.val = .ok { state with
      exit := state.exit.push aead (Peeled.plain 1 (.toMe cell.val))
      exitLink := state.exitLink ++ [⟨frameOf aead state.exit 1 (.toMe cell.val), cell.val⟩] } := by
    simp only [originateAtExit, sealedCell]
  refine ⟨_, ran, ?_⟩
  exact { aligned with
    exit := aligned.exit.push legal (by simp)
    exitLink := (aligned.exit.tag_push _ _ _).trans (by rw [aligned.exitLink, List.append_assoc]; rfl) }

/-- Wrapping moves a frame from the link into the pending messages. -/
theorem wrapAtMiddle_aligned (aligned : Aligned aead state guardEntries middleEntries exitEntries) :
    ∃ next later, state.wrapAtMiddle aead = .ok next ∧ Aligned aead next guardEntries later exitEntries := by
  cases onLink : state.exitLink with
  | nil => exact ⟨state, middleEntries, by simp [wrapAtMiddle, onLink], aligned⟩
  | cons tagged rest =>
      have placed := aligned.exitLink
      rw [onLink] at placed
      have size : tagged.frame.length = linkCellLen 1 := by
        apply aligned.exit.length_frame
        rw [placed]
        exact List.mem_append_right _ (List.mem_cons_self ..)
      have legal : (Peeled.forward tagged.frame).Legal 1 := ⟨Nat.one_pos, size⟩
      refine ⟨_, middleEntries ++ [(.forward tagged.frame, tagged.cell)],
        by simp only [wrapAtMiddle, onLink, sealForward_of_length aead _ size]; rfl, ?_⟩
      exact { aligned with
        middle := aligned.middle.push legal (by simp)
        middleLink := (aligned.middle.tag_push _ _ _).trans (by rw [aligned.middleLink, List.append_assoc])
        exitLink := by
          rw [placed, wrapped_append, List.append_assoc]
          rfl }

theorem wrapAtGuard_aligned (aligned : Aligned aead state guardEntries middleEntries exitEntries) :
    ∃ next later, state.wrapAtGuard aead = .ok next ∧ Aligned aead next later middleEntries exitEntries := by
  cases onLink : state.middleLink with
  | nil => exact ⟨state, guardEntries, by simp [wrapAtGuard, onLink], aligned⟩
  | cons tagged rest =>
      have placed := aligned.middleLink
      rw [onLink] at placed
      have size : tagged.frame.length = linkCellLen 2 := by
        apply aligned.middle.length_frame
        rw [placed]
        exact List.mem_append_right _ (List.mem_cons_self ..)
      have legal : (Peeled.forward tagged.frame).Legal 2 := ⟨Nat.two_pos, size⟩
      refine ⟨_, guardEntries ++ [(.forward tagged.frame, tagged.cell)],
        by simp only [wrapAtGuard, onLink, sealForward_of_length aead _ size]; rfl, ?_⟩
      exact { aligned with
        guard := aligned.guard.push legal (by simp)
        guardLink := (aligned.guard.tag_push _ _ _).trans (by rw [aligned.guardLink])
        middleLink := by
          rw [placed, wrapped_append, List.append_assoc]
          rfl
        order := by
          rw [List.map_append, ← List.append_assoc, aligned.order]
          rfl }

theorem own_cell {item : Peeled} {cell own : Cell} {later : List (Peeled × Cell)}
    (holds : Own ((item, cell) :: later)) (isOwn : item = .toMe own) : own = cell :=
  holds (item, cell) (List.mem_cons_self ..) own isOwn

/-- The client peels the next frame to the cell it was made for: at the guard's
layer, at the middle's or at the exit's, wherever that cell was sealed. -/
theorem receive_aligned (aligned : Aligned aead state guardEntries middleEntries exitEntries) :
    ∃ next guardLater middleLater exitLater, state.receive = .ok next ∧
      Aligned aead next guardLater middleLater exitLater := by
  cases onLink : state.guardLink with
  | nil => exact ⟨state, _, _, _, by simp [receive, onLink], aligned⟩
  | cons tagged rest =>
      rcases aligned.guard.peel_front (aligned.guardLink.trans onLink) with
        ⟨item, guardLater, rfl, peeled, remaining, onward⟩
      have received {client : Layers Key} {cell : Cell}
          (ran : state.client.peelInbound state.logs tagged.frame = (.ok cell, client)) :
          state.receive = .ok { state with
            client := client, guardLink := rest, returned := state.returned ++ [cell] } := by
        simp only [receive, onLink, ran]
      have order : (state.returned ++ [tagged.cell]) ++ guardLater.map Prod.snd = state.emitted := by
        simpa using aligned.order
      cases item with
      | toMe own =>
          obtain rfl := own_cell aligned.guard.own rfl
          refine ⟨_, guardLater, middleEntries, exitEntries, received (Layers.peelInbound_guard peeled), ?_⟩
          exact { aligned with
            guard := onward
            guardLink := remaining
            middleLink := aligned.middleLink
            order := order }
      | forward blob =>
          rcases aligned.middle.peel_front aligned.middleLink with
            ⟨second, middleLater, rfl, middlePeeled, middleRemaining, middleOnward⟩
          cases second with
          | toMe own =>
              obtain rfl := own_cell aligned.middle.own rfl
              refine ⟨_, guardLater, middleLater, exitEntries,
                received (Layers.peelInbound_middle peeled middlePeeled), ?_⟩
              exact { aligned with
                guard := onward
                middle := middleOnward
                guardLink := remaining
                middleLink := middleRemaining
                exitLink := aligned.exitLink
                order := order }
          | forward inner =>
              rcases aligned.exit.peel_front aligned.exitLink with
                ⟨third, exitLater, rfl, exitPeeled, exitRemaining, exitOnward⟩
              cases third with
              | toMe own =>
                  obtain rfl := own_cell aligned.exit.own rfl
                  refine ⟨_, guardLater, middleLater, exitLater,
                    received (Layers.peelInbound_exit peeled middlePeeled exitPeeled), ?_⟩
                  exact {
                    guard := onward
                    middle := middleOnward
                    exit := exitOnward
                    guardLink := remaining
                    middleLink := middleRemaining
                    exitLink := exitRemaining
                    order := order }
              | forward innermost =>
                  have legal := aligned.exit.pending.legal (.forward innermost) (List.mem_cons_self ..)
                  exact absurd legal.1 (Nat.lt_irrefl 0)

/-- Some split of what is pending aligns the state. -/
def Aligns (aead : NoiseAead Key) (state : Backward Key) : Prop :=
  ∃ guardEntries middleEntries exitEntries, Aligned aead state guardEntries middleEntries exitEntries

theorem step_aligns (aligns : Aligns aead state) (event : BackwardEvent) :
    ∃ next, state.step aead event = .ok next ∧ Aligns aead next := by
  rcases aligns with ⟨guardEntries, middleEntries, exitEntries, aligned⟩
  cases event with
  | originate hop cell =>
      cases hop with
      | guard =>
          rcases originateAtGuard_aligned aligned cell with ⟨next, ran, kept⟩
          exact ⟨next, ran, _, _, _, kept⟩
      | middle =>
          rcases originateAtMiddle_aligned aligned cell with ⟨next, ran, kept⟩
          exact ⟨next, ran, _, _, _, kept⟩
      | exit =>
          rcases originateAtExit_aligned aligned cell with ⟨next, ran, kept⟩
          exact ⟨next, ran, _, _, _, kept⟩
  | wrapAtMiddle =>
      rcases wrapAtMiddle_aligned aligned with ⟨next, later, ran, kept⟩
      exact ⟨next, ran, _, _, _, kept⟩
  | wrapAtGuard =>
      rcases wrapAtGuard_aligned aligned with ⟨next, later, ran, kept⟩
      exact ⟨next, ran, _, _, _, kept⟩
  | receive =>
      rcases receive_aligned aligned with ⟨next, guardLater, middleLater, exitLater, ran, kept⟩
      exact ⟨next, ran, _, _, _, kept⟩

theorem returned_isPrefix (aligns : Aligns aead state) : state.returned <+: state.emitted := by
  rcases aligns with ⟨guardEntries, middleEntries, exitEntries, aligned⟩
  exact ⟨_, aligned.order⟩

/-- With nothing on the way to the client it has every cell the guard emitted. -/
theorem returned_eq (aligns : Aligns aead state) (idle : state.guardLink = []) :
    state.returned = state.emitted := by
  rcases aligns with ⟨guardEntries, middleEntries, exitEntries, aligned⟩
  have empty : guardEntries = [] := by
    have size := congrArg List.length (aligned.guardLink.trans idle)
    rw [tag, List.length_zipWith, aligned.guard.pending.length_inFlight] at size
    simpa using size
  rw [← aligned.order, empty]
  simp

theorem length_of_mem_link (aligns : Aligns aead state) (hop : Hop) :
    ∀ tagged ∈ state.link hop, tagged.frame.length = linkCellLen hop.layers := by
  rcases aligns with ⟨guardEntries, middleEntries, exitEntries, aligned⟩
  intro tagged member
  cases hop with
  | guard =>
      apply aligned.guard.length_frame
      rw [aligned.guardLink]
      exact member
  | middle =>
      apply aligned.middle.length_frame
      rw [aligned.middleLink]
      exact List.mem_append_right _ member
  | exit =>
      apply aligned.exit.length_frame
      rw [aligned.exitLink]
      exact List.mem_append_right _ member

/-! ## No cell is lost or made up on the way -/

/-- The cells an event puts on its way. -/
def originatedBy : BackwardEvent -> List Cell
  | .originate _ cell => [cell.val]
  | _ => []

/-- The cells the guard has emitted or a relay still holds. -/
def afloat (state : Backward Key) : List Cell :=
  state.emitted ++ (state.middleLink.map Tagged.cell ++ state.exitLink.map Tagged.cell)

/-- Hops a frame still has to be passed on or peeled at. -/
def weight (state : Backward Key) : Nat :=
  3 * state.exitLink.length + 2 * state.middleLink.length + state.guardLink.length

theorem originate_afloat {next : Backward Key} {hop : Hop} {cell : FittingCell}
    (ran : state.step aead (.originate hop cell) = .ok next) :
    next.afloat.Perm (state.afloat ++ [cell.val]) := by
  cases hop with
  | guard =>
      simp only [step, originateAtGuard] at ran
      split at ran
      · cases ran
      · cases ran
        simp only [afloat]
        rw [List.append_assoc, List.append_assoc]
        exact List.Perm.append_left _ List.perm_append_comm
  | middle =>
      simp only [step, originateAtMiddle] at ran
      split at ran
      · cases ran
      · cases ran
        simp only [afloat, List.map_append, List.append_assoc]
        exact List.Perm.append_left _ (List.Perm.append_left _ List.perm_append_comm)
  | exit =>
      simp only [step, originateAtExit] at ran
      split at ran
      · cases ran
      · cases ran
        simp [afloat]

theorem wrapAtMiddle_afloat {next : Backward Key} (ran : state.wrapAtMiddle aead = .ok next) :
    next.afloat = state.afloat ∧ (state.exitLink ≠ [] -> next.weight < state.weight) := by
  unfold wrapAtMiddle at ran
  split at ran
  · next idle =>
      cases ran
      exact ⟨rfl, fun busy => absurd idle busy⟩
  · next onLink =>
      split at ran
      · cases ran
      · cases ran
        constructor
        · simp [afloat, onLink]
        · intro _
          simp only [weight, onLink, List.length_cons, List.length_append, List.length_nil]
          omega

theorem wrapAtGuard_afloat {next : Backward Key} (ran : state.wrapAtGuard aead = .ok next) :
    next.afloat = state.afloat ∧ (state.middleLink ≠ [] -> next.weight < state.weight) := by
  unfold wrapAtGuard at ran
  split at ran
  · next idle =>
      cases ran
      exact ⟨rfl, fun busy => absurd idle busy⟩
  · next onLink =>
      split at ran
      · cases ran
      · cases ran
        constructor
        · simp [afloat, onLink]
        · intro _
          simp only [weight, onLink, List.length_cons, List.length_append, List.length_nil]
          omega

theorem receive_afloat {next : Backward Key} (ran : state.receive = .ok next) :
    next.afloat = state.afloat ∧ (state.guardLink ≠ [] -> next.weight < state.weight) := by
  unfold receive at ran
  split at ran
  · next idle =>
      cases ran
      exact ⟨rfl, fun busy => absurd idle busy⟩
  · next onLink =>
      split at ran
      · cases ran
      · cases ran
        constructor
        · rfl
        · intro _
          simp only [weight, onLink, List.length_cons]
          omega

theorem step_afloat {next : Backward Key} {event : BackwardEvent} (ran : state.step aead event = .ok next) :
    next.afloat.Perm (state.afloat ++ originatedBy event) := by
  cases event with
  | originate hop cell => exact originate_afloat ran
  | wrapAtMiddle => simpa [originatedBy] using (wrapAtMiddle_afloat ran).1.symm ▸ List.Perm.refl _
  | wrapAtGuard => simpa [originatedBy] using (wrapAtGuard_afloat ran).1.symm ▸ List.Perm.refl _
  | receive => simpa [originatedBy] using (receive_afloat ran).1.symm ▸ List.Perm.refl _

theorem run_aligns (aligns : Aligns aead state) (events : List BackwardEvent) :
    ∃ final, state.run aead events = .ok final ∧ Aligns aead final ∧
      final.afloat.Perm (state.afloat ++ events.flatMap originatedBy) := by
  induction events generalizing state with
  | nil => exact ⟨state, rfl, aligns, by simp⟩
  | cons event rest ih =>
      rcases step_aligns aligns event with ⟨next, stepped, kept⟩
      rcases ih kept with ⟨final, ran, settled, same⟩
      refine ⟨final, by simp only [run, stepped, ran], settled, same.trans ?_⟩
      rw [List.flatMap_cons, ← List.append_assoc]
      exact (step_afloat stepped).append_right _

/-- From any aligned state, passing frames on and peeling them empties every link
without originating anything. -/
theorem exists_drained (aligns : Aligns aead state) :
    ∃ (events : List BackwardEvent) (final : Backward Key), state.run aead events = .ok final ∧
      events.flatMap originatedBy = [] ∧ forall hop, final.link hop = [] := by
  induction size : state.weight using Nat.strongRecOn generalizing state with
  | ind size ih =>
      have advance (event : BackwardEvent) (silent : originatedBy event = [])
          (lighter : forall next, state.step aead event = .ok next -> next.weight < state.weight) :
          ∃ (events : List BackwardEvent) (final : Backward Key), state.run aead events = .ok final ∧
            events.flatMap originatedBy = [] ∧ forall hop, final.link hop = [] := by
        rcases step_aligns aligns event with ⟨next, stepped, kept⟩
        rcases ih _ (size ▸ lighter next stepped) kept rfl with ⟨events, final, ran, quiet, drained⟩
        refine ⟨event :: events, final, by simp only [run, stepped, ran], ?_, drained⟩
        rw [List.flatMap_cons, silent, quiet]
        rfl
      by_cases exitBusy : state.exitLink = []
      · by_cases middleBusy : state.middleLink = []
        · by_cases guardBusy : state.guardLink = []
          · refine ⟨[], state, rfl, rfl, ?_⟩
            rintro (_ | _ | _)
            · exact guardBusy
            · exact middleBusy
            · exact exitBusy
          · exact advance .receive rfl fun next ran => (receive_afloat ran).2 guardBusy
        · exact advance .wrapAtGuard rfl fun next ran => (wrapAtGuard_afloat ran).2 middleBusy
      · exact advance .wrapAtMiddle rfl fun next ran => (wrapAtMiddle_afloat ran).2 exitBusy

end Backward

/-! ## Both directions -/

/-- Onion layering is correct for mixed-depth traffic.  Away from the client no
peel ever fails, every hop has recovered an initial part of the cells addressed to
it, and delivering what is on the links recovers all of them.  Towards the client
no operation fails, the client has the cells of an initial part of what the guard
emitted, no cell is lost or made up, and letting the links run empty returns all
of them.  In both directions every frame on a link has that link's length. -/
theorem onion_layering {Key : Type} (aead : NoiseAead Key) :
    (forall (state : Forward Key) (events : List ForwardEvent), state.InStep ->
      ∃ final, state.run aead events = .ok final ∧
        (forall hop, final.recovered hop <+:
          state.recovered hop ++ events.flatMap (Forward.addressedTo hop)) ∧
        (forall hop, ∀ frame ∈ final.link hop, frame.length = linkCellLen hop.layers) ∧
        ∃ (hops : List Hop) (drained : Forward Key), final.run aead (hops.map .deliver) = .ok drained ∧
          forall hop, drained.link hop = [] ∧
            drained.recovered hop = state.recovered hop ++ events.flatMap (Forward.addressedTo hop)) ∧
    (forall (state : Backward Key) (events : List BackwardEvent), state.InStep ->
      ∃ final, state.run aead events = .ok final ∧
        final.returned <+: final.emitted ∧
        final.afloat.Perm (state.emitted ++ events.flatMap Backward.originatedBy) ∧
        (forall hop, ∀ tagged ∈ final.link hop, tagged.frame.length = linkCellLen hop.layers) ∧
        ∃ finishing drained, final.run aead finishing = .ok drained ∧
          drained.returned = drained.emitted ∧
          drained.emitted.Perm (state.emitted ++ events.flatMap Backward.originatedBy)) := by
  constructor
  · intro state events inStep
    have aligns : Forward.Aligns aead state state.recovered := ⟨_, _, _, Forward.aligned_of_inStep inStep⟩
    rcases Forward.run_aligns aligns events with ⟨final, ran, settled⟩
    refine ⟨final, ran, Forward.recovered_isPrefix settled, Forward.length_of_mem_link settled, ?_⟩
    rcases Forward.exists_drained settled with ⟨hops, drained, delivered, idle⟩
    rcases Forward.run_aligns settled (hops.map .deliver) with ⟨same, alsoDelivered, still⟩
    rw [delivered] at alsoDelivered
    cases alsoDelivered
    refine ⟨hops, drained, delivered, fun hop => ⟨idle hop, ?_⟩⟩
    rw [Forward.recovered_eq still idle hop]
    simp [Forward.addressedTo]
  · intro state events inStep
    have aligns : Backward.Aligns aead state := ⟨_, _, _, Backward.aligned_of_inStep inStep⟩
    have quiet : state.afloat = state.emitted := by
      simp [Backward.afloat, inStep.middleLink, inStep.exitLink]
    rcases Backward.run_aligns aligns events with ⟨final, ran, settled, kept⟩
    rw [quiet] at kept
    refine ⟨final, ran, Backward.returned_isPrefix settled, kept, Backward.length_of_mem_link settled, ?_⟩
    rcases Backward.exists_drained settled with ⟨finishing, drained, finished, silent, idle⟩
    rcases Backward.run_aligns settled finishing with ⟨same, alsoFinished, still, sameCells⟩
    rw [finished] at alsoFinished
    cases alsoFinished
    rw [silent, List.append_nil] at sameCells
    refine ⟨finishing, drained, finished, Backward.returned_eq still (idle .guard), ?_⟩
    have middleIdle : drained.middleLink = [] := idle .middle
    have exitIdle : drained.exitLink = [] := idle .exit
    have all : drained.afloat = drained.emitted := by
      simp [Backward.afloat, middleIdle, exitIdle]
    rw [← all]
    exact sameCells.trans kept

/-- Fresh sessions, and a cell for every hop. -/
def freshTransport : Transport Unit := ⟨(), [], 0⟩

def freshLayers : Layers Unit := ⟨freshTransport, freshTransport, freshTransport⟩

def dataCell (payload : Bytes) (size : payload.length ≤ cellPayloadLen) : FittingCell :=
  ⟨⟨.data, payload⟩, size⟩

theorem onion_layering_fresh :
    (∃ final, Forward.run (Aead.zeroTag noiseTagLen)
        ⟨freshLayers, freshTransport, freshTransport, freshTransport, [], [], [], [], [], []⟩
        [.send .exit (dataCell [1] (by decide)), .send .guard (dataCell [2] (by decide))] = .ok final ∧
      ∃ (hops : List Hop) (drained : Forward Unit),
        final.run (Aead.zeroTag noiseTagLen) (hops.map .deliver) = .ok drained ∧
        drained.exitCells = [⟨.data, [1]⟩] ∧ drained.guardCells = [⟨.data, [2]⟩]) ∧
    (∃ final, Backward.run (Aead.zeroTag noiseTagLen)
        ⟨freshLayers, freshTransport, freshTransport, freshTransport, [], [], [], [], []⟩
        [.originate .exit (dataCell [1] (by decide)), .originate .guard (dataCell [2] (by decide)),
          .wrapAtMiddle, .wrapAtGuard, .receive] = .ok final ∧
      final.returned <+: final.emitted) := by
  constructor
  · rcases (onion_layering (Aead.zeroTag noiseTagLen)).1
      ⟨freshLayers, freshTransport, freshTransport, freshTransport, [], [], [], [], [], []⟩
      [.send .exit (dataCell [1] (by decide)), .send .guard (dataCell [2] (by decide))]
      ⟨rfl, rfl, rfl, rfl, rfl, rfl⟩ with ⟨final, ran, -, -, hops, drained, delivered, recovered⟩
    exact ⟨final, ran, hops, drained, delivered, (recovered .exit).2, (recovered .guard).2⟩
  · rcases (onion_layering (Aead.zeroTag noiseTagLen)).2
      ⟨freshLayers, freshTransport, freshTransport, freshTransport, [], [], [], [], []⟩
      [.originate .exit (dataCell [1] (by decide)), .originate .guard (dataCell [2] (by decide)),
        .wrapAtMiddle, .wrapAtGuard, .receive]
      ⟨rfl, rfl, rfl, rfl, rfl, rfl, rfl⟩ with ⟨final, ran, returned, -⟩
    exact ⟨final, ran, returned⟩

end Circuit
end QuietHop
