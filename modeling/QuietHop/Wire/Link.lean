import QuietHop.Wire.Layer

namespace QuietHop
namespace Wire

open Lib

/-!
# One direction of one link

The messages a sender has sealed and the receiver has not peeled yet, in order,
as what they will peel to.  `Pending` says that the sender's log from the
receiver's counter on is exactly these messages.  Sealing appends one, peeling
the oldest frame removes it, and neither direction of a session reads the other
direction's log or counter.
-/

namespace Peeled

/-- The layer plaintext that peels to this. -/
def plain (layers : Nat) : Peeled -> Bytes
  | toMe cell => toMePlain cell layers
  | forward blob => forwardPlain blob

/-- What may be sealed on a link that carries `depth + 1` layers. -/
def Legal (depth : Nat) : Peeled -> Prop
  | toMe cell => cell.Fits
  | forward blob => 0 < depth ∧ blob.length = linkCellLen depth

theorem length_plain {depth : Nat} {item : Peeled} (legal : item.Legal depth) :
    (item.plain (depth + 1)).length + noiseTagLen = linkCellLen (depth + 1) := by
  cases item with
  | toMe cell => exact length_toMePlain legal depth
  | forward blob => exact length_forwardPlain legal.2

theorem unwrap_plain {depth : Nat} {item : Peeled} (legal : item.Legal depth) :
    unwrap (item.plain (depth + 1)) (depth + 1) = .ok item := by
  cases item with
  | toMe cell => exact unwrap_toMePlain legal (depth + 1)
  | forward blob =>
      rcases legal with ⟨inner, -⟩
      cases depth with
      | zero => exact absurd inner (Nat.lt_irrefl 0)
      | succ depth => exact unwrap_forwardPlain blob depth

def isForward : Peeled -> Bool
  | toMe _ => false
  | forward _ => true

/-- The blobs to pass on, in order. -/
def blobs : List Peeled -> List Bytes
  | [] => []
  | toMe _ :: rest => blobs rest
  | forward blob :: rest => blob :: blobs rest

/-- The cells that have arrived, in order. -/
def cells : List Peeled -> List Cell
  | [] => []
  | toMe cell :: rest => cell :: cells rest
  | forward _ :: rest => cells rest

theorem blobs_append (first second : List Peeled) : blobs (first ++ second) = blobs first ++ blobs second := by
  induction first with
  | nil => rfl
  | cons item rest ih =>
      cases item with
      | toMe cell => exact ih
      | forward blob => exact congrArg (blob :: ·) ih

theorem cells_append (first second : List Peeled) : cells (first ++ second) = cells first ++ cells second := by
  induction first with
  | nil => rfl
  | cons item rest ih =>
      cases item with
      | toMe cell => exact congrArg (cell :: ·) ih
      | forward blob => exact ih

end Peeled

/-- The frame that the next sealing of an item yields. -/
def frameOf {Key : Type} (aead : NoiseAead Key) (tx : Transport Key) (layers : Nat) (item : Peeled) : Bytes :=
  aead.encrypt tx.key tx.sent.length (item.plain layers)

theorem length_frameOf {Key : Type} (aead : NoiseAead Key) (tx : Transport Key) {depth : Nat} {item : Peeled}
    (legal : item.Legal depth) : (frameOf aead tx (depth + 1) item).length = linkCellLen (depth + 1) := by
  unfold frameOf
  rw [aead.length_encrypt]
  exact Peeled.length_plain legal

/-- The frames sealed and not yet peeled. -/
def inFlight (log : List Sealed) (counter : Nat) : List Bytes :=
  (log.drop counter).map Sealed.cipher

section Pending

variable {Key : Type} (aead : NoiseAead Key)

/-- From `counter` on, the sender's log holds exactly these messages. -/
structure Pending (depth : Nat) (key : Key) (log : List Sealed) (counter : Nat) (items : List Peeled) :
    Prop where
  reached : counter ≤ log.length
  sealedAs : log.drop counter = Channel.sealFrom aead key counter (items.map (Peeled.plain (depth + 1)))
  legal : ∀ item ∈ items, item.Legal depth

variable {aead}
variable {depth counter : Nat} {key : Key} {log : List Sealed} {items : List Peeled}

theorem Pending.nil (reached : counter = log.length) : Pending aead depth key log counter [] where
  reached := Nat.le_of_eq reached
  sealedAs := by
    rw [reached, List.drop_length]
    rfl
  legal := by simp

theorem Pending.length_log (pending : Pending aead depth key log counter items) :
    log.length = counter + items.length := by
  have size := congrArg List.length pending.sealedAs
  rw [List.length_drop, Channel.length_sealFrom, List.length_map] at size
  have reached := pending.reached
  omega

theorem Pending.push (pending : Pending aead depth key log counter items) {item : Peeled}
    (legal : item.Legal depth) :
    Pending aead depth key
      (log ++ [⟨item.plain (depth + 1), aead.encrypt key log.length (item.plain (depth + 1))⟩])
      counter (items ++ [item]) where
  reached := by
    have reached := pending.reached
    rw [List.length_append]
    omega
  sealedAs := by
    rw [List.drop_append_of_le_length pending.reached, pending.sealedAs, List.map_append,
      Channel.sealFrom_append, List.length_map, ← pending.length_log]
    rfl
  legal := by
    intro member inside
    rcases List.mem_append.mp inside with inside | inside
    · exact pending.legal member inside
    · rw [List.mem_singleton.mp inside]
      exact legal

theorem inFlight_push (reached : counter ≤ log.length) (message : Sealed) :
    inFlight (log ++ [message]) counter = inFlight log counter ++ [message.cipher] := by
  unfold inFlight
  rw [List.drop_append_of_le_length reached, List.map_append]
  rfl

theorem Pending.length_inFlight (pending : Pending aead depth key log counter items) :
    (inFlight log counter).length = items.length := by
  rw [inFlight, pending.sealedAs, List.length_map, Channel.length_sealFrom, List.length_map]

private theorem length_sealed_frame (list : List Peeled) (start : Nat)
    (legal : ∀ item ∈ list, item.Legal depth) :
    ∀ frame ∈ (Channel.sealFrom aead key start (list.map (Peeled.plain (depth + 1)))).map Sealed.cipher,
      frame.length = linkCellLen (depth + 1) := by
  induction list generalizing start with
  | nil => simp [Channel.sealFrom]
  | cons item rest ih =>
      intro frame member
      simp only [List.map_cons, Channel.sealFrom, List.mem_cons] at member
      rcases member with rfl | member
      · rw [aead.length_encrypt]
        exact Peeled.length_plain (legal item (List.mem_cons_self ..))
      · exact ih (start + 1) (fun other inside => legal other (List.mem_cons_of_mem _ inside)) frame member

/-- Every frame on the link has the link's length, whatever it carries. -/
theorem Pending.length_frame (pending : Pending aead depth key log counter items) :
    ∀ frame ∈ inFlight log counter, frame.length = linkCellLen (depth + 1) := by
  unfold inFlight
  rw [pending.sealedAs]
  exact length_sealed_frame items counter pending.legal

/-- The oldest item is the first of the log that has not been opened. -/
theorem Pending.getElem?_log {item : Peeled} (pending : Pending aead depth key log counter (item :: items)) :
    log[counter]? = some ⟨item.plain (depth + 1), aead.encrypt key counter (item.plain (depth + 1))⟩ := by
  have here := congrArg (·[0]?) pending.sealedAs
  simpa only [List.map_cons, Channel.sealFrom, List.getElem?_drop, Nat.add_zero, List.getElem?_cons_zero] using here

/-- The oldest frame peels to the oldest item, and the rest stays pending. -/
theorem Pending.peel {item : Peeled} {rx : Transport Key}
    (pending : Pending aead depth key log rx.received (item :: items)) :
    ∃ frame, inFlight log rx.received = frame :: inFlight log (rx.received + 1) ∧
      Wire.peel log rx frame (depth + 1) = (.ok item, { rx with received := rx.received + 1 }) ∧
      Pending aead depth key log (rx.received + 1) items := by
  have legal := pending.legal item (List.mem_cons_self ..)
  have size := pending.length_log
  have sealedAs := pending.sealedAs
  simp only [List.map_cons, Channel.sealFrom] at sealedAs
  have rest := congrArg List.tail sealedAs
  rw [List.tail_drop, List.tail_cons] at rest
  have here := pending.getElem?_log
  have wireSize : (aead.encrypt key rx.received (item.plain (depth + 1))).length = linkCellLen (depth + 1) := by
    rw [aead.length_encrypt]
    exact Peeled.length_plain legal
  refine ⟨aead.encrypt key rx.received (item.plain (depth + 1)), ?_, ?_, ?_⟩
  · unfold inFlight
    rw [sealedAs, rest]
    rfl
  · rw [peel_of_sealed rx here wireSize (Peeled.length_plain legal), Peeled.unwrap_plain legal]
  · constructor
    · rw [size, List.length_cons]
      omega
    · exact rest
    · exact fun other inside => pending.legal other (List.mem_cons_of_mem _ inside)

/-- A frame at the front of the link is the oldest pending one. -/
theorem Pending.peel_front {rx : Transport Key} {frame : Bytes} {rest : List Bytes}
    (pending : Pending aead depth key log rx.received items)
    (front : inFlight log rx.received = frame :: rest) :
    ∃ item later, items = item :: later ∧
      Wire.peel log rx frame (depth + 1) = (.ok item, { rx with received := rx.received + 1 }) ∧
      inFlight log (rx.received + 1) = rest ∧ Pending aead depth key log (rx.received + 1) later := by
  cases items with
  | nil =>
      have empty := pending.length_inFlight
      rw [front] at empty
      cases empty
  | cons item later =>
      rcases pending.peel with ⟨found, same, peeled, onward⟩
      rw [front] at same
      cases same
      exact ⟨item, later, rfl, peeled, rfl, onward⟩

end Pending
end Wire
end QuietHop
