import Mathlib.Data.List.Infix

namespace QuietHop
namespace Lib
namespace Stream

/-!
# Cutting a stream into pieces and joining them again

A sender cuts what it reads into chunks of bounded size.  A receiver joins whatever
arrives.  In between the stream travels as frames of one length, and the pieces in
which it arrives have nothing to do with the frames.

`Feeds source arrived frames` compares the two sides of a link.  What has arrived is an
initial part of the frames sent, and it is all of them for as long as the source
delivers everything it sends.
-/

variable {α : Type}

/-! ## Chunks -/

def chunksWithin (size : Nat) : Nat -> List α -> List (List α)
  | 0, _ => []
  | _ + 1, [] => []
  | fuel + 1, first :: rest =>
      (first :: rest).take size :: chunksWithin size fuel ((first :: rest).drop size)

/-- Pieces of `size` items, the last one shorter if it must be. -/
def chunks (size : Nat) (items : List α) : List (List α) :=
  chunksWithin size items.length items

private theorem flatten_chunksWithin {size : Nat} (positive : 0 < size) :
    forall (fuel : Nat) (items : List α), items.length ≤ fuel -> (chunksWithin size fuel items).flatten = items
  | 0, items, short => by
      rw [List.eq_nil_of_length_eq_zero (Nat.le_zero.mp short)]
      rfl
  | fuel + 1, [], _ => rfl
  | fuel + 1, first :: rest, short => by
      have shorter : ((first :: rest).drop size).length ≤ fuel := by
        rw [List.length_drop]
        omega
      rw [chunksWithin, List.flatten_cons, flatten_chunksWithin positive fuel _ shorter, List.take_append_drop]

theorem flatten_chunks {size : Nat} (positive : 0 < size) (items : List α) :
    (chunks size items).flatten = items :=
  flatten_chunksWithin positive items.length items (Nat.le_refl _)

private theorem length_le_of_mem_chunksWithin {size : Nat} {chunk : List α} :
    forall (fuel : Nat) (items : List α), chunk ∈ chunksWithin size fuel items -> chunk.length ≤ size
  | 0, _, member => by cases member
  | _ + 1, [], member => by cases member
  | fuel + 1, first :: rest, member => by
      rw [chunksWithin, List.mem_cons] at member
      rcases member with rfl | member
      · exact List.length_take_le size (first :: rest)
      · exact length_le_of_mem_chunksWithin fuel _ member

theorem length_le_of_mem_chunks {size : Nat} {items chunk : List α} (member : chunk ∈ chunks size items) :
    chunk.length ≤ size :=
  length_le_of_mem_chunksWithin items.length items member

private theorem ne_nil_of_mem_chunksWithin {size : Nat} (positive : 0 < size) {chunk : List α} :
    forall (fuel : Nat) (items : List α), chunk ∈ chunksWithin size fuel items -> chunk ≠ []
  | 0, _, member => by cases member
  | _ + 1, [], member => by cases member
  | fuel + 1, first :: rest, member => by
      rw [chunksWithin, List.mem_cons] at member
      rcases member with rfl | member
      · obtain ⟨less, rfl⟩ := Nat.exists_eq_succ_of_ne_zero (Nat.ne_of_gt positive)
        exact List.cons_ne_nil _ _
      · exact ne_nil_of_mem_chunksWithin positive fuel _ member

theorem ne_nil_of_mem_chunks {size : Nat} (positive : 0 < size) {items chunk : List α}
    (member : chunk ∈ chunks size items) : chunk ≠ [] :=
  ne_nil_of_mem_chunksWithin positive items.length items member

/-! ## Blocks -/

/-- The first blocks of one size, one after the other. -/
def blocks (size : Nat) (items : List α) (count : Nat) : List (List α) :=
  (List.range count).map fun index => (items.drop (index * size)).take size

theorem length_flatten_of_size {size : Nat} {frames : List (List α)} (sizes : ∀ frame ∈ frames, frame.length = size) :
    frames.flatten.length = frames.length * size := by
  induction frames with
  | nil => simp
  | cons frame rest ih =>
      obtain ⟨here, others⟩ := List.forall_mem_cons.mp sizes
      rw [List.flatten_cons, List.length_append, here, ih others, List.length_cons, Nat.add_mul]
      omega

/-- Pieces of one size that make up an initial part are its blocks. -/
theorem eq_blocks {size : Nat} {frames : List (List α)} {rest : List α}
    (sizes : ∀ frame ∈ frames, frame.length = size) :
    frames = blocks size (frames.flatten ++ rest) frames.length := by
  induction frames with
  | nil => rfl
  | cons frame later ih =>
      obtain ⟨here, others⟩ := List.forall_mem_cons.mp sizes
      rw [List.length_cons, blocks, List.range_succ_eq_map, List.map_cons, List.map_map, List.flatten_cons,
        List.append_assoc, Nat.zero_mul, List.drop_zero, List.take_left' here]
      congr 1
      have shift (index : Nat) : (frame ++ (later.flatten ++ rest)).drop ((index + 1) * size) =
          (later.flatten ++ rest).drop (index * size) := by
        rw [Nat.add_mul, Nat.one_mul, Nat.add_comm, ← List.drop_drop, List.drop_left' here]
      nth_rewrite 1 [ih others]
      rw [blocks]
      apply List.map_congr_left
      intro index _
      simp only [Function.comp_apply, Nat.succ_eq_add_one, shift]

/-! ## Links -/

structure Feeds (source : Prop) (arrived : List α) (frames : List (List α)) : Prop where
  within : arrived <+: frames.flatten
  whole : source -> arrived = frames.flatten

namespace Feeds

variable {source : Prop} {arrived : List α} {frames : List (List α)} {frame : List α}

theorem of_eq (same : arrived = frames.flatten) : Feeds source arrived frames :=
  ⟨same ▸ List.prefix_refl _, fun _ => same⟩

theorem weaken {other : Prop} (feeds : Feeds source arrived frames) (implies : other -> source) :
    Feeds other arrived frames :=
  ⟨feeds.within, fun holds => feeds.whole (implies holds)⟩

/-- Losing the end of what has arrived is harmless once the source is not counted on. -/
theorem drop_end {first rest : List α} (feeds : Feeds source (first ++ rest) frames) : Feeds False first frames :=
  ⟨(List.prefix_append first rest).trans feeds.within, False.elim⟩

theorem push (feeds : Feeds source arrived frames) (holds : source) (frame : List α) :
    Feeds source (arrived ++ frame) (frames ++ [frame]) := by
  apply of_eq
  rw [feeds.whole holds, List.flatten_append, List.flatten_singleton]

/-- The last frame sent is only partly on the link. -/
theorem cut {piece : List α} (feeds : Feeds source arrived frames) (holds : source) (part : piece <+: frame) :
    Feeds False (arrived ++ piece) (frames ++ [frame]) := by
  constructor
  · rw [feeds.whole holds, List.flatten_append, List.flatten_singleton]
    exact (List.prefix_append_right_inj _).mpr part
  · exact False.elim

/-- Frames that are never put on the link leave what has arrived an initial part. -/
theorem unsent (feeds : Feeds source arrived frames) (more : List (List α)) : Feeds False arrived (frames ++ more) := by
  constructor
  · rw [List.flatten_append]
    exact feeds.within.trans (List.prefix_append _ _)
  · exact False.elim

/-- As much as a frame at the front of what has arrived is the first frame sent. -/
theorem front {size : Nat} {first rest : List α} (feeds : Feeds source (first ++ rest) frames)
    (sizes : ∀ frame ∈ frames, frame.length = size) (positive : 0 < size) (full : first.length = size) :
    ∃ later, frames = first :: later ∧ Feeds source rest later := by
  cases frames with
  | nil =>
      have empty := List.prefix_nil.mp feeds.within
      rw [(List.append_eq_nil_iff.mp empty).1] at full
      exact absurd full (Nat.ne_of_lt positive)
  | cons frame later =>
      have same : first = frame := by
        have begins : first <+: frame ++ later.flatten := (List.prefix_append first rest).trans feeds.within
        have equal := full.trans (sizes frame (List.mem_cons_self ..)).symm
        exact (List.prefix_of_prefix_length_le begins (List.prefix_append _ _) (Nat.le_of_eq equal)).eq_of_length equal
      subst same
      refine ⟨later, rfl, ?_, ?_⟩
      · exact (List.prefix_append_right_inj first).mp feeds.within
      · exact fun holds => List.append_cancel_left (feeds.whole holds)

end Feeds
end Stream
end Lib
end QuietHop
