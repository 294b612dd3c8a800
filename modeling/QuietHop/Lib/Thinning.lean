import Mathlib.Order.Basic

namespace QuietHop
namespace Lib

/-!
# Leaving blocks out of a stream

A stream of blocks of one size, of which some are left out.  A place in the whole stream is a
number of blocks and a part of the block that comes next.  The place that belongs to it in
the thinner stream has the blocks that are kept among those, and the same part of the next
one if that is kept too.  While the next block is kept, readers at the two places find the
same amount of it.
-/

namespace Thinning

variable {Item : Type} (keep : Item -> Bool) (size : Nat)

/-- How many of the first blocks are kept. -/
def keptBefore (items : List Item) (count : Nat) : Nat :=
  ((items.take count).filter keep).length

/-- Whether the block that follows this many others is kept. -/
def keptAt (items : List Item) (count : Nat) : Bool :=
  items[count]?.any keep

/-- How much of the first `reached` units lies in blocks that are kept. -/
def squeeze : List Item -> Nat -> Nat
  | [], _ => 0
  | item :: rest, reached => (if keep item then min reached size else 0) + squeeze rest (reached - size)

variable {keep size} {items : List Item}

theorem keptAt_cons_succ (item : Item) (rest : List Item) (count : Nat) :
    keptAt keep (item :: rest) (count + 1) = keptAt keep rest count := by
  rw [keptAt, keptAt, List.getElem?_cons_succ]

theorem keptBefore_cons_succ (item : Item) (rest : List Item) (count : Nat) :
    keptBefore keep (item :: rest) (count + 1) = (if keep item then 1 else 0) + keptBefore keep rest count := by
  cases passes : keep item with
  | true => simp [keptBefore, passes, Nat.add_comm]
  | false => simp [keptBefore, passes]

theorem lt_of_keptAt {count : Nat} (kept : keptAt keep items count = true) : count < items.length := by
  by_contra beyond
  simp [keptAt, List.getElem?_eq_none (Nat.le_of_not_lt beyond)] at kept

theorem keptBefore_succ_of_kept {count : Nat} (kept : keptAt keep items count = true) :
    keptBefore keep items (count + 1) = keptBefore keep items count + 1 := by
  cases found : items[count]? with
  | none => simp [keptAt, found] at kept
  | some item =>
      have passes : keep item = true := by simpa [keptAt, found] using kept
      simp [keptBefore, List.take_add_one, found, passes]

theorem keptBefore_succ_of_skipped {count : Nat} (skipped : keptAt keep items count = false) :
    keptBefore keep items (count + 1) = keptBefore keep items count := by
  cases found : items[count]? with
  | none => simp [keptBefore, List.take_add_one, found]
  | some item =>
      have fails : keep item = false := by simpa [keptAt, found] using skipped
      simp [keptBefore, List.take_add_one, found, fails]

/-- The block at a kept place is found among the kept ones at the place that belongs to it. -/
theorem getElem?_filter_keptBefore {count : Nat} {item : Item} (here : items[count]? = some item)
    (kept : keep item = true) : (items.filter keep)[keptBefore keep items count]? = some item := by
  induction items generalizing count with
  | nil => simp at here
  | cons first rest ih =>
      cases count with
      | zero =>
          have same : first = item := by simpa using here
          simp [keptBefore, same, kept]
      | succ count =>
          have later := ih (by simpa using here)
          rw [keptBefore_cons_succ]
          cases passes : keep first with
          | true =>
              rw [List.filter_cons_of_pos passes, if_pos rfl, Nat.add_comm, List.getElem?_cons_succ]
              exact later
          | false => simpa [passes] using later

theorem squeeze_zero : squeeze keep size items 0 = 0 := by
  induction items with
  | nil => rfl
  | cons item rest ih => simp [squeeze, ih]

/-- What is left before a place. -/
theorem squeeze_at {count part : Nat} (within : count ≤ items.length) (small : part ≤ size) :
    squeeze keep size items (size * count + part) =
      size * keptBefore keep items count + if keptAt keep items count then part else 0 := by
  induction items generalizing count with
  | nil =>
      have none : count = 0 := by simpa using within
      simp [none, squeeze, keptBefore, keptAt]
  | cons item rest ih =>
      cases count with
      | zero =>
          have past : part - size = 0 := by omega
          simp [squeeze, keptBefore, keptAt, past, squeeze_zero, Nat.min_eq_left small]
      | succ count =>
          have whole : min (size * (count + 1) + part) size = size := by
            rw [Nat.mul_succ]
            omega
          have past : size * (count + 1) + part - size = size * count + part := by
            rw [Nat.mul_succ]
            omega
          have later := @ih count (by simpa using within)
          rw [squeeze, whole, past, later, keptAt_cons_succ, keptBefore_cons_succ, Nat.mul_add]
          cases keep item with
          | true =>
              simp only [if_true, Nat.mul_one]
              omega
          | false => simp

theorem squeeze_mono {less more : Nat} (le : less ≤ more) : squeeze keep size items less ≤ squeeze keep size items more := by
  induction items generalizing less more with
  | nil => exact Nat.le_refl _
  | cons item rest ih =>
      have later := @ih (less - size) (more - size) (by omega)
      cases passes : keep item with
      | true =>
          simp only [squeeze, passes, if_true]
          omega
      | false => simpa [squeeze, passes] using later

theorem squeeze_append {reached : Nat} (within : reached ≤ size * items.length) (more : List Item) :
    squeeze keep size (items ++ more) reached = squeeze keep size items reached := by
  induction items generalizing reached with
  | nil =>
      have none : reached = 0 := by simpa using within
      rw [none, List.nil_append, squeeze_zero]
      rfl
  | cons item rest ih =>
      have later := @ih (reached - size) (by rw [List.length_cons, Nat.mul_succ] at within; omega)
      rw [List.cons_append, squeeze, squeeze, later]

/-! ## Readers -/

/-- A number of blocks and a part of the next one. -/
structure Place where
  blocks : Nat
  part : Nat

variable (size) in
/-- All that lies before a place. -/
def Place.reached (place : Place) : Nat :=
  size * place.blocks + place.part

variable (keep size items) in
/-- A place in the whole stream, and the one that belongs to it in the thinner stream. -/
structure Placed (whole thin : Place) : Prop where
  within : whole.reached size ≤ size * items.length
  unfilled : whole.part < size
  blocks : thin.blocks = keptBefore keep items whole.blocks
  part : thin.part = if keptAt keep items whole.blocks then whole.part else 0

namespace Placed

variable {whole thin : Place} (placed : Placed keep size items whole thin)
include placed

theorem blocks_le : whole.blocks ≤ items.length := by
  have within := placed.within
  have positive : 0 < size := Nat.lt_of_le_of_lt (Nat.zero_le _) placed.unfilled
  refine Nat.le_of_mul_le_mul_left ?_ positive
  exact Nat.le_trans (Nat.le_add_right _ _) within

theorem reached_eq : thin.reached size = squeeze keep size items (whole.reached size) := by
  rw [Place.reached, Place.reached, squeeze_at placed.blocks_le (Nat.le_of_lt placed.unfilled), placed.blocks,
    placed.part]

/-- While the next block is kept, as much of it is found in both streams. -/
theorem same_read (kept : keptAt keep items whole.blocks = true) {out : Nat} (before : whole.reached size ≤ out) :
    thin.part = whole.part ∧
      min (size - thin.part) (squeeze keep size items out - thin.reached size) =
        min (size - whole.part) (out - whole.reached size) := by
  have part : thin.part = whole.part := by rw [placed.part, if_pos kept]
  refine ⟨part, ?_⟩
  have small := placed.unfilled
  rw [part, placed.reached_eq]
  have here := @squeeze_at Item keep size items whole.blocks whole.part placed.blocks_le (Nat.le_of_lt small)
  rw [if_pos kept] at here
  simp only [Place.reached] at before ⊢
  by_cases there : size * whole.blocks + size ≤ out
  · -- The whole block has been written.
    have full := @squeeze_at Item keep size items whole.blocks size placed.blocks_le (Nat.le_refl _)
    rw [if_pos kept] at full
    have more := @squeeze_mono Item keep size items _ _ there
    omega
  · have some := @squeeze_at Item keep size items whole.blocks (out - size * whole.blocks) placed.blocks_le (by omega)
    rw [if_pos kept, show size * whole.blocks + (out - size * whole.blocks) = out by omega] at some
    omega

theorem advance (kept : keptAt keep items whole.blocks = true) {count : Nat} (short : whole.part + count < size) :
    Placed keep size items ⟨whole.blocks, whole.part + count⟩ ⟨thin.blocks, thin.part + count⟩ where
  within := by
    have room : size * (whole.blocks + 1) ≤ size * items.length := Nat.mul_le_mul_left _ (lt_of_keptAt kept)
    rw [Nat.mul_succ] at room
    simp only [Place.reached]
    omega
  unfilled := short
  blocks := placed.blocks
  part := by
    rw [if_pos kept, placed.part, if_pos kept]

theorem complete (kept : keptAt keep items whole.blocks = true) :
    Placed keep size items ⟨whole.blocks + 1, 0⟩ ⟨thin.blocks + 1, 0⟩ where
  within := Nat.mul_le_mul_left _ (lt_of_keptAt kept)
  unfilled := Nat.lt_of_le_of_lt (Nat.zero_le _) placed.unfilled
  blocks := by rw [keptBefore_succ_of_kept kept, placed.blocks]
  part := by simp

/-- Reading a part of a block that is left out. -/
theorem skip (skipped : keptAt keep items whole.blocks = false) (present : whole.blocks < items.length) {count : Nat}
    (short : whole.part + count < size) : Placed keep size items ⟨whole.blocks, whole.part + count⟩ thin where
  within := by
    have room : size * (whole.blocks + 1) ≤ size * items.length := Nat.mul_le_mul_left _ present
    rw [Nat.mul_succ] at room
    simp only [Place.reached]
    omega
  unfilled := short
  blocks := placed.blocks
  part := by
    rw [placed.part, skipped]
    rfl

theorem skipAll (skipped : keptAt keep items whole.blocks = false) (present : whole.blocks < items.length) :
    Placed keep size items ⟨whole.blocks + 1, 0⟩ thin where
  within := Nat.mul_le_mul_left _ present
  unfilled := Nat.lt_of_le_of_lt (Nat.zero_le _) placed.unfilled
  blocks := by rw [keptBefore_succ_of_skipped skipped, placed.blocks]
  part := by
    rw [placed.part, skipped]
    simp

theorem grow (more : List Item) : Placed keep size (items ++ more) whole thin where
  within := by
    have within := placed.within
    have longer : size * items.length ≤ size * (items ++ more).length :=
      Nat.mul_le_mul_left _ (by rw [List.length_append]; omega)
    omega
  unfilled := placed.unfilled
  blocks := by
    rw [placed.blocks, keptBefore, keptBefore, List.take_append_of_le_length placed.blocks_le]
  part := by
    rcases Nat.lt_or_eq_of_le placed.blocks_le with inside | atEnd
    · rw [placed.part, keptAt, keptAt, List.getElem?_append_left inside]
    · -- At the end of the stream nothing of the next block has been read.
      have within := placed.within
      rw [Place.reached, atEnd] at within
      have nothing : whole.part = 0 := by omega
      rw [placed.part, nothing]
      simp

end Placed

/-! ## Writers -/

variable (keep size items) in
/-- What has been written to a stream and to its thinner counterpart, beyond what was there at
the beginning. -/
def Squeezed (origin whole thin : Nat) : Prop :=
  ∃ reached, reached ≤ size * items.length ∧ whole = origin + reached ∧
    thin = origin + squeeze keep size items reached

namespace Squeezed

variable {origin whole thin count : Nat}

theorem start (origin : Nat) : Squeezed keep size items origin origin origin :=
  ⟨0, Nat.zero_le _, rfl, by rw [squeeze_zero]; rfl⟩

theorem grow (squeezed : Squeezed keep size items origin whole thin) (more : List Item) :
    Squeezed keep size (items ++ more) origin whole thin := by
  rcases squeezed with ⟨reached, within, atWhole, atThin⟩
  have longer : size * items.length ≤ size * (items ++ more).length :=
    Nat.mul_le_mul_left _ (by rw [List.length_append]; omega)
  exact ⟨reached, Nat.le_trans within longer, atWhole, by rw [squeeze_append within, atThin]⟩

/-- Writing a part of a block that is kept. -/
theorem write (squeezed : Squeezed keep size items origin whole thin) (aligned : whole = origin + size * count)
    (kept : keptAt keep items count = true) {part : Nat} (small : part ≤ size) :
    Squeezed keep size items origin (whole + part) (thin + part) := by
  rcases squeezed with ⟨reached, within, atWhole, atThin⟩
  have present := lt_of_keptAt kept
  have same : reached = size * count := by omega
  have room : size * (count + 1) ≤ size * items.length := Nat.mul_le_mul_left _ present
  rw [Nat.mul_succ] at room
  refine ⟨reached + part, by omega, by omega, ?_⟩
  have before := @squeeze_at Item keep size items count 0 (Nat.le_of_lt present) (Nat.zero_le _)
  have after := @squeeze_at Item keep size items count part (Nat.le_of_lt present) small
  rw [if_pos kept] at before after
  rw [Nat.add_zero] at before
  rw [atThin, same, after, before]
  omega

/-- Writing a block that is left out. -/
theorem skip (squeezed : Squeezed keep size items origin whole thin) (aligned : whole = origin + size * count)
    (skipped : keptAt keep items count = false) (present : count < items.length) :
    Squeezed keep size items origin (whole + size) thin := by
  rcases squeezed with ⟨reached, within, atWhole, atThin⟩
  have same : reached = size * count := by omega
  have room : size * (count + 1) ≤ size * items.length := Nat.mul_le_mul_left _ present
  rw [Nat.mul_succ] at room
  refine ⟨reached + size, by omega, by omega, ?_⟩
  have before := @squeeze_at Item keep size items count 0 (Nat.le_of_lt present) (Nat.zero_le _)
  have after := @squeeze_at Item keep size items count size (Nat.le_of_lt present) (Nat.le_refl _)
  rw [skipped] at before after
  rw [Nat.add_zero] at before
  rw [atThin, same, after, before]
  rfl

end Squeezed
end Thinning
end Lib
end QuietHop
