import Mathlib.Data.List.Pairwise
import Mathlib.Order.Basic
import Mathlib.Logic.Relation

namespace QuietHop
namespace Lib

/-!
# A high-water mark

A holder accepts entries one after another and keeps the last one recorded as its
mark.  An entry may only be recorded when it is at or above the mark, in a
preorder that the holder chooses; recording and accepting are separate, so that a
holder interrupted between the two is covered.  Whatever happens, the accepted
entries never go down, and the mark is above all of them.
-/

/-- What is recorded, and what has been accepted so far, oldest first. -/
structure HighWater (Entry : Type) where
  mark : Option Entry
  accepted : List Entry

namespace HighWater

variable {Entry : Type} [Preorder Entry]

/-- An entry may be recorded over a mark at or below it. -/
def Admits (mark : Option Entry) (entry : Entry) : Prop :=
  ∀ held ∈ mark, held ≤ entry

/-- Nothing happens, or an admissible entry is recorded, or it is recorded and
accepted. -/
inductive Step : HighWater Entry -> HighWater Entry -> Prop
  | idle (state : HighWater Entry) : Step state state
  | record {state : HighWater Entry} {entry : Entry} (admits : Admits state.mark entry) :
      Step state { state with mark := some entry }
  | accept {state : HighWater Entry} {entry : Entry} (admits : Admits state.mark entry) :
      Step state ⟨some entry, state.accepted ++ [entry]⟩

/-- The mark is above everything accepted, and acceptance never went down. -/
structure Sound (state : HighWater Entry) : Prop where
  below : ∀ entry ∈ state.accepted, ∃ held ∈ state.mark, entry ≤ held
  ordered : state.accepted.Pairwise (· ≤ ·)

theorem sound_nil (mark : Option Entry) : Sound (⟨mark, []⟩ : HighWater Entry) :=
  ⟨by simp, List.Pairwise.nil⟩

private theorem below_of_admits {state : HighWater Entry} {entry : Entry} (sound : Sound state)
    (admits : Admits state.mark entry) : ∀ earlier ∈ state.accepted, earlier ≤ entry := by
  intro earlier member
  obtain ⟨held, isMark, below⟩ := sound.below earlier member
  exact below.trans (admits held isMark)

theorem Step.sound {state next : HighWater Entry} (step : Step state next) (sound : Sound state) :
    Sound next := by
  cases step with
  | idle => exact sound
  | @record entry admits =>
      refine ⟨?_, sound.ordered⟩
      intro earlier member
      exact ⟨entry, rfl, below_of_admits sound admits earlier member⟩
  | @accept entry admits =>
      have below := below_of_admits sound admits
      constructor
      · intro earlier member
        rcases List.mem_append.mp member with member | member
        · exact ⟨entry, rfl, below earlier member⟩
        · exact ⟨entry, rfl, (List.mem_singleton.mp member).le⟩
      · exact List.pairwise_append.mpr ⟨sound.ordered, List.pairwise_singleton _ _, by simpa using below⟩

/-- The mark after a step is at or above the mark before it. -/
theorem Step.mark_le {state next : HighWater Entry} (step : Step state next) {held : Entry}
    (marked : held ∈ state.mark) : ∃ later ∈ next.mark, held ≤ later := by
  cases step with
  | idle => exact ⟨held, marked, le_rfl⟩
  | @record entry admits => exact ⟨entry, rfl, admits held marked⟩
  | @accept entry admits => exact ⟨entry, rfl, admits held marked⟩

/-- Any number of steps. -/
abbrev Run : HighWater Entry -> HighWater Entry -> Prop := Relation.ReflTransGen Step

theorem Run.sound {state next : HighWater Entry} (run : Run state next) (sound : Sound state) : Sound next := by
  induction run with
  | refl => exact sound
  | tail _ step ih => exact step.sound ih

theorem Run.mark_le {state next : HighWater Entry} (run : Run state next) {held : Entry}
    (marked : held ∈ state.mark) : ∃ later ∈ next.mark, held ≤ later := by
  induction run with
  | refl => exact ⟨held, marked, le_rfl⟩
  | tail _ step ih =>
      obtain ⟨middle, isMark, below⟩ := ih
      obtain ⟨later, isLater, above⟩ := step.mark_le isMark
      exact ⟨later, isLater, below.trans above⟩

end HighWater
end Lib
end QuietHop
