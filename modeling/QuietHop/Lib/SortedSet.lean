import Mathlib.Data.List.Sort
import Mathlib.Data.Finset.Card

namespace QuietHop
namespace Lib

/-!
# Finite sets as strictly increasing lists

An ordered tree set is determined by the increasing list of its elements.  The
list is kept with the proof that it increases, so two such sets with the same
members are equal, whatever sequence of insertions produced them.
-/

section Insert

variable {Elem : Type} [LinearOrder Elem]

/-- Insert an element at its place, or nowhere when it is present. -/
def insertSorted (value : Elem) : List Elem -> List Elem
  | [] => [value]
  | head :: tail =>
      if value < head then value :: head :: tail
      else if value = head then head :: tail
      else head :: insertSorted value tail

theorem mem_insertSorted {value member : Elem} {values : List Elem} :
    member ∈ insertSorted value values ↔ member = value ∨ member ∈ values := by
  induction values with
  | nil => simp [insertSorted]
  | cons head tail ih =>
      simp only [insertSorted]
      split
      · simp
      · split
        · next same => simp [same]
        · simp only [List.mem_cons, ih]
          tauto

theorem pairwise_insertSorted {value : Elem} {values : List Elem} (sorted : values.Pairwise (· < ·)) :
    (insertSorted value values).Pairwise (· < ·) := by
  induction values with
  | nil => simp [insertSorted]
  | cons head tail ih =>
      obtain ⟨above, rest⟩ := List.pairwise_cons.mp sorted
      simp only [insertSorted]
      split
      · next before =>
          refine List.pairwise_cons.mpr ⟨?_, sorted⟩
          intro member inside
          rcases List.mem_cons.mp inside with rfl | inside
          · exact before
          · exact before.trans (above member inside)
      · split
        · exact sorted
        · next notBefore different =>
            refine List.pairwise_cons.mpr ⟨?_, ih rest⟩
            intro member inside
            rcases mem_insertSorted.mp inside with rfl | inside
            · exact lt_of_le_of_ne (not_lt.mp notBefore) (Ne.symm different)
            · exact above member inside

end Insert

/-- A finite set, kept as the increasing list of its elements. -/
structure SortedSet (Elem : Type) [LinearOrder Elem] where
  elems : List Elem
  increasing : elems.Pairwise (· < ·)

namespace SortedSet

variable {Elem : Type} [LinearOrder Elem]

def empty : SortedSet Elem := ⟨[], List.Pairwise.nil⟩

def insert (set : SortedSet Elem) (value : Elem) : SortedSet Elem :=
  ⟨insertSorted value set.elems, pairwise_insertSorted set.increasing⟩

instance : Membership Elem (SortedSet Elem) := ⟨fun set value => value ∈ set.elems⟩

def card (set : SortedSet Elem) : Nat := set.elems.length

@[simp] theorem not_mem_empty (value : Elem) : value ∉ (empty : SortedSet Elem) := List.not_mem_nil

@[simp] theorem mem_insert {set : SortedSet Elem} {value member : Elem} :
    member ∈ set.insert value ↔ member = value ∨ member ∈ set := mem_insertSorted

theorem nodup (set : SortedSet Elem) : set.elems.Nodup :=
  set.increasing.imp ne_of_lt

/-- Two sets with the same members are the same set. -/
theorem ext_mem {left right : SortedSet Elem} (same : forall value, value ∈ left ↔ value ∈ right) :
    left = right := by
  obtain ⟨leftElems, leftIncreasing⟩ := left
  obtain ⟨rightElems, rightIncreasing⟩ := right
  congr 1
  exact leftIncreasing.eq_of_mem_iff rightIncreasing same

theorem card_le_of_subset {left right : SortedSet Elem} (subset : forall value, value ∈ left -> value ∈ right) :
    left.card ≤ right.card :=
  (left.nodup.subperm subset).length_le

/-- Membership after a whole loop of conditional insertions. -/
theorem mem_foldl {Item : Type} (step : SortedSet Elem -> Item -> SortedSet Elem)
    (adds : Item -> Elem -> Prop)
    (one : forall set item value, value ∈ step set item ↔ adds item value ∨ value ∈ set)
    (items : List Item) (start : SortedSet Elem) (value : Elem) :
    value ∈ items.foldl step start ↔ (∃ item ∈ items, adds item value) ∨ value ∈ start := by
  induction items generalizing start with
  | nil => simp
  | cons item rest ih =>
      simp only [List.foldl_cons, ih, one, List.exists_mem_cons_iff]
      rw [or_left_comm, or_assoc]

end SortedSet
end Lib
end QuietHop
