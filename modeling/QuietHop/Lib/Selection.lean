import Mathlib.Data.List.Sort
import Mathlib.Data.Finset.Card

namespace QuietHop
namespace Lib

/-!
# Drawing one item of a list by counting first

A first pass counts the items that satisfy a test, an index below the count is
drawn, and a second pass walks to the item with that index.  Three nested loops
make the same passes as one loop over the list of triples.  The two passes agree
by construction, so the second one never runs off the end, and the item found is
the one at the drawn position among those that satisfy the test.
-/

namespace Selection

section Triples

variable {First Second Third State : Type}

/-- The triples that three nested loops visit, in their order. -/
def triples (first : List First) (second : List Second) (third : List Third) : List (First × Second × Third) :=
  first.flatMap fun a => second.flatMap fun b => third.map fun c => (a, b, c)

@[simp] theorem mem_triples {first : List First} {second : List Second} {third : List Third} {a : First}
    {b : Second} {c : Third} : (a, b, c) ∈ triples first second third ↔ a ∈ first ∧ b ∈ second ∧ c ∈ third := by
  simp [triples]

/-- The triples as a product of lists. -/
theorem triples_eq_product (first : List First) (second : List Second) (third : List Third) :
    triples first second third = first ×ˢ (second ×ˢ third) := by
  simp only [triples, SProd.sprod, List.product, List.map_flatMap, List.map_map]
  rfl

theorem nodup_triples {first : List First} {second : List Second} {third : List Third} (distinct : first.Nodup)
    (distinct2 : second.Nodup) (distinct3 : third.Nodup) : (triples first second third).Nodup := by
  rw [triples_eq_product]
  exact distinct.product (distinct2.product distinct3)

theorem triples_map {First2 Second2 Third2 : Type} (f : First -> First2) (g : Second -> Second2) (h : Third -> Third2)
    (first : List First) (second : List Second) (third : List Third) :
    triples (first.map f) (second.map g) (third.map h) =
      (triples first second third).map (Prod.map f (Prod.map g h)) := by
  simp only [triples, List.flatMap_map, List.map_flatMap, List.map_map]
  rfl

theorem foldl_triples (body : State -> First × Second × Third -> State) (start : State) (first : List First)
    (second : List Second) (third : List Third) :
    first.foldl (fun state a => second.foldl (fun state b => third.foldl (fun state c =>
      body state (a, b, c)) state) state) start = (triples first second third).foldl body start := by
  simp only [triples, List.foldl_flatMap, List.foldl_map]

theorem foldlM_flatMap {Found Item Part : Type} (body : State -> Part -> Except Found State)
    (parts : Item -> List Part) (items : List Item) (start : State) :
    (items.flatMap parts).foldlM body start =
      items.foldlM (fun state item => (parts item).foldlM body state) start := by
  induction items generalizing start with
  | nil => rfl
  | cons item items ih => simp only [List.flatMap_cons, List.foldlM_append, List.foldlM_cons, ih]

/-- The same for loops that may return early, with the value returned as the
error. -/
theorem foldlM_triples {Found : Type} (body : State -> First × Second × Third -> Except Found State)
    (start : State) (first : List First) (second : List Second) (third : List Third) :
    first.foldlM (fun state a => second.foldlM (fun state b => third.foldlM (fun state c =>
      body state (a, b, c)) state) state) start = (triples first second third).foldlM body start := by
  simp only [triples, foldlM_flatMap, List.foldlM_map]

end Triples

section Walk

variable {Item : Type} (valid : Item -> Bool)

/-- The body of the counting pass. -/
def tally (count : Nat) (item : Item) : Nat :=
  if valid item then count + 1 else count

/-- The body of the walk: skip, stop at the wanted index, or count on. -/
def visit (wanted seen : Nat) (item : Item) : Except Item Nat :=
  if !valid item then .ok seen
  else if seen = wanted then .error item
  else .ok (seen + 1)

theorem foldl_tally (items : List Item) (start : Nat) :
    items.foldl (tally valid) start = start + (items.filter valid).length := by
  induction items generalizing start with
  | nil => rfl
  | cons item items ih =>
      rw [List.foldl_cons, ih, tally]
      cases passes : valid item
      · simp [passes]
      · simp [passes]
        omega

/-- The walk stops at the wanted one of the items that satisfy the test, or counts
them all. -/
theorem foldlM_visit (items : List Item) (wanted seen : Nat) (below : seen ≤ wanted) :
    items.foldlM (visit valid wanted) seen =
      match (items.filter valid)[wanted - seen]? with
      | some item => .error item
      | none => .ok (seen + (items.filter valid).length) := by
  induction items generalizing seen with
  | nil => rfl
  | cons item items ih =>
      rw [List.foldlM_cons, visit]
      cases passes : valid item with
      | false =>
          rw [List.filter_cons_of_neg (by simp [passes])]
          exact ih seen below
      | true =>
          rw [List.filter_cons_of_pos passes]
          by_cases here : seen = wanted
          · simp [here]
            rfl
          · have next : wanted - seen = wanted - (seen + 1) + 1 := by omega
            simp only [Bool.not_true, Bool.false_eq_true, if_false, if_neg here]
            rw [next, List.getElem?_cons_succ, List.length_cons,
              show seen + ((items.filter valid).length + 1) = seen + 1 + (items.filter valid).length by omega]
            exact ih (seen + 1) (by omega)

/-- An index below the count is always found, at its position among the items that
satisfy the test. -/
theorem foldlM_visit_of_lt (items : List Item) (wanted : Nat) (inRange : wanted < items.foldl (tally valid) 0) :
    ∃ item ∈ items, valid item = true ∧ items.foldlM (visit valid wanted) 0 = .error item := by
  rw [foldl_tally, Nat.zero_add] at inRange
  have member := List.getElem_mem inRange
  refine ⟨(items.filter valid)[wanted], (List.mem_filter.mp member).1, (List.mem_filter.mp member).2, ?_⟩
  rw [foldlM_visit valid items wanted 0 (Nat.zero_le _), Nat.sub_zero, List.getElem?_eq_getElem inRange]

/-- Counting the images of some items counts the items whose image passes. -/
theorem foldl_tally_map {Place : Type} (item : Place -> Item) (places : List Place) (start : Nat) :
    (places.map item).foldl (tally valid) start = places.foldl (tally fun place => valid (item place)) start := by
  rw [List.foldl_map]
  rfl

/-- Walking over the images stops at the image of where the walk over the items stops. -/
theorem foldlM_visit_map {Place : Type} (item : Place -> Item) (places : List Place) (wanted seen : Nat) :
    (places.map item).foldlM (visit valid wanted) seen =
      (places.foldlM (visit (fun place => valid (item place)) wanted) seen).mapError item := by
  induction places generalizing seen with
  | nil => rfl
  | cons place places ih =>
      rw [List.map_cons, List.foldlM_cons, List.foldlM_cons, visit, visit]
      split_ifs
      · exact ih seen
      · rfl
      · exact ih (seen + 1)

/-- Over a list of all items without repetitions the walk takes every index below the count to
an item of its own that passes, and none that passes is left out. -/
theorem foldlM_visit_bijective {items : List Item} (distinct : items.Nodup) (complete : forall item, item ∈ items)
    {total : Nat} (counted : total = items.foldl (tally valid) 0) :
    ∃ place : Fin total -> { item // valid item = true }, Function.Bijective place ∧
      forall wanted, items.foldlM (visit valid wanted.val) 0 = .error (place wanted).val := by
  rw [foldl_tally, Nat.zero_add] at counted
  subst counted
  refine ⟨fun wanted => ⟨(items.filter valid).get wanted, (List.mem_filter.mp (List.get_mem _ wanted)).2⟩, ⟨?_, ?_⟩, ?_⟩
  · intro first second same
    exact (distinct.filter valid).get_inj_iff.mp (Subtype.ext_iff.mp same)
  · rintro ⟨item, passes⟩
    rcases List.get_of_mem (List.mem_filter.mpr ⟨complete item, passes⟩) with ⟨index, found⟩
    exact ⟨index, Subtype.ext found⟩
  · intro wanted
    rw [foldlM_visit valid items wanted 0 (Nat.zero_le _), Nat.sub_zero, List.getElem?_eq_getElem wanted.isLt]
    rfl

theorem foldl_tally_eq_zero_iff (items : List Item) :
    items.foldl (tally valid) 0 = 0 ↔ ∀ item ∈ items, valid item = false := by
  rw [foldl_tally, Nat.zero_add, List.length_eq_zero_iff, List.filter_eq_nil_iff]
  simp

end Walk

/-! ## Counting distinct values of a sorted list -/

section Distinct

variable {Value : Type} [DecidableEq Value]

/-- The neighbours that differ. -/
def changes (values : List Value) : Nat :=
  ((values.zip values.tail).filter fun pair => pair.1 ≠ pair.2).length

theorem changes_cons_cons (first second : Value) (rest : List Value) :
    changes (first :: second :: rest) = changes (second :: rest) + if first = second then 0 else 1 := by
  by_cases same : first = second <;> simp [changes, same]

end Distinct

/-- In a sorted list every value but the first begins at a change. -/
theorem changes_eq_card {Value : Type} [LinearOrder Value] (first : Value) (rest : List Value)
    (sorted : (first :: rest).Pairwise (· ≤ ·)) :
    1 + changes (first :: rest) = (first :: rest).toFinset.card := by
  induction rest generalizing first with
  | nil => rfl
  | cons second rest ih =>
      rcases List.pairwise_cons.mp sorted with ⟨below, tail⟩
      rw [changes_cons_cons, List.toFinset_cons]
      have counted := ih second tail
      by_cases same : first = second
      · rw [if_pos same, same, Finset.insert_eq_of_mem (by simp)]
        exact counted
      · have fresh : first ∉ (second :: rest).toFinset := by
          rw [List.mem_toFinset]
          intro member
          rcases List.mem_cons.mp member with equal | later
          · exact same equal
          · have above := (List.pairwise_cons.mp tail).1 first later
            exact same (le_antisymm (below second (by simp)) above)
        rw [if_neg same, Finset.card_insert_of_notMem fresh, ← counted]
        omega

end Selection
end Lib
end QuietHop
