import Mathlib.Data.List.Basic
import Mathlib.Data.List.Nodup

namespace QuietHop
namespace Lib
namespace Table

/-!
# Tables

The rows of a table with a unique column, with a column of times, with a column that refers to an
owner, and with a column of amounts that are added up for each owner.
-/

section Keys

variable {Row Key : Type} {rows : List Row} {key : Row -> Key}

/-- A row with a new key may be added. -/
theorem nodup_concat (nodup : (rows.map key).Nodup) {row : Row} (fresh : key row ∉ rows.map key) :
    ((rows ++ [row]).map key).Nodup := by
  rw [List.map_append, List.map_singleton, ← List.concat_eq_append]
  exact nodup.concat fresh

theorem mem_concat {value : Key} (member : value ∈ rows.map key) (row : Row) : value ∈ (rows ++ [row]).map key := by
  rw [List.map_append]
  exact List.mem_append_left _ member

/-- A column that no update touches. -/
theorem map_update {update : Row -> Row} (keeps : forall row, key (update row) = key row) :
    (rows.map update).map key = rows.map key := by
  have same : key ∘ update = key := funext keeps
  rw [List.map_map, same]

end Keys

section Times

variable {Row : Type} (time : Row -> Int)

def later (best : Option Row) (row : Row) : Option Row :=
  match best with
  | none => some row
  | some held => if time held < time row then some row else some held

/-- The row with the latest time, the first of them if there are several. -/
def latest (rows : List Row) : Option Row := rows.foldl (later time) none

variable {time} {rows : List Row}

theorem mem_of_foldl_later {best : Option Row} {row : Row} (found : rows.foldl (later time) best = some row) :
    row ∈ rows ∨ best = some row := by
  induction rows generalizing best with
  | nil => exact Or.inr found
  | cons first rest ih =>
      rcases ih found with inside | chosen
      · exact Or.inl (List.mem_cons_of_mem _ inside)
      · -- the first row has been compared with the one held so far
        cases best with
        | none =>
            cases chosen
            exact Or.inl (List.mem_cons_self ..)
        | some held =>
            simp only [later] at chosen
            split_ifs at chosen
            · cases chosen
              exact Or.inl (List.mem_cons_self ..)
            · exact Or.inr chosen

theorem mem_of_latest {row : Row} (found : latest time rows = some row) : row ∈ rows := by
  rcases mem_of_foldl_later found with inside | none
  · exact inside
  · cases none

end Times

section Owners

variable {Row Key : Type} [DecidableEq Key] (owner : Row -> Key) (amount : Row -> Nat)

/-- How many rows an owner has. -/
def countFor (rows : List Row) (key : Key) : Nat := (rows.map owner).count key

/-- What the rows of an owner add up to. -/
def sumFor (rows : List Row) (key : Key) : Nat :=
  (rows.filter (owner · = key)).foldr (fun row total => amount row + total) 0

variable {owner amount} {rows : List Row}

theorem countFor_cons (row : Row) (key : Key) :
    countFor owner (row :: rows) key = countFor owner rows key + if owner row = key then 1 else 0 := by
  rw [countFor, List.map_cons, List.count_cons]
  simp only [beq_iff_eq, countFor]

theorem countFor_concat (row : Row) (key : Key) :
    countFor owner (rows ++ [row]) key = countFor owner rows key + if owner row = key then 1 else 0 := by
  rw [countFor, List.map_append, List.count_append, List.map_singleton, List.count_singleton]
  simp only [beq_iff_eq, countFor]

theorem countFor_pos_of_mem {row : Row} (member : row ∈ rows) : 0 < countFor owner rows (owner row) :=
  List.count_pos_iff.mpr (List.mem_map_of_mem member)

theorem countFor_le_one (nodup : (rows.map owner).Nodup) (key : Key) : countFor owner rows key ≤ 1 :=
  List.nodup_iff_count_le_one.mp nodup key

theorem sumFor_cons (row : Row) (key : Key) :
    sumFor owner amount (row :: rows) key =
      (if owner row = key then amount row else 0) + sumFor owner amount rows key := by
  by_cases own : owner row = key
  · simp [sumFor, own]
  · simp [sumFor, own]

/-- A row with nothing on it does not change the sum. -/
theorem sumFor_concat_zero {row : Row} (zero : amount row = 0) (key : Key) :
    sumFor owner amount (rows ++ [row]) key = sumFor owner amount rows key := by
  induction rows with
  | nil => simp [sumFor_cons, zero]
  | cons first rest ih => rw [List.cons_append, sumFor_cons, ih, ← sumFor_cons]

/-- An update that touches neither column. -/
theorem sumFor_update {update : Row -> Row} (sameOwner : forall row, owner (update row) = owner row)
    (sameAmount : forall row, amount (update row) = amount row) (key : Key) :
    sumFor owner amount (rows.map update) key = sumFor owner amount rows key := by
  induction rows with
  | nil => rfl
  | cons first rest ih => rw [List.map_cons, sumFor_cons, sumFor_cons, ih, sameOwner, sameAmount]

/-- An update that adds one to every row of one owner. -/
theorem sumFor_increment {update : Row -> Row} {target : Key} (sameOwner : forall row, owner (update row) = owner row)
    (increments : forall row, amount (update row) = amount row + if owner row = target then 1 else 0) (key : Key) :
    sumFor owner amount (rows.map update) key =
      sumFor owner amount rows key + if target = key then countFor owner rows key else 0 := by
  induction rows with
  | nil => simp [sumFor, countFor]
  | cons first rest ih =>
      rw [List.map_cons, sumFor_cons, sumFor_cons, ih, sameOwner, increments, countFor_cons]
      by_cases own : owner first = key
      · subst own
        by_cases same : target = owner first
        · simp only [same, if_true]
          omega
        · simp only [if_neg same, if_neg (Ne.symm same), if_true]
          omega
      · simp only [if_neg own, Nat.zero_add, Nat.add_zero]

end Owners

end Table
end Lib
end QuietHop
