import Mathlib.Data.List.Basic

namespace QuietHop
namespace Lib

/-!
# Records in which every entry has its reasons

A record grows at its end.  What justifies an entry is what stands before it, so an entry that
was justified when it was made stays justified.
-/

section Ledger

variable {Entry : Type} {justifies : List Entry -> Entry -> Prop}

/-- Every entry is justified by the entries before it. -/
inductive Ledger (justifies : List Entry -> Entry -> Prop) : List Entry -> Prop where
  | nil : Ledger justifies []
  | note {record : List Entry} {entry : Entry} (ledger : Ledger justifies record) (reason : justifies record entry) :
      Ledger justifies (record ++ [entry])

theorem Ledger.reason {record before after : List Entry} {entry : Entry} (ledger : Ledger justifies record)
    (split : record = before ++ entry :: after) : justifies before entry := by
  induction ledger generalizing after with
  | nil => exact absurd split (List.append_ne_nil_of_right_ne_nil _ (List.cons_ne_nil _ _)).symm
  | @note shorter last ledger reason ih =>
      rcases List.eq_nil_or_concat after with rfl | ⟨rest, final, rfl⟩
      · rcases List.append_inj' split rfl with ⟨rfl, same⟩
        cases same
        exact reason
      · have shown : shorter ++ [last] = (before ++ entry :: rest) ++ [final] := by
          rw [split]
          simp
        exact ih (List.append_inj' shown rfl).1

end Ledger

end Lib
end QuietHop
