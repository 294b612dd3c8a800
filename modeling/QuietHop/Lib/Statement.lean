namespace QuietHop
namespace Lib

/-!
# Statements whose answer can be lost

A statement is one atomic change of a store that returns a value, or an error of its own and then
leaves the store as it was.  Whoever executes it may lose the connection or give up waiting.  The
statement has then not been executed at all, or it has and only the answer is missing: that an
error is reported does not tell the two apart.
-/

/-- What becomes of a statement on its way and of the answer on its way back. -/
inductive Delivery (Error : Type) where
  | arrives
  | lost (executed : Bool) (e : Error)

section Statements

variable {Store Value Error : Type}

/-- What is reported of a statement, and the store after it. -/
def execute (statement : Store -> Except Error (Value × Store)) (delivery : Delivery Error) (store : Store) :
    Except Error Value × Store :=
  match delivery, statement store with
  | .arrives, .ok (value, after) => (.ok value, after)
  | .arrives, .error e => (.error e, store)
  | .lost true e, .ok (_, after) => (.error e, after)
  | .lost _ e, _ => (.error e, store)

/-- The statement takes effect and an error is reported all the same. -/
def unseen (statement : Store -> Except Error (Value × Store)) (delivery : Delivery Error) (store : Store) : Bool :=
  match delivery, statement store with
  | .lost true _, .ok _ => true
  | _, _ => false

/-- A statement that only reads. -/
def ask (query : Store -> Except Error Value) (delivery : Delivery Error) (store : Store) : Except Error Value :=
  match delivery with
  | .arrives => query store
  | .lost _ e => .error e

variable {statement : Store -> Except Error (Value × Store)} {delivery : Delivery Error} {store after : Store}

/-- A statement is executed and reported, fails and leaves the store, or takes effect unseen. -/
theorem execute_cases (statement : Store -> Except Error (Value × Store)) (delivery : Delivery Error) (store : Store) :
    (∃ value after, execute statement delivery store = (.ok value, after) ∧ statement store = .ok (value, after)) ∨
    (∃ e, execute statement delivery store = (.error e, store)) ∨
    (∃ e value after, execute statement delivery store = (.error e, after) ∧
      unseen statement delivery store = true ∧ statement store = .ok (value, after)) := by
  cases delivery with
  | arrives =>
      cases executed : statement store with
      | ok result => exact Or.inl ⟨result.1, result.2, by simp only [execute, executed], rfl⟩
      | error e => exact Or.inr (Or.inl ⟨e, by simp only [execute, executed]⟩)
  | lost reached e =>
      cases reached with
      | false => exact Or.inr (Or.inl ⟨e, rfl⟩)
      | true =>
          cases executed : statement store with
          | ok result =>
              exact Or.inr (Or.inr ⟨e, result.1, result.2, by simp only [execute, executed],
                by simp only [unseen, executed], rfl⟩)
          | error own => exact Or.inr (Or.inl ⟨e, by simp only [execute, executed]⟩)

theorem execute_arrives {value : Value} (executed : statement store = .ok (value, after)) :
    execute statement .arrives store = (.ok value, after) := by
  simp only [execute, executed]

/-- A query that reports a value has found it. -/
theorem ask_ok {query : Store -> Except Error Value} {value : Value} (reported : ask query delivery store = .ok value) :
    query store = .ok value := by
  cases delivery with
  | arrives => exact reported
  | lost executed e => cases reported

end Statements

end Lib
end QuietHop
