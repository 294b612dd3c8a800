import Mathlib.Order.Defs.Unbundled

namespace QuietHop
namespace Lib

/-!
# Programs that fail without losing their state

A program reads and changes a state and either returns a value or fails.  The state
it has reached is kept in both cases, as for code that has already written to a
socket when a later step goes wrong.

Three kinds of statements are made about such programs.  `Keeps R p` says that the
state after `p` is related to the state before it, however `p` ends; for a reflexive
and transitive relation it follows from the parts of `p`.  `Meets pre p post fail` is
a triple with one postcondition for each way to end.  `Coupled R S p q` compares two
programs: from states in `R` they end in the same way, and in related states again.
-/

structure Program (Error State Value : Type) where
  run : State -> Except Error Value × State

namespace Program

variable {Error State Value Next : Type}

def bind (first : Program Error State Value) (next : Value -> Program Error State Next) :
    Program Error State Next where
  run state :=
    match first.run state with
    | (.error reason, reached) => (.error reason, reached)
    | (.ok value, reached) => (next value).run reached

instance : Monad (Program Error State) where
  pure value := ⟨fun state => (.ok value, state)⟩
  bind := bind

def fail (reason : Error) : Program Error State Value :=
  ⟨fun state => (.error reason, state)⟩

def get : Program Error State State :=
  ⟨fun state => (.ok state, state)⟩

def modify (change : State -> State) : Program Error State Unit :=
  ⟨fun state => (.ok (), change state)⟩

/-- A result computed elsewhere, with its error embedded. -/
def ofExcept {Inner : Type} (embed : Inner -> Error) (result : Except Inner Value) : Program Error State Value :=
  match result with
  | .error reason => fail (embed reason)
  | .ok value => pure value

section Run

variable (state : State)

@[simp] theorem run_pure (value : Value) : (pure value : Program Error State Value).run state = (.ok value, state) :=
  rfl

@[simp] theorem run_fail (reason : Error) :
    (fail reason : Program Error State Value).run state = (.error reason, state) := rfl

@[simp] theorem run_get : (get : Program Error State State).run state = (.ok state, state) := rfl

@[simp] theorem run_modify (change : State -> State) :
    (modify change : Program Error State Unit).run state = (.ok (), change state) := rfl

variable {state} {first : Program Error State Value} {next : Value -> Program Error State Next}

theorem run_bind_of_ok {value : Value} {reached : State} (returned : first.run state = (.ok value, reached)) :
    (first >>= next).run state = (next value).run reached := by
  simp only [Bind.bind, bind, returned]

theorem run_bind_of_error {reason : Error} {reached : State} (failed : first.run state = (.error reason, reached)) :
    (first >>= next).run state = (.error reason, reached) := by
  simp only [Bind.bind, bind, failed]

@[simp] theorem run_get_bind (next : State -> Program Error State Next) :
    (get >>= next).run state = (next state).run state := rfl

@[simp] theorem run_modify_bind (change : State -> State) (next : Unit -> Program Error State Next) :
    (modify change >>= next).run state = (next ()).run (change state) := rfl

@[simp] theorem run_pure_bind (value : Value) (next : Value -> Program Error State Next) :
    ((pure value : Program Error State Value) >>= next).run state = (next value).run state := rfl

@[simp] theorem run_fail_bind (reason : Error) (next : Value -> Program Error State Next) :
    ((fail reason : Program Error State Value) >>= next).run state = (.error reason, state) := rfl

end Run

/-! ## Relations every way of ending respects -/

/-- The state reached is related to the state begun with. -/
def Keeps (relation : State -> State -> Prop) (program : Program Error State Value) : Prop :=
  forall state, relation state (program.run state).2

/-- Every value returned has the property. -/
def Returns (property : Value -> Prop) (program : Program Error State Value) : Prop :=
  forall state value, (program.run state).1 = .ok value -> property value

theorem returns_anything (program : Program Error State Value) : Returns (fun _ => True) program :=
  fun _ _ _ => trivial

theorem returns_pure {property : Value -> Prop} {value : Value} (holds : property value) :
    Returns property (pure value : Program Error State Value) := by
  intro state found returned
  cases returned
  exact holds

theorem returns_fail {property : Value -> Prop} (reason : Error) :
    Returns property (fail reason : Program Error State Value) := by
  intro state found returned
  cases returned

theorem returns_bind_of_returns {between : Value -> Prop} {property : Next -> Prop} {first : Program Error State Value}
    {next : Value -> Program Error State Next} (head : Returns between first)
    (tail : forall value, between value -> Returns property (next value)) : Returns property (first >>= next) := by
  intro state found returned
  rcases result : first.run state with ⟨outcome, reached⟩
  cases outcome with
  | error reason =>
      rw [run_bind_of_error result] at returned
      cases returned
  | ok value =>
      rw [run_bind_of_ok result] at returned
      exact tail value (head state value (by rw [result])) reached found returned

theorem returns_bind {property : Next -> Prop} {first : Program Error State Value}
    {next : Value -> Program Error State Next} (tail : forall value, Returns property (next value)) :
    Returns property (first >>= next) :=
  returns_bind_of_returns (returns_anything first) fun value _ => tail value

/-- Every error failed with has the property. -/
def FailsWith (property : Error -> Prop) (program : Program Error State Value) : Prop :=
  forall state reason, (program.run state).1 = .error reason -> property reason

theorem failsWith_pure {property : Error -> Prop} (value : Value) :
    FailsWith property (pure value : Program Error State Value) := by
  intro state reason failed
  cases failed

theorem failsWith_bind {property : Error -> Prop} {first : Program Error State Value}
    {next : Value -> Program Error State Next} (head : FailsWith property first)
    (tail : forall value, FailsWith property (next value)) : FailsWith property (first >>= next) := by
  intro state found failed
  rcases result : first.run state with ⟨outcome, reached⟩
  cases outcome with
  | error reason =>
      rw [run_bind_of_error result] at failed
      cases failed
      exact head state found (by rw [result])
  | ok value =>
      rw [run_bind_of_ok result] at failed
      exact tail value reached found failed

section Keeps

variable {relation : State -> State -> Prop}

theorem keeps_modify {change : State -> State} (related : forall state, relation state (change state)) :
    Keeps relation (modify change : Program Error State Unit) :=
  related

section Refl

variable [Std.Refl relation]

theorem keeps_pure (value : Value) : Keeps relation (pure value : Program Error State Value) :=
  fun state => refl_of relation state

theorem keeps_fail (reason : Error) : Keeps relation (fail reason : Program Error State Value) :=
  fun state => refl_of relation state

theorem keeps_get : Keeps relation (get : Program Error State State) :=
  fun state => refl_of relation state

theorem keeps_ofExcept {Inner : Type} (embed : Inner -> Error) (result : Except Inner Value) :
    Keeps relation (ofExcept embed result : Program Error State Value) := by
  cases result with
  | error reason => exact keeps_fail (embed reason)
  | ok value => exact keeps_pure value

end Refl

section Trans

variable [IsTrans State relation]

/-- What follows may rely on what the first part returns. -/
theorem keeps_bind_of_returns {property : Value -> Prop} {first : Program Error State Value}
    {next : Value -> Program Error State Next} (returns : Returns property first) (head : Keeps relation first)
    (tail : forall value, property value -> Keeps relation (next value)) : Keeps relation (first >>= next) := by
  intro state
  have begun := head state
  rcases result : first.run state with ⟨outcome, reached⟩
  rw [result] at begun
  cases outcome with
  | error reason =>
      rw [run_bind_of_error result]
      exact begun
  | ok value =>
      rw [run_bind_of_ok result]
      exact trans_of relation begun (tail value (returns state value (by rw [result])) reached)

theorem keeps_bind {first : Program Error State Value} {next : Value -> Program Error State Next}
    (head : Keeps relation first) (tail : forall value, Keeps relation (next value)) :
    Keeps relation (first >>= next) := by
  exact keeps_bind_of_returns (returns_anything first) head (fun value _ => tail value)

end Trans

end Keeps

/-! ## Triples -/

/-- From a state in `pre` the program returns into `post` or fails into `fails`. -/
def Meets (pre : State -> Prop) (program : Program Error State Value) (post : Value -> State -> Prop)
    (fails : Error -> State -> Prop) : Prop :=
  forall state, pre state ->
    match program.run state with
    | (.ok value, reached) => post value reached
    | (.error reason, reached) => fails reason reached

section Meets

variable {pre : State -> Prop} {post : Value -> State -> Prop} {fails : Error -> State -> Prop}

theorem meets_bind {after : Next -> State -> Prop} {first : Program Error State Value}
    {next : Value -> Program Error State Next} (head : Meets pre first post fails)
    (tail : forall value, Meets (post value) (next value) after fails) : Meets pre (first >>= next) after fails := by
  intro state holds
  have begun := head state holds
  rcases result : first.run state with ⟨outcome, reached⟩
  rw [result] at begun
  cases outcome with
  | error reason =>
      rw [run_bind_of_error result]
      exact begun
  | ok value =>
      rw [run_bind_of_ok result]
      exact tail value reached begun

theorem meets_pure {value : Value} (holds : forall state, pre state -> post value state) :
    Meets pre (pure value : Program Error State Value) post fails :=
  holds

theorem meets_fail {reason : Error} (holds : forall state, pre state -> fails reason state) :
    Meets pre (fail reason : Program Error State Value) post fails :=
  holds

theorem meets_modify {change : State -> State} {after : Unit -> State -> Prop}
    (holds : forall state, pre state -> after () (change state)) :
    Meets pre (modify change : Program Error State Unit) after fails :=
  holds

/-- What follows a read of the state may rely on the state read. -/
theorem meets_get_bind {next : State -> Program Error State Value}
    (holds : forall read, pre read -> Meets (· = read) (next read) post fails) : Meets pre (get >>= next) post fails :=
  fun state begun => holds state begun state rfl

theorem meets_ofExcept {Inner : Type} {embed : Inner -> Error} {result : Except Inner Value}
    (returned : forall value, result = .ok value -> forall state, pre state -> post value state)
    (failed : forall reason, result = .error reason -> forall state, pre state -> fails (embed reason) state) :
    Meets pre (ofExcept embed result : Program Error State Value) post fails := by
  cases result with
  | error reason => exact meets_fail (failed reason rfl)
  | ok value => exact meets_pure (returned value rfl)

/-- A relation that every way of ending respects gives both postconditions. -/
theorem meets_of_keeps {relation : State -> State -> Prop} {property : Value -> Prop}
    {program : Program Error State Value} (keeps : Keeps relation program) (returns : Returns property program)
    (returned : forall value before after, pre before -> relation before after -> property value -> post value after)
    (failed : forall reason before after, pre before -> relation before after -> fails reason after) :
    Meets pre program post fails := by
  intro state holds
  have related := keeps state
  rcases result : program.run state with ⟨outcome, reached⟩
  rw [result] at related
  cases outcome with
  | error reason => exact failed reason state reached holds related
  | ok value => exact returned value state reached holds related (returns state value (by rw [result]))

theorem meets_conseq {weaker : State -> Prop} {program : Program Error State Value}
    (implies : forall state, pre state -> weaker state) (meets : Meets weaker program post fails) :
    Meets pre program post fails :=
  fun state holds => meets state (implies state holds)

end Meets

/-! ## Two programs side by side -/

section Coupled

variable {Other : Type}

/-- Both return the same value, or fail for the same reason into states of which less may be
known. -/
def Together (related : State -> Other -> Prop) (failed : Error -> State -> Other -> Prop)
    (first : Except Error Value × State) (second : Except Error Value × Other) : Prop :=
  (∃ value reached there, first = (.ok value, reached) ∧ second = (.ok value, there) ∧ related reached there) ∨
    ∃ reason reached there, first = (.error reason, reached) ∧ second = (.error reason, there) ∧
      failed reason reached there

/-- From related states both programs end in the same way. -/
def Coupled (related : State -> Other -> Prop) (failed : Error -> State -> Other -> Prop)
    (first : Program Error State Value) (second : Program Error Other Value) : Prop :=
  forall state other, related state other -> Together related failed (first.run state) (second.run other)

variable {related : State -> Other -> Prop} {failed : Error -> State -> Other -> Prop}

theorem coupled_pure (value : Value) :
    Coupled related failed (pure value : Program Error State Value) (pure value) :=
  fun state other holds => .inl ⟨value, state, other, rfl, rfl, holds⟩

theorem coupled_fail {reason : Error} (weaker : forall state other, related state other -> failed reason state other) :
    Coupled related failed (fail reason : Program Error State Value) (fail reason) :=
  fun state other holds => .inr ⟨reason, state, other, rfl, rfl, weaker state other holds⟩

theorem coupled_modify {change : State -> State} {otherChange : Other -> Other}
    (keeps : forall state other, related state other -> related (change state) (otherChange other)) :
    Coupled related failed (modify change : Program Error State Unit) (modify otherChange) :=
  fun state other holds => .inl ⟨(), change state, otherChange other, rfl, rfl, keeps state other holds⟩

theorem coupled_bind {first : Program Error State Value} {second : Program Error Other Value}
    {next : Value -> Program Error State Next} {otherNext : Value -> Program Error Other Next}
    (head : Coupled related failed first second)
    (tail : forall value, Coupled related failed (next value) (otherNext value)) :
    Coupled related failed (first >>= next) (second >>= otherNext) := by
  intro state other holds
  rcases head state other holds with ⟨value, reached, there, ran, otherRan, after⟩ | ⟨reason, reached, there, ran, otherRan, after⟩
  · rw [run_bind_of_ok ran, run_bind_of_ok otherRan]
    exact tail value reached there after
  · rw [run_bind_of_error ran, run_bind_of_error otherRan]
    exact .inr ⟨reason, reached, there, rfl, rfl, after⟩

/-- What follows a read of the two states may rely on how they are related. -/
theorem coupled_get_bind {next : State -> Program Error State Next} {otherNext : Other -> Program Error Other Next}
    (tail : forall state other, related state other -> Coupled related failed (next state) (otherNext other)) :
    Coupled related failed (get >>= next) (get >>= otherNext) :=
  fun state other holds => tail state other holds state other holds

theorem coupled_ofExcept {Inner : Type} {embed : Inner -> Error}
    (weaker : forall reason state other, related state other -> failed (embed reason) state other)
    (result : Except Inner Value) :
    Coupled related failed (ofExcept embed result : Program Error State Value) (ofExcept embed result) := by
  cases result with
  | error reason => exact coupled_fail (weaker reason)
  | ok value => exact coupled_pure value

end Coupled

end Program
end Lib
end QuietHop
