import Mathlib.Data.List.Basic

namespace QuietHop
namespace Lib
namespace Threads

/-!
# Threads that take atomic steps on a shared state

A thread is the state of its own program.  One step of it reads and writes the shared state,
with an input for whatever the outside decides.  Threads may start at any time and steps of
different threads interleave in any order: a run is any list of moves.

Three rules establish what holds in every run.  `run_invariant` takes an invariant of the whole
pool.  `run_sound` takes one of the shared state and an assertion that each thread owns, and
asks that no step of another thread breaks it.  `run_guarded` asks this only of threads that are
not both in a critical section, for runs in which threads enter it alone.
-/

section Semantics

variable {Shared Local Input : Type}

structure Pool (Shared Local : Type) where
  shared : Shared
  threads : List Local

inductive Move (Local Input : Type) where
  | spawn (thread : Local)
  | advance (index : Nat) (input : Input)

variable (step : Shared -> Local -> Input -> Shared × Local)

/-- A thread starts, or one takes its next step. -/
def move (pool : Pool Shared Local) : Move Local Input -> Pool Shared Local
  | .spawn thread => ⟨pool.shared, pool.threads ++ [thread]⟩
  | .advance index input =>
      match pool.threads[index]? with
      | none => pool
      | some thread =>
          ⟨(step pool.shared thread input).1, pool.threads.set index (step pool.shared thread input).2⟩

def run (pool : Pool Shared Local) (moves : List (Move Local Input)) : Pool Shared Local :=
  moves.foldl (move step) pool

/-- Every move of a run meets a condition in the pool it is made in. -/
def Obeys (condition : Pool Shared Local -> Move Local Input -> Prop) :
    Pool Shared Local -> List (Move Local Input) -> Prop
  | _, [] => True
  | pool, next :: rest => condition pool next ∧ Obeys condition (move step pool next) rest

instance decidableObeys {condition : Pool Shared Local -> Move Local Input -> Prop}
    [forall pool next, Decidable (condition pool next)] :
    (pool : Pool Shared Local) -> (moves : List (Move Local Input)) -> Decidable (Obeys step condition pool moves)
  | _, [] => isTrue trivial
  | pool, next :: rest =>
      @instDecidableAnd (condition pool next) _ inferInstance (decidableObeys (move step pool next) rest)

@[simp] theorem run_nil (pool : Pool Shared Local) : run step pool [] = pool := rfl

@[simp] theorem run_cons (pool : Pool Shared Local) (next : Move Local Input) (rest : List (Move Local Input)) :
    run step pool (next :: rest) = run step (move step pool next) rest := rfl

theorem run_append (pool : Pool Shared Local) (first second : List (Move Local Input)) :
    run step pool (first ++ second) = run step (run step pool first) second :=
  List.foldl_append ..

variable {step}

theorem move_advance {pool : Pool Shared Local} {index : Nat} {input : Input} {thread : Local}
    (found : pool.threads[index]? = some thread) :
    move step pool (.advance index input) =
      ⟨(step pool.shared thread input).1, pool.threads.set index (step pool.shared thread input).2⟩ := by
  simp only [move, found]

theorem obeys_append {condition : Pool Shared Local -> Move Local Input -> Prop} {pool : Pool Shared Local}
    {first second : List (Move Local Input)} :
    Obeys step condition pool (first ++ second) ↔
      Obeys step condition pool first ∧ Obeys step condition (run step pool first) second := by
  induction first generalizing pool with
  | nil => simp [Obeys]
  | cons next rest ih => simp only [List.cons_append, Obeys, ih, run_cons, and_assoc]

theorem Obeys.mono {condition weaker : Pool Shared Local -> Move Local Input -> Prop}
    (weakens : forall pool next, condition pool next -> weaker pool next) {pool : Pool Shared Local}
    {moves : List (Move Local Input)} (obeys : Obeys step condition pool moves) : Obeys step weaker pool moves := by
  induction moves generalizing pool with
  | nil => trivial
  | cons next rest ih => exact ⟨weakens _ _ obeys.1, ih obeys.2⟩

theorem obeys_and {first second : Pool Shared Local -> Move Local Input -> Prop} {pool : Pool Shared Local}
    {moves : List (Move Local Input)} (left : Obeys step first pool moves) (right : Obeys step second pool moves) :
    Obeys step (fun pool next => first pool next ∧ second pool next) pool moves := by
  induction moves generalizing pool with
  | nil => trivial
  | cons next rest ih => exact ⟨⟨left.1, right.1⟩, ih left.2 right.2⟩

theorem obeys_of_forall {condition : Pool Shared Local -> Move Local Input -> Prop} {moves : List (Move Local Input)}
    (all : forall pool, ∀ next ∈ moves, condition pool next) (pool : Pool Shared Local) :
    Obeys step condition pool moves := by
  induction moves generalizing pool with
  | nil => trivial
  | cons next rest ih =>
      exact ⟨all pool next (List.mem_cons_self ..), ih (fun pool other member =>
        all pool other (List.mem_cons_of_mem _ member)) _⟩

/-! ## Threads keep their place -/

/-- The threads after one has started. -/
theorem mem_spawn {pool : Pool Shared Local} {new thread : Local}
    (member : thread ∈ (move step pool (.spawn new : Move Local Input)).threads) :
    thread ∈ pool.threads ∨ thread = new := by
  rcases List.mem_append.mp member with old | last
  · exact Or.inl old
  · exact Or.inr (List.mem_singleton.mp last)

/-- The thread at a place after one has been replaced. -/
theorem getElem?_set_cases {threads : List Local} {index place : Nat} {before after thread : Local}
    (found : threads[index]? = some before) (holds : (threads.set index after)[place]? = some thread) :
    (place = index ∧ thread = after) ∨ (place ≠ index ∧ threads[place]? = some thread) := by
  by_cases same : place = index
  · subst same
    rw [List.getElem?_set_self (List.getElem?_eq_some_iff.mp found).1] at holds
    exact Or.inl ⟨rfl, (Option.some.inj holds).symm⟩
  · rw [List.getElem?_set_ne (Ne.symm same)] at holds
    exact Or.inr ⟨same, holds⟩

/-- Where a thread of the next pool comes from. -/
theorem getElem?_move {pool : Pool Shared Local} {next : Move Local Input} {index : Nat} {thread : Local}
    (found : (move step pool next).threads[index]? = some thread) :
    pool.threads[index]? = some thread ∨
      (next = .spawn thread ∧ index = pool.threads.length) ∨
      ∃ input before, next = .advance index input ∧ pool.threads[index]? = some before ∧
        thread = (step pool.shared before input).2 := by
  cases next with
  | spawn new =>
      rw [move, List.getElem?_append] at found
      split_ifs at found with inside
      · exact Or.inl found
      · have here : index - pool.threads.length = 0 := by
          have bound := (List.getElem?_eq_some_iff.mp found).1
          rw [List.length_singleton] at bound
          omega
        rw [here] at found
        cases found
        exact Or.inr (Or.inl ⟨rfl, by omega⟩)
  | advance stepped input =>
      cases held : pool.threads[stepped]? with
      | none =>
          rw [move, held] at found
          exact Or.inl found
      | some before =>
          rw [move_advance held] at found
          rcases getElem?_set_cases held found with ⟨rfl, rfl⟩ | ⟨-, old⟩
          · exact Or.inr (Or.inr ⟨input, before, rfl, held, rfl⟩)
          · exact Or.inl old

/-- The same, for a thread at any place. -/
theorem mem_move {pool : Pool Shared Local} {next : Move Local Input} {thread : Local}
    (member : thread ∈ (move step pool next).threads) :
    thread ∈ pool.threads ∨ next = .spawn thread ∨
      ∃ index input before, next = .advance index input ∧ pool.threads[index]? = some before ∧
        thread = (step pool.shared before input).2 := by
  rcases List.getElem?_of_mem member with ⟨index, found⟩
  rcases getElem?_move found with old | ⟨spawned, -⟩ | ⟨input, before, advanced, held, equal⟩
  · exact Or.inl (List.mem_of_getElem? old)
  · exact Or.inr (Or.inl spawned)
  · exact Or.inr (Or.inr ⟨index, input, before, advanced, held, equal⟩)

/-- What no step changes of a thread it has from its start. -/
theorem mem_run_label {Label : Type} {label : Local -> Label}
    (keeps : forall shared thread input, label (step shared thread input).2 = label thread)
    {pool : Pool Shared Local} {moves : List (Move Local Input)} {thread : Local}
    (member : thread ∈ (run step pool moves).threads) :
    (∃ first ∈ pool.threads, label first = label thread) ∨
      ∃ first, Move.spawn first ∈ moves ∧ label first = label thread := by
  induction moves generalizing pool with
  | nil => exact Or.inl ⟨thread, member, rfl⟩
  | cons next rest ih =>
      rcases ih member with ⟨before, inside, same⟩ | ⟨first, spawned, same⟩
      · rcases mem_move inside with old | rfl | ⟨index, input, origin, -, held, rfl⟩
        · exact Or.inl ⟨before, old, same⟩
        · exact Or.inr ⟨before, List.mem_cons_self .., same⟩
        · rw [keeps] at same
          exact Or.inl ⟨origin, List.mem_of_getElem? held, same⟩
      · exact Or.inr ⟨first, List.mem_cons_of_mem _ spawned, same⟩

/-- And it stands at the same place. -/
theorem map_label_advance {Label : Type} {label : Local -> Label}
    (keeps : forall shared thread input, label (step shared thread input).2 = label thread)
    (pool : Pool Shared Local) (index : Nat) (input : Input) :
    (move step pool (.advance index input)).threads.map label = pool.threads.map label := by
  cases found : pool.threads[index]? with
  | none => rw [move, found]
  | some before =>
      rw [move_advance found, List.map_set, keeps]
      apply List.ext_getElem?
      intro place
      by_cases same : index = place
      · subst same
        have inside := (List.getElem?_eq_some_iff.mp found).1
        rw [List.getElem?_set_self (by simpa using inside), List.getElem?_map, found]
        rfl
      · rw [List.getElem?_set_ne same]

/-- What each step of a thread preserves of it, the thread has at the end of a run. -/
theorem run_keeps_thread {condition : Pool Shared Local -> Move Local Input -> Prop} {holds : Local -> Prop}
    {index : Nat} (keeps : forall pool input thread, condition pool (.advance index input) ->
      pool.threads[index]? = some thread -> holds thread -> holds (step pool.shared thread input).2)
    {pool : Pool Shared Local} {thread : Local} (found : pool.threads[index]? = some thread) (initially : holds thread)
    {moves : List (Move Local Input)} (obeys : Obeys step condition pool moves) :
    ∃ after, (run step pool moves).threads[index]? = some after ∧ holds after := by
  induction moves generalizing pool thread with
  | nil => exact ⟨thread, found, initially⟩
  | cons next rest ih =>
      have inside := (List.getElem?_eq_some_iff.mp found).1
      cases next with
      | spawn new =>
          refine ih ?_ initially obeys.2
          rw [move, List.getElem?_append_left inside, found]
      | advance stepped input =>
          cases held : pool.threads[stepped]? with
          | none =>
              refine ih ?_ initially obeys.2
              rw [move, held]
              exact found
          | some before =>
              by_cases same : stepped = index
              · subst same
                refine ih ?_ (keeps pool input thread obeys.1 found initially) obeys.2
                rw [move_advance found, List.getElem?_set_self inside]
              · refine ih ?_ initially obeys.2
                rw [move_advance held, List.getElem?_set_ne same]
                exact found

/-- A thread that no step changes any more stays as it is. -/
theorem getElem?_run_of_final {pool : Pool Shared Local} {index : Nat} {thread : Local}
    (final : forall shared input, (step shared thread input).2 = thread)
    (found : pool.threads[index]? = some thread) (moves : List (Move Local Input)) :
    (run step pool moves).threads[index]? = some thread := by
  have always : Obeys step (fun _ _ => True) pool moves := obeys_of_forall (fun _ _ _ => trivial) pool
  have keeps : forall (before : Pool Shared Local) (input : Input) (other : Local), True ->
      before.threads[index]? = some other -> thread = other -> thread = (step before.shared other input).2 := by
    rintro before input other - - rfl
    exact (final before.shared input).symm
  rcases run_keeps_thread keeps found rfl always with ⟨after, held, rfl⟩
  exact held

/-! ## Counting threads -/

/-- Replacing one thread changes a count by what the two threads count for. -/
theorem countP_set {threads : List Local} {index : Nat} {before : Local} (found : threads[index]? = some before)
    (after : Local) (counts : Local -> Bool) :
    (threads.set index after).countP counts + (if counts before then 1 else 0) =
      threads.countP counts + (if counts after then 1 else 0) := by
  induction threads generalizing index with
  | nil => cases found
  | cons first rest ih =>
      cases index with
      | zero =>
          cases found
          simp only [List.set_cons_zero, List.countP_cons]
          omega
      | succ index =>
          have counted := ih found
          simp only [List.set_cons_succ, List.countP_cons]
          omega

/-- A count, as one thread and the others. -/
theorem countP_eq_eraseIdx {threads : List Local} {index : Nat} {thread : Local}
    (found : threads[index]? = some thread) (counts : Local -> Bool) :
    threads.countP counts = (threads.eraseIdx index).countP counts + if counts thread then 1 else 0 := by
  induction threads generalizing index with
  | nil => cases found
  | cons first rest ih =>
      cases index with
      | zero =>
          cases found
          rw [List.eraseIdx_cons_zero, List.countP_cons]
      | succ index =>
          have counted := ih found
          rw [List.eraseIdx_cons_succ, List.countP_cons, List.countP_cons]
          omega

theorem countP_or_le (threads : List Local) (first second : Local -> Bool) :
    (threads.countP fun thread => first thread || second thread) ≤ threads.countP first + threads.countP second := by
  induction threads with
  | nil => exact Nat.le_refl 0
  | cons thread rest ih =>
      simp only [List.countP_cons, Bool.or_eq_true]
      split_ifs <;> simp_all <;> omega

/-! ## What holds in every run -/

/-- A move starts a thread, advances one, or changes nothing. -/
theorem move_keeps {invariant : Pool Shared Local -> Prop} {pool : Pool Shared Local} {next : Move Local Input}
    (holds : invariant pool)
    (spawns : forall thread, next = .spawn thread -> invariant (move step pool (.spawn thread : Move Local Input)))
    (advances : forall index input thread, next = .advance index input -> pool.threads[index]? = some thread ->
      invariant (move step pool (.advance index input))) :
    invariant (move step pool next) := by
  cases next with
  | spawn thread => exact spawns thread rfl
  | advance index input =>
      cases found : pool.threads[index]? with
      | none =>
          rw [move, found]
          exact holds
      | some thread => exact advances index input thread rfl found

/-- An invariant of the pool that every move keeps which meets a condition. -/
theorem run_invariant {condition : Pool Shared Local -> Move Local Input -> Prop}
    {invariant : Pool Shared Local -> Prop}
    (keeps : forall pool next, invariant pool -> condition pool next -> invariant (move step pool next))
    {pool : Pool Shared Local} {moves : List (Move Local Input)} (initially : invariant pool)
    (obeys : Obeys step condition pool moves) : invariant (run step pool moves) := by
  induction moves generalizing pool with
  | nil => exact initially
  | cons next rest ih => exact ih (keeps pool next initially obeys.1) obeys.2

/-- The shared state keeps its invariant, and every thread what it owns. -/
def Sound (invariant : Shared -> Prop) (owns : Shared -> Local -> Prop) (pool : Pool Shared Local) : Prop :=
  invariant pool.shared ∧ ∀ thread ∈ pool.threads, owns pool.shared thread

/-- What has to be shown of each step: it keeps the invariant and what its thread owns, and
changes the shared state only in a way that leaves every assertion of other threads true. -/
structure Guarantee (step : Shared -> Local -> Input -> Shared × Local) (invariant : Shared -> Prop)
    (owns : Shared -> Local -> Prop) : Prop where
  keeps : forall shared thread input, invariant shared -> owns shared thread ->
    invariant (step shared thread input).1 ∧ owns (step shared thread input).1 (step shared thread input).2
  stable : forall shared thread input other, invariant shared -> owns shared thread -> owns shared other ->
    owns (step shared thread input).1 other

/-- A new thread owns what it has to. -/
def Starts (owns : Shared -> Local -> Prop) (pool : Pool Shared Local) : Move Local Input -> Prop
  | .spawn thread => owns pool.shared thread
  | .advance _ _ => True

/-- A step keeps soundness when it leaves the assertions of the threads in other places true. -/
theorem sound_advance {invariant : Shared -> Prop} {owns : Shared -> Local -> Prop} {pool : Pool Shared Local}
    {index : Nat} {input : Input} {thread : Local} (found : pool.threads[index]? = some thread)
    (kept : invariant (step pool.shared thread input).1 ∧
      owns (step pool.shared thread input).1 (step pool.shared thread input).2)
    (stable : forall (place : Nat) (other : Local), place ≠ index -> pool.threads[place]? = some other ->
      owns (step pool.shared thread input).1 other) :
    Sound invariant owns (move step pool (.advance index input)) := by
  rw [move_advance found]
  refine ⟨kept.1, ?_⟩
  intro other member
  rcases List.getElem?_of_mem member with ⟨place, holds⟩
  rcases getElem?_set_cases found holds with ⟨-, rfl⟩ | ⟨elsewhere, old⟩
  · exact kept.2
  · exact stable place other elsewhere old

theorem sound_spawn {invariant : Shared -> Prop} {owns : Shared -> Local -> Prop} {pool : Pool Shared Local}
    {thread : Local} (sound : Sound invariant owns pool) (owned : owns pool.shared thread) :
    Sound invariant owns (move step pool (.spawn thread : Move Local Input)) := by
  refine ⟨sound.1, ?_⟩
  intro other member
  rcases mem_spawn member with old | rfl
  · exact sound.2 other old
  · exact owned

theorem move_sound {invariant : Shared -> Prop} {owns : Shared -> Local -> Prop}
    (guarantee : Guarantee step invariant owns) {pool : Pool Shared Local} {next : Move Local Input}
    (sound : Sound invariant owns pool) (starts : Starts owns pool next) :
    Sound invariant owns (move step pool next) := by
  apply move_keeps sound
  · rintro thread rfl
    exact sound_spawn sound starts
  · rintro index input thread rfl found
    have owned := sound.2 thread (List.mem_of_getElem? found)
    apply sound_advance found (guarantee.keeps pool.shared thread input sound.1 owned)
    intro place other _ holds
    exact guarantee.stable _ _ _ _ sound.1 owned (sound.2 other (List.mem_of_getElem? holds))

theorem run_sound {invariant : Shared -> Prop} {owns : Shared -> Local -> Prop}
    (guarantee : Guarantee step invariant owns) {pool : Pool Shared Local} {moves : List (Move Local Input)}
    (sound : Sound invariant owns pool) (starts : Obeys step (Starts owns) pool moves) :
    Sound invariant owns (run step pool moves) :=
  run_invariant (fun _ _ before start => move_sound guarantee before start) sound starts

/-! ## Critical sections -/

variable (step)

/-- No thread starts in the critical section, and none enters it while another is inside. -/
def EntersAlone (busy : Local -> Bool) (pool : Pool Shared Local) : Move Local Input -> Prop
  | .spawn thread => busy thread = false
  | .advance index input => ∀ thread ∈ pool.threads[index]?, busy thread = false ->
      busy (step pool.shared thread input).2 = true -> ∀ other ∈ pool.threads, busy other = false

instance (busy : Local -> Bool) (pool : Pool Shared Local) (next : Move Local Input) :
    Decidable (EntersAlone step busy pool next) :=
  match next with
  | .spawn thread => inferInstanceAs (Decidable (busy thread = false))
  | .advance index input => inferInstanceAs (Decidable (∀ thread ∈ pool.threads[index]?, busy thread = false ->
      busy (step pool.shared thread input).2 = true -> ∀ other ∈ pool.threads, busy other = false))

/-- No two threads are in the critical section. -/
def AtMostOne (busy : Local -> Bool) (threads : List Local) : Prop :=
  forall (first second : Nat) (one other : Local), threads[first]? = some one -> threads[second]? = some other ->
    busy one = true -> busy other = true -> first = second

variable {step}

theorem move_atMostOne {busy : Local -> Bool} {pool : Pool Shared Local} {next : Move Local Input}
    (single : AtMostOne busy pool.threads) (alone : EntersAlone step busy pool next) :
    AtMostOne busy (move step pool next).threads := by
  -- a busy thread was busy before, or has just entered
  have origin : forall (place : Nat) (thread : Local), (move step pool next).threads[place]? = some thread ->
      busy thread = true -> (∃ before, pool.threads[place]? = some before ∧ busy before = true) ∨
        ((∃ input, next = .advance place input) ∧ ∀ other ∈ pool.threads, busy other = false) := by
    intro place thread found isBusy
    rcases getElem?_move found with old | ⟨rfl, -⟩ | ⟨input, before, rfl, held, rfl⟩
    · exact Or.inl ⟨thread, old, isBusy⟩
    · rw [EntersAlone] at alone
      rw [alone] at isBusy
      cases isBusy
    · cases wasBusy : busy before with
      | true => exact Or.inl ⟨before, held, wasBusy⟩
      | false => exact Or.inr ⟨⟨input, rfl⟩, alone before held wasBusy isBusy⟩
  intro first second one other foundOne foundOther isBusy otherBusy
  rcases origin first one foundOne isBusy with ⟨before, held, wasBusy⟩ | ⟨⟨input, moved⟩, none⟩
  · rcases origin second other foundOther otherBusy with ⟨past, pastHeld, pastBusy⟩ | ⟨-, none⟩
    · exact single first second before past held pastHeld wasBusy pastBusy
    · rw [none before (List.mem_of_getElem? held)] at wasBusy
      cases wasBusy
  · rcases origin second other foundOther otherBusy with ⟨past, pastHeld, pastBusy⟩ | ⟨⟨otherInput, alsoMoved⟩, -⟩
    · rw [none past (List.mem_of_getElem? pastHeld)] at pastBusy
      cases pastBusy
    · rw [moved] at alsoMoved
      cases alsoMoved
      rfl

/-- `Guarantee` for threads that are never both in the critical section. -/
structure Guarded (step : Shared -> Local -> Input -> Shared × Local) (busy : Local -> Bool)
    (invariant : Shared -> Prop) (owns : Shared -> Local -> Prop) : Prop where
  keeps : forall shared thread input, invariant shared -> owns shared thread ->
    invariant (step shared thread input).1 ∧ owns (step shared thread input).1 (step shared thread input).2
  stable : forall shared thread input other, invariant shared -> owns shared thread -> owns shared other ->
    (busy thread = true -> busy other = false) -> owns (step shared thread input).1 other

/-- A new thread owns what it has to, and threads enter alone. -/
def StartsAlone (step : Shared -> Local -> Input -> Shared × Local) (busy : Local -> Bool)
    (owns : Shared -> Local -> Prop) (pool : Pool Shared Local) (next : Move Local Input) : Prop :=
  Starts owns pool next ∧ EntersAlone step busy pool next

theorem run_guarded {busy : Local -> Bool} {invariant : Shared -> Prop} {owns : Shared -> Local -> Prop}
    (guarded : Guarded step busy invariant owns) {pool : Pool Shared Local} {moves : List (Move Local Input)}
    (sound : Sound invariant owns pool) (single : AtMostOne busy pool.threads)
    (starts : Obeys step (StartsAlone step busy owns) pool moves) :
    Sound invariant owns (run step pool moves) ∧ AtMostOne busy (run step pool moves).threads := by
  refine @run_invariant _ _ _ step _ (fun pool => Sound invariant owns pool ∧ AtMostOne busy pool.threads) ?_ _ _
    ⟨sound, single⟩ starts
  rintro pool next ⟨sound, single⟩ ⟨start, alone⟩
  refine ⟨?_, move_atMostOne single alone⟩
  apply move_keeps sound
  · rintro thread rfl
    exact sound_spawn sound start
  · rintro index input thread rfl found
    have owned := sound.2 thread (List.mem_of_getElem? found)
    apply sound_advance found (guarded.keeps pool.shared thread input sound.1 owned)
    intro place other elsewhere holds
    apply guarded.stable _ _ _ _ sound.1 owned (sound.2 other (List.mem_of_getElem? holds))
    intro isBusy
    by_contra otherBusy
    exact elsewhere (single place index other thread holds found (Bool.of_not_eq_false otherBusy) isBusy)

end Semantics

end Threads
end Lib
end QuietHop
