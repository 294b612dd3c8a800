import Mathlib.Order.Basic
import QuietHop.Authority.Publishing

namespace QuietHop
namespace Authority

open Lib Lib.Threads

/-!
# Versions served over time by one publisher

The hour of a document and the copy of it in memory are set by separate steps.  A call that
was slow between the two overwrites the copy of a later hour with its own, and if the database
then fails, a new call serves the older document.

It takes such an overtaking: as long as every call that updates the copy does so with an hour
no earlier than the one already there, what is served never goes back.
-/

/-- The times at which calls start, in order. -/
def startTimes (moves : List (Move Call Reply)) : List Int :=
  moves.filterMap fun
    | .spawn call => some call.now
    | .advance _ _ => none

/-- All calls are made to one publisher. -/
def OfPublisher (publisher : Nat) : Move Call Reply -> Prop
  | .spawn call => call.publisher = publisher
  | .advance _ _ => True

/-- The copy in memory is not replaced by one of an earlier hour. -/
def RemembersInOrder (pool : Pool Store Call) : Move Call Reply -> Prop
  | .spawn _ => True
  | .advance index _ => ∀ call ∈ pool.threads[index]?, call.phase.isRemembering ->
      ∀ memory ∈ pool.shared.memory call.publisher, memory.lastTil ≤ call.hour + validWindow

instance (pool : Pool Store Call) (next : Move Call Reply) : Decidable (RemembersInOrder pool next) :=
  match next with
  | .spawn _ => isTrue trivial
  | .advance index _ => inferInstanceAs (Decidable (∀ call ∈ pool.threads[index]?, call.phase.isRemembering ->
      ∀ memory ∈ pool.shared.memory call.publisher, memory.lastTil ≤ call.hour + validWindow))

variable (env : Env)

/-- No call that starts after another one returned serves a lower version. -/
def ServesForward (readDocument : Bytes -> Option Document) (before after : List (Move Call Reply)) : Prop :=
  forall call later doc sigs laterDoc laterSigs document laterDocument (place laterPlace : Nat),
    (publishers env before).threads[place]? = some call -> call.phase = .done (.ok (doc, sigs)) ->
    (publishers env before).threads.length ≤ laterPlace ->
    (publishers env (before ++ after)).threads[laterPlace]? = some later ->
    later.phase = .done (.ok (laterDoc, laterSigs)) -> readDocument doc = some document ->
    readDocument laterDoc = some laterDocument -> document.version ≤ laterDocument.version

variable {env}

theorem step_now (store : Store) (call : Call) (reply : Reply) :
    (step env store call reply).2.now = call.now := by
  rcases step_acts store call reply with ⟨after, phase, equal, -⟩
  rw [equal]

/-- When each call started. -/
def times (pool : Pool Store Call) : List Int := pool.threads.map Call.now

/-- The copy in memory is replaced only by one that is valid for as long. -/
theorem Acts.memory_forward {store after : Store} {call : Call} {phase : Phase}
    (acts : Acts env store call after phase)
    (inOrder : call.phase.isRemembering ->
      ∀ memory ∈ store.memory call.publisher, memory.lastTil ≤ call.hour + validWindow)
    {memory : Memory} (held : memory ∈ store.memory call.publisher) :
    ∃ later ∈ after.memory call.publisher, memory.lastTil ≤ later.lastTil := by
  cases acts with
  | remembers doc sigs isRemembering =>
      exact ⟨_, Store.remember_memory_self .., inOrder (by rw [isRemembering]; rfl) memory held⟩
  | _ => exact ⟨memory, held, le_rfl⟩

/-- A call serves what it has just remembered, or the copy in memory; a call that had served
a document before is the third case. -/
theorem Acts.done_ok {store after : Store} {call : Call} {doc : Bytes} {sigs : List Signature}
    (consistent : Consistent env store) (owned : Owns env store call)
    (acts : Acts env store call after (.done (.ok (doc, sigs)))) :
    (Stored env store.table call.hour doc sigs ∧
        ∃ memory ∈ after.memory call.publisher, memory.lastTil = call.hour + validWindow) ∨
      (after = store ∧ ∃ memory ∈ store.memory call.publisher, ∃ hour, Stored env store.table hour doc sigs ∧
        memory.lastTil = hour + validWindow) ∨
      (after = store ∧ call.phase = .done (.ok (doc, sigs))) := by
  cases acts with
  | remembers doc sigs isRemembering =>
      rw [Owns, isRemembering] at owned
      exact Or.inl ⟨owned, _, Store.remember_memory_self .., rfl⟩
  | recalls doc sigs e isFallingBack kept =>
      rcases cached_some kept with ⟨memory, held, rfl, rfl, -⟩
      rcases consistent.memory call.publisher memory held with ⟨hour, stored, til⟩
      exact Or.inr (Or.inl ⟨rfl, memory, held, hour, stored, til⟩)
  | stays result isDone => exact Or.inr (Or.inr ⟨rfl, isDone⟩)

/-! ## Until a call returns -/

variable (env)

/-- The copy in memory, and every document served, is of an hour in which a call started; the
copy is no older than what was served. -/
structure Forward (publisher : Nat) (pool : Pool Store Call) : Prop where
  sound : Sound (Consistent env) (Owns env) pool
  one : ∀ call ∈ pool.threads, call.publisher = publisher
  memory : ∀ memory ∈ pool.shared.memory publisher, ∃ time ∈ times pool, memory.lastTil = hourOf time + validWindow
  served : ∀ call ∈ pool.threads, forall doc sigs, call.phase = .done (.ok (doc, sigs)) ->
    ∃ time ∈ times pool, Stored env pool.shared.table (hourOf time) doc sigs ∧
      ∃ memory ∈ pool.shared.memory publisher, hourOf time + validWindow ≤ memory.lastTil

variable {env}

theorem Forward.spawn {publisher : Nat} {pool : Pool Store Call} {call : Call} (forward : Forward env publisher pool)
    (isStart : call.phase = .loading) (isOne : call.publisher = publisher)
    (sound : Sound (Consistent env) (Owns env) (move (step env) pool (.spawn call))) :
    Forward env publisher (move (step env) pool (.spawn call)) := by
  have grows : times pool ⊆ times (move (step env) pool (.spawn call)) := by
    simp [times, move]
  refine ⟨sound, ?_, ?_, ?_⟩
  · intro other member
    rcases mem_spawn member with old | rfl
    · exact forward.one other old
    · exact isOne
  · intro memory held
    rcases forward.memory memory held with ⟨time, inside, til⟩
    exact ⟨time, grows inside, til⟩
  · intro other member doc sigs isDone
    rcases mem_spawn member with old | rfl
    · rcases forward.served other old doc sigs isDone with ⟨time, inside, rest⟩
      exact ⟨time, grows inside, rest⟩
    · rw [isStart] at isDone
      cases isDone

theorem Forward.advance {readDocument : Bytes -> Option Document} (reads : env.ReadsBack readDocument)
    {publisher : Nat} {pool : Pool Store Call} {index : Nat} {reply : Reply} {call : Call}
    (forward : Forward env publisher pool) (found : pool.threads[index]? = some call)
    (inOrder : RemembersInOrder pool (.advance index reply))
    (sound : Sound (Consistent env) (Owns env) (move (step env) pool (.advance index reply))) :
    Forward env publisher (move (step env) pool (.advance index reply)) := by
  have sameTimes : times (move (step env) pool (.advance index reply)) = times pool :=
    map_label_advance step_now pool index reply
  have inside : call ∈ pool.threads := List.mem_of_getElem? found
  have owned := forward.sound.2 call inside
  have isOne := forward.one call inside
  have ownTime : call.now ∈ times pool := List.mem_map_of_mem inside
  rcases @step_acts env pool.shared call reply with ⟨after, phase, equal, acts⟩
  have grows := acts.grows reads forward.sound.1 owned
  have onward : ∀ memory ∈ pool.shared.memory call.publisher, ∃ later ∈ after.memory call.publisher,
      memory.lastTil ≤ later.lastTil := fun _ => acts.memory_forward (inOrder call found)
  rw [isOne] at onward
  have moved : move (step env) pool (.advance index reply) =
      ⟨after, pool.threads.set index { call with phase := phase }⟩ := by
    rw [move_advance found, equal]
  rw [moved] at sound sameTimes ⊢
  refine ⟨sound, ?_, ?_, ?_⟩
  · intro other member
    rcases List.mem_or_eq_of_mem_set member with old | rfl
    · exact forward.one other old
    · exact isOne
  · rw [sameTimes]
    cases acts with
    | remembers doc sigs isRemembering =>
        intro memory held
        rw [← isOne, Store.remember_memory_self] at held
        cases held
        exact ⟨call.now, ownTime, rfl⟩
    | _ => exact forward.memory
  · rw [sameTimes]
    intro other member doc sigs isDone
    have persists : ∀ past ∈ pool.threads, past.phase = .done (.ok (doc, sigs)) ->
        ∃ time ∈ times pool, Stored env after.table (hourOf time) doc sigs ∧
          ∃ memory ∈ after.memory publisher, hourOf time + validWindow ≤ memory.lastTil := by
      intro past pastInside pastDone
      rcases forward.served past pastInside doc sigs pastDone with ⟨time, timed, stored, memory, held, below⟩
      rcases onward memory held with ⟨later, laterHeld, above⟩
      exact ⟨time, timed, stored.mono grows, later, laterHeld, below.trans above⟩
    rcases List.mem_or_eq_of_mem_set member with old | rfl
    · exact persists other old isDone
    · change phase = _ at isDone
      subst isDone
      rcases acts.done_ok forward.sound.1 owned with
        ⟨stored, memory, held, til⟩ | ⟨rfl, memory, held, hour, stored, til⟩ | ⟨rfl, wasDone⟩
      · rw [isOne] at held
        exact ⟨call.now, ownTime, stored.mono grows, memory, held, til.ge⟩
      · rw [isOne] at held
        rcases forward.memory memory held with ⟨time, timed, sameTil⟩
        have sameHour : hour = hourOf time := by omega
        subst sameHour
        exact ⟨time, timed, stored, memory, held, til.ge⟩
      · exact persists call inside wasDone

theorem publishers_forward {readDocument : Bytes -> Option Document} (reads : env.ReadsBack readDocument)
    {publisher : Nat} {moves : List (Move Call Reply)} (begins : ∀ next ∈ moves, Begins next)
    (one : ∀ next ∈ moves, OfPublisher publisher next)
    (inOrder : Obeys (step env) RemembersInOrder ⟨emptyStore, []⟩ moves) :
    Forward env publisher (publishers env moves) := by
  have initially : Forward env publisher ⟨emptyStore, []⟩ := by
    refine ⟨⟨emptyStore_consistent, by simp⟩, by simp, by simp [emptyStore], by simp⟩
  have conditions := obeys_and (obeys_of_forall (fun _ next member => And.intro (begins next member) (one next member))
    ⟨emptyStore, []⟩) inOrder
  apply run_invariant ?_ initially conditions
  rintro pool next forward ⟨⟨isStart, isOne⟩, remembers⟩
  have sound := move_sound (step_guarantee reads) forward.sound (starts_of_begins isStart)
  apply move_keeps forward
  · rintro call rfl
    exact forward.spawn isStart isOne sound
  · rintro index reply call rfl found
    exact forward.advance reads found remembers sound

/-! ## From then on -/

variable (env)

/-- The copy in memory is no older than a given hour, and the calls in the places from `start`
on neither run in an earlier hour nor serve a document of one. -/
structure Since (publisher : Nat) (hour : Int) (start : Nat) (pool : Pool Store Call) : Prop where
  sound : Sound (Consistent env) (Owns env) pool
  one : ∀ call ∈ pool.threads, call.publisher = publisher
  memory : ∃ memory ∈ pool.shared.memory publisher, hour + validWindow ≤ memory.lastTil
  later : forall place call, start ≤ place -> pool.threads[place]? = some call -> hour ≤ call.hour
  served : forall place call doc sigs, start ≤ place -> pool.threads[place]? = some call ->
    call.phase = .done (.ok (doc, sigs)) -> ∃ served, hour ≤ served ∧ Stored env pool.shared.table served doc sigs

/-- A call that starts in no earlier hour. -/
def NotBefore (hour : Int) : Move Call Reply -> Prop
  | .spawn call => hour ≤ call.hour
  | .advance _ _ => True

variable {env}

theorem Since.spawn {publisher : Nat} {hour : Int} {start : Nat} {pool : Pool Store Call} {call : Call}
    (since : Since env publisher hour start pool) (isStart : call.phase = .loading)
    (isOne : call.publisher = publisher) (notBefore : hour ≤ call.hour)
    (sound : Sound (Consistent env) (Owns env) (move (step env) pool (.spawn call))) :
    Since env publisher hour start (move (step env) pool (.spawn call)) := by
  have origin : forall (place : Nat) (other : Call),
      (move (step env) pool (.spawn call)).threads[place]? = some other -> pool.threads[place]? = some other ∨ other = call := by
    intro place other found
    rcases getElem?_move found with old | ⟨same, -⟩ | ⟨_, _, absurd, -⟩
    · exact Or.inl old
    · cases same
      exact Or.inr rfl
    · cases absurd
  refine ⟨sound, ?_, since.memory, ?_, ?_⟩
  · intro other member
    rcases mem_spawn member with old | rfl
    · exact since.one other old
    · exact isOne
  · intro place other bound found
    rcases origin place other found with old | rfl
    · exact since.later place other bound old
    · exact notBefore
  · intro place other doc sigs bound found isDone
    rcases origin place other found with old | rfl
    · exact since.served place other doc sigs bound old isDone
    · rw [isStart] at isDone
      cases isDone

theorem Since.advance {readDocument : Bytes -> Option Document} (reads : env.ReadsBack readDocument)
    {publisher : Nat} {hour : Int} {start : Nat} {pool : Pool Store Call} {index : Nat} {reply : Reply} {call : Call}
    (since : Since env publisher hour start pool) (found : pool.threads[index]? = some call)
    (inOrder : RemembersInOrder pool (.advance index reply))
    (sound : Sound (Consistent env) (Owns env) (move (step env) pool (.advance index reply))) :
    Since env publisher hour start (move (step env) pool (.advance index reply)) := by
  have inside : call ∈ pool.threads := List.mem_of_getElem? found
  have owned := since.sound.2 call inside
  have isOne := since.one call inside
  rcases @step_acts env pool.shared call reply with ⟨after, phase, equal, acts⟩
  have grows := acts.grows reads since.sound.1 owned
  have moved : move (step env) pool (.advance index reply) =
      ⟨after, pool.threads.set index { call with phase := phase }⟩ := by
    rw [move_advance found, equal]
  rw [moved] at sound ⊢
  refine ⟨sound, ?_, ?_, ?_, ?_⟩
  · intro other member
    rcases List.mem_or_eq_of_mem_set member with old | rfl
    · exact since.one other old
    · exact isOne
  · rcases since.memory with ⟨memory, held, below⟩
    rw [← isOne] at held
    rcases acts.memory_forward (inOrder call found) held with ⟨later, laterHeld, above⟩
    rw [isOne] at laterHeld
    exact ⟨later, laterHeld, below.trans above⟩
  · intro place other bound holds
    rcases getElem?_set_cases found holds with ⟨rfl, rfl⟩ | ⟨-, old⟩
    · exact since.later place call bound found
    · exact since.later place other bound old
  · intro place other doc sigs bound holds isDone
    rcases getElem?_set_cases found holds with ⟨rfl, rfl⟩ | ⟨-, old⟩
    · change phase = _ at isDone
      subst isDone
      rcases acts.done_ok since.sound.1 owned with
        ⟨stored, -⟩ | ⟨rfl, memory, held, kept, stored, til⟩ | ⟨rfl, wasDone⟩
      · exact ⟨call.hour, since.later place call bound found, stored.mono grows⟩
      · rcases since.memory with ⟨same, sameHeld, below⟩
        rw [isOne] at held
        have equalCopy : same = memory := Option.some.inj (sameHeld.symm.trans held)
        subst equalCopy
        exact ⟨kept, by omega, stored⟩
      · exact since.served place call doc sigs bound found wasDone
    · rcases since.served place other doc sigs bound old isDone with ⟨served, notEarlier, stored⟩
      exact ⟨served, notEarlier, stored.mono grows⟩

theorem run_since {readDocument : Bytes -> Option Document} (reads : env.ReadsBack readDocument)
    {publisher : Nat} {hour : Int} {start : Nat} {pool : Pool Store Call} {moves : List (Move Call Reply)}
    (since : Since env publisher hour start pool) (begins : ∀ next ∈ moves, Begins next)
    (one : ∀ next ∈ moves, OfPublisher publisher next) (notBefore : ∀ next ∈ moves, NotBefore hour next)
    (inOrder : Obeys (step env) RemembersInOrder pool moves) :
    Since env publisher hour start (run (step env) pool moves) := by
  have conditions := obeys_and (obeys_of_forall (fun _ next member =>
    And.intro (begins next member) (And.intro (one next member) (notBefore next member))) pool) inOrder
  apply run_invariant ?_ since conditions
  rintro pool next since ⟨⟨isStart, isOne, late⟩, remembers⟩
  have sound := move_sound (step_guarantee reads) since.sound (starts_of_begins isStart)
  apply move_keeps since
  · rintro call rfl
    exact since.spawn isStart isOne late sound
  · rintro index reply call rfl found
    exact since.advance reads found remembers sound

/-! ## Served versions -/

/-- Calls of a run that starts empty started in it. -/
theorem mem_startTimes {moves : List (Move Call Reply)} {time : Int}
    (member : time ∈ times (publishers env moves)) : time ∈ startTimes moves := by
  rcases List.mem_map.mp member with ⟨call, inside, rfl⟩
  rcases mem_run_label step_now inside with ⟨_, none, -⟩ | ⟨first, spawned, same⟩
  · cases none
  · exact List.mem_filterMap.mpr ⟨_, spawned, congrArg some same⟩

variable (env)

/-- Where the copy in memory is replaced in the order of hours, one publisher never serves a
lower version to a call that starts after it has served a higher one. -/
theorem serves_forward {readDocument : Bytes -> Option Document} (reads : env.ReadsBack readDocument)
    (publisher : Nat) (before after : List (Move Call Reply)) (begins : ∀ next ∈ before ++ after, Begins next)
    (one : ∀ next ∈ before ++ after, OfPublisher publisher next)
    (ordered : (startTimes (before ++ after)).Pairwise (· ≤ ·))
    (inOrder : Obeys (step env) RemembersInOrder ⟨emptyStore, []⟩ (before ++ after)) :
    ServesForward env readDocument before after := by
  intro call later doc sigs laterDoc laterSigs document laterDocument place laterPlace found isDone started laterFound
    laterDone read laterRead
  rcases obeys_append.mp inOrder with ⟨beforeInOrder, afterInOrder⟩
  have forward := publishers_forward reads (fun next member => begins next (List.mem_append_left _ member))
    (fun next member => one next (List.mem_append_left _ member)) beforeInOrder
  rcases forward.served call (List.mem_of_getElem? found) doc sigs isDone with ⟨time, timed, stored, fresh⟩
  have notBefore : ∀ next ∈ after, NotBefore (hourOf time) next := by
    intro next member
    cases next with
    | advance index reply => trivial
    | spawn new =>
        rw [startTimes, List.filterMap_append] at ordered
        have laterTime : new.now ∈ startTimes after := List.mem_filterMap.mpr ⟨_, member, rfl⟩
        exact hourOf_mono ((List.pairwise_append.mp ordered).2.2 time (mem_startTimes timed) new.now laterTime)
  have since : Since env publisher (hourOf time) (publishers env before).threads.length (publishers env before) := by
    refine ⟨forward.sound, forward.one, fresh, ?_, ?_⟩
    · intro other call bound holds
      have inside := (List.getElem?_eq_some_iff.mp holds).1
      omega
    · intro other call doc sigs bound holds
      have inside := (List.getElem?_eq_some_iff.mp holds).1
      omega
  have final := run_since reads since (fun next member => begins next (List.mem_append_right _ member))
    (fun next member => one next (List.mem_append_right _ member)) notBefore afterInOrder
  have joined : publishers env (before ++ after) = run (step env) (publishers env before) after := run_append ..
  rw [joined] at laterFound
  rcases final.served laterPlace later laterDoc laterSigs started laterFound laterDone with
    ⟨served, notEarlier, laterStored⟩
  have hour := stored.version reads forward.sound.1.table read
  have laterHour := laterStored.version reads final.sound.1.table laterRead
  rw [nanosPerHour_eq] at hour laterHour
  omega

namespace Sample

/-- A call of the first hour stores its document and stops short of remembering it, while one
of the second hour runs to its return. -/
def overtaken : List (Move Call Reply) :=
  (wholeCall 0 (secondHour - 1)).take 4 ++ wholeCall 1 secondHour

/-- The slow call remembers and returns; then the database fails. -/
def overwrites : List (Move Call Reply) :=
  .advance 0 (.completes []) :: failingCall 2 secondHour

end Sample

/-- After the version of the second hour was served, a later call serves that of the first. -/
theorem serves_backward :
    Sample.codec.ReadsBack Sample.readDocument ∧ (∀ next ∈ Sample.overtaken ++ Sample.overwrites, Begins next) ∧
      (∀ next ∈ Sample.overtaken ++ Sample.overwrites, OfPublisher 0 next) ∧
      (startTimes (Sample.overtaken ++ Sample.overwrites)).Pairwise (· ≤ ·) ∧
      ¬ ServesForward Sample.codec Sample.readDocument Sample.overtaken Sample.overwrites := by
  refine ⟨Sample.readsBack, ?_, ?_, by decide, ?_⟩
  · simp [Sample.overtaken, Sample.overwrites, Sample.wholeCall, Sample.failingCall, Begins]
  · simp [Sample.overtaken, Sample.overwrites, Sample.wholeCall, Sample.failingCall, OfPublisher]
  · intro forward
    have returned : (publishers Sample.codec Sample.overtaken).threads[1]? =
        some ⟨0, Sample.secondHour, .done (.ok (Sample.secondBytes, [Sample.signature 0]))⟩ := by decide +kernel
    have served : (publishers Sample.codec (Sample.overtaken ++ Sample.overwrites)).threads[2]? =
        some ⟨0, Sample.secondHour, .done (.ok (Sample.firstBytes, [Sample.signature 0]))⟩ := by decide +kernel
    have backward := forward _ _ _ _ _ _ (documentFor Sample.secondHour []) (documentFor Sample.firstHour []) 1 2
      returned rfl (by decide +kernel) served rfl (by decide +kernel) (by decide +kernel)
    exact absurd backward (by decide)

/-- When the calls return in the order of their hours, the outage serves the later document. -/
theorem serves_forward_in_order :
    Obeys (step Sample.codec) RemembersInOrder ⟨emptyStore, []⟩
        ((Sample.wholeCall 0 Sample.firstHour ++ Sample.wholeCall 1 Sample.secondHour) ++
          Sample.failingCall 2 Sample.secondHour) ∧
      ServesForward Sample.codec Sample.readDocument
        (Sample.wholeCall 0 Sample.firstHour ++ Sample.wholeCall 1 Sample.secondHour)
        (Sample.failingCall 2 Sample.secondHour) := by
  have inOrder : Obeys (step Sample.codec) RemembersInOrder ⟨emptyStore, []⟩
      ((Sample.wholeCall 0 Sample.firstHour ++ Sample.wholeCall 1 Sample.secondHour) ++
        Sample.failingCall 2 Sample.secondHour) := by decide +kernel
  refine ⟨inOrder, serves_forward Sample.codec Sample.readsBack 0 _ _ ?_ ?_ (by decide) inOrder⟩
  · simp [Sample.wholeCall, Sample.failingCall, Begins]
  · simp [Sample.wholeCall, Sample.failingCall, OfPublisher]

end Authority
end QuietHop
