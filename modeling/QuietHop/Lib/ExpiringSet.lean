import Mathlib.Data.List.Pairwise

namespace QuietHop
namespace Lib

/-!
# A set whose members expire

Keys are kept with the time they were inserted.  An attempt on a key first drops
every member that is `ttl` or more old, and then inserts the key unless it is
still there.  Read as a filter on attempts, the set admits an attempt exactly when
no attempt on the same key was admitted within the last `ttl`, although it only
remembers the members that have not expired yet.
-/

/-- Keys with the time each of them was inserted. -/
abbrev ExpiringSet (Key : Type) := List (Key × Nat)

namespace ExpiringSet

variable {Key : Type}

/-- Drop every member that is `ttl` or more old. -/
def retain (ttl now : Nat) (set : ExpiringSet Key) : ExpiringSet Key :=
  set.filter fun member => decide (now - member.2 < ttl)

def containsKey [DecidableEq Key] (set : ExpiringSet Key) (key : Key) : Bool :=
  set.any fun member => decide (member.1 = key)

/-- Evict, look the key up, and insert it when it is absent.  The flag tells whether
it was inserted. -/
def enter [DecidableEq Key] (ttl now : Nat) (key : Key) (set : ExpiringSet Key) : Bool × ExpiringSet Key :=
  let kept := retain ttl now set
  if containsKey kept key then (false, kept) else (true, (key, now) :: kept)

/-- One attempt on a key, as it was decided. -/
structure Attempt (Key : Type) where
  key : Key
  time : Nat
  admitted : Bool
  deriving DecidableEq

/-- A set in use: its members, the clock, and the attempts made so far, oldest
first. -/
structure Session (Key : Type) where
  set : ExpiringSet Key
  clock : Nat
  attempts : List (Attempt Key)

namespace Session

def fresh (clock : Nat) : Session Key :=
  ⟨[], clock, []⟩

/-- Let some time pass and try one key. -/
def attempt [DecidableEq Key] (ttl elapsed : Nat) (key : Key) (session : Session Key) : Session Key :=
  let now := session.clock + elapsed
  let outcome := enter ttl now key session.set
  ⟨outcome.2, now, session.attempts ++ [⟨key, now, outcome.1⟩]⟩

end Session

/-- Every admission of `key` among the attempts is at least `ttl` old. -/
def Rested (ttl now : Nat) (key : Key) (attempts : List (Attempt Key)) : Prop :=
  ∀ earlier ∈ attempts, earlier.admitted = true -> earlier.key = key -> earlier.time + ttl ≤ now

/-- Each attempt was admitted exactly when its key had rested. -/
def Decided (ttl : Nat) (attempts : List (Attempt Key)) : Prop :=
  forall before attempt after, attempts = before ++ attempt :: after ->
    (attempt.admitted = true ↔ Rested ttl attempt.time attempt.key before)

/-- The members are admissions, and no admission is missing that has not expired. -/
structure Tracks (ttl : Nat) (session : Session Key) : Prop where
  admission : ∀ member ∈ session.set, ⟨member.1, member.2, true⟩ ∈ session.attempts
  live : ∀ earlier ∈ session.attempts, earlier.admitted = true ->
    session.clock < earlier.time + ttl -> (earlier.key, earlier.time) ∈ session.set
  past : ∀ earlier ∈ session.attempts, earlier.time ≤ session.clock

theorem decided_concat {ttl : Nat} {attempts : List (Attempt Key)} {attempt : Attempt Key}
    (decided : Decided ttl attempts)
    (last : attempt.admitted = true ↔ Rested ttl attempt.time attempt.key attempts) :
    Decided ttl (attempts ++ [attempt]) := by
  intro before other after split
  rcases List.eq_nil_or_concat after with empty | ⟨initial, final, ends⟩
  · subst empty
    rcases List.append_inj' split rfl with ⟨same, one⟩
    rw [← same, ← List.head_eq_of_cons_eq one]
    exact last
  · subst ends
    rw [List.concat_eq_append, ← List.cons_append, ← List.append_assoc] at split
    exact decided before other initial (List.append_inj' split rfl).1

theorem mem_retain {ttl now : Nat} {set : ExpiringSet Key} {member : Key × Nat} :
    member ∈ retain ttl now set ↔ member ∈ set ∧ now - member.2 < ttl := by
  simp [retain]

/-- Tracking and correct decisions together, which is what one attempt preserves. -/
structure Sound (ttl : Nat) (session : Session Key) : Prop where
  tracks : Tracks ttl session
  decided : Decided ttl session.attempts

theorem sound_fresh (ttl clock : Nat) : Sound ttl (Session.fresh clock : Session Key) := by
  constructor
  · constructor <;> simp [Session.fresh]
  · intro before attempt after split
    simp [Session.fresh] at split

variable [DecidableEq Key]

theorem containsKey_iff {set : ExpiringSet Key} {key : Key} :
    containsKey set key = true ↔ ∃ time, (key, time) ∈ set := by
  simp [containsKey]

variable {ttl now : Nat} {session : Session Key}

/-- What is left after eviction answers for the whole history. -/
theorem Tracks.contains_retain (tracks : Tracks ttl session) (later : session.clock ≤ now) (key : Key) :
    containsKey (retain ttl now session.set) key = false ↔ Rested ttl now key session.attempts := by
  rw [← Bool.not_eq_true, containsKey_iff]
  constructor
  · intro absent earlier member admitted same
    subst same
    have past := tracks.past earlier member
    apply Nat.le_of_not_lt
    intro recent
    have held := tracks.live earlier member admitted (Nat.lt_of_le_of_lt later recent)
    exact absent ⟨earlier.time, mem_retain.mpr ⟨held, by omega⟩⟩
  · rintro rested ⟨time, held⟩
    rcases mem_retain.mp held with ⟨member, recent⟩
    have old := rested _ (tracks.admission _ member) rfl rfl
    have past := tracks.past _ (tracks.admission _ member)
    simp only at old past recent
    omega

theorem Tracks.enter_iff (tracks : Tracks ttl session) (later : session.clock ≤ now) (key : Key) :
    (enter ttl now key session.set).1 = true ↔ Rested ttl now key session.attempts := by
  rw [← tracks.contains_retain later key, enter]
  cases containsKey (retain ttl now session.set) key <;> simp

theorem mem_enter {key : Key} {set : ExpiringSet Key} {member : Key × Nat} :
    member ∈ (enter ttl now key set).2 ↔
      member ∈ retain ttl now set ∨ ((enter ttl now key set).1 = true ∧ member = (key, now)) := by
  rw [enter]
  cases containsKey (retain ttl now set) key <;> simp [or_comm]

theorem Tracks.attempt (tracks : Tracks ttl session) (elapsed : Nat) (key : Key) :
    Tracks ttl (session.attempt ttl elapsed key) := by
  constructor
  · intro member held
    rcases mem_enter.mp held with kept | ⟨admitted, new⟩
    · exact List.mem_append_left _ (tracks.admission member (mem_retain.mp kept).1)
    · subst new
      exact List.mem_append_right _ (by simp [admitted])
  · intro earlier member admitted recent
    apply mem_enter.mpr
    rcases List.mem_append.mp member with old | new
    · -- an admission that is still live at the later time was live before
      have later : session.clock ≤ session.clock + elapsed := Nat.le_add_right _ _
      have past := tracks.past earlier old
      have held := tracks.live earlier old admitted (Nat.lt_of_le_of_lt later recent)
      have young : session.clock + elapsed < earlier.time + ttl := recent
      exact .inl (mem_retain.mpr ⟨held, by simp only; omega⟩)
    · rw [List.mem_singleton.mp new] at admitted ⊢
      exact .inr ⟨admitted, rfl⟩
  · intro earlier member
    rcases List.mem_append.mp member with old | new
    · exact Nat.le_trans (tracks.past earlier old) (Nat.le_add_right _ _)
    · rw [List.mem_singleton.mp new]
      exact Nat.le_refl _

theorem Sound.attempt (sound : Sound ttl session) (elapsed : Nat) (key : Key) :
    Sound ttl (session.attempt ttl elapsed key) := by
  refine ⟨sound.tracks.attempt elapsed key, decided_concat sound.decided ?_⟩
  exact sound.tracks.enter_iff (Nat.le_add_right _ _) key

end ExpiringSet
end Lib
end QuietHop
