import Mathlib.Data.Finset.Card
import Mathlib.Data.List.AList
import QuietHop.Authority.Login

namespace QuietHop
namespace Authority

/-!
# How large the limiter's table gets

The limiter keeps its attempts in a map, and `check` deletes the entry of the address it is asked
about once no recent attempt is left there.  Nothing else is ever deleted: the entry of an
address that failed and never comes back stays.  The table is as small as it is meant to be at
a check exactly when no other address has such an entry, and this can be read off the calls
made so far.
-/

/-- The limiter with its map.  `RateLimiter` is the same without the keys. -/
structure AttemptTable where
  attempts : AList fun _ : String => List Int
  limit : Nat
  window : Int

def newAttemptTable (limit : Nat) (window : Int) : AttemptTable := ⟨∅, limit, window⟩

namespace AttemptTable

/-- Whether an address is below the limit.  An entry without recent attempts is deleted. -/
def check (r : AttemptTable) (ip : String) (now : Int) : AttemptTable × Bool :=
  let cutoff := now - r.window
  let arr := (r.attempts.lookup ip).getD []
  let fresh := arr.filter fun t => t > cutoff
  ({ r with attempts := if fresh.length = 0 then r.attempts.erase ip else r.attempts.insert ip fresh },
    fresh.length < r.limit)

def record (r : AttemptTable) (ip : String) (now : Int) : AttemptTable :=
  { r with attempts := r.attempts.insert ip ((r.attempts.lookup ip).getD [] ++ [now]) }

/-- The attempts of every address, with none for an address that has no entry. -/
def forget (r : AttemptTable) : RateLimiter :=
  ⟨fun ip => (r.attempts.lookup ip).getD [], r.limit, r.window⟩

section Lookup

variable (r : AttemptTable) (ip : String) (now : Int)

theorem lookup_check_self : (r.check ip now).1.attempts.lookup ip =
    if (((r.attempts.lookup ip).getD []).filter fun t => t > now - r.window).length = 0 then none
    else some (((r.attempts.lookup ip).getD []).filter fun t => t > now - r.window) := by
  simp only [check]
  split_ifs
  · exact AList.lookup_erase ip r.attempts
  · exact AList.lookup_insert r.attempts

theorem lookup_check_ne {other : String} (different : other ≠ ip) :
    (r.check ip now).1.attempts.lookup other = r.attempts.lookup other := by
  simp only [check]
  split_ifs
  · exact AList.lookup_erase_ne different
  · exact AList.lookup_insert_ne different

theorem lookup_record_self :
    (r.record ip now).attempts.lookup ip = some ((r.attempts.lookup ip).getD [] ++ [now]) :=
  AList.lookup_insert r.attempts

theorem lookup_record_ne {other : String} (different : other ≠ ip) :
    (r.record ip now).attempts.lookup other = r.attempts.lookup other :=
  AList.lookup_insert_ne different

/-- The map without its keys is the limiter of the login model. -/
theorem forget_check : (r.check ip now).1.forget = (r.forget.check ip now).1 ∧
    (r.check ip now).2 = (r.forget.check ip now).2 := by
  refine ⟨?_, rfl⟩
  have attempts : (r.check ip now).1.forget.attempts = (r.forget.check ip now).1.attempts := by
    funext other
    simp only [forget, RateLimiter.check]
    by_cases same : other = ip
    · subst same
      rw [Function.update_self, lookup_check_self]
      split_ifs with empty
      · exact (List.length_eq_zero_iff.mp empty).symm
      · rfl
    · rw [Function.update_of_ne same, lookup_check_ne r ip now same]
  exact congrArg (fun attempts => RateLimiter.mk attempts r.limit r.window) attempts

theorem forget_record : (r.record ip now).forget = r.forget.record ip now := by
  have attempts : (r.record ip now).forget.attempts = (r.forget.record ip now).attempts := by
    funext other
    simp only [forget, RateLimiter.record]
    by_cases same : other = ip
    · subst same
      rw [Function.update_self, lookup_record_self, Option.getD_some]
    · rw [Function.update_of_ne same, lookup_record_ne r ip now same]
  exact congrArg (fun attempts => RateLimiter.mk attempts r.limit r.window) attempts

end Lookup

/-! ## Calls -/

inductive Call where
  | check (ip : String) (now : Int)
  | record (ip : String) (now : Int)
  deriving DecidableEq, Repr

def Call.time : Call -> Int
  | .check _ now => now
  | .record _ now => now

def call (r : AttemptTable) : Call -> AttemptTable
  | .check ip now => (r.check ip now).1
  | .record ip now => r.record ip now

def calls (r : AttemptTable) (made : List Call) : AttemptTable :=
  made.foldl call r

/-- Every address with an entry has an attempt within the window. -/
def AllRecent (r : AttemptTable) (now : Int) : Prop :=
  ∀ ip ∈ r.attempts.keys, ∃ time ∈ (r.attempts.lookup ip).getD [], now - r.window < time

instance (r : AttemptTable) (now : Int) : Decidable (AllRecent r now) :=
  inferInstanceAs (Decidable (∀ ip ∈ r.attempts.keys, ∃ time ∈ (r.attempts.lookup ip).getD [], now - r.window < time))

/-- The last failure of an address, unless a check of that address came when it was no longer
recent. -/
def remembered (window : Int) (ip : String) (made : List Call) : Option Int :=
  made.foldl (fun last next =>
    match next with
    | .record other now => if other = ip then some now else last
    | .check other now => if other = ip then last.filter fun time => now - window < time else last) none

/-- The addresses with a failure within the window. -/
def recentIps (window now : Int) (made : List Call) : Finset String :=
  (made.filterMap fun next =>
    match next with
    | .record ip time => if now - window < time then some ip else none
    | .check _ _ => none).toFinset

/-! ## What an entry holds -/

/-- The entry of an address against what is remembered of it. -/
inductive Accounts (made : List Call) (clock : Int) (ip : String) : Option (List Int) -> Option Int -> Prop
  | absent : Accounts made clock ip none none
  | present {list : List Int} {last : Int} (inside : last ∈ list) (latest : ∀ time ∈ list, time ≤ last)
      (recorded : ∀ time ∈ list, Call.record ip time ∈ made) (past : last ≤ clock) :
      Accounts made clock ip (some list) (some last)

/-- Every entry accounts for its address. -/
def Tracks (r : AttemptTable) (made : List Call) (clock : Int) : Prop :=
  ∀ ip : String, Accounts made clock ip (r.attempts.lookup ip) (remembered r.window ip made)

theorem remembered_check (window : Int) (ip other : String) (made : List Call) (now : Int) :
    remembered window ip (made ++ [.check other now]) =
      if other = ip then (remembered window ip made).filter fun time => now - window < time
      else remembered window ip made := by
  rw [remembered, List.foldl_append]
  rfl

theorem remembered_record (window : Int) (ip other : String) (made : List Call) (now : Int) :
    remembered window ip (made ++ [.record other now]) =
      if other = ip then some now else remembered window ip made := by
  rw [remembered, List.foldl_append]
  rfl

section Step

variable {made : List Call} {clock : Int} {ip : String} {entry : Option (List Int)} {last : Option Int}

theorem Accounts.mono (accounts : Accounts made clock ip entry last) {more : List Call} (subset : made ⊆ more)
    {later : Int} (passes : clock ≤ later) : Accounts more later ip entry last := by
  cases accounts with
  | absent => exact .absent
  | present inside latest recorded past =>
      exact .present inside latest (fun time member => subset (recorded time member)) (past.trans passes)

/-- A recorded attempt is the latest of its entry. -/
theorem Accounts.record (accounts : Accounts made clock ip entry last) {now : Int} (passes : clock ≤ now) :
    Accounts (made ++ [.record ip now]) now ip (some (entry.getD [] ++ [now])) (some now) := by
  cases accounts with
  | absent => exact .present (by simp) (by simp) (by simp) le_rfl
  | @present list held inside latest recorded past =>
      refine .present (by simp) ?_ ?_ le_rfl
      · intro time member
        rcases List.mem_append.mp member with old | new
        · have before := latest time old
          omega
        · rw [List.mem_singleton.mp new]
      · intro time member
        rcases List.mem_append.mp member with old | new
        · exact List.mem_append_left _ (recorded time old)
        · rw [List.mem_singleton.mp new]
          exact List.mem_append_right _ (List.mem_singleton_self _)

/-- A check keeps an entry exactly when its last attempt is recent. -/
theorem Accounts.check (accounts : Accounts made clock ip entry last) {now window : Int} (passes : clock ≤ now) :
    Accounts (made ++ [.check ip now]) now ip
      (if ((entry.getD []).filter fun t => t > now - window).length = 0 then none
        else some ((entry.getD []).filter fun t => t > now - window))
      (last.filter fun time => now - window < time) := by
  cases accounts with
  | absent => exact .absent
  | @present list held inside latest recorded past =>
      by_cases recent : now - window < held
      · have kept : held ∈ list.filter fun t => t > now - window := by simp [inside, recent]
        have full : (list.filter fun t => t > now - window).length ≠ 0 :=
          Nat.pos_iff_ne_zero.mp (List.length_pos_of_mem kept)
        simp only [Option.getD_some, if_neg full, Option.filter_some, decide_eq_true recent, if_true]
        refine .present kept ?_ ?_ (by omega)
        · intro time member
          exact latest time (List.mem_filter.mp member).1
        · intro time member
          exact List.mem_append_left _ (recorded time (List.mem_filter.mp member).1)
      · have none : list.filter (fun t => t > now - window) = [] := by
          rw [List.filter_eq_nil_iff]
          intro time member
          have before := latest time member
          simp only [decide_eq_true_eq]
          omega
        simp only [Option.getD_some, none, List.length_nil, if_true, Option.filter_some, decide_eq_false recent,
          Bool.false_eq_true, if_false]
        exact .absent

end Step

/-- One call keeps every entry in account. -/
theorem Tracks.call {r : AttemptTable} {made : List Call} {clock : Int} (tracks : Tracks r made clock) {next : Call}
    (passes : clock ≤ next.time) : Tracks (r.call next) (made ++ [next]) next.time := by
  have kept (ip : String) := (tracks ip).mono (List.subset_append_left made [next]) passes
  intro ip
  cases next with
  | check other now =>
      rw [remembered_check, AttemptTable.call]
      by_cases same : other = ip
      · subst same
        rw [lookup_check_self, if_pos rfl]
        exact (tracks other).check passes
      · rw [lookup_check_ne r other now (Ne.symm same), if_neg same]
        exact kept ip
  | record other now =>
      rw [remembered_record, AttemptTable.call]
      by_cases same : other = ip
      · subst same
        rw [lookup_record_self, if_pos rfl]
        exact (tracks other).record passes
      · rw [lookup_record_ne r other now (Ne.symm same), if_neg same]
        exact kept ip

theorem calls_concat (r : AttemptTable) (made : List Call) (next : Call) :
    r.calls (made ++ [next]) = (r.calls made).call next := by
  rw [calls, List.foldl_append]
  rfl

theorem window_calls (r : AttemptTable) (made : List Call) : (r.calls made).window = r.window := by
  induction made using List.reverseRecOn with
  | nil => rfl
  | append_singleton made next ih =>
      rw [calls_concat, ← ih]
      cases next <;> rfl

/-- In every run whose clock does not go back, every entry is in account. -/
theorem tracks_calls (limit : Nat) (window : Int) {made : List Call}
    (ordered : made.Pairwise fun before after => before.time ≤ after.time) {clock : Int}
    (past : ∀ next ∈ made, next.time ≤ clock) : Tracks ((newAttemptTable limit window).calls made) made clock := by
  induction made using List.reverseRecOn generalizing clock with
  | nil =>
      intro ip
      exact .absent
  | append_singleton made next ih =>
      rcases List.pairwise_append.mp ordered with ⟨earlier, -, before⟩
      have tracks := ih earlier fun call member => before call member next (List.mem_singleton_self _)
      intro ip
      rw [calls_concat]
      exact (tracks.call le_rfl ip).mono (List.Subset.refl _) (past next (by simp))

/-- The same after a check, at the time of the check. -/
theorem tracks_check (limit : Nat) (window : Int) {made : List Call} {ip : String} {now : Int}
    (ordered : (made ++ [Call.check ip now]).Pairwise fun before after => before.time ≤ after.time) :
    Tracks ((newAttemptTable limit window).calls (made ++ [.check ip now])) (made ++ [.check ip now]) now := by
  refine tracks_calls limit window ordered fun next member => ?_
  rcases List.mem_append.mp member with old | new
  · exact (List.pairwise_append.mp ordered).2.2 next old _ (List.mem_singleton_self _)
  · rw [List.mem_singleton.mp new]
    exact le_rfl

/-! ## The table at a check -/

section Check

variable {limit : Nat} {window : Int} {made : List Call} {ip : String} {now : Int}

/-- After a check every entry is recent exactly when what is remembered of every other address
is. -/
theorem allRecent_check_iff
    (ordered : (made ++ [Call.check ip now]).Pairwise fun before after => before.time ≤ after.time) :
    AllRecent ((newAttemptTable limit window).calls (made ++ [.check ip now])) now ↔
      ∀ other, other ≠ ip -> ∀ last ∈ remembered window other made, now - window < last := by
  have tracks := tracks_check limit window ordered
  have same : ((newAttemptTable limit window).calls (made ++ [.check ip now])).window = window := window_calls _ _
  generalize (newAttemptTable limit window).calls (made ++ [.check ip now]) = r at tracks same ⊢
  subst same
  constructor
  · intro recent other different last member
    have accounts := tracks other
    rw [remembered_check, if_neg (Ne.symm different), Option.mem_def.mp member] at accounts
    generalize entry : r.attempts.lookup other = found at accounts
    cases accounts with
    | present inside latest recorded past =>
        have key : other ∈ r.attempts.keys := AList.mem_keys.mp (AList.lookup_isSome.mp (by rw [entry]; rfl))
        rcases recent other key with ⟨time, held, late⟩
        rw [entry] at held
        exact lt_of_lt_of_le late (latest time held)
  · intro recent other key
    have accounts := tracks other
    have isSome := AList.lookup_isSome.mpr (AList.mem_keys.mpr key)
    rw [remembered_check] at accounts
    generalize r.attempts.lookup other = found at accounts isSome
    generalize what : (if ip = other then _ else _) = last at accounts
    cases accounts with
    | absent => cases isSome
    | @present list last inside latest recorded past =>
        refine ⟨last, inside, ?_⟩
        by_cases own : ip = other
        · rw [if_pos own] at what
          exact of_decide_eq_true (Option.filter_eq_some_iff.mp what).2
        · rw [if_neg own] at what
          exact recent other (Ne.symm own) last what

theorem mem_recentIps : ip ∈ recentIps window now made ↔ ∃ time, Call.record ip time ∈ made ∧ now - window < time := by
  simp only [recentIps, List.mem_toFinset, List.mem_filterMap]
  constructor
  · rintro ⟨next, member, found⟩
    cases next with
    | check other time => cases found
    | record other time =>
        simp only [Option.ite_none_right_eq_some, Option.some.injEq] at found
        rcases found with ⟨late, rfl⟩
        exact ⟨time, member, late⟩
  · rintro ⟨time, member, late⟩
    exact ⟨.record ip time, member, if_pos late⟩

/-- Where every entry is recent, there are at most as many as addresses with recent failures. -/
theorem AllRecent.length_keys_le {r : AttemptTable} {clock : Int} (recent : AllRecent r now)
    (tracks : Tracks r made clock) : r.attempts.keys.length ≤ (recentIps r.window now made).card := by
  rw [← List.toFinset_card_of_nodup r.attempts.keys_nodup]
  apply Finset.card_le_card
  intro ip member
  rcases recent ip (List.mem_toFinset.mp member) with ⟨time, held, late⟩
  have accounts := tracks ip
  generalize r.attempts.lookup ip = found at accounts held
  generalize remembered r.window ip made = last at accounts
  cases accounts with
  | absent => cases held
  | present inside latest recorded past => exact mem_recentIps.mpr ⟨time, recorded time held, late⟩

end Check

/-- Something holds at every check of a run, of the calls made before it. -/
def AtChecks (made : List Call) (holds : (before : List Call) -> (ip : String) -> (now : Int) -> Prop) : Prop :=
  forall before ip now after, made = before ++ .check ip now :: after -> holds before ip now

theorem pairwise_of_check {made before after : List Call} {ip : String} {now : Int}
    (ordered : made.Pairwise fun first second => first.time ≤ second.time)
    (split : made = before ++ .check ip now :: after) :
    (before ++ [Call.check ip now]).Pairwise fun first second => first.time ≤ second.time := by
  rw [split, ← List.singleton_append, ← List.append_assoc] at ordered
  exact (List.pairwise_append.mp ordered).1

/-- When the limiter's table stays small.  In every run whose clock does not go back, every key
left after each check has an attempt within the window exactly when at each check the last failure
of every other address is within the window or was forgotten at a check of that address; and at
such a check the table has at most as many keys as there are addresses with a recent failure. -/
theorem table_small_iff (limit : Nat) (window : Int) (made : List Call)
    (ordered : made.Pairwise fun first second => first.time ≤ second.time) :
    (AtChecks made (fun before ip now =>
        AllRecent ((newAttemptTable limit window).calls (before ++ [.check ip now])) now) ↔
      AtChecks made fun before ip now =>
        ∀ other, other ≠ ip -> ∀ last ∈ remembered window other before, now - window < last) ∧
    AtChecks made fun before ip now =>
      AllRecent ((newAttemptTable limit window).calls (before ++ [.check ip now])) now ->
      ((newAttemptTable limit window).calls (before ++ [.check ip now])).attempts.keys.length ≤
        (recentIps window now (before ++ [.check ip now])).card := by
  refine ⟨⟨?_, ?_⟩, ?_⟩
  · intro small before ip now after split
    exact (allRecent_check_iff (pairwise_of_check ordered split)).mp (small before ip now after split)
  · intro recent before ip now after split
    exact (allRecent_check_iff (pairwise_of_check ordered split)).mpr (recent before ip now after split)
  · intro before ip now after split recent
    have counted := recent.length_keys_le (tracks_check limit window (pairwise_of_check ordered split))
    rwa [window_calls] at counted

/-- An address fails and another one is checked while that failure is recent: the table holds the
one key and stays small. -/
theorem table_small_recent_failure :
    AtChecks [.check "198.51.100.1" 0, .record "198.51.100.1" 1, .check "198.51.100.2" 2] fun before ip now =>
      AllRecent ((newAttemptTable 5 (5 * 60 * 1000000000)).calls (before ++ [.check ip now])) now := by
  refine (table_small_iff 5 (5 * 60 * 1000000000) _ (by decide)).1.mpr ?_
  intro before ip now after split other different last member
  rcases before with _ | ⟨first, _ | ⟨second, _ | ⟨third, rest⟩⟩⟩
  · cases member
  · simp at split
  · simp only [List.cons_append, List.nil_append, List.cons.injEq, Call.check.injEq] at split
    rcases split with ⟨rfl, rfl, ⟨rfl, rfl⟩, -⟩
    simp only [remembered, List.foldl_cons, List.foldl_nil, Option.filter_none, ite_self,
      Option.ite_none_right_eq_some, Option.mem_def, Option.some.injEq] at member
    omega
  · simp at split

/-- An address fails once and never comes back.  A day later another is checked, and the entry of
the first is still there. -/
theorem table_keeps_old_entry :
    let day : Int := 24 * 60 * 60 * 1000000000
    let made : List Call := [.check "198.51.100.1" 0, .record "198.51.100.1" 1, .check "198.51.100.2" day]
    made.Pairwise (fun first second => first.time ≤ second.time) ∧
      ((newAttemptTable 5 (5 * 60 * 1000000000)).calls made).attempts.keys = ["198.51.100.1"] ∧
      ¬ AllRecent ((newAttemptTable 5 (5 * 60 * 1000000000)).calls made) day := by
  decide +kernel

end AttemptTable
end Authority
end QuietHop
