import QuietHop.Authority.Books

namespace QuietHop
namespace Authority

open Lib Lib.Threads Net

/-!
# Bookkeeping

The handlers run at the same time on one database.  Their tables and requests give the books of
each subscriber, and every move is a step of them.  So the books are sound in every run, whatever
fails, and what mishaps can spoil holds in the runs without them.
-/

/-! ## The books of the running handlers -/

namespace AccountJob

/-- Between the two statements of `Register`. -/
def subscribing (subscriber : Uuid) : AccountJob -> Bool
  | .register _ (.subscribing id) => id = subscriber
  | _ => false

/-- Before the `UPDATE` of `HandleIssue`. -/
def counting (subscriber : Uuid) : AccountJob -> Bool
  | .issue _ _ (.counting id _) => id = subscriber
  | _ => false

/-- Between the `UPDATE` and the `INSERT` of `HandleIssue`. -/
def recording (subscriber : Uuid) : AccountJob -> Bool
  | .issue _ _ (.recording id _) => id = subscriber
  | _ => false

/-- Answered with a signature. -/
def issued (subscriber : Uuid) : AccountJob -> Bool
  | .issue _ _ (.issued id _) => id = subscriber
  | _ => false

end AccountJob

def books (db : Accounts) (jobs : List AccountJob) (subscriber : Uuid) : Books where
  toTally := db.tally subscriber
  subscribing := jobs.countP (·.subscribing subscriber)
  counting := jobs.countP (·.counting subscriber)
  recording := jobs.countP (·.recording subscriber)
  issued := jobs.countP (·.issued subscriber)

/-- The books with one more request. -/
def Books.serving (b : Books) (subscriber : Uuid) (job : AccountJob) : Books :=
  { b with
    subscribing := b.subscribing + if job.subscribing subscriber then 1 else 0
    counting := b.counting + if job.counting subscriber then 1 else 0
    recording := b.recording + if job.recording subscriber then 1 else 0
    issued := b.issued + if job.issued subscriber then 1 else 0 }

section Serving

variable (b : Books) (subscriber : Uuid)

/-- A request that is not between two statements, and was not signed. -/
theorem Books.serving_quiet {job : AccountJob} (notSubscribing : job.subscribing subscriber = false)
    (notCounting : job.counting subscriber = false) (notRecording : job.recording subscriber = false)
    (notIssued : job.issued subscriber = false) : b.serving subscriber job = b := by
  simp only [serving, notSubscribing, notCounting, notRecording, notIssued, Bool.false_eq_true, if_false, Nat.add_zero]

theorem Books.serving_register_started (body : Option Credentials) :
    b.serving subscriber (.register body .started) = b :=
  b.serving_quiet subscriber rfl rfl rfl rfl

theorem Books.serving_answered (body : Option Credentials) (reply : AccountReply) :
    b.serving subscriber (.register body (.answered reply)) = b :=
  b.serving_quiet subscriber rfl rfl rfl rfl

theorem Books.serving_issue_started (subID blinded : Option String) :
    b.serving subscriber (.issue subID blinded .started) = b :=
  b.serving_quiet subscriber rfl rfl rfl rfl

theorem Books.serving_refused (subID blinded : Option String) (reply : AccountReply) :
    b.serving subscriber (.issue subID blinded (.refused reply)) = b :=
  b.serving_quiet subscriber rfl rfl rfl rfl

theorem Books.serving_subscribing (body : Option Credentials) (id : Uuid) :
    b.serving subscriber (.register body (.subscribing id)) =
      if id = subscriber then { b with subscribing := b.subscribing + 1 } else b := by
  by_cases own : id = subscriber <;>
    simp [serving, AccountJob.subscribing, AccountJob.counting, AccountJob.recording, AccountJob.issued, own]

theorem Books.serving_counting (subID blinded : Option String) (id : Uuid) (signed : String) :
    b.serving subscriber (.issue subID blinded (.counting id signed)) =
      if id = subscriber then { b with counting := b.counting + 1 } else b := by
  by_cases own : id = subscriber <;>
    simp [serving, AccountJob.subscribing, AccountJob.counting, AccountJob.recording, AccountJob.issued, own]

theorem Books.serving_recording (subID blinded : Option String) (id : Uuid) (signed : String) :
    b.serving subscriber (.issue subID blinded (.recording id signed)) =
      if id = subscriber then { b with recording := b.recording + 1 } else b := by
  by_cases own : id = subscriber <;>
    simp [serving, AccountJob.subscribing, AccountJob.counting, AccountJob.recording, AccountJob.issued, own]

theorem Books.serving_issued (subID blinded : Option String) (id : Uuid) (signed : String) :
    b.serving subscriber (.issue subID blinded (.issued id signed)) =
      if id = subscriber then { b with issued := b.issued + 1 } else b := by
  by_cases own : id = subscriber <;>
    simp [serving, AccountJob.subscribing, AccountJob.counting, AccountJob.recording, AccountJob.issued, own]

end Serving

section Refinement

variable {services : AccountServices} {db after : Accounts} {turn : AccountTurn} {mishap : Option Mishap}
  {b : Books} {subscriber : Uuid}

/-- A step of `Register` in the books of any subscriber, whatever the other requests are. -/
theorem RegisterActs.books {body : Option Credentials} {phase next : RegisterPhase}
    (acts : RegisterActs services db body turn phase mishap after next) (same : b.toTally = db.tally subscriber) :
    Books.Step mishap (b.serving subscriber (.register body phase))
      ({ b with toTally := after.tally subscriber }.serving subscriber (.register body next)) := by
  cases acts with
  | refuses reply rejected =>
      rw [← same]
      exact .idles none _
  | stays reply =>
      rw [← same]
      exact .idles none _
  | joins row after asked inserted =>
      rcases Accounts.insertSubscriber_ok inserted with ⟨-, fresh, -, -, tallies⟩
      rw [Books.serving_register_started, Books.serving_subscribing, tallies, ← same]
      by_cases own : row.id = subscriber
      · have new : b.members = 0 := by
          rw [same, ← own]
          exact Accounts.members_eq_zero fresh
        rw [if_pos own, if_pos own]
        exact .joins b new
      · rw [if_neg own, if_neg own]
        exact .idles none b
  | joinsUnseen row after reply inserted rejected =>
      rcases Accounts.insertSubscriber_ok inserted with ⟨-, fresh, -, -, tallies⟩
      rw [Books.serving_register_started, Books.serving_answered, tallies, ← same]
      by_cases own : row.id = subscriber
      · have new : b.members = 0 := by
          rw [same, ← own]
          exact Accounts.members_eq_zero fresh
        rw [if_pos own]
        exact .joinsUnseen b new
      · rw [if_neg own]
        exact .idles _ b
  | subscribes id after inserted =>
      rcases Accounts.insertSubscription_ok inserted rfl with ⟨-, -, tallies⟩
      rw [Books.serving_subscribing, Books.serving_answered, tallies, ← same, freeSubscription]
      by_cases own : id = subscriber
      · rw [if_pos own, if_pos own]
        exact .subscribes b
      · rw [if_neg own, if_neg own]
        exact .idles none b
  | subscribesUnseen id after reply inserted rejected =>
      rcases Accounts.insertSubscription_ok inserted rfl with ⟨-, -, tallies⟩
      rw [Books.serving_subscribing, Books.serving_answered, tallies, ← same, freeSubscription]
      by_cases own : id = subscriber
      · rw [if_pos own, if_pos own]
        exact .subscribesUnseen b
      · rw [if_neg own, if_neg own]
        exact .idles _ b
  | abandons id reply rejected =>
      rw [Books.serving_subscribing, Books.serving_answered, ← same]
      by_cases own : id = subscriber
      · rw [if_pos own]
        exact .abandons b
      · rw [if_neg own]
        exact .idles _ b

/-- The same for `HandleIssue`. -/
theorem IssueActs.books {phase next : IssuePhase} (acts : IssueActs db turn phase mishap after next)
    (same : b.toTally = db.tally subscriber) (subID blinded : Option String) :
    Books.Step mishap (b.serving subscriber (.issue subID blinded phase))
      ({ b with toTally := after.tally subscriber }.serving subscriber (.issue subID blinded next)) := by
  cases acts with
  | refuses reply rejected =>
      rw [← same]
      exact .idles none _
  | staysIssued id signed =>
      rw [← same]
      exact .idles none _
  | staysRefused reply =>
      rw [← same]
      exact .idles none _
  | selects id signed found =>
      rw [Books.serving_issue_started, Books.serving_counting, ← same]
      by_cases own : id = subscriber
      · rw [if_pos own]
        rw [own, ← same] at found
        exact .selects b found
      · rw [if_neg own]
        exact .idles none b
  | declines id signed reply rejected =>
      rw [Books.serving_counting, Books.serving_refused, ← same]
      by_cases own : id = subscriber
      · rw [if_pos own]
        exact .declines b
      · rw [if_neg own]
        exact .idles none b
  | counts id signed after updated =>
      rcases Accounts.countToken_ok updated with ⟨-, -, tallies⟩
      rw [Books.serving_counting, Books.serving_recording, tallies, ← same]
      by_cases own : id = subscriber
      · rw [if_pos own, if_pos own, if_pos own]
        exact .counts b
      · rw [if_neg own, if_neg own, if_neg own]
        exact .idles none b
  | countsUnseen id signed after reply updated rejected =>
      rcases Accounts.countToken_ok updated with ⟨-, -, tallies⟩
      rw [Books.serving_counting, Books.serving_refused, tallies, ← same]
      by_cases own : id = subscriber
      · rw [if_pos own, if_pos own]
        exact .countsUnseen b
      · rw [if_neg own, if_neg own]
        exact .idles _ b
  | records id signed after inserted =>
      rcases Accounts.insertEvent_ok inserted with ⟨-, tallies⟩
      rw [Books.serving_recording, Books.serving_issued, tallies, ← same]
      by_cases own : id = subscriber
      · rw [if_pos own, if_pos own, if_pos own]
        exact .records b
      · rw [if_neg own, if_neg own, if_neg own]
        exact .idles none b
  | recordsUnseen id signed after reply inserted rejected =>
      rcases Accounts.insertEvent_ok inserted with ⟨-, tallies⟩
      rw [Books.serving_recording, Books.serving_refused, tallies, ← same]
      by_cases own : id = subscriber
      · rw [if_pos own, if_pos own]
        exact .recordsUnseen b
      · rw [if_neg own, if_neg own]
        exact .idles _ b
  | forgets id signed reply rejected =>
      rw [Books.serving_recording, Books.serving_refused, ← same]
      by_cases own : id = subscriber
      · rw [if_pos own]
        exact .forgets b
      · rw [if_neg own]
        exact .idles _ b

/-- One step of a request is one step of the books of every subscriber. -/
theorem accountStep_books (db : Accounts) (job : AccountJob) (turn : AccountTurn) :
    ∃ mishap, (forall (b : Books) (subscriber : Uuid), b.toTally = db.tally subscriber ->
        Books.Step mishap (b.serving subscriber job)
          ({ b with toTally := (accountStep services db job turn).1.tally subscriber }.serving subscriber
            (accountStep services db job turn).2)) ∧
      (registrationSettles services db turn job = true -> mishap ≠ some .registration) ∧
      (issuanceSettles db turn job = true -> mishap ≠ some .issuance) := by
  cases job with
  | register body phase =>
      rcases @registerStep_acts services db turn body phase with ⟨mishap, after, next, stepped, acts, settled⟩
      refine ⟨mishap, ?_, ?_, ?_⟩
      · intro b subscriber same
        simp only [accountStep, stepped]
        exact acts.books same
      · intro settles
        rw [settled settles]
        exact fun impossible => by cases impossible
      · rintro - rfl
        cases acts
  | approve id answer =>
      cases answer with
      | some reply =>
          refine ⟨none, ?_, fun _ => by decide, fun _ => by decide⟩
          intro b subscriber same
          rw [accountStep, ← same]
          exact .idles none _
      | none =>
          refine ⟨none, ?_, fun _ => by decide, fun _ => by decide⟩
          intro b subscriber same
          rw [accountStep, (handleApproveSubscriber_frame id).2.2, ← same]
          exact .idles none _
  | issue subID blinded phase =>
      rcases @handleIssueStep_acts services db turn subID blinded phase with
        ⟨mishap, after, next, stepped, acts, settled⟩
      refine ⟨mishap, ?_, ?_, ?_⟩
      · intro b subscriber same
        simp only [accountStep, stepped]
        exact acts.books same subID blinded
      · rintro - rfl
        cases acts
      · intro settles
        rw [settled settles]
        exact fun impossible => by cases impossible
  | listTokens subID phase =>
      refine ⟨none, ?_, fun _ => by decide, fun _ => by decide⟩
      intro b subscriber same
      rw [accountStep, ← same]
      exact .idles none _

end Refinement

/-! ## Whole runs -/

section Runs

variable {services : AccountServices}

theorem books_serving {db : Accounts} {jobs : List AccountJob} {index : Nat} {job : AccountJob}
    (found : jobs[index]? = some job) (subscriber : Uuid) :
    books db jobs subscriber = (books db (jobs.eraseIdx index) subscriber).serving subscriber job := by
  simp only [books, Books.serving, ← countP_eq_eraseIdx found]

theorem books_set {db : Accounts} {jobs : List AccountJob} {index : Nat} {job : AccountJob}
    (found : jobs[index]? = some job) (next : AccountJob) (subscriber : Uuid) :
    books db (jobs.set index next) subscriber =
      (books db (jobs.eraseIdx index) subscriber).serving subscriber next := by
  have here : (jobs.set index next)[index]? = some next :=
    List.getElem?_set_self (List.getElem?_eq_some_iff.mp found).1
  rw [books_serving here, List.eraseIdx_set_eq]

/-- A request begins before its first statement. -/
def Begun : Move AccountJob AccountTurn -> Prop
  | .spawn (.register _ phase) => phase = .started
  | .spawn (.approve _ answer) => answer = none
  | .spawn (.issue _ _ phase) => phase = .started
  | .spawn (.listTokens _ phase) => phase = .started
  | .advance _ _ => True

/-- What a step of a request meets. -/
def Meets (holds : Accounts -> AccountTurn -> AccountJob -> Bool) (pool : Pool Accounts AccountJob) :
    Move AccountJob AccountTurn -> Prop
  | .spawn _ => True
  | .advance index turn => ∀ job ∈ pool.threads[index]?, holds pool.shared turn job = true

instance (holds : Accounts -> AccountTurn -> AccountJob -> Bool) (pool : Pool Accounts AccountJob)
    (next : Move AccountJob AccountTurn) : Decidable (Meets holds pool next) :=
  match next with
  | .spawn _ => isTrue trivial
  | .advance index turn =>
      inferInstanceAs (Decidable (∀ job ∈ pool.threads[index]?, holds pool.shared turn job = true))

/-- Every move is a step of the books of every subscriber. -/
theorem move_books {pool : Pool Accounts AccountJob} {next : Move AccountJob AccountTurn} (begun : Begun next) :
    ∃ mishap, (forall subscriber, Books.Step mishap (books pool.shared pool.threads subscriber)
        (books (move (accountStep services) pool next).shared (move (accountStep services) pool next).threads
          subscriber)) ∧
      (Meets (registrationSettles services) pool next -> mishap ≠ some .registration) ∧
      (Meets issuanceSettles pool next -> mishap ≠ some .issuance) := by
  cases next with
  | spawn job =>
      refine ⟨none, ?_, fun _ => by decide, fun _ => by decide⟩
      intro subscriber
      have quiet : job.subscribing subscriber = false ∧ job.counting subscriber = false ∧
          job.recording subscriber = false ∧ job.issued subscriber = false := by
        cases job <;> cases begun <;> exact ⟨rfl, rfl, rfl, rfl⟩
      have same : books pool.shared (pool.threads ++ [job]) subscriber = books pool.shared pool.threads subscriber := by
        simp [books, List.countP_append, quiet]
      rw [move, same]
      exact .idles none _
  | advance index turn =>
      cases found : pool.threads[index]? with
      | none =>
          refine ⟨none, ?_, fun _ => by decide, fun _ => by decide⟩
          intro subscriber
          rw [move, found]
          exact .idles none _
      | some job =>
          rcases @accountStep_books services pool.shared job turn with ⟨mishap, steps, registers, issues⟩
          refine ⟨mishap, ?_, fun meets => registers (meets job found), fun meets => issues (meets job found)⟩
          intro subscriber
          rw [move_advance found, books_serving found, books_set found]
          exact steps (books pool.shared (pool.threads.eraseIdx index) subscriber) subscriber rfl

/-- The steps of one request leave a part of the tables as it is. -/
def LeavesAlone (services : AccountServices) {View : Type} (view : Accounts -> View)
    (moves : List (Move AccountJob AccountTurn)) (index : Nat) : Prop :=
  forall (before later : List (Move AccountJob AccountTurn)) (turn : AccountTurn),
    moves = before ++ .advance index turn :: later ->
    view (accounts services (before ++ [.advance index turn])).shared = view (accounts services before).shared

variable {moves : List (Move AccountJob AccountTurn)}

/-- A request that has not engaged at the end never changed anything, when changing it engages a
request and an engaged one remains so. -/
theorem leavesAlone_of_not_engaged {holds : Accounts -> AccountTurn -> AccountJob -> Bool} {View : Type}
    {view : Accounts -> View} {engaged : AccountJob -> Bool}
    (engages : forall db turn job, holds db turn job = true ->
      view (accountStep services db job turn).1 = view db ∨ engaged (accountStep services db job turn).2 = true)
    (remains : forall db turn job, holds db turn job = true -> engaged job = true ->
      engaged (accountStep services db job turn).2 = true)
    (meets : Obeys (accountStep services) (Meets holds) ⟨Accounts.empty, []⟩ moves) {index : Nat} {job : AccountJob}
    (found : (accounts services moves).threads[index]? = some job) (free : engaged job = false) :
    LeavesAlone services view moves index := by
  rintro before later turn rfl
  rcases obeys_append.mp meets with ⟨-, here, rest⟩
  have split : accounts services (before ++ [.advance index turn]) =
      move (accountStep services) (accounts services before) (.advance index turn) := run_append ..
  have whole : accounts services (before ++ .advance index turn :: later) =
      run (accountStep services) (accounts services (before ++ [.advance index turn])) later := by
    rw [split]
    exact run_append ..
  cases held : (accounts services before).threads[index]? with
  | none => rw [split, move, held]
  | some acting =>
      rcases engages (accounts services before).shared turn acting (here acting held) with same | engagedNow
      · rw [split, move_advance held]
        exact same
      · -- the request stays engaged to the end of the run
        have inside := (List.getElem?_eq_some_iff.mp held).1
        have now : (move (accountStep services) (accounts services before) (.advance index turn)).threads[index]? =
            some (accountStep services (accounts services before).shared acting turn).2 := by
          rw [move_advance held]
          exact List.getElem?_set_self inside
        have keeps : forall (pool : Pool Accounts AccountJob) (input : AccountTurn) (thread : AccountJob),
            Meets holds pool (.advance index input) -> pool.threads[index]? = some thread -> engaged thread = true ->
            engaged (accountStep services pool.shared thread input).2 = true :=
          fun pool input thread met foundThread => remains pool.shared input thread (met thread foundThread)
        rcases run_keeps_thread keeps now engagedNow rest with ⟨final, foundFinal, engagedFinal⟩
        rw [whole, split, foundFinal] at found
        cases found
        rw [free] at engagedFinal
        cases engagedFinal

/-- The books of a subscriber after a run. -/
def booksAfter (services : AccountServices) (moves : List (Move AccountJob AccountTurn)) (subscriber : Uuid) : Books :=
  books (accounts services moves).shared (accounts services moves).threads subscriber

theorem sound_empty (subscriber : Uuid) : (books Accounts.empty [] subscriber).Sound where
  single := Accounts.members_le_one Accounts.empty subscriber
  owned := Nat.le_refl 0
  selected := fun none => absurd none (Nat.lt_irrefl 0)
  counted := Nat.le_refl 0
  returned := Nat.le_refl 0

theorem booksAfter_sound (begun : ∀ next ∈ moves, Begun next) (subscriber : Uuid) :
    (booksAfter services moves subscriber).Sound := by
  refine @run_invariant _ _ _ (accountStep services) (fun _ next => Begun next)
    (fun pool => (books pool.shared pool.threads subscriber).Sound) ?_ _ _ (sound_empty subscriber)
    (obeys_of_forall (fun _ => begun) _)
  intro pool next sound begins
  rcases @move_books services pool next begins with ⟨mishap, steps, -, -⟩
  exact (steps subscriber).sound sound

theorem booksAfter_complete (begun : ∀ next ∈ moves, Begun next)
    (settles : Obeys (accountStep services) (Meets (registrationSettles services)) ⟨Accounts.empty, []⟩ moves)
    (subscriber : Uuid) : (booksAfter services moves subscriber).Complete := by
  refine @run_invariant _ _ _ (accountStep services) _
    (fun pool => (books pool.shared pool.threads subscriber).Complete) ?_ _ _ rfl
    (obeys_and (obeys_of_forall (fun _ => begun) _) settles)
  rintro pool next complete ⟨begins, settled⟩
  rcases @move_books services pool next begins with ⟨mishap, steps, registers, -⟩
  exact (steps subscriber).complete (registers settled) complete

theorem booksAfter_balanced (begun : ∀ next ∈ moves, Begun next)
    (settles : Obeys (accountStep services) (Meets issuanceSettles) ⟨Accounts.empty, []⟩ moves) (subscriber : Uuid) :
    (booksAfter services moves subscriber).Balanced := by
  have both : (booksAfter services moves subscriber).Sound ∧ (booksAfter services moves subscriber).Balanced := by
    refine @run_invariant _ _ _ (accountStep services) _ (fun pool =>
      (books pool.shared pool.threads subscriber).Sound ∧ (books pool.shared pool.threads subscriber).Balanced) ?_ _ _
      ⟨sound_empty subscriber, rfl⟩ (obeys_and (obeys_of_forall (fun _ => begun) _) settles)
    rintro pool next ⟨sound, balanced⟩ ⟨begins, settled⟩
    rcases @move_books services pool next begins with ⟨mishap, steps, -, issues⟩
    exact ⟨(steps subscriber).sound sound, (steps subscriber).balanced (issues settled) sound balanced⟩
  exact both.2

end Runs

namespace Sample

def uuid (last : UInt8) : Uuid := ⟨List.replicate 15 0 ++ [last], rfl⟩

/-- An address has an at sign, one id is known, and the signer has a small key. -/
def accountServices : AccountServices where
  parseAddress := fun text => text.toList.contains '@'
  uuidIn := fun text =>
    if text = (uuid 1).text then .ok (uuid 1) else .error (.other "cannot parse UUID")
  signer := ⟨3233, 413⟩

/-- A statement that is executed and reported. -/
def executed (id : UInt8) : AccountTurn := ⟨uuid id, 0, .ok "$argon2id$", .arrives⟩

/-- A request whose context is cancelled before its next statement. -/
def cancelled (id : UInt8) : AccountTurn := ⟨uuid id, 0, .ok "$argon2id$", .lost false (.other "context canceled")⟩

def credentials (email : String) : Credentials := ⟨email, "correct horse battery staple"⟩

def registerRequest (email : String) : AccountJob := .register (some (credentials email)) .started

end Sample

end Authority
end QuietHop
