import QuietHop.Authority.Bookkeeping

namespace QuietHop
namespace Authority

open Lib Lib.Threads Net

/-!
# Registration

A subscriber without a subscription cannot be used: it cannot be approved, no token is issued to
it, and its email cannot be registered again.  `Register` leaves one behind when its second
statement fails.  As long as that statement succeeds, and the first never takes effect unseen,
registration is all or nothing.
-/

variable {services : AccountServices}

namespace AccountJob

/-- The email a registration is for. -/
def email : AccountJob -> Option String
  | .register (some req) _ => some req.email
  | _ => none

/-- A registration that has its row, and is accepted or will be. -/
def joined : AccountJob -> Bool
  | .register _ (.subscribing _) => true
  | .register _ (.answered (.created _)) => true
  | _ => false

end AccountJob

theorem newSubscriber_ok {body : Option Credentials} {turn : AccountTurn} {row : SubscriberRow}
    (asked : newSubscriber services body turn = .ok row) : ∃ req, body = some req ∧ row.email = req.email := by
  cases body with
  | none => cases asked
  | some req =>
      simp only [newSubscriber] at asked
      split_ifs at asked
      split at asked
      · cases asked
      · cases asked
        exact ⟨req, rfl, rfl⟩

/-- A step without mishap leaves the subscribers, or adds the row of a registration that has joined. -/
theorem accountStep_subscribers (db : Accounts) (turn : AccountTurn) (job : AccountJob)
    (settles : registrationSettles services db turn job = true) :
    (accountStep services db job turn).1.subscribers = db.subscribers ∨
      ∃ row, (accountStep services db job turn).1.subscribers = db.subscribers ++ [row] ∧
        (accountStep services db job turn).2.joined = true ∧
        (accountStep services db job turn).2.email = some row.email := by
  cases job with
  | register body phase =>
      rcases @registerStep_acts services db turn body phase with ⟨mishap, after, next, stepped, acts, settled⟩
      cases settled settles
      simp only [accountStep, stepped]
      cases acts with
      | refuses reply rejected => exact Or.inl rfl
      | stays reply => exact Or.inl rfl
      | subscribes id after inserted => exact Or.inl (Accounts.insertSubscription_ok inserted rfl).1
      | joins row after asked inserted =>
          rcases newSubscriber_ok asked with ⟨req, rfl, sameEmail⟩
          rcases Accounts.insertSubscriber_ok inserted with ⟨-, -, added, -, -⟩
          exact Or.inr ⟨row, added, rfl, by rw [AccountJob.email, sameEmail]⟩
  | approve id answer =>
      cases answer with
      | some reply => exact Or.inl rfl
      | none => exact Or.inl (handleApproveSubscriber_frame id).1
  | issue subID blinded phase =>
      rcases @handleIssueStep_acts services db turn subID blinded phase with ⟨mishap, after, next, stepped, acts, -⟩
      simp only [accountStep, stepped]
      apply Or.inl
      cases acts with
      | counts id signed after updated => exact (Accounts.countToken_ok updated).1
      | countsUnseen id signed after reply updated rejected => exact (Accounts.countToken_ok updated).1
      | records id signed after inserted => exact (Accounts.insertEvent_ok inserted).1
      | recordsUnseen id signed after reply inserted rejected => exact (Accounts.insertEvent_ok inserted).1
      | _ => rfl
  | listTokens subID phase => exact Or.inl rfl

theorem accountStep_email (db : Accounts) (turn : AccountTurn) (job : AccountJob) :
    (accountStep services db job turn).2.email = job.email := by
  cases job with
  | register body phase => cases body <;> rfl
  | approve id answer => cases answer <;> rfl
  | issue subID blinded phase => rfl
  | listTokens subID phase => rfl

/-- A registration that has joined is accepted in the end. -/
theorem accountStep_joined (db : Accounts) (turn : AccountTurn) (job : AccountJob)
    (settles : registrationSettles services db turn job = true) (joined : job.joined = true) :
    (accountStep services db job turn).2.joined = true := by
  cases job with
  | register body phase =>
      rcases @registerStep_acts services db turn body phase with ⟨mishap, after, next, stepped, acts, settled⟩
      cases settled settles
      simp only [accountStep, stepped]
      cases acts with
      | refuses reply rejected => cases joined
      | joins row after asked inserted => rfl
      | subscribes id after inserted => rfl
      | stays reply => exact joined
  | approve id answer => cases joined
  | issue subID blinded phase => cases joined
  | listTokens subID phase => cases joined

/-- Every subscriber is the row of a registration that has joined. -/
def Attributed (pool : Pool Accounts AccountJob) : Prop :=
  ∀ row ∈ pool.shared.subscribers, ∃ job ∈ pool.threads, job.joined = true ∧ job.email = some row.email

theorem move_attributed {pool : Pool Accounts AccountJob} {next : Move AccountJob AccountTurn}
    (attributed : Attributed pool) (settles : Meets (registrationSettles services) pool next) :
    Attributed (move (accountStep services) pool next) := by
  apply move_keeps attributed
  · rintro new -
    intro row member
    rcases attributed row member with ⟨job, present, joined, own⟩
    exact ⟨job, List.mem_append_left _ present, joined, own⟩
  · rintro index turn acting rfl found
    have settled := settles acting found
    rw [move_advance found]
    have inside := (List.getElem?_eq_some_iff.mp found).1
    have present : (accountStep services pool.shared acting turn).2 ∈
        pool.threads.set index (accountStep services pool.shared acting turn).2 := List.mem_set inside _
    -- the registration of an old row is still there, and is the one that acts or another
    have kept : ∀ row ∈ pool.shared.subscribers,
        ∃ job ∈ pool.threads.set index (accountStep services pool.shared acting turn).2,
          job.joined = true ∧ job.email = some row.email := by
      intro row member
      rcases attributed row member with ⟨job, old, joined, own⟩
      rcases List.getElem?_of_mem old with ⟨place, held⟩
      by_cases same : place = index
      · subst same
        rw [held] at found
        cases found
        refine ⟨_, present, accountStep_joined _ _ _ settled joined, ?_⟩
        rw [accountStep_email, own]
      · have elsewhere : (pool.threads.set index (accountStep services pool.shared acting turn).2)[place]? =
            some job := by
          rw [List.getElem?_set_ne (Ne.symm same)]
          exact held
        exact ⟨job, List.mem_of_getElem? elsewhere, joined, own⟩
    intro row member
    rcases accountStep_subscribers pool.shared turn acting settled with same | ⟨new, added, joined, own⟩
    · rw [same] at member
      exact kept row member
    · rw [added] at member
      rcases List.mem_append.mp member with old | last
      · exact kept row old
      · rw [List.mem_singleton.mp last]
        exact ⟨_, present, joined, own⟩

theorem accounts_attributed {moves : List (Move AccountJob AccountTurn)}
    (settles : Obeys (accountStep services) (Meets (registrationSettles services)) ⟨Accounts.empty, []⟩ moves) :
    Attributed (accounts services moves) := by
  refine run_invariant (fun pool next before settled => move_attributed before settled) ?_ settles
  exact fun row member => absurd member List.not_mem_nil

/-! ## A second attempt -/

/-- A request that is well formed, meets no failure and draws new ids. -/
structure Smooth (services : AccountServices) (db : Accounts) (req : Credentials) (first second : AccountTurn) :
    Prop where
  address : services.parseAddress req.email = true
  long : 16 ≤ req.password.utf8ByteSize
  hashed : ∃ hash, first.hash = .ok hash ∧ [req.email, hash].all storable = true
  inserts : first.delivery = .arrives
  subscribes : second.delivery = .arrives
  newId : first.id ∉ db.subscribers.map SubscriberRow.id
  newSubscription : second.id ∉ db.subscriptions.map SubscriptionRow.id

def attempt (place : Nat) (req : Credentials) (first second : AccountTurn) : List (Move AccountJob AccountTurn) :=
  [.spawn (.register (some req) .started), .advance place first, .advance place second]

theorem insertSubscriber_of_new {row : SubscriberRow} {db : Accounts}
    (text : [row.email, row.password].all storable = true) (newId : row.id ∉ db.subscribers.map SubscriberRow.id)
    (newEmail : row.email ∉ db.subscribers.map SubscriberRow.email) :
    ∃ after, Accounts.insertSubscriber row db = .ok (row.id, after) ∧ after.subscribers = db.subscribers ++ [row] ∧
      after.subscriptions = db.subscriptions := by
  unfold Accounts.insertSubscriber
  rw [if_neg (not_not_intro text), dif_neg newId, dif_neg newEmail]
  exact ⟨_, rfl, rfl, rfl⟩

theorem insertSubscription_of_new {row : SubscriptionRow} {db : Accounts}
    (newId : row.id ∉ db.subscriptions.map SubscriptionRow.id)
    (owned : row.subscriberId ∈ db.subscribers.map SubscriberRow.id) :
    ∃ after, Accounts.insertSubscription row db = .ok ((), after) := by
  unfold Accounts.insertSubscription
  rw [dif_neg newId, dif_pos owned]
  exact ⟨_, rfl⟩

/-- It is accepted, unless its email is taken. -/
theorem run_attempt {pool : Pool Accounts AccountJob} {req : Credentials} {first second : AccountTurn}
    (smooth : Smooth services pool.shared req first second)
    (newEmail : req.email ∉ pool.shared.subscribers.map SubscriberRow.email) :
    (run (accountStep services) pool (attempt pool.threads.length req first second)).threads[pool.threads.length]? =
      some (.register (some req) (.answered (.created first.id.text))) := by
  rcases smooth.hashed with ⟨hash, hashed, text⟩
  rcases @insertSubscriber_of_new ⟨first.id, req.email, hash⟩ pool.shared text smooth.newId newEmail with
    ⟨after, inserted, added, sameSubscriptions⟩
  have asked : newSubscriber services (some req) first = .ok ⟨first.id, req.email, hash⟩ := by
    simp only [newSubscriber, smooth.address, not_true_eq_false, if_false, if_neg (Nat.not_lt.mpr smooth.long), hashed]
  have joins : accountStep services pool.shared (.register (some req) .started) first =
      (after, .register (some req) (.subscribing first.id)) := by
    simp only [accountStep, registerStep, asked, smooth.inserts, execute_arrives inserted]
  have newSubscription : second.id ∉ after.subscriptions.map SubscriptionRow.id := by
    rw [sameSubscriptions]
    exact smooth.newSubscription
  have owned : first.id ∈ after.subscribers.map SubscriberRow.id := by
    rw [added]
    simp
  rcases @insertSubscription_of_new (freeSubscription first.id second) after newSubscription owned with
    ⟨final, executed⟩
  have subscribes : accountStep services after (.register (some req) (.subscribing first.id)) second =
      (final, .register (some req) (.answered (.created first.id.text))) := by
    simp only [accountStep, registerStep, smooth.subscribes, execute_arrives executed]
  -- the request stands at the end of the list, and is replaced there twice
  have last : forall job : AccountJob, (pool.threads ++ [job])[pool.threads.length]? = some job := by simp
  have replaced : forall job next : AccountJob,
      (pool.threads ++ [job]).set pool.threads.length next = pool.threads ++ [next] := by simp
  rw [attempt, run_cons, move, run_cons, move_advance (last _), joins, replaced, run_cons, move_advance (last _),
    subscribes, replaced, run_nil]
  exact last _

/-- Registration is all or nothing where its second `INSERT` succeeds and its first never takes
effect unseen.  A request that is not answered with 201 has added no subscriber, and its email can
be registered unless another request has it.  Every subscriber has a subscription, or a request
that is about to insert it. -/
theorem registration_all_or_nothing (services : AccountServices) (moves : List (Move AccountJob AccountTurn))
    (begun : ∀ next ∈ moves, Begun next)
    (settles : Obeys (accountStep services) (Meets (registrationSettles services)) ⟨Accounts.empty, []⟩ moves) :
    (forall (index : Nat) (body : Option Credentials) (reply : AccountReply),
      (accounts services moves).threads[index]? = some (.register body (.answered reply)) -> reply.status ≠ 201 ->
      LeavesAlone services Accounts.subscribers moves index) ∧
    (forall (req : Credentials) (first second : AccountTurn),
      Smooth services (accounts services moves).shared req first second ->
      (∀ job ∈ (accounts services moves).threads, job.email = some req.email -> job.joined = false) ->
      (accounts services (moves ++ attempt (accounts services moves).threads.length req first second)).threads[
        (accounts services moves).threads.length]? =
          some (.register (some req) (.answered (.created first.id.text)))) ∧
    ∀ row ∈ (accounts services moves).shared.subscribers,
      (∃ subscription ∈ (accounts services moves).shared.subscriptions, subscription.subscriberId = row.id) ∨
      ∃ job ∈ (accounts services moves).threads, job.subscribing row.id = true := by
  refine ⟨?_, ?_, ?_⟩
  · intro index body reply found rejected
    have engages : forall db turn job, registrationSettles services db turn job = true ->
        (accountStep services db job turn).1.subscribers = db.subscribers ∨
          (accountStep services db job turn).2.joined = true := by
      intro db turn job settled
      rcases accountStep_subscribers db turn job settled with same | ⟨row, -, joined, -⟩
      · exact Or.inl same
      · exact Or.inr joined
    have free : (AccountJob.register body (.answered reply)).joined = false := by
      cases reply with
      | created id => exact absurd rfl rejected
      | _ => rfl
    exact leavesAlone_of_not_engaged engages accountStep_joined settles found free
  · intro req first second smooth untaken
    have newEmail : req.email ∉ (accounts services moves).shared.subscribers.map SubscriberRow.email := by
      intro taken
      rcases List.mem_map.mp taken with ⟨row, member, same⟩
      rcases accounts_attributed settles row member with ⟨job, present, joined, own⟩
      rw [untaken job present (by rw [own, same])] at joined
      cases joined
    rw [accounts, run_append]
    exact run_attempt smooth newEmail
  · intro row member
    have complete := booksAfter_complete begun settles row.id
    have counts : 0 < (booksAfter services moves row.id).members := Table.countFor_pos_of_mem member
    rw [complete] at counts
    rcases Nat.add_pos_iff_pos_or_pos.mp counts with owns | pending
    · rcases List.mem_map.mp (List.count_pos_iff.mp owns) with ⟨subscription, present, same⟩
      exact Or.inl ⟨subscription, present, same⟩
    · rcases List.countP_pos_iff.mp pending with ⟨job, present, subscribing⟩
      exact Or.inr ⟨job, present, subscribing⟩

namespace Sample

/-- A registration that is cancelled between its statements, the same request again, and an
approval. -/
def cutShort : List (Move AccountJob AccountTurn) :=
  [.spawn (registerRequest "user@example.com"), .advance 0 (executed 1), .advance 0 (cancelled 2),
    .spawn (registerRequest "user@example.com"), .advance 1 (executed 3),
    .spawn (.approve (uuid 1).text none), .advance 2 (executed 4)]

/-- A registration, a second one for the same email, and one that is cancelled before its first
statement. -/
def undisturbed : List (Move AccountJob AccountTurn) :=
  [.spawn (registerRequest "user@example.com"), .advance 0 (executed 1), .advance 0 (executed 2),
    .spawn (registerRequest "user@example.com"), .advance 1 (executed 3),
    .spawn (registerRequest "new@example.com"), .advance 2 (cancelled 4)]

theorem undisturbed_begun : ∀ next ∈ undisturbed, Begun next := by
  simp [undisturbed, registerRequest, Begun]

theorem undisturbed_smooth : Smooth accountServices (accounts accountServices undisturbed).shared
    (credentials "new@example.com") (executed 5) (executed 6) where
  address := by decide +kernel
  long := by decide +kernel
  hashed := ⟨"$argon2id$", rfl, by decide +kernel⟩
  inserts := rfl
  subscribes := rfl
  newId := by decide +kernel
  newSubscription := by decide +kernel

end Sample

/-- A registration that is answered with 500 leaves a subscriber without a subscription.  The same
request is then refused for its email, and there is nothing to approve. -/
theorem registration_cut_short :
    (∀ next ∈ Sample.cutShort, Begun next) ∧
    (accounts Sample.accountServices Sample.cutShort).threads.map AccountJob.reply =
      [some (.error 500 "internal"), some (.error 409 "email_exists"), some (.error 404 "not_found")] ∧
    ¬ LeavesAlone Sample.accountServices Accounts.subscribers Sample.cutShort 0 ∧
    (accounts Sample.accountServices Sample.cutShort).shared.subscribers.map SubscriberRow.id = [Sample.uuid 1] ∧
    (accounts Sample.accountServices Sample.cutShort).shared.subscriptions.length = 0 := by
  refine ⟨by simp [Sample.cutShort, Sample.registerRequest, Begun], by decide +kernel, ?_, by decide +kernel,
    by decide +kernel⟩
  intro leaves
  have added := congrArg List.length (leaves [.spawn (Sample.registerRequest "user@example.com")] _ _ rfl)
  revert added
  decide +kernel

theorem registration_all_or_nothing_undisturbed :
    (accounts Sample.accountServices Sample.undisturbed).threads.map AccountJob.reply =
      [some (.created (Sample.uuid 1).text), some (.error 409 "email_exists"), some (.error 500 "internal")] ∧
    LeavesAlone Sample.accountServices Accounts.subscribers Sample.undisturbed 2 ∧
    ((accounts Sample.accountServices (Sample.undisturbed ++
      attempt 3 (Sample.credentials "new@example.com") (Sample.executed 5) (Sample.executed 6))).threads[3]?).bind
        AccountJob.reply = some (.created (Sample.uuid 5).text) := by
  have settles : Obeys (accountStep Sample.accountServices) (Meets (registrationSettles Sample.accountServices))
      ⟨Accounts.empty, []⟩ Sample.undisturbed := by decide +kernel
  have result := registration_all_or_nothing Sample.accountServices Sample.undisturbed Sample.undisturbed_begun settles
  refine ⟨by decide +kernel, ?_, ?_⟩
  · exact result.1 2 (some (Sample.credentials "new@example.com")) (.error 500 "internal") rfl (by decide)
  · have again := result.2.1 _ _ _ Sample.undisturbed_smooth (by decide +kernel)
    exact congrArg (Option.bind · AccountJob.reply) again

end Authority
end QuietHop
