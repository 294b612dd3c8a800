import QuietHop.Authority.Accounts

namespace QuietHop
namespace Authority

open Lib Lib.Threads Net

/-!
# The books of one subscriber

What the tables and the requests in flight say about one subscriber are eight numbers: rows of the
tables, and requests that stand between two statements or have returned a signature.  Requests
change them in a few ways only.  Some of these are mishaps: a statement that took effect although
it was reported as failed, and a second statement that failed after the first had succeeded.

The invariants are those of the numbers.  Below them, what each statement does to the tables, and
what each step of a handler does.
-/

/-! ## The numbers -/

/-- What the tables hold. -/
structure Tally where
  members : Nat
  subscriptions : Nat
  tokens : Nat
  events : Nat

/-- The same, with the requests between two statements and those that were signed. -/
structure Books extends Tally where
  subscribing : Nat
  counting : Nat
  recording : Nat
  issued : Nat

/-- The two handlers that write twice. -/
inductive Mishap where
  | registration
  | issuance
  deriving DecidableEq

namespace Books

/-- What one statement changes, and which handler it is a mishap of. -/
inductive Step : Option Mishap -> Books -> Books -> Prop where
  | idles (mishap : Option Mishap) (b : Books) : Step mishap b b
  | joins (b : Books) (new : b.members = 0) :
      Step none b { b with members := b.members + 1, subscribing := b.subscribing + 1 }
  | subscribes (b : Books) :
      Step none { b with subscribing := b.subscribing + 1 } { b with subscriptions := b.subscriptions + 1 }
  | selects (b : Books) (found : 0 < b.subscriptions) : Step none b { b with counting := b.counting + 1 }
  | declines (b : Books) : Step none { b with counting := b.counting + 1 } b
  | counts (b : Books) :
      Step none { b with counting := b.counting + 1 }
        { b with tokens := b.tokens + b.subscriptions, recording := b.recording + 1 }
  | records (b : Books) :
      Step none { b with recording := b.recording + 1 } { b with events := b.events + 1, issued := b.issued + 1 }
  | joinsUnseen (b : Books) (new : b.members = 0) : Step (some .registration) b { b with members := b.members + 1 }
  | subscribesUnseen (b : Books) :
      Step (some .registration) { b with subscribing := b.subscribing + 1 }
        { b with subscriptions := b.subscriptions + 1 }
  | abandons (b : Books) : Step (some .registration) { b with subscribing := b.subscribing + 1 } b
  | countsUnseen (b : Books) :
      Step (some .issuance) { b with counting := b.counting + 1 } { b with tokens := b.tokens + b.subscriptions }
  | recordsUnseen (b : Books) :
      Step (some .issuance) { b with recording := b.recording + 1 } { b with events := b.events + 1 }
  | forgets (b : Books) : Step (some .issuance) { b with recording := b.recording + 1 } b

/-- What holds whatever goes wrong. -/
structure Sound (b : Books) : Prop where
  single : b.members ≤ 1
  owned : b.subscriptions + b.subscribing ≤ b.members
  selected : 0 < b.counting + b.recording -> 0 < b.subscriptions
  counted : b.events + b.recording ≤ b.tokens
  returned : b.issued ≤ b.events

/-- Every member has a subscription, or will have. -/
def Complete (b : Books) : Prop := b.members = b.subscriptions + b.subscribing

/-- Every token counted is an event, or will be. -/
def Balanced (b : Books) : Prop := b.tokens = b.events + b.recording

variable {mishap : Option Mishap} {before after : Books}

theorem Step.sound (step : Step mishap before after) (sound : Sound before) : Sound after := by
  rcases sound with ⟨single, owned, selected, counted, returned⟩
  cases step with
  | idles => exact ⟨single, owned, selected, counted, returned⟩
  | _ => constructor <;> dsimp only at * <;> omega

theorem Step.complete (step : Step mishap before after) (careful : mishap ≠ some .registration)
    (complete : Complete before) : Complete after := by
  unfold Complete at *
  cases step with
  | joinsUnseen b new => exact absurd rfl careful
  | subscribesUnseen b => exact absurd rfl careful
  | abandons b => exact absurd rfl careful
  | idles => exact complete
  | _ =>
      dsimp only at *
      omega

/-- A subscriber has one subscription, so that one is added to its sum. -/
theorem Step.balanced (step : Step mishap before after) (careful : mishap ≠ some .issuance) (sound : Sound before)
    (balanced : Balanced before) : Balanced after := by
  unfold Balanced at *
  cases step with
  | counts b =>
      have single := sound.single
      have owned := sound.owned
      have selected := sound.selected
      dsimp only at *
      omega
  | countsUnseen b => exact absurd rfl careful
  | recordsUnseen b => exact absurd rfl careful
  | forgets b => exact absurd rfl careful
  | idles => exact balanced
  | _ =>
      dsimp only at *
      omega

end Books

/-! ## The tables -/

namespace Accounts

variable {db after : Accounts} (subscriber : Uuid)

def tally (db : Accounts) : Tally where
  members := Table.countFor SubscriberRow.id db.subscribers subscriber
  subscriptions := Table.countFor SubscriptionRow.subscriberId db.subscriptions subscriber
  tokens := db.tokensIssued subscriber
  events := Table.countFor IssuanceEvent.subscriberId db.tokenIssuanceEvents subscriber

variable {subscriber}

theorem insertSubscriber_ok {row : SubscriberRow} {id : Uuid} (inserted : insertSubscriber row db = .ok (id, after)) :
    id = row.id ∧ row.id ∉ db.subscribers.map SubscriberRow.id ∧ after.subscribers = db.subscribers ++ [row] ∧
    after.tokenIssuanceEvents = db.tokenIssuanceEvents ∧
    forall subscriber, after.tally subscriber = { db.tally subscriber with
      members := (db.tally subscriber).members + if row.id = subscriber then 1 else 0 } := by
  unfold insertSubscriber at inserted
  split_ifs at inserted with storable known taken
  cases inserted
  refine ⟨rfl, known, rfl, rfl, ?_⟩
  intro subscriber
  simp only [tally, tokensIssued, Table.countFor_concat]

theorem insertSubscription_ok {row : SubscriptionRow} (inserted : insertSubscription row db = .ok ((), after))
    (unused : row.tokensIssued = 0) :
    after.subscribers = db.subscribers ∧ after.tokenIssuanceEvents = db.tokenIssuanceEvents ∧
    forall subscriber, after.tally subscriber = { db.tally subscriber with
      subscriptions := (db.tally subscriber).subscriptions + if row.subscriberId = subscriber then 1 else 0 } := by
  unfold insertSubscription at inserted
  split_ifs at inserted with known owned
  cases inserted
  refine ⟨rfl, rfl, ?_⟩
  intro subscriber
  simp only [tally, tokensIssued, Table.countFor_concat, Table.sumFor_concat_zero unused]

theorem insertEvent_ok {event : IssuanceEvent} (inserted : insertEvent event db = .ok ((), after)) :
    after.subscribers = db.subscribers ∧
    forall subscriber, after.tally subscriber = { db.tally subscriber with
      events := (db.tally subscriber).events + if event.subscriberId = subscriber then 1 else 0 } := by
  unfold insertEvent at inserted
  split_ifs at inserted with known owned
  cases inserted
  refine ⟨rfl, ?_⟩
  intro subscriber
  simp only [tally, tokensIssued, Table.countFor_concat]

theorem approve_ok {approved id : Uuid} (updated : approve approved db = .ok (id, after)) :
    after.subscribers = db.subscribers ∧ after.tokenIssuanceEvents = db.tokenIssuanceEvents ∧
    forall subscriber, after.tally subscriber = db.tally subscriber := by
  unfold approve at updated
  split at updated
  · cases updated
  · cases updated
    refine ⟨rfl, rfl, ?_⟩
    intro subscriber
    simp only [tally, tokensIssued, updateSubscriptions, Table.countFor,
      Table.map_update (activate_subscriberId approved _),
      Table.sumFor_update (activate_subscriberId approved _) (activate_tokensIssued approved _)]

theorem count_tokensIssued (counted : Uuid) (row : SubscriptionRow) :
    (count counted row).tokensIssued = row.tokensIssued + if row.subscriberId = counted then 1 else 0 := by
  unfold count
  split <;> rfl

theorem countToken_ok {counted : Uuid} (updated : countToken counted db = .ok ((), after)) :
    after.subscribers = db.subscribers ∧ after.tokenIssuanceEvents = db.tokenIssuanceEvents ∧
    forall subscriber, after.tally subscriber = { db.tally subscriber with
      tokens := (db.tally subscriber).tokens +
        if counted = subscriber then (db.tally subscriber).subscriptions else 0 } := by
  unfold countToken at updated
  split_ifs at updated
  cases updated
  refine ⟨rfl, rfl, ?_⟩
  intro subscriber
  simp only [tally, tokensIssued, updateSubscriptions,
    Table.sumFor_increment (count_subscriberId counted) (count_tokensIssued counted), Table.countFor,
    Table.map_update (count_subscriberId counted)]

/-- A subscription that was found counts. -/
theorem subscriptions_pos_of_selectStatus {status : SubscriptionStatus}
    (selected : selectStatus subscriber db = .ok status) : 0 < (db.tally subscriber).subscriptions := by
  unfold selectStatus newest at selected
  split at selected
  · cases selected
  · rename_i row found
    have member := Table.mem_of_latest found
    rw [List.mem_filter, decide_eq_true_eq] at member
    rw [← member.2]
    exact Table.countFor_pos_of_mem member.1

theorem members_le_one (db : Accounts) (subscriber : Uuid) : (db.tally subscriber).members ≤ 1 :=
  Table.countFor_le_one db.subscribersKey subscriber

theorem members_eq_zero {row : SubscriberRow} (fresh : row.id ∉ db.subscribers.map SubscriberRow.id) :
    (db.tally row.id).members = 0 :=
  List.count_eq_zero_of_not_mem fresh

end Accounts

/-! ## What a step of a handler does -/

/-- A step of `Register`. -/
inductive RegisterActs (services : AccountServices) (db : Accounts) (body : Option Credentials) (turn : AccountTurn) :
    RegisterPhase -> Option Mishap -> Accounts -> RegisterPhase -> Prop where
  | refuses (reply : AccountReply) (rejected : reply.status ≠ 201) :
      RegisterActs services db body turn .started none db (.answered reply)
  | joins (row : SubscriberRow) (after : Accounts) (asked : newSubscriber services body turn = .ok row)
      (inserted : Accounts.insertSubscriber row db = .ok (row.id, after)) :
      RegisterActs services db body turn .started none after (.subscribing row.id)
  | joinsUnseen (row : SubscriberRow) (after : Accounts) (reply : AccountReply)
      (inserted : Accounts.insertSubscriber row db = .ok (row.id, after)) (rejected : reply.status ≠ 201) :
      RegisterActs services db body turn .started (some .registration) after (.answered reply)
  | subscribes (id : Uuid) (after : Accounts)
      (inserted : Accounts.insertSubscription (freeSubscription id turn) db = .ok ((), after)) :
      RegisterActs services db body turn (.subscribing id) none after (.answered (.created id.text))
  | subscribesUnseen (id : Uuid) (after : Accounts) (reply : AccountReply)
      (inserted : Accounts.insertSubscription (freeSubscription id turn) db = .ok ((), after))
      (rejected : reply.status ≠ 201) :
      RegisterActs services db body turn (.subscribing id) (some .registration) after (.answered reply)
  | abandons (id : Uuid) (reply : AccountReply) (rejected : reply.status ≠ 201) :
      RegisterActs services db body turn (.subscribing id) (some .registration) db (.answered reply)
  | stays (reply : AccountReply) : RegisterActs services db body turn (.answered reply) none db (.answered reply)

/-- A step of `HandleIssue`. -/
inductive IssueActs (db : Accounts) (turn : AccountTurn) :
    IssuePhase -> Option Mishap -> Accounts -> IssuePhase -> Prop where
  | refuses (reply : AccountReply) (rejected : reply.status ≠ 200) : IssueActs db turn .started none db (.refused reply)
  | selects (subscriber : Uuid) (signed : String) (found : 0 < (db.tally subscriber).subscriptions) :
      IssueActs db turn .started none db (.counting subscriber signed)
  | declines (subscriber : Uuid) (signed : String) (reply : AccountReply) (rejected : reply.status ≠ 200) :
      IssueActs db turn (.counting subscriber signed) none db (.refused reply)
  | counts (subscriber : Uuid) (signed : String) (after : Accounts)
      (updated : Accounts.countToken subscriber db = .ok ((), after)) :
      IssueActs db turn (.counting subscriber signed) none after (.recording subscriber signed)
  | countsUnseen (subscriber : Uuid) (signed : String) (after : Accounts) (reply : AccountReply)
      (updated : Accounts.countToken subscriber db = .ok ((), after)) (rejected : reply.status ≠ 200) :
      IssueActs db turn (.counting subscriber signed) (some .issuance) after (.refused reply)
  | records (subscriber : Uuid) (signed : String) (after : Accounts)
      (inserted : Accounts.insertEvent ⟨turn.id, subscriber, turn.now⟩ db = .ok ((), after)) :
      IssueActs db turn (.recording subscriber signed) none after (.issued subscriber signed)
  | recordsUnseen (subscriber : Uuid) (signed : String) (after : Accounts) (reply : AccountReply)
      (inserted : Accounts.insertEvent ⟨turn.id, subscriber, turn.now⟩ db = .ok ((), after))
      (rejected : reply.status ≠ 200) :
      IssueActs db turn (.recording subscriber signed) (some .issuance) after (.refused reply)
  | forgets (subscriber : Uuid) (signed : String) (reply : AccountReply) (rejected : reply.status ≠ 200) :
      IssueActs db turn (.recording subscriber signed) (some .issuance) db (.refused reply)
  | staysIssued (subscriber : Uuid) (signed : String) :
      IssueActs db turn (.issued subscriber signed) none db (.issued subscriber signed)
  | staysRefused (reply : AccountReply) : IssueActs db turn (.refused reply) none db (.refused reply)

section Acts

variable (services : AccountServices)

/-- No mishap of `Register`: its first `INSERT` does not take effect unseen, and its second succeeds. -/
def registrationSettles (db : Accounts) (turn : AccountTurn) : AccountJob -> Bool
  | .register body .started =>
      match newSubscriber services body turn with
      | .error _ => true
      | .ok row => !unseen (Accounts.insertSubscriber row) turn.delivery db
  | .register _ (.subscribing id) =>
      (execute (Accounts.insertSubscription (freeSubscription id turn)) turn.delivery db).1.isOk
  | _ => true

/-- No mishap of `HandleIssue`: its `UPDATE` does not take effect unseen, and the `INSERT` after it
succeeds. -/
def issuanceSettles (db : Accounts) (turn : AccountTurn) : AccountJob -> Bool
  | .issue _ _ (.counting subscriber _) => !unseen (Accounts.countToken subscriber) turn.delivery db
  | .issue _ _ (.recording subscriber _) =>
      (execute (Accounts.insertEvent ⟨turn.id, subscriber, turn.now⟩) turn.delivery db).1.isOk
  | _ => true

variable {services} {db : Accounts} {turn : AccountTurn}

theorem newSubscriber_error {body : Option Credentials} {reply : AccountReply}
    (refused : newSubscriber services body turn = .error reply) : reply.status ≠ 201 := by
  unfold newSubscriber at refused
  split at refused
  · cases refused
    decide
  · split_ifs at refused
    · cases refused
      decide
    · split at refused
      · cases refused
        decide
      · cases refused
    · cases refused
      decide

theorem registerStep_acts (body : Option Credentials) (phase : RegisterPhase) :
    ∃ mishap after next, registerStep services db body phase turn = (after, next) ∧
      RegisterActs services db body turn phase mishap after next ∧
      (registrationSettles services db turn (.register body phase) = true -> mishap = none) := by
  cases phase with
  | started =>
      cases asked : newSubscriber services body turn with
      | error reply =>
          refine ⟨none, db, .answered reply, ?_, .refuses reply (newSubscriber_error asked), fun _ => rfl⟩
          simp only [registerStep, asked]
      | ok row =>
          -- 409 or 500: the error says which, and not whether the row is there
          have answers : forall e after, execute (Accounts.insertSubscriber row) turn.delivery db = (.error e, after) ->
              ∃ reply : AccountReply, reply.status ≠ 201 ∧
                registerStep services db body .started turn = (after, .answered reply) := by
            intro e after reported
            simp only [registerStep, asked, reported]
            split_ifs
            · exact ⟨_, by decide, rfl⟩
            · exact ⟨_, by decide, rfl⟩
          rcases execute_cases (Accounts.insertSubscriber row) turn.delivery db with
            ⟨id, after, reported, inserted⟩ | ⟨e, reported⟩ | ⟨e, id, after, reported, hidden, inserted⟩
          · cases (Accounts.insertSubscriber_ok inserted).1
            refine ⟨none, after, .subscribing row.id, ?_, .joins row after asked inserted, fun _ => rfl⟩
            simp only [registerStep, asked, reported]
          · rcases answers e db reported with ⟨reply, rejected, answered⟩
            exact ⟨none, db, _, answered, .refuses reply rejected, fun _ => rfl⟩
          · cases (Accounts.insertSubscriber_ok inserted).1
            rcases answers e after reported with ⟨reply, rejected, answered⟩
            refine ⟨_, after, _, answered, .joinsUnseen row after reply inserted rejected, ?_⟩
            intro settles
            simp only [registrationSettles, asked, hidden, Bool.not_true, Bool.false_eq_true] at settles
  | subscribing id =>
      rcases execute_cases (Accounts.insertSubscription (freeSubscription id turn)) turn.delivery db with
        ⟨value, after, reported, inserted⟩ | ⟨e, reported⟩ | ⟨e, value, after, reported, -, inserted⟩
      · refine ⟨none, after, _, ?_, .subscribes id after inserted, fun _ => rfl⟩
        simp only [registerStep, reported]
      · refine ⟨_, db, .answered (.error 500 "internal"), ?_, .abandons id _ (by decide), ?_⟩
        · simp only [registerStep, reported]
        · simp [registrationSettles, reported, Except.isOk, Except.toBool]
      · refine ⟨_, after, .answered (.error 500 "internal"), ?_,
          .subscribesUnseen id after _ inserted (by decide), ?_⟩
        · simp only [registerStep, reported]
        · simp [registrationSettles, reported, Except.isOk, Except.toBool]
  | answered reply => exact ⟨none, db, .answered reply, rfl, .stays reply, fun _ => rfl⟩

theorem sessionSubscriber_error {subID : Option String} {reply : AccountReply}
    (refused : sessionSubscriber services subID = .error reply) : reply.status ≠ 200 := by
  unfold sessionSubscriber at refused
  split at refused
  · cases refused
    decide
  · split_ifs at refused
    · cases refused
      decide
    · split at refused
      · cases refused
        decide
      · cases refused

theorem signBlinded_error {found : Except SqlError SubscriptionStatus} {blinded : Option String} {reply : AccountReply}
    (refused : signBlinded services found blinded = .error reply) : reply.status ≠ 200 := by
  unfold signBlinded at refused
  split at refused
  · cases refused
    decide
  · cases refused
    decide
  · split_ifs at refused
    · cases refused
      decide
    · split at refused
      · cases refused
        decide
      · split at refused
        · cases refused
          exact (by decide : (400 : Nat) ≠ 200)
        · cases refused

/-- A signature needs a subscription. -/
theorem signBlinded_ok {found : Except SqlError SubscriptionStatus} {blinded : Option String} {signed : String}
    (accepted : signBlinded services found blinded = .ok signed) : ∃ status, found = .ok status := by
  cases found with
  | ok status => exact ⟨status, rfl⟩
  | error e => cases e <;> cases accepted

theorem handleIssueStep_acts (subID blinded : Option String) (phase : IssuePhase) :
    ∃ mishap after next, handleIssueStep services db subID blinded phase turn = (after, next) ∧
      IssueActs db turn phase mishap after next ∧
      (issuanceSettles db turn (.issue subID blinded phase) = true -> mishap = none) := by
  cases phase with
  | started =>
      cases session : sessionSubscriber services subID with
      | error reply =>
          refine ⟨none, db, .refused reply, ?_, .refuses reply (sessionSubscriber_error session), fun _ => rfl⟩
          simp only [handleIssueStep, session]
      | ok subscriber =>
          cases answer : signBlinded services (ask (Accounts.selectStatus subscriber) turn.delivery db) blinded with
          | error reply =>
              refine ⟨none, db, .refused reply, ?_, .refuses reply (signBlinded_error answer), fun _ => rfl⟩
              simp only [handleIssueStep, session, answer]
          | ok signed =>
              rcases signBlinded_ok answer with ⟨status, asked⟩
              have found := Accounts.subscriptions_pos_of_selectStatus (ask_ok asked)
              refine ⟨none, db, .counting subscriber signed, ?_, .selects subscriber signed found, fun _ => rfl⟩
              simp only [handleIssueStep, session, answer]
  | counting subscriber signed =>
      rcases execute_cases (Accounts.countToken subscriber) turn.delivery db with
        ⟨value, after, reported, updated⟩ | ⟨e, reported⟩ | ⟨e, value, after, reported, hidden, updated⟩
      · refine ⟨none, after, _, ?_, .counts subscriber signed after updated, fun _ => rfl⟩
        simp only [handleIssueStep, reported]
      · refine ⟨none, db, .refused (.error 500 "internal"), ?_, .declines subscriber signed _ (by decide),
          fun _ => rfl⟩
        simp only [handleIssueStep, reported]
      · refine ⟨_, after, .refused (.error 500 "internal"), ?_,
          .countsUnseen subscriber signed after _ updated (by decide), ?_⟩
        · simp only [handleIssueStep, reported]
        · intro settles
          simp only [issuanceSettles, hidden, Bool.not_true, Bool.false_eq_true] at settles
  | recording subscriber signed =>
      rcases execute_cases (Accounts.insertEvent ⟨turn.id, subscriber, turn.now⟩) turn.delivery db with
        ⟨value, after, reported, inserted⟩ | ⟨e, reported⟩ | ⟨e, value, after, reported, -, inserted⟩
      · refine ⟨none, after, _, ?_, .records subscriber signed after inserted, fun _ => rfl⟩
        simp only [handleIssueStep, reported]
      · refine ⟨_, db, .refused (.error 500 "internal"), ?_, .forgets subscriber signed _ (by decide), ?_⟩
        · simp only [handleIssueStep, reported]
        · simp [issuanceSettles, reported, Except.isOk, Except.toBool]
      · refine ⟨_, after, .refused (.error 500 "internal"), ?_,
          .recordsUnseen subscriber signed after _ inserted (by decide), ?_⟩
        · simp only [handleIssueStep, reported]
        · simp [issuanceSettles, reported, Except.isOk, Except.toBool]
  | issued subscriber signed => exact ⟨none, db, _, rfl, .staysIssued subscriber signed, fun _ => rfl⟩
  | refused reply => exact ⟨none, db, _, rfl, .staysRefused reply, fun _ => rfl⟩

/-- An approval changes no number. -/
theorem handleApproveSubscriber_frame (id : String) :
    (handleApproveSubscriber services db id turn).1.subscribers = db.subscribers ∧
    (handleApproveSubscriber services db id turn).1.tokenIssuanceEvents = db.tokenIssuanceEvents ∧
    forall subscriber, (handleApproveSubscriber services db id turn).1.tally subscriber = db.tally subscriber := by
  unfold handleApproveSubscriber
  split_ifs
  · exact ⟨rfl, rfl, fun _ => rfl⟩
  · split
    · exact ⟨rfl, rfl, fun _ => rfl⟩
    · rename_i approved _
      have frame : forall after outcome, execute (Accounts.approve approved) turn.delivery db = (outcome, after) ->
          after.subscribers = db.subscribers ∧ after.tokenIssuanceEvents = db.tokenIssuanceEvents ∧
          forall subscriber, after.tally subscriber = db.tally subscriber := by
        intro after outcome reported
        rcases execute_cases (Accounts.approve approved) turn.delivery db with
          ⟨subID, result, known, updated⟩ | ⟨e, known⟩ | ⟨e, subID, result, known, -, updated⟩
        · cases reported.symm.trans known
          exact Accounts.approve_ok updated
        · cases reported.symm.trans known
          exact ⟨rfl, rfl, fun _ => rfl⟩
        · cases reported.symm.trans known
          exact Accounts.approve_ok updated
      split
      · exact frame _ _ (by assumption)
      · exact frame _ _ (by assumption)
      · exact frame _ _ (by assumption)

end Acts

end Authority
end QuietHop
