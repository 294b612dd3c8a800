import QuietHop.Authority.Login
import QuietHop.Authority.Relays
import QuietHop.Lib.Statement
import QuietHop.Lib.Table

namespace QuietHop
namespace Authority

open Lib Lib.Threads Net

/-!
# Accounts

A subscriber registers, an administrator approves the subscription, and the subscriber then has
tokens signed.  `Register` and `HandleIssue` each write two tables, by two statements outside any
transaction.  Requests run at the same time, so a request may stop between its statements, and a
statement may fail, or be executed and still be reported as failed.

The tables carry the constraints the database enforces.
-/

/-! ## The tables -/

/-- A row of `subscribers`. -/
structure SubscriberRow where
  id : Uuid
  email : String
  password : String

inductive SubscriptionStatus where
  | pendingReview
  | active
  deriving DecidableEq

/-- A row of `subscriptions`. -/
structure SubscriptionRow where
  id : Uuid
  subscriberId : Uuid
  tier : String
  status : SubscriptionStatus
  tokensIssued : Nat
  currentPeriodStart : Int
  currentPeriodEnd : Int
  createdAt : Int

/-- A row of `token_issuance_events`. -/
structure IssuanceEvent where
  id : Uuid
  subscriberId : Uuid
  issuedAt : Int

structure Accounts where
  subscribers : List SubscriberRow
  subscriptions : List SubscriptionRow
  tokenIssuanceEvents : List IssuanceEvent
  subscribersKey : (subscribers.map SubscriberRow.id).Nodup
  emailUnique : (subscribers.map SubscriberRow.email).Nodup
  subscriptionsKey : (subscriptions.map SubscriptionRow.id).Nodup
  eventsKey : (tokenIssuanceEvents.map IssuanceEvent.id).Nodup
  subscriptionsOwned : ∀ row ∈ subscriptions, row.subscriberId ∈ subscribers.map SubscriberRow.id
  eventsOwned : ∀ event ∈ tokenIssuanceEvents, event.subscriberId ∈ subscribers.map SubscriberRow.id

/-- What a statement reports: no row, an error of the server with its code, or a failure of the
connection. -/
inductive SqlError where
  | noRows
  | server (code : String)
  | other (text : String)

def isUniqueViolation : SqlError -> Bool
  | .server code => code = "23505"
  | _ => false

namespace Accounts

def empty : Accounts where
  subscribers := []
  subscriptions := []
  tokenIssuanceEvents := []
  subscribersKey := List.nodup_nil
  emailUnique := List.nodup_nil
  subscriptionsKey := List.nodup_nil
  eventsKey := List.nodup_nil
  subscriptionsOwned := fun _ member => absurd member List.not_mem_nil
  eventsOwned := fun _ member => absurd member List.not_mem_nil

/-- The `INSERT` of `Register` into `subscribers`. -/
def insertSubscriber (row : SubscriberRow) (db : Accounts) : Except SqlError (Uuid × Accounts) :=
  if ¬ [row.email, row.password].all storable then .error (.server "22021")
  else if known : row.id ∈ db.subscribers.map SubscriberRow.id then .error (.server "23505")
  else if taken : row.email ∈ db.subscribers.map SubscriberRow.email then .error (.server "23505")
  else .ok (row.id, { db with
    subscribers := db.subscribers ++ [row]
    subscribersKey := Table.nodup_concat db.subscribersKey known
    emailUnique := Table.nodup_concat db.emailUnique taken
    subscriptionsOwned := fun other member => Table.mem_concat (db.subscriptionsOwned other member) row
    eventsOwned := fun event member => Table.mem_concat (db.eventsOwned event member) row })

/-- The `INSERT` of `Register` into `subscriptions`. -/
def insertSubscription (row : SubscriptionRow) (db : Accounts) : Except SqlError (Unit × Accounts) :=
  if known : row.id ∈ db.subscriptions.map SubscriptionRow.id then .error (.server "23505")
  else if owned : row.subscriberId ∈ db.subscribers.map SubscriberRow.id then .ok ((), { db with
    subscriptions := db.subscriptions ++ [row]
    subscriptionsKey := Table.nodup_concat db.subscriptionsKey known
    subscriptionsOwned := fun other member => by
      rcases List.mem_append.mp member with old | new
      · exact db.subscriptionsOwned other old
      · rw [List.mem_singleton.mp new]
        exact owned })
  else .error (.server "23503")

/-- The `INSERT` of `HandleIssue`. -/
def insertEvent (event : IssuanceEvent) (db : Accounts) : Except SqlError (Unit × Accounts) :=
  if known : event.id ∈ db.tokenIssuanceEvents.map IssuanceEvent.id then .error (.server "23505")
  else if owned : event.subscriberId ∈ db.subscribers.map SubscriberRow.id then .ok ((), { db with
    tokenIssuanceEvents := db.tokenIssuanceEvents ++ [event]
    eventsKey := Table.nodup_concat db.eventsKey known
    eventsOwned := fun other member => by
      rcases List.mem_append.mp member with old | new
      · exact db.eventsOwned other old
      · rw [List.mem_singleton.mp new]
        exact owned })
  else .error (.server "23503")

/-- An `UPDATE` of the subscriptions that leaves the columns the constraints are about. -/
def updateSubscriptions (db : Accounts) (update : SubscriptionRow -> SubscriptionRow)
    (sameId : forall row, (update row).id = row.id)
    (sameOwner : forall row, (update row).subscriberId = row.subscriberId) : Accounts :=
  { db with
    subscriptions := db.subscriptions.map update
    subscriptionsKey := by
      rw [Table.map_update sameId]
      exact db.subscriptionsKey
    subscriptionsOwned := fun row member => by
      rcases List.mem_map.mp member with ⟨old, oldMember, rfl⟩
      rw [sameOwner]
      exact db.subscriptionsOwned old oldMember }

/-- The newest subscription of a subscriber.  The database may return any of several with the same
time; no subscriber has more than one. -/
def newest (db : Accounts) (subscriber : Uuid) : Option SubscriptionRow :=
  Table.latest SubscriptionRow.createdAt (db.subscriptions.filter (·.subscriberId = subscriber))

def activate (subscriber : Uuid) (time : Int) (row : SubscriptionRow) : SubscriptionRow :=
  if row.subscriberId = subscriber ∧ row.createdAt = time then { row with status := .active } else row

theorem activate_id (subscriber : Uuid) (time : Int) (row : SubscriptionRow) :
    (activate subscriber time row).id = row.id := by
  unfold activate
  split <;> rfl

theorem activate_subscriberId (subscriber : Uuid) (time : Int) (row : SubscriptionRow) :
    (activate subscriber time row).subscriberId = row.subscriberId := by
  unfold activate
  split <;> rfl

theorem activate_tokensIssued (subscriber : Uuid) (time : Int) (row : SubscriptionRow) :
    (activate subscriber time row).tokensIssued = row.tokensIssued := by
  unfold activate
  split <;> rfl

/-- The `UPDATE` of `HandleApproveSubscriber`. -/
def approve (subscriber : Uuid) (db : Accounts) : Except SqlError (Uuid × Accounts) :=
  match db.newest subscriber with
  | none => .error .noRows
  | some row => .ok (subscriber, db.updateSubscriptions (activate subscriber row.createdAt)
      (activate_id subscriber _) (activate_subscriberId subscriber _))

def maxBigint : Nat := 9223372036854775807

def count (subscriber : Uuid) (row : SubscriptionRow) : SubscriptionRow :=
  if row.subscriberId = subscriber then { row with tokensIssued := row.tokensIssued + 1 } else row

theorem count_id (subscriber : Uuid) (row : SubscriptionRow) : (count subscriber row).id = row.id := by
  unfold count
  split <;> rfl

theorem count_subscriberId (subscriber : Uuid) (row : SubscriptionRow) :
    (count subscriber row).subscriberId = row.subscriberId := by
  unfold count
  split <;> rfl

/-- The `UPDATE` of `HandleIssue`, on every subscription of the subscriber. -/
def countToken (subscriber : Uuid) (db : Accounts) : Except SqlError (Unit × Accounts) :=
  if db.subscriptions.any fun row => row.subscriberId = subscriber ∧ maxBigint ≤ row.tokensIssued then
    .error (.server "22003")
  else .ok ((), db.updateSubscriptions (count subscriber) (count_id subscriber) (count_subscriberId subscriber))

/-- What `HandleListTokens` adds up. -/
def tokensIssued (db : Accounts) (subscriber : Uuid) : Nat :=
  Table.sumFor SubscriptionRow.subscriberId SubscriptionRow.tokensIssued db.subscriptions subscriber

/-- The first query of `HandleListTokens`. -/
def selectCount (subscriber : Uuid) (db : Accounts) : Except SqlError Nat :=
  if maxBigint < db.tokensIssued subscriber then .error (.server "22003") else .ok (db.tokensIssued subscriber)

/-- The second query of `HandleListTokens`: the fifty newest events. -/
def selectRecent (subscriber : Uuid) (db : Accounts) : Except SqlError (List IssuanceEvent) :=
  .ok (((db.tokenIssuanceEvents.filter (·.subscriberId = subscriber)).insertionSort fun first second =>
    second.issuedAt ≤ first.issuedAt).take 50)

/-- The query of `HandleIssue`. -/
def selectStatus (subscriber : Uuid) (db : Accounts) : Except SqlError SubscriptionStatus :=
  match db.newest subscriber with
  | none => .error .noRows
  | some row => .ok row.status

end Accounts

/-! ## The handlers -/

/-- The JSON a handler writes.  An approval also names the status, which is always `active`. -/
inductive AccountReply where
  | error (status : Nat) (text : String)
  | created (id : String)
  | approved (id : String)
  | signed (signed : String)
  | tokens (tokensIssued : Nat) (recent : List (String × String))
  deriving DecidableEq

def AccountReply.status : AccountReply -> Nat
  | .error status _ => status
  | .created _ => 201
  | .approved _ => 200
  | .signed _ => 200
  | .tokens _ _ => 200

/-- `mail.ParseAddress`, the reading of a parameter as a `UUID`, and the blind signer. -/
structure AccountServices where
  parseAddress : String -> Bool
  uuidIn : String -> Except SqlError Uuid
  signer : Signer

/-- What a step meets: the id and the time the database draws, the password hash with its random
salt, and what becomes of the statement. -/
structure AccountTurn where
  id : Uuid
  now : Int
  hash : Except String String
  delivery : Delivery SqlError

inductive RegisterPhase where
  | started
  | subscribing (id : Uuid)
  | answered (reply : AccountReply)

inductive IssuePhase where
  | started
  | counting (subscriber : Uuid) (signed : String)
  | recording (subscriber : Uuid) (signed : String)
  | issued (subscriber : Uuid) (signed : String)
  | refused (reply : AccountReply)

inductive ListPhase where
  | started
  | listing (subscriber : Uuid) (tokensIssued : Nat)
  | answered (reply : AccountReply)

/-- A request: what it carries and where it stands. A body is nothing when it does not decode, and
`subID` is what the session has put into the context. -/
inductive AccountJob where
  | register (body : Option Credentials) (phase : RegisterPhase)
  | approve (id : String) (answer : Option AccountReply)
  | issue (subID : Option String) (blinded : Option String) (phase : IssuePhase)
  | listTokens (subID : Option String) (phase : ListPhase)

def AccountJob.reply : AccountJob -> Option AccountReply
  | .register _ (.answered reply) => some reply
  | .approve _ answer => answer
  | .issue _ _ (.issued _ signed) => some (.signed signed)
  | .issue _ _ (.refused reply) => some reply
  | .listTokens _ (.answered reply) => some reply
  | _ => none

def freeSubscription (subscriber : Uuid) (turn : AccountTurn) : SubscriptionRow where
  id := turn.id
  subscriberId := subscriber
  tier := "free"
  status := .pendingReview
  tokensIssued := 0
  currentPeriodStart := turn.now
  currentPeriodEnd := turn.now + 30 * 24 * nanosPerHour
  createdAt := turn.now

variable (services : AccountServices)

/-- `Register` up to its first statement. -/
def newSubscriber (body : Option Credentials) (turn : AccountTurn) : Except AccountReply SubscriberRow :=
  match body with
  | none => .error (.error 400 "invalid_request")
  | some req =>
      if ¬ services.parseAddress req.email then .error (.error 400 "invalid_email")
      else if req.password.utf8ByteSize < 16 then .error (.error 400 "password_too_short")
      else
        match turn.hash with
        | .error _ => .error (.error 500 "internal")
        | .ok hash => .ok ⟨turn.id, req.email, hash⟩

/-- The next step of `Register`. -/
def registerStep (db : Accounts) (body : Option Credentials) (phase : RegisterPhase) (turn : AccountTurn) :
    Accounts × RegisterPhase :=
  match phase with
  | .started =>
      match newSubscriber services body turn with
      | .error reply => (db, .answered reply)
      | .ok row =>
          match execute (Accounts.insertSubscriber row) turn.delivery db with
          | (.ok id, after) => (after, .subscribing id)
          | (.error e, after) =>
              if isUniqueViolation e then (after, .answered (.error 409 "email_exists"))
              else (after, .answered (.error 500 "internal"))
  | .subscribing id =>
      match execute (Accounts.insertSubscription (freeSubscription id turn)) turn.delivery db with
      | (.ok (), after) => (after, .answered (.created id.text))
      | (.error _, after) => (after, .answered (.error 500 "internal"))
  | .answered reply => (db, .answered reply)

/-- `HandleApproveSubscriber`. -/
def handleApproveSubscriber (db : Accounts) (id : String) (turn : AccountTurn) : Accounts × AccountReply :=
  if id = "" then (db, .error 400 "missing_id")
  else
    match services.uuidIn id with
    | .error _ => (db, .error 500 "internal")
    | .ok subscriber =>
        match execute (Accounts.approve subscriber) turn.delivery db with
        | (.ok subID, after) => (after, .approved subID.text)
        | (.error .noRows, after) => (after, .error 404 "not_found")
        | (.error _, after) => (after, .error 500 "internal")

/-- The subscriber of the session, as the statements take it. -/
def sessionSubscriber (subID : Option String) : Except AccountReply Uuid :=
  match subID with
  | none => .error (.error 401 "unauthorized")
  | some text =>
      if text = "" then .error (.error 401 "unauthorized")
      else
        match services.uuidIn text with
        | .error _ => .error (.error 500 "internal")
        | .ok subscriber => .ok subscriber

/-- `HandleIssue` from the status of the subscription to the signature. -/
def signBlinded (found : Except SqlError SubscriptionStatus) (blinded : Option String) : Except AccountReply String :=
  match found with
  | .error .noRows => .error (.error 403 "no_active_subscription")
  | .error _ => .error (.error 500 "internal")
  | .ok status =>
      if status ≠ .active then .error (.error 403 "no_active_subscription")
      else
        match blinded with
        | none => .error (.error 400 "invalid_request")
        | some text =>
            match issueSigned services.signer text with
            | .error e => .error (.error 400 e)
            | .ok signed => .ok signed

/-- The next step of `HandleIssue`. -/
def handleIssueStep (db : Accounts) (subID blinded : Option String) (phase : IssuePhase) (turn : AccountTurn) :
    Accounts × IssuePhase :=
  match phase with
  | .started =>
      match sessionSubscriber services subID with
      | .error reply => (db, .refused reply)
      | .ok subscriber =>
          match signBlinded services (ask (Accounts.selectStatus subscriber) turn.delivery db) blinded with
          | .error reply => (db, .refused reply)
          | .ok signed => (db, .counting subscriber signed)
  | .counting subscriber signed =>
      match execute (Accounts.countToken subscriber) turn.delivery db with
      | (.ok (), after) => (after, .recording subscriber signed)
      | (.error _, after) => (after, .refused (.error 500 "internal"))
  | .recording subscriber signed =>
      match execute (Accounts.insertEvent ⟨turn.id, subscriber, turn.now⟩) turn.delivery db with
      | (.ok (), after) => (after, .issued subscriber signed)
      | (.error _, after) => (after, .refused (.error 500 "internal"))
  | .issued subscriber signed => (db, .issued subscriber signed)
  | .refused reply => (db, .refused reply)

/-- The next step of `HandleListTokens`, which writes nothing. -/
def handleListTokensStep (db : Accounts) (subID : Option String) (phase : ListPhase) (turn : AccountTurn) : ListPhase :=
  match phase with
  | .started =>
      match sessionSubscriber services subID with
      | .error reply => .answered reply
      | .ok subscriber =>
          match ask (Accounts.selectCount subscriber) turn.delivery db with
          | .error _ => .answered (.error 500 "internal")
          | .ok tokensIssued => .listing subscriber tokensIssued
  | .listing subscriber tokensIssued =>
      match ask (Accounts.selectRecent subscriber) turn.delivery db with
      | .error _ => .answered (.error 500 "internal")
      | .ok events => .answered (.tokens tokensIssued (events.map fun event => (event.id.text, stamp event.issuedAt)))
  | .answered reply => .answered reply

def accountStep (db : Accounts) (job : AccountJob) (turn : AccountTurn) : Accounts × AccountJob :=
  match job with
  | .register body phase =>
      ((registerStep services db body phase turn).1, .register body (registerStep services db body phase turn).2)
  | .approve id none =>
      ((handleApproveSubscriber services db id turn).1,
        .approve id (some (handleApproveSubscriber services db id turn).2))
  | .approve id (some reply) => (db, .approve id (some reply))
  | .issue subID blinded phase =>
      ((handleIssueStep services db subID blinded phase turn).1,
        .issue subID blinded (handleIssueStep services db subID blinded phase turn).2)
  | .listTokens subID phase => (db, .listTokens subID (handleListTokensStep services db subID phase turn))

/-- The tables and the requests after some moves, from empty tables. -/
def accounts (moves : List (Move AccountJob AccountTurn)) : Pool Accounts AccountJob :=
  run (accountStep services) ⟨Accounts.empty, []⟩ moves

end Authority
end QuietHop
