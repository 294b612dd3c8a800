import QuietHop.Authority.Bookkeeping

namespace QuietHop
namespace Authority

open Lib Lib.Threads Net

/-!
# Issuance

`HandleIssue` counts a token by one statement and records its event by another, and returns the
signature only after both.  So no signature is returned that was not counted, whatever fails.  A
request that fails after the count has still been counted, and the count then exceeds the events
for good.
-/

variable {services : AccountServices}

/-- A request that was counted, and has its signature or will. -/
def AccountJob.charged : AccountJob -> Bool
  | .issue _ _ (.recording _ _) => true
  | .issue _ _ (.issued _ _) => true
  | _ => false

/-- What issuance writes: the sum of each subscriber, and the events. -/
def Accounts.issuance (db : Accounts) : (Uuid -> Nat) × List IssuanceEvent := (db.tokensIssued, db.tokenIssuanceEvents)

theorem Accounts.issuance_eq {db after : Accounts} (sameEvents : after.tokenIssuanceEvents = db.tokenIssuanceEvents)
    (sameTokens : forall subscriber, (after.tally subscriber).tokens = (db.tally subscriber).tokens) :
    after.issuance = db.issuance := by
  have same : after.tokensIssued = db.tokensIssued := by
    funext subscriber
    exact sameTokens subscriber
  rw [issuance, issuance, same, sameEvents]

theorem RegisterActs.issuance {db after : Accounts} {body : Option Credentials} {turn : AccountTurn}
    {phase next : RegisterPhase} {mishap : Option Mishap}
    (acts : RegisterActs services db body turn phase mishap after next) : after.issuance = db.issuance := by
  cases acts with
  | joins row after asked inserted =>
      rcases Accounts.insertSubscriber_ok inserted with ⟨-, -, -, sameEvents, tallies⟩
      exact Accounts.issuance_eq sameEvents fun subscriber => by rw [tallies]
  | joinsUnseen row after reply inserted rejected =>
      rcases Accounts.insertSubscriber_ok inserted with ⟨-, -, -, sameEvents, tallies⟩
      exact Accounts.issuance_eq sameEvents fun subscriber => by rw [tallies]
  | subscribes id after inserted =>
      rcases Accounts.insertSubscription_ok inserted rfl with ⟨-, sameEvents, tallies⟩
      exact Accounts.issuance_eq sameEvents fun subscriber => by rw [tallies]
  | subscribesUnseen id after reply inserted rejected =>
      rcases Accounts.insertSubscription_ok inserted rfl with ⟨-, sameEvents, tallies⟩
      exact Accounts.issuance_eq sameEvents fun subscriber => by rw [tallies]
  | _ => rfl

/-- A step without mishap leaves count and events, or its request is charged. -/
theorem accountStep_issuance (db : Accounts) (turn : AccountTurn) (job : AccountJob)
    (settles : issuanceSettles db turn job = true) :
    (accountStep services db job turn).1.issuance = db.issuance ∨
      (accountStep services db job turn).2.charged = true := by
  cases job with
  | register body phase =>
      rcases @registerStep_acts services db turn body phase with ⟨mishap, after, next, stepped, acts, -⟩
      simp only [accountStep, stepped]
      exact Or.inl acts.issuance
  | approve id answer =>
      cases answer with
      | some reply => exact Or.inl rfl
      | none =>
          rcases @handleApproveSubscriber_frame services db turn id with ⟨-, sameEvents, tallies⟩
          have sameTokens := fun subscriber => congrArg Tally.tokens (tallies subscriber)
          exact Or.inl (Accounts.issuance_eq sameEvents sameTokens)
  | issue subID blinded phase =>
      rcases @handleIssueStep_acts services db turn subID blinded phase with
        ⟨mishap, after, next, stepped, acts, settled⟩
      cases settled settles
      simp only [accountStep, stepped]
      cases acts with
      | counts subscriber signed after updated => exact Or.inr rfl
      | records subscriber signed after inserted => exact Or.inr rfl
      | _ => exact Or.inl rfl
  | listTokens subID phase => exact Or.inl rfl

/-- A charged request gets its signature. -/
theorem accountStep_charged (db : Accounts) (turn : AccountTurn) (job : AccountJob)
    (settles : issuanceSettles db turn job = true) (charged : job.charged = true) :
    (accountStep services db job turn).2.charged = true := by
  cases job with
  | register body phase => cases charged
  | approve id answer => cases charged
  | listTokens subID phase => cases charged
  | issue subID blinded phase =>
      rcases @handleIssueStep_acts services db turn subID blinded phase with
        ⟨mishap, after, next, stepped, acts, settled⟩
      cases settled settles
      simp only [accountStep, stepped]
      cases acts with
      | counts subscriber signed after updated => rfl
      | records subscriber signed after inserted => rfl
      | staysIssued subscriber signed => rfl
      | _ => cases charged

/-- Issuance is all or nothing where the `INSERT` of the event succeeds and the `UPDATE` of the
count never takes effect unseen.  A request that is not answered with 200 has changed neither the
counts nor the events.  The tokens counted for a subscriber are its events and the requests between
the two statements, and are at least the signatures it got. -/
theorem issuance_all_or_nothing (services : AccountServices) (moves : List (Move AccountJob AccountTurn))
    (begun : ∀ next ∈ moves, Begun next)
    (settles : Obeys (accountStep services) (Meets issuanceSettles) ⟨Accounts.empty, []⟩ moves) :
    (forall (index : Nat) (subID blinded : Option String) (phase : IssuePhase) (reply : AccountReply),
      (accounts services moves).threads[index]? = some (.issue subID blinded phase) ->
      (AccountJob.issue subID blinded phase).reply = some reply -> reply.status ≠ 200 ->
      LeavesAlone services Accounts.issuance moves index) ∧
    forall subscriber : Uuid,
      (accounts services moves).shared.tokensIssued subscriber =
        Table.countFor IssuanceEvent.subscriberId (accounts services moves).shared.tokenIssuanceEvents subscriber +
          (accounts services moves).threads.countP (·.recording subscriber) ∧
      (accounts services moves).threads.countP (·.issued subscriber) ≤
        (accounts services moves).shared.tokensIssued subscriber := by
  constructor
  · intro index subID blinded phase reply found answered rejected
    have free : (AccountJob.issue subID blinded phase).charged = false := by
      cases phase with
      | recording subscriber signed => cases answered
      | issued subscriber signed =>
          cases answered
          exact absurd rfl rejected
      | _ => rfl
    exact leavesAlone_of_not_engaged accountStep_issuance accountStep_charged settles found free
  · intro subscriber
    have balanced := booksAfter_balanced begun settles subscriber
    have sound := @booksAfter_sound services moves begun subscriber
    refine ⟨balanced, ?_⟩
    calc (booksAfter services moves subscriber).issued
        ≤ (booksAfter services moves subscriber).events := sound.returned
      _ ≤ (booksAfter services moves subscriber).events + (booksAfter services moves subscriber).recording :=
          Nat.le_add_right ..
      _ ≤ (booksAfter services moves subscriber).tokens := sound.counted

namespace Sample

/-- A subscriber registers and is approved. -/
def approved : List (Move AccountJob AccountTurn) :=
  [.spawn (registerRequest "user@example.com"), .advance 0 (executed 1), .advance 0 (executed 2),
    .spawn (.approve (uuid 1).text none), .advance 1 (executed 3)]

def issueRequest : AccountJob := .issue (some (uuid 1).text) (some "02") .started

/-- A request for a token that is cancelled after the count. -/
def unrecorded : List (Move AccountJob AccountTurn) :=
  approved ++ [.spawn issueRequest, .advance 2 (executed 4), .advance 2 (executed 5), .advance 2 (cancelled 6)]

/-- A request that is answered, one that is cancelled before the count, and one between its
statements. -/
def issuing : List (Move AccountJob AccountTurn) :=
  approved ++ [.spawn issueRequest, .spawn issueRequest, .spawn issueRequest, .advance 2 (executed 4),
    .advance 3 (executed 5), .advance 4 (executed 6), .advance 2 (executed 7), .advance 4 (executed 8),
    .advance 3 (cancelled 9), .advance 2 (executed 10)]

theorem issuing_begun : ∀ next ∈ issuing, Begun next := by
  simp [issuing, approved, issueRequest, registerRequest, Begun]

end Sample

/-- A request that is answered with 500 has been counted, and no event says so. -/
theorem issuance_unrecorded :
    (∀ next ∈ Sample.unrecorded, Begun next) ∧
    ((accounts Sample.accountServices Sample.unrecorded).threads[2]?).bind AccountJob.reply =
      some (.error 500 "internal") ∧
    ¬ LeavesAlone Sample.accountServices Accounts.issuance Sample.unrecorded 2 ∧
    (accounts Sample.accountServices Sample.unrecorded).shared.tokensIssued (Sample.uuid 1) = 1 ∧
    (accounts Sample.accountServices Sample.unrecorded).shared.tokenIssuanceEvents.length = 0 := by
  refine ⟨by simp [Sample.unrecorded, Sample.approved, Sample.issueRequest, Sample.registerRequest, Begun],
    by decide +kernel, ?_, by decide +kernel, by decide +kernel⟩
  intro leaves
  have counted := leaves (Sample.approved ++ [.spawn Sample.issueRequest, .advance 2 (Sample.executed 4)]) _ _ rfl
  have same := congrFun (congrArg Prod.fst counted) (Sample.uuid 1)
  revert same
  decide +kernel

theorem issuance_all_or_nothing_issuing :
    ((accounts Sample.accountServices Sample.issuing).threads.map AccountJob.reply).drop 2 =
      [some (.signed "0403"), some (.error 500 "internal"), none] ∧
    LeavesAlone Sample.accountServices Accounts.issuance Sample.issuing 3 ∧
    (accounts Sample.accountServices Sample.issuing).shared.tokensIssued (Sample.uuid 1) = 1 + 1 := by
  have settles : Obeys (accountStep Sample.accountServices) (Meets issuanceSettles) ⟨Accounts.empty, []⟩
      Sample.issuing := by decide +kernel
  have result := issuance_all_or_nothing Sample.accountServices Sample.issuing Sample.issuing_begun settles
  refine ⟨by decide +kernel, ?_, ?_⟩
  · exact result.1 3 _ _ (.refused (.error 500 "internal")) (.error 500 "internal") rfl rfl (by decide)
  · rw [(result.2 (Sample.uuid 1)).1]
    decide +kernel

end Authority
end QuietHop
