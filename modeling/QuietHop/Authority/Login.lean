import Mathlib.Data.Int.Order.Basic
import Mathlib.Logic.Function.Basic
import QuietHop.Lib.Threads

namespace QuietHop
namespace Authority

open Lib Lib.Threads

/-!
# The login limiter

`Login` asks the limiter first and charges it only once the password has been found wrong, with
a slow Argon2 computation in between.  Requests that run at the same time all pass the check
before any of them is charged, so the limit does not bound them.

What the limiter counts is what has been recorded.  As long as every check that passes leaves
room also for the requests of the same address that have passed theirs and are still running,
the bound holds over every interval shorter than the window.
-/

/-- The attempts of each address, oldest first; an address without attempts has no entry. -/
structure RateLimiter where
  attempts : (ip : String) -> List Int
  limit : Nat
  window : Int

def newRateLimiter (limit : Nat) (window : Int) : RateLimiter := ⟨fun _ => [], limit, window⟩

namespace RateLimiter

/-- The attempts after the cutoff. -/
def fresh (r : RateLimiter) (ip : String) (now : Int) : List Int :=
  (r.attempts ip).filter fun t => t > now - r.window

/-- Whether an address is below the limit; its older attempts are dropped. -/
def check (r : RateLimiter) (ip : String) (now : Int) : RateLimiter × Bool :=
  ({ r with attempts := Function.update r.attempts ip (r.fresh ip now) }, (r.fresh ip now).length < r.limit)

def record (r : RateLimiter) (ip : String) (now : Int) : RateLimiter :=
  { r with attempts := Function.update r.attempts ip (r.attempts ip ++ [now]) }

end RateLimiter

/-- `NewAuthHandler`: five attempts in five minutes, in nanoseconds. -/
def authRateLimiter : RateLimiter := newRateLimiter 5 (5 * 60 * 1000000000)

structure Credentials where
  email : String
  password : String

/-- A row of `subscribers`. -/
structure Subscriber where
  id : String
  hash : String
  role : String

structure Cookie where
  name : String
  value : String
  httpOnly : Bool
  secure : Bool
  sameSiteStrict : Bool
  path : String
  expires : Int

/-- A response: its status, its one JSON field, and the cookies it sets. -/
structure Response where
  status : Nat
  body : String × String
  cookies : List Cookie

def errorResponse (status : Nat) (text : String) : Response := ⟨status, ("error", text), []⟩

def sessionCookie (name value : String) (expires : Int) : Cookie := ⟨name, value, true, true, true, "/", expires⟩

/-- Where a request stands. -/
inductive LoginPhase where
  | checking
  | decoding
  | selecting (req : Credentials)
  | equalizing (req : Credentials)
  | verifying (req : Credentials) (subscriber : Subscriber)
  | recording
  | tiering (subscriber : Subscriber)
  | creating (subscriber : Subscriber) (tier : String)
  | signing (subscriber : Subscriber) (tier session : String)
  | done (response : Response)

/-- A request, with the time at which its password was found wrong. -/
structure Login where
  ip : String
  phase : LoginPhase
  failedAt : Option Int

/-- What a step meets: the time, and the answers of the body's reader, the database and the
token signer. -/
structure Turn where
  now : Int
  decoded : Except String Credentials
  row : Except String Subscriber
  tier : Except String String
  session : Except String String
  token : Except String String

/-- The limiter and the last reading of the clock. -/
structure AuthServer where
  limiter : RateLimiter
  clock : Int

/-- `auth.VerifyPassword` and the hash that stands in for an unknown email. -/
structure Passwords where
  verifyPassword : (password encoded : String) -> Except String Bool
  dummyPasswordHash : String

variable (passwords : Passwords)

/-- The next step of `Login`. -/
def loginStep (server : AuthServer) (login : Login) (turn : Turn) : AuthServer × Login :=
  match login.phase with
  | .checking =>
      match server.limiter.check login.ip turn.now with
      | (limiter, false) =>
          (⟨limiter, turn.now⟩, { login with phase := .done (errorResponse 429 "rate_limited") })
      | (limiter, true) => (⟨limiter, turn.now⟩, { login with phase := .decoding })
  | .decoding =>
      match turn.decoded with
      | .error _ => (⟨server.limiter, turn.now⟩, { login with phase := .done (errorResponse 400 "invalid_request") })
      | .ok req => (⟨server.limiter, turn.now⟩, { login with phase := .selecting req })
  | .selecting req =>
      match turn.row with
      | .error _ => (⟨server.limiter, turn.now⟩, { login with phase := .equalizing req })
      | .ok subscriber => (⟨server.limiter, turn.now⟩, { login with phase := .verifying req subscriber })
  | .equalizing req =>
      -- the result is thrown away: an unknown email is refused whatever the password
      let _ := passwords.verifyPassword req.password passwords.dummyPasswordHash
      (⟨server.limiter, turn.now⟩, { login with phase := .recording, failedAt := some turn.now })
  | .verifying req subscriber =>
      match passwords.verifyPassword req.password subscriber.hash with
      | .ok true => (⟨server.limiter, turn.now⟩, { login with phase := .tiering subscriber })
      | _ => (⟨server.limiter, turn.now⟩, { login with phase := .recording, failedAt := some turn.now })
  | .recording =>
      (⟨server.limiter.record login.ip turn.now, turn.now⟩,
        { login with phase := .done (errorResponse 401 "invalid_credentials") })
  | .tiering subscriber =>
      match turn.tier with
      | .error _ => (⟨server.limiter, turn.now⟩, { login with phase := .creating subscriber "free" })
      | .ok tier => (⟨server.limiter, turn.now⟩, { login with phase := .creating subscriber tier })
  | .creating subscriber tier =>
      match turn.session with
      | .error _ => (⟨server.limiter, turn.now⟩, { login with phase := .done (errorResponse 500 "internal") })
      | .ok session => (⟨server.limiter, turn.now⟩, { login with phase := .signing subscriber tier session })
  | .signing _ _ session =>
      match turn.token with
      | .error _ => (⟨server.limiter, turn.now⟩, { login with phase := .done (errorResponse 500 "internal") })
      | .ok token =>
          let expires := turn.now + 8 * 3600 * 1000000000
          (⟨server.limiter, turn.now⟩, { login with phase := .done ⟨200, ("token", token),
            [sessionCookie "session_id" session expires, sessionCookie "jwt" token expires]⟩ })
  | .done _ => (⟨server.limiter, turn.now⟩, login)

/-- Requests after some moves, from a server that has just started. -/
def logins (limit : Nat) (window clock : Int) (moves : List (Move Login Turn)) : Pool AuthServer Login :=
  run (loginStep passwords) ⟨⟨newRateLimiter limit window, clock⟩, []⟩ moves

/-- A request begins with its check. -/
def Arrives : Move Login Turn -> Prop
  | .spawn login => login.phase = .checking ∧ login.failedAt = none
  | .advance _ _ => True

/-- The clock does not go back. -/
def Ticks (pool : Pool AuthServer Login) : Move Login Turn -> Prop
  | .spawn _ => True
  | .advance _ turn => pool.shared.clock ≤ turn.now

/-- Past the check, and neither charged nor found right. -/
def LoginPhase.inFlight : LoginPhase -> Bool
  | .decoding => true
  | .selecting _ => true
  | .equalizing _ => true
  | .verifying _ _ => true
  | .recording => true
  | _ => false

def inFlight (ip : String) (login : Login) : Bool := login.ip == ip && login.phase.inFlight

/-- The password of a request was found wrong at a time from `lo` to `hi`. -/
def failedWithin (ip : String) (lo hi : Int) (login : Login) : Bool :=
  login.ip == ip && login.failedAt.any fun time => lo ≤ time && time ≤ hi

/-- A check that passes leaves room for the requests of the address that are in flight. -/
def LeavesRoom (ip : String) (pool : Pool AuthServer Login) : Move Login Turn -> Prop
  | .spawn _ => True
  | .advance index turn => ∀ login ∈ pool.threads[index]?, login.ip = ip -> inFlight ip login = false ->
      inFlight ip (loginStep passwords pool.shared login turn).2 = true ->
      (pool.shared.limiter.fresh ip turn.now).length + pool.threads.countP (inFlight ip) < pool.shared.limiter.limit

/-! ## What a step does -/

/-- Charged, about to be, or answered for another reason. -/
def LoginPhase.settled : LoginPhase -> Bool
  | .recording => true
  | .done _ => true
  | _ => false

/-- A request that is not settled goes on, without coming into flight. -/
def LoginPhase.leadsTo (before after : LoginPhase) : Bool :=
  !before.settled && (!after.inFlight || before.inFlight)

/-- What a step does to the limiter and to its request. -/
inductive LoginActs (server : AuthServer) (login : Login) (now : Int) : RateLimiter -> Login -> Prop where
  | refuses (response : Response) (isChecking : login.phase = .checking) :
      LoginActs server login now (server.limiter.check login.ip now).1 { login with phase := .done response }
  | passes (isChecking : login.phase = .checking) (allowed : (server.limiter.check login.ip now).2 = true) :
      LoginActs server login now (server.limiter.check login.ip now).1 { login with phase := .decoding }
  | proceeds (phase : LoginPhase) (leads : login.phase.leadsTo phase = true) :
      LoginActs server login now server.limiter { login with phase := phase }
  | fails (flies : login.phase.inFlight = true) :
      LoginActs server login now server.limiter { login with phase := .recording, failedAt := some now }
  | records (response : Response) (isRecording : login.phase = .recording) :
      LoginActs server login now (server.limiter.record login.ip now) { login with phase := .done response }
  | stays (response : Response) (isDone : login.phase = .done response) :
      LoginActs server login now server.limiter login

variable {passwords}

theorem loginStep_acts (server : AuthServer) (login : Login) (turn : Turn) :
    ∃ limiter after, loginStep passwords server login turn = (⟨limiter, turn.now⟩, after) ∧
      LoginActs server login turn.now limiter after := by
  unfold loginStep
  cases phase : login.phase with
  | checking =>
      dsimp only
      cases checked : server.limiter.check login.ip turn.now with
      | mk limiter allowed =>
          have same : (server.limiter.check login.ip turn.now).1 = limiter := by rw [checked]
          subst same
          cases allowed with
          | false => exact ⟨_, _, rfl, .refuses _ phase⟩
          | true => exact ⟨_, _, rfl, .passes phase (by rw [checked])⟩
  | decoding =>
      dsimp only
      cases turn.decoded with
      | error e => exact ⟨_, _, rfl, .proceeds _ (by rw [phase]; rfl)⟩
      | ok req => exact ⟨_, _, rfl, .proceeds _ (by rw [phase]; rfl)⟩
  | selecting req =>
      dsimp only
      cases turn.row with
      | error e => exact ⟨_, _, rfl, .proceeds _ (by rw [phase]; rfl)⟩
      | ok subscriber => exact ⟨_, _, rfl, .proceeds _ (by rw [phase]; rfl)⟩
  | equalizing req => exact ⟨_, _, rfl, .fails (by rw [phase]; rfl)⟩
  | verifying req subscriber =>
      dsimp only
      split
      · exact ⟨_, _, rfl, .proceeds _ (by rw [phase]; rfl)⟩
      · exact ⟨_, _, rfl, .fails (by rw [phase]; rfl)⟩
  | recording => exact ⟨_, _, rfl, .records _ phase⟩
  | tiering subscriber =>
      dsimp only
      cases turn.tier with
      | error e => exact ⟨_, _, rfl, .proceeds _ (by rw [phase]; rfl)⟩
      | ok tier => exact ⟨_, _, rfl, .proceeds _ (by rw [phase]; rfl)⟩
  | creating subscriber tier =>
      dsimp only
      cases turn.session with
      | error e => exact ⟨_, _, rfl, .proceeds _ (by rw [phase]; rfl)⟩
      | ok session => exact ⟨_, _, rfl, .proceeds _ (by rw [phase]; rfl)⟩
  | signing subscriber tier session =>
      dsimp only
      cases turn.token with
      | error e => exact ⟨_, _, rfl, .proceeds _ (by rw [phase]; rfl)⟩
      | ok token => exact ⟨_, _, rfl, .proceeds _ (by rw [phase]; rfl)⟩
  | done response => exact ⟨_, _, rfl, .stays response phase⟩

/-! ## Requests the limiter has to answer for -/

/-- Only a settled request was found wrong, and that is past. -/
structure Timed (clock : Int) (login : Login) : Prop where
  past : ∀ time ∈ login.failedAt, time ≤ clock
  unfailed : login.phase.settled = false -> login.failedAt = none

/-- A request that was found wrong no earlier than `lo` and has been recorded. -/
def chargedSince (ip : String) (lo : Int) (login : Login) : Bool :=
  login.ip == ip && !login.phase.inFlight && login.failedAt.any fun time => lo ≤ time

/-- The same, or a request that may still be. -/
def countedSince (ip : String) (lo : Int) (login : Login) : Bool := inFlight ip login || chargedSince ip lo login

theorem LoginPhase.unsettled_of_leadsTo {before after : LoginPhase} (leads : before.leadsTo after = true) :
    before.settled = false := by
  rw [leadsTo, Bool.and_eq_true] at leads
  simpa using leads.1

theorem LoginPhase.inFlight_of_leadsTo {before after : LoginPhase} (leads : before.leadsTo after = true)
    (flies : after.inFlight = true) : before.inFlight = true := by
  rw [leadsTo, Bool.and_eq_true, flies] at leads
  simpa using leads.2

theorem chargedSince_of_unfailed {login : Login} (unfailed : login.failedAt = none) (ip : String) (lo : Int)
    (phase : LoginPhase) : chargedSince ip lo { login with phase := phase } = false := by
  simp [chargedSince, unfailed]

theorem countedSince_of_failedWithin {ip : String} {lo hi : Int} {login : Login}
    (failed : failedWithin ip lo hi login = true) : countedSince ip lo login = true := by
  simp only [failedWithin, Bool.and_eq_true, Option.any_eq_true, decide_eq_true_eq] at failed
  rcases failed with ⟨own, time, failedAt, notBefore, -⟩
  simp only [countedSince, inFlight, chargedSince, own, failedAt, Option.any_some, notBefore]
  cases login.phase.inFlight <;> rfl

namespace RateLimiter

/-- The recorded attempts of an address that are no earlier than `lo`. -/
def attemptsSince (r : RateLimiter) (ip : String) (lo : Int) : Nat := (r.attempts ip).countP fun t => lo ≤ t

/-- The attempts in the window are among those a check counts. -/
theorem attemptsSince_le_fresh {r : RateLimiter} {now lo : Int} (recent : now - r.window < lo) (ip : String) :
    r.attemptsSince ip lo ≤ (r.fresh ip now).length := by
  rw [attemptsSince, fresh, ← List.countP_eq_length_filter]
  apply List.countP_mono_left
  intro t _ notBefore
  rw [decide_eq_true_eq] at notBefore ⊢
  omega

/-- A check drops none of the attempts in the window. -/
theorem attemptsSince_check {r : RateLimiter} {now lo : Int} (recent : now - r.window < lo) (checked ip : String) :
    (r.check checked now).1.attemptsSince ip lo = r.attemptsSince ip lo := by
  by_cases same : ip = checked
  · subst same
    simp only [attemptsSince, check, Function.update_self, fresh, List.countP_filter]
    apply List.countP_congr
    intro t _
    simp only [Bool.and_eq_true, decide_eq_true_eq]
    omega
  · simp only [attemptsSince, check, Function.update_of_ne same]

theorem attemptsSince_record_self (r : RateLimiter) {now lo : Int} (notBefore : lo ≤ now) (ip : String) :
    (r.record ip now).attemptsSince ip lo = r.attemptsSince ip lo + 1 := by
  simp [attemptsSince, record, notBefore]

theorem attemptsSince_le_record (r : RateLimiter) (now lo : Int) (recorded ip : String) :
    r.attemptsSince ip lo ≤ (r.record recorded now).attemptsSince ip lo := by
  by_cases same : ip = recorded
  · subst same
    simp only [attemptsSince, record, Function.update_self, List.countP_append]
    exact Nat.le_add_right ..
  · simp only [attemptsSince, record, Function.update_of_ne same]
    exact Nat.le_refl _

end RateLimiter

namespace LoginActs

variable {server : AuthServer} {login after : Login} {now : Int} {limiter : RateLimiter}

theorem ip_eq (acts : LoginActs server login now limiter after) : after.ip = login.ip := by
  cases acts <;> rfl

theorem timed (acts : LoginActs server login now limiter after) (timed : Timed server.clock login)
    (ticks : server.clock ≤ now) : Timed now after := by
  have past : ∀ time ∈ login.failedAt, time ≤ now := fun time held => le_trans (timed.past time held) ticks
  cases acts with
  | refuses response isChecking => exact ⟨past, by simp [LoginPhase.settled]⟩
  | passes isChecking allowed => exact ⟨past, fun _ => timed.unfailed (by rw [isChecking]; rfl)⟩
  | proceeds phase leads => exact ⟨past, fun _ => timed.unfailed (LoginPhase.unsettled_of_leadsTo leads)⟩
  | fails flies =>
      refine ⟨?_, by simp [LoginPhase.settled]⟩
      rintro time ⟨⟩
      exact le_rfl
  | records response isRecording => exact ⟨past, by simp [LoginPhase.settled]⟩
  | stays response isDone => exact ⟨past, timed.unfailed⟩

theorem limiter_eq (acts : LoginActs server login now limiter after) :
    limiter.limit = server.limiter.limit ∧ limiter.window = server.limiter.window := by
  cases acts <;> exact ⟨rfl, rfl⟩

/-- A request becomes charged only together with an entry of the limiter, and no entry of the
window is lost. -/
theorem accounts (acts : LoginActs server login now limiter after) (timed : Timed server.clock login)
    (ticks : server.clock ≤ now) {lo : Int} (recent : now - server.limiter.window < lo) (ip : String) :
    (if chargedSince ip lo after then 1 else 0) + server.limiter.attemptsSince ip lo ≤
      (if chargedSince ip lo login then 1 else 0) + limiter.attemptsSince ip lo := by
  cases acts with
  | refuses response isChecking =>
      have unfailed := timed.unfailed (by rw [isChecking]; rfl)
      rw [chargedSince_of_unfailed unfailed, RateLimiter.attemptsSince_check recent]
      exact Nat.add_le_add_right (Nat.zero_le _) _
  | passes isChecking allowed =>
      have unfailed := timed.unfailed (by rw [isChecking]; rfl)
      rw [chargedSince_of_unfailed unfailed, RateLimiter.attemptsSince_check recent]
      exact Nat.add_le_add_right (Nat.zero_le _) _
  | proceeds phase leads =>
      have unfailed := timed.unfailed (LoginPhase.unsettled_of_leadsTo leads)
      rw [chargedSince_of_unfailed unfailed]
      exact Nat.add_le_add_right (Nat.zero_le _) _
  | fails flies =>
      have uncharged : chargedSince ip lo { login with phase := .recording, failedAt := some now } = false := by
        simp [chargedSince, LoginPhase.inFlight]
      rw [uncharged]
      exact Nat.add_le_add_right (Nat.zero_le _) _
  | records response isRecording =>
      cases charged : chargedSince ip lo { login with phase := .done response } with
      | false =>
          have kept := server.limiter.attemptsSince_le_record now lo login.ip ip
          simp only [Bool.false_eq_true, if_false]
          omega
      | true =>
          simp only [chargedSince, Bool.and_eq_true, beq_iff_eq, Option.any_eq_true, decide_eq_true_eq] at charged
          rcases charged with ⟨⟨rfl, -⟩, time, failedAt, notBefore⟩
          have past := timed.past time failedAt
          rw [server.limiter.attemptsSince_record_self (by omega)]
          simp only [if_true]
          omega
  | stays response isDone => exact Nat.le_refl _

/-- A request begins to count when it passes the check. -/
theorem counts (acts : LoginActs server login now limiter after) (timed : Timed server.clock login) {ip : String}
    {lo : Int} (counted : countedSince ip lo after = true) :
    countedSince ip lo login = true ∨
      (login.ip = ip ∧ inFlight ip login = false ∧ inFlight ip after = true) := by
  have own : login.ip = ip := by
    rw [← acts.ip_eq]
    simp only [countedSince, inFlight, chargedSince, Bool.or_eq_true, Bool.and_eq_true, beq_iff_eq] at counted
    rcases counted with ⟨own, -⟩ | ⟨⟨own, -⟩, -⟩ <;> exact own
  have already : login.phase.inFlight = true -> countedSince ip lo login = true := by
    intro flies
    simp [countedSince, inFlight, own, flies]
  cases acts with
  | refuses response isChecking =>
      rw [countedSince, chargedSince_of_unfailed (timed.unfailed (by rw [isChecking]; rfl))] at counted
      simp [inFlight, LoginPhase.inFlight] at counted
  | passes isChecking allowed =>
      refine Or.inr ⟨own, ?_, ?_⟩
      · simp [inFlight, isChecking, LoginPhase.inFlight]
      · simp [inFlight, own, LoginPhase.inFlight]
  | proceeds phase leads =>
      rw [countedSince, chargedSince_of_unfailed (timed.unfailed (LoginPhase.unsettled_of_leadsTo leads)),
        Bool.or_false, inFlight, Bool.and_eq_true] at counted
      exact Or.inl (already (LoginPhase.inFlight_of_leadsTo leads counted.2))
  | fails flies => exact Or.inl (already flies)
  | records response isRecording => exact Or.inl (already (by rw [isRecording]; rfl))
  | stays response isDone => exact Or.inl counted

/-- A request that comes into flight found its address below the limit. -/
theorem allowed (acts : LoginActs server login now limiter after) {ip : String} (outside : inFlight ip login = false)
    (inside : inFlight ip after = true) : (server.limiter.fresh ip now).length < server.limiter.limit := by
  simp only [inFlight, Bool.and_eq_true, beq_iff_eq] at inside
  have own : login.ip = ip := acts.ip_eq.symm.trans inside.1
  have grounded : login.phase.inFlight = false := by
    simpa [inFlight, own] using outside
  cases acts with
  | passes isChecking allowed =>
      rw [own] at allowed
      simpa [RateLimiter.check] using allowed
  | refuses response isChecking => cases inside.2
  | proceeds phase leads =>
      rw [LoginPhase.inFlight_of_leadsTo leads inside.2] at grounded
      cases grounded
  | fails flies =>
      rw [flies] at grounded
      cases grounded
  | records response isRecording => cases inside.2
  | stays response isDone =>
      rw [inside.2] at grounded
      cases grounded

/-- A request is found wrong at the time of the step. -/
theorem fails_within (acts : LoginActs server login now limiter after) {ip : String} {lo hi : Int}
    (failed : failedWithin ip lo hi after = true) : failedWithin ip lo hi login = true ∨ now ≤ hi := by
  cases acts with
  | fails flies =>
      simp only [failedWithin, Option.any_some, Bool.and_eq_true, decide_eq_true_eq] at failed
      exact Or.inr failed.2.2
  | _ => exact Or.inl failed

end LoginActs

/-! ## Whole runs -/

/-- What holds of the requests of one address, for one interval. -/
structure Counted (limit : Nat) (window : Int) (ip : String) (lo hi : Int) (pool : Pool AuthServer Login) : Prop where
  sameLimit : pool.shared.limiter.limit = limit
  sameWindow : pool.shared.limiter.window = window
  timed : ∀ login ∈ pool.threads, Timed pool.shared.clock login
  accounted : pool.shared.clock - window < lo ->
    pool.threads.countP (chargedSince ip lo) ≤ pool.shared.limiter.attemptsSince ip lo
  counted : pool.shared.clock - window < lo -> pool.threads.countP (countedSince ip lo) ≤ limit
  bounded : pool.threads.countP (failedWithin ip lo hi) ≤ limit

theorem Counted.spawn {limit : Nat} {window : Int} {ip : String} {lo hi : Int} {pool : Pool AuthServer Login}
    {login : Login} (before : Counted limit window ip lo hi pool) (isChecking : login.phase = .checking)
    (unfailed : login.failedAt = none) :
    Counted limit window ip lo hi (move (loginStep passwords) pool (.spawn login)) := by
  have uncharged : chargedSince ip lo login = false := chargedSince_of_unfailed unfailed ip lo login.phase
  have uncounted : countedSince ip lo login = false := by
    simp [countedSince, uncharged, inFlight, isChecking, LoginPhase.inFlight]
  have outside : failedWithin ip lo hi login = false := by simp [failedWithin, unfailed]
  refine ⟨before.sameLimit, before.sameWindow, ?_, ?_, ?_, ?_⟩
  · intro other member
    rcases mem_spawn member with old | rfl
    · exact before.timed other old
    · exact ⟨by simp [unfailed], fun _ => unfailed⟩
  · intro recent
    simpa [move, uncharged] using before.accounted recent
  · intro recent
    simpa [move, uncounted] using before.counted recent
  · simpa [move, outside] using before.bounded

theorem Counted.advance {limit : Nat} {window : Int} {ip : String} {lo hi : Int} (short : hi - lo < window)
    {pool : Pool AuthServer Login} {index : Nat} {turn : Turn} {login : Login}
    (before : Counted limit window ip lo hi pool) (found : pool.threads[index]? = some login)
    (ticks : pool.shared.clock ≤ turn.now) (room : LeavesRoom passwords ip pool (.advance index turn)) :
    Counted limit window ip lo hi (move (loginStep passwords) pool (.advance index turn)) := by
  have timed := before.timed login (List.mem_of_getElem? found)
  have room := room login found
  rcases @loginStep_acts passwords pool.shared login turn with ⟨limiter, after, equal, acts⟩
  rw [equal] at room
  rw [move_advance found, equal]
  have recentBefore : turn.now - window < lo -> pool.shared.clock - window < lo := by omega
  have counted : turn.now - window < lo -> (pool.threads.set index after).countP (countedSince ip lo) ≤ limit := by
    intro recent
    have changed := countP_set found after (countedSince ip lo)
    have old := before.counted (recentBefore recent)
    by_cases counts : countedSince ip lo after = true
    · rcases acts.counts timed counts with already | ⟨own, outside, inside⟩
      · rw [if_pos counts, if_pos already] at changed
        omega
      · -- the request has just passed: the limiter has seen all that were charged
        have space := room own outside inside
        have charged := before.accounted (recentBefore recent)
        have seen := RateLimiter.attemptsSince_le_fresh (by rw [before.sameWindow]; exact recent) ip
        have parts := countP_or_le pool.threads (inFlight ip) (chargedSince ip lo)
        change pool.threads.countP (countedSince ip lo) ≤ _ at parts
        rw [before.sameLimit] at space
        rw [if_pos counts] at changed
        omega
    · rw [if_neg counts] at changed
      omega
  refine ⟨acts.limiter_eq.1.trans before.sameLimit, acts.limiter_eq.2.trans before.sameWindow, ?_, ?_, counted, ?_⟩
  · intro other member
    rcases List.mem_or_eq_of_mem_set member with old | rfl
    · have timed := before.timed other old
      exact ⟨fun time held => le_trans (timed.past time held) ticks, timed.unfailed⟩
    · exact acts.timed timed ticks
  · intro recent
    have changed := countP_set found after (chargedSince ip lo)
    have old := before.accounted (recentBefore recent)
    have kept := acts.accounts timed ticks (by rw [before.sameWindow]; exact recent) ip
    change (pool.threads.set index after).countP (chargedSince ip lo) ≤ limiter.attemptsSince ip lo
    omega
  · by_cases late : turn.now ≤ hi
    · -- all that failed within the interval still count
      refine Nat.le_trans (List.countP_mono_left ?_) (counted (by omega))
      intro other _ failed
      exact countedSince_of_failedWithin failed
    · have changed := countP_set found after (failedWithin ip lo hi)
      have old := before.bounded
      change (pool.threads.set index after).countP (failedWithin ip lo hi) ≤ limit
      by_cases failed : failedWithin ip lo hi after = true
      · rcases acts.fails_within failed with already | early
        · rw [if_pos failed, if_pos already] at changed
          omega
        · exact absurd early late
      · rw [if_neg failed] at changed
        omega

variable (passwords)

/-- Where every check that passes leaves room for the requests in flight, at most `limit`
requests of an address are found wrong in an interval shorter than the window. -/
theorem login_bounds_guessing (limit : Nat) (window clock : Int) (ip : String) (moves : List (Move Login Turn))
    (arrives : ∀ next ∈ moves, Arrives next)
    (ticks : Obeys (loginStep passwords) Ticks ⟨⟨newRateLimiter limit window, clock⟩, []⟩ moves)
    (room : Obeys (loginStep passwords) (LeavesRoom passwords ip) ⟨⟨newRateLimiter limit window, clock⟩, []⟩ moves)
    (lo hi : Int) (short : hi - lo < window) :
    (logins passwords limit window clock moves).threads.countP (failedWithin ip lo hi) ≤ limit := by
  have initially : Counted limit window ip lo hi ⟨⟨newRateLimiter limit window, clock⟩, []⟩ := by
    refine ⟨rfl, rfl, by simp, by simp, by simp, by simp⟩
  have conditions := obeys_and (obeys_of_forall (fun _ => arrives) _) (obeys_and ticks room)
  have final : Counted limit window ip lo hi (logins passwords limit window clock moves) := by
    apply run_invariant ?_ initially conditions
    rintro pool next before ⟨arrives, ticks, room⟩
    apply move_keeps before
    · rintro login rfl
      exact before.spawn arrives.1 arrives.2
    · rintro index turn login rfl found
      exact before.advance short found ticks room
  exact final.bounded

/-- One request of the address at a time leaves room. -/
theorem leavesRoom_of_entersAlone {ip : String} {pool : Pool AuthServer Login} {next : Move Login Turn}
    (alone : EntersAlone (loginStep passwords) (inFlight ip) pool next) : LeavesRoom passwords ip pool next := by
  cases next with
  | spawn login => trivial
  | advance index turn =>
      intro login found _ outside inside
      have idle := alone login found outside inside
      have none : pool.threads.countP (inFlight ip) = 0 := by
        rw [List.countP_eq_zero]
        intro other member
        rw [idle other member]
        exact Bool.false_ne_true
      rcases @loginStep_acts passwords pool.shared login turn with ⟨limiter, after, equal, acts⟩
      rw [equal] at inside
      rw [none]
      exact acts.allowed outside inside

instance (pool : Pool AuthServer Login) (next : Move Login Turn) : Decidable (Ticks pool next) :=
  match next with
  | .spawn _ => isTrue trivial
  | .advance _ turn => inferInstanceAs (Decidable (pool.shared.clock ≤ turn.now))

namespace Sample

/-- A password check that knows one password. -/
def onePassword : Passwords where
  verifyPassword := fun password encoded =>
    .ok (password == "correct horse battery staple" && encoded == "$argon2id$")
  dummyPasswordHash := "$argon2id$dummy"

def guess : Login := ⟨"203.0.113.7", .checking, none⟩

/-- A step of a request that guesses wrong. -/
def wrongTurn (now : Int) : Turn :=
  ⟨now, .ok ⟨"user@example.com", "password1"⟩, .ok ⟨"8b1c", "$argon2id$", "subscriber"⟩, .ok "free", .ok "session",
    .ok "token"⟩

/-- One step of each of six requests. -/
def round (now : Int) : List (Move Login Turn) := (List.range 6).map fun index => .advance index (wrongTurn now)

/-- Six requests at once: all are checked before the first password is verified. -/
def burst : List (Move Login Turn) :=
  List.replicate 6 (.spawn guess) ++ round 1000000 ++ round 2000000 ++ round 3000000 ++ round 90000000

/-- The steps of one request, with its record, in one second. -/
def wholeLogin (index : Nat) : List (Move Login Turn) :=
  [0, 1, 2, 3, 4].map fun step => .advance index (wrongTurn (index * 1000000000 + step))

/-- Six requests one after the other. -/
def oneByOne : List (Move Login Turn) :=
  List.replicate 6 (.spawn guess) ++ (List.range 6).flatMap wholeLogin

theorem burst_arrives : ∀ next ∈ burst, Arrives next := by
  intro next member
  cases next with
  | advance index turn => trivial
  | spawn login =>
      have same : login = guess := by simpa [burst, round] using member
      subst same
      exact ⟨rfl, rfl⟩

theorem oneByOne_arrives : ∀ next ∈ oneByOne, Arrives next := by
  intro next member
  cases next with
  | advance index turn => trivial
  | spawn login =>
      have same : login = guess := by simpa [oneByOne, wholeLogin] using member
      subst same
      exact ⟨rfl, rfl⟩

end Sample

/-- With five attempts in five minutes, six passwords are tried in a tenth of a second. -/
theorem login_guessing_unbounded :
    authRateLimiter = newRateLimiter 5 300000000000 ∧ (∀ next ∈ Sample.burst, Arrives next) ∧
      Obeys (loginStep Sample.onePassword) Ticks ⟨⟨newRateLimiter 5 300000000000, 0⟩, []⟩ Sample.burst ∧
      (logins Sample.onePassword 5 300000000000 0 Sample.burst).threads.countP
        (failedWithin "203.0.113.7" 0 100000000) = 6 := by
  exact ⟨rfl, Sample.burst_arrives, by decide +kernel, by decide +kernel⟩

theorem login_bounds_guessing_one_by_one :
    Obeys (loginStep Sample.onePassword) (LeavesRoom Sample.onePassword "203.0.113.7")
        ⟨⟨newRateLimiter 5 300000000000, 0⟩, []⟩ Sample.oneByOne ∧
      (logins Sample.onePassword 5 300000000000 0 Sample.oneByOne).threads.countP
        (failedWithin "203.0.113.7" 0 10000000000) ≤ 5 := by
  have ticks : Obeys (loginStep Sample.onePassword) Ticks ⟨⟨newRateLimiter 5 300000000000, 0⟩, []⟩
      Sample.oneByOne := by decide +kernel
  have alone : Obeys (loginStep Sample.onePassword)
      (EntersAlone (loginStep Sample.onePassword) (inFlight "203.0.113.7")) ⟨⟨newRateLimiter 5 300000000000, 0⟩, []⟩ Sample.oneByOne := by decide +kernel
  have room := Obeys.mono (fun pool next => leavesRoom_of_entersAlone Sample.onePassword) alone
  exact ⟨room, login_bounds_guessing Sample.onePassword 5 300000000000 0 "203.0.113.7" Sample.oneByOne
    Sample.oneByOne_arrives ticks room 0 10000000000 (by decide)⟩

end Authority
end QuietHop
