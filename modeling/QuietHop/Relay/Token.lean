import QuietHop.Lib.ExpiringSet
import QuietHop.Lib.Rsa

namespace QuietHop
namespace Relay

open Lib
open Lib.Rsa

/-!
# Token verification at the guard

`token::verify` checks a raw RSA signature and then claims the token in the replay
window.  The first half touches nothing shared.  The second half runs under the
window's mutex and reads the clock there, so concurrent calls interleave as pure
checks and atomic lock sections.
-/

inductive TokenError where
  | tokenTooShort
  | invalidSignature
  | replayed
  deriving DecidableEq, Repr

/-- Recently accepted token hashes with the instant each was accepted at. -/
structure ReplayWindow where
  ttl : Nat
  inner : ExpiringSet Digest
  deriving DecidableEq

/-- `ReplayWindow::new`. -/
def ReplayWindow.new (ttl : Nat) : ReplayWindow :=
  ⟨ttl, []⟩

section Verify

variable (sha256 : Bytes -> Digest)

/-- Everything `verify` does before it takes the lock. -/
def checkSignature (mRaw token : Bytes) (pubkey : RsaPublicKey) : Except TokenError Unit :=
  let modulusBytes := BigEndian.byteLength pubkey.n
  if token.length < modulusBytes then .error .tokenTooShort
  else
    let mInt := BigEndian.toNat (sha256 mRaw).val
    let tokenInt := BigEndian.toNat token
    -- a token must be a residue modulo n
    if pubkey.n ≤ tokenInt then .error .invalidSignature
    else if modpow tokenInt pubkey.e pubkey.n ≠ mInt then .error .invalidSignature
    else .ok ()

/-- The section under the mutex, with the instant `Instant::now` gives there.
`duration_since` saturates at zero, as subtraction does here. -/
def checkReplay (token : Bytes) (now : Nat) (window : ReplayWindow) :
    Except TokenError Unit × ReplayWindow :=
  let outcome := ExpiringSet.enter window.ttl now (sha256 token) window.inner
  (if outcome.1 then .ok () else .error .replayed, { window with inner := outcome.2 })

/-- `verify`, with the window it leaves behind. -/
def verify (mRaw token : Bytes) (pubkey : RsaPublicKey) (now : Nat) (window : ReplayWindow) :
    Except TokenError Unit × ReplayWindow :=
  match checkSignature sha256 mRaw token pubkey with
  | .error reason => (.error reason, window)
  | .ok () => checkReplay sha256 token now window

variable {sha256} {mRaw token : Bytes} {pubkey : RsaPublicKey} {now : Nat} {window : ReplayWindow}

/-- A token of at least the modulus's length passes exactly when it is a root of the
digest. -/
theorem checkSignature_ok_iff (long : BigEndian.byteLength pubkey.n ≤ token.length) :
    checkSignature sha256 mRaw token pubkey = .ok () ↔ IsRoot pubkey (sha256 mRaw) (BigEndian.toNat token) := by
  simp only [checkSignature, if_neg (Nat.not_lt.mpr long), IsRoot, modpow_eq]
  split_ifs with large wrong
  · exact ⟨nofun, fun root => absurd root.1 (Nat.not_lt.mpr large)⟩
  · exact ⟨nofun, fun root => absurd root.2 wrong⟩
  · exact ⟨fun _ => ⟨Nat.lt_of_not_le large, Decidable.not_not.mp wrong⟩, fun _ => rfl⟩

theorem checkSignature_ne_replayed : checkSignature sha256 mRaw token pubkey ≠ .error .replayed := by
  simp only [checkSignature]
  split_ifs <;> simp

/-- The lock section has two outcomes. -/
theorem checkReplay_cases (sha256 : Bytes -> Digest) (token : Bytes) (now : Nat) (window : ReplayWindow) :
    (checkReplay sha256 token now window).1 = .ok () ∨
      (checkReplay sha256 token now window).1 = .error .replayed := by
  rw [checkReplay]
  split_ifs <;> simp

/-- A call that fails before the lock leaves the window alone. -/
theorem verify_window_of_error {reason : TokenError} (other : reason ≠ .replayed)
    (failed : (verify sha256 mRaw token pubkey now window).1 = .error reason) :
    (verify sha256 mRaw token pubkey now window).2 = window := by
  rw [verify] at failed ⊢
  cases signed : checkSignature sha256 mRaw token pubkey with
  | error early => rfl
  | ok _ =>
      rw [signed] at failed
      rcases checkReplay_cases sha256 token now window with accepted | replayed
      · simp [accepted] at failed
      · simp [replayed, Ne.symm other] at failed

/-- A signed token that the window does not hold is accepted. -/
theorem verify_of_absent (signed : checkSignature sha256 mRaw token pubkey = .ok ())
    (absent : ExpiringSet.containsKey window.inner (sha256 token) = false) :
    (verify sha256 mRaw token pubkey now window).1 = .ok () := by
  have dropped : ExpiringSet.containsKey (ExpiringSet.retain window.ttl now window.inner) (sha256 token) = false := by
    rw [← Bool.not_eq_true, ExpiringSet.containsKey_iff] at absent ⊢
    rintro ⟨time, member⟩
    exact absent ⟨time, (ExpiringSet.mem_retain.mp member).1⟩
  simp [verify, signed, checkReplay, ExpiringSet.enter, dropped]

end Verify

/-! ## Concurrent calls -/

/-- The arguments of one call. -/
structure Call where
  mRaw : Bytes
  token : Bytes
  deriving DecidableEq

/-- A call that has returned, with its result and the instant it was decided at. -/
structure Returned where
  call : Call
  result : Except TokenError Unit
  time : Nat
  deriving DecidableEq

/-- Calls that share one window.  Those in `waiting` have passed the signature check
and wait for the mutex; those in `returned` are listed oldest first. -/
structure Calls where
  window : ReplayWindow
  clock : Nat
  waiting : List Call
  returned : List Returned
  deriving DecidableEq

def Calls.fresh (ttl clock : Nat) : Calls :=
  ⟨ReplayWindow.new ttl, clock, [], []⟩

inductive Event where
  /-- A new call runs up to the lock, or fails before it. -/
  | present (call : Call)
  /-- Some time passes, and the call at `index` runs through the lock section. -/
  | lock (index elapsed : Nat)

/-- The calls that are started by some events. -/
def presented (events : List Event) : List Call :=
  events.filterMap fun
    | .present call => some call
    | .lock _ _ => none

section Run

variable (sha256 : Bytes -> Digest) (pubkey : RsaPublicKey)

def step (state : Calls) : Event -> Calls
  | .present call =>
      match checkSignature sha256 call.mRaw call.token pubkey with
      | .error reason => { state with returned := state.returned ++ [⟨call, .error reason, state.clock⟩] }
      | .ok () => { state with waiting := state.waiting ++ [call] }
  | .lock index elapsed =>
      match state.waiting[index]? with
      | none => state
      | some call =>
          let now := state.clock + elapsed
          let outcome := checkReplay sha256 call.token now state.window
          ⟨outcome.2, now, state.waiting.eraseIdx index, state.returned ++ [⟨call, outcome.1, now⟩]⟩

def run (state : Calls) (events : List Event) : Calls :=
  events.foldl (step sha256 pubkey) state

/-- A returned call as an attempt on the window, if it reached the lock. -/
def lockAttempt (entry : Returned) : Option (ExpiringSet.Attempt Digest) :=
  match entry.result with
  | .ok () => some ⟨sha256 entry.call.token, entry.time, true⟩
  | .error .replayed => some ⟨sha256 entry.call.token, entry.time, false⟩
  | .error _ => none

/-- The window seen as an expiring set, with the attempts made on it. -/
def session (state : Calls) : ExpiringSet.Session Digest :=
  ⟨state.window.inner, state.clock, state.returned.filterMap (lockAttempt sha256)⟩

/-- What holds at every moment of a run on calls that satisfy `known`. -/
structure Consistent (ttl : Nat) (known : Call -> Prop) (state : Calls) : Prop where
  lifetime : state.window.ttl = ttl
  sound : ExpiringSet.Sound ttl (session sha256 state)
  waits : ∀ call ∈ state.waiting, known call
  returns : ∀ entry ∈ state.returned, known entry.call
  signed : ∀ call ∈ state.waiting, checkSignature sha256 call.mRaw call.token pubkey = .ok ()
  reached : ∀ entry ∈ state.returned,
    checkSignature sha256 entry.call.mRaw entry.call.token pubkey = .ok () ->
      entry.result = .ok () ∨ entry.result = .error .replayed

variable {sha256} {pubkey}

theorem lockAttempt_checkReplay (call : Call) (now : Nat) (window : ReplayWindow) :
    lockAttempt sha256 ⟨call, (checkReplay sha256 call.token now window).1, now⟩ =
      some ⟨sha256 call.token, now, (ExpiringSet.enter window.ttl now (sha256 call.token) window.inner).1⟩ := by
  simp only [lockAttempt, checkReplay]
  cases (ExpiringSet.enter window.ttl now (sha256 call.token) window.inner).1 <;> rfl

variable {ttl : Nat} {known : Call -> Prop} {state : Calls}

/-- A lock section is one attempt on the expiring set. -/
theorem session_lock {index : Nat} {call : Call} (found : state.waiting[index]? = some call) (elapsed : Nat) :
    session sha256 (step sha256 pubkey state (.lock index elapsed)) =
      (session sha256 state).attempt state.window.ttl elapsed (sha256 call.token) := by
  simp only [step, found, session, List.filterMap_append, ExpiringSet.Session.attempt]
  rw [List.filterMap_cons_some (lockAttempt_checkReplay call _ state.window), List.filterMap_nil]
  rfl

theorem Consistent.present (consistent : Consistent sha256 pubkey ttl known state) (call : Call)
    (isKnown : known call) : Consistent sha256 pubkey ttl known (step sha256 pubkey state (.present call)) := by
  rw [step]
  cases signed : checkSignature sha256 call.mRaw call.token pubkey with
  | error reason =>
      -- a failed check is not an attempt on the window
      have outside : lockAttempt sha256 ⟨call, .error reason, state.clock⟩ = none := by
        cases reason with
        | replayed => exact absurd signed checkSignature_ne_replayed
        | tokenTooShort => rfl
        | invalidSignature => rfl
      constructor
      · exact consistent.lifetime
      · simpa [session, outside] using consistent.sound
      · exact consistent.waits
      · simpa [or_imp, forall_and] using ⟨consistent.returns, isKnown⟩
      · exact consistent.signed
      · intro entry member passes
        rcases List.mem_append.mp member with old | new
        · exact consistent.reached entry old passes
        · rw [List.mem_singleton.mp new, signed] at passes
          cases passes
  | ok _ =>
      constructor
      · exact consistent.lifetime
      · exact consistent.sound
      · simpa [or_imp, forall_and] using ⟨consistent.waits, isKnown⟩
      · exact consistent.returns
      · simpa [or_imp, forall_and] using ⟨consistent.signed, signed⟩
      · exact consistent.reached

theorem Consistent.lock (consistent : Consistent sha256 pubkey ttl known state) (index elapsed : Nat) :
    Consistent sha256 pubkey ttl known (step sha256 pubkey state (.lock index elapsed)) := by
  cases found : state.waiting[index]? with
  | none => simpa only [step, found] using consistent
  | some call =>
      have member : call ∈ state.waiting := List.mem_of_getElem? found
      have attempted : ExpiringSet.Sound ttl (session sha256 (step sha256 pubkey state (.lock index elapsed))) := by
        rw [session_lock found, consistent.lifetime]
        exact consistent.sound.attempt elapsed (sha256 call.token)
      refine ⟨?_, attempted, ?_, ?_, ?_, ?_⟩ <;> simp only [step, found]
      · exact consistent.lifetime
      · intro other waits
        exact consistent.waits other (List.mem_of_mem_eraseIdx waits)
      · simpa [or_imp, forall_and] using ⟨consistent.returns, consistent.waits call member⟩
      · intro other waits
        exact consistent.signed other (List.mem_of_mem_eraseIdx waits)
      · intro entry returned passes
        rcases List.mem_append.mp returned with old | new
        · exact consistent.reached entry old passes
        · rw [List.mem_singleton.mp new]
          exact checkReplay_cases _ _ _ _

theorem run_consistent {events : List Event} (all : ∀ call ∈ presented events, known call)
    (consistent : Consistent sha256 pubkey ttl known state) :
    Consistent sha256 pubkey ttl known (run sha256 pubkey state events) := by
  induction events generalizing state with
  | nil => exact consistent
  | cons event events ih =>
      cases event with
      | present call =>
          have both : known call ∧ ∀ other ∈ presented events, known other := by simpa [presented] using all
          exact ih both.2 (consistent.present call both.1)
      | lock index elapsed =>
          have rest : ∀ other ∈ presented events, known other := by simpa [presented] using all
          exact ih rest (consistent.lock index elapsed)

theorem fresh_consistent (clock : Nat) : Consistent sha256 pubkey ttl known (Calls.fresh ttl clock) := by
  constructor
  · rfl
  · exact ExpiringSet.sound_fresh ttl clock
  all_goals simp [Calls.fresh]

/-! ## No double spend -/

theorem rested_filterMap_iff (now : Nat) (key : Digest) (entries : List Returned) :
    ExpiringSet.Rested ttl now key (entries.filterMap (lockAttempt sha256)) ↔
      ∀ earlier ∈ entries, earlier.result = .ok () -> sha256 earlier.call.token = key ->
        earlier.time + ttl ≤ now := by
  constructor
  · intro rested earlier member accepted same
    refine rested ⟨sha256 earlier.call.token, earlier.time, true⟩ ?_ rfl same
    exact List.mem_filterMap.mpr ⟨earlier, member, by simp only [lockAttempt, accepted]⟩
  · intro old attempt member admitted same
    rcases List.mem_filterMap.mp member with ⟨earlier, isEntry, reached⟩
    have accepted : earlier.result = .ok () := by
      rw [lockAttempt] at reached
      split at reached <;> simp_all
      subst reached
      simp at admitted
    simp only [lockAttempt, accepted, Option.some.injEq] at reached
    subst reached
    exact old earlier isEntry accepted same

/-- A call that reached the lock was accepted exactly when no call with the same
token hash was accepted within the last `ttl`. -/
theorem Consistent.accepted_iff (consistent : Consistent sha256 pubkey ttl known state)
    {before after : List Returned} {entry : Returned} (split : state.returned = before ++ entry :: after)
    (reached : entry.result = .ok () ∨ entry.result = .error .replayed) :
    entry.result = .ok () ↔ ∀ earlier ∈ before, earlier.result = .ok () ->
      sha256 earlier.call.token = sha256 entry.call.token -> earlier.time + ttl ≤ entry.time := by
  have decided := consistent.sound.decided
  have attempts : (session sha256 state).attempts = before.filterMap (lockAttempt sha256) ++
      (entry :: after).filterMap (lockAttempt sha256) := by
    rw [session, split, List.filterMap_append]
  rw [← rested_filterMap_iff]
  rcases reached with accepted | replayed
  · have reads : lockAttempt sha256 entry = some ⟨sha256 entry.call.token, entry.time, true⟩ := by
      simp only [lockAttempt, accepted]
    rw [List.filterMap_cons_some reads] at attempts
    simpa [accepted] using decided _ _ _ attempts
  · have reads : lockAttempt sha256 entry = some ⟨sha256 entry.call.token, entry.time, false⟩ := by
      simp only [lockAttempt, replayed]
    rw [List.filterMap_cons_some reads] at attempts
    simpa [replayed] using decided _ _ _ attempts

/-- Two presented tokens of one length have equal hashes exactly when they are equal
numbers. -/
theorem hash_eq_iff {left right : Call} (sameLength : left.token.length = right.token.length)
    (collisionFree : sha256 left.token = sha256 right.token -> left.token = right.token) :
    sha256 left.token = sha256 right.token ↔ BigEndian.toNat left.token = BigEndian.toNat right.token := by
  constructor
  · intro same
    rw [collisionFree same]
  · intro equal
    rw [BigEndian.toNat_injective_of_length sameLength equal]

/-- A step that returns a call before the lock does not touch the window. -/
theorem step_window_of_early {event : Event} {entry : Returned}
    (returns : (step sha256 pubkey state event).returned = state.returned ++ [entry])
    (early : entry.result = .error .tokenTooShort ∨ entry.result = .error .invalidSignature) :
    (step sha256 pubkey state event).window = state.window := by
  cases event with
  | present call =>
      rw [step]
      cases checkSignature sha256 call.mRaw call.token pubkey <;> rfl
  | lock index elapsed =>
      rw [step] at returns ⊢
      cases found : state.waiting[index]? with
      | none => rfl
      | some call =>
          simp only [found, List.append_cancel_left_eq, List.cons.injEq, and_true] at returns
          subst returns
          rcases checkReplay_cases sha256 call.token (state.clock + elapsed) state.window with same | same <;>
            simp [same] at early

end Run

/-- In every interleaving of calls on one fresh window: accepted calls with the same
token number are at least `ttl` apart, a signed token that was not accepted within
the last `ttl` is accepted, and a call that fails the signature check leaves the
window as it was. -/
theorem no_double_spend (sha256 : Bytes -> Digest) (pubkey : RsaPublicKey) (ttl start : Nat)
    (events : List Event) (bits : pubkey.n.size = 2048)
    (wire : ∀ call ∈ presented events, call.token.length = 256)
    (collisionFree : ∀ left ∈ presented events, ∀ right ∈ presented events,
      sha256 left.token = sha256 right.token -> left.token = right.token) :
    (forall before later after,
      (run sha256 pubkey (Calls.fresh ttl start) events).returned = before ++ later :: after ->
      ∀ earlier ∈ before, earlier.result = .ok () -> later.result = .ok () ->
        BigEndian.toNat earlier.call.token = BigEndian.toNat later.call.token ->
        earlier.time + ttl ≤ later.time) ∧
    (forall before entry after,
      (run sha256 pubkey (Calls.fresh ttl start) events).returned = before ++ entry :: after ->
      IsRoot pubkey (sha256 entry.call.mRaw) (BigEndian.toNat entry.call.token) ->
      (∀ earlier ∈ before, earlier.result = .ok () ->
        BigEndian.toNat earlier.call.token = BigEndian.toNat entry.call.token ->
        earlier.time + ttl ≤ entry.time) ->
      entry.result = .ok ()) ∧
    (forall done event rest, events = done ++ event :: rest ->
      forall entry,
        (step sha256 pubkey (run sha256 pubkey (Calls.fresh ttl start) done) event).returned =
          (run sha256 pubkey (Calls.fresh ttl start) done).returned ++ [entry] ->
        entry.result = .error .tokenTooShort ∨ entry.result = .error .invalidSignature ->
        (step sha256 pubkey (run sha256 pubkey (Calls.fresh ttl start) done) event).window =
          (run sha256 pubkey (Calls.fresh ttl start) done).window) := by
  have consistent : Consistent sha256 pubkey ttl (· ∈ presented events)
      (run sha256 pubkey (Calls.fresh ttl start) events) :=
    run_consistent (fun _ member => member) (fresh_consistent start)
  have sameHash : forall {before after : List Returned} {entry : Returned},
      (run sha256 pubkey (Calls.fresh ttl start) events).returned = before ++ entry :: after ->
      ∀ earlier ∈ before, (sha256 earlier.call.token = sha256 entry.call.token ↔
        BigEndian.toNat earlier.call.token = BigEndian.toNat entry.call.token) := by
    intro before after entry split earlier member
    have first := consistent.returns earlier (by simp [split, member])
    have second := consistent.returns entry (by simp [split])
    exact hash_eq_iff ((wire _ first).trans (wire _ second).symm) (collisionFree _ first _ second)
  refine ⟨?_, ?_, ?_⟩
  · intro before later after split earlier member accepted alsoAccepted equal
    apply (consistent.accepted_iff split (.inl alsoAccepted)).mp alsoAccepted earlier member accepted
    exact (sameHash split earlier member).mpr equal
  · intro before entry after split root rested
    have isKnown := consistent.returns entry (by simp [split])
    have long : BigEndian.byteLength pubkey.n ≤ entry.call.token.length := by
      rw [BigEndian.byteLength, bits, wire _ isKnown]
    have reached := consistent.reached entry (by simp [split]) ((checkSignature_ok_iff long).mpr root)
    apply (consistent.accepted_iff split reached).mpr
    intro earlier member accepted same
    exact rested earlier member accepted ((sameHash split earlier member).mp same)
  · intro done event rest _ entry returns early
    exact step_window_of_early returns early

/-! ## A sample key -/

namespace Sample

/-- Two primes whose product has 2048 bits. -/
def p : Nat := 13 * 2 ^ 1000 + 1

def q : Nat := 3217 * 2 ^ 1032 + 1

def pubkey : RsaPublicKey :=
  ⟨p * q, 65537⟩

/-- The private exponent: `65537 * d = 1` modulo `lcm (p - 1) (q - 1)`. -/
def d : Nat := (42457 * (13 * 3217 * 2 ^ 1032) + 1) / 65537

/-- The text `this is exactly thirty-two bytes`. -/
def mRaw : Bytes :=
  BigEndian.ofNat 32 0x746869732069732065786163746c79207468697274792d74776f206279746573

/-- The SHA-256 digest of `mRaw`, as a number. -/
def mInt : Nat := 0x400a8dc0ed2ebf79ec748983161738f5062dd94988193ffb676d2698ef3401b5

def mHash : Digest :=
  ⟨BigEndian.ofNat 32 mInt, BigEndian.length_ofNat _ _⟩

/-- The signature of `mInt`. -/
def root : Nat := modpow mInt d pubkey.n

def token : Bytes :=
  BigEndian.ofNat 256 root

/-- The SHA-256 digest of `token`. -/
def tokenHash : Digest :=
  ⟨BigEndian.ofNat 32 0x8f34f9c23f018ac5ace383fa67832acc1e26c713f8b7fd52bab91560029eb2ee,
    BigEndian.length_ofNat _ _⟩

/-- The SHA-256 digest of the empty string. -/
def emptyHash : Digest :=
  ⟨BigEndian.ofNat 32 0xe3b0c44298fc1c149afbf4c8996fb92427ae41e4649b934ca495991b7852b855,
    BigEndian.length_ofNat _ _⟩

/-- SHA-256 on the three strings the sample hashes. -/
def sha256 (bytes : Bytes) : Digest :=
  if bytes = mRaw then mHash
  else if bytes = token then tokenHash
  else emptyHash

theorem sha256_mRaw : sha256 mRaw = mHash :=
  if_pos rfl

theorem root_lt : root < pubkey.n := by decide +kernel

theorem toNat_token : BigEndian.toNat token = root :=
  BigEndian.toNat_ofNat 256 root (by decide +kernel)

theorem length_token : token.length = 256 :=
  BigEndian.length_ofNat _ _

-- only the kernel is to compute with the signature
attribute [irreducible] token root

theorem isRoot_token : IsRoot pubkey mHash (BigEndian.toNat token) := by
  have power : modpow root pubkey.e pubkey.n = mInt := by decide +kernel
  rw [toNat_token, mHash]
  exact ⟨root_lt, by rw [← modpow_eq, power, BigEndian.toNat_ofNat 32 mInt (by decide +kernel)]⟩

theorem size_modulus : pubkey.n.size = 2048 := by decide +kernel

theorem byteLength_modulus : BigEndian.byteLength pubkey.n = 256 := by
  rw [BigEndian.byteLength, size_modulus]

theorem checkSignature_token : checkSignature sha256 mRaw token pubkey = .ok () := by
  apply (checkSignature_ok_iff _).mpr
  · rw [sha256_mRaw]
    exact isRoot_token
  · rw [byteLength_modulus, length_token]

/-- With another preimage the token is no signature. -/
theorem checkSignature_other : checkSignature sha256 [] token pubkey = .error .invalidSignature := by
  have short : ¬ token.length < BigEndian.byteLength pubkey.n := by
    rw [byteLength_modulus, length_token]
    exact Nat.lt_irrefl 256
  have wrong : modpow root pubkey.e pubkey.n ≠ BigEndian.toNat emptyHash.val := by decide +kernel
  have hash : sha256 [] = emptyHash := by decide +kernel
  simp only [checkSignature, if_neg short, toNat_token, hash, if_neg (Nat.not_le.mpr root_lt), if_pos wrong]

/-- One token presented twice at once, then with a wrong preimage, then again. -/
def spending (mRaw token : Bytes) : List Event :=
  [.present ⟨mRaw, token⟩, .present ⟨mRaw, token⟩, .lock 1 5, .lock 0 9, .present ⟨[], token⟩,
    .present ⟨mRaw, token⟩, .lock 0 1]

theorem token_of_presented {mRaw token : Bytes} (call : Call) (member : call ∈ presented (spending mRaw token)) :
    call.token = token := by
  simp only [presented, spending, List.filterMap_cons, List.filterMap_nil, List.mem_cons, List.not_mem_nil] at member
  rcases member with rfl | rfl | rfl | rfl | impossible
  all_goals trivial

theorem run_spending {sha256 : Bytes -> Digest} {pubkey : RsaPublicKey} {mRaw token : Bytes}
    (signed : checkSignature sha256 mRaw token pubkey = .ok ())
    (unsigned : checkSignature sha256 [] token pubkey = .error .invalidSignature) :
    (run sha256 pubkey (Calls.fresh 10 0) (spending mRaw token)).returned.map
        (fun entry => (entry.result, entry.time)) =
      [(.ok (), 5), (.error .replayed, 14), (.error .invalidSignature, 14), (.ok (), 15)] := by
  simp [run, spending, step, signed, unsigned, checkReplay, ExpiringSet.enter, ExpiringSet.retain,
    ExpiringSet.containsKey, Calls.fresh, ReplayWindow.new]

end Sample

theorem no_double_spend_sample :
    (run Sample.sha256 Sample.pubkey (Calls.fresh 10 0) (Sample.spending Sample.mRaw Sample.token)).returned.map
        (fun entry => (entry.result, entry.time)) =
      [(.ok (), 5), (.error .replayed, 14), (.error .invalidSignature, 14), (.ok (), 15)] ∧
    forall before later after,
      (run Sample.sha256 Sample.pubkey (Calls.fresh 10 0) (Sample.spending Sample.mRaw Sample.token)).returned =
        before ++ later :: after ->
      ∀ earlier ∈ before, earlier.result = .ok () -> later.result = .ok () ->
        BigEndian.toNat earlier.call.token = BigEndian.toNat later.call.token ->
        earlier.time + 10 ≤ later.time := by
  constructor
  · exact Sample.run_spending Sample.checkSignature_token Sample.checkSignature_other
  · refine (no_double_spend Sample.sha256 Sample.pubkey 10 0 _ Sample.size_modulus ?_ ?_).1
    · intro call member
      rw [Sample.token_of_presented call member, Sample.length_token]
    · intro left isLeft right isRight _
      rw [Sample.token_of_presented left isLeft, Sample.token_of_presented right isRight]

end Relay
end QuietHop
