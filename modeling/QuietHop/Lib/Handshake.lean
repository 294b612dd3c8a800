namespace QuietHop
namespace Lib

/-!
# Handshakes of two messages

An initiator who knows the public key of a responder sends a first message; the
responder answers it with its secret key, and both then hold a key.  Three laws are
asked of such a handshake.  The responder that is named can always answer, and the
initiator accepts that answer with the same key.  Nobody else can answer.  And an
initiator accepts nothing but an answer to its own first message by a holder of the
secret key.

The randomness of both sides is an argument.  Starting may fail, because not every
value of the type of public keys need be usable.
-/

structure Handshake (Public Secret Seed Initiator Message Key : Type) where
  publicOf : Secret -> Public
  start : Public -> Seed -> Option (Initiator × Message)
  respond : Secret -> Seed -> Message -> Option (Key × Message)
  finish : Initiator -> Message -> Option Key
  agrees : forall {secret seed answer initiator first}, start (publicOf secret) seed = some (initiator, first) ->
    ∃ key second, respond secret answer first = some (key, second) ∧ finish initiator second = some key
  refuses : forall {secret named seed answer initiator first}, start named seed = some (initiator, first) ->
    publicOf secret ≠ named -> respond secret answer first = none
  authentic : forall {named seed initiator first second key}, start named seed = some (initiator, first) ->
    finish initiator second = some key ->
    ∃ secret answer, publicOf secret = named ∧ respond secret answer first = some (key, second)

namespace Handshake

variable {Public Secret Seed Initiator Message Key : Type}

/-- The handshake without secrets: the first message names the responder, and the answer repeats it. -/
def echo [DecidableEq Message] (encode : Public -> Message) (session : Public -> Key)
    (injective : forall first second, encode first = encode second -> first = second) :
    Handshake Public Public Unit Public Message Key where
  publicOf secret := secret
  start named _ := some (named, encode named)
  respond secret _ message := if message = encode secret then some (session secret, message) else none
  finish initiator message := if message = encode initiator then some (session initiator) else none
  agrees := by
    intro secret seed answer initiator first started
    cases started
    exact ⟨session secret, encode secret, if_pos rfl, if_pos rfl⟩
  refuses := by
    intro secret named seed answer initiator first started other
    cases started
    exact if_neg fun same => other (injective _ _ same).symm
  authentic := by
    intro named seed initiator first second key started finished
    cases started
    by_cases same : second = encode named
    · rw [if_pos same] at finished
      cases finished
      exact ⟨named, (), rfl, by rw [if_pos rfl, same]⟩
    · rw [if_neg same] at finished
      cases finished

end Handshake
end Lib
end QuietHop
