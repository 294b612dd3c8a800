import QuietHop.Lib.BigEndian

namespace QuietHop
namespace Lib

/-!
# An ideal authenticated channel with implicit counters

One direction of a session is the list of messages its sender has sealed.  The
position of a message in that list is the counter value it was sealed at, so no
counter travels with it.  A receiver that has opened `counter` messages accepts
exactly the ciphertext sealed at that position and nothing else: forgery,
replay, reordering and truncation all fail the same comparison.

The ciphertexts themselves come from an arbitrary function of key, counter and
plaintext whose expansion is constant.  Nothing else is assumed of it, and in
particular no two ciphertexts are assumed different.
-/

/-- The encryption function of an authenticated cipher.  Its only law is that
every ciphertext is longer than its plaintext by the same overhead. -/
structure Aead (Key : Type) (overhead : Nat) where
  encrypt : Key -> Nat -> Bytes -> Bytes
  length_encrypt : forall key counter plain, (encrypt key counter plain).length = plain.length + overhead

/-- Appending zero bytes is such a function; the ideal channel is not empty. -/
def Aead.zeroTag (overhead : Nat) : Aead Unit overhead where
  encrypt := fun _ _ plain => plain ++ List.replicate overhead 0
  length_encrypt := by simp

/-- One sealed message: what went in and what came out. -/
structure Sealed where
  plain : Bytes
  cipher : Bytes
  deriving DecidableEq, Repr

namespace Channel

/-- What a receiver at `counter` makes of a ciphertext. -/
def openAt (log : List Sealed) (counter : Nat) (cipher : Bytes) : Option Bytes :=
  match log[counter]? with
  | some message => if message.cipher = cipher then some message.plain else none
  | none => none

theorem openAt_eq_some_iff {log : List Sealed} {counter : Nat} {cipher plain : Bytes} :
    openAt log counter cipher = some plain ↔ log[counter]? = some ⟨plain, cipher⟩ := by
  unfold openAt
  cases message : log[counter]? with
  | none => simp
  | some entry =>
      obtain ⟨entryPlain, entryCipher⟩ := entry
      by_cases same : entryCipher = cipher
      · simp [same]
      · simp [same]

section Sealing

variable {Key : Type} {overhead : Nat} (aead : Aead Key overhead)

/-- Seal a list of plaintexts one after another, starting at `counter`. -/
def sealFrom (key : Key) (counter : Nat) : List Bytes -> List Sealed
  | [] => []
  | plain :: rest => ⟨plain, aead.encrypt key counter plain⟩ :: sealFrom key (counter + 1) rest

@[simp] theorem length_sealFrom (key : Key) (counter : Nat) (plains : List Bytes) :
    (sealFrom aead key counter plains).length = plains.length := by
  induction plains generalizing counter with
  | nil => rfl
  | cons plain rest ih => simp [sealFrom, ih]

@[simp] theorem map_plain_sealFrom (key : Key) (counter : Nat) (plains : List Bytes) :
    (sealFrom aead key counter plains).map Sealed.plain = plains := by
  induction plains generalizing counter with
  | nil => rfl
  | cons plain rest ih => simp [sealFrom, ih]

theorem sealFrom_append (key : Key) (counter : Nat) (first second : List Bytes) :
    sealFrom aead key counter (first ++ second) =
      sealFrom aead key counter first ++ sealFrom aead key (counter + first.length) second := by
  induction first generalizing counter with
  | nil => rfl
  | cons plain rest ih =>
      simp only [List.cons_append, sealFrom, ih, List.length_cons]
      rw [Nat.add_right_comm, Nat.add_assoc]

end Sealing
end Channel
end Lib
end QuietHop
