import QuietHop.Registry.Verify

namespace QuietHop
namespace Relay

open Lib Net Registry

/-!
# The verified registry as the relay consumes it

Both ends of a relay link are decided by the document in force: an inbound link is
accepted only from an address listed for the role directly upstream, and an EXTEND is
followed only to an address and port listed for the role directly downstream.
-/

inductive Role where
  | guard
  | middle
  | exit
  deriving DecidableEq, Repr

/-- The current document when it may be used at `nowUnix`.  Nothing published, a
poisoned lock and unparsable timestamps all read as none. -/
def usable (current : Option Verified) (nowUnix : Int) : Option Verified :=
  match current with
  | none => none
  | some doc =>
      match doc.document.isUsableAt nowUnix with
      | .ok true => some doc
      | _ => none

def upstreamRole : Role -> Option String
  | .guard => none
  | .middle => some "guard"
  | .exit => some "middle"

def downstreamRole : Role -> Option String
  | .guard => some "middle"
  | .middle => some "exit"
  | .exit => none

/-- Whether `peer` may open an inbound relay link to a relay in `role`. -/
def admitsInbound (doc : Verified) (role : Role) (peer : IpAddr) : Bool :=
  match upstreamRole role with
  | none => false
  | some want =>
      doc.document.relays.any fun e =>
        e.role == want && match e.ipAddr with
          | .ok ip => ip == canonicalIp peer
          | .error _ => false

/-- The registry entry for an EXTEND target, or none when it is not a permitted next
hop. -/
def extendTarget (doc : Verified) (role : Role) (next : SocketAddr) : Option RelayEntry :=
  match downstreamRole role with
  | none => none
  | some want =>
      doc.document.relays.find? fun e =>
        e.role == want && match e.addr with
          | .ok a => a == canonicalAddr next
          | .error _ => false

/-! ## What the checks mean -/

/-- The document in force at an instant. -/
def InForce (current : Option Verified) (nowUnix : Int) (doc : Verified) : Prop :=
  current = some doc ∧ doc.document.isUsableAt nowUnix = .ok true

/-- The document lists an address for a role. -/
def Lists (doc : Verified) (role : String) (ip : IpAddr) : Prop :=
  ∃ entry ∈ doc.document.relays, entry.role = role ∧ entry.ipAddr = .ok (canonicalIp ip)

/-- The document lists an address and port for a role, under this TLS name. -/
def ListsAt (doc : Verified) (role : String) (addr : SocketAddr) (tlsName : String) : Prop :=
  ∃ entry ∈ doc.document.relays, entry.role = role ∧ entry.addr = .ok (canonicalAddr addr) ∧
    entry.tlsName = tlsName

theorem usable_eq_some_iff {current : Option Verified} {nowUnix : Int} {doc : Verified} :
    usable current nowUnix = some doc ↔ InForce current nowUnix doc := by
  cases current with
  | none => simp [usable, InForce]
  | some held =>
      simp only [usable, InForce, Option.some.injEq]
      constructor
      · intro found
        split at found
        · next usableNow =>
            cases found
            exact ⟨rfl, usableNow⟩
        · cases found
      · rintro ⟨rfl, usableNow⟩
        simp only [usableNow]

theorem lists_of_admitsInbound {doc : Verified} {role : Role} {peer : IpAddr}
    (admitted : admitsInbound doc role peer = true) :
    ∃ want, upstreamRole role = some want ∧ Lists doc want peer := by
  rw [admitsInbound] at admitted
  cases upstream : upstreamRole role with
  | none => simp [upstream] at admitted
  | some want =>
      simp only [upstream, List.any_eq_true, Bool.and_eq_true, beq_iff_eq] at admitted
      rcases admitted with ⟨entry, member, sameRole, sameAddress⟩
      refine ⟨want, rfl, entry, member, sameRole, ?_⟩
      split at sameAddress
      · next ip read => rw [read, eq_of_beq sameAddress]
      · cases sameAddress

/-- A target is an entry listed for the role downstream at the address asked for. -/
theorem extendTarget_spec {doc : Verified} {role : Role} {next : SocketAddr} {entry : RelayEntry}
    (target : extendTarget doc role next = some entry) :
    entry ∈ doc.document.relays ∧ downstreamRole role = some entry.role ∧ entry.addr = .ok (canonicalAddr next) := by
  rw [extendTarget] at target
  cases downstream : downstreamRole role with
  | none => simp [downstream] at target
  | some want =>
      simp only [downstream] at target
      have found := List.find?_some target
      simp only [Bool.and_eq_true, beq_iff_eq] at found
      refine ⟨List.mem_of_find?_eq_some target, by rw [found.1], ?_⟩
      have sameAddress := found.2
      split at sameAddress
      · next a read => rw [read, eq_of_beq sameAddress]
      · cases sameAddress

theorem listsAt_of_extendTarget {doc : Verified} {role : Role} {next : SocketAddr} {entry : RelayEntry}
    (target : extendTarget doc role next = some entry) :
    ∃ want, downstreamRole role = some want ∧ ListsAt doc want next entry.tlsName := by
  rcases extendTarget_spec target with ⟨member, downstream, address⟩
  exact ⟨entry.role, downstream, entry, member, rfl, address, rfl⟩

theorem admitsInbound_of_lists {doc : Verified} {role : Role} {peer : IpAddr} {want : String}
    (upstream : upstreamRole role = some want) (listed : Lists doc want peer) : admitsInbound doc role peer = true := by
  rcases listed with ⟨entry, member, sameRole, sameAddress⟩
  simp only [admitsInbound, upstream, List.any_eq_true, Bool.and_eq_true, beq_iff_eq]
  refine ⟨entry, member, sameRole, ?_⟩
  rw [sameAddress]
  exact beq_self_eq_true _

/-- A listed address is found, perhaps under another entry that lists the same. -/
theorem extendTarget_of_listed {doc : Verified} {role : Role} {next : SocketAddr} {entry : RelayEntry}
    (member : entry ∈ doc.document.relays) (downstream : downstreamRole role = some entry.role)
    (sameAddress : entry.addr = .ok (canonicalAddr next)) :
    ∃ found, extendTarget doc role next = some found ∧ found.role = entry.role ∧ found.addr = entry.addr := by
  have present : (extendTarget doc role next).isSome = true := by
    simp only [extendTarget, downstream, List.find?_isSome, Bool.and_eq_true, beq_iff_eq]
    refine ⟨entry, member, rfl, ?_⟩
    rw [sameAddress]
    exact beq_self_eq_true _
  rcases Option.isSome_iff_exists.mp present with ⟨found, target⟩
  rcases extendTarget_spec target with ⟨-, role, address⟩
  refine ⟨found, target, ?_, address.trans sameAddress.symm⟩
  rw [downstream] at role
  exact (Option.some.inj role).symm

end Relay
end QuietHop
