import QuietHop.Client.Path
import QuietHop.Relay.Registry
import QuietHop.Wire.Payload

namespace QuietHop
namespace Circuit

open Lib Net Registry Client Relay Wire

/-!
# The client's choice against the relays' checks

The client draws a path from a document; the three relays check the same document, each
for its own two links.  What the client writes into EXTEND is found by the relay that reads
it, and every hop of the path is admitted by the next one, whichever spelling of an address
the document or the socket layer uses.

In the other direction a relay only ever passes a circuit on to the role behind its own.
-/

/-- The name a document has for a role. -/
def roleName : Role -> String
  | .guard => "guard"
  | .middle => "middle"
  | .exit => "exit"

theorem roleName_injective {first second : Role} (same : roleName first = roleName second) : first = second := by
  cases first <;> cases second <;> first | rfl | exact absurd same (by decide)

theorem addr_ok {entry : RelayEntry} {addr : SocketAddr} (read : entry.addr = .ok addr) :
    entry.ipAddr = .ok addr.ip ∧ canonicalAddr addr = addr := by
  rw [RelayEntry.addr] at read
  cases ip : entry.ipAddr with
  | error reason => simp [ip] at read
  | ok value =>
      simp only [ip] at read
      split_ifs at read
      cases read
      refine ⟨rfl, ?_⟩
      rw [RelayEntry.ipAddr] at ip
      split at ip
      · cases ip
      · cases ip
        simp [canonicalAddr]

/-- A hop of a selected path is found by the relay in front of it, which reads its address
out of EXTEND. -/
theorem extends_to {doc : Verified} {role : Role} {hop : RelayEntry} {addr : SocketAddr}
    (listed : hop ∈ doc.document.relays) (downstream : downstreamRole role = some hop.role)
    (read : hop.addr = .ok addr) (message : NoiseMsg) :
    ∃ extend, ExtendForward.decode (ExtendForward.encode ⟨addr, message⟩) = .ok extend ∧
      forall next, canonicalAddr next = canonicalAddr extend.nextHop ->
        ∃ entry, extendTarget doc role next = some entry ∧ entry.role = hop.role ∧ entry.addr = .ok addr := by
  rcases addr_ok read with ⟨-, canonical⟩
  refine ⟨_, ExtendForward.decode_encode _, ?_⟩
  intro next same
  have spelled : hop.addr = .ok (canonicalAddr next) := by
    rw [read, same, canonicalAddr_canonicalAddr, canonical]
  rcases extendTarget_of_listed listed downstream spelled with ⟨entry, target, sameRole, sameAddress⟩
  exact ⟨entry, target, sameRole, sameAddress.trans read⟩

/-- A hop of a selected path is admitted by the relay behind it. -/
theorem admitted_by {doc : Verified} {role : Role} {hop : RelayEntry} {addr : SocketAddr}
    (listed : hop ∈ doc.document.relays) (upstream : upstreamRole role = some hop.role) (read : hop.addr = .ok addr)
    {peer : IpAddr} (spelled : canonicalIp peer = canonicalIp addr.ip) : admitsInbound doc role peer = true := by
  rcases addr_ok read with ⟨ip, canonical⟩
  apply admitsInbound_of_lists upstream
  refine ⟨hop, listed, rfl, ?_⟩
  rw [ip, spelled]
  exact congrArg (fun addr : SocketAddr => Except.ok addr.ip) canonical.symm

/-- Three relays that accept one after another: each extends to the next, which runs in the
role under which it was found and admits the one in front. -/
structure Chain (doc : Verified) (roles : Role × Role × Role) (addrs : SocketAddr × SocketAddr × SocketAddr)
    (second third : RelayEntry) : Prop where
  firstExtends : extendTarget doc roles.1 addrs.2.1 = some second
  secondRole : second.role = roleName roles.2.1
  secondAdmits : admitsInbound doc roles.2.1 addrs.1.ip = true
  secondExtends : extendTarget doc roles.2.1 addrs.2.2 = some third
  thirdRole : third.role = roleName roles.2.2
  thirdAdmits : admitsInbound doc roles.2.2 addrs.2.1.ip = true

theorem downstream_of_extendTarget {doc : Verified} {role next : Role} {addr : SocketAddr} {entry : RelayEntry}
    (target : extendTarget doc role addr = some entry) (runs : entry.role = roleName next) :
    (role = .guard ∧ next = .middle) ∨ (role = .middle ∧ next = .exit) := by
  rcases extendTarget_spec target with ⟨-, downstream, -⟩
  rw [runs] at downstream
  cases role with
  | guard => exact .inl ⟨rfl, roleName_injective (Option.some.inj downstream).symm⟩
  | middle => exact .inr ⟨rfl, roleName_injective (Option.some.inj downstream).symm⟩
  | exit => cases downstream

theorem Chain.roles {doc : Verified} {roles : Role × Role × Role} {addrs : SocketAddr × SocketAddr × SocketAddr}
    {second third : RelayEntry} (chain : Chain doc roles addrs second third) :
    roles = (.guard, .middle, .exit) := by
  rcases downstream_of_extendTarget chain.firstExtends chain.secondRole with ⟨isGuard, isMiddle⟩ | ⟨-, isExit⟩
  · rcases downstream_of_extendTarget chain.secondExtends chain.thirdRole with ⟨isGuard', -⟩ | ⟨-, isExit⟩
    · cases isMiddle.symm.trans isGuard'
    · exact Prod.ext isGuard (Prod.ext isMiddle isExit)
  · -- An exit extends to nothing.
    rcases downstream_of_extendTarget chain.secondExtends chain.thirdRole with ⟨isGuard, -⟩ | ⟨isMiddle, -⟩
    · cases isExit.symm.trans isGuard
    · cases isExit.symm.trans isMiddle

/-- The client and the relays agree on every path. -/
theorem path_agreement (doc : Verified) (rules : PathRules) (now : Int64)
    (genRange : (total : Nat) -> 0 < total -> Fin total) (message : NoiseMsg) :
    (forall path, selectWith doc.document rules now.toInt genRange = some (.ok path) ->
      usable (some doc) now.toInt = some doc ∧
      ∃ guard middle exit, path.guard.addr = .ok guard ∧ path.middle.addr = .ok middle ∧ path.exit.addr = .ok exit ∧
        (∃ extend, ExtendForward.decode (ExtendForward.encode ⟨middle, message⟩) = .ok extend ∧
          forall next, canonicalAddr next = canonicalAddr extend.nextHop ->
            ∃ entry, extendTarget doc .guard next = some entry ∧ entry.role = "middle" ∧ entry.addr = .ok middle) ∧
        (forall peer, canonicalIp peer = canonicalIp guard.ip -> admitsInbound doc .middle peer = true) ∧
        (∃ extend, ExtendForward.decode (ExtendForward.encode ⟨exit, message⟩) = .ok extend ∧
          forall next, canonicalAddr next = canonicalAddr extend.nextHop ->
            ∃ entry, extendTarget doc .middle next = some entry ∧ entry.role = "exit" ∧ entry.addr = .ok exit) ∧
        (forall peer, canonicalIp peer = canonicalIp middle.ip -> admitsInbound doc .exit peer = true)) ∧
    (forall roles addrs second third, Chain doc roles addrs second third -> roles = (.guard, .middle, .exit)) := by
  refine ⟨?_, fun _ _ _ _ chain => chain.roles⟩
  intro path selected
  rcases selectWith_verdict doc.document rules now genRange with ⟨result, returned, verdict⟩
  cases selected.symm.trans returned
  rcases verdict.path with ⟨allowed, -, decodes⟩
  rcases allowed.listed with ⟨guardListed, middleListed, exitListed⟩
  rcases allowed.roles with ⟨guardRole, middleRole, exitRole⟩
  rcases (decodes path.guard (by simp)).1 with ⟨guard, guardRead⟩
  rcases (decodes path.middle (by simp)).1 with ⟨middle, middleRead⟩
  rcases (decodes path.exit (by simp)).1 with ⟨exit, exitRead⟩
  refine ⟨?_, guard, middle, exit, guardRead, middleRead, exitRead, ?_, ?_, ?_, ?_⟩
  · apply usable_eq_some_iff.mpr
    refine ⟨rfl, ?_⟩
    rcases isUsableAt_cases doc.document now with ⟨-, undated⟩ | ⟨-, -, unusable⟩ | ⟨inside, -⟩
    · exact absurd (verdict.ok_iff.mp ⟨path, rfl⟩).1.dated undated
    · exact absurd (verdict.ok_iff.mp ⟨path, rfl⟩).1 unusable
    · exact inside
  · rw [← middleRole]
    exact extends_to middleListed (by rw [middleRole]; rfl) middleRead message
  · exact fun peer spelled => admitted_by guardListed (by rw [guardRole]; rfl) guardRead spelled
  · rw [← exitRole]
    exact extends_to exitListed (by rw [exitRole]; rfl) exitRead message
  · exact fun peer spelled => admitted_by middleListed (by rw [middleRole]; rfl) middleRead spelled

/-! ## A document with one relay for each role -/

def threeRelays : Document where
  version := 1
  validAfter := "1970-01-01T01:00:00Z"
  freshUntil := "1970-01-01T02:00:00Z"
  validUntil := "1970-01-01T07:00:00Z"
  relays :=
    [⟨"g", "a", "h1", "guard", "10.1.0.1", 443, "g.example", String.ofList (List.replicate 64 '0')⟩,
      ⟨"m", "b", "h2", "middle", "::ffff:10.2.0.1", 443, "m.example", String.ofList (List.replicate 64 '1')⟩,
      ⟨"e", "c", "h3", "exit", "10.3.0.1", 443, "e.example", String.ofList (List.replicate 64 '2')⟩]

def onlyPath : SelectedPath where
  guard := ⟨"g", "a", "h1", "guard", "10.1.0.1", 443, "g.example", String.ofList (List.replicate 64 '0')⟩
  middle := ⟨"m", "b", "h2", "middle", "::ffff:10.2.0.1", 443, "m.example", String.ofList (List.replicate 64 '1')⟩
  exit := ⟨"e", "c", "h3", "exit", "10.3.0.1", 443, "e.example", String.ofList (List.replicate 64 '2')⟩
  operatorSpan := 3

/-- The middle is listed in its mapped spelling, and the exit admits it all the same. -/
theorem path_agreement_three_relays :
    selectWith threeRelays ⟨true⟩ (3600 : Int64).toInt (fun _ positive => ⟨0, positive⟩) = some (.ok onlyPath) ∧
    admitsInbound ⟨threeRelays, [], []⟩ .exit (.v4 ⟨[10, 2, 0, 1], rfl⟩) = true := by
  have selected : selectWith threeRelays ⟨true⟩ (3600 : Int64).toInt (fun _ positive => ⟨0, positive⟩) =
      some (.ok onlyPath) := by decide +kernel
  refine ⟨selected, ?_⟩
  rcases (path_agreement ⟨threeRelays, [], []⟩ ⟨true⟩ 3600 (fun _ positive => ⟨0, positive⟩)
    ⟨List.replicate noiseMsgLen 0, List.length_replicate⟩).1 onlyPath selected with
    ⟨-, guard, middle, exit, -, middleRead, -, -, -, -, admits⟩
  have known : onlyPath.middle.addr = .ok ⟨.v4 ⟨[10, 2, 0, 1], rfl⟩, 443⟩ := by decide +kernel
  cases known.symm.trans middleRead
  exact admits _ rfl

end Circuit
end QuietHop
