import Mathlib.Data.List.GetD
import QuietHop.Wire.Cell

namespace QuietHop
namespace Wire

open Lib Net

/-!
# The payloads a relay acts on

EXTEND carries the next hop as a binary literal and the client's first handshake
message for it; CONNECT carries the destination the exit dials.  Neither payload
can be resolved or padded: EXTEND has one fixed length, and CONNECT's length
prefix must account for every byte.
-/

/-- One handshake message, `[u8; NOISE_MSG_LEN]`. -/
abbrev NoiseMsg := { message : Bytes // message.length = noiseMsgLen }

def extendAddrLen : Nat := 16
def extendForwardLen : Nat := extendAddrLen + 2 + noiseMsgLen

theorem length_take_extendAddrLen {bytes : Bytes} (size : bytes.length = extendForwardLen) :
    (bytes.take extendAddrLen).length = 16 := by
  rw [List.length_take, size]
  decide

/-- The two bytes of a port are read and written in one way. -/
theorem ofNat_port (high low : UInt8) :
    BigEndian.ofNat 2 (UInt16.ofNat (BigEndian.toNat [high, low])).toNat = [high, low] := by
  have small : BigEndian.toNat [high, low] < 2 ^ 16 := by simpa using BigEndian.toNat_lt [high, low]
  rw [UInt16.toNat_ofNat', Nat.mod_eq_of_lt small]
  exact BigEndian.ofNat_toNat [high, low]

structure ExtendForward where
  nextHop : SocketAddr
  noiseMsg1 : NoiseMsg
  deriving DecidableEq

namespace ExtendForward

/-- An IPv4 next hop travels in its mapped spelling. -/
def encode (extend : ExtendForward) : Bytes :=
  let v6 :=
    match extend.nextHop.ip with
    | .v4 address => address.toIpv6Mapped
    | .v6 address => address
  v6.octets ++ BigEndian.ofNat 2 extend.nextHop.port.toNat ++ extend.noiseMsg1.val

def decode (bytes : Bytes) : Except CellError ExtendForward :=
  if size : bytes.length = extendForwardLen then
    let v6 : Ipv6Addr := ⟨bytes.take extendAddrLen, length_take_extendAddrLen size⟩
    let ip :=
      match v6.toIpv4Mapped with
      | some address => IpAddr.v4 address
      | none => IpAddr.v6 v6
    let port := BigEndian.toNat [bytes.getD extendAddrLen 0, bytes.getD (extendAddrLen + 1) 0]
    .ok ⟨⟨ip, UInt16.ofNat port⟩,
      ⟨bytes.drop (extendAddrLen + 2), by simp [size, extendForwardLen]⟩⟩
  else .error (.badExtend "payload is not the fixed EXTEND length")

/-- A decoded next hop is already in the spelling comparisons use. -/
theorem canonical_of_decode {bytes : Bytes} {extend : ExtendForward}
    (decoded : decode bytes = .ok extend) : canonicalAddr extend.nextHop = extend.nextHop := by
  unfold decode at decoded
  by_cases size : bytes.length = extendForwardLen
  · rw [dif_pos size] at decoded
    cases decoded
    simp only [canonicalAddr, SocketAddr.mk.injEq, and_true]
    cases reduced : Ipv6Addr.toIpv4Mapped
        ⟨bytes.take extendAddrLen, length_take_extendAddrLen size⟩ with
    | none => simp only [canonicalIp, reduced]
    | some address => rfl
  · rw [dif_neg size] at decoded
    cases decoded

/-- The relay reads back the next hop the client wrote, in the spelling comparisons use. -/
theorem decode_encode (extend : ExtendForward) :
    decode extend.encode = .ok ⟨canonicalAddr extend.nextHop, extend.noiseMsg1⟩ := by
  rcases extend with ⟨⟨ip, port⟩, message, messageSize⟩
  rcases spelled : (match ip with
    | .v4 address => address.toIpv6Mapped
    | .v6 address => address : Ipv6Addr) with ⟨octets, octetsSize⟩
  have digits : ∃ high low, BigEndian.ofNat 2 port.toNat = [high, low] := ⟨_, _, rfl⟩
  rcases digits with ⟨high, low, digits⟩
  have numeral : BigEndian.toNat [high, low] = port.toNat := by
    rw [← digits, BigEndian.toNat_ofNat 2 _ port.toNat_lt]
  have written : encode ⟨⟨ip, port⟩, message, messageSize⟩ = octets ++ [high, low] ++ message := by
    simp only [encode, spelled, digits]
  have size : (octets ++ [high, low] ++ message).length = extendForwardLen := by
    simp [octetsSize, messageSize, extendForwardLen, extendAddrLen, noiseMsgLen]
  have front : (octets ++ [high, low] ++ message).take extendAddrLen = octets := by
    rw [List.append_assoc]
    exact List.take_left' octetsSize
  have back : (octets ++ [high, low] ++ message).drop (extendAddrLen + 2) = message := by
    apply List.drop_left'
    simp [octetsSize, extendAddrLen]
  have highAt : (octets ++ [high, low] ++ message).getD extendAddrLen 0 = high := by
    rw [List.append_assoc, List.getD_append_right _ _ _ _ (by rw [octetsSize]; decide), octetsSize]
    rfl
  have lowAt : (octets ++ [high, low] ++ message).getD (extendAddrLen + 1) 0 = low := by
    rw [List.append_assoc, List.getD_append_right _ _ _ _ (by rw [octetsSize]; decide), octetsSize]
    rfl
  -- Both spellings of an address reduce to the canonical one.
  have reduced : (match (Ipv6Addr.mk octets octetsSize).toIpv4Mapped with
      | some address => IpAddr.v4 address
      | none => IpAddr.v6 ⟨octets, octetsSize⟩) = canonicalIp ip := by
    rw [← spelled]
    cases ip with
    | v4 address => simp
    | v6 address => rfl
  rw [written, decode, dif_pos size]
  simp only [front, back, highAt, lowAt, numeral, reduced, UInt16.ofNat_toNat, canonicalAddr]

theorem length_encode (extend : ExtendForward) : extend.encode.length = extendForwardLen := by
  have decoded := decode_encode extend
  by_contra other
  rw [decode, dif_neg other] at decoded
  cases decoded

theorem decode_ok_iff (bytes : Bytes) : (∃ extend, decode bytes = .ok extend) ↔ bytes.length = extendForwardLen := by
  constructor
  · rintro ⟨extend, decoded⟩
    by_contra other
    rw [decode, dif_neg other] at decoded
    cases decoded
  · intro size
    rw [decode, dif_pos size]
    exact ⟨_, rfl⟩

/-- Whatever is decoded was written in the one way it can be written. -/
theorem encode_of_decode {bytes : Bytes} {extend : ExtendForward} (decoded : decode bytes = .ok extend) :
    extend.encode = bytes := by
  have size := (decode_ok_iff bytes).mp ⟨extend, decoded⟩
  rw [decode, dif_pos size] at decoded
  cases decoded
  have total : bytes.length = 66 := size
  have parts : bytes = bytes.take extendAddrLen ++ [bytes.getD extendAddrLen 0, bytes.getD (extendAddrLen + 1) 0] ++
      bytes.drop (extendAddrLen + 2) := by
    have first := drop_eq_getD_cons (show extendAddrLen < bytes.length by rw [total]; decide)
    have second := drop_eq_getD_cons (show extendAddrLen + 1 < bytes.length by rw [total]; decide)
    rw [List.append_assoc, List.cons_append, List.cons_append, List.nil_append, ← second, ← first,
      List.take_append_drop]
  -- The mapped spelling of a reduced address is the address itself.
  have spelled : (match (match (Ipv6Addr.mk (bytes.take extendAddrLen) (length_take_extendAddrLen size)).toIpv4Mapped with
      | some address => IpAddr.v4 address
      | none => IpAddr.v6 ⟨bytes.take extendAddrLen, length_take_extendAddrLen size⟩) with
      | .v4 address => address.toIpv6Mapped
      | .v6 address => address : Ipv6Addr) = ⟨bytes.take extendAddrLen, length_take_extendAddrLen size⟩ := by
    cases reduced : Ipv6Addr.toIpv4Mapped ⟨bytes.take extendAddrLen, length_take_extendAddrLen size⟩ with
    | none => rfl
    | some address => exact Ipv6Addr.toIpv6Mapped_of_toIpv4Mapped reduced
  simp only [encode, spelled, ofNat_port]
  exact parts.symm

end ExtendForward

/-- EXTEND payloads are the strings of 66 bytes.  Decoding and encoding are inverse to each other up to the
spelling of the next hop, so that each next hop has one wire form. -/
theorem extend_codec :
    (forall bytes : Bytes, (∃ extend, ExtendForward.decode bytes = .ok extend) ↔ bytes.length = 66) ∧
    (forall (bytes : Bytes) (extend : ExtendForward), ExtendForward.decode bytes = .ok extend -> extend.encode = bytes) ∧
    (forall extend : ExtendForward,
      ExtendForward.decode extend.encode = .ok ⟨canonicalAddr extend.nextHop, extend.noiseMsg1⟩) ∧
    (forall extend other : ExtendForward, extend.encode = other.encode ↔
      canonicalAddr extend.nextHop = canonicalAddr other.nextHop ∧ extend.noiseMsg1 = other.noiseMsg1) := by
  refine ⟨ExtendForward.decode_ok_iff, fun bytes extend => ExtendForward.encode_of_decode,
    ExtendForward.decode_encode, ?_⟩
  intro extend other
  have here := ExtendForward.decode_encode extend
  have there := ExtendForward.decode_encode other
  constructor
  · intro same
    rw [same, there] at here
    have equal := ExtendForward.mk.inj (Except.ok.inj here)
    exact ⟨equal.1.symm, equal.2.symm⟩
  · rintro ⟨address, message⟩
    rw [← ExtendForward.encode_of_decode here, ← ExtendForward.encode_of_decode there, address, message]

/-- EXTEND's backward payload is the next hop's answer and nothing else. -/
def extendBackwardPayload (msg2 : NoiseMsg) : Bytes :=
  msg2.val

def parseExtendBackward (bytes : Bytes) : Except CellError NoiseMsg :=
  if size : bytes.length = noiseMsgLen then .ok ⟨bytes, size⟩
  else .error (.badExtend "backward payload is not one Noise message")

structure ConnectPayload where
  host : String
  port : UInt16
  deriving DecidableEq, Repr

/-- Longest destination host that still fits one cell. -/
def maxConnectHostLen : Nat := cellPayloadLen - 4

namespace ConnectPayload

def encode (connect : ConnectPayload) : Except CellError Bytes :=
  let hostBytes := asBytes connect.host
  if hostBytes.length > maxConnectHostLen then .error (.badConnect "host does not fit one cell")
  else .ok (BigEndian.ofNat 2 hostBytes.length ++ hostBytes ++ BigEndian.ofNat 2 connect.port.toNat)

def decode (bytes : Bytes) : Except CellError ConnectPayload :=
  if bytes.length < 4 then .error (.badConnect "payload shorter than length prefix and port")
  else
    let hostLen := BigEndian.toNat [bytes.getD 0 0, bytes.getD 1 0]
    if bytes.length ≠ 2 + hostLen + 2 then
      .error (.badConnect "payload length does not match host_len and port")
    else
      match String.fromUTF8? ⟨((bytes.drop 2).take hostLen).toArray⟩ with
      | none => .error .badAddress
      | some host =>
          let port := BigEndian.toNat [bytes.getD (2 + hostLen) 0, bytes.getD (2 + hostLen + 1) 0]
          .ok ⟨host, UInt16.ofNat port⟩

theorem fromUTF8?_asBytes (text : String) :
    String.fromUTF8? ⟨(asBytes text).toArray⟩ = some text := by
  have valid := text.isValidUTF8
  simp [asBytes, String.fromUTF8?, String.fromUTF8, valid]

theorem asBytes_of_fromUTF8? {bytes : Bytes} {text : String}
    (read : String.fromUTF8? ⟨bytes.toArray⟩ = some text) : asBytes text = bytes := by
  unfold String.fromUTF8? at read
  split_ifs at read with valid
  cases read
  simp [asBytes, String.fromUTF8]

/-- The exit reads back the destination the client wrote. -/
theorem decode_encode {connect : ConnectPayload} {bytes : Bytes}
    (encoded : connect.encode = .ok bytes) : decode bytes = .ok connect := by
  obtain ⟨host, port⟩ := connect
  unfold encode at encoded
  by_cases long : (asBytes host).length > maxConnectHostLen
  · simp [long] at encoded
  · simp only [if_neg long, Except.ok.injEq] at encoded
    have bound : (asBytes host).length < 256 ^ 2 :=
      Nat.lt_of_le_of_lt (Nat.not_lt.mp long) (by decide)
    obtain ⟨high, low, digits⟩ : ∃ high low, BigEndian.ofNat 2 (asBytes host).length = [high, low] :=
      ⟨_, _, rfl⟩
    obtain ⟨portHigh, portLow, portDigits⟩ : ∃ high low, BigEndian.ofNat 2 port.toNat = [high, low] :=
      ⟨_, _, rfl⟩
    have numeral : BigEndian.toNat [high, low] = (asBytes host).length := by
      rw [← digits, BigEndian.toNat_ofNat 2 _ bound]
    have portNumeral : BigEndian.toNat [portHigh, portLow] = port.toNat := by
      rw [← portDigits, BigEndian.toNat_ofNat 2 _ port.toNat_lt]
    rw [digits, portDigits] at encoded
    subst encoded
    -- The port bytes sit right behind the prefix and the host.
    have front : ([high, low] ++ asBytes host).length = 2 + (asBytes host).length := by
      simp only [List.length_append, List.length_cons, List.length_nil]
    have tail (index : Nat) : ([high, low] ++ asBytes host ++ [portHigh, portLow]).getD
        (2 + (asBytes host).length + index) 0 = [portHigh, portLow].getD index 0 := by
      rw [List.getD_append_right _ _ _ _ (by omega), front, Nat.add_sub_cancel_left]
    have size : ([high, low] ++ asBytes host ++ [portHigh, portLow]).length =
        2 + (asBytes host).length + 2 := by
      rw [List.length_append, front]
      rfl
    have middle : (([high, low] ++ asBytes host ++ [portHigh, portLow]).drop 2).take
        (asBytes host).length = asBytes host :=
      List.take_left' rfl
    have first := tail 0
    have second := tail 1
    simp only [Nat.add_zero, List.getD_cons_zero, List.getD_cons_succ] at first second
    have prefixBytes : [([high, low] ++ asBytes host ++ [portHigh, portLow]).getD 0 0,
        ([high, low] ++ asBytes host ++ [portHigh, portLow]).getD 1 0] = [high, low] := rfl
    unfold decode
    rw [if_neg (by omega)]
    simp only [prefixBytes, numeral, size, ne_eq, not_true_eq_false, if_false, middle,
      fromUTF8?_asBytes, first, second, portNumeral, UInt16.ofNat_toNat]

/-- The reads of `decode` with their bounds: none is a read outside the payload. -/
def decodeChecked (bytes : Bytes) : Option (Except CellError ConnectPayload) :=
  if bytes.length < 4 then some (.error (.badConnect "payload shorter than length prefix and port"))
  else do
    let high ← bytes[0]?
    let low ← bytes[1]?
    let hostLen := BigEndian.toNat [high, low]
    if bytes.length ≠ 2 + hostLen + 2 then
      some (.error (.badConnect "payload length does not match host_len and port"))
    else do
      let slice ← if 2 + hostLen ≤ bytes.length then some ((bytes.drop 2).take hostLen) else none
      match String.fromUTF8? ⟨slice.toArray⟩ with
      | none => some (.error .badAddress)
      | some host => do
          let portHigh ← bytes[2 + hostLen]?
          let portLow ← bytes[2 + hostLen + 1]?
          some (.ok ⟨host, UInt16.ofNat (BigEndian.toNat [portHigh, portLow])⟩)

/-- No read is out of bounds. -/
theorem decodeChecked_eq (bytes : Bytes) : decodeChecked bytes = some (decode bytes) := by
  have read {index : Nat} (inside : index < bytes.length) : bytes[index]? = some (bytes.getD index 0) := by
    rw [List.getD_eq_getElem _ _ inside, List.getElem?_eq_getElem inside]
  simp only [decodeChecked, decode]
  by_cases short : bytes.length < 4
  · rw [if_pos short, if_pos short]
  rw [if_neg short, if_neg short, read (show 0 < bytes.length by omega), read (show 1 < bytes.length by omega)]
  simp only [Option.bind_eq_bind, Option.bind_some]
  generalize BigEndian.toNat [bytes.getD 0 0, bytes.getD 1 0] = hostLen
  by_cases size : bytes.length = 2 + hostLen + 2
  · rw [if_neg (not_not.mpr size), if_neg (not_not.mpr size), if_pos (by omega)]
    cases String.fromUTF8? ⟨((bytes.drop 2).take hostLen).toArray⟩ with
    | none => rfl
    | some host =>
        simp only [read (show 2 + hostLen < bytes.length by omega), read (show 2 + hostLen + 1 < bytes.length by omega),
          Option.bind_some]
  · rw [if_pos size, if_pos size]

/-- What is decoded from a payload of a cell was written in the one way it can be written. -/
theorem encode_of_decode {bytes : Bytes} {connect : ConnectPayload} (fits : bytes.length ≤ cellPayloadLen)
    (decoded : decode bytes = .ok connect) : connect.encode = .ok bytes := by
  simp only [decode] at decoded
  split_ifs at decoded with short size
  rw [not_not] at size
  split at decoded
  · cases decoded
  next host read =>
  cases decoded
  have hostBytes := asBytes_of_fromUTF8? read
  have digits : BigEndian.ofNat 2 (BigEndian.toNat [bytes.getD 0 0, bytes.getD 1 0]) = [bytes.getD 0 0, bytes.getD 1 0] :=
    BigEndian.ofNat_toNat [_, _]
  generalize BigEndian.toNat [bytes.getD 0 0, bytes.getD 1 0] = hostLen at size hostBytes digits ⊢
  have hostSize : (asBytes host).length = hostLen := by
    rw [hostBytes, List.length_take, List.length_drop, size]
    omega
  have cell : cellPayloadLen = 509 := rfl
  have room : ¬ hostLen > maxConnectHostLen := by
    rw [maxConnectHostLen]
    omega
  simp only [encode, hostSize, if_neg room, digits, ofNat_port, Except.ok.injEq]
  have zero := drop_eq_getD_cons (show 0 < bytes.length by omega)
  have one := drop_eq_getD_cons (show 0 + 1 < bytes.length by omega)
  have port := drop_eq_getD_cons (show 2 + hostLen < bytes.length by omega)
  have last := drop_eq_getD_cons (show 2 + hostLen + 1 < bytes.length by omega)
  have nothing : bytes.drop (2 + hostLen + 1 + 1) = [] := List.drop_of_length_le (by omega)
  rw [nothing] at last
  rw [hostBytes, ← last, ← port, ← List.drop_drop, List.append_assoc,
    List.take_append_drop, List.cons_append, List.cons_append, List.nil_append, ← one, ← zero, List.drop_zero]

end ConnectPayload
end Wire
end QuietHop
