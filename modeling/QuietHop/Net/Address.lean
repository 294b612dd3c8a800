import QuietHop.Lib.BigEndian

namespace QuietHop
namespace Net

open Lib

/-!
# Addresses, their literals and their canonical form

The registry carries addresses as text and the EXTEND cell carries them as
sixteen octets, so both spellings of one host occur: `a.b.c.d` and
`::ffff:a.b.c.d`.  Every comparison in the client and in the relay goes through
`canonicalIp`, which reduces the second spelling to the first and leaves a
genuine IPv6 address alone.

The literal reader follows the standard library's address parser: four decimal
fields without leading zeros for IPv4, up to eight groups of at most four hex
digits for IPv6, one `::` standing for at least one zero group, and an embedded
IPv4 address only at the end.  A name never parses, so nothing here can reach a
resolver.
-/

structure Ipv4Addr where
  octets : Bytes
  length_eq : octets.length = 4
  deriving DecidableEq

structure Ipv6Addr where
  octets : Bytes
  length_eq : octets.length = 16
  deriving DecidableEq

inductive IpAddr where
  | v4 (address : Ipv4Addr)
  | v6 (address : Ipv6Addr)
  deriving DecidableEq

/-- A socket address as `SocketAddr::new` builds it: no flow label and no scope
identifier, which none of the modelled code ever sets. -/
structure SocketAddr where
  ip : IpAddr
  port : UInt16
  deriving DecidableEq

/-- The twelve octets in front of an IPv4 address mapped into IPv6. -/
def mappedHead : Bytes :=
  List.replicate 10 0 ++ [0xff, 0xff]

namespace Ipv4Addr

def toIpv6Mapped (address : Ipv4Addr) : Ipv6Addr where
  octets := mappedHead ++ address.octets
  length_eq := by simp [mappedHead, address.length_eq]

end Ipv4Addr

namespace Ipv6Addr

def toIpv4Mapped (address : Ipv6Addr) : Option Ipv4Addr :=
  if address.octets.take 12 = mappedHead then
    some ⟨address.octets.drop 12, by simp [address.length_eq]⟩
  else none

@[simp] theorem toIpv4Mapped_toIpv6Mapped (address : Ipv4Addr) :
    address.toIpv6Mapped.toIpv4Mapped = some address := by
  have head : mappedHead.length = 12 := rfl
  simp [toIpv4Mapped, Ipv4Addr.toIpv6Mapped, List.take_left' head, List.drop_left' head]

/-- A successful reduction can be undone: the mapped spelling is unique. -/
theorem toIpv6Mapped_of_toIpv4Mapped {address : Ipv6Addr} {reduced : Ipv4Addr}
    (mapped : address.toIpv4Mapped = some reduced) : reduced.toIpv6Mapped = address := by
  unfold toIpv4Mapped at mapped
  by_cases front : address.octets.take 12 = mappedHead
  · rw [if_pos front] at mapped
    cases mapped
    obtain ⟨octets, size⟩ := address
    simp only [Ipv4Addr.toIpv6Mapped, Ipv6Addr.mk.injEq]
    rw [← front]
    exact List.take_append_drop 12 octets
  · rw [if_neg front] at mapped
    cases mapped

end Ipv6Addr

/-- `IpAddr::to_canonical`, the one spelling under which addresses compare. -/
def canonicalIp : IpAddr -> IpAddr
  | .v4 address => .v4 address
  | .v6 address =>
      match address.toIpv4Mapped with
      | some reduced => .v4 reduced
      | none => .v6 address

/-- `canonicalIp` for a socket address, keeping the port. -/
def canonicalAddr (addr : SocketAddr) : SocketAddr :=
  ⟨canonicalIp addr.ip, addr.port⟩

@[simp] theorem canonicalIp_v4 (address : Ipv4Addr) : canonicalIp (.v4 address) = .v4 address := rfl

@[simp] theorem canonicalIp_mapped (address : Ipv4Addr) :
    canonicalIp (.v6 address.toIpv6Mapped) = .v4 address := by
  simp [canonicalIp]

@[simp] theorem canonicalIp_canonicalIp (ip : IpAddr) : canonicalIp (canonicalIp ip) = canonicalIp ip := by
  cases ip with
  | v4 address => rfl
  | v6 address =>
      cases reduced : address.toIpv4Mapped with
      | none => simp [canonicalIp, reduced]
      | some plain => simp [canonicalIp, reduced]

@[simp] theorem canonicalAddr_canonicalAddr (addr : SocketAddr) :
    canonicalAddr (canonicalAddr addr) = canonicalAddr addr := by
  simp [canonicalAddr]

/-! ## Reading a literal -/

/-- The value of a digit in the given radix, as `char::to_digit` gives it. -/
def toDigit (radix : Nat) (byte : UInt8) : Option Nat :=
  let value :=
    if 48 ≤ byte.toNat ∧ byte.toNat ≤ 57 then some (byte.toNat - 48)
    else if 97 ≤ byte.toNat ∧ byte.toNat ≤ 122 then some (byte.toNat - 87)
    else if 65 ≤ byte.toNat ∧ byte.toNat ≤ 90 then some (byte.toNat - 55)
    else none
  value.filter (· < radix)

namespace Literal

def readGivenChar (expected : UInt8) : Bytes -> Option Bytes
  | [] => none
  | byte :: rest => if byte = expected then some rest else none

/-- Consume digits, keeping their count and value; too many digits fail. -/
def readDigits (radix maxDigits : Nat) : (count value : Nat) -> Bytes -> Option (Nat × Nat × Bytes)
  | count, value, [] => some (count, value, [])
  | count, value, byte :: rest =>
      match toDigit radix byte with
      | none => some (count, value, byte :: rest)
      | some digit =>
          if count + 1 > maxDigits then none
          else readDigits radix maxDigits (count + 1) (value * radix + digit) rest

def readNumber (radix maxDigits bound : Nat) (allowZeroPrefix : Bool) (input : Bytes) :
    Option (Nat × Bytes) :=
  let hasLeadingZero := input.head? = some 48
  match readDigits radix maxDigits 0 0 input with
  | none => none
  | some (count, value, rest) =>
      if count = 0 then none
      else if !allowZeroPrefix ∧ hasLeadingZero ∧ count > 1 then none
      else if value ≤ bound then some (value, rest) else none

/-- The separator stands in front of every item but the first. -/
def readSeparator {Item : Type} (separator : UInt8) (index : Nat)
    (inner : Bytes -> Option (Item × Bytes)) (input : Bytes) : Option (Item × Bytes) :=
  if index > 0 then (readGivenChar separator input).bind inner else inner input

/-- Octal-looking fields are refused, so a leading zero is not allowed. -/
def readOctets : (left index : Nat) -> Bytes -> Option (List Nat × Bytes)
  | 0, _, input => some ([], input)
  | left + 1, index, input =>
      match readSeparator 46 index (readNumber 10 3 255 false) input with
      | none => none
      | some (octet, rest) => (readOctets left (index + 1) rest).map fun tail => (octet :: tail.1, tail.2)

def readIpv4Addr (input : Bytes) : Option (Ipv4Addr × Bytes) :=
  match readOctets 4 0 input with
  | none => none
  | some (octets, rest) =>
      if size : octets.length = 4 then some (⟨octets.map UInt8.ofNat, by simp [size]⟩, rest) else none

/-- Read groups until one fails, reporting whether an embedded IPv4 address
ended the chunk.  Such an address needs room for two groups. -/
def readGroups : (left index : Nat) -> Bytes -> List Nat × Bool × Bytes
  | 0, _, input => ([], false, input)
  | left + 1, index, input =>
      let embedded := if 1 ≤ left then readSeparator 58 index readIpv4Addr input else none
      match embedded with
      | some (address, rest) =>
          ([BigEndian.toNat (address.octets.take 2), BigEndian.toNat (address.octets.drop 2)], true, rest)
      | none =>
          match readSeparator 58 index (readNumber 16 4 65535 true) input with
          | none => ([], false, input)
          | some (group, rest) =>
              let tail := readGroups left (index + 1) rest
              (group :: tail.1, tail.2)

def ofGroups (groups : List Nat) : Option Ipv6Addr :=
  let octets := (groups.map (BigEndian.ofNat 2)).flatten
  if size : octets.length = 16 then some ⟨octets, size⟩ else none

/-- The `::` must stand for at least one group, so at most seven follow it. -/
def readIpv6Addr (input : Bytes) : Option (Ipv6Addr × Bytes) :=
  let (head, headIpv4, afterHead) := readGroups 8 0 input
  if head.length = 8 then (ofGroups head).map fun address => (address, afterHead)
  else if headIpv4 then none
  else
    match (readGivenChar 58 afterHead).bind (readGivenChar 58) with
    | none => none
    | some afterColons =>
        let (tail, _, rest) := readGroups (8 - (head.length + 1)) 0 afterColons
        (ofGroups (head ++ List.replicate (8 - head.length - tail.length) 0 ++ tail)).map
          fun address => (address, rest)

def readIpAddr (input : Bytes) : Option (IpAddr × Bytes) :=
  match readIpv4Addr input with
  | some (address, rest) => some (.v4 address, rest)
  | none => (readIpv6Addr input).map fun read => (.v6 read.1, read.2)

end Literal

/-- The bytes of a string, as `str::as_bytes`. -/
def asBytes (text : String) : Bytes :=
  text.toUTF8.data.toList

/-- A text of ASCII bytes. -/
def ofAscii (bytes : Bytes) : String :=
  String.ofList (bytes.map fun byte => Char.ofNat byte.toNat)

theorem asBytes_ofAscii {bytes : Bytes} (ascii : ∀ byte ∈ bytes, byte.toNat < 128) :
    asBytes (ofAscii bytes) = bytes := by
  have single : ∀ value : Fin 128, String.utf8EncodeChar (Char.ofNat value) = [UInt8.ofNat value] := by
    decide
  have encoded : (bytes.map fun byte => Char.ofNat byte.toNat).flatMap String.utf8EncodeChar = bytes := by
    induction bytes with
    | nil => rfl
    | cons byte rest ih =>
        obtain ⟨small, others⟩ := List.forall_mem_cons.mp ascii
        have here := single ⟨byte.toNat, small⟩
        simp only [UInt8.ofNat_toNat] at here
        rw [List.map_cons, List.flatMap_cons, here, ih others]
        rfl
  unfold asBytes ofAscii
  rw [String.toUTF8_eq_toByteArray, String.toByteArray_ofList, List.utf8Encode, encoded]
  simp

/-- `str::parse::<IpAddr>`: the whole text must be one literal. -/
def parseIpAddr (text : String) : Option IpAddr :=
  match Literal.readIpAddr (asBytes text) with
  | some (ip, []) => some ip
  | _ => none

/-! ## Writing a literal -/

namespace Display

def digit (value : Nat) : UInt8 :=
  UInt8.ofNat (if value < 10 then 48 + value else 87 + value)

/-- A number of at most `width + 1` digits without leading zeros. -/
def number (radix width value : Nat) : Bytes :=
  ((BigEndian.lastDigits radix width (value / radix)).dropWhile (· = 0) ++ [value % radix]).map digit

/-- Four decimal fields. -/
def ipv4 (octets : Bytes) : Bytes :=
  number 10 2 (octets.getD 0 0).toNat ++ 46 :: (number 10 2 (octets.getD 1 0).toNat ++
    46 :: (number 10 2 (octets.getD 2 0).toNat ++ 46 :: number 10 2 (octets.getD 3 0).toNat))

def segments (address : Ipv6Addr) : List Nat :=
  (List.range 8).map fun index =>
    BigEndian.toNat [address.octets.getD (2 * index) 0, address.octets.getD (2 * index + 1) 0]

/-- A run of zero groups. -/
structure Span where
  start : Nat
  len : Nat

/-- The first of the longest runs of zero groups, with the run that is being read. -/
def zeroes : (index : Nat) -> (longest current : Span) -> List Nat -> Span
  | _, longest, _, [] => longest
  | index, longest, current, segment :: rest =>
      if segment = 0 then
        let current : Span := ⟨if current.len = 0 then index else current.start, current.len + 1⟩
        zeroes (index + 1) (if current.len > longest.len then current else longest) current rest
      else zeroes (index + 1) longest ⟨0, 0⟩ rest

def subslice : List Nat -> Bytes
  | [] => []
  | first :: tail => number 16 3 first ++ tail.flatMap fun segment => 58 :: number 16 3 segment

/-- `Ipv6Addr::to_string`. -/
def ipv6 (address : Ipv6Addr) : Bytes :=
  match address.toIpv4Mapped with
  | some reduced => asBytes "::ffff:" ++ ipv4 reduced.octets
  | none =>
      let groups := segments address
      let span := zeroes 0 ⟨0, 0⟩ ⟨0, 0⟩ groups
      if span.len > 1 then
        subslice (groups.take span.start) ++ 58 :: 58 :: subslice (groups.drop (span.start + span.len))
      else subslice groups

/-! Every literal is short and in ASCII. -/

theorem length_number (radix width value : Nat) : (number radix width value).length ≤ width + 1 := by
  have kept := (List.dropWhile_suffix (fun digit : Nat => decide (digit = 0))
    (l := BigEndian.lastDigits radix width (value / radix))).length_le
  rw [BigEndian.length_lastDigits] at kept
  simp only [number, List.length_map, List.length_append, List.length_singleton]
  omega

theorem digit_ascii {value : Nat} (small : value < 16) : (digit value).toNat < 128 := by
  rw [digit, UInt8.toNat_ofNat']
  split_ifs <;> omega

theorem number_ascii {radix : Nat} (positive : 0 < radix) (small : radix ≤ 16) (width value : Nat) :
    ∀ byte ∈ number radix width value, byte.toNat < 128 := by
  intro byte member
  rcases List.mem_map.mp member with ⟨digit, inside, rfl⟩
  apply digit_ascii
  rcases List.mem_append.mp inside with before | isLast
  · have found := BigEndian.lastDigits_lt positive _ _ digit ((List.dropWhile_sublist _).subset before)
    omega
  · rw [List.mem_singleton.mp isLast]
    have found := Nat.mod_lt value positive
    omega

theorem length_ipv4 (octets : Bytes) : (ipv4 octets).length ≤ 15 := by
  have field (octet : UInt8) : (number 10 2 octet.toNat).length ≤ 3 := length_number 10 2 octet.toNat
  have first := field (octets.getD 0 0)
  have second := field (octets.getD 1 0)
  have third := field (octets.getD 2 0)
  have fourth := field (octets.getD 3 0)
  simp only [ipv4, List.length_append, List.length_cons]
  omega

theorem ipv4_ascii (octets : Bytes) : ∀ byte ∈ ipv4 octets, byte.toNat < 128 := by
  have field := @number_ascii 10 (by decide) (by decide) 2
  intro byte member
  simp only [ipv4, List.mem_append, List.mem_cons] at member
  rcases member with first | rfl | second | rfl | third | rfl | fourth
  · exact field _ byte first
  · decide
  · exact field _ byte second
  · decide
  · exact field _ byte third
  · decide
  · exact field _ byte fourth

theorem length_subslice (groups : List Nat) : (subslice groups).length ≤ 5 * groups.length := by
  have rest (tail : List Nat) : (tail.flatMap fun segment => 58 :: number 16 3 segment).length ≤ 5 * tail.length := by
    induction tail with
    | nil => exact Nat.le_refl 0
    | cons segment tail ih =>
        have group := length_number 16 3 segment
        simp only [List.flatMap_cons, List.length_append, List.length_cons]
        omega
  cases groups with
  | nil => exact Nat.le_refl 0
  | cons first tail =>
      have group := length_number 16 3 first
      have others := rest tail
      simp only [subslice, List.length_append, List.length_cons]
      omega

theorem subslice_ascii (groups : List Nat) : ∀ byte ∈ subslice groups, byte.toNat < 128 := by
  have group := @number_ascii 16 (by decide) (by decide) 3
  cases groups with
  | nil => simp [subslice]
  | cons first tail =>
      intro byte member
      rcases List.mem_append.mp member with inFirst | inTail
      · exact group first byte inFirst
      · rcases List.mem_flatMap.mp inTail with ⟨segment, -, inside⟩
        rcases List.mem_cons.mp inside with rfl | inside
        · decide
        · exact group segment byte inside

theorem length_ipv6 (address : Ipv6Addr) : (ipv6 address).length ≤ 82 := by
  have count : (segments address).length = 8 := by simp [segments]
  have sizeOf (groups : List Nat) (few : groups.length ≤ 8) : (subslice groups).length ≤ 40 := by
    have bound := length_subslice groups
    omega
  rw [ipv6]
  cases address.toIpv4Mapped with
  | some reduced =>
      have fields := length_ipv4 reduced.octets
      have colons : (asBytes "::ffff:").length = 7 := by decide +kernel
      simp only [List.length_append, colons]
      omega
  | none =>
      dsimp only
      split_ifs
      · have front := sizeOf ((segments address).take (zeroes 0 ⟨0, 0⟩ ⟨0, 0⟩ (segments address)).start)
          (by rw [List.length_take]; omega)
        have back := sizeOf ((segments address).drop ((zeroes 0 ⟨0, 0⟩ ⟨0, 0⟩ (segments address)).start +
          (zeroes 0 ⟨0, 0⟩ ⟨0, 0⟩ (segments address)).len)) (by rw [List.length_drop]; omega)
        simp only [List.length_append, List.length_cons]
        omega
      · have whole := sizeOf (segments address) (by omega)
        omega

theorem ipv6_ascii (address : Ipv6Addr) : ∀ byte ∈ ipv6 address, byte.toNat < 128 := by
  have colons : ∀ byte ∈ asBytes "::ffff:", byte.toNat < 128 := by decide +kernel
  intro byte member
  rw [ipv6] at member
  split at member
  · rcases List.mem_append.mp member with front | back
    · exact colons byte front
    · exact ipv4_ascii _ byte back
  · dsimp only at member
    split_ifs at member
    · simp only [List.mem_append, List.mem_cons] at member
      rcases member with front | rfl | rfl | back
      · exact subslice_ascii _ byte front
      · decide
      · decide
      · exact subslice_ascii _ byte back
    · exact subslice_ascii _ byte member

end Display

example : ofAscii (Display.ipv6 ⟨[0x20, 0x01, 0x0d, 0xb8, 0, 0, 0, 0, 0, 0x01, 0, 0, 0, 0, 0, 0x02], rfl⟩) =
    "2001:db8::1:0:0:2" := by decide +kernel

example : parseIpAddr "10.1.0.1" = some (.v4 ⟨[10, 1, 0, 1], rfl⟩) := by decide +kernel

example : (parseIpAddr "::ffff:10.1.0.1").map canonicalIp = parseIpAddr "10.1.0.1" := by decide +kernel

example : parseIpAddr "10.01.0.1" = none ∧ parseIpAddr "relay.example" = none := by decide +kernel

end Net
end QuietHop
