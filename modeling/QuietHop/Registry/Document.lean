import QuietHop.Net.Address
import QuietHop.Wire.Cell

namespace QuietHop
namespace Registry

open Lib Net

/-!
# Registry documents, their entries and their clock

The fields of a registry document as both binaries read them.  Timestamps are
parsed by hand in one narrow shape, addresses are reduced to one spelling the
moment they are read, and static keys are hex.

Machine integers are `Int`.  The only place where `i64` arithmetic can leave its
range is the addition of the skew allowance to a caller's clock; it wraps there,
as the release profile compiles it.
-/

inductive RegistryError where
  | registry (text : String)
  | equivocation (version : Int)
  | invalidKey (text : String)
  | state (text : String)
  deriving DecidableEq, Repr

def skewAllowanceSecs : Int := 60

/-- `i64` addition in the release profile. -/
def wrappingAdd (left right : Int) : Int := (left + right).bmod (2 ^ 64)

/-! ## Timestamps -/

/-- The digits of a decimal number, most significant first. -/
def parseDigits : (value : Nat) -> Bytes -> Option Nat
  | value, [] => some value
  | value, byte :: rest =>
      match toDigit 10 byte with
      | none => none
      | some digit => parseDigits (value * 10 + digit) rest

/-- `str::parse::<i64>` on a slice too short to overflow: an optional sign and
at least one digit. -/
def parseI64 : Bytes -> Option Int
  | [] => none
  | [43] => none
  | [45] => none
  | 43 :: digits => (parseDigits 0 digits).map Int.ofNat
  | 45 :: digits => (parseDigits 0 digits).map fun value : Nat => -Int.ofNat value
  | digits => (parseDigits 0 digits).map Int.ofNat

def isLeapYear (y : Int) : Bool :=
  (Int.tmod y 4 = 0 ∧ Int.tmod y 100 ≠ 0) ∨ Int.tmod y 400 = 0

/-- Days in a month; `m` is already in 1..=12. -/
def daysInMonth (y m : Int) : Int :=
  if m ∈ [1, 3, 5, 7, 8, 10, 12] then 31
  else if m ∈ [4, 6, 9, 11] then 30
  else if m = 2 then if isLeapYear y then 29 else 28
  else 0

/-- Days since 1970-01-01 from a civil date. -/
def daysFromCivil (y m d : Int) : Int :=
  let y := if m ≤ 2 then y - 1 else y
  let era := Int.tdiv (if y ≥ 0 then y else y - 399) 400
  let yoe := y - era * 400
  let mp := Int.tmod (m + 9) 12
  let doy := Int.tdiv (153 * mp + 2) 5 + d - 1
  let doe := yoe * 365 + Int.tdiv yoe 4 - Int.tdiv yoe 100 + doy
  era * 146097 + doe - 719468

/-- Parse RFC 3339 UTC with a Z suffix.  The separators are single-byte, so every
field slice falls on character boundaries and the slicing itself cannot fail. -/
def parseRfc3339 (s : String) : Except RegistryError Int :=
  let bad : RegistryError := .registry s!"timestamp {s.quote} is not RFC 3339 UTC with Z"
  let b := asBytes s
  if b.length ≠ 20 ∨ b.getD 4 0 ≠ 45 ∨ b.getD 7 0 ≠ 45 ∨ b.getD 10 0 ≠ 84 ∨ b.getD 13 0 ≠ 58 ∨
      b.getD 16 0 ≠ 58 ∨ b.getD 19 0 ≠ 90 then
    .error bad
  else
    let num := fun (start stop : Nat) => parseI64 ((b.drop start).take (stop - start))
    match num 0 4, num 5 7, num 8 10, num 11 13, num 14 16, num 17 19 with
    | some y, some mo, some d, some h, some mi, some sec =>
        if ¬ (1 ≤ mo ∧ mo ≤ 12) ∨ h > 23 ∨ mi > 59 ∨ sec > 60 then .error bad
        else if d < 1 ∨ d > daysInMonth y mo then .error bad
        else .ok (daysFromCivil y mo d * 86400 + h * 3600 + mi * 60 + sec)
    | _, _, _, _, _, _ => .error bad

example : parseRfc3339 "2026-10-08T14:00:00Z" = .ok 1791468000 := by decide +kernel

example : parseRfc3339 "1970-01-01T00:00:00Z" = .ok 0 := by decide +kernel

/-- A text of another length is no timestamp. -/
theorem parseRfc3339_length {s : String} (other : (asBytes s).length ≠ 20) : ∃ e, parseRfc3339 s = .error e :=
  ⟨_, if_pos (Or.inl other)⟩

/-- A crude bound is enough: every quotient is at most its dividend. -/
theorem daysFromCivil_lt {y m d : Int} (year : y.natAbs < 10 ^ 4) (day : d ≤ 31) :
    daysFromCivil y m d < 10 ^ 10 := by
  have quotient : forall (a b bound : Int), -bound ≤ a -> a ≤ bound -> -bound ≤ a.tdiv b ∧ a.tdiv b ≤ bound := by
    intro a b bound low high
    have small := Int.natAbs_tdiv_le_natAbs a b
    omega
  have shifted : -10000 ≤ (if m ≤ 2 then y - 1 else y) ∧ (if m ≤ 2 then y - 1 else y) ≤ 10000 := by
    split_ifs <;> omega
  simp only [daysFromCivil]
  generalize (if m ≤ 2 then y - 1 else y) = y' at shifted ⊢
  have era : -10400 ≤ Int.tdiv (if y' ≥ 0 then y' else y' - 399) 400 ∧
      Int.tdiv (if y' ≥ 0 then y' else y' - 399) 400 ≤ 10400 := by
    apply quotient <;> split_ifs <;> omega
  generalize Int.tdiv (if y' ≥ 0 then y' else y' - 399) 400 = e at era ⊢
  have month : -12 ≤ (m + 9).tmod 12 ∧ (m + 9).tmod 12 ≤ 12 := by
    have size := Int.natAbs_tmod (m + 9) 12
    have twelve := Nat.mod_lt (m + 9).natAbs (show 0 < (12 : Int).natAbs by decide)
    omega
  generalize (m + 9).tmod 12 = mp at month ⊢
  have quarter := quotient (y' - e * 400) 4 (10 ^ 7) (by omega) (by omega)
  have century := quotient (y' - e * 400) 100 (10 ^ 7) (by omega) (by omega)
  have days := quotient (153 * mp + 2) 5 (10 ^ 4) (by omega) (by omega)
  omega

theorem parseDigits_lt {value result : Nat} {bytes : Bytes} (parsed : parseDigits value bytes = some result) :
    result < (value + 1) * 10 ^ bytes.length := by
  induction bytes generalizing value with
  | nil =>
      cases parsed
      simp
  | cons byte rest ih =>
      rw [parseDigits] at parsed
      cases read : toDigit 10 byte with
      | none => simp [read] at parsed
      | some digit =>
          have small : digit < 10 := by
            have := Option.mem_filter_iff.mp (show digit ∈ toDigit 10 byte from read)
            simpa using this.2
          rw [read] at parsed
          have bound := ih parsed
          have widen : value * 10 + digit + 1 ≤ (value + 1) * 10 := by omega
          calc result < (value * 10 + digit + 1) * 10 ^ rest.length := bound
            _ ≤ (value + 1) * 10 * 10 ^ rest.length := Nat.mul_le_mul_right _ widen
            _ = (value + 1) * 10 ^ (byte :: rest).length := by rw [List.length_cons, Nat.pow_succ', Nat.mul_assoc]

theorem parseI64_lt {bytes : Bytes} {value : Int} (parsed : parseI64 bytes = some value) :
    value.natAbs < 10 ^ bytes.length := by
  have plain : forall {digits : Bytes} {number : Nat}, parseDigits 0 digits = some number ->
      number < 10 ^ digits.length := by
    intro digits number read
    simpa using parseDigits_lt read
  have signed : forall {sign : UInt8} {digits : Bytes} {number : Nat}, parseDigits 0 digits = some number ->
      number < 10 ^ (sign :: digits).length := by
    intro sign digits number read
    exact Nat.lt_of_lt_of_le (plain read) (Nat.pow_le_pow_right (by omega) (Nat.le_succ _))
  rw [parseI64.eq_def] at parsed
  split at parsed
  · cases parsed
  · cases parsed
  · cases parsed
  · rcases Option.map_eq_some_iff.mp parsed with ⟨number, read, rfl⟩
    exact signed read
  · rcases Option.map_eq_some_iff.mp parsed with ⟨number, read, rfl⟩
    rw [Int.natAbs_neg, Int.natAbs_ofNat']
    exact signed read
  · rcases Option.map_eq_some_iff.mp parsed with ⟨number, read, rfl⟩
    exact plain read

theorem daysInMonth_le (y m : Int) : daysInMonth y m ≤ 31 := by
  rw [daysInMonth]
  split_ifs <;> decide

/-- No timestamp that parses comes near the end of the `i64` range. -/
theorem parseRfc3339_lt {s : String} {time : Int} (parsed : parseRfc3339 s = .ok time) : time < 2 ^ 62 := by
  simp only [parseRfc3339] at parsed
  split_ifs at parsed with shape
  split at parsed
  · next y mo d h mi sec year month day hour minute second =>
      split_ifs at parsed with range days
      cases parsed
      have year' : y.natAbs < 10 ^ 4 :=
        Nat.lt_of_lt_of_le (parseI64_lt year) (Nat.pow_le_pow_right (by omega) (List.length_take_le _ _))
      have bound := daysFromCivil_lt (m := mo) year' (show d ≤ 31 by have := daysInMonth_le y mo; omega)
      omega
  · cases parsed

/-! ## Hex -/

/-- `char::from_digit(v, 16)`, with `'0'` for a value that is no digit. -/
def nibble (v : UInt8) : Char :=
  if v.toNat < 10 then Char.ofNat (48 + v.toNat)
  else if v.toNat < 16 then Char.ofNat (87 + v.toNat)
  else '0'

/-- Two digits a byte; a single digit left over means the length was odd. -/
def decodePairs : Bytes -> Option Bytes
  | [] => some []
  | [_] => none
  | first :: second :: rest =>
      match toDigit 16 first, toDigit 16 second with
      | some hi, some lo => (decodePairs rest).map fun tail => UInt8.ofNat (hi * 16 + lo) :: tail
      | _, _ => none

theorem decodePairs_of_digits : forall {bytes : Bytes}, bytes.length % 2 = 0 ->
    (∀ byte ∈ bytes, (toDigit 16 byte).isSome) ->
    ∃ raw, decodePairs bytes = some raw ∧ 2 * raw.length = bytes.length
  | [], _, _ => ⟨[], rfl, rfl⟩
  | [_], odd, _ => by simp at odd
  | first :: second :: rest, even, digits => by
      have restEven : rest.length % 2 = 0 := by simp only [List.length_cons] at even; omega
      rcases decodePairs_of_digits restEven (fun byte member => digits byte (by simp [member])) with ⟨tail, read, size⟩
      rcases Option.isSome_iff_exists.mp (digits first (by simp)) with ⟨hi, high⟩
      rcases Option.isSome_iff_exists.mp (digits second (by simp)) with ⟨lo, low⟩
      refine ⟨_, by rw [decodePairs, high, low, read]; rfl, ?_⟩
      simp only [List.length_cons]
      omega

def decodeHex (s : String) : Option Bytes :=
  if (asBytes s).length % 2 ≠ 0 then none else decodePairs (asBytes s)

/-- A 32-byte value such as a static key. -/
abbrev Key32 := { bytes : Bytes // bytes.length = Wire.staticKeyLen }

def decodeHex32 (s : String) : Option Key32 :=
  if (asBytes s).length ≠ 64 then none
  else (decodePairs (asBytes s)).bind fun out => if size : out.length = 32 then some ⟨out, size⟩ else none

/-! ## Entries and documents -/

structure RelayEntry where
  id : String
  operatorId : String
  hostId : String
  role : String
  ip : String
  port : UInt16
  tlsName : String
  staticPubkey : String
  deriving DecidableEq, Repr

namespace RelayEntry

/-- The entry's address, canonical. -/
def ipAddr (entry : RelayEntry) : Except RegistryError IpAddr :=
  match parseIpAddr entry.ip with
  | none => .error (.registry "registry entry holds no IP literal")
  | some ip => .ok (canonicalIp ip)

/-- The socket address to dial, canonical. -/
def addr (entry : RelayEntry) : Except RegistryError SocketAddr :=
  match entry.ipAddr with
  | .error e => .error e
  | .ok ip =>
      if entry.port = 0 then .error (.registry "registry entry has port 0") else .ok ⟨ip, entry.port⟩

/-- The X25519 static public key the handshake is pinned to. -/
def staticKey (entry : RelayEntry) : Except RegistryError Key32 :=
  match decodeHex entry.staticPubkey with
  | none => .error (.registry "static_pubkey is not hex")
  | some raw =>
      if size : raw.length = Wire.staticKeyLen then .ok ⟨raw, size⟩
      else .error (.registry "static_pubkey is not 32 bytes")

end RelayEntry

structure Document where
  version : Int
  validAfter : String
  freshUntil : String
  validUntil : String
  relays : List RelayEntry
  deriving DecidableEq, Repr

namespace Document

def validAfterUnix (doc : Document) : Except RegistryError Int := parseRfc3339 doc.validAfter

def freshUntilUnix (doc : Document) : Except RegistryError Int := parseRfc3339 doc.freshUntil

def validUntilUnix (doc : Document) : Except RegistryError Int := parseRfc3339 doc.validUntil

/-- Whether the document may be used at `nowUnix`.  The skew allowance applies to
`valid_after` only. -/
def isUsableAt (doc : Document) (nowUnix : Int) : Except RegistryError Bool :=
  match doc.validAfterUnix with
  | .error e => .error e
  | .ok after =>
      match doc.validUntilUnix with
      | .error e => .error e
      | .ok limit => .ok (wrappingAdd nowUnix skewAllowanceSecs ≥ after ∧ nowUnix < limit)

/-- The sum with the allowance matters only where it does not wrap: a document never reaches
that far. -/
theorem wrappingAdd_allowance {doc : Document} {limit : Int} {now : Int64} (ends : doc.validUntilUnix = .ok limit)
    (before : now.toInt < limit) : wrappingAdd now.toInt skewAllowanceSecs = now.toInt + skewAllowanceSecs := by
  have early := parseRfc3339_lt ends
  have low := now.le_toInt
  have allowance : skewAllowanceSecs = 60 := rfl
  rw [wrappingAdd, Int.bmod_eq_of_le (by omega) (by omega)]

theorem isUsableAt_eq {doc : Document} {after limit : Int} (now : Int64)
    (starts : doc.validAfterUnix = .ok after) (ends : doc.validUntilUnix = .ok limit) :
    doc.isUsableAt now.toInt = .ok (decide (after ≤ now.toInt + skewAllowanceSecs ∧ now.toInt < limit)) := by
  have same : (wrappingAdd now.toInt skewAllowanceSecs ≥ after ∧ now.toInt < limit) ↔
      (after ≤ now.toInt + skewAllowanceSecs ∧ now.toInt < limit) := by
    apply and_congr_left
    intro before
    rw [wrappingAdd_allowance ends before]
  simp only [isUsableAt, starts, ends, same]

end Document
end Registry
end QuietHop
