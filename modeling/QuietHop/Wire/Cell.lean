import QuietHop.Net.Address

namespace QuietHop
namespace Wire

open Lib Net

/-!
# Fixed-length cells

Every cell is exactly `cellPlaintextLen` bytes before encryption: a type byte, a
reserved flags byte, a two-byte length and a payload area of which only the
first `data_len` bytes are data.  Link sizes are derived from the number of AEAD
layers a link carries and are never written as literals.

Errors carry what the source reports, so a rejected buffer names its own size
and a rejected type byte names itself.
-/

/-! ## Constants shared by both ends of a link -/

def protoClient : UInt8 := 0x01
def protoRelay : UInt8 := 0x02
def circuitStart : UInt8 := 0xC1

def mRawLen : Nat := 32
def tokenLen : Nat := 256
def presentationLen : Nat := mRawLen + tokenLen

def dispositionLen : Nat := 1
def dispositionToMe : UInt8 := 0x01
def dispositionForward : UInt8 := 0x02

/-- AEAD tag length. -/
def noiseTagLen : Nat := 16
/-- Length of each handshake message with an empty payload. -/
def noiseMsgLen : Nat := 48
/-- Length of a static public key. -/
def staticKeyLen : Nat := 32

def cellPayloadLen : Nat := 509
def cellHeaderLen : Nat := 4
def cellPlaintextLen : Nat := cellHeaderLen + cellPayloadLen

/-- Size on a link `layers` hops from the innermost cell. -/
def linkCellLen (layers : Nat) : Nat :=
  cellPlaintextLen + layers * (dispositionLen + noiseTagLen)

/-- Bytes a relay peels to, one layer in. -/
def peeledLen (layers : Nat) : Nat :=
  linkCellLen layers - noiseTagLen

/-- The body carried inside one layer at this depth. -/
def bodyLen (layers : Nat) : Nat :=
  peeledLen layers - dispositionLen

/-- Further out than the innermost layer the body is the adjacent link's cell. -/
@[simp] theorem bodyLen_succ (layers : Nat) : bodyLen (layers + 1) = linkCellLen layers := by
  simp only [bodyLen, peeledLen, linkCellLen, dispositionLen, noiseTagLen]
  omega

theorem linkCellLen_succ (layers : Nat) :
    linkCellLen (layers + 1) = dispositionLen + linkCellLen layers + noiseTagLen := by
  simp only [linkCellLen, dispositionLen, noiseTagLen]
  omega

theorem cellPlaintextLen_le_linkCellLen (layers : Nat) : cellPlaintextLen ≤ linkCellLen layers :=
  Nat.le_add_right _ _

theorem linkCellLen_pos (layers : Nat) : 0 < linkCellLen layers :=
  Nat.lt_of_lt_of_le (by decide) (cellPlaintextLen_le_linkCellLen layers)

example : linkCellLen 1 = 530 ∧ linkCellLen 2 = 547 ∧ linkCellLen 3 = 564 := by decide

/-! ## Cells -/

inductive CellType where
  | extend
  | connect
  | data
  | closeRequest
  | closeAck
  deriving DecidableEq, Repr

inductive CellError where
  | wrongSize (size : Nat)
  | tooLarge (size : Nat)
  | unknownType (byte : UInt8)
  | reservedFlags
  | badExtend (reason : String)
  | badConnect (reason : String)
  | badAddress
  deriving DecidableEq, Repr

namespace CellType

def toByte : CellType -> UInt8
  | extend => 0x01
  | connect => 0x03
  | data => 0x04
  | closeRequest => 0x05
  | closeAck => 0x06

/-- The byte 0x02 was retired and is refused like any other unknown byte. -/
def ofByte (byte : UInt8) : Except CellError CellType :=
  if byte = 0x01 then .ok extend
  else if byte = 0x03 then .ok connect
  else if byte = 0x04 then .ok data
  else if byte = 0x05 then .ok closeRequest
  else if byte = 0x06 then .ok closeAck
  else .error (.unknownType byte)

@[simp] theorem ofByte_toByte (cellType : CellType) : ofByte cellType.toByte = .ok cellType := by
  cases cellType <;> rfl

theorem toByte_of_ofByte {byte : UInt8} {cellType : CellType} (read : ofByte byte = .ok cellType) :
    byte = cellType.toByte := by
  rw [ofByte] at read
  split_ifs at read with isExtend isConnect isData isCloseRequest isCloseAck
  · exact Except.ok.inj read ▸ isExtend
  · exact Except.ok.inj read ▸ isConnect
  · exact Except.ok.inj read ▸ isData
  · exact Except.ok.inj read ▸ isCloseRequest
  · exact Except.ok.inj read ▸ isCloseAck

end CellType

structure Cell where
  cellType : CellType
  payload : Bytes
  deriving DecidableEq, Repr

namespace Cell

/-- The payload area holds the payload. -/
def Fits (cell : Cell) : Prop :=
  cell.payload.length ≤ cellPayloadLen

instance (cell : Cell) : Decidable cell.Fits :=
  inferInstanceAs (Decidable (_ ≤ _))

def new (cellType : CellType) (payload : Bytes) : Except CellError Cell :=
  if payload.length > cellPayloadLen then .error (.tooLarge payload.length)
  else .ok ⟨cellType, payload⟩

theorem new_of_le {cellType : CellType} {payload : Bytes} (fits : payload.length ≤ cellPayloadLen) :
    new cellType payload = .ok ⟨cellType, payload⟩ := by
  rw [new, if_neg (Nat.not_lt.mpr fits)]

theorem fits_of_new {cellType : CellType} {payload : Bytes} {cell : Cell} (made : new cellType payload = .ok cell) :
    cell.Fits := by
  rw [new] at made
  split_ifs at made with large
  cases made
  exact Nat.le_of_not_lt large

/-- Type, zero flags, length, payload, zero padding. -/
def image (cell : Cell) : Bytes :=
  [cell.cellType.toByte, 0] ++ BigEndian.ofNat 2 cell.payload.length ++ cell.payload ++
    List.replicate (cellPayloadLen - cell.payload.length) 0

/-- The same with anything at all in place of the padding. -/
def framed (cell : Cell) (rest : Bytes) : Bytes :=
  [cell.cellType.toByte, 0] ++ BigEndian.ofNat 2 cell.payload.length ++ cell.payload ++ rest

/-- Write the cell over a full-size buffer, zeroing the padding.  Every byte of
the buffer is overwritten, so only its length is read. -/
def encodeInto (cell : Cell) (out : Bytes) : Except CellError Bytes :=
  if out.length ≠ cellPlaintextLen then .error (.wrongSize out.length)
  else if cell.payload.length > cellPayloadLen then .error (.tooLarge cell.payload.length)
  else .ok cell.image

def encode (cell : Cell) : Except CellError Bytes :=
  cell.encodeInto (List.replicate cellPlaintextLen 0)

def decode (bytes : Bytes) : Except CellError Cell := do
  if bytes.length ≠ cellPlaintextLen then throw (.wrongSize bytes.length)
  let cellType ← CellType.ofByte (bytes.getD 0 0)
  if bytes.getD 1 0 ≠ 0 then throw .reservedFlags
  let size := BigEndian.toNat [bytes.getD 2 0, bytes.getD 3 0]
  if size > cellPayloadLen then throw (.tooLarge size)
  return ⟨cellType, (bytes.drop cellHeaderLen).take size⟩

theorem encodeInto_of_fits {cell : Cell} (fits : cell.Fits) {out : Bytes}
    (size : out.length = cellPlaintextLen) : cell.encodeInto out = .ok cell.image := by
  rw [encodeInto, if_neg (by simp [size]), if_neg (Nat.not_lt.mpr fits)]

theorem length_framed {cell : Cell} (fits : cell.Fits) {rest : Bytes}
    (size : rest.length = cellPayloadLen - cell.payload.length) : (cell.framed rest).length = cellPlaintextLen := by
  have bound : cell.payload.length ≤ cellPayloadLen := fits
  simp only [framed, List.length_append, List.length_cons, List.length_nil, BigEndian.length_ofNat, size,
    cellPlaintextLen, cellHeaderLen]
  omega

/-- Decoding never reads what follows the payload. -/
theorem decode_framed {cell : Cell} (fits : cell.Fits) {rest : Bytes}
    (size : rest.length = cellPayloadLen - cell.payload.length) : decode (cell.framed rest) = .ok cell := by
  have total := length_framed fits size
  obtain ⟨cellType, payload⟩ := cell
  have bound : payload.length ≤ cellPayloadLen := fits
  have small : payload.length < 256 ^ 2 := Nat.lt_of_le_of_lt bound (by decide)
  obtain ⟨high, low, digits⟩ : ∃ high low, BigEndian.ofNat 2 payload.length = [high, low] :=
    ⟨_, _, rfl⟩
  have numeral : BigEndian.toNat [high, low] = payload.length := by
    rw [← digits, BigEndian.toNat_ofNat 2 _ small]
  simp only [decode, total, ne_eq, not_true_eq_false, if_false]
  simp only [framed, digits, List.cons_append, List.nil_append, List.getD_cons_zero,
    List.getD_cons_succ, CellType.ofByte_toByte, numeral, cellHeaderLen, List.drop_succ_cons,
    List.drop_zero]
  rw [List.take_left' rfl]
  simp [bind, Except.bind, pure, Except.pure, Nat.not_lt.mpr bound]

/-- Decoding undoes encoding for every type and every payload that fits. -/
theorem decode_image {cell : Cell} (fits : cell.Fits) : decode cell.image = .ok cell :=
  decode_framed fits List.length_replicate

theorem exists_header {bytes : Bytes} (long : cellHeaderLen ≤ bytes.length) :
    ∃ kind flag high low area, bytes = kind :: flag :: high :: low :: area := by
  match bytes, long with
  | kind :: flag :: high :: low :: area, _ => exact ⟨kind, flag, high, low, area, rfl⟩

/-- What is decoded is a cell that fits, with anything at all behind its payload. -/
theorem decode_ok {bytes : Bytes} {cell : Cell} (decoded : decode bytes = .ok cell) :
    cell.Fits ∧ ∃ rest, rest.length = cellPayloadLen - cell.payload.length ∧ bytes = cell.framed rest := by
  unfold decode at decoded
  simp only [bind, Except.bind, pure, Except.pure, throw, throwThe, MonadExceptOf.throw] at decoded
  split at decoded <;> try cases decoded
  next size =>
  split at decoded <;> try cases decoded
  next cellType isType =>
  split at decoded <;> try cases decoded
  next flags =>
  split at decoded <;> try cases decoded
  next bound =>
  rw [Decidable.not_not] at size flags
  -- the buffer is four bytes of header and the payload area
  have long : cellHeaderLen ≤ bytes.length := by rw [size]; decide
  obtain ⟨kind, flag, high, low, area, rfl⟩ := exists_header long
  simp only [List.getD_cons_zero, List.getD_cons_succ] at isType flags bound ⊢
  have areaSize : area.length = cellPayloadLen := by
    simp only [List.length_cons, cellPlaintextLen, cellHeaderLen] at size
    omega
  have taken : (area.take (BigEndian.toNat [high, low])).length = BigEndian.toNat [high, low] := by
    rw [List.length_take, areaSize]
    exact Nat.min_eq_left (Nat.not_lt.mp bound)
  refine ⟨?_, area.drop (BigEndian.toNat [high, low]), ?_, ?_⟩
  · rw [Fits]
    simp only [cellHeaderLen, List.drop_succ_cons, List.drop_zero, taken]
    exact Nat.not_lt.mp bound
  · simp only [cellHeaderLen, List.drop_succ_cons, List.drop_zero, taken, List.length_drop, areaSize]
  · have digits : BigEndian.ofNat 2 (BigEndian.toNat [high, low]) = [high, low] := BigEndian.ofNat_toNat [high, low]
    simp only [framed, cellHeaderLen, List.drop_succ_cons, List.drop_zero, taken, digits, flags,
      CellType.toByte_of_ofByte isType, List.cons_append, List.nil_append, List.take_append_drop]

/-- A decoded cell always fits, whatever the sender wrote. -/
theorem fits_of_decode {bytes : Bytes} {cell : Cell} (decoded : decode bytes = .ok cell) : cell.Fits :=
  (decode_ok decoded).1

end Cell

/-- A cell together with the proof that it fits, which is all `Cell::new` and
`Cell::decode` ever return. -/
abbrev FittingCell := { cell : Cell // cell.Fits }

end Wire
end QuietHop
