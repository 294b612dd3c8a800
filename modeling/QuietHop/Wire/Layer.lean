import QuietHop.Lib.Channel
import QuietHop.Wire.Cell

namespace QuietHop
namespace Wire

open Lib

/-!
# One AEAD layer per hop, fixed size on every link

A layer's plaintext is a disposition byte followed by a body whose length
depends only on the link.  `TO_ME` means the body starts with a full cell and the
rest is zero padding; `FORWARD` means the body is the adjacent link's complete
cell.  `sealToMe`, `sealForward` and `peel` are the three operations of the
source, on a transport whose send counter is the length of what it has sealed.

`peel` takes the peer's sealed messages as an argument: the transport is an ideal
channel, so decryption succeeds exactly on the ciphertext the peer made at the
counter value this end has reached.  The transport is returned on failure as
well, because the counter advances with a successful decryption even when the
plaintext is then refused.
-/

inductive NoiseError where
  | handshake
  | transport
  | keyLength
  | length (got want : Nat)
  deriving DecidableEq, Repr

inductive LayerError where
  | noise (error : NoiseError)
  | cell (error : CellError)
  | unknownDisposition (byte : UInt8)
  | dirtyPadding
  | wrongSize (got want : Nat)
  | forwardAtInnermost
  deriving DecidableEq, Repr

/-- The cipher of every transport in the system. -/
abbrev NoiseAead (Key : Type) := Aead Key noiseTagLen

/-- One end of an established session.  `sent` is what this end has sealed, so
its length is the send counter; `received` is the receive counter. -/
structure Transport (Key : Type) where
  key : Key
  sent : List Sealed
  received : Nat

namespace Transport

variable {Key : Type} (aead : NoiseAead Key)

/-- The transport after sealing one more plaintext. -/
def push (tx : Transport Key) (plain : Bytes) : Transport Key :=
  { tx with sent := tx.sent ++ [⟨plain, aead.encrypt tx.key tx.sent.length plain⟩] }

@[simp] theorem push_key (tx : Transport Key) (plain : Bytes) : (tx.push aead plain).key = tx.key := rfl

@[simp] theorem push_sent (tx : Transport Key) (plain : Bytes) :
    (tx.push aead plain).sent = tx.sent ++ [⟨plain, aead.encrypt tx.key tx.sent.length plain⟩] := rfl

@[simp] theorem push_received (tx : Transport Key) (plain : Bytes) :
    (tx.push aead plain).received = tx.received := rfl

/-- Encrypt into a buffer of `outLen` bytes. -/
def encrypt (tx : Transport Key) (plain : Bytes) (outLen : Nat) :
    Except NoiseError Bytes × Transport Key :=
  let want := plain.length + noiseTagLen
  if outLen ≠ want then (.error (.length outLen want), tx)
  else
    let cipher := aead.encrypt tx.key tx.sent.length plain
    if cipher.length ≠ want then (.error (.length cipher.length want), tx.push aead plain)
    else (.ok cipher, tx.push aead plain)

theorem encrypt_of_length (tx : Transport Key) {plain : Bytes} {outLen : Nat}
    (size : outLen = plain.length + noiseTagLen) :
    tx.encrypt aead plain outLen =
      (.ok (aead.encrypt tx.key tx.sent.length plain), tx.push aead plain) := by
  unfold encrypt
  simp [size, aead.length_encrypt]

/-- Encryption only ever touches the send side. -/
theorem encrypt_received (tx : Transport Key) (plain : Bytes) (outLen : Nat) :
    (tx.encrypt aead plain outLen).2.received = tx.received := by
  unfold encrypt
  simp only
  split_ifs <;> rfl

/-- Decrypt into a buffer of `outLen` bytes. -/
def decrypt (peer : List Sealed) (tx : Transport Key) (cipher : Bytes) (outLen : Nat) :
    Except NoiseError Bytes × Transport Key :=
  if cipher.length < noiseTagLen then (.error (.length cipher.length noiseTagLen), tx)
  else
    let want := cipher.length - noiseTagLen
    if outLen ≠ want then (.error (.length outLen want), tx)
    else
      match Channel.openAt peer tx.received cipher with
      | none => (.error .transport, tx)
      | some plain =>
          let tx := { tx with received := tx.received + 1 }
          if plain.length ≠ want then (.error (.length plain.length want), tx) else (.ok plain, tx)

/-- A successful decryption read the peer's message at this counter. -/
theorem decrypt_ok {peer : List Sealed} {tx next : Transport Key} {cipher plain : Bytes} {outLen : Nat}
    (read : tx.decrypt peer cipher outLen = (.ok plain, next)) :
    peer[tx.received]? = some ⟨plain, cipher⟩ ∧ next = { tx with received := tx.received + 1 } ∧
      plain.length = cipher.length - noiseTagLen := by
  unfold decrypt at read
  simp only at read
  split at read
  · cases read
  · split at read
    · cases read
    · cases opened : Channel.openAt peer tx.received cipher with
      | none => simp [opened] at read
      | some text =>
          by_cases size : text.length = cipher.length - noiseTagLen
          · simp only [opened, size, ne_eq, not_true_eq_false, if_false, Prod.mk.injEq, Except.ok.injEq] at read
            obtain ⟨rfl, rfl⟩ := read
            exact ⟨Channel.openAt_eq_some_iff.mp opened, rfl, size⟩
          · simp [opened, size] at read

/-- Decryption only ever touches the receive counter. -/
theorem decrypt_tx (peer : List Sealed) (tx : Transport Key) (cipher : Bytes) (outLen : Nat) :
    ∃ count, (tx.decrypt peer cipher outLen).2 = { tx with received := count } := by
  unfold decrypt
  simp only
  split
  · exact ⟨tx.received, rfl⟩
  · split
    · exact ⟨tx.received, rfl⟩
    · split
      · exact ⟨tx.received, rfl⟩
      · split
        · exact ⟨tx.received + 1, rfl⟩
        · exact ⟨tx.received + 1, rfl⟩

end Transport

/-- What one peeled layer turned out to hold. -/
inductive Peeled where
  | toMe (cell : Cell)
  | forward (blob : Bytes)
  deriving DecidableEq, Repr

section Operations

variable {Key : Type} (aead : NoiseAead Key)

/-- The plaintext of a layer addressed to the peeling party. -/
def toMePlain (cell : Cell) (layers : Nat) : Bytes :=
  dispositionToMe :: (cell.image ++ List.replicate (bodyLen layers - cellPlaintextLen) 0)

/-- The plaintext of a layer with anything at all behind the payload of its cell. -/
def framedPlain (cell : Cell) (rest : Bytes) (layers : Nat) : Bytes :=
  dispositionToMe :: (cell.framed rest ++ List.replicate (bodyLen layers - cellPlaintextLen) 0)

/-- The plaintext of a layer to be passed on. -/
def forwardPlain (blob : Bytes) : Bytes :=
  dispositionForward :: blob

/-- Seal a cell as the innermost layer for a hop `layers` deep. -/
def sealToMe (tx : Transport Key) (cell : Cell) (layers : Nat) : Except LayerError Bytes × Transport Key :=
  let body := List.replicate (bodyLen layers) (0 : UInt8)
  match cell.encodeInto (body.take cellPlaintextLen) with
  | .error e => (.error (.cell e), tx)
  | .ok encoded =>
      -- The rest of the body is already zero from the allocation.
      let plain := dispositionToMe :: (encoded ++ body.drop cellPlaintextLen)
      match tx.encrypt aead plain (plain.length + noiseTagLen) with
      | (.error e, tx) => (.error (.noise e), tx)
      | (.ok out, tx) => (.ok out, tx)

/-- Seal a blob for forwarding; it must be exactly the adjacent link's cell. -/
def sealForward (tx : Transport Key) (blob : Bytes) (layers : Nat) :
    Except LayerError Bytes × Transport Key :=
  let want := linkCellLen (layers - 1)
  if blob.length ≠ want then (.error (.wrongSize blob.length want), tx)
  else
    let plain := forwardPlain blob
    match tx.encrypt aead plain (plain.length + noiseTagLen) with
    | (.error e, tx) => (.error (.noise e), tx)
    | (.ok out, tx) => (.ok out, tx)

/-- Read a decrypted layer: the disposition byte decides, and a `TO_ME` body is
refused when anything follows the cell but zeros. -/
def unwrap (plain : Bytes) (layers : Nat) : Except LayerError Peeled :=
  let disposition := plain.getD 0 0
  if disposition = dispositionToMe then
    match Cell.decode ((plain.drop dispositionLen).take cellPlaintextLen) with
    | .error e => .error (.cell e)
    | .ok cell =>
        if (plain.drop (dispositionLen + cellPlaintextLen)).any (· ≠ 0) then .error .dirtyPadding
        else .ok (.toMe cell)
  else if disposition = dispositionForward then
    if layers = 1 then .error .forwardAtInnermost
    else .ok (.forward (plain.drop dispositionLen))
  else .error (.unknownDisposition disposition)

/-- Peel one layer off a frame read from a link `layers` deep. -/
def peel (peer : List Sealed) (tx : Transport Key) (wire : Bytes) (layers : Nat) :
    Except LayerError Peeled × Transport Key :=
  let want := linkCellLen layers
  if wire.length ≠ want then (.error (.wrongSize wire.length want), tx)
  else
    match tx.decrypt peer wire (dispositionLen + bodyLen layers) with
    | (.error e, tx) => (.error (.noise e), tx)
    | (.ok plain, tx) => (unwrap plain layers, tx)

/-! ## What sealing produces -/

theorem length_framedPlain {cell : Cell} (fits : cell.Fits) {rest : Bytes}
    (size : rest.length = cellPayloadLen - cell.payload.length) (depth : Nat) :
    (framedPlain cell rest (depth + 1)).length + noiseTagLen = linkCellLen (depth + 1) := by
  have room := cellPlaintextLen_le_linkCellLen depth
  simp only [framedPlain, List.length_cons, List.length_append, Cell.length_framed fits size,
    List.length_replicate, bodyLen_succ, linkCellLen_succ, dispositionLen]
  omega

theorem length_toMePlain {cell : Cell} (fits : cell.Fits) (depth : Nat) :
    (toMePlain cell (depth + 1)).length + noiseTagLen = linkCellLen (depth + 1) :=
  length_framedPlain fits List.length_replicate depth

theorem length_forwardPlain {blob : Bytes} {depth : Nat} (size : blob.length = linkCellLen depth) :
    (forwardPlain blob).length + noiseTagLen = linkCellLen (depth + 1) := by
  simp only [forwardPlain, List.length_cons, size, linkCellLen_succ, dispositionLen]
  omega

/-- Sealing a cell that fits never fails and appends exactly one message. -/
theorem sealToMe_of_fits (tx : Transport Key) {cell : Cell} (fits : cell.Fits) (depth : Nat) :
    sealToMe aead tx cell (depth + 1) =
      (.ok (aead.encrypt tx.key tx.sent.length (toMePlain cell (depth + 1))),
        tx.push aead (toMePlain cell (depth + 1))) := by
  have room := cellPlaintextLen_le_linkCellLen depth
  have slice : ((List.replicate (bodyLen (depth + 1)) (0 : UInt8)).take cellPlaintextLen).length =
      cellPlaintextLen := by
    rw [List.length_take, List.length_replicate, bodyLen_succ]
    omega
  have rest : (List.replicate (bodyLen (depth + 1)) (0 : UInt8)).drop cellPlaintextLen =
      List.replicate (bodyLen (depth + 1) - cellPlaintextLen) 0 := List.drop_replicate
  unfold sealToMe
  simp only [Cell.encodeInto_of_fits fits slice, rest]
  rw [tx.encrypt_of_length aead rfl]
  rfl

theorem sealForward_of_length (tx : Transport Key) {blob : Bytes} {depth : Nat}
    (size : blob.length = linkCellLen depth) :
    sealForward aead tx blob (depth + 1) =
      (.ok (aead.encrypt tx.key tx.sent.length (forwardPlain blob)), tx.push aead (forwardPlain blob)) := by
  unfold sealForward
  simp only [Nat.add_sub_cancel, size, ne_eq, not_true_eq_false, if_false]
  rw [tx.encrypt_of_length aead rfl]

/-- A cell that does not fit is refused before anything is sealed. -/
theorem fits_of_sealToMe {tx next : Transport Key} {cell : Cell} {layers : Nat} {out : Bytes}
    (done : sealToMe aead tx cell layers = (.ok out, next)) : cell.Fits := by
  unfold sealToMe at done
  simp only at done
  split at done
  · cases done
  · next encoded =>
      rw [Cell.encodeInto] at encoded
      split_ifs at encoded with _ large
      exact Nat.le_of_not_lt large

theorem sealToMe_of_not_fits (tx : Transport Key) {cell : Cell} (large : ¬ cell.Fits) (layers : Nat) :
    ∃ reason, sealToMe aead tx cell layers = (.error reason, tx) := by
  unfold sealToMe
  simp only
  split
  · exact ⟨_, rfl⟩
  · next encoded =>
      rw [Cell.encodeInto] at encoded
      split_ifs at encoded with _ small
      exact absurd (Nat.le_of_not_lt small) large

/-- Whatever is sealed, the frame has the length of its link. -/
theorem length_of_sealToMe {tx next : Transport Key} {cell : Cell} {depth : Nat} {out : Bytes}
    (done : sealToMe aead tx cell (depth + 1) = (.ok out, next)) : out.length = linkCellLen (depth + 1) := by
  have fits := fits_of_sealToMe aead done
  rw [sealToMe_of_fits aead tx fits depth] at done
  cases done
  rw [aead.length_encrypt]
  exact length_toMePlain fits depth

theorem length_of_sealForward {tx next : Transport Key} {blob : Bytes} {depth : Nat} {out : Bytes}
    (done : sealForward aead tx blob (depth + 1) = (.ok out, next)) : out.length = linkCellLen (depth + 1) := by
  have size : blob.length = linkCellLen depth := by
    unfold sealForward at done
    simp only [Nat.add_sub_cancel] at done
    split_ifs at done with wrong
    · cases done
    · exact Decidable.not_not.mp wrong
  rw [sealForward_of_length aead tx size] at done
  cases done
  rw [aead.length_encrypt]
  exact length_forwardPlain size

theorem sealToMe_received (tx : Transport Key) (cell : Cell) (layers : Nat) :
    (sealToMe aead tx cell layers).2.received = tx.received := by
  unfold sealToMe
  simp only
  split
  · rfl
  · next encoded _ =>
      have same := tx.encrypt_received aead (dispositionToMe ::
        (encoded ++ (List.replicate (bodyLen layers) (0 : UInt8)).drop cellPlaintextLen))
      split
      · next sealed => rw [← same, sealed]
      · next sealed => rw [← same, sealed]

theorem sealForward_received (tx : Transport Key) (blob : Bytes) (layers : Nat) :
    (sealForward aead tx blob layers).2.received = tx.received := by
  have same := tx.encrypt_received aead (forwardPlain blob)
  unfold sealForward
  simp only
  split
  · rfl
  · split
    · next sealed => rw [← same, sealed]
    · next sealed => rw [← same, sealed]

/-! ## What peeling reads back -/

/-- The padding behind the cell is checked, the padding inside it is not. -/
theorem unwrap_framedPlain {cell : Cell} (fits : cell.Fits) {rest : Bytes}
    (size : rest.length = cellPayloadLen - cell.payload.length) (layers : Nat) :
    unwrap (framedPlain cell rest layers) layers = .ok (.toMe cell) := by
  have total := Cell.length_framed fits size
  have front : ((framedPlain cell rest layers).drop dispositionLen).take cellPlaintextLen = cell.framed rest :=
    List.take_left' total
  have back : (framedPlain cell rest layers).drop (dispositionLen + cellPlaintextLen) =
      List.replicate (bodyLen layers - cellPlaintextLen) 0 := by
    rw [Nat.add_comm, show dispositionLen = 1 from rfl, framedPlain, List.drop_succ_cons]
    exact List.drop_left' total
  unfold unwrap
  rw [show (framedPlain cell rest layers).getD 0 0 = dispositionToMe from rfl, if_pos rfl, front, back,
    Cell.decode_framed fits size]
  simp

theorem unwrap_toMePlain {cell : Cell} (fits : cell.Fits) (layers : Nat) :
    unwrap (toMePlain cell layers) layers = .ok (.toMe cell) :=
  unwrap_framedPlain fits List.length_replicate layers

theorem unwrap_forwardPlain (blob : Bytes) (depth : Nat) :
    unwrap (forwardPlain blob) (depth + 2) = .ok (.forward blob) := by
  unfold unwrap
  rw [show (forwardPlain blob).getD 0 0 = dispositionForward from rfl, if_neg (by decide), if_pos rfl,
    if_neg (by omega)]
  rfl

/-- The frame at the receiver's counter opens, whatever else was sealed. -/
theorem peel_of_sealed {peer : List Sealed} (tx : Transport Key) {plain wire : Bytes} {depth : Nat}
    (here : peer[tx.received]? = some ⟨plain, wire⟩) (wireSize : wire.length = linkCellLen (depth + 1))
    (plainSize : plain.length + noiseTagLen = linkCellLen (depth + 1)) :
    peel peer tx wire (depth + 1) = (unwrap plain (depth + 1), { tx with received := tx.received + 1 }) := by
  have tag : ¬ linkCellLen (depth + 1) < noiseTagLen := by omega
  have buffer : dispositionLen + bodyLen (depth + 1) = linkCellLen (depth + 1) - noiseTagLen := by
    rw [bodyLen_succ, linkCellLen_succ]
    omega
  have exact : plain.length = linkCellLen (depth + 1) - noiseTagLen := by omega
  unfold peel Transport.decrypt
  simp only [wireSize, ne_eq, not_true_eq_false, if_false, if_neg tag, buffer,
    Channel.openAt_eq_some_iff.mpr here, exact]

/-- A peeled layer was sealed by the peer at this counter, and the counter moved
by one.  Nothing is assumed about the frame. -/
theorem peel_ok {peer : List Sealed} {tx next : Transport Key} {wire : Bytes} {layers : Nat}
    {peeled : Peeled} (read : peel peer tx wire layers = (.ok peeled, next)) :
    ∃ plain, peer[tx.received]? = some ⟨plain, wire⟩ ∧ unwrap plain layers = .ok peeled ∧
      next = { tx with received := tx.received + 1 } ∧ plain.length = wire.length - noiseTagLen ∧
      wire.length = linkCellLen layers := by
  unfold peel at read
  by_cases size : wire.length = linkCellLen layers
  · simp only [size, ne_eq, not_true_eq_false, if_false] at read
    split at read
    · cases read
    · next plain _ opened =>
        obtain ⟨here, rfl, length⟩ := Transport.decrypt_ok opened
        obtain ⟨unwrapped, same⟩ := Prod.mk.inj read
        exact ⟨plain, here, unwrapped, same.symm, length, size⟩
  · simp [size] at read

/-- Peeling only ever touches the receive counter. -/
theorem peel_tx (peer : List Sealed) (tx : Transport Key) (wire : Bytes) (layers : Nat) :
    ∃ count, (peel peer tx wire layers).2 = { tx with received := count } := by
  have touched := tx.decrypt_tx peer wire (dispositionLen + bodyLen layers)
  unfold peel
  simp only
  split
  · exact ⟨tx.received, rfl⟩
  · split
    · next opened => rwa [opened] at touched
    · next opened => rwa [opened] at touched

/-- A layer is read as a cell followed by zeros, or as everything behind the
disposition byte, and the latter not on the innermost layer. -/
theorem unwrap_ok {plain : Bytes} {layers : Nat} {peeled : Peeled} (read : unwrap plain layers = .ok peeled) :
    (∃ cell, peeled = .toMe cell ∧ plain.getD 0 0 = dispositionToMe ∧
      Cell.decode ((plain.drop dispositionLen).take cellPlaintextLen) = .ok cell ∧
      ∀ byte ∈ plain.drop (dispositionLen + cellPlaintextLen), byte = 0) ∨
    (layers ≠ 1 ∧ peeled = .forward (plain.drop dispositionLen)) := by
  unfold unwrap at read
  simp only at read
  split at read
  · next addressed =>
      left
      split at read
      · cases read
      · next cell decoded =>
          split at read
          · cases read
          · next clean =>
              cases read
              exact ⟨cell, rfl, addressed, decoded, by simpa using clean⟩
  · right
    split at read
    · split at read
      · cases read
      · next outer =>
          cases read
          exact ⟨outer, rfl⟩
    · cases read

/-- A forwarded blob is exactly the adjacent link's cell. -/
theorem length_of_unwrap_forward {plain blob : Bytes} {depth : Nat}
    (size : plain.length + noiseTagLen = linkCellLen (depth + 1))
    (read : unwrap plain (depth + 1) = .ok (.forward blob)) : blob.length = linkCellLen depth := by
  rcases unwrap_ok read with ⟨cell, other, -⟩ | ⟨-, same⟩
  · cases other
  · cases same
    rw [List.length_drop]
    rw [linkCellLen_succ] at size
    omega

/-- Nothing is passed on from the innermost layer. -/
theorem unwrap_one_ne_forward {plain blob : Bytes} : unwrap plain 1 ≠ .ok (.forward blob) := by
  intro read
  rcases unwrap_ok read with ⟨cell, other, -⟩ | ⟨outer, -⟩
  · cases other
  · exact outer rfl

/-- A cell handed to the peeling party always fits. -/
theorem fits_of_unwrap {plain : Bytes} {layers : Nat} {cell : Cell}
    (read : unwrap plain layers = .ok (.toMe cell)) : cell.Fits := by
  rcases unwrap_ok read with ⟨cell, same, -, decoded, -⟩ | ⟨-, other⟩
  · cases same
    exact Cell.fits_of_decode decoded
  · cases other

/-! ## What a layer can carry beside its cell -/

/-- Those are all the plaintexts from which a cell is read. -/
theorem eq_framedPlain_of_unwrap {plain : Bytes} {depth : Nat} {cell : Cell}
    (size : plain.length + noiseTagLen = linkCellLen (depth + 1))
    (read : unwrap plain (depth + 1) = .ok (.toMe cell)) :
    ∃ rest, rest.length = cellPayloadLen - cell.payload.length ∧ plain = framedPlain cell rest (depth + 1) := by
  rcases unwrap_ok read with ⟨found, same, addressed, decoded, clean⟩ | ⟨-, other⟩
  swap
  · cases other
  cases same
  rcases (Cell.decode_ok decoded).2 with ⟨rest, restSize, front⟩
  refine ⟨rest, restSize, ?_⟩
  cases plain with
  | nil =>
      have some := linkCellLen_succ depth
      simp only [List.length_nil, dispositionLen] at size some
      omega
  | cons first body =>
      have bodySize : body.length = bodyLen (depth + 1) := by
        rw [bodyLen_succ]
        rw [linkCellLen_succ, List.length_cons, dispositionLen] at size
        omega
      have back : body.drop cellPlaintextLen = List.replicate (bodyLen (depth + 1) - cellPlaintextLen) 0 := by
        rw [Nat.add_comm, show dispositionLen = 1 from rfl, List.drop_succ_cons] at clean
        rw [List.eq_replicate_iff, List.length_drop, bodySize]
        exact ⟨rfl, clean⟩
      rw [show dispositionLen = 1 from rfl, List.drop_succ_cons, List.drop_zero] at front
      rw [framedPlain, ← front, ← back, List.take_append_drop]
      exact congrArg (· :: body) addressed

/-- The length field of the cell in a layer. -/
def dataLen (plain : Bytes) : Nat :=
  BigEndian.toNat ((plain.drop (dispositionLen + 2)).take 2)

/-- The bytes of a layer from the end of the payload, as its length field has it, to the end of the payload area. -/
def padding (plain : Bytes) : Bytes :=
  (plain.drop (dispositionLen + cellHeaderLen + dataLen plain)).take (cellPayloadLen - dataLen plain)

theorem dataLen_framedPlain {cell : Cell} (fits : cell.Fits) (rest : Bytes) (layers : Nat) :
    dataLen (framedPlain cell rest layers) = cell.payload.length := by
  have small : cell.payload.length < 256 ^ 2 := Nat.lt_of_le_of_lt fits (by decide)
  have layout : framedPlain cell rest layers = [dispositionToMe, cell.cellType.toByte, 0] ++
      (BigEndian.ofNat 2 cell.payload.length ++
        (cell.payload ++ rest ++ List.replicate (bodyLen layers - cellPlaintextLen) 0)) := by
    simp [framedPlain, Cell.framed]
  have header : [dispositionToMe, cell.cellType.toByte, 0].length = dispositionLen + 2 := rfl
  rw [dataLen, layout, List.drop_left' header, List.take_left' (BigEndian.length_ofNat 2 _),
    BigEndian.toNat_ofNat 2 _ small]

theorem padding_framedPlain {cell : Cell} (fits : cell.Fits) {rest : Bytes}
    (size : rest.length = cellPayloadLen - cell.payload.length) (layers : Nat) :
    padding (framedPlain cell rest layers) = rest := by
  have layout : framedPlain cell rest layers =
      ([dispositionToMe, cell.cellType.toByte, 0] ++ BigEndian.ofNat 2 cell.payload.length ++ cell.payload) ++
        (rest ++ List.replicate (bodyLen layers - cellPlaintextLen) 0) := by
    simp [framedPlain, Cell.framed]
  have header : ([dispositionToMe, cell.cellType.toByte, 0] ++ BigEndian.ofNat 2 cell.payload.length ++
      cell.payload).length = dispositionLen + cellHeaderLen + cell.payload.length := by
    simp [dispositionLen, cellHeaderLen]
    omega
  rw [padding, dataLen_framedPlain fits, layout, List.drop_left' header, List.take_left' size]

theorem padding_toMePlain {cell : Cell} (fits : cell.Fits) (layers : Nat) :
    ∀ byte ∈ padding (toMePlain cell layers), byte = 0 := by
  intro byte member
  exact List.eq_of_mem_replicate (padding_framedPlain fits List.length_replicate layers ▸ member)

/-- A cell is read from the plaintext that sealing it makes exactly where the padding inside the cell is zero. -/
theorem eq_toMePlain_iff {plain : Bytes} {depth : Nat} {cell : Cell}
    (size : plain.length + noiseTagLen = linkCellLen (depth + 1))
    (read : unwrap plain (depth + 1) = .ok (.toMe cell)) :
    plain = toMePlain cell (depth + 1) ↔ ∀ byte ∈ padding plain, byte = 0 := by
  have fits := fits_of_unwrap read
  constructor
  · rintro rfl
    exact padding_toMePlain fits (depth + 1)
  · intro clean
    rcases eq_framedPlain_of_unwrap size read with ⟨rest, restSize, rfl⟩
    rw [padding_framedPlain fits restSize] at clean
    rw [List.eq_replicate_iff.mpr ⟨restSize, clean⟩]
    rfl

/-- Two plaintexts from which the same cell is read differ in that padding, if at all. -/
theorem eq_iff_padding {plain other : Bytes} {depth : Nat} {cell : Cell}
    (size : plain.length + noiseTagLen = linkCellLen (depth + 1))
    (read : unwrap plain (depth + 1) = .ok (.toMe cell)) (sameSize : other.length = plain.length)
    (otherRead : unwrap other (depth + 1) = .ok (.toMe cell)) : other = plain ↔ padding other = padding plain := by
  have fits := fits_of_unwrap read
  rcases eq_framedPlain_of_unwrap size read with ⟨rest, restSize, rfl⟩
  rcases eq_framedPlain_of_unwrap (sameSize ▸ size) otherRead with ⟨otherRest, otherSize, rfl⟩
  rw [padding_framedPlain fits restSize, padding_framedPlain fits otherSize]
  constructor
  · intro same
    rw [← padding_framedPlain fits otherSize (depth + 1), same, padding_framedPlain fits restSize]
  · rintro rfl
    rfl

/-- A peeled frame is as long as its link, so its plaintext is as long as the layer. -/
theorem length_plain_of_peel {peer : List Sealed} {tx next : Transport Key} {wire plain : Bytes} {depth : Nat}
    {peeled : Peeled} (sealed : peer[tx.received]? = some ⟨plain, wire⟩)
    (read : peel peer tx wire (depth + 1) = (.ok peeled, next)) :
    plain.length + noiseTagLen = linkCellLen (depth + 1) ∧ unwrap plain (depth + 1) = .ok peeled := by
  rcases peel_ok read with ⟨found, here, unwrapped, -, plainSize, wireSize⟩
  rw [sealed] at here
  cases here
  refine ⟨?_, unwrapped⟩
  rw [wireSize] at plainSize
  rw [linkCellLen_succ] at plainSize ⊢
  omega

/-- A layer read as a cell carries nothing else exactly where the bytes from the end of its payload to the end of the
payload area are zero.  Exactly then the plaintext is the disposition byte, the encoded cell and zeros, and exactly then
sealing the cell again seals the same plaintext.  What else is read as the same cell differs in these bytes. -/
theorem toMe_carries_cell_only {peer : List Sealed} {tx next : Transport Key} {wire plain : Bytes} {layers : Nat}
    {cell : Cell} (positive : 1 ≤ layers) (sealed : peer[tx.received]? = some ⟨plain, wire⟩)
    (read : peel peer tx wire layers = (.ok (.toMe cell), next)) :
    ((∃ encoded, cell.encode = .ok encoded ∧
      plain = dispositionToMe :: (encoded ++ List.replicate (bodyLen layers - cellPlaintextLen) 0)) ↔
        ∀ byte ∈ padding plain, byte = 0) ∧
    ((forall sender, (sealToMe aead sender cell layers).2.sent =
      sender.sent ++ [⟨plain, aead.encrypt sender.key sender.sent.length plain⟩]) ↔
        ∀ byte ∈ padding plain, byte = 0) ∧
    forall other, other.length = plain.length -> unwrap other layers = .ok (.toMe cell) ->
      (other = plain ↔ padding other = padding plain) := by
  obtain ⟨depth, rfl⟩ : ∃ depth, layers = depth + 1 := ⟨layers - 1, by omega⟩
  rcases length_plain_of_peel sealed read with ⟨size, unwrapped⟩
  have fits := fits_of_unwrap unwrapped
  have encodes : cell.encode = .ok cell.image := Cell.encodeInto_of_fits fits List.length_replicate
  have canonical := eq_toMePlain_iff size unwrapped
  refine ⟨?_, ?_, fun other sameSize otherRead => eq_iff_padding size unwrapped sameSize otherRead⟩
  · rw [← canonical]
    constructor
    · rintro ⟨encoded, done, same⟩
      cases encodes.symm.trans done
      exact same
    · intro same
      exact ⟨cell.image, encodes, same⟩
  · rw [← canonical]
    constructor
    · intro again
      have sent := again tx
      rw [sealToMe_of_fits aead tx fits depth, Transport.push_sent] at sent
      have last := List.append_cancel_left sent
      exact (congrArg Sealed.plain (List.cons.inj last).1).symm
    · intro same sender
      rw [sealToMe_of_fits aead sender fits depth, Transport.push_sent, same]

/-- A first message whose tag is zero bytes is opened by a receiver that has opened none. -/
theorem peel_zeroTag {plain : Bytes} {depth : Nat} (size : plain.length + noiseTagLen = linkCellLen (depth + 1)) :
    peel [⟨plain, plain ++ List.replicate noiseTagLen 0⟩] (⟨(), [], 0⟩ : Transport Unit)
      (plain ++ List.replicate noiseTagLen 0) (depth + 1) = (unwrap plain (depth + 1), ⟨(), [], 1⟩) := by
  apply peel_of_sealed _ rfl _ size
  rw [List.length_append, List.length_replicate]
  exact size

/-- An empty DATA cell on the innermost link. -/
theorem toMe_carries_cell_only_empty_data :
    (∀ byte ∈ padding (toMePlain ⟨.data, []⟩ 1), byte = 0) ∧
    ∃ encoded, Cell.encode ⟨.data, []⟩ = .ok encoded ∧
      toMePlain ⟨.data, []⟩ 1 = dispositionToMe :: (encoded ++ List.replicate (bodyLen 1 - cellPlaintextLen) 0) := by
  have fits : Cell.Fits ⟨.data, []⟩ := by decide
  have read := peel_zeroTag (length_toMePlain fits 0)
  rw [unwrap_toMePlain fits] at read
  have clean : ∀ byte ∈ padding (toMePlain ⟨.data, []⟩ 1), byte = 0 := padding_toMePlain fits 1
  exact ⟨clean, (toMe_carries_cell_only (Aead.zeroTag noiseTagLen) (Nat.le_refl 1) rfl read).1.mpr clean⟩

/-- A layer on the innermost link that holds an empty DATA cell and, inside the payload
area of that cell, one byte more. -/
def covertPlain : Bytes :=
  framedPlain ⟨.data, []⟩ (1 :: List.replicate (cellPayloadLen - 1) 0) 1

/-- The padding inside the payload area is read by nobody: two different plaintexts are
peeled as the same cell, and one of them is not what sealing the cell makes. -/
theorem toMe_carries_covert_byte :
    ∃ (wire : Bytes) (tx next : Transport Unit) (cell : Cell),
      peel [⟨covertPlain, wire⟩] tx wire 1 = (.ok (.toMe cell), next) ∧
      unwrap (toMePlain cell 1) 1 = .ok (.toMe cell) ∧ covertPlain.length = (toMePlain cell 1).length ∧
      covertPlain ≠ toMePlain cell 1 ∧
      forall encoded, cell.encode = .ok encoded ->
        covertPlain ≠ dispositionToMe :: (encoded ++ List.replicate (bodyLen 1 - cellPlaintextLen) 0) := by
  have fits : Cell.Fits ⟨.data, []⟩ := by decide
  have restSize : (1 :: List.replicate (cellPayloadLen - 1) 0 : Bytes).length =
      cellPayloadLen - (⟨.data, []⟩ : Cell).payload.length := by
    rw [List.length_cons, List.length_replicate]
    rfl
  -- the depths are normalised by hand: the unifier would evaluate the lengths instead
  have size := length_framedPlain fits restSize 0
  have plainSize := length_toMePlain fits 0
  rw [Nat.zero_add, ← covertPlain] at size
  rw [Nat.zero_add] at plainSize
  have read : unwrap covertPlain 1 = .ok (.toMe ⟨.data, []⟩) := by
    rw [covertPlain, unwrap_framedPlain fits restSize]
  have padded : covertPlain ≠ toMePlain ⟨.data, []⟩ 1 := by
    intro same
    have first := congrArg (fun plain : Bytes => plain.getD 5 0) same
    cases first
  refine ⟨_, _, _, ⟨.data, []⟩, (peel_zeroTag size).trans (by rw [read]), unwrap_toMePlain fits 1, ?_, padded, ?_⟩
  · exact Nat.add_right_cancel (size.trans plainSize.symm)
  · intro encoded done
    rw [Cell.encode, Cell.encodeInto_of_fits fits List.length_replicate] at done
    cases done
    exact padded

-- Callers use the lemmas above; unfolding would run the zero-filled buffers.
attribute [irreducible] sealToMe

end Operations
end Wire
end QuietHop
