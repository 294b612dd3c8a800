import QuietHop.Lib.Stream
import QuietHop.Wire.Cell

namespace QuietHop
namespace Wire

open Lib

/-!
# Reassembling fixed-length frames

A read may end anywhere inside a frame.  The accumulator keeps what has arrived of
the frame being assembled, outside the future that a `select!` may drop.  A reader
asks the stream for no more than the rest of that frame, so one read completes at
most one frame and never takes bytes of the frame after it.
-/

structure FrameAccumulator where
  frameLen : Nat
  buf : Bytes
  deriving DecidableEq

namespace FrameAccumulator

def new (frameLen : Nat) : FrameAccumulator :=
  ⟨frameLen, []⟩

def push (acc : FrameAccumulator) (bytes : Bytes) : FrameAccumulator :=
  { acc with buf := acc.buf ++ bytes }

def nextFrame (acc : FrameAccumulator) : Option Bytes × FrameAccumulator :=
  if acc.buf.length < acc.frameLen then (none, acc)
  else (some (acc.buf.take acc.frameLen), { acc with buf := acc.buf.drop acc.frameLen })

def pending (acc : FrameAccumulator) : Nat :=
  acc.buf.length

/-- How much one read may ask for. -/
def room (acc : FrameAccumulator) : Nat :=
  acc.frameLen - acc.pending

/-- One turn of the loop in `FrameReader::next_frame`: a read of at most `room` bytes
and the attempt to take a frame that follows it. -/
def receive (acc : FrameAccumulator) (bytes : Bytes) : Option Bytes × FrameAccumulator :=
  (acc.push (bytes.take acc.room)).nextFrame

/-- Between two reads less than a frame is held. -/
def Unfilled (acc : FrameAccumulator) : Prop :=
  acc.buf.length < acc.frameLen

theorem unfilled_new {frameLen : Nat} (positive : 0 < frameLen) : (new frameLen).Unfilled :=
  positive

theorem receive_frameLen (acc : FrameAccumulator) (bytes : Bytes) : (acc.receive bytes).2.frameLen = acc.frameLen := by
  rw [receive, nextFrame]
  split_ifs <;> rfl

/-- A completed frame has the frame length and leaves nothing behind; otherwise all
that was read is kept. -/
theorem receive_cases {acc : FrameAccumulator} (held : acc.Unfilled) {bytes : Bytes}
    (fits : bytes.length ≤ acc.room) :
    (acc.receive bytes = (none, { acc with buf := acc.buf ++ bytes }) ∧
      acc.buf.length + bytes.length < acc.frameLen) ∨
    (acc.receive bytes = (some (acc.buf ++ bytes), { acc with buf := [] }) ∧
      (acc.buf ++ bytes).length = acc.frameLen) := by
  have below : acc.buf.length < acc.frameLen := held
  have space : bytes.length ≤ acc.frameLen - acc.buf.length := fits
  have total : (acc.buf ++ bytes).length = acc.buf.length + bytes.length := List.length_append
  simp only [receive, nextFrame, push, List.take_of_length_le fits]
  by_cases short : (acc.buf ++ bytes).length < acc.frameLen
  · left
    rw [if_pos short]
    exact ⟨rfl, by omega⟩
  · right
    rw [if_neg short]
    have exact : (acc.buf ++ bytes).length = acc.frameLen := by omega
    rw [← exact, List.take_length, List.drop_length]
    exact ⟨rfl, rfl⟩

/-- A read may bring a whole frame. -/
theorem receive_new {frameLen : Nat} {bytes : Bytes} (size : bytes.length = frameLen) :
    (new frameLen).receive bytes = (some bytes, new frameLen) := by
  simp [receive, nextFrame, push, room, pending, new, ← size]

/-- Whatever is read, a frame that comes out has the frame length. -/
theorem length_of_receive {acc next : FrameAccumulator} {bytes frame : Bytes}
    (complete : acc.receive bytes = (some frame, next)) : frame.length = acc.frameLen := by
  rw [receive, nextFrame] at complete
  split_ifs at complete with short
  · cases (Prod.mk.inj complete).1
  rw [← Option.some.inj (Prod.mk.inj complete).1, List.length_take]
  exact Nat.min_eq_left (Nat.le_of_not_lt short)

theorem unfilled_receive {acc : FrameAccumulator} (held : acc.Unfilled) {bytes : Bytes}
    (fits : bytes.length ≤ acc.room) : (acc.receive bytes).2.Unfilled := by
  rcases receive_cases held fits with ⟨same, short⟩ | ⟨same, _⟩
  · rw [same]
    simpa [Unfilled] using short
  · rw [same]
    exact Nat.lt_of_le_of_lt (Nat.zero_le _) held

end FrameAccumulator

/-! ## The reader -/

/-- A read half and its partial frame. -/
structure FrameReader where
  /-- What the stream will still yield. -/
  inner : Bytes
  acc : FrameAccumulator
  /-- The length of the scratch buffer. -/
  scratch : Nat
  /-- A `next_frame` is waiting in its read. -/
  awaiting : Bool

namespace FrameReader

def new (inner : Bytes) (frameLen : Nat) : FrameReader :=
  ⟨inner, FrameAccumulator.new frameLen, frameLen, false⟩

def pending (reader : FrameReader) : Nat :=
  reader.acc.pending

/-- What happens to a reader.  A read returns at least one byte while there is one, and no more than
there is room for; how many is up to the stream.  Dropping the future is possible where it waits. -/
inductive Move where
  | call
  | read (extra : Nat)
  | readError
  | cancel

inductive Event where
  /-- A read is offered this many bytes of the scratch buffer. -/
  | offered (room : Nat)
  | returned (frame : Bytes)
  | unexpectedEof
  | failed
  | cancelled
  deriving DecidableEq

/-- The head of the loop, up to the read or to the return of a frame. -/
def advance (reader : FrameReader) : Event × FrameReader :=
  match reader.acc.nextFrame with
  | (some frame, acc) => (.returned frame, { reader with acc := acc, awaiting := false })
  | (none, acc) => (.offered (reader.scratch - acc.pending), { reader with acc := acc, awaiting := true })

/-- What the read that is waited for takes off the stream. -/
def taken (reader : FrameReader) (extra : Nat) : Bytes :=
  reader.inner.take (min (extra + 1) (reader.scratch - reader.acc.pending))

/-- One move; a move that the reader is not ready for does nothing. -/
def step (reader : FrameReader) : Move -> Option Event × FrameReader
  | .call =>
      if reader.awaiting then (none, reader)
      else
        let (event, next) := reader.advance
        (some event, next)
  | .read extra =>
      if reader.awaiting then
        if (reader.taken extra).isEmpty then (some .unexpectedEof, { reader with awaiting := false })
        else
          let (event, next) := advance { reader with
            inner := reader.inner.drop (reader.taken extra).length
            acc := reader.acc.push (reader.taken extra) }
          (some event, next)
      else (none, reader)
  | .readError => if reader.awaiting then (some .failed, { reader with awaiting := false }) else (none, reader)
  | .cancel => if reader.awaiting then (some .cancelled, { reader with awaiting := false }) else (none, reader)

/-- A run, with what has happened in it. -/
def run (reader : FrameReader) : List Move -> List Event × FrameReader
  | [] => ([], reader)
  | move :: rest =>
      let (event, next) := reader.step move
      let (events, last) := next.run rest
      (event.toList ++ events, last)

/-- The frames among the events. -/
def frames : List Event -> List Bytes
  | [] => []
  | .returned frame :: rest => frame :: frames rest
  | _ :: rest => frames rest

theorem frames_append (first second : List Event) : frames (first ++ second) = frames first ++ frames second := by
  induction first with
  | nil => rfl
  | cons event rest ih =>
      cases event with
      | returned frame => exact congrArg (frame :: ·) ih
      | offered room => exact ih
      | unexpectedEof => exact ih
      | failed => exact ih
      | cancelled => exact ih

/-- The stream is what has been returned, what is held and what is still to come; less than a frame
is held. -/
structure Splits (frameLen : Nat) (stream : Bytes) (done : List Bytes) (reader : FrameReader) : Prop where
  size : reader.acc.frameLen = frameLen
  scratch : reader.scratch = frameLen
  whole : done.flatten ++ (reader.acc.buf ++ reader.inner) = stream
  sizes : ∀ frame ∈ done, frame.length = frameLen
  below : reader.acc.buf.length < frameLen

/-- What an event says about the stream, after some frames have been returned. -/
def Event.Sound (frameLen : Nat) (stream : Bytes) (count : Nat) (after : FrameReader) : Event -> Prop
  | .offered room => 0 < room ∧ room = frameLen - after.pending
  | .returned frame =>
      frame = (stream.drop (count * frameLen)).take frameLen ∧ after.pending = 0 ∧
        after.inner = stream.drop ((count + 1) * frameLen)
  | .unexpectedEof => after.inner = [] ∧ stream.length < (count + 1) * frameLen
  | .failed => True
  | .cancelled => True

section Steps

variable {frameLen : Nat} {stream : Bytes} {done : List Bytes} {reader : FrameReader}

theorem splits_new (positive : 1 ≤ frameLen) (stream : Bytes) : Splits frameLen stream [] (new stream frameLen) where
  size := rfl
  scratch := rfl
  whole := rfl
  sizes := by simp
  below := positive

theorem Splits.length_done (splits : Splits frameLen stream done reader) :
    done.flatten.length = done.length * frameLen :=
  Stream.length_flatten_of_size splits.sizes

theorem Splits.length_stream (splits : Splits frameLen stream done reader) :
    stream.length = done.length * frameLen + reader.pending + reader.inner.length := by
  rw [← splits.whole, List.length_append, List.length_append, splits.length_done, pending, FrameAccumulator.pending]
  omega

theorem Splits.inner_eq (splits : Splits frameLen stream done reader) :
    reader.inner = stream.drop (done.length * frameLen + reader.pending) := by
  rw [← splits.whole, ← splits.length_done, ← List.drop_drop, List.drop_left, pending, FrameAccumulator.pending,
    List.drop_left]

/-- The head of the loop returns a frame as soon as one is complete, and otherwise offers the room that is
left in it. -/
theorem advance_cases (size : reader.acc.frameLen = frameLen) (scratch : reader.scratch = frameLen)
    (fits : reader.acc.buf.length ≤ frameLen) :
    (reader.acc.buf.length < frameLen ∧
      reader.advance = (.offered (frameLen - reader.acc.buf.length), { reader with awaiting := true })) ∨
    (reader.acc.buf.length = frameLen ∧
      reader.advance = (.returned reader.acc.buf,
        { reader with acc := { reader.acc with buf := [] }, awaiting := false })) := by
  by_cases short : reader.acc.buf.length < frameLen
  · left
    refine ⟨short, ?_⟩
    rw [advance, FrameAccumulator.nextFrame, if_pos (by omega), scratch]
    rfl
  · right
    have full : reader.acc.buf.length = frameLen := by omega
    refine ⟨full, ?_⟩
    rw [advance, FrameAccumulator.nextFrame, if_neg (by omega), List.take_of_length_le (by omega),
      List.drop_of_length_le (by omega)]

/-- The head of the loop with at most a frame held. -/
theorem advance_sound (size : reader.acc.frameLen = frameLen) (scratch : reader.scratch = frameLen)
    (fits : reader.acc.buf.length ≤ frameLen) (positive : 1 ≤ frameLen)
    (whole : done.flatten ++ (reader.acc.buf ++ reader.inner) = stream)
    (sizes : ∀ frame ∈ done, frame.length = frameLen) :
    Splits frameLen stream (done ++ frames [reader.advance.1]) reader.advance.2 ∧
      reader.advance.1.Sound frameLen stream done.length reader.advance.2 := by
  rcases advance_cases size scratch fits with ⟨short, waits⟩ | ⟨full, returns⟩
  · rw [waits]
    change Splits frameLen stream (done ++ []) _ ∧ _
    rw [List.append_nil]
    exact ⟨⟨size, scratch, whole, sizes, short⟩, by omega, rfl⟩
  · rw [returns]
    have length := Stream.length_flatten_of_size sizes
    have next : Splits frameLen stream (done ++ [reader.acc.buf])
        { reader with acc := { reader.acc with buf := [] }, awaiting := false } := by
      refine ⟨size, scratch, ?_, ?_, positive⟩
      · rw [List.flatten_append, List.flatten_singleton, List.nil_append, List.append_assoc]
        exact whole
      · intro frame member
        rcases List.mem_append.mp member with member | member
        · exact sizes frame member
        · rw [List.mem_singleton.mp member]
          exact full
    refine ⟨next, ?_, rfl, ?_⟩
    · rw [← whole, ← length, List.drop_left, List.take_left' full]
    · have inner := next.inner_eq
      rw [List.length_append, List.length_singleton] at inner
      exact inner

/-- A read takes no more than the frame that is being assembled has room for. -/
theorem length_taken (splits : Splits frameLen stream done reader) (extra : Nat) :
    reader.acc.buf.length + (reader.taken extra).length ≤ frameLen := by
  have below := splits.below
  rw [taken, splits.scratch, FrameAccumulator.pending, List.length_take]
  omega

/-- Only the end of the stream yields no bytes. -/
theorem taken_isEmpty (splits : Splits frameLen stream done reader) {extra : Nat}
    (empty : (reader.taken extra).isEmpty = true) : reader.inner = [] := by
  have below := splits.below
  have none := List.isEmpty_iff.mp empty
  have length := congrArg List.length none
  rw [taken, splits.scratch, FrameAccumulator.pending, List.length_take, List.length_nil] at length
  exact List.eq_nil_of_length_eq_zero (by omega)

theorem step_sound (positive : 1 ≤ frameLen) (splits : Splits frameLen stream done reader) (move : Move) :
    Splits frameLen stream (done ++ frames (reader.step move).1.toList) (reader.step move).2 ∧
      forall event, (reader.step move).1 = some event ->
        event.Sound frameLen stream done.length (reader.step move).2 := by
  have still (awaiting : Bool) : Splits frameLen stream (done ++ []) { reader with awaiting := awaiting } := by
    rw [List.append_nil]
    exact ⟨splits.size, splits.scratch, splits.whole, splits.sizes, splits.below⟩
  have same : Splits frameLen stream (done ++ []) reader := still reader.awaiting
  cases move with
  | call =>
      rw [step]
      split_ifs with waits
      · exact ⟨same, by simp⟩
      · have sound := advance_sound splits.size splits.scratch (Nat.le_of_lt splits.below) positive splits.whole
          splits.sizes
        refine ⟨sound.1, ?_⟩
        rintro event ⟨⟩
        exact sound.2
  | read extra =>
      rw [step]
      split_ifs with waits empty
      · have ended := taken_isEmpty splits empty
        refine ⟨still false, ?_⟩
        rintro event ⟨⟩
        have length := splits.length_stream
        have below : reader.pending < frameLen := splits.below
        rw [ended, List.length_nil] at length
        refine ⟨ended, ?_⟩
        rw [Nat.add_mul]
        omega
      · have fits := length_taken splits extra
        have whole : done.flatten ++ ((reader.acc.buf ++ reader.taken extra) ++
            reader.inner.drop (reader.taken extra).length) = stream := by
          have front : reader.taken extra ++ reader.inner.drop (reader.taken extra).length = reader.inner :=
            List.prefix_iff_eq_append.mp (List.take_prefix _ _)
          rw [List.append_assoc, front]
          exact splits.whole
        have sound := @advance_sound frameLen stream done { reader with
            inner := reader.inner.drop (reader.taken extra).length
            acc := reader.acc.push (reader.taken extra) }
          splits.size splits.scratch (by simpa [FrameAccumulator.push] using fits) positive whole splits.sizes
        refine ⟨sound.1, ?_⟩
        rintro event ⟨⟩
        exact sound.2
      · exact ⟨same, by simp⟩
  | readError =>
      rw [step]
      split_ifs with waits
      · refine ⟨still false, ?_⟩
        rintro event ⟨⟩
        trivial
      · exact ⟨same, by simp⟩
  | cancel =>
      rw [step]
      split_ifs with waits
      · refine ⟨still false, ?_⟩
        rintro event ⟨⟩
        trivial
      · exact ⟨same, by simp⟩

/-- A read that yields something is one turn of the loops that hold their accumulator themselves. -/
theorem step_read_eq_receive (splits : Splits frameLen stream done reader) (waits : reader.awaiting = true)
    {extra : Nat} (nonempty : (reader.taken extra).isEmpty = false) :
    (reader.step (.read extra)).2.acc = (reader.acc.receive (reader.taken extra)).2 ∧
      frames (reader.step (.read extra)).1.toList = (reader.acc.receive (reader.taken extra)).1.toList := by
  have room : reader.acc.room = reader.scratch - reader.acc.pending := by
    rw [FrameAccumulator.room, splits.size, splits.scratch]
  have fits : (reader.taken extra).take reader.acc.room = reader.taken extra := by
    apply List.take_of_length_le
    rw [taken, List.length_take, room]
    omega
  rw [step, if_pos waits, if_neg (by simp [nonempty]), FrameAccumulator.receive, fits, advance]
  cases received : (reader.acc.push (reader.taken extra)).nextFrame with
  | mk frame acc =>
      cases frame with
      | none => exact ⟨rfl, rfl⟩
      | some frame => exact ⟨rfl, rfl⟩

theorem run_splits (positive : 1 ≤ frameLen) (splits : Splits frameLen stream done reader) (moves : List Move) :
    Splits frameLen stream (done ++ frames (reader.run moves).1) (reader.run moves).2 := by
  induction moves generalizing reader done with
  | nil =>
      rw [run, frames, List.append_nil]
      exact splits
  | cons move rest ih =>
      have next := ih (step_sound positive splits move).1
      rw [run, frames_append, ← List.append_assoc]
      exact next

end Steps
end FrameReader

/-- However the stream is read and however often the future is dropped, the frames returned are the blocks of
the stream, no byte is lost or taken too early, a read is always offered room, and the end of the stream is
reported only inside a block. -/
theorem frame_reader_splits {frameLen : Nat} (positive : 1 ≤ frameLen) (stream : Bytes)
    (moves : List FrameReader.Move) :
    let events := ((FrameReader.new stream frameLen).run moves).1
    let reader := ((FrameReader.new stream frameLen).run moves).2
    let count := (FrameReader.frames events).length
    FrameReader.frames events = Stream.blocks frameLen stream count ∧
      count * frameLen + reader.pending ≤ stream.length ∧
      reader.inner = stream.drop (count * frameLen + reader.pending) ∧
      reader.pending < frameLen ∧
      forall (move : FrameReader.Move) (event : FrameReader.Event), (reader.step move).1 = some event ->
        event.Sound frameLen stream count (reader.step move).2 := by
  intro events reader count
  have splits : FrameReader.Splits frameLen stream (FrameReader.frames events) reader :=
    FrameReader.run_splits positive (FrameReader.splits_new positive stream) moves
  have length : stream.length = count * frameLen + reader.pending + reader.inner.length := splits.length_stream
  refine ⟨?_, by omega, splits.inner_eq, splits.below, ?_⟩
  · have blocks := @Stream.eq_blocks UInt8 frameLen _ (reader.acc.buf ++ reader.inner) splits.sizes
    rw [splits.whole] at blocks
    exact blocks
  · intro move
    exact (FrameReader.step_sound positive splits move).2

/-- Five bytes as frames of two, with a future dropped inside the first frame. -/
theorem frame_reader_splits_cancelled :
    FrameReader.frames ((FrameReader.new [1, 2, 3, 4, 5] 2).run
      [.call, .read 0, .cancel, .call, .read 7, .call, .read 7, .call, .read 0, .read 0]).1 = [[1, 2], [3, 4]] := by
  have count : (FrameReader.frames ((FrameReader.new [1, 2, 3, 4, 5] 2).run
      [.call, .read 0, .cancel, .call, .read 7, .call, .read 7, .call, .read 0, .read 0]).1).length = 2 := by
    decide
  have split := (frame_reader_splits (show 1 ≤ 2 by decide) [1, 2, 3, 4, 5]
    [.call, .read 0, .cancel, .call, .read 7, .call, .read 7, .call, .read 0, .read 0]).1
  rw [split, count]
  decide

end Wire
end QuietHop
