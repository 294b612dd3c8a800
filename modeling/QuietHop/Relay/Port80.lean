import Mathlib.Data.List.Infix
import Mathlib.Data.List.TakeWhile
import QuietHop.Wire.Payload

namespace QuietHop
namespace Relay
namespace Port80

open Lib Net Wire

/-!
# The redirect on port 80

`serve_redirect` reads at most 4096 bytes, stops at the first line feed, and answers with a 301
whose Location is the relay's hostname followed by the target of the request line.  A read may
bring any number of bytes, so the loop is run on the whole stream with the sizes of its reads.

The Location depends on the first line alone.  It stays on this host only where the target begins
with a slash: any other printable target is appended to the hostname as it stands.
-/

def maxRequestHead : Nat := 4096

/-- How one read of the socket goes.  A read that returns hands over some of what the peer sent,
at least one byte while there is any. -/
inductive Arrival where
  | ready (count : Nat)
  | failed (reason : String)
  | timedOut
  deriving DecidableEq, Repr

/-- `windows(4).any(|w| w == b"\r\n\r\n")`. -/
def hasBlankLine (buf : Bytes) : Bool :=
  buf.tails.any fun w => w.take 4 == [13, 10, 13, 10]

/-- The read loop, over what is left of the stream and what has been filled of the buffer.  `none`
is a loop that still waits for its next read. -/
def readHead : (stream filled : Bytes) -> List Arrival -> Option (Except String Bytes)
  | _, filled, [] => if filled.length = maxRequestHead then some (.ok filled) else none
  | stream, filled, arrival :: later =>
      if filled.length = maxRequestHead then some (.ok filled)
      else
        match arrival with
        | .failed reason => some (.error reason)
        | .timedOut => some (.error "request-line read timeout")
        | .ready count =>
            let read := min (max count 1) (min (maxRequestHead - filled.length) stream.length)
            if read = 0 then some (.ok filled)
            else if hasBlankLine (filled ++ stream.take read) then some (.ok (filled ++ stream.take read))
            else if (filled ++ stream.take read).contains 10 then some (.ok (filled ++ stream.take read))
            else readHead (stream.drop read) (filled ++ stream.take read) later

/-- The second of the parts that single spaces separate. -/
def requestTarget (line : Bytes) : Bytes :=
  ((line.splitOnP (· == 32))[1]?).getD [47]

def isPrintable (b : UInt8) : Bool :=
  0x21 ≤ b.toNat && b.toNat ≤ 0x7e

/-- The line without a carriage return at its end. -/
def stripReturn (line : Bytes) : Bytes :=
  if line.getLast? = some 13 then line.dropLast else line

def parseRequestPath (buf : Bytes) : String :=
  let line := stripReturn (buf.takeWhile (· ≠ 10))
  let target := requestTarget line
  if !target.all isPrintable then "/"
  else (String.fromUTF8? ⟨target.toArray⟩).getD "/"

def redirectBody : Bytes := asBytes "Redirecting to HTTPS\n"

def response (location : String) : String :=
  "HTTP/1.1 301 Moved Permanently\r\n" ++ s!"Location: {location}\r\n" ++
    "Content-Type: text/plain; charset=utf-8\r\n" ++ s!"Content-Length: {redirectBody.length}\r\n" ++
    "Connection: close\r\n" ++ "\r\n"

/-- A failure of `write_all` and how many bytes had been written by then. -/
abbrev WriteFault := Option (Nat × String)

def writeAll (bytes : Bytes) : WriteFault -> Bytes × Except String Unit
  | none => (bytes, .ok ())
  | some (count, reason) => (bytes.take count, .error reason)

structure Faults where
  response : WriteFault
  body : WriteFault
  shutdown : Option String

/-- What becomes of a connection.  An answer is its Location, the bytes written to the peer and
the result of the function. -/
inductive Served where
  | waiting
  | failed (reason : String)
  | answered (location : String) (written : Bytes) (result : Except String Unit)

/-- The part of `serve_redirect` after the read loop. -/
def answer (hostname : String) (buf : Bytes) (faults : Faults) : Served :=
  let path := parseRequestPath buf
  let location := "https://" ++ hostname ++ path
  match writeAll (asBytes (response location)) faults.response with
  | (head, .error reason) => .answered location head (.error reason)
  | (head, .ok ()) =>
      match writeAll redirectBody faults.body with
      | (body, .error reason) => .answered location (head ++ body) (.error reason)
      | (body, .ok ()) =>
          match faults.shutdown with
          | some reason => .answered location (head ++ body) (.error reason)
          | none => .answered location (head ++ body) (.ok ())

def serveRedirect (hostname : String) (stream : Bytes) (arrivals : List Arrival) (faults : Faults) : Served :=
  match readHead stream [] arrivals with
  | none => .waiting
  | some (.error reason) => .failed reason
  | some (.ok buf) => answer hostname buf faults

/-! ## The first line -/

/-- The first line of a stream, cut at the size of the buffer. -/
def firstLine (stream : Bytes) : Bytes :=
  (stream.take maxRequestHead).takeWhile (· ≠ 10)

/-- A buffer that shows the whole first line. -/
structure Shows (stream buf : Bytes) : Prop where
  front : buf <+: stream.take maxRequestHead
  whole : 10 ∈ buf ∨ buf = stream.take maxRequestHead

theorem takeWhile_append_of_mem {front : Bytes} (rest : Bytes) (ends : 10 ∈ front) :
    (front ++ rest).takeWhile (· ≠ 10) = front.takeWhile (· ≠ 10) := by
  induction front with
  | nil => cases ends
  | cons byte front ih =>
      by_cases feed : byte = 10
      · simp [feed]
      · have later : 10 ∈ front := by simpa [Ne.symm feed] using ends
        rw [List.cons_append, List.takeWhile_cons, List.takeWhile_cons, ih later]

theorem Shows.firstLine_eq {stream buf : Bytes} (shown : Shows stream buf) :
    buf.takeWhile (· ≠ 10) = firstLine stream := by
  rcases shown.front with ⟨rest, split⟩
  rcases shown.whole with ends | whole
  · rw [firstLine, ← split, takeWhile_append_of_mem rest ends]
  · rw [firstLine, whole]

theorem mem_of_hasBlankLine {buf : Bytes} (blank : hasBlankLine buf = true) : 10 ∈ buf := by
  rw [hasBlankLine, List.any_eq_true] at blank
  rcases blank with ⟨window, member, same⟩
  have inside : (10 : UInt8) ∈ window.take 4 := by
    rw [eq_of_beq same]
    decide
  exact ((List.mem_tails window buf).mp member).subset (List.mem_of_mem_take inside)

/-- A buffer that ended the loop with a line feed in it, or that is full or all there is. -/
theorem shows_of_mem {stream buf rest : Bytes} (split : buf ++ rest = stream) (short : buf.length ≤ maxRequestHead)
    (ends : 10 ∈ buf) : Shows stream buf := by
  refine ⟨?_, .inl ends⟩
  rw [← split]
  exact List.prefix_take_iff.mpr ⟨List.prefix_append buf rest, short⟩

theorem shows_of_full {stream buf rest : Bytes} (split : buf ++ rest = stream)
    (full : buf.length = maxRequestHead ∨ rest = [] ∧ buf.length ≤ maxRequestHead) : Shows stream buf := by
  have whole : buf = stream.take maxRequestHead := by
    rcases full with full | ⟨rfl, short⟩
    · rw [← split, List.take_left' full]
    · rw [← split, List.append_nil, List.take_of_length_le short]
  exact ⟨whole ▸ List.prefix_refl _, .inr whole⟩

/-- The loop ends with a buffer that shows the first line of the whole stream. -/
theorem shows_of_readHead {whole stream filled buf : Bytes} {arrivals : List Arrival}
    (split : filled ++ stream = whole) (short : filled.length ≤ maxRequestHead)
    (ran : readHead stream filled arrivals = some (.ok buf)) : Shows whole buf := by
  induction arrivals generalizing stream filled with
  | nil =>
      rw [readHead] at ran
      split_ifs at ran with full
      cases ran
      exact shows_of_full split (.inl full)
  | cons arrival later ih =>
      simp only [readHead] at ran
      split_ifs at ran with full
      · cases ran
        exact shows_of_full split (.inl full)
      · cases arrival with
        | failed reason => cases ran
        | timedOut => cases ran
        | ready count =>
            dsimp only at ran
            generalize amount : min (max count 1) (min (maxRequestHead - filled.length) stream.length) = read at ran
            have next : filled ++ stream.take read ++ stream.drop read = whole := by
              rw [List.append_assoc, List.take_append_drop, split]
            have fits : (filled ++ stream.take read).length ≤ maxRequestHead := by
              rw [List.length_append, List.length_take]
              omega
            split_ifs at ran with none blank feed
            · cases ran
              have empty : stream = [] := List.eq_nil_of_length_eq_zero (by omega)
              exact shows_of_full split (.inr ⟨empty, short⟩)
            · cases ran
              exact shows_of_mem next fits (mem_of_hasBlankLine blank)
            · cases ran
              exact shows_of_mem next fits (List.contains_iff_mem.mp feed)
            · exact ih next fits ran

/-- With reads that return, the loop ends by the time the stream does. -/
theorem readHead_ends {stream filled : Bytes} {arrivals : List Arrival}
    (ready : ∀ arrival ∈ arrivals, ∃ count, arrival = .ready count) (enough : stream.length < arrivals.length) :
    ∃ buf, readHead stream filled arrivals = some (.ok buf) := by
  induction arrivals generalizing stream filled with
  | nil => simp at enough
  | cons arrival later ih =>
      rcases List.forall_mem_cons.mp ready with ⟨⟨count, rfl⟩, others⟩
      rw [readHead]
      split_ifs with full
      · exact ⟨filled, rfl⟩
      · dsimp only
        generalize amount : min (max count 1) (min (maxRequestHead - filled.length) stream.length) = read
        split_ifs with none blank feed
        · exact ⟨_, rfl⟩
        · exact ⟨_, rfl⟩
        · exact ⟨_, rfl⟩
        · refine ih others ?_
          rw [List.length_drop]
          simp only [List.length_cons] at enough
          omega

/-! ## The path -/

/-- A path that keeps the redirect on its host. -/
def OnHost (path : String) : Prop :=
  (asBytes path).head? = some 47 ∧ ∀ b ∈ asBytes path, isPrintable b = true

/-- The target stays on the host: it begins with a slash, or it is replaced for a byte in it that
must not be reflected. -/
def StaysOnHost (line : Bytes) : Prop :=
  (requestTarget (stripReturn line)).head? = some 47 ∨ ∃ b ∈ requestTarget (stripReturn line), isPrintable b = false

theorem takeWhile_firstLine (stream : Bytes) : (firstLine stream).takeWhile (· ≠ 10) = firstLine stream :=
  List.takeWhile_idem

/-- The path is read off the first line. -/
theorem parseRequestPath_eq {stream buf : Bytes} (shown : Shows stream buf) :
    parseRequestPath buf = parseRequestPath (firstLine stream) := by
  simp only [parseRequestPath, shown.firstLine_eq, takeWhile_firstLine]

/-- What the path is, as bytes. -/
theorem asBytes_parseRequestPath {line : Bytes} (single : line.takeWhile (· ≠ 10) = line) :
    asBytes (parseRequestPath line) =
      if (requestTarget (stripReturn line)).all isPrintable then requestTarget (stripReturn line) else [47] := by
  simp only [parseRequestPath, single]
  cases printable : (requestTarget (stripReturn line)).all isPrintable with
  | false => rfl
  | true =>
      have ascii : ∀ b ∈ requestTarget (stripReturn line), b.toNat < 128 := by
        intro b member
        have bounds := List.all_eq_true.mp printable b member
        simp only [isPrintable, Bool.and_eq_true, decide_eq_true_eq] at bounds
        omega
      have bytes := asBytes_ofAscii ascii
      have read := ConnectPayload.fromUTF8?_asBytes (ofAscii (requestTarget (stripReturn line)))
      rw [bytes] at read
      simp only [Bool.not_true, Bool.false_eq_true, if_false, read, Option.getD_some, bytes, if_true]

theorem onHost_iff {line : Bytes} (single : line.takeWhile (· ≠ 10) = line) :
    OnHost (parseRequestPath line) ↔ StaysOnHost line := by
  rw [OnHost, asBytes_parseRequestPath single, StaysOnHost]
  cases printable : (requestTarget (stripReturn line)).all isPrintable with
  | false =>
      have replaced : ∃ b ∈ requestTarget (stripReturn line), isPrintable b = false := by
        simpa using List.all_eq_false.mp printable
      exact ⟨fun _ => .inr replaced, fun _ => ⟨rfl, by simp [isPrintable]⟩⟩
  | true =>
      have all := List.all_eq_true.mp printable
      simp only [if_true]
      constructor
      · rintro ⟨slash, -⟩
        exact .inl slash
      · rintro (slash | ⟨b, member, odd⟩)
        · exact ⟨slash, all⟩
        · rw [all b member] at odd
          cases odd

/-- What an answer is made of. -/
theorem answer_eq (hostname : String) (buf : Bytes) (faults : Faults) :
    ∃ written result, answer hostname buf faults =
        .answered ("https://" ++ hostname ++ parseRequestPath buf) written result ∧
      written <+: asBytes (response ("https://" ++ hostname ++ parseRequestPath buf)) ++ redirectBody := by
  rcases faults with ⟨_ | ⟨count, reason⟩, _ | ⟨bodyCount, bodyReason⟩, _ | shutdownReason⟩
  · exact ⟨_, _, rfl, List.prefix_refl _⟩
  · exact ⟨_, _, rfl, List.prefix_refl _⟩
  · exact ⟨_, _, rfl, List.prefix_append_right_inj _ |>.mpr (List.take_prefix _ _)⟩
  · exact ⟨_, _, rfl, List.prefix_append_right_inj _ |>.mpr (List.take_prefix _ _)⟩
  all_goals exact ⟨_, _, rfl, (List.take_prefix _ _).trans (List.prefix_append _ _)⟩

/-- Where the redirect goes.  With reads that return it answers, and whatever way the stream is
split, the Location of an answer is the hostname followed by the path of the stream's first line.
That path begins with a slash and is printable exactly when the target of the line begins with a
slash or is replaced for a byte in it. -/
theorem redirect_stays_iff (hostname : String) (stream : Bytes) (arrivals : List Arrival) (faults : Faults) :
    ((∀ arrival ∈ arrivals, ∃ count, arrival = .ready count) -> stream.length < arrivals.length ->
      ∃ location written result, serveRedirect hostname stream arrivals faults = .answered location written result) ∧
    forall location written result, serveRedirect hostname stream arrivals faults = .answered location written result ->
      location = "https://" ++ hostname ++ parseRequestPath (firstLine stream) ∧
      written <+: asBytes (response location) ++ redirectBody ∧
      ((∃ path, location = "https://" ++ hostname ++ path ∧ OnHost path) ↔ StaysOnHost (firstLine stream)) := by
  constructor
  · intro ready enough
    rcases @readHead_ends stream [] arrivals ready enough with ⟨buf, read⟩
    rcases answer_eq hostname buf faults with ⟨written, result, answered, -⟩
    refine ⟨"https://" ++ hostname ++ parseRequestPath buf, written, result, ?_⟩
    simp only [serveRedirect, read, answered]
  · intro location written result served
    rw [serveRedirect] at served
    split at served
    · cases served
    · cases served
    · next buf read =>
        rcases answer_eq hostname buf faults with ⟨sent, ended, answered, front⟩
        rw [answered] at served
        cases served
        have shown : Shows stream buf := shows_of_readHead (List.nil_append stream) (Nat.zero_le _) read
        rw [parseRequestPath_eq shown] at front ⊢
        refine ⟨rfl, front, ?_⟩
        rw [← onHost_iff (takeWhile_firstLine stream)]
        constructor
        · rintro ⟨path, same, onHost⟩
          rwa [String.append_right_inj _ |>.mp same]
        · intro onHost
          exact ⟨_, rfl, onHost⟩

/-- A target without its slash continues the name of the host. -/
theorem redirect_leaves_host :
    ∃ written, serveRedirect "relay.example" (asBytes "GET .evil.example/ HTTP/1.1\r\n") [.ready 4096]
        ⟨none, none, none⟩ = .answered "https://relay.example.evil.example/" written (.ok ()) ∧
      ¬ ∃ path, "https://relay.example.evil.example/" = "https://" ++ "relay.example" ++ path ∧ OnHost path := by
  have split : "https://relay.example.evil.example/" = "https://" ++ "relay.example" ++ ".evil.example/" := by
    decide +kernel
  have read : readHead (asBytes "GET .evil.example/ HTTP/1.1\r\n") [] [.ready 4096] =
      some (.ok (asBytes "GET .evil.example/ HTTP/1.1\r\n")) := by decide +kernel
  have path : parseRequestPath (asBytes "GET .evil.example/ HTTP/1.1\r\n") = ".evil.example/" := by decide +kernel
  refine ⟨asBytes (response "https://relay.example.evil.example/") ++ redirectBody, ?_, ?_⟩
  · simp only [serveRedirect, read, answer, path, ← split, writeAll]
  · rintro ⟨other, same, slash, -⟩
    rw [split] at same
    rw [← (String.append_right_inj _).mp same] at slash
    revert slash
    decide +kernel

end Port80
end Relay
end QuietHop
