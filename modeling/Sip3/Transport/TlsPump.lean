import Sip3.Platform

/-!
# The pump of a TLS connection

`pump_registered_stream` selects between reading the next message and taking an
outbound one. The pending read is a future with local buffers; when the outbound
branch completes first, the future is dropped with everything it has consumed,
while bytes it has not consumed stay in the reader.

`frames` is the reference: the messages in a byte stream, as one undisturbed
reader finds them. Writes to the peer are taken to succeed.
-/

namespace Sip3

open Text

namespace TlsPump

/-- The local buffers of `read_next_sip_message`. -/
inductive Reader where
  | headers (raw : Str) (line : List UInt8)
  | body (raw : Str) (contentLength : Nat) (got : List UInt8)
  deriving DecidableEq

/-- A read future that has consumed nothing. -/
def Reader.fresh : Reader :=
  .headers [] []

/-- Why the pump stops. -/
inductive Ending where
  | endOfStream
  | invalidUtf8
  | capacityOverflow
  deriving DecidableEq

/-- What one more byte does to a read. -/
inductive Fed where
  | pending (reader : Reader)
  | message (raw : Str)
  | stop (ending : Ending)

/-- `extract_content_length`. -/
def extractContentLength (platform : Platform) (headers : Str) : Nat :=
  go (Str.lines headers)
where
  go : List Str → Nat
    | [] => 0
    | line :: rest =>
      let lower := platform.toLowercase line
      if Str.startsWith lower "content-length:".toList ∨ Str.startsWith lower "l:".toList then
        match Str.splitOnce ':' line with
        | none => go rest
        | some (_, value) =>
          match Str.parseUnsigned (2 ^ 64) (Str.trim value) with
          | none => go rest
          | some length => length
      else go rest

/-- The header block is complete: skip it if it is blank, else read its body. A
body length beyond `isize::MAX` panics in the allocation. -/
def headersDone (platform : Platform) (raw : Str) : Fed :=
  if Str.trim raw = [] then .pending .fresh
  else
    let contentLength := extractContentLength platform raw
    if 2 ^ 63 ≤ contentLength then .stop .capacityOverflow
    else if contentLength = 0 then .message (raw ++ fromUtf8Lossy [])
    else .pending (.body raw contentLength [])

/-- One byte consumed by the read future. -/
def Reader.feed (platform : Platform) : Reader → UInt8 → Fed
  | .headers raw line, byte =>
    let line := line ++ [byte]
    if byte = 0x0A then
      match fromUtf8 line with
      | none => .stop .invalidUtf8
      | some text =>
        if text = "\r\n".toList ∨ text = "\n".toList then headersDone platform (raw ++ text)
        else .pending (.headers (raw ++ text) [])
    else .pending (.headers raw line)
  | .body raw contentLength got, byte =>
    let got := got ++ [byte]
    if got.length = contentLength then .message (raw ++ fromUtf8Lossy got)
    else .pending (.body raw contentLength got)

/-- The connection as the pump sees it: bytes that have arrived, those of them not
yet consumed, the local buffers of the pending read, the messages handed to
`process_inbound`, and those written for the outbound queue. -/
structure Pump where
  arrived : List UInt8
  buffered : List UInt8
  closed : Bool
  reader : Reader
  delivered : List Str
  written : List Str
  ending : Option Ending
  deriving DecidableEq

/-- A connection on which nothing has happened. -/
def Pump.start : Pump where
  arrived := []
  buffered := []
  closed := false
  reader := .fresh
  delivered := []
  written := []
  ending := none

/-- What can happen next on the connection. -/
inductive Turn where
  | arrive (piece : List UInt8)
  | hangUp
  | poll
  | outbound (message : Str)

/-- Polling the read: bytes are consumed until a message is complete, the read
fails, or nothing is left. -/
def Pump.read (platform : Platform) (pump : Pump) : Reader → List UInt8 → Pump
  | reader, [] =>
    { pump with
      buffered := []
      reader := reader
      ending := if pump.closed then some .endOfStream else none }
  | reader, byte :: rest =>
    match reader.feed platform byte with
    | .pending next => pump.read platform next rest
    | .message raw =>
      { pump with buffered := rest, reader := .fresh, delivered := pump.delivered ++ [raw] }
    | .stop ending => { pump with buffered := rest, reader := .fresh, ending := some ending }

/-- One turn. When the outbound branch wins, the pending read is dropped. -/
def Pump.step (platform : Platform) (pump : Pump) : Turn → Pump
  | .arrive piece =>
    if pump.closed then pump
    else { pump with arrived := pump.arrived ++ piece, buffered := pump.buffered ++ piece }
  | .hangUp => { pump with closed := true }
  | .poll => if pump.ending = none then pump.read platform pump.reader pump.buffered else pump
  | .outbound message =>
    if pump.ending = none then
      { pump with reader := .fresh, written := pump.written ++ [message] }
    else pump

/-- A whole run. -/
def run (platform : Platform) (turns : List Turn) : Pump :=
  turns.foldl (Pump.step platform) .start

/-- Everything that arrived has been read, or the pump has stopped. -/
def Pump.Drained (pump : Pump) : Prop :=
  pump.buffered = [] ∨ pump.ending ≠ none

instance (pump : Pump) : Decidable pump.Drained :=
  inferInstanceAs (Decidable (_ ∨ _))

/-- An outbound message is only taken while the pending read holds no byte of an
unfinished message. -/
def AtBoundary (pump : Pump) : Turn → Prop
  | .outbound _ => pump.reader = .fresh
  | _ => True

instance (pump : Pump) (turn : Turn) : Decidable (AtBoundary pump turn) :=
  match turn with
  | .arrive _ => .isTrue trivial
  | .hangUp => .isTrue trivial
  | .poll => .isTrue trivial
  | .outbound _ => inferInstanceAs (Decidable (pump.reader = .fresh))

/-- Every turn from here on is taken at such a moment. -/
def UndisturbedFrom (platform : Platform) : Pump → List Turn → Prop
  | _, [] => True
  | pump, turn :: rest =>
    AtBoundary pump turn ∧ UndisturbedFrom platform (pump.step platform turn) rest

/-- Every turn of the run is taken at such a moment. -/
def Undisturbed (platform : Platform) (turns : List Turn) : Prop :=
  UndisturbedFrom platform .start turns

/-- The progress of a reader that is never interrupted. -/
structure Progress where
  reader : Reader
  delivered : List Str
  ending : Option Ending

/-- One byte of an uninterrupted stream. -/
def Progress.take (platform : Platform) (progress : Progress) (byte : UInt8) : Progress :=
  if progress.ending = none then
    match progress.reader.feed platform byte with
    | .pending next => { progress with reader := next }
    | .message raw => { progress with reader := .fresh, delivered := progress.delivered ++ [raw] }
    | .stop ending => { progress with reader := .fresh, ending := some ending }
  else progress

/-- The uninterrupted reader after a byte stream. -/
def Progress.after (platform : Platform) (bytes : List UInt8) : Progress :=
  bytes.foldl (Progress.take platform) ⟨.fresh, [], none⟩

/-- The messages in a byte stream. -/
def frames (platform : Platform) (bytes : List UInt8) : List Str :=
  (Progress.after platform bytes).delivered

section Reference

variable (platform : Platform)

theorem Progress.after_append (front back : List UInt8) :
    Progress.after platform (front ++ back) =
      back.foldl (Progress.take platform) (Progress.after platform front) :=
  List.foldl_append

theorem Progress.foldl_take_ended {progress : Progress} (ended : progress.ending ≠ none)
    (bytes : List UInt8) : bytes.foldl (Progress.take platform) progress = progress := by
  induction bytes with
  | nil => rfl
  | cons byte rest ih =>
    have still : progress.take platform byte = progress := if_neg ended
    rw [List.foldl_cons, still, ih]

end Reference

/-- The pump has read as far into the stream as the reference, and stands where
the reference does unless it has stopped. -/
structure Tracks (platform : Platform) (consumed : List UInt8) (pump : Pump) : Prop where
  split : pump.arrived = consumed ++ pump.buffered
  delivered : pump.delivered = frames platform consumed
  running : pump.ending = none →
    Progress.after platform consumed = ⟨pump.reader, pump.delivered, none⟩
  stopped : pump.ending ≠ none →
    (Progress.after platform consumed).ending ≠ none ∨ pump.closed = true ∧ pump.buffered = []

variable {pump : Pump} {consumed : List UInt8} {turns : List Turn}

section

variable {platform : Platform}

theorem Tracks.read {rest : List UInt8} {reader : Reader} (active : pump.ending = none)
    (split : pump.arrived = consumed ++ rest)
    (running : Progress.after platform consumed = ⟨reader, pump.delivered, none⟩) :
    ∃ more, Tracks platform more (pump.read platform reader rest) := by
  induction rest generalizing reader consumed with
  | nil =>
    refine ⟨consumed, ⟨split, ?_, ?_, ?_⟩⟩
    · rw [frames, running]
      rfl
    · exact fun _ => running
    · intro ended
      cases closed : pump.closed with
      | true => exact .inr ⟨closed, rfl⟩
      | false => simp [Pump.read, closed] at ended
  | cons byte rest ih =>
    have taken : Progress.after platform (consumed ++ [byte]) =
        Progress.take platform ⟨reader, pump.delivered, none⟩ byte := by
      rw [Progress.after_append, running]
      rfl
    have splitOn : pump.arrived = (consumed ++ [byte]) ++ rest := by simpa using split
    cases fed : reader.feed platform byte with
    | pending next =>
      have reached : Progress.after platform (consumed ++ [byte]) =
          ⟨next, pump.delivered, none⟩ := by simp [taken, Progress.take, fed]
      simpa [Pump.read, fed] using ih splitOn reached
    | message raw =>
      have reached : Progress.after platform (consumed ++ [byte]) =
          ⟨.fresh, pump.delivered ++ [raw], none⟩ := by simp [taken, Progress.take, fed]
      refine ⟨consumed ++ [byte], ?_⟩
      simp only [Pump.read, fed]
      refine ⟨splitOn, ?_, fun _ => reached, fun ended => absurd active ended⟩
      rw [frames, reached]
    | stop ending =>
      have reached : Progress.after platform (consumed ++ [byte]) =
          ⟨.fresh, pump.delivered, some ending⟩ := by simp [taken, Progress.take, fed]
      refine ⟨consumed ++ [byte], ?_⟩
      simp only [Pump.read, fed]
      refine ⟨splitOn, ?_, fun running => ?_, fun _ => ?_⟩
      · rw [frames, reached]
      · simp at running
      · simp [reached]

/-- A turn taken at a message boundary keeps the pump in step with the reference. -/
theorem Tracks.step (tracks : Tracks platform consumed pump) {turn : Turn}
    (boundary : AtBoundary pump turn) : ∃ more, Tracks platform more (pump.step platform turn) := by
  cases turn with
  | arrive piece =>
    refine ⟨consumed, ?_⟩
    cases closed : pump.closed with
    | true => simpa [Pump.step, closed] using tracks
    | false =>
      simp only [Pump.step, closed, Bool.false_eq_true, if_false]
      refine ⟨by simp [tracks.split], tracks.delivered, tracks.running, fun ended => ?_⟩
      rcases tracks.stopped ended with reference | ⟨shut, _⟩
      · exact .inl reference
      · rw [closed] at shut
        cases shut
  | hangUp =>
    refine ⟨consumed, ⟨tracks.split, tracks.delivered, tracks.running, fun ended => ?_⟩⟩
    rcases tracks.stopped ended with reference | ⟨_, empty⟩
    · exact .inl reference
    · exact .inr ⟨rfl, empty⟩
  | poll =>
    by_cases active : pump.ending = none
    · simp only [Pump.step, if_pos active]
      exact Tracks.read active tracks.split (tracks.running active)
    · exact ⟨consumed, by simpa only [Pump.step, if_neg active] using tracks⟩
  | outbound message =>
    refine ⟨consumed, ?_⟩
    by_cases active : pump.ending = none
    · -- The dropped future is as fresh as the one that replaces it.
      have fresh : pump.reader = .fresh := boundary
      simp only [Pump.step, if_pos active]
      exact ⟨tracks.split, tracks.delivered, fun _ => fresh ▸ tracks.running active,
        fun ended => absurd active ended⟩
    · simpa only [Pump.step, if_neg active] using tracks

/-- Along undisturbed turns the pump stays in step with the reference. -/
theorem Tracks.foldl (tracks : Tracks platform consumed pump)
    (undisturbed : UndisturbedFrom platform pump turns) :
    ∃ more, Tracks platform more (turns.foldl (Pump.step platform) pump) := by
  induction turns generalizing pump consumed with
  | nil => exact ⟨consumed, tracks⟩
  | cons turn rest ih =>
    obtain ⟨boundary, later⟩ := undisturbed
    obtain ⟨more, stepped⟩ := tracks.step boundary
    exact ih stepped later

/-- An undisturbed run stays in step with the reference. -/
theorem tracks_run (undisturbed : Undisturbed platform turns) :
    ∃ consumed, Tracks platform consumed (run platform turns) := by
  have start : Tracks platform [] .start :=
    ⟨rfl, rfl, fun _ => rfl, fun ended => absurd rfl ended⟩
  exact start.foldl undisturbed

/-- An undisturbed run that has read everything has delivered the messages of the
stream. -/
theorem delivered_eq_frames (undisturbed : Undisturbed platform turns)
    (drained : (run platform turns).Drained) :
    (run platform turns).delivered = frames platform (run platform turns).arrived := by
  obtain ⟨consumed, tracks⟩ := tracks_run undisturbed
  rw [tracks.delivered, tracks.split]
  rcases drained with empty | ended
  · rw [empty, List.append_nil]
  · rcases tracks.stopped ended with reference | ⟨_, empty⟩
    · rw [frames, frames, Progress.after_append, Progress.foldl_take_ended platform reference]
    · rw [empty, List.append_nil]

end

/-- Two runs over the same bytes hand the same messages to `process_inbound`. -/
def SameFraming (platform : Platform) (first second : List Turn) : Prop :=
  (run platform first).arrived = (run platform second).arrived →
    (run platform first).Drained → (run platform second).Drained →
      (run platform first).delivered = (run platform second).delivered

/-- Framing does not depend on the outbound traffic in runs that take outbound
messages only at message boundaries. -/
theorem sameFraming_of_undisturbed (platform : Platform) (first second : List Turn)
    (firstUndisturbed : Undisturbed platform first)
    (secondUndisturbed : Undisturbed platform second) : SameFraming platform first second := by
  intro arrived firstDrained secondDrained
  rw [delivered_eq_frames firstUndisturbed firstDrained,
    delivered_eq_frames secondUndisturbed secondDrained, arrived]

/-- The headers of a request without a body, in two pieces. -/
def optionsStart : List UInt8 :=
  Str.encode "OPTIONS sip:a SIP/2.0\r\n".toList

/-- The blank line that ends them. -/
def optionsEnd : List UInt8 :=
  Str.encode "\r\n".toList

/-- Outbound messages before and after a request leave its framing alone. -/
theorem sameFraming_between_messages :
    let quiet : List Turn := [.arrive (optionsStart ++ optionsEnd), .poll]
    let busy : List Turn := [.outbound [], .arrive optionsStart, .poll, .arrive optionsEnd, .poll,
      .outbound []]
    Undisturbed (.ascii fun _ => none) quiet ∧ Undisturbed (.ascii fun _ => none) busy ∧
      SameFraming (.ascii fun _ => none) quiet busy := by
  intro quiet busy
  have quietUndisturbed : Undisturbed (.ascii fun _ => none) quiet := ⟨trivial, trivial, trivial⟩
  have busyUndisturbed : Undisturbed (.ascii fun _ => none) busy :=
    ⟨rfl, trivial, trivial, trivial, trivial, by decide +kernel, trivial⟩
  exact ⟨quietUndisturbed, busyUndisturbed,
    sameFraming_of_undisturbed _ quiet busy quietUndisturbed busyUndisturbed⟩

/-- An outbound message between the two pieces of a request loses the request. -/
theorem framing_lost_by_outbound :
    ¬ SameFraming (.ascii fun _ => none)
      [.arrive optionsStart, .poll, .arrive optionsEnd, .poll]
      [.arrive optionsStart, .poll, .outbound [], .arrive optionsEnd, .poll] := by
  unfold SameFraming
  decide +kernel

end TlsPump

end Sip3
