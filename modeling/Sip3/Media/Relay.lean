import Sip3.Platform
import Sip3.Semantics.Trace
import Mathlib.Logic.Function.Basic

/-!
# The relay of one media stream

`media.rs`: two tasks run `run_relay_loop`, one for each socket of the stream. A task
stores the source of every packet it receives as the address learned for its socket, and
forwards the packet through the other socket to the address learned there.
-/

namespace Sip3.Relay

open Semantics

/-- The sockets of a stream: the callee sends to `relay_a` and the caller to `relay_b`. -/
inductive Side where
  | a
  | b
  deriving DecidableEq

/-- The socket a task forwards through. -/
def Side.other : Side → Side
  | a => b
  | b => a

abbrev Packet := List UInt8

/-- The size of the receive buffer; a longer datagram is cut. -/
def rtpBufSize : Nat := 8192

/-- Where a task is in its loop. -/
inductive Position where
  | receiving
  | forwarding (packet : Packet)
  | ended
  deriving DecidableEq

/-- A packet sent out of a socket. -/
structure Sending where
  socket : Side
  dst : SocketAddr
  packet : Packet
  deriving DecidableEq

/-- A `MediaStreamSession` with its two tasks. The address learned for `relay_a` is
`callee_rtp`, and the one for `relay_b` is `caller_rtp`. -/
structure Stream where
  learned : Side → Option SocketAddr
  task : Side → Position
  sent : List Sending

/-- A stream as `allocate_stream` returns it. -/
def Stream.idle : Stream := ⟨fun _ => none, fun _ => .receiving, []⟩

/-- What happens on a stream. -/
inductive Event where
  /-- A packet is received, and its source is stored under the lock. -/
  | receive (side : Side) (src : SocketAddr) (packet : Packet)
  /-- `recv_from` fails, which ends the loop. -/
  | fail (side : Side)
  /-- The peer is read under its lock, and the packet is sent to it. -/
  | forward (side : Side)
  deriving DecidableEq

/-- One step of `run_relay_loop` of the task for a socket. -/
def Stream.step (stream : Stream) : Event → Option Stream
  | .receive side src packet =>
    match stream.task side with
    | .receiving => some { stream with
        learned := Function.update stream.learned side (some src)
        task := Function.update stream.task side (.forwarding (packet.take rtpBufSize)) }
    | _ => none
  | .fail side =>
    match stream.task side with
    | .receiving => some { stream with task := Function.update stream.task side .ended }
    | _ => none
  | .forward side =>
    match stream.task side with
    | .forwarding packet => some { stream with
        task := Function.update stream.task side .receiving
        sent := stream.sent ++
          ((stream.learned side.other).map fun dst => ⟨side.other, dst, packet⟩).toList }
    | _ => none

/-- A run of a stream. -/
abbrev Stream.Run (events : List Event) (stream : Stream) : Prop :=
  Trace Stream.step Stream.idle events stream

/-- The source of a packet that is received on a socket. -/
def Event.source (side : Side) : Event → Option SocketAddr
  | .receive target src _ => if target = side then some src else none
  | .fail _ | .forward _ => none

/-- The sources of the packets received on a socket, in order. -/
def arrivals (side : Side) (events : List Event) : List SocketAddr :=
  events.filterMap (Event.source side)

/-- What one step does to the address learned for a socket, and to what is sent out of it. -/
theorem Stream.step_cases {before after : Stream} {event : Event}
    (taken : before.step event = some after) (side : Side) :
    after.learned side = (event.source side).or (before.learned side) ∧
      ∃ sent, after.sent = before.sent ++ sent ∧
        ∀ sending ∈ sent, before.learned sending.socket = some sending.dst := by
  cases event with
  | receive target src packet =>
    simp only [Stream.step] at taken
    split at taken
    · cases taken
      refine ⟨?_, [], (List.append_nil _).symm, nofun⟩
      by_cases own : target = side
      · subst own
        simp [Event.source]
      · simp [Event.source, own, Function.update_of_ne (Ne.symm own)]
    · cases taken
  | fail target =>
    simp only [Stream.step] at taken
    split at taken
    · cases taken
      exact ⟨rfl, [], (List.append_nil _).symm, nofun⟩
    · cases taken
  | forward target =>
    simp only [Stream.step] at taken
    split at taken
    · cases taken
      refine ⟨rfl, _, rfl, fun sending member => ?_⟩
      obtain ⟨dst, found, rfl⟩ := Option.map_eq_some_iff.mp (Option.mem_toList.mp member)
      exact found
    · cases taken

variable {events : List Event} {stream : Stream}

/-- The address learned for a socket is the source of the last packet. -/
theorem Stream.learned_eq (run : Run events stream) (side : Side) :
    stream.learned side = (arrivals side events).getLast? := by
  rw [run.lastWritten fun taken => (Stream.step_cases taken side).1]
  exact Option.or_none

/-- What is sent out of a socket goes to the source of a packet received on it. -/
theorem Stream.dst_mem_arrivals (run : Run events stream) {sending : Sending}
    (sent : sending ∈ stream.sent) : sending.dst ∈ arrivals sending.socket events := by
  obtain initial | ⟨earlier, before, part, prior, known⟩ :=
    run.putOut (fun taken => (Stream.step_cases taken .a).2) sent
  · cases initial
  · rw [Stream.learned_eq prior] at known
    exact (part.filterMap _).subset (List.mem_of_getLast? known)

end Sip3.Relay
