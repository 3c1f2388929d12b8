import Sip3.Media.Relay

/-!
# What a relay delivers

Each task of a stream forwards the packets of its own socket through the other one, in the order
in which they were received. A packet goes to the address that the other socket has learned when
the task reads it, and is dropped when there is none.
-/

namespace Sip3.Relay

open List

/-- The packet that is received on a socket. -/
def Event.packet (side : Side) : Event → Option Packet
  | .receive target _ packet => if target = side then some packet else none
  | .fail _ | .forward _ => none

/-- The packets received on a socket, in order. -/
def received (side : Side) (events : List Event) : List Packet :=
  events.filterMap (Event.packet side)

/-- What the task of a socket does when it reads the address of its peer: the packet it received
last, and the address learned on the other socket until then. -/
def handling (side : Side) (past : List Event) : Packet × Option SocketAddr :=
  ((received side past).getLastD [], (arrivals side.other past).getLast?)

/-- The packets that the task of a socket has handled, each with the address it read. -/
def handled (side : Side) (events : List Event) : List (Packet × Option SocketAddr) :=
  (List.range events.length).filterMap fun time =>
    if events[time]? = some (.forward side) then some (handling side (events.take time)) else none

/-- The packet in the hands of a task. -/
def Position.packets : Position → List Packet
  | .forwarding packet => [packet]
  | .receiving | .ended => []

/-- The datagram that is sent for a packet out of a socket, if there is an address. -/
def sending (socket : Side) (fate : Packet × Option SocketAddr) : Option Sending :=
  fate.2.map fun dst => ⟨socket, dst, fate.1⟩

/-- What has become of the packets received on a socket: those handled and the one in hand are all
of them in order, and the datagrams sent out of the other socket are those of the handled ones. -/
structure Delivers (events : List Event) (stream : Stream) (side : Side) : Prop where
  order : (handled side events).map Prod.fst ++ (stream.task side).packets = received side events
  sent : stream.sent.filter (·.socket = side.other) =
    (handled side events).filterMap (sending side.other)

/-- Every datagram is no longer than the receive buffer. -/
def Short (events : List Event) : Prop :=
  ∀ side src packet, .receive side src packet ∈ events → packet.length ≤ rtpBufSize

section Steps

variable {events : List Event} {event : Event} {side : Side}

theorem received_concat : received side (events ++ [event]) =
    received side events ++ (event.packet side).toList := by
  rw [received, filterMap_append]
  cases heard : event.packet side <;> simp [received, heard]

theorem handled_concat : handled side (events ++ [event]) =
    handled side events ++ if event = .forward side then [handling side events] else [] := by
  have earlier : (range events.length).filterMap (fun time =>
      if (events ++ [event])[time]? = some (.forward side) then
        some (handling side ((events ++ [event]).take time)) else none) = handled side events := by
    refine filterMap_congr fun time member => ?_
    have inside := mem_range.mp member
    rw [getElem?_append_left inside, take_append_of_le_length inside.le]
  rw [handled, length_append, length_singleton, range_succ, filterMap_append,
    earlier]
  by_cases forwards : event = .forward side <;> simp [forwards]

/-- A step in which the task of this socket reads no address: it leaves what was sent, and puts
into hand what is received. -/
theorem Delivers.of_no_forward {before after : Stream} (delivers : Delivers events before side)
    (idle : event ≠ .forward side)
    (sent : after.sent.filter (·.socket = side.other) = before.sent.filter (·.socket = side.other))
    (hand : (after.task side).packets = (before.task side).packets ++ (event.packet side).toList) :
    Delivers (events ++ [event]) after side := by
  have same : handled side (events ++ [event]) = handled side events := by
    rw [handled_concat, if_neg idle, append_nil]
  constructor
  · rw [same, received_concat, ← delivers.order, hand, append_assoc]
  · rw [same, sent, delivers.sent]

/-- One step of either task. -/
theorem Delivers.step {before after : Stream} (prior : Stream.Run events before)
    (short : Short (events ++ [event])) (taken : before.step event = some after)
    (delivers : Delivers events before side) : Delivers (events ++ [event]) after side := by
  cases event with
  | receive target src packet =>
    have whole : packet.take rtpBufSize = packet :=
      take_of_length_le (short target src packet (by simp))
    simp only [Stream.step] at taken
    split at taken
    · next waiting =>
      cases taken
      refine delivers.of_no_forward (by simp) rfl ?_
      by_cases own : target = side
      · subst own
        simp [Event.packet, waiting, Position.packets, whole]
      · simp [Event.packet, own, Function.update_of_ne (Ne.symm own)]
    · cases taken
  | fail target =>
    simp only [Stream.step] at taken
    split at taken
    · next waiting =>
      cases taken
      refine delivers.of_no_forward (by simp) rfl ?_
      by_cases own : target = side
      · subst own
        simp [Event.packet, waiting, Position.packets]
      · simp [Event.packet, Function.update_of_ne (Ne.symm own)]
    · cases taken
  | forward target =>
    simp only [Stream.step] at taken
    split at taken
    · next packet holding =>
      cases taken
      by_cases own : target = side
      · subst own
        obtain ⟨order, sent⟩ := delivers
        -- The packet in hand is the one received last.
        have last : handling target events = (packet, before.learned target.other) := by
          rw [handling, ← order, holding, Stream.learned_eq prior]
          simp [Position.packets]
        constructor
        · rw [handled_concat, received_concat, if_pos rfl, last, ← order, holding]
          simp [Event.packet, Position.packets]
        · rw [handled_concat, if_pos rfl, last, filterMap_append, ← sent, filter_append]
          cases learned : before.learned target.other <;> simp [sending]
      · have other : target.other ≠ side.other := by
          cases target <;> cases side <;> first | exact absurd rfl own | decide
        refine delivers.of_no_forward (by simpa using own) ?_ ?_
        · rw [filter_append]
          cases before.learned target.other <;> simp [other]
        · simp [Event.packet, Function.update_of_ne (Ne.symm own)]
    · cases taken

end Steps

/-- In every run of a stream, on either socket: the packets handled and the one in hand are the
packets received, in order; each handled packet is sent once and unchanged out of the other socket
to the address learned there when it is read, or dropped when there is none; and nothing else is
sent out of the other socket. -/
theorem relay_delivers {events : List Event} {stream : Stream} (run : Stream.Run events stream)
    (short : Short events) (side : Side) : Delivers events stream side := by
  induction run with
  | start => exact ⟨rfl, rfl⟩
  | step prior taken ih =>
    have earlier : Short _ := fun side src packet member =>
      short side src packet (List.mem_append_left _ member)
    exact (ih earlier).step prior short taken

/-- A packet of the callee that is dropped, one of the caller, and one of the callee that is
forwarded to the caller. -/
theorem relay_delivers_both : ∃ stream, Delivers
    [.receive .a ⟨.v4 #v[10, 0, 0, 2], 7⟩ [1], .forward .a, .receive .b ⟨.v4 #v[10, 0, 0, 1], 9⟩ [2],
      .receive .a ⟨.v4 #v[10, 0, 0, 2], 7⟩ [3], .forward .a] stream .a ∧
    stream.sent = [⟨.b, ⟨.v4 #v[10, 0, 0, 1], 9⟩, [3]⟩] := by
  obtain ⟨stream, played, sent⟩ : ∃ stream, Semantics.playTrace Stream.step Stream.idle
      [.receive .a ⟨.v4 #v[10, 0, 0, 2], 7⟩ [1], .forward .a, .receive .b ⟨.v4 #v[10, 0, 0, 1], 9⟩ [2],
        .receive .a ⟨.v4 #v[10, 0, 0, 2], 7⟩ [3], .forward .a] = some stream ∧
      stream.sent = [⟨.b, ⟨.v4 #v[10, 0, 0, 1], 9⟩, [3]⟩] := ⟨_, rfl, by decide⟩
  refine ⟨stream, relay_delivers (Semantics.trace_of_playTrace played) ?_ .a, sent⟩
  intro side src packet member
  simp only [List.mem_cons, Event.receive.injEq, List.not_mem_nil, reduceCtorEq, false_or,
    or_false] at member
  rcases member with ⟨-, -, rfl⟩ | ⟨-, -, rfl⟩ | ⟨-, -, rfl⟩ <;> decide

end Sip3.Relay
