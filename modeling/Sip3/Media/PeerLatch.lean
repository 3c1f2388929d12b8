import Sip3.Media.Mixer
import Sip3.Media.Relay

/-!
# Learned media peers

The comments of `media.rs` and `conference_media.rs` say that the address of an endpoint is
learned from its first packet. Both receive loops store the source of every packet, so the
learned address, and with it the audio that is sent to the endpoint, follows the last packet,
whoever sent it. It stays that of the first packet as long as no one else sends to the socket.
-/

namespace Sip3

/-- All packets come from the source of the first one. -/
def OneSource (sources : List SocketAddr) : Prop :=
  ∀ first rest, sources = first :: rest → ∀ src ∈ rest, src = first

theorem OneSource.eq_first {first src : SocketAddr} {rest : List SocketAddr}
    (one : OneSource (first :: rest)) (member : src ∈ first :: rest) : src = first := by
  rcases List.mem_cons.mp member with rfl | later
  · rfl
  · exact one first rest rfl src later

/-- The last of packets that all come from one source comes from the source of the first one. -/
theorem OneSource.getLast? {first : SocketAddr} {rest : List SocketAddr}
    (one : OneSource (first :: rest)) : (first :: rest).getLast? = some first := by
  rw [List.getLast?_eq_some_getLast (List.cons_ne_nil first rest),
    one.eq_first (List.getLast_mem _)]

/-- The peer of a relay socket is latched: it is the source of the first packet received on the
socket, and everything sent out of the socket went there. -/
def Relay.Stream.Latched (side : Relay.Side) (first : SocketAddr) (stream : Relay.Stream) : Prop :=
  stream.learned side = some first ∧
    ∀ sending ∈ stream.sent, sending.socket = side → sending.dst = first

/-- The peer of a participant's socket is latched. -/
def Mixer.MixedRoom.Latched (id : ParticipantId) (first : SocketAddr)
    (room : Mixer.MixedRoom) : Prop :=
  room.peer id = some first ∧ ∀ sending ∈ room.sent, sending.receiver = id → sending.dst = first

/-- On a relay socket and on the socket of a conference participant the peer is latched from the
first packet on, as long as every packet that arrives at the socket comes from the source of the
first one. -/
theorem media_peer_latched (relayed : List Relay.Event) (stream : Relay.Stream)
    (mixed : List Mixer.Event) (start room : Mixer.MixedRoom) :
    (Relay.Stream.Run relayed stream →
      ∀ side first rest, Relay.arrivals side relayed = first :: rest →
        OneSource (Relay.arrivals side relayed) → stream.Latched side first) ∧
    (start.Run mixed room →
      start.sent = [] → ∀ id first rest, start.peer id = none →
        Mixer.arrivals id mixed = first :: rest → OneSource (Mixer.arrivals id mixed) →
          room.Latched id first) := by
  constructor
  · intro run side first rest arrived one
    rw [arrived] at one
    refine ⟨by rw [Relay.Stream.learned_eq run, arrived, one.getLast?], ?_⟩
    rintro sending sent rfl
    have member := Relay.Stream.dst_mem_arrivals run sent
    exact one.eq_first (arrived ▸ member)
  · intro run quiet id first rest unknown arrived one
    rw [arrived] at one
    refine ⟨by rw [Mixer.MixedRoom.peer_eq run, arrived, one.getLast?, Option.some_or], ?_⟩
    rintro sending sent rfl
    have member := Mixer.MixedRoom.dst_mem_arrivals run quiet unknown sent
    exact one.eq_first (arrived ▸ member)

namespace PeerLatch

def endpoint : SocketAddr := ⟨.v4 #v[203, 0, 113, 5], 4000⟩

def caller : SocketAddr := ⟨.v4 #v[192, 0, 2, 7], 5000⟩

def stranger : SocketAddr := ⟨.v4 #v[198, 51, 100, 9], 666⟩

/-- A packet of twelve bytes. -/
def packet : List UInt8 := List.replicate 12 0

/-- Packets on `relay_a`, and then one from the caller that is forwarded. -/
def relayed (sources : List SocketAddr) : List Relay.Event :=
  sources.flatMap (fun src => [.receive .a src packet, .forward .a]) ++
    [.receive .b caller packet, .forward .b]

/-- A room with one participant. -/
def room : Mixer.MixedRoom :=
  ⟨AList.singleton 0 (.joined ⟨40000, .pcmu, 0, some 101, false, none⟩ 0 0 0), [], [], []⟩

/-- Packets of the participant, and then a tick of the mixer. -/
def mixed (sources : List SocketAddr) : List Mixer.Event :=
  sources.map (fun src => .datagram 0 src packet 0) ++ [.tick [0] fun _ => false, .send]

/-- The third address was learned, and audio was sent to it. -/
def redirected (learned : Option SocketAddr) (sent : List SocketAddr) : Bool :=
  learned = some stranger ∧ stranger ∈ sent

end PeerLatch

open PeerLatch in
/-- Two packets of one endpoint, on a relay socket and on the socket of a participant. -/
theorem media_peer_latched_twice :
    (∃ stream, Relay.Stream.Run (relayed [endpoint, endpoint]) stream ∧
      stream.Latched .a endpoint) ∧
    ∃ after, room.Run (mixed [endpoint, endpoint]) after ∧ after.Latched 0 endpoint := by
  have one : OneSource [endpoint, endpoint] := by
    rintro first rest ⟨⟩
    simp
  constructor
  · obtain ⟨stream, played⟩ := Option.isSome_iff_exists.mp (show (Semantics.playTrace
      Relay.Stream.step .idle (relayed [endpoint, endpoint])).isSome by decide +kernel)
    have run := Semantics.trace_of_playTrace played
    exact ⟨stream, run, (media_peer_latched _ _ [] room room).1 run .a endpoint [endpoint]
      (by decide +kernel) one⟩
  · obtain ⟨after, played⟩ := Option.isSome_iff_exists.mp (show (Semantics.playTrace
      Mixer.MixedRoom.step room (mixed [endpoint, endpoint])).isSome by decide +kernel)
    have run := Semantics.trace_of_playTrace played
    exact ⟨after, run, (media_peer_latched [] .idle _ _ _).2 run rfl 0 endpoint [endpoint]
      (by decide +kernel) (by decide +kernel) one⟩

open PeerLatch in
/-- One packet of a third address after that of the endpoint redirects the audio to it, on a relay
socket and on the socket of a participant. -/
theorem media_peer_redirected :
    (∃ stream, Relay.Stream.Run (relayed [endpoint, stranger]) stream ∧
      Relay.arrivals .a (relayed [endpoint, stranger]) = [endpoint, stranger] ∧
        redirected (stream.learned .a)
          ((stream.sent.filter fun sending => sending.socket = .a).map (·.dst))) ∧
    ∃ after, room.Run (mixed [endpoint, stranger]) after ∧
      Mixer.arrivals 0 (mixed [endpoint, stranger]) = [endpoint, stranger] ∧
        redirected (after.peer 0)
          ((after.sent.filter fun sending => sending.receiver = 0).map (·.dst)) := by
  constructor
  · obtain ⟨stream, played, taken⟩ := (Option.any_eq_true _ _).mp (show (Semantics.playTrace
      Relay.Stream.step .idle (relayed [endpoint, stranger])).any (fun stream =>
        redirected (stream.learned .a)
          ((stream.sent.filter fun sending => sending.socket = .a).map (·.dst))) by decide +kernel)
    exact ⟨stream, Semantics.trace_of_playTrace played, by decide +kernel, taken⟩
  · obtain ⟨after, played, taken⟩ := (Option.any_eq_true _ _).mp (show (Semantics.playTrace
      Mixer.MixedRoom.step room (mixed [endpoint, stranger])).any (fun after =>
        redirected (after.peer 0)
          ((after.sent.filter fun sending => sending.receiver = 0).map (·.dst))) by decide +kernel)
    exact ⟨after, Semantics.trace_of_playTrace played, by decide +kernel, taken⟩

end Sip3
