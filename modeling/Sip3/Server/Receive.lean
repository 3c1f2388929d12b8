import Sip3.Security.Acl
import Sip3.Semantics.Trace
import Sip3.Transport.TlsPump

/-!
# How messages reach the dispatcher

The receive loops of `server.rs`, `tcp_server.rs` and `ws_server.rs`, down to the call of
`process_sip_msg`. Datagrams go past the access control list and need a permit; connections are
accepted and read without a look at the list. The list is replaced by every reload.

Handshakes that fail accept no connection. Of a WebSocket connection the frames are given; how a
TLS connection cuts its bytes into messages is the pump of a TLS connection.
-/

namespace Sip3.Receive

open Text Semantics Security

/-- How a message is received. -/
inductive Transport where
  | udp
  | tls
  | ws
  | wss
  deriving DecidableEq

/-- A message that is given to `process_sip_msg`. -/
structure Received where
  transport : Transport
  src : SocketAddr
  raw : Str
  deriving DecidableEq

/-- `tungstenite::Message`, or an error of the stream. -/
inductive Frame where
  | text (text : Str)
  | binary (bytes : List UInt8)
  | ping
  | close
  | error
  | other
  deriving DecidableEq

/-- A WebSocket connection is plain or over TLS. -/
inductive WsKind where
  | ws
  | wss
  deriving DecidableEq

def WsKind.transport : WsKind → Transport
  | ws => .ws
  | wss => .wss

/-- A connection that was accepted. -/
inductive Connection where
  | tls (src : SocketAddr) (pump : TlsPump.Pump)
  /-- Whether the loop still runs. -/
  | ws (kind : WsKind) (src : SocketAddr) (serving : Bool)
  deriving DecidableEq

/-- What the loops share, and the messages they passed on. -/
structure Front where
  acl : AclChecker
  /-- The free permits of the semaphore. -/
  permits : Nat
  connections : List Connection
  processed : List Received

/-- What happens to the loops. -/
inductive Event where
  /-- A reload of the list. -/
  | reload (acl : AclChecker)
  | datagram (data : List UInt8) (src : SocketAddr)
  /-- A task for a datagram ends. -/
  | release
  | acceptTls (src : SocketAddr)
  | acceptWs (kind : WsKind) (src : SocketAddr)
  /-- A turn of the pump of a TLS connection. -/
  | turn (id : Nat) (turn : TlsPump.Turn)
  | frame (id : Nat) (frame : Frame)
  /-- The loop of a WebSocket connection ends: its stream is over, or a write failed. -/
  | hangUpWs (id : Nat)

/-- The text of a frame that `process_ws` gives to the handler. -/
def Frame.text? : Frame → Option Str
  | .text content => some content
  | .binary bytes => fromUtf8 bytes
  | .ping | .close | .error | .other => none

/-- Whether the loop of `process_ws` goes on after a frame. -/
def Frame.continues : Frame → Bool
  | .close | .error => false
  | .text _ | .binary _ | .ping | .other => true

namespace Front

variable (platform : Platform) (front : Front)

/-- The body of the UDP receive loop, with `handle_datagram`. -/
def receiveDatagram (data : List UInt8) (src : SocketAddr) : Front :=
  if front.acl.isAllowed src.ip = false then front
  else if front.permits = 0 then front
  else { front with
    permits := front.permits - 1
    processed := front.processed ++ [⟨.udp, src, fromUtf8Lossy data⟩] }

/-- A turn of a TLS connection: what the pump delivers goes to `handle_tcp_msg`. -/
def takeTurn (id : Nat) (src : SocketAddr) (pump : TlsPump.Pump) (turn : TlsPump.Turn) : Front :=
  let next := pump.step platform turn
  { front with
    connections := front.connections.set id (.tls src next)
    processed := front.processed ++
      (next.delivered.drop pump.delivered.length).map (Received.mk .tls src) }

/-- A frame of a WebSocket connection. -/
def takeFrame (id : Nat) (kind : WsKind) (src : SocketAddr) (frame : Frame) : Front :=
  { front with
    connections := front.connections.set id (.ws kind src frame.continues)
    processed := front.processed ++ (frame.text?.map (Received.mk kind.transport src)).toList }

/-- One step of the loops. -/
def step : Event → Option Front
  | .reload acl => some { front with acl := acl }
  | .datagram data src => some (front.receiveDatagram data src)
  | .release => some { front with permits := front.permits + 1 }
  | .acceptTls src => some { front with connections := front.connections ++ [.tls src .start] }
  | .acceptWs kind src =>
    some { front with connections := front.connections ++ [.ws kind src true] }
  | .turn id turn =>
    match front.connections[id]? with
    | some (.tls src pump) => some (front.takeTurn platform id src pump turn)
    | _ => none
  | .frame id frame =>
    match front.connections[id]? with
    | some (.ws kind src true) => some (front.takeFrame id kind src frame)
    | _ => none
  | .hangUpWs id =>
    match front.connections[id]? with
    | some (.ws kind src true) =>
      some { front with connections := front.connections.set id (.ws kind src false) }
    | _ => none

/-- A run of the loops from the start of the server. -/
abbrev Run (start : Front) (events : List Event) (front : Front) : Prop :=
  Trace (fun front => Front.step platform front) start events front

/-- The messages that an event brings, before any check. -/
def arrivals : Event → List Received
  | .datagram data src => [⟨.udp, src, fromUtf8Lossy data⟩]
  | .turn id turn =>
    match front.connections[id]? with
    | some (.tls src pump) =>
      ((pump.step platform turn).delivered.drop pump.delivered.length).map (Received.mk .tls src)
    | _ => []
  | .frame id frame =>
    match front.connections[id]? with
    | some (.ws kind src true) => (frame.text?.map (Received.mk kind.transport src)).toList
    | _ => []
  | .reload _ | .release | .acceptTls _ | .acceptWs _ _ | .hangUpWs _ => []

/-- Whether a message that arrives is passed on. -/
def passes (received : Received) : Bool :=
  received.transport ≠ .udp || (front.acl.isAllowed received.src.ip && front.permits ≠ 0)

end Front

section Steps

variable {platform : Platform} {before after : Front} {event : Event}

/-- Messages of connections pass whatever the list says. -/
theorem filter_passes_of_stream {messages : List Received}
    (stream : ∀ received ∈ messages, received.transport ≠ .udp) :
    messages.filter before.passes = messages := by
  apply List.filter_eq_self.mpr
  intro received member
  simp [Front.passes, stream received member]

theorem processed_step (taken : before.step platform event = some after) :
    after.processed =
      before.processed ++ (before.arrivals platform event).filter before.passes := by
  cases event with
  | reload acl =>
    cases taken
    exact (List.append_nil _).symm
  | datagram data src =>
    cases taken
    rw [Front.receiveDatagram, Front.arrivals]
    by_cases allowed : before.acl.isAllowed src.ip = false
    · rw [if_pos allowed]
      simp [Front.passes, allowed]
    · rw [if_neg allowed]
      rw [Bool.not_eq_false] at allowed
      by_cases free : before.permits = 0 <;> simp [Front.passes, allowed, free]
  | release =>
    cases taken
    exact (List.append_nil _).symm
  | acceptTls src =>
    cases taken
    exact (List.append_nil _).symm
  | acceptWs kind src =>
    cases taken
    exact (List.append_nil _).symm
  | turn id turn =>
    simp only [Front.step] at taken
    split at taken
    · next src pump found =>
        cases taken
        rw [Front.arrivals, found, filter_passes_of_stream]
        · rfl
        · intro received member
          obtain ⟨raw, -, rfl⟩ := List.mem_map.mp member
          exact nofun
    · cases taken
  | frame id frame =>
    simp only [Front.step] at taken
    split at taken
    · next kind src found =>
        cases taken
        rw [Front.arrivals, found, filter_passes_of_stream]
        · rfl
        · intro received member
          obtain ⟨raw, -, rfl⟩ := Option.map_eq_some_iff.mp (Option.mem_toList.mp member)
          cases kind <;> exact nofun
    · cases taken
  | hangUpWs id =>
    simp only [Front.step] at taken
    split at taken
    · cases taken
      exact (List.append_nil _).symm
    · cases taken

/-- In every state of the loops, a message from an address that the list denies is passed on to
`process_sip_msg` exactly when it is not received over UDP. -/
theorem denied_passes_iff (taken : before.step platform event = some after) :
    ∃ passed, after.processed = before.processed ++ passed ∧
      passed ⊆ before.arrivals platform event ∧
      ∀ received ∈ before.arrivals platform event, before.acl.Denies received.src.ip →
        (received ∈ passed ↔ received.transport ≠ .udp) := by
  refine ⟨_, processed_step taken, List.filter_sublist.subset, fun received arrived denied => ?_⟩
  rw [List.mem_filter, Front.passes, AclChecker.isAllowed_of_denies denied]
  simp [arrived]

end Steps

namespace Sample

def platform : Platform := .ascii fun _ => none

/-- A list that denies one network, and nothing received yet. -/
def start : Front where
  acl := ⟨[⟨.deny, ⟨.v4 #v[203, 0, 113, 0], 24, by decide⟩⟩], .allow⟩
  permits := 1
  connections := []
  processed := []

/-- An address of that network. -/
def src : SocketAddr := ⟨.octets 203 0 113 5, 5060⟩

/-- The same text on a TLS, a WS and a WSS connection from the address. -/
def events : List Event :=
  [.acceptTls src, .turn 0 (.arrive [0x41, 0x0A, 0x0A]), .turn 0 .poll,
    .acceptWs .ws src, .frame 1 (.text "A\n\n".toList),
    .acceptWs .wss src, .frame 2 (.text "A\n\n".toList)]

theorem denies : start.acl.Denies src.ip := by
  unfold AclChecker.Denies
  decide +kernel

end Sample

open Sample in
theorem denied_passes_iff_datagram :
    ∃ after, start.step platform (.datagram [0x41, 0x0A, 0x0A] src) = some after ∧
      ∃ passed, after.processed = start.processed ++ passed ∧ ∀ raw, ⟨.udp, src, raw⟩ ∉ passed := by
  refine ⟨_, rfl, ?_⟩
  obtain ⟨passed, processed, arrived, iff⟩ := denied_passes_iff
    (show start.step platform (.datagram [0x41, 0x0A, 0x0A] src) = some _ from rfl)
  refine ⟨passed, processed, fun raw member => ?_⟩
  exact (iff _ (arrived member) denies).mp member rfl

open Sample in
/-- Under one list, messages from a denied address come through over TLS, WS and WSS. -/
theorem denied_passes_streams :
    start.acl.Denies src.ip ∧ ∃ front, Front.Run platform start events front ∧
      front.acl = start.acl ∧ front.processed = [⟨.tls, src, "A\n\n".toList⟩,
        ⟨.ws, src, "A\n\n".toList⟩, ⟨.wss, src, "A\n\n".toList⟩] := by
  have played : (playTrace (fun front => Front.step platform front) start events).any (fun front =>
      decide (front.acl = start.acl ∧ front.processed = [⟨.tls, src, "A\n\n".toList⟩,
        ⟨.ws, src, "A\n\n".toList⟩, ⟨.wss, src, "A\n\n".toList⟩])) = true := by
    decide +kernel
  obtain ⟨front, steps, facts⟩ := (Option.any_eq_true _ _).mp played
  obtain ⟨same, processed⟩ := of_decide_eq_true facts
  exact ⟨denies, front, trace_of_playTrace steps, same, processed⟩

end Sip3.Receive
