import Mathlib.Data.List.AList
import Sip3.Platform
import Sip3.Semantics.Trace

/-!
# The registry of stream connections

`sip/transport.rs`, with the connections of `tcp_server.rs` and `ws_server.rs` that use it. A
connection registers its remote address when it starts, takes messages from the channel it got,
unregisters the address when its loop has ended, and drops its end of the channel last. The three
listeners (TLS, WS and WSS) do this in the same way.

A send looks up the channel of an address under the lock and then puts the message into it without
the lock, so that it is two steps. Connections are numbered in the order in which they register.
-/

namespace Sip3.StreamRegistry

open Text Semantics List

/-- How far a connection is. -/
inductive Phase where
  /-- In its loop. -/
  | serving
  /-- The loop has ended. -/
  | ended
  | unregistered
  /-- The receiver of the channel is dropped. -/
  | dropped
  deriving DecidableEq

/-- A connection, with the messages in its channel. -/
structure Connection where
  addr : SocketAddr
  phase : Phase
  outbound : List Str
  deriving DecidableEq

/-- A send between its two steps. -/
structure Send where
  addr : SocketAddr
  message : Str
  /-- The connection whose channel was found. -/
  sender : Option Nat
  /-- The number of connections that had registered at the lookup. -/
  since : Nat
  deriving DecidableEq

/-- What a send returned. -/
structure Report where
  send : Send
  sent : Bool
  deriving DecidableEq

/-- `TransportRegistry` with the connections and the sends. -/
structure Network where
  streams : AList fun _ : SocketAddr => Nat
  connections : List Connection
  sends : List Send
  reports : List Report

/-- Nothing is connected. -/
def Network.empty : Network := ⟨∅, [], [], []⟩

/-- A step of a connection or of a send. -/
inductive Event where
  | register (addr : SocketAddr)
  /-- The connection takes a message from its channel and writes it. -/
  | receive (id : Nat)
  /-- The loop of the connection ends. -/
  | finish (id : Nat)
  | unregister (id : Nat)
  | drop (id : Nat)
  /-- The lookup of `send`. -/
  | lookup (addr : SocketAddr) (message : Str)
  /-- The rest of a send. -/
  | deliver (index : Nat)
  deriving DecidableEq

namespace Network

variable (network : Network)

/-- Change a connection. -/
def change (id : Nat) (next : Connection) : Network :=
  { network with connections := network.connections.set id next }

/-- `TransportRegistry::register`. -/
def register (addr : SocketAddr) : Network :=
  { network with
    streams := network.streams.insert addr network.connections.length
    connections := network.connections ++ [⟨addr, .serving, []⟩] }

/-- `TransportRegistry::unregister`. -/
def unregister (addr : SocketAddr) : Network :=
  { network with streams := network.streams.erase addr }

/-- `tx.send(message).is_ok()` with the message in the channel, if it is. -/
def push (id : Nat) (message : Str) : Bool × Network :=
  match network.connections[id]? with
  | some connection =>
    if connection.phase = .dropped then (false, network)
    else (true, network.change id
      { connection with outbound := connection.outbound ++ [message] })
  | none => (false, network)

/-- The rest of a send after its lookup. -/
def deliver (send : Send) : Bool × Network :=
  match send.sender with
  | some id => network.push id send.message
  | none => (false, network)

/-- One step. -/
def step : Event → Option Network
  | .register addr => some (network.register addr)
  | .receive id =>
    match network.connections[id]? with
    | some ⟨addr, .serving, _ :: rest⟩ => some (network.change id ⟨addr, .serving, rest⟩)
    | _ => none
  | .finish id =>
    match network.connections[id]? with
    | some ⟨addr, .serving, outbound⟩ => some (network.change id ⟨addr, .ended, outbound⟩)
    | _ => none
  | .unregister id =>
    match network.connections[id]? with
    | some ⟨addr, .ended, outbound⟩ =>
      some ((network.unregister addr).change id ⟨addr, .unregistered, outbound⟩)
    | _ => none
  | .drop id =>
    match network.connections[id]? with
    | some ⟨addr, .unregistered, outbound⟩ => some (network.change id ⟨addr, .dropped, outbound⟩)
    | _ => none
  | .lookup addr message => some { network with
      sends := network.sends ++
        [⟨addr, message, network.streams.lookup addr, network.connections.length⟩] }
  | .deliver index =>
    match network.sends[index]? with
    | some send =>
      let (sent, next) := network.deliver send
      some { next with
        sends := network.sends.eraseIdx index
        reports := network.reports ++ [⟨send, sent⟩] }
    | none => none

/-- A run of the network. -/
abbrev Run (events : List Event) (network : Network) : Prop :=
  Trace Network.step Network.empty events network

/-- A connection with an address that is registered and has not ended. -/
def Serves (id : Nat) (addr : SocketAddr) : Prop :=
  ∃ connection, network.connections[id]? = some connection ∧ connection.addr = addr ∧
    connection.phase = .serving

instance (id : Nat) (addr : SocketAddr) : Decidable (network.Serves id addr) :=
  decidable_of_iff (∃ connection ∈ network.connections[id]?, connection.addr = addr ∧
    connection.phase = .serving) Iff.rfl

/-- When a connection ends or unregisters, no other connection with its address is served. -/
def Alone : Event → Prop
  | .finish id | .unregister id => ∀ connection ∈ network.connections[id]?,
      ∀ other < network.connections.length, other ≠ id → ¬ network.Serves other connection.addr
  | _ => True

instance (event : Event) : Decidable (network.Alone event) := by
  cases event <;> unfold Network.Alone <;> infer_instance

end Network

section Serving

variable {network after : Network} {id other : Nat} {addr : SocketAddr} {connection next : Connection}

theorem Network.Serves.lt (serves : network.Serves id addr) : id < network.connections.length := by
  obtain ⟨_, found, -⟩ := serves
  exact (List.getElem?_eq_some_iff.mp found).1

/-- A change of a connection says who is served with it. -/
theorem serves_change (found : network.connections[id]? = some connection) :
    (network.change id next).Serves other addr ↔
      if other = id then next.addr = addr ∧ next.phase = .serving
      else network.Serves other addr := by
  have inside := (List.getElem?_eq_some_iff.mp found).1
  unfold Network.Serves Network.change
  by_cases same : other = id
  · subst same
    simp [getElem?_set_self inside]
  · rw [if_neg same]
    simp only [getElem?_set_ne (Ne.symm same)]

/-- A change that keeps the address and whether the connection is served. -/
theorem serves_change_of_same (found : network.connections[id]? = some connection)
    (sameAddr : next.addr = connection.addr)
    (samePhase : next.phase = .serving ↔ connection.phase = .serving) :
    (network.change id next).Serves other addr ↔ network.Serves other addr := by
  rw [serves_change found]
  split
  · next same =>
      subst same
      simp [Network.Serves, found, sameAddr, samePhase]
  · rfl

theorem serves_register {source : SocketAddr} : (network.register source).Serves id addr ↔
    network.Serves id addr ∨ id = network.connections.length ∧ addr = source := by
  unfold Network.Serves Network.register
  rcases lt_trichotomy id network.connections.length with before | last | beyond
  · simp [getElem?_append_left before, before.ne]
  · subst last
    simp [eq_comm]
  · simp only [getElem?_append_right beyond.le]
    have none : network.connections[id]? = none := getElem?_eq_none beyond.le
    have short : ¬ id - network.connections.length < 1 := by omega
    simp [none, beyond.ne', short]

theorem deliver_frame (network : Network) (send : Send) :
    (network.deliver send).2.streams = network.streams ∧
      (network.deliver send).2.connections.length = network.connections.length ∧
      ∀ id addr, (network.deliver send).2.Serves id addr ↔ network.Serves id addr := by
  unfold Network.deliver
  split
  · next owner _ =>
      unfold Network.push
      split
      · next connection found =>
          split
          · exact ⟨rfl, rfl, fun _ _ => Iff.rfl⟩
          · exact ⟨rfl, length_set .., fun _ _ => serves_change_of_same found rfl Iff.rfl⟩
      · exact ⟨rfl, rfl, fun _ _ => Iff.rfl⟩
  · exact ⟨rfl, rfl, fun _ _ => Iff.rfl⟩

/-- What a step does to the registry, to those that are served and to the sends. -/
inductive Effect (before after : Network) : Event → Prop where
  | register {addr : SocketAddr} (shape : after = before.register addr) :
      Effect before after (.register addr)
  | finish {id : Nat} (connection : Connection) (found : before.connections[id]? = some connection)
      (streams : after.streams = before.streams) (sends : after.sends = before.sends)
      (length : after.connections.length = before.connections.length)
      (serves : ∀ other addr, after.Serves other addr ↔ other ≠ id ∧ before.Serves other addr)
      (mine : ∀ addr, before.Serves id addr → addr = connection.addr) :
      Effect before after (.finish id)
  | unregister {id : Nat} (connection : Connection)
      (found : before.connections[id]? = some connection)
      (streams : after.streams = before.streams.erase connection.addr)
      (sends : after.sends = before.sends)
      (length : after.connections.length = before.connections.length)
      (serves : ∀ other addr, after.Serves other addr ↔ before.Serves other addr)
      (finished : ∀ addr, ¬ before.Serves id addr) :
      Effect before after (.unregister id)
  | lookup {addr : SocketAddr} {message : Str}
      (shape : after = { before with
        sends := before.sends ++
          [⟨addr, message, before.streams.lookup addr, before.connections.length⟩] }) :
      Effect before after (.lookup addr message)
  | quiet {event : Event} (streams : after.streams = before.streams)
      (sends : after.sends ⊆ before.sends)
      (length : after.connections.length = before.connections.length)
      (serves : ∀ id addr, after.Serves id addr ↔ before.Serves id addr) :
      Effect before after event

theorem step_effect {event : Event} (taken : network.step event = some after) :
    Effect network after event := by
  cases event with
  | register addr => exact .register (Option.some.inj taken).symm
  | receive id =>
    simp only [Network.step] at taken
    split at taken
    · next addr message rest found =>
        cases taken
        exact .quiet rfl (List.Subset.refl _) (length_set ..) fun other addr =>
          serves_change_of_same found rfl Iff.rfl
    · cases taken
  | finish id =>
    simp only [Network.step] at taken
    split at taken
    · next addr outbound found =>
        cases taken
        refine .finish _ found rfl rfl (length_set ..) (fun other source => ?_) ?_
        · rw [serves_change found]
          split
          · next same => simp [same]
          · next different => simp [different]
        · rintro source ⟨connection, isFound, rfl, -⟩
          rw [found] at isFound
          cases isFound
          rfl
    · cases taken
  | unregister id =>
    simp only [Network.step] at taken
    split at taken
    · next addr outbound found =>
        cases taken
        refine .unregister _ found rfl rfl (length_set ..) (fun other source => ?_) ?_
        · have same : (network.unregister addr).connections[id]? = _ := found
          exact serves_change_of_same same rfl (by simp)
        · rintro source ⟨connection, isFound, -, serving⟩
          rw [found] at isFound
          cases isFound
          cases serving
    · cases taken
  | drop id =>
    simp only [Network.step] at taken
    split at taken
    · next addr outbound found =>
        cases taken
        exact .quiet rfl (List.Subset.refl _) (length_set ..) fun other addr =>
          serves_change_of_same found rfl (by simp)
    · cases taken
  | lookup addr message => exact .lookup (Option.some.inj taken).symm
  | deliver index =>
    simp only [Network.step] at taken
    split at taken
    · next send found =>
        cases taken
        obtain ⟨streams, length, serves⟩ := deliver_frame network send
        exact .quiet streams (eraseIdx_subset) length serves
    · cases taken

end Serving

/-- Whoever is served is reached: an address with a served connection leads to one. -/
structure Routed (network : Network) : Prop where
  streams : ∀ id addr, network.Serves id addr →
    ∃ owner, network.streams.lookup addr = some owner ∧ network.Serves owner addr
  sends : ∀ send ∈ network.sends, send.since ≤ network.connections.length ∧
    ∀ id, id < send.since → network.Serves id send.addr →
      ∃ owner, send.sender = some owner ∧ network.Serves owner send.addr

theorem routed_empty : Routed .empty := by
  refine ⟨?_, nofun⟩
  rintro id addr ⟨connection, found, -⟩
  cases found

section Kept

variable {before after : Network} (routed : Routed before)
  (sends : after.sends ⊆ before.sends)
  (length : after.connections.length = before.connections.length)
  (served : ∀ id addr, after.Serves id addr → before.Serves id addr)
  (kept : ∀ id addr, after.Serves id addr → ∀ owner, before.Serves owner addr →
    after.Serves owner addr)
include routed sends length served kept

/-- The sends still reach who is served when no connection starts to be served, and those of an
address that is still served all are. -/
theorem Routed.sends_kept : ∀ send ∈ after.sends, send.since ≤ after.connections.length ∧
    ∀ id, id < send.since → after.Serves id send.addr →
      ∃ owner, send.sender = some owner ∧ after.Serves owner send.addr := by
  intro send member
  obtain ⟨known, reached⟩ := routed.sends send (sends member)
  refine ⟨length ▸ known, fun id early serves => ?_⟩
  obtain ⟨owner, found, owns⟩ := reached id early (served id _ serves)
  exact ⟨owner, found, kept id _ serves owner owns⟩

theorem Routed.of_kept (streams : after.streams = before.streams) : Routed after := by
  refine ⟨fun id addr serves => ?_, routed.sends_kept sends length served kept⟩
  obtain ⟨owner, found, owns⟩ := routed.streams id addr (served id addr serves)
  exact ⟨owner, streams ▸ found, kept id addr serves owner owns⟩

end Kept

theorem Routed.step {before after : Network} {event : Event} (routed : Routed before)
    (taken : before.step event = some after) (alone : before.Alone event) : Routed after := by
  cases step_effect taken with
  | @register addr shape =>
    subst shape
    refine ⟨fun id source serves => ?_, fun send member => ?_⟩
    · by_cases same : source = addr
      · subst same
        exact ⟨_, AList.lookup_insert _, serves_register.mpr (.inr ⟨rfl, rfl⟩)⟩
      · rcases serves_register.mp serves with old | new
        · obtain ⟨owner, found, served⟩ := routed.streams id source old
          refine ⟨owner, ?_, serves_register.mpr (.inl served)⟩
          exact (AList.lookup_insert_ne same).trans found
        · exact absurd new.2 same
    · obtain ⟨known, reached⟩ := routed.sends send member
      refine ⟨?_, fun id early serves => ?_⟩
      · rw [Network.register, length_append]
        omega
      · rcases serves_register.mp serves with old | ⟨new, -⟩
        · obtain ⟨owner, found, served⟩ := reached id early old
          exact ⟨owner, found, serves_register.mpr (.inl served)⟩
        · omega
  | @finish id connection found streams sends length serves mine =>
    refine routed.of_kept (fun _ member => sends ▸ member) length
      (fun other addr served => ((serves other addr).mp served).2) ?_ streams
    -- Another connection with the address of the one that ends would not be alone with it.
    intro other addr served owner mayEnd
    obtain ⟨different, still⟩ := (serves other addr).mp served
    refine (serves owner addr).mpr ⟨?_, mayEnd⟩
    rintro rfl
    rw [mine addr mayEnd] at still
    exact alone connection found other still.lt different still
  | @unregister id connection found streams sends length serves finished =>
    refine ⟨fun other addr served => ?_, routed.sends_kept (fun _ member => sends ▸ member) length
      (fun other addr => (serves other addr).mp) fun _ addr _ owner => (serves owner addr).mpr⟩
    have still := (serves other addr).mp served
    obtain ⟨owner, isFound, owns⟩ := routed.streams other addr still
    have different : other ≠ id := by
      rintro rfl
      exact finished addr still
    have elsewhere : addr ≠ connection.addr := by
      rintro rfl
      exact alone connection found other still.lt different still
    refine ⟨owner, ?_, (serves owner addr).mpr owns⟩
    rw [streams, AList.lookup_erase_ne elsewhere]
    exact isFound
  | @lookup addr message shape =>
    subst shape
    refine ⟨routed.streams, fun send member => ?_⟩
    rcases mem_append.mp member with old | new
    · exact routed.sends send old
    · cases mem_singleton.mp new
      exact ⟨le_rfl, fun id _ serves => routed.streams id addr serves⟩
  | quiet streams sends length serves =>
    exact routed.of_kept sends length (fun id addr => (serves id addr).mp)
      (fun _ addr _ owner => (serves owner addr).mpr) streams

/-- In every run in which a connection ends or unregisters only when no other connection with its
address is served: while a connection is served, a send to its address that started after it had
registered reports success, and puts the message into the channel of a connection with that
address that is served. -/
theorem send_reaches_served {events : List Event} {before after : Network} {index : Nat} {send : Send}
    (run : Network.Run events before)
    (alone : Trace.Meets Network.step Network.empty events Network.Alone)
    (pending : before.sends[index]? = some send)
    (taken : before.step (.deliver index) = some after) {id : Nat} (early : id < send.since)
    (serves : before.Serves id send.addr) :
    after.reports = before.reports ++ [⟨send, true⟩] ∧
      ∃ (owner : Nat) (connection : Connection), before.connections[owner]? = some connection ∧
        connection.addr = send.addr ∧ connection.phase = .serving ∧
        after.connections[owner]? =
          some { connection with outbound := connection.outbound ++ [send.message] } := by
  have routed : Routed before := run.invariant_of alone
    (fun taken alone routed => routed.step taken alone) routed_empty
  obtain ⟨owner, found, connection, isThere, sameAddr, serving⟩ :=
    (routed.sends send (List.mem_of_getElem? pending)).2 id early serves
  have inside := (List.getElem?_eq_some_iff.mp isThere).1
  have kept : connection.phase ≠ .dropped := by
    rw [serving]
    decide
  have delivered : before.deliver send = (true, before.change owner
      { connection with outbound := connection.outbound ++ [send.message] }) := by
    rw [Network.deliver, found]
    simp only [Network.push, isThere, if_neg kept]
  simp only [Network.step, pending, delivered] at taken
  cases taken
  exact ⟨rfl, owner, connection, isThere, sameAddr, serving, List.getElem?_set_self inside⟩

namespace Sample

/-- The remote address of both connections. -/
def peer : SocketAddr := ⟨.octets 203 0 113 5, 40000⟩

/-- A connection that ends before the next one with its address starts. -/
def apart : List Event :=
  [.register peer, .finish 0, .unregister 0, .drop 0, .register peer, .lookup peer "x".toList]

/-- Two connections with one address, on two listeners. The first ends. -/
def overlapping : List Event :=
  [.register peer, .register peer, .finish 0, .unregister 0, .lookup peer "x".toList, .deliver 0]

end Sample

open Sample in
theorem send_reaches_served_apart :
    ∃ before after, Network.Run apart before ∧ before.step (.deliver 0) = some after ∧
      before.Serves 1 peer ∧ after.reports = [⟨⟨peer, "x".toList, some 1, 2⟩, true⟩] := by
  have played : (playTrace Network.step Network.empty apart).any (fun before =>
      decide (before.Serves 1 peer ∧ before.reports = [] ∧
          before.sends[0]? = some ⟨peer, "x".toList, some 1, 2⟩) &&
        (before.step (.deliver 0)).isSome) = true := by
    decide +kernel
  have alone : Trace.Meets Network.step Network.empty apart Network.Alone :=
    meets_of_playMeets (by decide +kernel)
  obtain ⟨before, steps, facts⟩ := (Option.any_eq_true _ _).mp played
  obtain ⟨known, next⟩ := Bool.and_eq_true_iff.mp facts
  obtain ⟨serves, none, pending⟩ := of_decide_eq_true known
  obtain ⟨after, taken⟩ := Option.isSome_iff_exists.mp next
  have run := trace_of_playTrace steps
  have reached := send_reaches_served run alone pending taken (by decide) serves
  refine ⟨before, after, run, taken, serves, ?_⟩
  rw [reached.1, none, List.nil_append]

open Sample in
/-- The end of the first connection takes the registration of the second away. -/
theorem send_misses_served :
    ∃ network, Network.Run overlapping network ∧ network.Serves 1 peer ∧
      network.reports = [⟨⟨peer, "x".toList, none, 2⟩, false⟩] := by
  have played : (playTrace Network.step Network.empty overlapping).any (fun network =>
      decide (network.connections[1]? = some ⟨peer, .serving, []⟩ ∧
        network.reports = [⟨⟨peer, "x".toList, none, 2⟩, false⟩])) = true := by
    decide +kernel
  obtain ⟨network, steps, facts⟩ := (Option.any_eq_true _ _).mp played
  obtain ⟨second, reports⟩ := of_decide_eq_true facts
  exact ⟨network, trace_of_playTrace steps, ⟨_, second, rfl, rfl⟩, reports⟩

end Sip3.StreamRegistry
