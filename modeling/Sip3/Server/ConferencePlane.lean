import Sip3.Media.Mixer
import Sip3.Semantics.Companion
import Sip3.Server.Frame

/-!
# The participants of conference rooms as objects

`ConferenceMedia::join` makes a new participant with its own socket and starts the task
that receives from it. The room's map holds the participant, and so does its receive task.
`leave` stops the task of the participant it removes; a participant that is replaced in the
map by another `join` keeps its task.

The shared state of the server says which calls are in which room. The plane says which
objects these are, which receive tasks run, and which peers the sockets have learned.
-/

namespace Sip3

open Text Semantics Handler Sip3.Action Conference

/-- The participants that the rooms hold, the receive tasks that run, the learned peers, and the
identity of the next participant. -/
structure Plane where
  stored : AList fun _ : Nat × CallId => ParticipantId
  running : Finset ParticipantId
  peer : ParticipantId → Option SocketAddr
  next : ParticipantId

namespace Plane

/-- No participants. -/
def initial : Plane := ⟨∅, ∅, fun _ => none, 0⟩

/-- `ConferenceMedia::join`. -/
def join (plane : Plane) (room : Nat) (callId : CallId) : Plane where
  stored := plane.stored.insert (room, callId) plane.next
  running := insert plane.next plane.running
  peer := Function.update plane.peer plane.next none
  next := plane.next + 1

/-- `ConferenceMedia::leave`. -/
def leave (plane : Plane) (room : Nat) (callId : CallId) : Plane :=
  match plane.stored.lookup (room, callId) with
  | none => plane
  | some id =>
    { plane with
      stored := plane.stored.erase (room, callId)
      running := plane.running.erase id }

/-- The plane after a step of a handler. -/
def after (plane : Plane) : Op → Plane
  | .rooms (.join room callId _) => plane.join room callId
  | .rooms (.leave room callId) => plane.leave room callId
  | _ => plane

/-- The participants whose socket is bound: those that a room or a receive task holds. -/
def bound (plane : Plane) : Finset ParticipantId :=
  (plane.stored.entries.map Sigma.snd).toFinset ∪ plane.running

/-- What the media tasks do on their own: a receive task ends when its socket fails, and a packet
sets the peer of its socket. -/
structure Drifts (before after : Plane) : Prop where
  stored : after.stored = before.stored
  next : after.next = before.next
  running : after.running ⊆ before.running
  peer : ∀ id, after.peer id = before.peer id ∨ id ∈ before.running ∧ (after.peer id).isSome

theorem Drifts.refl (plane : Plane) : plane.Drifts plane :=
  ⟨rfl, rfl, subset_rfl, fun _ => .inl rfl⟩

/-- The plane as a companion of the server. Between two steps the media tasks do what a relation
allows. -/
abbrev companion (Media : Plane → Plane → Prop) : Companion signature where
  State := Plane
  Moves plane op _ next := Media (plane.after op) next

end Plane

namespace RoomOp

variable {rooms : AList fun _ : Nat => Room} {room other : Nat} {callId call : CallId}

theorem mem_members_join {participant : Participant} :
    call ∈ members ((join room callId participant).next rooms) other ↔
      (other = room ∧ call = callId) ∨ call ∈ members rooms other := by
  simp only [next, members_insert]
  split
  · next same => simp [same]
  · next different => simp [different]

theorem mem_members_leave :
    call ∈ members ((leave room callId).next rooms) other ↔
      call ∈ members rooms other ∧ ¬ (other = room ∧ call = callId) := by
  have kept : call ∈ (members rooms room).erase callId ↔
      call ≠ callId ∧ call ∈ members rooms room := AList.mem_erase
  simp only [next]
  split
  · next empty =>
      have gone : call ∉ (members rooms room).erase callId := by
        rw [show (members rooms room).erase callId = ∅ from AList.ext empty]
        exact AList.notMem_empty call
      rw [kept] at gone
      rw [members_erase]
      split
      · next same =>
          subst same
          simp only [true_and]
          exact iff_of_false (AList.notMem_empty call) fun both => gone ⟨both.2, both.1⟩
      · next different => simp [different]
  · rw [members_insert]
    split
    · next same =>
        subst same
        rw [kept]
        tauto
    · next different => simp [different]

theorem mem_members_recordDtmf {event now : Nat} :
    call ∈ members ((recordDtmf room callId event now).next rooms) other ↔
      call ∈ members rooms other := by
  simp only [next]
  split
  · next participant found =>
      rw [members_insert]
      split
      · next same =>
          have present : callId ∈ members rooms room :=
            AList.lookup_isSome.mp (by rw [found]; rfl)
          subst same
          rw [AList.mem_insert]
          exact ⟨fun either => either.elim (fun own => own ▸ present) id, .inr⟩
      · rfl
  · rfl

end RoomOp

/-- A step that neither enters a call in the map of conference calls or in a room, nor removes it
there. -/
def Op.SparesMembership : Op → Prop
  | .conferenceActive (.insert _ _) | .conferenceActive (.remove _) => False
  | .rooms (.join _ _ _) | .rooms (.leave _ _) => False
  | _ => True

/-- Steps of other kinds than those of the conference spare the memberships. -/
theorem Op.sparesMembership_of_kind {op : Op} (conference : op.kind ≠ .conference)
    (rooms : op.kind ≠ .rooms) : op.SparesMembership := by
  cases op with
  | conferenceActive table => exact absurd rfl conference
  | rooms op => exact absurd rfl rooms
  | _ => trivial

/-- What a step that spares the memberships does to them. -/
theorem Op.Perform.membership_eq {state after : ServerState} {op : Op} {answer : op.Answer}
    (performed : op.Perform state answer after) (spares : op.SparesMembership) :
    after.conferenceActive = state.conferenceActive ∧
      ∀ room call, call ∈ members after.rooms room ↔ call ∈ members state.rooms room := by
  cases op with
  | conferenceActive table =>
    obtain ⟨-, rfl⟩ := performed
    cases table with
    | get callId => exact ⟨rfl, fun _ _ => Iff.rfl⟩
    | insert callId call => exact spares.elim
    | remove callId => exact spares.elim
  | rooms op =>
    obtain ⟨-, rfl⟩ := performed
    cases op with
    | join room callId participant => exact spares.elim
    | leave room callId => exact spares.elim
    | recordDtmf room callId event now => exact ⟨rfl, fun _ _ => RoomOp.mem_members_recordDtmf⟩
  | voicemailActive call =>
    obtain ⟨-, -, rfl⟩ := perform_voicemailActive_iff.mp performed
    exact ⟨rfl, fun _ _ => Iff.rfl⟩
  | send site dest text =>
    obtain rfl := performed
    exact ⟨rfl, fun _ _ => Iff.rfl⟩
  | ask request =>
    obtain rfl := performed
    exact ⟨rfl, fun _ _ => Iff.rfl⟩
  | panic => exact performed.elim
  | _ =>
    obtain ⟨-, rfl⟩ := performed
    exact ⟨rfl, fun _ _ => Iff.rfl⟩

/-- A step that spares the memberships leaves the objects to the media tasks. -/
theorem Plane.after_of_spares {op : Op} (spares : op.SparesMembership) (plane : Plane) :
    plane.after op = plane := by
  cases op with
  | rooms op =>
    cases op with
    | join room callId participant => exact spares.elim
    | leave room callId => exact spares.elim
    | recordDtmf room callId event now => rfl
  | _ => rfl

section Routing

variable {server : Server} {α : Type}

/-- A footprint without the kinds of the conference spares the memberships. -/
theorem Action.uses_spares {program : Action α} {callId : CallId} {kinds : List Kind}
    (uses : program.Uses (Op.Within callId kinds)) (conference : Kind.conference ∉ kinds)
    (rooms : Kind.rooms ∉ kinds) : program.Uses Op.SparesMembership :=
  uses.mono fun _ within => Op.sparesMembership_of_kind (fun same => conference (same ▸ within.2))
    fun same => rooms (same ▸ within.2)

theorem Op.Routes.uses_spares {program : Action α} {callId : CallId}
    (uses : program.Uses (Op.Routes callId)) : program.Uses Op.SparesMembership :=
  uses.mono fun _ routes => by cases routes <;> trivial

theorem Conference.handleInfo_spares (msg : SipMessage) :
    (handleInfo server msg).Uses Op.SparesMembership := by
  unfold handleInfo
  dsimp only
  split
  · exact Program.uses_done _
  refine ⟨trivial, fun found => ?_⟩
  cases found with
  | none => exact Program.uses_done _
  | some call =>
    change (parseDtmfRelayForStar6 msg.body call.roomId msg.callKey >>= _).Uses _
    refine Program.Uses.bind ?_ fun muted => ?_
    · unfold parseDtmfRelayForStar6
      split
      · exact Program.uses_done _
      · exact ⟨trivial, fun now => ⟨trivial, fun muted => Program.uses_done _⟩⟩
    · cases muted with
      | none => exact Program.uses_done _
      | some muted => exact ⟨trivial, fun _ => Program.uses_done _⟩

/-- The steps of an INVITE to a room. -/
inductive Conference.InviteStep (msg : SipMessage) (roomId : Nat) : Op → Prop where
  | look : InviteStep msg roomId (.conferenceActive (.get msg.callKey))
  | ask (request : Ask) : InviteStep msg roomId (.ask request)
  | join (participant : Participant) :
      InviteStep msg roomId (.rooms (.join roomId msg.callKey participant))
  | enter {call : ConferenceCall} (room : call.roomId = roomId) (called : msg.callKey ≠ [])
      (known : call.callerAccount ≠ "unknown".toList) :
      InviteStep msg roomId (.conferenceActive (.insert msg.callKey call))

theorem Conference.joinRoom_steps (server : Server) (msg : SipMessage) (src : SocketAddr)
    (roomId : Nat) {caller : Str} (called : msg.callKey ≠ [])
    (known : caller ≠ "unknown".toList) :
    (joinRoom server msg src roomId caller).Uses (InviteStep msg roomId) := by
  unfold joinRoom
  split
  · exact Program.uses_done _
  refine ⟨.ask _, fun bound => ?_⟩
  cases bound with
  | error error => exact Program.uses_done _
  | ok relayPort =>
    exact ⟨.join _, fun _ => ⟨.ask _, fun _ => ⟨.ask _, fun _ => ⟨.enter rfl called known, fun _ =>
      Program.uses_done _⟩⟩⟩⟩

theorem Conference.handleInvite_steps (server : Server) (msg : SipMessage) (src : SocketAddr)
    (roomId maxParticipants : Nat) :
    (handleInvite server msg src roomId maxParticipants).Uses (InviteStep msg roomId) := by
  unfold handleInvite
  split
  · exact Program.uses_done _
  next called =>
  refine ⟨.look, fun active => ?_⟩
  dsimp only [Program.bind]
  split
  · exact Program.uses_done _
  next known =>
  refine ⟨.ask _, fun enabled => ?_⟩
  rcases enabled with error | _ | _
  · exact Program.uses_done _
  · exact Program.uses_done _
  refine ⟨.ask _, fun pinHash => ?_⟩
  cases pinHash with
  | error error => exact Program.uses_done _
  | ok pinHash =>
    dsimp only [Program.bind]
    split
    · exact Program.uses_done _
    refine ⟨.ask _, fun counted => ?_⟩
    cases counted with
    | error error => exact Program.uses_done _
    | ok count =>
      dsimp only [Program.bind]
      split
      · exact Program.uses_done _
      · exact joinRoom_steps server msg src roomId called known

section Conferences

variable (P : ∀ {α : Type}, Action α → Prop)
  (spares : ∀ {α : Type} {program : Action α}, program.Uses Op.SparesMembership → P program)
  (bind : ∀ {α β : Type} {program : Action α} {next : α → Action β}, P program →
    (∀ value, P (next value)) → P (program >>= next))
  (bye : ∀ msg, P (Conference.handleBye msg))

include spares bind

theorem Handler.routeInvite_conference
    (invite : ∀ msg src roomId maxParticipants,
      P (handleInvite server msg src roomId maxParticipants))
    (msg : SipMessage) (src : SocketAddr) : P (routeInvite server msg src) := by
  refine bind (spares (Op.Routes.uses_spares (@Conference.lookupRoom_routes msg.callKey _ _)))
    fun room => ?_
  split
  · exact bind (invite msg src _ _) fun _ => spares (Program.uses_done _)
  · exact spares (uses_spares (within (Endpoint.run_uses server msg src
      (.proxy .invite))) (by decide) (by decide))

include bye

/-- The programs that join or leave rooms are two handlers. A property of programs that holds of
the routing to one, of the other and of what spares the memberships, and that composes, holds of
every received text. -/
theorem Handler.handleText_conference {raw : Str} (invite : ∀ msg src,
    SipMessage.parse server.platform raw = .ok msg → P (routeInvite server msg src))
    (src : SocketAddr) : P (handleText server raw src) := by
  have done : ∀ {α : Type} (value : α), P (.done value : Action α) := fun value =>
    spares (Program.uses_done _)
  have endpoints : ∀ (msg : SipMessage) (endpoint : Endpoint),
      (∀ roomId maxParticipants, endpoint ≠ .conferenceInvite roomId maxParticipants) →
      P (endpoint.run server msg src) := by
    intro msg endpoint other
    have uses := within (endpoint.run_uses server msg src)
    cases endpoint with
    | conferenceInvite roomId maxParticipants => exact absurd rfl (other _ _)
    | conferenceAck => exact done _
    | conferenceBye => exact bind (bye msg) fun _ => done _
    | conferenceCancel => exact bind (bye msg) fun _ => done _
    | conferenceInfo => exact bind (spares (handleInfo_spares msg)) fun _ => done _
    | proxy method =>
      exact spares (uses_spares uses (by cases method <;> decide)
        (by cases method <;> decide))
    | _ => exact spares (uses_spares uses (by decide) (by decide))
  cases parsed : SipMessage.parse server.platform raw with
  | error failure =>
    rw [handleText_eq_done server src parsed]
    exact done _
  | ok msg =>
    rw [handleText_eq server msg src parsed]
    refine bind ?_ fun response => ?_
    · unfold processMsg
      split
      · exact spares (uses_spares (within (processResponse_uses server msg))
          (by decide) (by decide))
      · refine processRequest_routes server msg src P _ ?_ (fun _ => invite msg src parsed)
          fun endpoint _ other => endpoints msg endpoint other
        exact fun routes rest => bind (spares (Op.Routes.uses_spares routes)) rest
    · cases response with
      | none => exact done _
      | some response => exact spares ⟨trivial, fun _ => Program.uses_done _⟩

theorem Task.body_conference (task : Task) (invite : ∀ msg src, task.message server = some msg →
    P (routeInvite server msg src)) : P (task.body server) := by
  have background (silent : task.message server = none) : P (task.body server) := by
    obtain ⟨callId, uses⟩ := Task.body_background server silent
    exact spares (uses_spares (within uses) (by decide) (by decide))
  have text {raw : Str} (src : SocketAddr)
      (same : task.message server = (SipMessage.parse server.platform raw).toOption) :
      P (handleText server raw src) :=
    handleText_conference P spares bind bye
      (fun msg src parsed => invite msg src (by rw [same, parsed]; rfl)) src
  cases task with
  | datagram data src => exact text src rfl
  | stream raw src => exact text src rfl
  | _ => exact background rfl

end Conferences

end Routing

end Sip3
