import Sip3.Server.ConferencePlane
import Sip3.Server.Execution

/-!
# Conference membership

Two maps say who is in a conference: the map of conference calls, and the rooms of the media
side with their receive tasks. An INVITE enters a call in both, a BYE or a CANCEL removes it
from both. Handled one after another, the messages keep the two in step, as long as no INVITE
joins with a Call-ID that is in a conference already: such an INVITE moves the entry of the
first map, and leaves a participant or a receive task behind on the media side.
-/

namespace Sip3

open Text Semantics System AList

/-- The map of conference calls and the media side agree. -/
structure Membership (active : AList fun _ : CallId => ConferenceCall)
    (rooms : AList fun _ : Nat => Room) (plane : Plane) : Prop where
  /-- A call is active with a room exactly when it is a participant of the room. -/
  active_iff : ∀ callId room, (∃ call, active.lookup callId = some call ∧ call.roomId = room) ↔
    callId ∈ members rooms room
  /-- A call is a participant of at most one room. -/
  one_room : ∀ callId room other, callId ∈ members rooms room → callId ∈ members rooms other →
    room = other
  /-- The participants of a room are the objects it holds. -/
  mirrored : ∀ room callId, (room, callId) ∈ plane.stored ↔ callId ∈ members rooms room
  /-- A receive task that runs is that of an object some room holds. -/
  receiving : ∀ id ∈ plane.running, ∃ room callId, plane.stored.lookup (room, callId) = some id

theorem Membership.of_iff {active : AList fun _ : CallId => ConferenceCall}
    {rooms : AList fun _ : Nat => Room} {plane : Plane}
    (active_iff : ∀ callId room, (∃ call, active.lookup callId = some call ∧ call.roomId = room) ↔
      callId ∈ members rooms room)
    (mirrored : ∀ room callId, (room, callId) ∈ plane.stored ↔ callId ∈ members rooms room)
    (receiving : ∀ id ∈ plane.running, ∃ room callId,
      plane.stored.lookup (room, callId) = some id) : Membership active rooms plane where
  active_iff := active_iff
  one_room callId room other here there := by
    obtain ⟨call, found, rfl⟩ := (active_iff callId room).mpr here
    obtain ⟨again, same, rfl⟩ := (active_iff callId other).mpr there
    rw [Option.some.inj (found.symm.trans same)]
  mirrored := mirrored
  receiving := receiving

section Moves

variable {active : AList fun _ : CallId => ConferenceCall} {rooms : AList fun _ : Nat => Room}
  {plane : Plane}

variable (agree : Membership active rooms plane)

include agree

/-- The media tasks on their own do not change who is where. -/
theorem Membership.drifts {after : Plane} {later : AList fun _ : Nat => Room}
    (drifts : plane.Drifts after)
    (same : ∀ room call, call ∈ members later room ↔ call ∈ members rooms room) :
    Membership active later after := by
  refine .of_iff (fun callId room => ?_) (fun room callId => ?_) fun id runs => ?_
  · rw [same, agree.active_iff]
  · rw [drifts.stored, same, agree.mirrored]
  · rw [drifts.stored]
    exact agree.receiving id (drifts.running runs)

theorem Membership.congr {same : AList fun _ : CallId => ConferenceCall}
    (lookup : ∀ callId, same.lookup callId = active.lookup callId) :
    Membership same rooms plane := by
  refine .of_iff (fun callId room => ?_) agree.mirrored agree.receiving
  rw [lookup, agree.active_iff]

/-- A call that is not active joins a room, and is then entered as active with it. -/
theorem Membership.join {callId : CallId} (absent : active.lookup callId = none)
    (call : ConferenceCall) (participant : Participant) :
    Membership (active.insert callId call)
      ((RoomOp.join call.roomId callId participant).next rooms) (plane.join call.roomId callId) := by
  have outside : ∀ room, callId ∉ members rooms room := fun room member => by
    obtain ⟨_, found, -⟩ := (agree.active_iff callId room).mpr member
    exact nomatch absent.symm.trans found
  refine .of_iff (fun other room => ?_) (fun room other => ?_) fun id runs => ?_
  · rw [RoomOp.mem_members_join, ← agree.active_iff]
    by_cases own : other = callId
    · subst own
      simp [absent, eq_comm]
    · simp [own, lookup_insert_ne own]
  · rw [RoomOp.mem_members_join, ← agree.mirrored]
    simp [Plane.join, Prod.ext_iff]
  · rcases Finset.mem_insert.mp runs with rfl | old
    · exact ⟨call.roomId, callId, lookup_insert _⟩
    · obtain ⟨room, other, found⟩ := agree.receiving id old
      refine ⟨room, other, (lookup_insert_ne ?_).trans found⟩
      rintro ⟨⟩
      exact outside _ ((agree.mirrored _ _).mp (lookup_isSome.mp (by rw [found]; rfl)))

/-- A call that is no longer active leaves the room it was active with. -/
theorem Membership.leave {callId : CallId} {call : ConferenceCall}
    (found : active.lookup callId = some call) :
    Membership (active.erase callId) ((RoomOp.leave call.roomId callId).next rooms)
      (plane.leave call.roomId callId) := by
  have only : ∀ room, callId ∈ members rooms room → room = call.roomId := fun room member => by
    obtain ⟨_, again, rfl⟩ := (agree.active_iff callId room).mpr member
    rw [Option.some.inj (found.symm.trans again)]
  have member := (agree.active_iff callId call.roomId).mp ⟨call, found, rfl⟩
  obtain ⟨held, stored⟩ := Option.isSome_iff_exists.mp
    (lookup_isSome.mpr ((agree.mirrored _ _).mpr member))
  have left : plane.leave call.roomId callId = { plane with
      stored := plane.stored.erase (call.roomId, callId)
      running := plane.running.erase held } := by
    rw [Plane.leave, stored]
  rw [left]
  refine .of_iff (fun other room => ?_) (fun room other => ?_) fun id runs => ?_
  · rw [RoomOp.mem_members_leave, ← agree.active_iff]
    by_cases own : other = callId
    · subst own
      rw [lookup_erase]
      refine iff_of_false nofun ?_
      rintro ⟨still, outside⟩
      exact outside ⟨only room ((agree.active_iff _ _).mp still), rfl⟩
    · simp [own, lookup_erase_ne own]
  · rw [RoomOp.mem_members_leave, ← agree.mirrored, mem_erase, and_comm]
    simp [Prod.ext_iff]
  · obtain ⟨other, old⟩ := Finset.mem_erase.mp runs
    obtain ⟨room, owner, here⟩ := agree.receiving id old
    refine ⟨room, owner, (lookup_erase_ne ?_).trans here⟩
    rintro ⟨⟩
    exact other (Option.some.inj (here.symm.trans stored))

end Moves

/-- The memberships in a state of the server with its plane. -/
abbrev Agreed (shared : ServerState × Plane) : Prop :=
  Membership shared.1.conferenceActive shared.1.rooms shared.2

/-- A step in which only a call that is not active joins a room. -/
def JoinsOnce (shared : ServerState × Plane) : (op : Op) → op.Answer → Prop
  | .rooms (.join _ callId _), _ => shared.1.conferenceActive.lookup callId = none
  | _, _ => True

/-- The server with the participants of its conferences, where steps meet a condition. -/
abbrev Server.conferencing (server : Server)
    (Permits : ServerState × Plane → (op : Op) → op.Answer → Prop) : System signature :=
  (server.system.along (Plane.companion Plane.Drifts)).under Permits

/-- From one state to another, nobody joined or left. -/
structure Untouched (before after : ServerState × Plane) : Prop where
  active : after.1.conferenceActive = before.1.conferenceActive
  rooms : ∀ room call, call ∈ members after.1.rooms room ↔ call ∈ members before.1.rooms room
  plane : before.2.Drifts after.2

/-- A call has joined a room, and is not entered as active yet. -/
def Entering (callId : CallId) (room : Nat) (shared : ServerState × Plane) : Prop :=
  ∀ call : ConferenceCall, call.roomId = room →
    Membership (shared.1.conferenceActive.insert callId call) shared.1.rooms shared.2

section Handlers

variable {server : Server} {Permits : ServerState × Plane → (op : Op) → op.Answer → Prop}
  {shared after : ServerState × Plane} {α : Type}

theorem Agreed.untouched (agree : Agreed shared) (same : Untouched shared after) :
    Agreed after := by
  unfold Agreed
  rw [same.active]
  exact agree.drifts same.plane same.rooms

theorem Entering.untouched {callId : CallId} {room : Nat} (entering : Entering callId room shared)
    (same : Untouched shared after) : Entering callId room after := by
  intro call own
  rw [same.active]
  exact (entering call own).drifts same.plane same.rooms

theorem Untouched.of_step {op : Op} {answer : op.Answer}
    (performed : (server.conferencing Permits).Perform shared op answer after)
    (spares : op.SparesMembership) : Untouched shared after where
  active := (performed.1.1.membership_eq spares).1
  rooms := (performed.1.1.membership_eq spares).2
  plane := by
    have moved : (shared.2.after op).Drifts after.2 := performed.1.2
    rwa [Plane.after_of_spares spares] at moved

/-- A program that leaves the two maps in step. -/
abbrev KeepsAgreement (server : Server) (program : Action α) : Prop :=
  ∀ shared, Agreed shared → (server.conferencing JoinsOnce).Ensures shared program
    fun _ final _ => Agreed final

theorem KeepsAgreement.of_uses {program : Action α} (uses : program.Uses Op.SparesMembership) :
    KeepsAgreement server program := by
  intro shared agree occurrences final value execution
  refine Exec.invariant Agreed ?_ execution uses agree
  intro shared op answer after spares performed agree
  exact agree.untouched (.of_step performed spares)

theorem KeepsAgreement.bind {β : Type} {program : Action α} {next : α → Action β}
    (first : KeepsAgreement server program) (rest : ∀ value, KeepsAgreement server (next value)) :
    KeepsAgreement server (program >>= next) :=
  fun shared agree => ensures_bind.mpr ((first shared agree).mono fun _ middle value kept =>
    rest value middle kept)

theorem KeepsAgreement.done (value : α) : KeepsAgreement server (.done value) :=
  fun _ agree => ensures_done.mpr agree

/-- A step that spares the memberships, and what follows. -/
theorem KeepsAgreement.request {op : Op} {next : op.Answer → Action α}
    (spares : op.SparesMembership) (rest : ∀ answer, KeepsAgreement server (next answer)) :
    KeepsAgreement server (.request op next) :=
  fun _ agree => ensures_request.mpr fun answer after performed =>
    rest answer after (agree.untouched (.of_step performed spares))

namespace Conference

variable (server) (msg : SipMessage) (src : SocketAddr)

theorem ensures_enterConference (roomId : Nat) (caller : Str) (negotiation : Negotiation)
    (relayPort : Nat) (entering : Entering msg.callKey roomId shared) :
    (server.conferencing JoinsOnce).Ensures shared
      (enterConference server msg src roomId caller negotiation relayPort)
      fun _ final _ => Agreed final := by
  refine ensures_request.mpr fun sessionId clocked performed => ?_
  replace entering := entering.untouched (.of_step performed trivial)
  refine ensures_request.mpr fun inserted stored performed => ?_
  replace entering := entering.untouched (.of_step performed trivial)
  refine ensures_request.mpr fun replaced final performed => ensures_done.mpr ?_
  obtain ⟨⟨⟨-, entered⟩, moved⟩, -⟩ := performed
  unfold Agreed
  rw [entered]
  refine Membership.drifts ?_ moved fun _ _ => Iff.rfl
  exact entering _ rfl

theorem joinRoom_keepsAgreement (roomId : Nat) (caller : Str) :
    KeepsAgreement server (joinRoom server msg src roomId caller) := by
  unfold joinRoom
  split
  · exact .done _
  refine .request trivial fun bound => ?_
  cases bound with
  | error error => exact .done _
  | ok relayPort =>
    intro shared agree
    refine ensures_request.mpr fun joined after performed => ?_
    obtain ⟨⟨⟨-, entered⟩, moved⟩, absent⟩ := performed
    refine ensures_enterConference server msg src roomId caller _ relayPort ?_
    rintro call rfl
    rw [entered]
    exact (agree.join absent call _).drifts moved fun _ _ => Iff.rfl

theorem handleInvite_keepsAgreement (roomId maxParticipants : Nat) :
    KeepsAgreement server (handleInvite server msg src roomId maxParticipants) := by
  unfold handleInvite
  split
  · exact .done _
  refine .request trivial fun active => ?_
  dsimp only [Program.bind]
  split
  · exact .done _
  refine .request trivial fun enabled => ?_
  rcases enabled with error | _ | _
  · exact .done _
  · exact .done _
  refine .request trivial fun pinHash => ?_
  cases pinHash with
  | error error => exact .done _
  | ok pinHash =>
    dsimp only [Program.bind]
    split
    · exact .done _
    refine .request trivial fun counted => ?_
    cases counted with
    | error error => exact .done _
    | ok count =>
      dsimp only [Program.bind]
      split
      · exact .done _
      · exact joinRoom_keepsAgreement server msg src roomId _

theorem handleBye_keepsAgreement : KeepsAgreement server (handleBye msg) := by
  intro shared agree
  refine ensures_request.mpr fun removed after performed => ?_
  obtain ⟨⟨⟨answered, erased⟩, moved⟩, -⟩ := performed
  obtain rfl : removed = shared.1.conferenceActive.lookup msg.callKey := answered
  -- The media side does not know yet that the call is gone.
  have before : Membership shared.1.conferenceActive after.1.rooms after.2 := by
    rw [erased]
    exact agree.drifts moved fun _ _ => Iff.rfl
  have active : after.1.conferenceActive = shared.1.conferenceActive.erase msg.callKey := by
    rw [erased]
    rfl
  cases found : shared.1.conferenceActive.lookup msg.callKey with
  | none =>
    refine ensures_done.mpr (before.congr fun other => ?_)
    rw [active]
    by_cases own : other = msg.callKey
    · rw [own, lookup_erase, found]
    · exact lookup_erase_ne own
  | some call =>
    refine ensures_request.mpr fun left later performed => ?_
    obtain ⟨⟨⟨-, entered⟩, moved⟩, -⟩ := performed
    have gone : Agreed later := by
      unfold Agreed
      rw [entered, active]
      exact (before.leave found).drifts moved fun _ _ => Iff.rfl
    refine ensures_request.mpr fun stored final performed => ensures_done.mpr ?_
    exact gone.untouched (.of_step performed trivial)

end Conference

theorem receive_keepsAgreement (messages : List (Str × SocketAddr)) :
    KeepsAgreement server (server.receive messages) := by
  induction messages with
  | nil => exact .done _
  | cons message rest ih =>
    refine KeepsAgreement.bind ?_ fun _ => ih
    exact Handler.handleText_conference (KeepsAgreement server) .of_uses .bind
      (Conference.handleBye_keepsAgreement server) (fun msg src _ => Handler.routeInvite_conference
        (KeepsAgreement server) .of_uses .bind (Conference.handleInvite_keepsAgreement server) msg
        src) _

end Handlers

/-- The texts are handled one after another, and no call joins a room while it is in a conference:
after each text, a call is active with a room exactly when it is a participant of the room, it is
a participant of at most one room, and every receive task that runs is that of an object some room
holds. -/
theorem conference_membership_agrees (server : Server) (messages : List (Str × SocketAddr))
    {occurrences : List (Occurrence signature)} {final : ServerState × Plane}
    (execution : (server.conferencing JoinsOnce).Exec (.initial, .initial)
      (server.receive messages) occurrences final ()) :
    Membership final.1.conferenceActive final.1.rooms final.2 := by
  have start : Agreed (ServerState.initial, Plane.initial) :=
    .of_iff (fun _ _ => iff_of_false nofun (AList.notMem_empty _))
      (fun _ _ => iff_of_false (AList.notMem_empty _) (AList.notMem_empty _)) nofun
  exact receive_keepsAgreement messages _ start _ _ _ execution

namespace ConferenceSample

open Scenario

/-- Two rooms for one participant each. -/
def outside : Outside
  | .query (.conferenceRoom extension _) =>
    .ok (some (if extension = "900000001".toList then 1 else 2, 1))
  | request => Scenario.outside none request

/-- A request of the call `c` to a room. -/
def request (method extension : String) : Str :=
  method.toList ++ " sip:".toList ++ extension.toList ++
    headerLines ["@t SIP/2.0", "Via: SIP/2.0/UDP a"] ++ callHeaders method ++
      headerLines ["m=audio 4000 RTP/AVP 0"]

/-- The media tasks rest. -/
def resolver : (server.system.along (Plane.companion Plane.Drifts)).Resolver :=
  (outside.resolver server).along (Plane.companion Plane.Drifts)
    (fun plane op _ => some (plane.after op)) fun moved => Option.some.inj moved ▸ .refl _

/-- Whether a step is one of `JoinsOnce`. -/
def joinsOnce (shared : ServerState × Plane) : (op : Op) → op.Answer → Bool
  | .rooms (.join _ callId _), _ => (shared.1.conferenceActive.lookup callId).isNone
  | _, _ => true

theorem joinsOnce_sound {shared : ServerState × Plane} {op : Op} {answer : op.Answer}
    (passed : joinsOnce shared op answer = true) : JoinsOnce shared op answer := by
  unfold JoinsOnce
  split
  · exact Option.isNone_iff_eq_none.mp passed
  · trivial

/-- Calls that join once. -/
def orderly : (server.conferencing JoinsOnce).Resolver :=
  resolver.under joinsOnce joinsOnce_sound

/-- Calls that join as they like. -/
def free : (server.conferencing fun _ _ _ => True).Resolver :=
  resolver.under (fun _ _ _ => true) fun _ => trivial

/-- The call joins room 1, leaves it, and joins room 2. -/
def moves : List (Str × SocketAddr) :=
  [(request "INVITE" "900000001", caller), (request "BYE" "900000001", caller),
    (request "INVITE" "900000002", caller)]

/-- The call joins room 1 twice, and then room 2. -/
def stays : List (Str × SocketAddr) :=
  [(request "INVITE" "900000001", caller), (request "INVITE" "900000001", caller),
    (request "INVITE" "900000002", caller)]

end ConferenceSample

open ConferenceSample in
theorem conference_membership_agrees_moved :
    ∃ occurrences final, (Scenario.server.conferencing JoinsOnce).Exec (.initial, .initial)
        (Scenario.server.receive moves) occurrences final () ∧
      Scenario.callId ∈ members final.1.rooms 2 ∧
      Membership final.1.conferenceActive final.1.rooms final.2 := by
  have computed : (orderly.run (.initial, .initial) (Scenario.server.receive moves)).any
      (fun (_, final, _) => decide (Scenario.callId ∈ members final.1.rooms 2)) = true := by
    decide +kernel
  obtain ⟨occurrences, final, _, execution, joined⟩ := Resolver.exists_exec computed
  exact ⟨occurrences, final, execution, of_decide_eq_true joined,
    conference_membership_agrees _ moves execution⟩

open ConferenceSample in
/-- INVITEs with the Call-ID of a call in a conference: the call is a participant of two rooms and
active with one of them, and a receive task runs whose object no room holds. -/
theorem conference_membership_diverges :
    ∃ occurrences final, (Scenario.server.conferencing fun _ _ _ => True).Exec (.initial, .initial)
        (Scenario.server.receive stays) occurrences final () ∧
      ¬ (∀ callId room, (∃ call, final.1.conferenceActive.lookup callId = some call ∧
        call.roomId = room) ↔ callId ∈ members final.1.rooms room) ∧
      ¬ (∀ callId room other, callId ∈ members final.1.rooms room →
        callId ∈ members final.1.rooms other → room = other) ∧
      ¬ ∀ id ∈ final.2.running, ∃ room callId, final.2.stored.lookup (room, callId) = some id := by
  have computed : (free.run (.initial, .initial) (Scenario.server.receive stays)).any
      (fun (_, final, _) => decide (Scenario.callId ∈ members final.1.rooms 1 ∧
        Scenario.callId ∈ members final.1.rooms 2 ∧
        (final.1.conferenceActive.lookup Scenario.callId).any (·.roomId = 2) = true ∧
        0 ∈ final.2.running ∧ ∀ entry ∈ final.2.stored.entries, entry.2 ≠ 0)) = true := by
    decide +kernel
  obtain ⟨occurrences, final, _, execution, checked⟩ := Resolver.exists_exec computed
  obtain ⟨first, second, active, runs, lost⟩ := of_decide_eq_true checked
  refine ⟨occurrences, final, execution, fun agree => ?_, fun only => ?_, fun held => ?_⟩
  · obtain ⟨call, found, one⟩ := (agree _ _).mpr first
    rw [found] at active
    exact absurd (one.symm.trans (of_decide_eq_true active)) (by decide)
  · exact absurd (only _ _ _ first second) (by decide)
  · obtain ⟨room, callId, stored⟩ := held 0 runs
    exact lost _ (AList.mem_lookup_iff.mp stored) rfl

end Sip3
