import Mathlib.Data.Finset.Card
import Sip3.Message.Reply
import Sip3.Server.ConferenceMembers

/-!
# An INVITE of a call that is in a conference

`handle_invite` notices that the Call-ID is active and goes on as for a new call: the count of
the room is compared with its limit, and `join` makes another participant, with its own
socket, its own mute state and no peer. The old one is gone from the room, but its receive
task holds its socket as long as it runs.
-/

namespace Sip3

open Text Semantics System Finset ResponseBuilder

namespace Plane

variable {plane : Plane} {room : Nat} {callId : CallId}

/-- No two places of the rooms hold one object, and new objects are new. -/
structure Distinct (plane : Plane) : Prop where
  stored_lt : ∀ {key id}, plane.stored.lookup key = some id → id < plane.next
  running_lt : ∀ {id}, id ∈ plane.running → id < plane.next
  injective : ∀ {key other id}, plane.stored.lookup key = some id →
    plane.stored.lookup other = some id → key = other

theorem Distinct.initial : Plane.initial.Distinct :=
  ⟨nofun, nofun, nofun⟩

/-- What a join stores: the new object, or what was there. -/
theorem lookup_join {key : Nat × CallId} {id : ParticipantId} :
    (plane.join room callId).stored.lookup key = some id ↔
      key = (room, callId) ∧ id = plane.next ∨
        key ≠ (room, callId) ∧ plane.stored.lookup key = some id := by
  by_cases own : key = (room, callId)
  · subst own
    simp [join, eq_comm]
  · simp [join, own, AList.lookup_insert_ne own]

theorem Distinct.join (distinct : plane.Distinct) : (plane.join room callId).Distinct where
  stored_lt found := by
    rcases lookup_join.mp found with ⟨-, rfl⟩ | ⟨-, old⟩
    · exact Nat.lt_succ_self _
    · exact Nat.lt_succ_of_lt (distinct.stored_lt old)
  running_lt runs := by
    rcases mem_insert.mp runs with rfl | old
    · exact Nat.lt_succ_self _
    · exact Nat.lt_succ_of_lt (distinct.running_lt old)
  injective found again := by
    rcases lookup_join.mp found with ⟨rfl, rfl⟩ | ⟨-, one⟩ <;>
      rcases lookup_join.mp again with ⟨rfl, same⟩ | ⟨-, two⟩
    · rfl
    · exact absurd (distinct.stored_lt two) (lt_irrefl _)
    · exact absurd (distinct.stored_lt one) (same ▸ lt_irrefl _)
    · exact distinct.injective one two

theorem lookup_leave {key : Nat × CallId} {id : ParticipantId}
    (found : (plane.leave room callId).stored.lookup key = some id) :
    plane.stored.lookup key = some id := by
  unfold leave at found
  split at found
  · exact found
  · by_cases own : key = (room, callId)
    · subst own
      exact nomatch (AList.lookup_erase _ _).symm.trans found
    · exact (AList.lookup_erase_ne own).symm.trans found

theorem running_leave : (plane.leave room callId).running ⊆ plane.running := by
  unfold leave
  split
  · exact subset_rfl
  · exact erase_subset _ _

theorem next_leave : (plane.leave room callId).next = plane.next := by
  unfold leave
  split <;> rfl

theorem Distinct.leave (distinct : plane.Distinct) : (plane.leave room callId).Distinct where
  stored_lt found := by
    rw [next_leave]
    exact distinct.stored_lt (lookup_leave found)
  running_lt runs := by
    rw [next_leave]
    exact distinct.running_lt (running_leave runs)
  injective found again := distinct.injective (lookup_leave found) (lookup_leave again)

theorem Distinct.drifts (distinct : plane.Distinct) {after : Plane} (drifts : plane.Drifts after) :
    after.Distinct where
  stored_lt found := by
    rw [drifts.next]
    exact distinct.stored_lt (drifts.stored ▸ found)
  running_lt runs := by
    rw [drifts.next]
    exact distinct.running_lt (drifts.running runs)
  injective found again := distinct.injective (drifts.stored ▸ found) (drifts.stored ▸ again)

/-- Every step of the server and of the media tasks keeps the objects distinct. -/
theorem Distinct.after (distinct : plane.Distinct) (op : Op) : (plane.after op).Distinct := by
  unfold Plane.after
  split
  · exact distinct.join
  · exact distinct.leave
  · exact distinct

theorem mem_bound {id : ParticipantId} :
    id ∈ plane.bound ↔ (∃ key, plane.stored.lookup key = some id) ∨ id ∈ plane.running := by
  unfold bound
  rw [mem_union, List.mem_toFinset]
  refine or_congr_left ⟨fun member => ?_, fun ⟨key, found⟩ => ?_⟩
  · obtain ⟨⟨key, _⟩, entry, rfl⟩ := List.mem_map.mp member
    exact ⟨key, AList.mem_lookup_iff.mpr entry⟩
  · exact List.mem_map.mpr ⟨⟨key, id⟩, AList.mem_lookup_iff.mp found, rfl⟩

/-- The socket that a join adds replaces that of the object it replaces, if no receive task holds
this object. -/
theorem card_bound_rejoin (distinct : plane.Distinct) {old : ParticipantId}
    (stored : plane.stored.lookup (room, callId) = some old) :
    (plane.join room callId).bound.card =
      plane.bound.card + if old ∈ plane.running then 1 else 0 := by
  have fresh : plane.next ∉ plane.bound := fun member => by
    rcases mem_bound.mp member with ⟨key, found⟩ | runs
    · exact lt_irrefl _ (distinct.stored_lt found)
    · exact lt_irrefl _ (distinct.running_lt runs)
  have held : old ∈ plane.bound := mem_bound.mpr (.inl ⟨_, stored⟩)
  -- The replaced object was held by this place only, and perhaps by its task.
  have other : ∀ id, (∃ key, key ≠ (room, callId) ∧ plane.stored.lookup key = some id) ↔
      (∃ key, plane.stored.lookup key = some id) ∧ id ≠ old := by
    intro id
    constructor
    · rintro ⟨key, different, found⟩
      refine ⟨⟨key, found⟩, ?_⟩
      rintro rfl
      exact different (distinct.injective found stored)
    · rintro ⟨⟨key, found⟩, different⟩
      refine ⟨key, ?_, found⟩
      rintro rfl
      exact different (Option.some.inj (found.symm.trans stored))
  have members : ∀ id, id ∈ (plane.join room callId).bound ↔
      id = plane.next ∨ id ∈ plane.running ∨
        (∃ key, plane.stored.lookup key = some id) ∧ id ≠ old := by
    intro id
    rw [mem_bound, ← other]
    simp only [lookup_join, exists_or, exists_eq_left]
    rw [show (plane.join room callId).running = insert plane.next plane.running from rfl,
      mem_insert]
    grind
  by_cases runs : old ∈ plane.running
  · rw [if_pos runs, ← card_insert_of_notMem fresh]
    congr 1
    ext id
    rw [members, mem_insert, mem_bound]
    by_cases same : id = old
    · subst same
      simp [runs]
    · tauto
  · rw [if_neg runs, Nat.add_zero, ← card_erase_add_one held,
      ← card_insert_of_notMem fun member => fresh (mem_of_mem_erase member)]
    congr 1
    ext id
    rw [members, mem_insert, mem_erase, mem_bound]
    by_cases same : id = old
    · subst same
      simp [runs]
    · tauto

end Plane

/-- A step that enters only calls with a Call-ID and a known caller. -/
def Op.EntersKnown : Op → Prop
  | .conferenceActive (.insert callId call) => callId ≠ [] ∧ call.callerAccount ≠ "unknown".toList
  | _ => True

theorem Op.SparesMembership.entersKnown {op : Op} (spares : op.SparesMembership) :
    op.EntersKnown := by
  unfold EntersKnown
  split
  · exact spares.elim
  · trivial

namespace Conference

variable (server : Server) (msg : SipMessage) (src : SocketAddr)

theorem handleInvite_entersKnown (roomId maxParticipants : Nat) :
    (handleInvite server msg src roomId maxParticipants).Uses Op.EntersKnown :=
  (handleInvite_steps server msg src roomId maxParticipants).mono fun _ step => by
    cases step with
    | enter _ called known => exact ⟨called, known⟩
    | _ => trivial

theorem handleBye_entersKnown : (handleBye msg).Uses Op.EntersKnown := by
  refine ⟨trivial, fun removed => ?_⟩
  cases removed with
  | none => exact Program.uses_done _
  | some call => exact ⟨trivial, fun _ => ⟨trivial, fun _ => Program.uses_done _⟩⟩

end Conference

/-- The server with the participants of its conferences. -/
abbrev Server.withPlane (server : Server) : System signature :=
  server.system.along (Plane.companion Plane.Drifts)

/-- What holds in every state of the server that can be reached. -/
structure ConferenceFacts (shared : ServerState × Plane) : Prop where
  distinct : shared.2.Distinct
  mirrored : ∀ room callId, (room, callId) ∈ shared.2.stored ↔ callId ∈ members shared.1.rooms room
  known : ∀ callId call, shared.1.conferenceActive.lookup callId = some call →
    callId ≠ [] ∧ call.callerAccount ≠ "unknown".toList

theorem ConferenceFacts.initial : ConferenceFacts (.initial, .initial) :=
  ⟨.initial, fun _ _ => iff_of_false (AList.notMem_empty _) (AList.notMem_empty _), nofun⟩

/-- The objects of the rooms after a step are the participants after it. -/
theorem Plane.mirrored_after {rooms : AList fun _ : Nat => Room} {plane : Plane}
    (mirrored : ∀ room callId, (room, callId) ∈ plane.stored ↔ callId ∈ members rooms room)
    (op : RoomOp) (room : Nat) (callId : CallId) :
    (room, callId) ∈ (plane.after (.rooms op)).stored ↔
      callId ∈ members (op.next rooms) room := by
  cases op with
  | join target joining participant =>
    rw [RoomOp.mem_members_join, ← mirrored]
    simp [Plane.after, Plane.join, Prod.ext_iff]
  | leave target leaving =>
    rw [RoomOp.mem_members_leave, ← mirrored]
    simp only [Plane.after, Plane.leave]
    split
    · next absent =>
        refine ⟨fun present => ⟨present, ?_⟩, And.left⟩
        rintro ⟨rfl, rfl⟩
        exact AList.lookup_eq_none.mp absent present
    · rw [AList.mem_erase, and_comm, ne_eq, Prod.mk.injEq]
  | recordDtmf target pressing event now =>
    rw [RoomOp.mem_members_recordDtmf, ← mirrored]
    rfl

theorem ConferenceFacts.step {server : Server} {shared after : ServerState × Plane} {op : Op}
    {answer : op.Answer} (facts : ConferenceFacts shared)
    (performed : server.withPlane.Perform shared op answer after) (known : op.EntersKnown) :
    ConferenceFacts after := by
  obtain ⟨performed, moved⟩ := performed
  have distinct := (facts.distinct.after op).drifts moved
  have stored : after.2.stored = (shared.2.after op).stored := moved.stored
  by_cases spares : op.SparesMembership
  · obtain ⟨active, rooms⟩ := performed.membership_eq spares
    refine ⟨distinct, fun room callId => ?_, ?_⟩
    · rw [stored, Plane.after_of_spares spares, rooms, facts.mirrored]
    · rw [active]
      exact facts.known
  · cases op with
    | rooms op =>
      obtain ⟨-, entered⟩ := performed
      refine ⟨distinct, ?_, ?_⟩
      · rw [stored, entered]
        exact Plane.mirrored_after facts.mirrored op
      · rw [entered]
        exact facts.known
    | conferenceActive table =>
      obtain ⟨-, entered⟩ := performed
      refine ⟨distinct, ?_, fun callId call found => ?_⟩
      · rw [stored, entered]
        exact facts.mirrored
      · rw [entered] at found
        rcases TableOp.lookup_next_cases shared.1.conferenceActive table callId with
          ⟨value, rfl, inserted⟩ | ⟨rfl, removed⟩ | same
        · cases inserted.symm.trans found
          exact known
        · exact nomatch removed.symm.trans found
        · exact facts.known callId call (same.symm.trans found)
    | _ => exact absurd trivial spares

/-- The facts hold in every run of the server, whatever its tasks. -/
theorem conferenceFacts_of_steps {server : Server} {config : server.withPlane.Config}
    (reached : Steps (.free _) ⟨(.initial, .initial), [], []⟩ config) :
    ConferenceFacts config.shared := by
  have uses : ∀ task : Task, True → (task.body server).Uses Op.EntersKnown := fun task _ =>
    have spares : ∀ {α : Type} {program : Action α}, program.Uses Op.SparesMembership →
        program.Uses Op.EntersKnown := fun uses => uses.mono fun _ spares => spares.entersKnown
    Task.body_conference (·.Uses Op.EntersKnown) spares .bind Conference.handleBye_entersKnown task
      fun msg src _ => Handler.routeInvite_conference (·.Uses Op.EntersKnown) spares .bind
        (Conference.handleInvite_entersKnown server) msg src
  have run : Steps (.free server.withPlane)
      ⟨(.initial, .initial), [], ([] : List Task).map launch⟩ config := reached
  exact holds_of_uses ConferenceFacts uses (fun _ _ => trivial) (fun _ _ _ _ => trivial)
    (fun _ _ _ _ known performed facts => facts.step performed known) (List.forall_mem_nil _)
    .initial run

/-- The answers with which the INVITE of a call is accepted: the caller's account is enabled, the
PIN is the room's, the room counts fewer than its limit, and a port is free. -/
def Accepting (server : Server) (msg : SipMessage) (maxParticipants : Nat)
    (_ : ServerState × Plane) : (op : Op) → op.Answer → Prop
  | .ask (.query (.accountEnabled _ _)), answer => answer = .ok true
  | .ask (.query (.roomPinHash _)), answer =>
    ∃ pinHash, answer = .ok pinHash ∧ Conference.pinRejection server msg pinHash = none
  | .ask (.query (.roomActiveCount _)), answer =>
    ∃ count : Int, answer = .ok count ∧ (count % 2 ^ 64).toNat < maxParticipants
  | .ask .bindConferencePort, answer => ∃ port, answer = .ok port
  | _, _ => True

/-- The server on its own, without the media tasks. -/
abbrev Server.onPlane (server : Server)
    (Permits : ServerState × Plane → (op : Op) → op.Answer → Prop) : System signature :=
  (server.system.along (Plane.companion Eq)).under Permits

/-- What an INVITE that is accepted does: the call joins as a participant that is not muted. -/
structure Accepted (before : ServerState × Plane) (room : Nat) (callId : CallId)
    (after : ServerState × Plane) (result : Fallible Str) : Prop where
  status : ∃ response, result = .ok response ∧ statusText response = Str.ofNat 200
  participants : ∀ call, call ∈ members after.1.rooms room ↔
    call = callId ∨ call ∈ members before.1.rooms room
  unmuted : ((members after.1.rooms room).lookup callId).map (·.muted) = some false
  plane : after.2 = before.2.join room callId

section Execution

variable {server : Server} {shared after : ServerState × Plane}

theorem onPlane_ask {Permits : ServerState × Plane → (op : Op) → op.Answer → Prop} {request : Ask}
    {answer : request.Answer}
    (performed : (server.onPlane Permits).Perform shared (.ask request) answer after) :
    after = shared :=
  Prod.ext performed.1.1 performed.1.2.symm

variable (server) (msg : SipMessage) (src : SocketAddr)

theorem Conference.ensures_joinRoom {roomId maxParticipants : Nat} (caller : Str)
    (offer : (negotiateConferenceOffer msg.body).isSome) :
    (server.onPlane (Accepting server msg maxParticipants)).Ensures shared
      (joinRoom server msg src roomId caller)
      fun _ final result => Accepted shared roomId msg.callKey final result := by
  unfold joinRoom
  split
  · next failed => exact nomatch failed ▸ offer
  refine ensures_request.mpr fun answer bound performed => ?_
  obtain rfl := onPlane_ask performed
  obtain ⟨relayPort, rfl⟩ := performed.2
  refine ensures_request.mpr fun _ joined performed => ?_
  obtain ⟨⟨⟨-, entered⟩, moved⟩, -⟩ := performed
  refine ensures_request.mpr fun _ clocked performed => ?_
  obtain rfl := onPlane_ask performed
  refine ensures_request.mpr fun _ stored performed => ?_
  obtain rfl := onPlane_ask performed
  refine ensures_request.mpr fun _ final performed => ensures_done.mpr ?_
  obtain ⟨⟨⟨-, active⟩, kept⟩, -⟩ := performed
  have rooms : final.1.rooms = _ :=
    (congrArg ServerState.rooms active).trans (congrArg ServerState.rooms entered :)
  refine ⟨⟨_, rfl, ?_⟩, fun call => ?_, ?_, kept.symm.trans moved.symm⟩
  · rw [statusText_build]
    simp only [withBody, header,
      baseResponseWithTo_eq]
  · rw [rooms, RoomOp.mem_members_join]
    simp
  · rw [rooms]
    simp [RoomOp.next, RoomOp.members_insert]

theorem Conference.ensures_handleInvite {roomId maxParticipants : Nat} {caller : Str}
    (called : msg.callKey ≠ []) (user : headerUser msg.fromHeader = some caller)
    (known : caller ≠ "unknown".toList) (offer : (negotiateConferenceOffer msg.body).isSome) :
    (server.onPlane (Accepting server msg maxParticipants)).Ensures shared
      (handleInvite server msg src roomId maxParticipants)
      fun _ final result => Accepted shared roomId msg.callKey final result := by
  have joins : ∀ shared, (server.onPlane (Accepting server msg maxParticipants)).Ensures shared
      (joinRoom server msg src roomId caller)
      fun _ final result => Accepted shared roomId msg.callKey final result := fun _ =>
    ensures_joinRoom server msg src caller offer
  unfold handleInvite
  rw [if_neg called, user]
  refine ensures_request.mpr fun active found performed => ?_
  obtain rfl : found = shared := Prod.ext performed.1.1.2 performed.1.2.symm
  change System.Ensures _ _ (if _ then _ else _) _
  rw [Option.getD_some, if_neg known]
  refine ensures_request.mpr fun enabled asked performed => ?_
  obtain rfl := onPlane_ask performed
  obtain rfl := performed.2
  refine ensures_request.mpr fun pinHash asked performed => ?_
  obtain rfl := onPlane_ask performed
  obtain ⟨pinHash, rfl, accepted⟩ := performed.2
  dsimp only [Program.bind]
  rw [accepted]
  refine ensures_request.mpr fun counted asked performed => ?_
  obtain rfl := onPlane_ask performed
  obtain ⟨count, rfl, space⟩ := performed.2
  change System.Ensures _ _ (if _ then _ else _) _
  rw [if_neg (Nat.not_le.mpr space)]
  exact joins _

end Execution

/-- A message for a room from the caller of a call that is active with it, with an offer that is
negotiated as that of its participant was. -/
structure Reinvites (shared : ServerState × Plane) (msg : SipMessage) (room : Nat)
    (participant : Participant) (id : ParticipantId) : Prop where
  active : ∃ call, shared.1.conferenceActive.lookup msg.callKey = some call ∧ call.roomId = room ∧
    headerUser msg.fromHeader = some call.callerAccount
  joined : (members shared.1.rooms room).lookup msg.callKey = some participant
  stored : shared.2.stored.lookup (room, msg.callKey) = some id
  offer : ∃ negotiation, negotiateConferenceOffer msg.body = some negotiation ∧
    negotiation.codec = participant.codec ∧ negotiation.audioPt = participant.audioPt ∧
    negotiation.telephoneEventPt = participant.telephoneEventPt

/-- In every state that can be reached, an INVITE of an active call to its room is answered with 200
and leaves the participants of the room, the number of bound sockets, and the mute state and the
peer of the participant as they were, when the room counts fewer than its limit, the statements
and the port allocation succeed, and the participant is not muted, has no peer and is no longer
received from. -/
theorem conference_reinvite_idempotent {server : Server} {config : server.withPlane.Config}
    (reached : Steps (.free _) ⟨(.initial, .initial), [], []⟩ config) {msg : SipMessage}
    {room : Nat} {participant : Participant} {id : ParticipantId}
    (reinvites : Reinvites config.shared msg room participant id)
    (unmuted : participant.muted = false) (unlearned : config.shared.2.peer id = none)
    (ended : id ∉ config.shared.2.running) {src : SocketAddr} {maxParticipants : Nat}
    {occurrences : List (Occurrence signature)} {final : ServerState × Plane}
    {result : Fallible Str}
    (execution : (server.onPlane (Accepting server msg maxParticipants)).Exec config.shared
      (Conference.handleInvite server msg src room maxParticipants) occurrences final result) :
    (∃ response, result = .ok response ∧ statusText response = Str.ofNat 200) ∧
      (∀ call, call ∈ members final.1.rooms room ↔ call ∈ members config.shared.1.rooms room) ∧
      final.2.bound.card = config.shared.2.bound.card ∧
      ((members final.1.rooms room).lookup msg.callKey).map (·.muted) = some participant.muted ∧
      ∃ held, final.2.stored.lookup (room, msg.callKey) = some held ∧
        final.2.peer held = config.shared.2.peer id := by
  have facts := conferenceFacts_of_steps reached
  obtain ⟨call, found, rfl, caller⟩ := reinvites.active
  obtain ⟨called, known⟩ := facts.known _ _ found
  obtain ⟨negotiation, offered, -⟩ := reinvites.offer
  have accepted := Conference.ensures_handleInvite server msg src called caller known
    (by rw [offered]; rfl) _ _ _ execution
  have member : msg.callKey ∈ members config.shared.1.rooms call.roomId :=
    AList.lookup_isSome.mp (by rw [reinvites.joined]; rfl)
  refine ⟨accepted.status, fun other => ?_, ?_, ?_, config.shared.2.next, ?_, ?_⟩
  · rw [accepted.participants]
    refine ⟨?_, .inr⟩
    rintro (rfl | there)
    · exact member
    · exact there
  · rw [accepted.plane, Plane.card_bound_rejoin facts.distinct reinvites.stored, if_neg ended,
      Nat.add_zero]
  · rw [accepted.unmuted, unmuted]
  · rw [accepted.plane]
    exact AList.lookup_insert _
  · rw [accepted.plane, unlearned]
    exact Function.update_self _ _ _

namespace ConferenceSample

open Scenario

/-- A room for some number of participants, in which some number of rows are active. -/
def roomWorld (limit : Nat) (count : Int) : Outside
  | .query (.conferenceRoom _ _) => .ok (some (1, limit))
  | .query (.roomActiveCount _) => .ok count
  | request => Scenario.outside none request

/-- The INVITE of the call `c`. -/
def message : SipMessage :=
  (SipMessage.parse server.platform (request "INVITE" "900000001")).toOption.get
    (by decide +kernel)

/-- The INFO request for a key. -/
def key (digit : Char) : Str :=
  "INFO sip:900000001".toList ++ headerLines ["@t SIP/2.0", "Via: SIP/2.0/UDP a",
    "Content-Type: application/dtmf-relay"] ++ callHeaders "INFO" ++
      "Signal=".toList ++ [digit]

/-- The receive tasks end. -/
def silence (plane : Plane) : Plane := { plane with running := ∅ }

/-- Every receive task gets a packet of the caller. -/
def hear (plane : Plane) : Plane :=
  { plane with peer := fun id => if id ∈ plane.running then some caller else plane.peer id }

theorem drifts_silence (plane : Plane) : plane.Drifts (silence plane) :=
  ⟨rfl, rfl, empty_subset _, fun _ => .inl rfl⟩

theorem drifts_hear (plane : Plane) : plane.Drifts (hear plane) where
  stored := rfl
  next := rfl
  running := subset_rfl
  peer id := by
    change (if _ then _ else _) = _ ∨ _ ∧ Option.isSome (if _ then _ else _)
    split
    · next runs => exact .inr ⟨runs, rfl⟩
    · exact .inl rfl

/-- A thread runs, and the media tasks move after each of its steps. -/
def steps (index limit : Nat) (media : Plane → Plane)
    (drifts : ∀ plane : Plane, plane.Drifts (media plane)) : server.withPlane.Turn :=
  .act index 100 (((roomWorld limit 0).resolver server).along _
    (fun plane op _ => some (media (plane.after op))) fun moved => Option.some.inj moved ▸ drifts _)

/-- The answers for the second INVITE. -/
def again (limit : Nat) (count : Int) :
    (server.system.along (Plane.companion Eq)).Resolver :=
  ((roomWorld limit count).resolver server).along _
    (fun plane op _ => some (plane.after op)) Option.some.inj

/-- Whether an answer is one of `Accepting`. -/
def accepting (server : Server) (msg : SipMessage) (maxParticipants : Nat)
    (_ : ServerState × Plane) : (op : Op) → op.Answer → Bool
  | .ask (.query (.accountEnabled _ _)), answer => answer.toOption = some true
  | .ask (.query (.roomPinHash _)), answer => answer.toOption.any fun pinHash =>
    (Conference.pinRejection server msg pinHash).isNone
  | .ask (.query (.roomActiveCount _)), answer => answer.toOption.any fun count =>
    decide ((count % 2 ^ 64).toNat < maxParticipants)
  | .ask .bindConferencePort, answer => answer.toOption.isSome
  | _, _ => true

theorem accepting_sound {server : Server} {msg : SipMessage} {maxParticipants : Nat}
    {shared : ServerState × Plane} {op : Op} {answer : op.Answer}
    (passed : accepting server msg maxParticipants shared op answer = true) :
    Accepting server msg maxParticipants shared op answer := by
  unfold Accepting
  split
  all_goals unfold accepting at passed
  · next answer =>
      cases answer with
      | error error => cases passed
      | ok enabled => exact congrArg Except.ok (Option.some.inj (of_decide_eq_true passed))
  · next answer =>
      cases answer with
      | error error => cases passed
      | ok pinHash => exact ⟨pinHash, rfl, Option.isNone_iff_eq_none.mp passed⟩
  · next answer =>
      cases answer with
      | error error => cases passed
      | ok count => exact ⟨count, rfl, of_decide_eq_true passed⟩
  · next answer =>
      cases answer with
      | error error => cases passed
      | ok port => exact ⟨port, rfl⟩
  · trivial

/-- Whether the second INVITE of `c` comes as `Reinvites` says. -/
def reinvites (shared : ServerState × Plane) (participant : Participant) : Bool :=
  ((shared.1.conferenceActive.lookup message.callKey).any fun call =>
    call.roomId = 1 ∧ headerUser message.fromHeader = some call.callerAccount) &&
  ((members shared.1.rooms 1).lookup message.callKey = some participant) &&
  (shared.2.stored.lookup (1, message.callKey) = some 0) &&
  (negotiateConferenceOffer message.body).any fun negotiation =>
    negotiation.codec = participant.codec ∧ negotiation.audioPt = participant.audioPt ∧
    negotiation.telephoneEventPt = participant.telephoneEventPt

theorem reinvites_sound {shared : ServerState × Plane} {participant : Participant}
    (passed : reinvites shared participant = true) : Reinvites shared message 1 participant 0 := by
  simp only [reinvites, Bool.and_eq_true, decide_eq_true_eq, Option.any_eq_true] at passed
  obtain ⟨⟨⟨active, joined⟩, stored⟩, offer⟩ := passed
  exact ⟨active, joined, stored, offer⟩

/-- A run that leads to the second INVITE, the execution of the INVITE, and a test of both ends. -/
def repeats {Permits : ServerState × Plane → (op : Op) → op.Answer → Prop}
    (resolver : (server.onPlane Permits).Resolver) (limit : Nat)
    (turns : List server.withPlane.Turn) (participant : Participant)
    (check : ServerState × Plane → ServerState × Plane → Fallible Str → Bool) : Bool :=
  (System.Config.play ⟨(.initial, .initial), [], []⟩ turns).any fun config =>
    reinvites config.shared participant &&
      (resolver.run config.shared (Conference.handleInvite server message caller 1
        limit)).any fun (_, final, result) => check config.shared final result

theorem exists_of_repeats {Permits : ServerState × Plane → (op : Op) → op.Answer → Prop}
    {resolver : (server.onPlane Permits).Resolver} {limit : Nat}
    {turns : List server.withPlane.Turn} {participant : Participant}
    {check : ServerState × Plane → ServerState × Plane → Fallible Str → Bool}
    (computed : repeats resolver limit turns participant check = true) :
    ∃ (config : server.withPlane.Config) (occurrences : List (Occurrence signature))
      (final : ServerState × Plane) (result : Fallible Str),
      Steps (.free _) ⟨(.initial, .initial), [], []⟩ config ∧
      Reinvites config.shared message 1 participant 0 ∧
      (server.onPlane Permits).Exec config.shared (Conference.handleInvite server
        message caller 1 limit) occurrences final result ∧
      check config.shared final result = true := by
  obtain ⟨config, played, passed⟩ := (Option.any_eq_true _ _).mp computed
  obtain ⟨comes, handled⟩ := Bool.and_eq_true_iff.mp passed
  obtain ⟨occurrences, final, result, execution, checked⟩ := Resolver.exists_exec handled
  exact ⟨config, occurrences, final, result, Config.playUnder_steps (fun _ _ _ _ => trivial)
    (fun _ _ => trivial) played, reinvites_sound comes, execution, checked⟩

/-- The participant of the first INVITE. -/
def participant (muted : Bool) : Participant := ⟨30000, .pcmu, 0, none, muted, none⟩

end ConferenceSample

open ConferenceSample in
theorem conference_reinvite_idempotent_silent :
    ∃ (config : Scenario.server.withPlane.Config) (occurrences : List (Occurrence signature))
      (final : ServerState × Plane) (result : Fallible Str),
      Steps (.free _) ⟨(.initial, .initial), [], []⟩ config ∧
      (Scenario.server.onPlane (Accepting Scenario.server message 2)).Exec config.shared
        (Conference.handleInvite Scenario.server message Scenario.caller 1 2) occurrences final
          result ∧
      (∃ response, result = .ok response ∧ statusText response = Str.ofNat 200) ∧
      final.2.bound.card = config.shared.2.bound.card := by
  have computed : repeats ((again 2 1).under (accepting Scenario.server message 2) accepting_sound) 2
      [.arrive (.stream (request "INVITE" "900000001") Scenario.caller),
        steps 0 2 silence drifts_silence] (participant false)
      (fun before _ _ => decide (before.2.peer 0 = none ∧ 0 ∉ before.2.running)) = true := by
    decide +kernel
  obtain ⟨config, occurrences, final, result, reached, reinvites, execution, checked⟩ :=
    exists_of_repeats computed
  obtain ⟨unlearned, ended⟩ := of_decide_eq_true checked
  obtain ⟨status, -, bound, -⟩ :=
    conference_reinvite_idempotent reached reinvites rfl unlearned ended execution
  exact ⟨config, occurrences, final, result, reached, execution, status, bound⟩

open ConferenceSample in
/-- The second INVITE of a call is refused when the room is full. When it is not, the call gets a
second socket, and a muted participant with a known peer is replaced by one that is not muted and
has none. -/
theorem conference_reinvite_not_idempotent :
    (∃ (config : Scenario.server.withPlane.Config) (occurrences : List (Occurrence signature))
      (final : ServerState × Plane) (response : Str),
      Steps (.free _) ⟨(.initial, .initial), [], []⟩ config ∧
      Reinvites config.shared message 1 (participant false) 0 ∧
      (Scenario.server.onPlane fun _ _ _ => True).Exec config.shared (Conference.handleInvite
        Scenario.server message Scenario.caller 1 1) occurrences final (.ok response) ∧
      statusText response = Str.ofNat 486) ∧
    ∃ (config : Scenario.server.withPlane.Config) (occurrences : List (Occurrence signature))
      (final : ServerState × Plane) (response : Str),
      Steps (.free _) ⟨(.initial, .initial), [], []⟩ config ∧
      Reinvites config.shared message 1 (participant true) 0 ∧
      (Scenario.server.onPlane fun _ _ _ => True).Exec config.shared (Conference.handleInvite
        Scenario.server message Scenario.caller 1 2) occurrences final (.ok response) ∧
      config.shared.2.bound.card = 1 ∧ final.2.bound.card = 2 ∧
      ((members final.1.rooms 1).lookup message.callKey).map (·.muted) = some false ∧
      config.shared.2.peer 0 = some Scenario.caller ∧
      final.2.stored.lookup (1, message.callKey) = some 1 ∧ final.2.peer 1 = none := by
  have full : repeats ((again 1 1).under (fun _ _ _ => true) fun _ => trivial) 1
      [.arrive (.stream (request "INVITE" "900000001") Scenario.caller),
        steps 0 1 hear drifts_hear] (participant false)
      (fun _ _ result => result.toOption.any fun response =>
        statusText response = Str.ofNat 486) = true := by
    decide +kernel
  have muted : repeats ((again 2 1).under (fun _ _ _ => true) fun _ => trivial) 2
      [.arrive (.stream (request "INVITE" "900000001") Scenario.caller),
        steps 0 2 hear drifts_hear, .arrive (.stream (key '*') Scenario.caller),
        steps 1 2 hear drifts_hear, .arrive (.stream (key '6') Scenario.caller),
        steps 2 2 hear drifts_hear] (participant true)
      (fun before final result => result.toOption.isSome &&
        decide (before.2.bound.card = 1 ∧ final.2.bound.card = 2 ∧
          ((members final.1.rooms 1).lookup message.callKey).map (·.muted) = some false ∧
          before.2.peer 0 = some Scenario.caller ∧
          final.2.stored.lookup (1, message.callKey) = some 1 ∧ final.2.peer 1 = none)) = true := by
    decide +kernel
  constructor
  · obtain ⟨config, occurrences, final, result, reached, reinvites, execution, checked⟩ :=
      exists_of_repeats full
    cases result with
    | error error => cases checked
    | ok response =>
      exact ⟨config, occurrences, final, response, reached, reinvites, execution,
        of_decide_eq_true checked⟩
  · obtain ⟨config, occurrences, final, result, reached, reinvites, execution, checked⟩ :=
      exists_of_repeats muted
    obtain ⟨answered, replaced⟩ := Bool.and_eq_true_iff.mp checked
    cases result with
    | error error => cases answered
    | ok response =>
      exact ⟨config, occurrences, final, response, reached, reinvites, execution,
        of_decide_eq_true replaced⟩

end Sip3
