import Mathlib.Data.Finset.Card
import Sip3.Semantics.Outline
import Sip3.Semantics.Quota
import Sip3.Server.ConferencePlane

/-!
# The capacity of a conference room

`handle_invite` compares the limit of a room with a count of rows of
`sip_conference_participants`. The participant joins some steps later, and its row is
inserted after that, if the statement does not fail. The limit holds when the rows of a room
cover its participants whenever they are counted, and nobody joins the room between the count
and the join of an INVITE.
-/

namespace Sip3

open Text Semantics System Conference

/-- The Call-IDs of the participants of a room. -/
def participants (rooms : AList fun _ : Nat => Room) (room : Nat) : Finset CallId :=
  (members rooms room).keys.toFinset

theorem mem_participants {rooms : AList fun _ : Nat => Room} {room : Nat} {callId : CallId} :
    callId ∈ participants rooms room ↔ callId ∈ members rooms room :=
  List.mem_toFinset

/-- A row of `sip_conference_participants`: its room, and whether `left_at` is NULL. -/
structure ParticipantRow where
  room : Nat
  active : Bool

/-- The rows of `sip_conference_participants` under their Call-IDs, which are unique. -/
abbrev ParticipantRows := AList fun _ : CallId => ParticipantRow

namespace ParticipantRows

variable (rows : ParticipantRows)

/-- The INSERT of a participant. A row that is there keeps its room. -/
def enter (room : Nat) (callId : CallId) : ParticipantRows :=
  rows.insert callId ⟨((rows.lookup callId).map (·.room)).getD room, true⟩

/-- The UPDATE of a participant who leaves. -/
def leave (callId : CallId) : ParticipantRows :=
  match rows.lookup callId with
  | some row => rows.insert callId { row with active := false }
  | none => rows

/-- The COUNT of the active rows of a room. -/
def activeCount (room : Nat) : Nat :=
  (rows.entries.filter fun entry => entry.2.room = room ∧ entry.2.active = true).length

/-- The rows after a step. A statement that fails changes no row. -/
def after : (op : Op) → op.Answer → ParticipantRows
  | .ask (.query (.insertParticipant room callId _ _ _ _ _)), answer =>
    if answer.toBool then rows.enter room callId else rows
  | .ask (.query (.participantLeft callId)), answer =>
    if answer.toBool then rows.leave callId else rows
  | _, _ => rows

/-- The answers that the rows and the fixed limits of the rooms permit. A count is a `BIGINT`. -/
def Answers (limit : Nat → Nat) : (op : Op) → op.Answer → Prop
  | .ask (.query (.roomActiveCount room)), answer =>
    ∀ count, answer = .ok count → count = rows.activeCount room ∧ count < 2 ^ 63
  | .ask (.query (.conferenceRoom _ _)), answer =>
    ∀ room most, answer = .ok (some (room, most)) → most = limit room
  | _, _ => True

/-- The rows as a companion of the server. -/
abbrev companion (limit : Nat → Nat) : Companion signature where
  State := ParticipantRows
  Moves rows op answer next := rows.Answers limit op answer ∧ next = rows.after op answer

end ParticipantRows

/-- The server with the rows of the participants. -/
abbrev Server.withParticipants (server : Server) (limit : Nat → Nat) : System signature :=
  server.system.along (ParticipantRows.companion limit)

/-- A step that joins a room. -/
def Op.Joins (room : Nat) : Op → Prop
  | .rooms (.join target _ _) => target = room
  | _ => False

/-- A step that does not. -/
abbrev Op.StaysOut (room : Nat) (op : Op) : Prop :=
  ¬ op.Joins room

/-- A task counts the rows of a room, and they are fewer than its limit. -/
def FindsSpace {server : Server} {limit : Nat → Nat} (room : Nat) (task : Task)
    (event : (server.withParticipants limit).Event) : Prop :=
  event.task = task ∧ ∃ count : Int, (count % 2 ^ 64).toNat < limit room ∧
    (⟨event.op, event.answer⟩ : Occurrence signature) =
      ⟨.ask (.query (.roomActiveCount room)), .ok count⟩

/-- The runs in which the rows of a room cover its participants whenever they are counted, and
nobody joins the room between the last count of a task that found space and its join. -/
def covering (server : Server) (limit : Nat → Nat) (room : Nat) :
    Discipline (server.withParticipants limit) where
  Admits _ := True
  Allows shared events event :=
    (event.op = .ask (.query (.roomActiveCount room)) →
      (participants shared.1.rooms room).card ≤ shared.2.activeCount room) ∧
    (event.op.Joins room → Undisturbed (FindsSpace room event.task) (·.op.Joins room) events)

/-- Where a task stands: nowhere special, with a room that was looked up, or after a count that was
below the limit. -/
inductive RoomStage where
  | free
  | found (most : Nat)
  | counted

/-- How the steps of a task lead through the stages. -/
inductive RoomEdge (room : Nat) : RoomStage → (op : Op) → op.Answer → RoomStage → Prop where
  | stay {stage op answer} (elsewhere : op.StaysOut room) : RoomEdge room stage op answer stage
  | find {stage extension domain most} : RoomEdge room stage
      (.ask (.query (.conferenceRoom extension domain))) (.ok (some (room, most))) (.found most)
  | count {most count} (space : (count % 2 ^ 64).toNat < most) : RoomEdge room (.found most)
      (.ask (.query (.roomActiveCount room))) (.ok count) .counted
  | join {callId participant answer} : RoomEdge room .counted
      (.rooms (.join room callId participant)) answer .free

section Graph

variable {room : Nat}

/-- A program that follows the graph from every stage. -/
abbrev FollowsStages (room : Nat) {α : Type} (program : Action α) : Prop :=
  ∀ stage, program.Follows (RoomEdge room) stage fun _ _ => True

theorem Op.SparesMembership.staysOut {op : Op} (spares : op.SparesMembership) :
    op.StaysOut room := by
  intro joins
  unfold Joins at joins
  split at joins
  · exact spares
  · exact joins

theorem FollowsStages.of_uses {α : Type} {program : Action α}
    (uses : program.Uses (Op.StaysOut room)) : FollowsStages room program :=
  fun _ => uses.follows (fun _ elsewhere _ => .stay elsewhere) fun _ => trivial

theorem FollowsStages.bind {α β : Type} {program : Action α} {next : α → Action β}
    (first : FollowsStages room program) (rest : ∀ value, FollowsStages room (next value)) :
    FollowsStages room (program >>= next) :=
  fun stage => (first stage).bind fun value target _ => rest value target

variable (server : Server) (msg : SipMessage) (src : SocketAddr)

theorem Conference.handleBye_followsStages : FollowsStages room (handleBye msg) := by
  refine .of_uses ⟨id, fun removed => ?_⟩
  cases removed with
  | none => exact Program.uses_done _
  | some call => exact ⟨id, fun _ => ⟨id, fun _ => Program.uses_done _⟩⟩

/-- After a count, the handler joins the room at most once. -/
theorem Conference.joinRoom_follows (caller : Str) :
    (joinRoom server msg src room caller).Follows (RoomEdge room) .counted
      fun _ _ => True := by
  unfold joinRoom
  split
  · trivial
  intro bound
  refine ⟨_, .stay id, ?_⟩
  cases bound with
  | error error => trivial
  | ok relayPort =>
    refine fun joined => ⟨_, .join, ?_⟩
    exact fun sessionId => ⟨_, .stay id, fun inserted => ⟨_, .stay id, fun entered =>
      ⟨_, .stay id, trivial⟩⟩⟩

/-- A handler that knows the limit counts before it joins. -/
theorem Conference.handleInvite_follows (most : Nat) :
    (handleInvite server msg src room most).Follows (RoomEdge room) (.found most)
      fun _ _ => True := by
  unfold handleInvite
  split
  · trivial
  refine fun active => ⟨_, .stay id, ?_⟩
  dsimp only [Program.bind]
  split
  · trivial
  refine fun enabled => ⟨_, .stay id, ?_⟩
  rcases enabled with error | _ | _
  · trivial
  · trivial
  refine fun pinHash => ⟨_, .stay id, ?_⟩
  cases pinHash with
  | error error => trivial
  | ok pinHash =>
    dsimp only [Program.bind]
    split
    · trivial
    intro counted
    cases counted with
    | error error => exact ⟨_, .stay id, trivial⟩
    | ok count =>
      by_cases space : (count % 2 ^ 64).toNat < most
      · refine ⟨.counted, .count space, ?_⟩
        dsimp only [Program.bind]
        rw [if_neg (Nat.not_le.mpr space)]
        exact joinRoom_follows server msg src _
      · refine ⟨.found most, .stay id, ?_⟩
        dsimp only [Program.bind]
        rw [if_pos (Nat.le_of_not_lt space)]
        trivial

theorem Conference.lookupRoom_follows (extension domain : Str) (stage : RoomStage) :
    (lookupRoom extension domain).Follows (RoomEdge room) stage
      fun found target => ∀ most, found = some (room, most) → target = .found most := by
  unfold lookupRoom
  split
  · intro answer
    rcases answer with error | _ | ⟨target, most⟩
    · exact ⟨stage, .stay id, nofun⟩
    · exact ⟨stage, .stay id, nofun⟩
    · by_cases own : target = room
      · subst own
        refine ⟨.found most, .find, ?_⟩
        rintro _ ⟨⟩
        rfl
      · refine ⟨stage, .stay id, ?_⟩
        rintro _ ⟨⟩
        exact absurd rfl own
  · exact nofun

/-- An INVITE is handled for the room it is looked up for, with the limit of the room. -/
theorem Handler.routeInvite_followsStages :
    FollowsStages room (Handler.routeInvite server msg src) := by
  intro stage
  refine (lookupRoom_follows _ _ stage).bind fun found target limited => ?_
  rcases found with _ | ⟨other, most⟩
  · have uses := Action.uses_spares (Action.within (Endpoint.run_uses server msg src
      (.proxy .invite))) (by decide) (by decide)
    exact FollowsStages.of_uses (uses.mono fun _ spares => spares.staysOut) target
  · by_cases own : other = room
    · subst own
      obtain rfl := limited most rfl
      exact (handleInvite_follows server msg src most).bind fun _ _ _ => trivial
    · have uses : (handleInvite server msg src other most).Uses (Op.StaysOut room) := by
        refine (handleInvite_steps server msg src other most).mono fun _ step => ?_
        cases step with
        | join participant => exact own
        | _ => exact id
      exact (FollowsStages.of_uses uses target).bind fun _ _ _ => trivial

theorem Task.body_followsStages (task : Task) : FollowsStages room (task.body server) :=
  Task.body_conference (FollowsStages room)
    (fun uses => .of_uses (uses.mono fun _ spares => spares.staysOut)) .bind
    handleBye_followsStages task fun msg src _ => Handler.routeInvite_followsStages server msg src

end Graph

section Run

variable {server : Server} {limit : Nat → Nat} {room : Nat}

/-- A step changes the participants of a room by joining or leaving it. -/
theorem participants_subset {state after : ServerState} {op : Op} {answer : op.Answer}
    (performed : op.Perform state answer after) (elsewhere : op.StaysOut room) :
    participants after.rooms room ⊆ participants state.rooms room := by
  intro callId
  rw [mem_participants, mem_participants]
  by_cases spares : op.SparesMembership
  · exact ((performed.membership_eq spares).2 room callId).mp
  cases op with
  | conferenceActive table =>
    obtain ⟨-, rfl⟩ := performed
    exact id
  | rooms op =>
    obtain ⟨-, rfl⟩ := performed
    cases op with
    | join target joining participant =>
      intro member
      rcases RoomOp.mem_members_join.mp member with ⟨rfl, -⟩ | old
      · exact absurd rfl elsewhere
      · exact old
    | leave target leaving => exact fun member => (RoomOp.mem_members_leave.mp member).1
    | recordDtmf target pressing event now => exact absurd trivial spares
  | _ => exact absurd trivial spares

variable {callId : CallId} {participant : Participant}
  {answer : (Op.rooms (.join room callId participant)).Answer}
  {shared after : ServerState × ParticipantRows}
  {events : List (server.withParticipants limit).Event} {task : Task}

theorem card_participants_join {state after : ServerState}
    (performed : (Op.rooms (.join room callId participant)).Perform state answer after) :
    (participants after.rooms room).card ≤ (participants state.rooms room).card + 1 := by
  obtain ⟨-, rfl⟩ := performed
  refine (Finset.card_le_card fun call member => ?_).trans
    (Finset.card_insert_le callId (participants state.rooms room))
  rw [mem_participants, RoomOp.mem_members_join] at member
  rw [Finset.mem_insert, mem_participants]
  exact member.imp_left And.right

/-- The count that is compared as `u64` is the number of rows. -/
theorem below_of_count {count : Int} {rows most : Nat} (space : (count % 2 ^ 64).toNat < most)
    (counted : count = rows ∧ count < 2 ^ 63) : rows < most := by
  omega

/-- The room is not over its limit, and what a count has found is true until somebody joins. -/
structure WithinLimit (room : Nat) (shared : ServerState × ParticipantRows)
    (events : List (server.withParticipants limit).Event) : Prop where
  bounded : (participants shared.1.rooms room).card ≤ limit room
  upheld : ∀ task, Upheld (FindsSpace room task) (·.op.Joins room) events
    ((participants shared.1.rooms room).card < limit room)

/-- A step that does not join the room keeps it within its limit. -/
theorem WithinLimit.step {op : Op} {answer : op.Answer} (within : WithinLimit room shared events)
    (performed : (server.withParticipants limit).Perform shared op answer after)
    (covered : op = .ask (.query (.roomActiveCount room)) →
      (participants shared.1.rooms room).card ≤ shared.2.activeCount room)
    (elsewhere : op.StaysOut room) : WithinLimit room after (events ++ [⟨task, op, answer⟩]) := by
  have shrinks := Finset.card_le_card (participants_subset performed.1 elsewhere)
  refine ⟨shrinks.trans within.bounded, fun owner => ?_⟩
  refine (within.upheld owner).step (fun _ below => shrinks.trans_lt below) ?_
  rintro ⟨-, count, space, same⟩
  cases same
  have counted := below_of_count space (performed.2.1 _ rfl)
  exact (shrinks.trans (covered rfl)).trans_lt counted

/-- A join of a room with space keeps it within its limit. -/
theorem WithinLimit.join (within : WithinLimit room shared events)
    (performed : (server.withParticipants limit).Perform shared
      (.rooms (.join room callId participant)) answer after)
    (checked : ∃ check ∈ events, FindsSpace room task check)
    (undisturbed : Undisturbed (FindsSpace room task) (·.op.Joins room) events) :
    WithinLimit room after (events ++ [⟨task, .rooms (.join room callId participant), answer⟩]) := by
  have space := (within.upheld task).below checked undisturbed
  refine ⟨(card_participants_join performed.1).trans space, fun owner => ?_⟩
  refine (within.upheld owner).step (fun stays _ => absurd rfl stays) ?_
  rintro ⟨-, count, -, same⟩
  cases same

/-- The outline of the capacity proof: a task that joins has found space before. -/
def capacityOutline (server : Server) (limit : Nat → Nat) (room : Nat) :
    Outline (server.withParticipants limit) (covering server limit room) RoomStage where
  graph := RoomEdge room
  start _ := .free
  Covers _ := True
  Exits _ _ := True
  Global shared events := WithinLimit room shared events
  Local _ events task stage :=
    match stage with
    | .free => True
    | .found most => most = limit room
    | .counted => ∃ check ∈ events, FindsSpace room task check
  Apart _ _ := True

/-- What a task knows at a stage stays true in a longer history. -/
theorem capacityOutline_local {event : (server.withParticipants limit).Event} {stage : RoomStage}
    (here : (capacityOutline server limit room).Local shared events task stage) :
    (capacityOutline server limit room).Local after (events ++ [event]) task stage := by
  cases stage with
  | free => trivial
  | found most => exact here
  | counted =>
    obtain ⟨check, member, finds⟩ := here
    exact ⟨check, List.mem_append_left _ member, finds⟩

/-- Each step of a task leads to what it knows at the next stage, and nobody joins a full room. -/
theorem capacityOutline_valid (server : Server) (limit : Nat → Nat) (room : Nat) :
    (capacityOutline server limit room).Valid where
  follows task _ := Task.body_followsStages server task .free
  apart_symm _ := trivial
  arrives _ _ := ⟨trivial, trivial⟩
  arrives_apart _ _ _ := trivial
  acts := by
    intro shared events task stage op answer target after move
    obtain ⟨-, within, here, edge, performed, covered, undisturbed⟩ := move
    cases edge with
    | stay elsewhere => exact ⟨within.step performed covered elsewhere, capacityOutline_local here⟩
    | find => exact ⟨within.step performed covered id, performed.2.1 _ _ rfl⟩
    | count space =>
      obtain rfl : _ = limit room := here
      refine ⟨within.step performed covered id, _,
        List.mem_append_right _ (List.mem_singleton_self _), rfl, _, space, rfl⟩
    | join => exact ⟨within.join performed here (undisturbed rfl), trivial⟩
  frames _ there _ := capacityOutline_local there
  separates _ _ _ := trivial
  spawns _ _ := ⟨trivial, trivial⟩
  spawns_apart _ _ _ := trivial

end Run

/-- In every interleaving of any tasks in which the rows of a room cover its participants whenever
they are counted, and nobody joins the room between the last count of a task that found space and
its join, the room has at most as many participants as its limit. -/
theorem conference_capacity {server : Server} {limit : Nat → Nat} {room : Nat}
    {rows : ParticipantRows} {config : (server.withParticipants limit).Config}
    (run : Steps (covering server limit room) ⟨(.initial, rows), [], []⟩ config) :
    (participants config.shared.1.rooms room).card ≤ limit room := by
  have valid := capacityOutline_valid server limit room
  have start : (capacityOutline server limit room).Holds
      ⟨(.initial, rows), [], ([] : List Task).map launch⟩ :=
    valid.holds_launch ⟨Nat.zero_le _, fun _ => upheld_nil⟩ (fun _ _ => trivial)
      (fun _ _ => trivial) .nil
  exact (valid.holds_of_steps start run).global.bounded

namespace CapacitySample

/-- Every room has one place. -/
abbrev limit : Nat → Nat := fun _ => 1

open Scenario

/-- Room 1, with a count of its rows. -/
def outside (count : Int) : Outside
  | .query (.conferenceRoom _ _) => .ok (some (1, 1))
  | .query (.roomActiveCount _) => .ok count
  | request => Scenario.outside none request

/-- Whether the rows permit an answer, with one place in every room. -/
def answers (rows : ParticipantRows) : (op : Op) → op.Answer → Bool
  | .ask (.query (.roomActiveCount room)), answer => answer.toOption.all fun (count : Int) =>
    decide (count = rows.activeCount room ∧ count < 2 ^ 63)
  | .ask (.query (.conferenceRoom _ _)), answer => answer.toOption.all fun row =>
    row.all fun (_, most) => decide (most = 1)
  | _, _ => true

theorem answers_sound {rows : ParticipantRows} {op : Op} {answer : op.Answer}
    (passed : answers rows op answer = true) : rows.Answers limit op answer := by
  unfold ParticipantRows.Answers
  split
  · rintro count rfl
    exact of_decide_eq_true passed
  · rintro room most rfl
    exact of_decide_eq_true passed
  · trivial

/-- The outcomes with a count of the rows. -/
def resolver (count : Int) : (server.withParticipants limit).Resolver :=
  ((outside count).resolver server).along (ParticipantRows.companion limit)
    (fun rows op answer => if answers rows op answer then some (rows.after op answer) else none)
    fun moved => by
      obtain ⟨passed, same⟩ := Option.ite_none_right_eq_some.mp moved
      exact ⟨answers_sound passed, (Option.some.inj same).symm⟩

/-- The request of a call to the room. -/
def request (method call : String) : Task :=
  .stream (method.toList ++ headerLines [" sip:900000001@t SIP/2.0", "Via: SIP/2.0/UDP a",
    "From: <sip:a@t>", "To: <sip:b@t>"] ++ "Call-ID: ".toList ++ headerLines [call] ++
      "CSeq: 1 ".toList ++ headerLines [method, "", "m=audio 4000 RTP/AVP 0"])
    caller

/-- Whether a step joins room 1. -/
def joins : Op → Bool
  | .rooms (.join target _ _) => target = 1
  | _ => false

theorem joins_of_joins {op : Op} (joined : op.Joins 1) : joins op = true := by
  unfold Op.Joins at joined
  split at joined
  · exact decide_eq_true joined
  · exact joined.elim

/-- Whether a step counts the rows of room 1. -/
def counts : Op → Bool
  | .ask (.query (.roomActiveCount target)) => target = 1
  | _ => false

/-- A count that covers the participants, a join before which nobody joins, or another step. -/
def permit : System.Permit (server.withParticipants limit) := fun shared events event =>
  (!counts event.op || decide ((participants shared.1.rooms 1).card ≤ shared.2.activeCount 1)) &&
    (!joins event.op || events.all fun earlier => !joins earlier.op)

theorem permit_sound {shared : ServerState × ParticipantRows}
    {events : List (server.withParticipants limit).Event}
    {event : (server.withParticipants limit).Event}
    (passed : permit shared events event = true) :
    (covering server limit 1).Allows shared events event := by
  obtain ⟨covered, first⟩ := Bool.and_eq_true_iff.mp passed
  constructor
  · intro counting
    rw [counting] at covered
    exact of_decide_eq_true covered
  · intro joined front check back split _ _ later member again
    rw [joins_of_joins joined] at first
    have quiet := List.all_eq_true.mp first later (by simp [split, member])
    rw [joins_of_joins again] at quiet
    cases quiet

end CapacitySample

open CapacitySample in
theorem conference_capacity_busy :
    ∃ config : (Scenario.server.withParticipants limit).Config,
      Steps (covering Scenario.server limit 1) ⟨(.initial, ∅), [], []⟩ config ∧
      participants config.shared.1.rooms 1 = {"c".toList} ∧
      (participants config.shared.1.rooms 1).card ≤ 1 := by
  have computed : (Config.playUnder permit ⟨(.initial, ∅), [], []⟩
      [.arrive (request "INVITE" "c"), .act 0 100 (resolver 0), .arrive (request "INVITE" "d"),
        .act 1 100 (resolver 1)]).any
      (fun config => decide (participants config.shared.1.rooms 1 = {"c".toList})) = true := by
    decide +kernel
  obtain ⟨config, played, checked⟩ := (Option.any_eq_true _ _).mp computed
  have run : Steps (covering Scenario.server limit 1) ⟨(.initial, ∅), [], []⟩ config :=
    Config.playUnder_steps (fun _ _ _ => permit_sound) (fun _ _ => trivial) played
  exact ⟨config, run, of_decide_eq_true checked, conference_capacity run⟩

open CapacitySample in
/-- Two INVITEs are counted before one of them joins, and then both join a room with one place. -/
theorem conference_capacity_exceeded :
    ∃ config : (Scenario.server.withParticipants limit).Config,
      Steps (.free _) ⟨(.initial, ∅), [], []⟩ config ∧
      (participants config.shared.1.rooms 1).card = 2 := by
  have computed : (Config.play ⟨(.initial, ∅), [], []⟩
      [.arrive (request "INVITE" "c"), .act 0 7 (resolver 0), .arrive (request "INVITE" "d"),
        .act 1 7 (resolver 0), .act 0 100 (resolver 0), .act 1 100 (resolver 0)]).any
      (fun config => decide ((participants config.shared.1.rooms 1).card = 2)) = true := by
    decide +kernel
  exact Config.exists_steps_of_play (fun _ _ _ => trivial) (fun _ _ => trivial) computed
    |>.imp fun config both => ⟨both.1, of_decide_eq_true both.2⟩

end Sip3
