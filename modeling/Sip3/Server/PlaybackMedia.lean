import Sip3.Server.Flow.Access
import Sip3.Semantics.History

/-!
# The audio of a mailbox access call

A call to the voicemail extension is an entry of the active map and a session of the
voicemail media registry. The INVITE enters the session first, and a BYE or a CANCEL
removes both. A key that moves to another message removes the session and leaves the
entry, so that the audio task it starts finds nothing to play on. As long as no such
key is handled, a call that waits for a PIN or plays its messages has a session.
-/

namespace Sip3

open Text Semantics System

/-- The voicemail media registry has a session for the call. -/
def VoicemailLive (callId : CallId) (state : ServerState) : Prop :=
  (state.voicemailMedia.lookup callId).isSome = true

section Statements

variable (server : Server) (callId : CallId)

/-- A request that hangs the call up has been at work. -/
def HungUp (events : List server.Event) : Prop :=
  ∃ event ∈ events, event.task.Hangs server callId

/-- An audio task of the call that looks for the session finds it, unless the call has been
hung up. -/
def FindsSession (front : List server.Event) (event : server.Event) : Prop :=
  ∀ storageKey answer, event = ⟨.playWav callId storageKey, .voicemailMedia (.get callId), answer⟩ →
    HungUp server callId front ∨ answer.isSome = true

/-- Until it is hung up, an access call in the active map has a session, and so have its audio
tasks. -/
structure KeepsSession (state : ServerState) (events : List server.Event) : Prop where
  session : HungUp server callId events ∨
    ∀ call, state.voicemailActive.lookup callId = some call → call.mode.isRecording = false →
      VoicemailLive callId state
  audio : Throughout (FindsSession server callId) events

/-- The traffic of an access call in which no INFO request finds the call in playback with a key
that moves to another message. -/
def stationary : Discipline server.system where
  Admits := Access.Admitted server callId
  Allows state _ event := event.op = .voicemailActive (.get callId) →
    ∀ signal call, event.task.Signals server callId (some signal) →
      state.voicemailActive.lookup callId = some call → Voicemail.moves call.mode signal = false

end Statements

namespace PlaybackMedia

open Access

variable {server : Server} {callId : CallId}

theorem HungUp.concat {events : List server.Event} {event : server.Event}
    (hung : HungUp server callId events) : HungUp server callId (events ++ [event]) := by
  obtain ⟨earlier, member, hangs⟩ := hung
  exact ⟨earlier, List.mem_append_left _ member, hangs⟩

variable (server callId) in
/-- The call has been hung up, or there is a session. -/
def Held (state : ServerState) (events : List server.Event) : Prop :=
  HungUp server callId events ∨ VoicemailLive callId state

variable (server callId) in
/-- Until it is hung up, a call in the active map does not record and has a session. -/
structure Settled (state : ServerState) (events : List server.Event) : Prop where
  calls : HungUp server callId events ∨
    ∀ call, state.voicemailActive.lookup callId = some call →
      call.mode.isRecording = false ∧ VoicemailLive callId state
  audio : Throughout (FindsSession server callId) events

theorem Settled.held {state : ServerState} {events : List server.Event}
    (settled : Settled server callId state events) {call : VoicemailCall}
    (found : state.voicemailActive.lookup callId = some call) : Held server callId state events :=
  settled.calls.imp_right fun calls => (calls call found).2

variable (server callId) in
/-- What a task may assume at a control point. -/
def Assertion (state : ServerState) (events : List server.Event) (task : Task) : Point → Prop
  | .hanging => task.Hangs server callId
  | .info signal => task.Signals server callId signal
  | .player | .allocated _ | .checking _ _ | .opened => Held server callId state events
  | .moving => False
  | .stopping => HungUp server callId events
  | .foreign | .plain | .calling | .located _ | .entering | .pounding => True

variable (server callId) in
/-- The proof outline of an access call and its session. -/
def outline : Outline server.system (stationary server callId) Point where
  graph := Edge server callId
  start := start server callId
  Covers := Covered server callId
  Exits _ _ := True
  Global := Settled server callId
  Local := Assertion server callId
  Apart _ _ := True

section Move

variable {state after : ServerState} {events : List server.Event} {task : Task}
  {point target : Point} {op : Op} {answer : op.Answer}
  (move : (outline server callId).Move state events task point op answer target after)

include move

theorem move_held (held : Held server callId state events) :
    Held server callId after (events ++ [⟨task, op, answer⟩]) := by
  rcases held with hung | live
  · exact .inl (HungUp.concat hung)
  by_cases removes : op = .voicemailMedia (.remove callId)
  · subst removes
    have here := move.here
    obtain rfl | rfl | rfl := edge_registryRemove move.edge
    · exact .inl ⟨_, List.mem_append_right _ (List.mem_singleton_self _), here⟩
    · exact here.elim
    · exact .inl (HungUp.concat here)
  · exact .inr (move.performed.isSome_voicemailMedia removes live)

/-- The assertion of a point other than the acting task's stays true. -/
theorem move_frame {other : Task} {place : Point}
    (there : Assertion server callId state events other place) :
    Assertion server callId after (events ++ [⟨task, op, answer⟩]) other place := by
  cases place with
  | player => exact move_held move there
  | allocated settings => exact move_held move there
  | checking boxId digits => exact move_held move there
  | opened => exact move_held move there
  | stopping => exact HungUp.concat there
  | _ => exact there

/-- A call that is found leads to a point where its session is known. -/
theorem move_find {signal : Voicemail.Dtmf} {call : VoicemailCall}
    (signals : task.Signals server callId (some signal))
    (found : state.voicemailActive.lookup callId = some call)
    (looks : op = .voicemailActive (.get callId)) :
    Assertion server callId after (events ++ [⟨task, op, answer⟩]) task (menu call.mode signal) := by
  have held := move_held move (move.global.held found)
  have stays : Voicemail.moves call.mode signal = false :=
    move.allowed looks signal call signals found
  have recorded : call.mode.isRecording = true →
      HungUp server callId (events ++ [⟨task, op, answer⟩]) := by
    intro records
    rcases move.global.calls with hung | calls
    · exact HungUp.concat hung
    · cases records.symm.trans (calls call found).1
  cases mode : call.mode with
  | recording boxId mailbox =>
    rw [mode] at recorded
    cases signal with
    | pound => exact recorded rfl
    | _ => exact trivial
  | pinEntry boxId mailbox => cases signal <;> exact trivial
  | playback mailbox boxId messages currentIndex =>
    rw [mode] at stays
    rw [menu_of_stays stays]
    exact held

/-- The acting task reaches the assertion of its next point. -/
theorem move_assertion : Assertion server callId after (events ++ [⟨task, op, answer⟩]) task
    target := by
  have here : Assertion server callId state events task point := move.here
  have edge : Edge server callId point op answer target := move.edge
  have performed : op.Perform state answer after := move.performed
  cases edge with
  | loop quiet inside gated => exact move_frame move here
  | locate => exact trivial
  | allocate =>
    obtain ⟨vacant, rfl⟩ := performed
    exact .inr (RegistryOp.isSome_lookup_next_allocate _ _ _)
  | occupied => exact trivial
  | guard locked => exact trivial
  | list unlocked => exact move_held move here
  | present => exact move_held move here
  | find =>
    obtain ⟨found, -⟩ := Op.perform_voicemailGet_iff.mp performed
    exact move_find move here found.symm rfl
  | type typed => exact trivial
  | lose => exact trivial
  | read waiting =>
    obtain ⟨found, -⟩ := Op.perform_voicemailGet_iff.mp performed
    exact move_held move (move.global.held found.symm)
  | pass beyond =>
    obtain ⟨found, -⟩ := Op.perform_voicemailGet_iff.mp performed
    exact move_held move (move.global.held found.symm)
  | verify verified => exact move_held move here
  | refuse => exact trivial

/-- A call that is in the active map after a step does not record and has a session. -/
theorem move_calls : HungUp server callId (events ++ [⟨task, op, answer⟩]) ∨
    ∀ call, after.voicemailActive.lookup callId = some call →
      call.mode.isRecording = false ∧ VoicemailLive callId after := by
  have here : Assertion server callId state events task point := move.here
  by_cases hung : HungUp server callId (events ++ [⟨task, op, answer⟩])
  · exact .inl hung
  have earlier : ¬ HungUp server callId events := fun before => hung (HungUp.concat before)
  have live : Held server callId state events → VoicemailLive callId after := fun held =>
    (move_held move held).resolve_left hung
  refine .inr fun call found => ?_
  have known : ∀ {before}, state.voicemailActive.lookup callId = some before →
      before.mode.isRecording = false ∧ VoicemailLive callId after := fun there =>
    ⟨(move.global.calls.resolve_left earlier _ there).1, live (move.global.held there)⟩
  obtain ⟨before, there, same⟩ | ⟨settings, mailbox, rfl, waits⟩ |
    ⟨-, ⟨plays, rfl⟩ | ⟨before, there, stays⟩⟩ := voicemailCall_of_edge move.edge move.performed found
  · exact same ▸ known there
  · exact ⟨waits ▸ rfl, live here⟩
  · exact ⟨plays, live here⟩
  · obtain ⟨silent, session⟩ := known there
    refine ⟨?_, session⟩
    cases recording : call.mode.isRecording with
    | false => rfl
    | true => exact nomatch (stays recording).symm.trans silent

/-- An audio task finds the session it is started for. -/
theorem move_finds : FindsSession server callId events ⟨task, op, answer⟩ := by
  rintro storageKey found ⟨⟩
  obtain rfl := edge_registryGet move.edge
  obtain ⟨rfl, -⟩ := move.performed
  exact move.here

theorem move_settled : Settled server callId after (events ++ [⟨task, op, answer⟩]) :=
  ⟨move_calls move, throughout_concat_iff.mpr ⟨move.global.audio, move_finds move⟩⟩

theorem move_spawns {child : Task} (spawned : op.spawned = some child) :
    Covered server callId child ∧ Assertion server callId after (events ++ [⟨task, op, answer⟩])
      child (start server callId child) := by
  obtain ⟨covered, foreign | ⟨player, rfl, opened⟩⟩ := covered_spawned move.edge spawned
  · exact ⟨covered, foreign ▸ trivial⟩
  · refine ⟨covered, player ▸ ?_⟩
    have here := move.here
    obtain rfl | rfl := opened
    · exact move_held move here
    · exact here.elim

end Move

/-- An arriving task begins at a point whose assertion holds. -/
theorem assertion_starts {state : ServerState} {events : List server.Event} {task : Task}
    (admitted : Admitted server callId task) :
    Assertion server callId state events task (start server callId task) := by
  have begins := starts (.inl admitted)
  generalize start server callId task = point at begins
  cases begins with
  | hanging hangs => exact hangs
  | player same =>
    subst same
    exact absurd admitted not_admitted_playWav
  | info signals => exact signals
  | _ => exact trivial

variable (server callId) in
theorem valid : (outline server callId).Valid where
  follows _ covered := body_follows covered
  apart_symm _ := trivial
  arrives admitted _ := ⟨.inl admitted, assertion_starts admitted⟩
  arrives_apart _ _ _ := trivial
  acts move := ⟨move_settled move, move_assertion move⟩
  frames move there _ := move_frame move there
  separates _ _ _ := trivial
  spawns move spawned := move_spawns move spawned
  spawns_apart _ _ _ := trivial

end PlaybackMedia

open PlaybackMedia in
/-- In every run of access INVITEs and of requests inside the call in which no key moves playback
to another message, the call keeps its session. -/
theorem accessCall_keeps_session {server : Server} {callId : CallId} {before : ServerState}
    (fresh : before.voicemailActive.lookup callId = none) {config : server.Config}
    (run : Steps (stationary server callId) ⟨before, [], []⟩ config) :
    KeepsSession server callId config.shared config.events := by
  have settled : Settled server callId before ([] : List server.Event) :=
    ⟨.inr fun call found => (nomatch found.symm.trans fresh), throughout_nil⟩
  have holds : (outline server callId).Holds ⟨before, [], ([] : List Task).map launch⟩ :=
    (valid server callId).holds_launch settled nofun nofun .nil
  obtain ⟨calls, audio⟩ := ((valid server callId).holds_of_steps holds run).global
  exact ⟨calls.imp_right fun calls call found _ => (calls call found).2, audio⟩

/-- An audio task that finds the session of a call. -/
def Server.Event.plays {server : Server} (callId : CallId) (event : server.Event) : Bool :=
  match event with
  | ⟨.playWav playing _, .voicemailMedia (.get _), answer⟩ => playing = callId && answer.isSome
  | _ => false

open Scenario

/-- The call of the scenario is not in playback when its entry is read. -/
def Scenario.outsidePlayback (state : ServerState) : Op → Bool
  | .voicemailActive (.get _) => (state.voicemailActive.lookup callId).all fun call =>
    match call.mode with
    | .playback _ _ _ _ => false
    | _ => true
  | _ => true

/-- The caller enters the PIN 0, and the greeting finds the session of the call. -/
theorem accessCall_keeps_session_with_pin :
    ∃ config : mailServer.Config,
      Steps (stationary mailServer callId) mailStart config ∧
      config.events.any (Server.Event.plays callId) = true ∧
      KeepsSession mailServer callId config.shared config.events := by
  let permit : Permit mailServer.system := fun state _ event =>
    outsidePlayback state event.op
  let pin := some "0".toList
  have computed : ((mailStart.playUnder permit
      [.arrive accessInvite, mailSteps 0 pin, .arrive (keyPress '0'),
        mailSteps 1 pin, .arrive (keyPress '#'), mailSteps 2 pin,
        mailSteps 3 pin]).any fun config =>
      config.events.any (Server.Event.plays callId)) = true := by decide +kernel
  obtain ⟨config, played, plays⟩ := (Option.any_eq_true _ _).mp computed
  have admitted : [accessInvite, keyPress '0', keyPress '#'].all
      (Access.admits mailServer callId) = true := by decide +kernel
  have run : Steps (stationary mailServer callId) mailStart config := by
    refine Config.playUnder_steps ?_ ?_ played
    · rintro state events ⟨task, op, answer⟩ permitted rfl signal call - found
      have unread := (Option.all_eq_true _ _).mp permitted call found
      split at unread
      · cases unread
      · next other => cases mode : call.mode <;> simp_all [Voicemail.moves]
    · intro task member
      refine Access.admitted_of_admits _ _ (List.all_eq_true.mp admitted task ?_)
      simpa [mailSteps] using member
  exact ⟨config, run, plays, accessCall_keeps_session rfl run⟩

/-- The caller moves to the second message of a mailbox without a PIN: the call is in playback
without a session, and nobody has hung up. -/
theorem accessCall_loses_session :
    ∃ config : mailServer.Config,
      Steps (.admitting mailServer.system
        (Access.Admitted mailServer callId)) mailStart config ∧
      ¬ KeepsSession mailServer callId config.shared config.events := by
  have computed : ((mailStart.play
      [.arrive accessInvite, mailSteps 0 none, .arrive (keyPress '2'),
        mailSteps 2 none]).any fun config =>
      (!config.events.any fun event => event.task.Hangs mailServer callId) &&
      ((config.shared.voicemailActive.lookup callId).any fun call =>
        !call.mode.isRecording) &&
      (config.shared.voicemailMedia.lookup callId).isNone) = true := by decide +kernel
  obtain ⟨config, played, checked⟩ := (Option.any_eq_true _ _).mp computed
  simp only [Bool.and_eq_true, Bool.not_eq_true', List.any_eq_false, Option.any_eq_true,
    decide_eq_true_eq, Option.isNone_iff_eq_none] at checked
  obtain ⟨⟨quiet, call, found, plays⟩, gone⟩ := checked
  have admitted : [accessInvite, keyPress '2'].all
      (Access.admits mailServer callId) = true := by decide +kernel
  refine ⟨config, Config.playUnder_steps (fun _ _ _ _ => trivial) ?_ played, fun keeps => ?_⟩
  · intro task member
    refine Access.admitted_of_admits _ _ (List.all_eq_true.mp admitted task ?_)
    simpa [mailSteps] using member
  · rcases keeps.session with ⟨event, member, hangs⟩ | session
    · exact quiet event member hangs
    · have live : (config.shared.voicemailMedia.lookup callId).isSome = true :=
        session call found plays
      rw [gone] at live
      cases live

end Sip3
