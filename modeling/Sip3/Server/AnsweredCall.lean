import Sip3.Server.Flow.Follows

/-!
# An answered call against its no-answer timer

`handle_invite` arms the timer after the forwarded INVITE has left. A 2xx response
that is handled before that finds no timer to cancel and is relayed, and the timer
armed afterwards tears the answered call down. When the handlers of final responses
look at the timer only after it has been armed, a relayed response leaves no timer
behind, and nothing can bring one back.
-/

namespace Sip3

open Semantics

namespace Op

variable {op : Op} {callId : CallId}

/-- Whether a step relays a 2xx response of a call. -/
def relaysSuccess (callId : CallId) : Op → Bool
  | send (.relay call status) _ _ => call = callId && status.any fun code => 200 ≤ code && code < 300
  | _ => false

theorem relaysFinal_of_relaysSuccess (relays : op.relaysSuccess callId = true) :
    op.relaysFinal callId = true := by
  unfold relaysSuccess at relays
  split at relays
  · next call status dest text =>
      obtain ⟨own, success⟩ := Bool.and_eq_true_iff.mp relays
      obtain ⟨code, rfl, range⟩ := (Option.any_eq_true _ _).mp success
      have final : 200 ≤ code := of_decide_eq_true (Bool.and_eq_true_iff.mp range).1
      simp [relaysFinal, of_decide_eq_true own, final]
  · cases relays

end Op

variable {server : Server}

/-- Whether an event is a step of a timer task that tears the call down: it removes the active
dialog or the media session, sends CANCEL to the callee or the answer of voicemail. -/
def Server.Event.tearsDown (callId : CallId) (event : server.Event) : Bool :=
  match event.task with
  | .noAnswerTimer _ =>
    event.op.key? = some callId &&
      event.op.kind ∈ [.dialogRemove, .mediaRemove, .sendTimerCancel, .sendTimerAnswer]
  | _ => false

/-- After a relayed 2xx response no timer task tears the call down. -/
def AnswerStands (callId : CallId) (events : List server.Event) : Prop :=
  ∀ front back, events = front ++ back → (∃ event ∈ front, event.op.relaysSuccess callId = true) →
    ∀ event ∈ back, event.tearsDown callId = false

namespace AnsweredCall

open Text System Sip3.Flow Handler

variable {callId : CallId} {state after : ServerState} {events : List server.Event} {task : Task}
  {op : Op} {answer : op.Answer} {point target : Point}

/-- A 2xx response of the call has been relayed. -/
def Relayed (callId : CallId) (events : List server.Event) : Prop :=
  ∃ event ∈ events, event.op.relaysSuccess callId = true

/-- The timer of the call has been armed. -/
def Armed (callId : CallId) (events : List server.Event) : Prop :=
  ∃ event ∈ events, ∃ handle, event.op = .noAnswer (.arm callId handle)

theorem relayed_append : Relayed callId (events ++ [⟨task, op, answer⟩]) ↔
    Relayed callId events ∨ op.relaysSuccess callId = true := by
  simp [Relayed, or_and_right, exists_or]

theorem armed_append : Armed callId (events ++ [⟨task, op, answer⟩]) ↔
    Armed callId events ∨ ∃ handle, op = .noAnswer (.arm callId handle) := by
  simp [Armed, or_and_right, exists_or]

/-- A step keeps the answer standing when it is no teardown after a relay. -/
theorem answerStands_append {event : server.Event} (stands : AnswerStands callId events)
    (spares : Relayed callId events → event.tearsDown callId = false) :
    AnswerStands callId (events ++ [event]) := by
  intro front back split relayed torn member
  rcases List.eq_nil_or_concat back with rfl | ⟨rest, last, rfl⟩
  · cases member
  · rw [List.concat_eq_append, ← List.append_assoc] at split
    obtain ⟨rfl, same⟩ := List.append_inj' split rfl
    obtain rfl := List.singleton_inj.mp same
    rw [List.concat_eq_append, List.mem_append, List.mem_singleton] at member
    rcases member with earlier | rfl
    · exact stands front rest rfl relayed torn earlier
    · obtain ⟨sent, before, relays⟩ := relayed
      exact spares ⟨sent, List.mem_append_left _ before, relays⟩

/-- The points of a timer task between its claim and the end of its entry. -/
def inFlight : Point → Bool
  | .claimed | .cleared | .parted | .delivering | .tracked | .handed | .passed | .answered
  | .suppressed | .marked | .finishing => true
  | _ => false

/-- The points of an INVITE before it arms the timer. -/
def unarmed : Point → Bool
  | .inviting _ | .entered | .forwarded => true
  | _ => false

/-- The points of handlers and of the periodic cleanup from which a dialog or a media session
is removed. -/
def removes : Point → Bool
  | .stale | .diverted | .dropped | .removing _ _ _ => true
  | _ => false

/-- The assertion at a control point. No CANCEL of the call is handled. -/
def Assertion (callId : CallId) (state : ServerState) (events : List server.Event) (task : Task) :
    Point → Prop
  | .inviting _ | .entered | .forwarded => ¬ Armed callId events
  | .responding | .diverting | .diverted => task.HandlesFinal server callId
  | .released | .holding _ =>
    task.HandlesFinal server callId ∧ state.noAnswer.lookup callId = none ∧ Armed callId events
  | .relayed | .dropped | .stale | .removing .relay _ _ | .removing .bye _ _ =>
    ∀ timer, task ≠ .noAnswerTimer timer
  | .canceling | .removing .cancel _ _ => False
  | .claimed | .cleared | .parted | .delivering | .tracked | .handed | .passed | .answered
  | .suppressed | .marked | .finishing =>
    state.noAnswer.lookup callId = some .firing ∧ Armed callId events
  | _ => True

/-- No timer rings before it is armed, none is marked canceled afterwards, and a relayed 2xx
response leaves none. -/
structure Settled (callId : CallId) (state : ServerState) (events : List server.Event) : Prop where
  rings : ∀ handle, state.noAnswer.lookup callId = some (.ringing handle) → Armed callId events
  active : Armed callId events → state.noAnswer.lookup callId ≠ some .canceled
  relayed : Relayed callId events →
    state.noAnswer.lookup callId = none ∧ Armed callId events
  stands : AnswerStands callId events

/-- There is one INVITE that has not armed the timer, and one timer task in flight. -/
def Apart (first second : Point) : Prop :=
  ¬ (unarmed first = true ∧ unarmed second = true) ∧
    ¬ (inFlight first = true ∧ inFlight second = true)

variable (server callId) in
/-- No other INVITE and no CANCEL of the call arrives, and the handler of a final response
looks at the timer only after it has been armed. -/
abbrev armedFirst : Discipline server.system where
  Admits task := ¬ task.Handles server callId .invite ∧ ¬ task.Handles server callId .cancel
  Allows _ events event := event.task.HandlesFinal server callId →
    event.op = .noAnswer (.cancel callId) → Armed callId events

variable (server callId) in
/-- The outline of an answered call. -/
def outline : Outline server.system (armedFirst server callId) Point where
  graph := Edge callId
  start := start server callId
  Covers _ := True
  Exits task stop := (start server callId task).MayStop stop
  Global := Settled callId
  Local := Assertion callId
  Apart := Apart

theorem not_timer_of_handlesFinal (handles : task.HandlesFinal server callId) (timer : TimerStart) :
    task ≠ .noAnswerTimer timer := by
  rintro rfl
  obtain ⟨msg, received, -⟩ := handles
  cases received

/-- At the points from which handlers remove, the task is not a timer. -/
theorem not_timer_of_removes (removing : removes point = true)
    (here : Assertion callId state events task point) (timer : TimerStart) :
    task ≠ .noAnswerTimer timer := by
  cases point with
  | stale => exact here timer
  | dropped => exact here timer
  | diverted => exact not_timer_of_handlesFinal here timer
  | removing remover pending dialog =>
    cases remover with
    | relay => exact here timer
    | bye => exact here timer
    | cancel => exact here.elim
  | _ => cases removing

theorem firing_of_inFlight (flies : inFlight point = true)
    (here : Assertion callId state events task point) :
    state.noAnswer.lookup callId = some .firing ∧ Armed callId events := by
  cases point <;> first | exact here | cases flies

theorem not_armed_of_unarmed (early : unarmed point = true)
    (here : Assertion callId state events task point) : ¬ Armed callId events := by
  cases point <;> first | exact here | cases early

theorem inFlight_of_checks (checks : point.checks = true) : inFlight point = true := by
  cases point <;> first | rfl | cases checks

theorem inFlight_of_finishes (finishes : point.finishes = true) : inFlight point = true := by
  cases point <;> first | rfl | cases finishes

theorem edge_tearsDown (edge : Edge callId point op answer target) (own : op.key? = some callId)
    (kind : op.kind ∈ [Kind.dialogRemove, .mediaRemove, .sendTimerCancel, .sendTimerAnswer]) :
    inFlight point = true ∨ removes point = true := by
  cases edge with
  | loop quiet _ =>
    have routine := quiet own
    revert kind routine
    generalize op.kind = kind
    cases point with
    | removing remover pending dialog => exact fun _ _ => .inr rfl
    | stale => exact fun _ _ => .inr rfl
    | diverted => exact fun _ _ => .inr rfl
    | dropped => exact fun _ _ => .inr rfl
    | claimed => exact fun _ _ => .inl rfl
    | parted => exact fun _ _ => .inl rfl
    | inviting src =>
      exact fun bad within => absurd within ((by decide :
        ∀ kind ∈ [Kind.dialogRemove, .mediaRemove, .sendTimerCancel, .sendTimerAnswer],
          kind ∉ accessKinds ++ conferenceKinds ++ deliveryKinds ++ [.sendReply]) kind bad)
    | holding addr => revert kind; simp [Point.loops]
    | _ => revert kind; decide
  | removeDialog => exact .inr rfl
  | removeMedia => exact .inr rfl
  | part => exact .inl rfl
  | answer => exact .inl rfl
  | _ => exact absurd kind (by simp)

/-- The assertions survive a step that does not arm the timer again, is no CANCEL of the
caller, and does not end the entry of a timer in flight. -/
theorem assertion_perform {actor : Task} (here : Assertion callId state events task point)
    (performed : op.Perform state answer after)
    (arms : Armed callId events ∨ unarmed point = true →
      ∀ handle, op ≠ .noAnswer (.arm callId handle))
    (cancels : op ≠ .noAnswer (.cancelForCallerCancel callId))
    (finishes : inFlight point = true → op ≠ .noAnswer (.finish callId)) :
    Assertion callId after (events ++ [⟨actor, op, answer⟩]) task point := by
  have armed : Armed callId events → Armed callId (events ++ [⟨actor, op, answer⟩]) :=
    fun before => armed_append.mpr (.inl before)
  by_cases early : unarmed point = true
  · have stays : ¬ Armed callId (events ++ [⟨actor, op, answer⟩]) := fun now =>
      (armed_append.mp now).elim (not_armed_of_unarmed early here)
        fun ⟨handle, same⟩ => arms (.inr early) handle same
    cases point <;> first | exact stays | cases early
  by_cases flies : inFlight point = true
  · obtain ⟨firing, before⟩ := firing_of_inFlight flies here
    have stays := performed.timer_eq_firing (arms (.inl before)) cancels (finishes flies) firing
    cases point <;> first | exact ⟨stays, armed before⟩ | cases flies
  cases point with
  | released =>
    obtain ⟨handles, none, before⟩ := here
    exact ⟨handles, performed.timer_eq_none (arms (.inl before)) none, armed before⟩
  | holding addr =>
    obtain ⟨handles, none, before⟩ := here
    exact ⟨handles, performed.timer_eq_none (arms (.inl before)) none, armed before⟩
  | removing remover pending dialog => cases remover <;> exact here
  | _ => first | exact here | exact absurd rfl early | exact absurd rfl flies

section Moves

variable (move : (outline server callId).Move state events task point op answer target after)

include move

theorem move_not_caller_cancel : op ≠ .noAnswer (.cancelForCallerCancel callId) := by
  rintro rfl
  obtain ⟨rfl, -⟩ := edge_cancelForCaller move.edge
  exact move.here

theorem move_not_arm (armed : Armed callId events) (handle : Handle) :
    op ≠ .noAnswer (.arm callId handle) := by
  rintro rfl
  obtain ⟨rfl, -⟩ := edge_arm move.edge
  exact move.here armed

/-- A step that relays a 2xx response is taken by a handler that has taken the timer away. -/
theorem move_relays (relays : op.relaysSuccess callId = true) :
    state.noAnswer.lookup callId = none ∧ Armed callId events := by
  obtain ⟨status, dest, text, rfl, answered⟩ :=
    Op.relaysFinal_iff.mp (Op.relaysFinal_of_relaysSuccess relays)
  obtain ⟨rfl, -⟩ := edge_relay answered move.edge
  exact move.here.2

/-- A teardown by a timer task is taken while its entry fires. -/
theorem move_tearsDown
    (tears : Server.Event.tearsDown callId (⟨task, op, answer⟩ : server.Event) = true) :
    state.noAnswer.lookup callId = some .firing := by
  unfold Server.Event.tearsDown at tears
  cases task with
  | noAnswerTimer timer =>
    obtain ⟨own, kind⟩ := Bool.and_eq_true_iff.mp tears
    rcases edge_tearsDown move.edge (of_decide_eq_true own) (of_decide_eq_true kind) with
      flies | removing
    · exact (firing_of_inFlight flies move.here).1
    · exact absurd rfl (not_timer_of_removes removing move.here timer)
  | _ => cases tears

theorem move_settled : Settled callId after (events ++ [⟨task, op, answer⟩]) := by
  have cancels := move_not_caller_cancel move
  have gone : state.noAnswer.lookup callId = none ∧ Armed callId events →
      after.noAnswer.lookup callId = none ∧ Armed callId (events ++ [⟨task, op, answer⟩]) :=
    fun ⟨absent, armed⟩ => ⟨move.performed.timer_eq_none (move_not_arm move armed) absent,
      armed_append.mpr (.inl armed)⟩
  refine ⟨?_, ?_, ?_, ?_⟩
  · intro handle rings
    by_cases arms : ∃ handle, op = .noAnswer (.arm callId handle)
    · exact armed_append.mpr (.inr arms)
    · have before := move.performed.ringing_before (not_exists.mp arms) rings
      exact armed_append.mpr (.inl (move.global.rings handle before))
  · intro armed
    rcases armed_append.mp armed with before | ⟨handle, rfl⟩
    · exact move.performed.timer_ne_canceled cancels (move.global.active before)
    · obtain ⟨-, rfl⟩ := move.performed
      exact (TimerOp.lookup_next state.noAnswer (.arm callId handle)).trans_ne nofun
  · intro relayed
    rcases relayed_append.mp relayed with before | now
    · exact gone (move.global.relayed before)
    · exact gone (move_relays move now)
  · refine answerStands_append move.global.stands fun relayed => ?_
    rw [Bool.eq_false_iff]
    intro tears
    have firing := move_tearsDown move tears
    exact nomatch firing.symm.trans (move.global.relayed relayed).1

/-- A timer in flight stays in flight until it ends its entry. -/
theorem move_inFlight (flies : inFlight point = true) (finishes : op ≠ .noAnswer (.finish callId)) :
    after.noAnswer.lookup callId = some .firing ∧
      Armed callId (events ++ [⟨task, op, answer⟩]) := by
  obtain ⟨firing, armed⟩ := firing_of_inFlight flies move.here
  exact ⟨move.performed.timer_eq_firing (move_not_arm move armed) (move_not_caller_cancel move)
    finishes firing, armed_append.mpr (.inl armed)⟩

theorem move_handlesFinal (relays : point.relays = true) : task.HandlesFinal server callId := by
  have here := move.here
  cases point <;> first | exact here | cases relays

theorem move_assertion :
    Assertion callId after (events ++ [⟨task, op, answer⟩]) task target := by
  have edge := move.edge
  cases edge with
  | loop quiet inside =>
    refine assertion_perform move.here move.performed ?_ (move_not_caller_cancel move) ?_
    · rintro - handle rfl
      obtain ⟨atForwarded, atIdle⟩ := edge_arm move.edge
      exact nomatch atForwarded.symm.trans atIdle
    · rintro flies rfl
      obtain ⟨-, rfl⟩ := edge_finish move.edge
      cases flies
  | enter => exact fun armed => (armed_append.mp armed).elim move.here nofun
  | forward => exact fun armed => (armed_append.mp armed).elim move.here nofun
  | divert => exact move.here
  | removeDiverted => exact move.here
  | fired relays => exact not_timer_of_handlesFinal (move_handlesFinal move relays)
  | release relays free =>
    -- The timer has been armed, so its entry is not the mark of an earlier cancellation.
    have handles := move_handlesFinal move relays
    have armed := move.allowed handles rfl
    refine ⟨handles, ?_, armed_append.mpr (.inl armed)⟩
    obtain absent | ⟨canceled, -⟩ := move.performed.releases free
    · exact absent
    · exact absurd canceled (move.global.active armed)
  | hold =>
    obtain ⟨handles, absent, armed⟩ := move.here
    obtain ⟨-, rfl⟩ := move.performed
    exact ⟨handles, absent, armed_append.mpr (.inl armed)⟩
  | relay => exact not_timer_of_handlesFinal move.here.1
  | drop => exact move.here
  | @removePending remover => cases remover <;> exact move.here
  | @removeDialog remover => cases remover <;> exact move.here
  | @removeMedia remover => cases remover <;> exact move.here
  | claim =>
    obtain ⟨⟨handle, rings⟩, fires⟩ := move.performed.claims
    exact ⟨fires, armed_append.mpr (.inl (move.global.rings handle rings))⟩
  | clear => exact move_inFlight move rfl nofun
  | part => exact move_inFlight move rfl nofun
  | deliver => exact move_inFlight move rfl nofun
  | giveUp => exact move_inFlight move rfl nofun
  | track => exact move_inFlight move rfl nofun
  | untrack => exact move_inFlight move rfl nofun
  | discard => exact move_inFlight move rfl nofun
  | hand => exact move_inFlight move rfl nofun
  | proceed checks => exact move_inFlight move (inFlight_of_checks checks) nofun
  | suppress checks => exact move_inFlight move (inFlight_of_checks checks) nofun
  | answer => exact move_inFlight move rfl nofun
  | mark => exact move_inFlight move rfl nofun
  | passVoicemail => exact move.here
  | passConference => exact move.here
  | cancelTimer => exact move.here
  | _ => trivial

variable {other : Task} {place : Point}

variable (there : Assertion callId state events other place) (apart : Apart point place)

include there apart

theorem move_frame : Assertion callId after (events ++ [⟨task, op, answer⟩]) other place := by
  refine assertion_perform there move.performed ?_ (move_not_caller_cancel move) ?_
  · rintro (armed | early) handle rfl
    · exact move_not_arm move armed handle rfl
    · obtain ⟨rfl, -⟩ := edge_arm move.edge
      exact apart.1 ⟨rfl, early⟩
  · rintro flies rfl
    obtain ⟨finishes, -⟩ := edge_finish move.edge
    exact apart.2 ⟨inFlight_of_finishes finishes, flies⟩

/-- A step does not start a second INVITE, nor a second timer in flight. -/
theorem move_separates : Apart target place := by
  have edge := move.edge
  refine ⟨fun ⟨early, unarmed⟩ => ?_, fun ⟨flies, flying⟩ => ?_⟩
  · cases edge <;> first | exact apart.1 ⟨early, unarmed⟩ | cases early
  · cases edge with
    | claim =>
      obtain ⟨⟨handle, rings⟩, -⟩ := move.performed.claims
      exact nomatch rings.symm.trans (firing_of_inFlight flying there).1
    | proceed checks => exact apart.2 ⟨inFlight_of_checks checks, flying⟩
    | suppress checks => exact apart.2 ⟨inFlight_of_checks checks, flying⟩
    | _ => first | exact apart.2 ⟨flies, flying⟩ | cases flies

end Moves

/-- A task that does not handle a CANCEL starts with its assertion, an INVITE before the timer
has been armed. -/
theorem assertion_starts (begins : Starts server callId task point)
    (invites : task.Handles server callId .invite → ¬ Armed callId events)
    (cancels : ¬ task.Handles server callId .cancel) :
    Assertion callId state events task point := by
  cases begins with
  | inviting handles source => exact invites handles
  | canceling handles => exact absurd handles cancels
  | stale same => exact fun timer timed => nomatch same.symm.trans timed
  | responding handles => exact handles
  | removing handles =>
    rintro timer rfl
    obtain ⟨msg, text, received, -⟩ := handles
    cases received
  | _ => trivial

/-- A task that does not handle an INVITE starts apart from all others. -/
theorem apart_starts (begins : Starts server callId task point)
    (invites : ¬ task.Handles server callId .invite) (place : Point) : Apart point place := by
  cases begins with
  | inviting handles source => exact absurd handles invites
  | _ => exact ⟨nofun, nofun⟩

variable (server callId) in
theorem valid : (outline server callId).Valid where
  follows task _ := body_follows server task
  apart_symm apart := ⟨fun both => apart.1 both.symm, fun both => apart.2 both.symm⟩
  arrives admitted _ :=
    ⟨trivial, assertion_starts (starts server callId _) (absurd · admitted.1) admitted.2⟩
  arrives_apart admitted _ _ := apart_starts (starts server callId _) admitted.1 _
  acts move := ⟨move_settled move, move_assertion move⟩
  frames move there apart := move_frame move there apart
  separates move there apart := move_separates move there apart
  spawns move spawned :=
    have internal := (starts_spawned server move.edge spawned).1
    ⟨trivial, assertion_starts (starts server callId _) (absurd · (Task.not_handles internal))
      (Task.not_handles internal)⟩
  spawns_apart move spawned _ :=
    apart_starts (starts server callId _)
      (Task.not_handles (starts_spawned server move.edge spawned).1) _

end AnsweredCall

open System

/-- A new INVITE of a call without a ringing timer, with responses, ACKs and requests of all
kinds but INVITE and CANCEL: when every handler of a final response looks at the timer only
after it has been armed, no timer task tears the call down after a relayed 2xx response. -/
theorem answeredCall_stands {callId : CallId} {before : ServerState} {invite : Task}
    (handles : invite.Handles server callId .invite)
    (fresh : ∀ handle, before.noAnswer.lookup callId ≠ some (.ringing handle))
    {config : server.Config}
    (run : Steps (AnsweredCall.armedFirst server callId) ⟨before, [], [invite].map launch⟩
      config) :
    AnswerStands callId config.events := by
  have unarmed : ¬ AnsweredCall.Armed callId ([] : List server.Event) := by
    simp [AnsweredCall.Armed]
  have unsent : ¬ AnsweredCall.Relayed callId ([] : List server.Event) := by
    simp [AnsweredCall.Relayed]
  have settled : AnsweredCall.Settled callId before ([] : List server.Event) := by
    refine ⟨fun handle rings => absurd rings (fresh handle), fun armed => absurd armed unarmed,
      fun relayed => absurd relayed unsent, ?_⟩
    intro front back split ⟨event, member, _⟩
    rw [(List.append_eq_nil_iff.mp split.symm).1] at member
    cases member
  have holds : (AnsweredCall.outline server callId).Holds ⟨before, [], [invite].map launch⟩ := by
    refine (AnsweredCall.valid server callId).holds_launch settled (fun _ _ => trivial) ?_
      (List.pairwise_singleton _ _)
    intro task member
    rw [List.mem_singleton.mp member]
    refine AnsweredCall.assertion_starts (Flow.starts server callId invite) (fun _ => unarmed) ?_
    exact fun cancels => nomatch handles.method_unique cancels
  exact ((AnsweredCall.valid server callId).holds_of_steps holds run).global.stands

open Scenario

/-- The callee's answer to the INVITE of the scenario. -/
def Scenario.okay : Task := fromCallee "200 OK" "INVITE"

/-- The timer is armed, the callee answers, the response is relayed, and no timer task tears
the call down afterwards. -/
theorem answeredCall_stands_after_arming :
    ∃ config : Scenario.server.Config,
      Steps (AnsweredCall.armedFirst Scenario.server Scenario.callId) invited config ∧
      AnsweredCall.Relayed Scenario.callId config.events ∧
      AnswerStands Scenario.callId config.events := by
  let permit : Permit Scenario.server.system := fun _ events event =>
    match event.op with
    | .noAnswer (.cancel _) => events.any fun earlier =>
      match earlier.op with
      | .noAnswer (.arm call _) => call = Scenario.callId
      | _ => false
    | _ => true
  have computed : ((invited.playUnder permit
      [Scenario.steps 0 100 (some Scenario.mailbox), .arrive okay,
        Scenario.steps 2 100 (some Scenario.mailbox)]).any fun config =>
      config.events.any (·.op.relaysSuccess Scenario.callId)) = true := by decide +kernel
  obtain ⟨config, played, relayed⟩ := (Option.any_eq_true _ _).mp computed
  have admitted : ¬ okay.Handles Scenario.server Scenario.callId .invite ∧
      ¬ okay.Handles Scenario.server Scenario.callId .cancel := by decide +kernel
  have run : Steps (AnsweredCall.armedFirst Scenario.server Scenario.callId)
      invited config := by
    refine Config.playUnder_steps ?_ ?_ played
    · rintro shared events ⟨task, op, answer⟩ permitted - rfl
      obtain ⟨earlier, member, arms⟩ := List.any_eq_true.mp permitted
      refine ⟨earlier, member, ?_⟩
      split at arms
      · next call handle same => exact ⟨handle, by rw [same, of_decide_eq_true arms]⟩
      · cases arms
    · intro task member
      obtain rfl : task = okay := by simpa [Scenario.steps] using member
      exact admitted
  exact ⟨config, run, List.any_eq_true.mp relayed,
    answeredCall_stands (by decide +kernel) (by simp [ServerState.initial]) run⟩

/-- The response and the caller's ACK are handled after the INVITE has been forwarded and
before the timer is armed: the response is relayed, and afterwards the timer tears the answered
call down. -/
theorem answeredCall_torn_down :
    ∃ config : Scenario.server.Config,
      Steps (.admitting Scenario.server.system (· ∈ [okay, fromCaller "ACK"]))
        invited config ∧
      ¬ AnswerStands Scenario.callId config.events := by
  have computed : ((invited.play
      [Scenario.steps 0 14 (some Scenario.mailbox), .arrive okay,
        Scenario.steps 1 100 (some Scenario.mailbox), .arrive (fromCaller "ACK"),
        Scenario.steps 2 100 (some Scenario.mailbox)]).any fun middle =>
      middle.events.any (·.op.relaysSuccess Scenario.callId) &&
      (middle.play [Scenario.steps 0 100 (some Scenario.mailbox),
        Scenario.steps 3 100 (some Scenario.mailbox)]).any fun final =>
      (final.events.drop middle.events.length).any
        (Server.Event.tearsDown Scenario.callId)) = true := by decide +kernel
  obtain ⟨middle, first, checked⟩ := (Option.any_eq_true _ _).mp computed
  obtain ⟨relayed, later⟩ := Bool.and_eq_true_iff.mp checked
  obtain ⟨final, second, torn⟩ := (Option.any_eq_true _ _).mp later
  have early : Steps (.admitting Scenario.server.system
      (· ∈ [okay, fromCaller "ACK"])) invited middle := by
    refine Config.playUnder_steps (fun _ _ _ _ => trivial) (fun task member => ?_) first
    show task ∈ [okay, fromCaller "ACK"]
    simpa [Scenario.steps] using member
  have late : Steps (.admitting Scenario.server.system
      (· ∈ [okay, fromCaller "ACK"])) middle final :=
    Config.playUnder_steps (fun _ _ _ _ => trivial) (by simp [Scenario.steps]) second
  obtain ⟨rest, history⟩ := late.events_append
  rw [history, List.drop_left] at torn
  obtain ⟨event, member, tears⟩ := List.any_eq_true.mp torn
  refine ⟨final, early.trans late, fun stands => ?_⟩
  have spared := stands middle.events rest history (List.any_eq_true.mp relayed) event member
  cases tears.symm.trans spared

end Sip3
