import Sip3.Server.Flow.Follows

/-!
# The no-answer timer against the callee's answer

The caller never gets both a final response of the callee and an answer of
voicemail from the timer task. The relay takes the timer's entry away before it
looks for the caller, and the timer removes the caller before it looks at its entry
for the last time, so that whichever comes second finds nothing.
-/

namespace Sip3.NoAnswer

open Text Semantics System Sip3.Flow Handler

variable {server : Server} {callId : CallId} {state after : ServerState}
  {events : List server.Event} {task : Task} {op : Op} {answer : op.Answer} {point target : Point}

/-- A timer with this entry cannot fire any more. -/
def Dead (entry : Option TimerEntry) : Prop :=
  entry = none ∨ entry = some .canceled

/-- A timer that cannot fire only comes back by arming it. -/
theorem Dead.perform (dead : Dead (state.noAnswer.lookup callId))
    (performed : op.Perform state answer after)
    (arms : ∀ handle, op ≠ .noAnswer (.arm callId handle)) :
    Dead (after.noAnswer.lookup callId) := by
  obtain ⟨timer, rfl, own, entry⟩ | same := performed.timer_cases callId
  · rw [entry]
    cases timer with
    | arm call handle => exact absurd (own ▸ rfl) (arms handle)
    | finish call => exact .inl rfl
    | _ => rcases dead with gone | canceled <;> simp [TimerOp.entryAfter, Dead, *]
  · exact same ▸ dead

/-- After a cancellation that does not find the timer firing, the timer cannot fire. -/
theorem Dead.of_cancel {answer : TimerCancel} (free : answer ≠ .alreadyFired)
    (performed : Op.Perform state (.noAnswer (.cancel callId)) answer after) :
    Dead (after.noAnswer.lookup callId) := by
  exact (performed.releases free).imp id And.right

/-- A final response of the call has been relayed. -/
def Relayed (callId : CallId) (events : List server.Event) : Prop :=
  ∃ event ∈ events, event.op.relaysFinal callId = true

/-- The timer task has sent the answer of voicemail. -/
def Voiced (callId : CallId) (events : List server.Event) : Prop :=
  ∃ event ∈ events, event.op.answersByTimer callId = true

theorem relayed_append : Relayed callId (events ++ [⟨task, op, answer⟩]) ↔
    Relayed callId events ∨ op.relaysFinal callId = true := by
  simp [Relayed, or_and_right, exists_or]

theorem voiced_append : Voiced callId (events ++ [⟨task, op, answer⟩]) ↔
    Voiced callId events ∨ op.answersByTimer callId = true := by
  simp [Voiced, or_and_right, exists_or]

/-- The assertion at a control point. No INVITE of the call is handled. -/
def Assertion (callId : CallId) (state : ServerState) (events : List server.Event) : Point → Prop
  | .inviting _ | .entered | .forwarded => False
  | .released => Dead (state.noAnswer.lookup callId)
  | .holding _ => Dead (state.noAnswer.lookup callId) ∧ ¬ Voiced callId events
  | .cleared | .parted | .delivering | .tracked | .handed =>
    state.pendingDialogs.lookup callId = none
  | .passed => state.pendingDialogs.lookup callId = none ∧ ¬ Relayed callId events
  | _ => True

/-- A relayed response leaves the timer dead, and an answer of voicemail the caller gone. -/
structure Exclusive (callId : CallId) (state : ServerState) (events : List server.Event) : Prop where
  relayed : Relayed callId events → Dead (state.noAnswer.lookup callId)
  voiced : Voiced callId events → state.pendingDialogs.lookup callId = none
  once : ¬ (Relayed callId events ∧ Voiced callId events)

theorem exclusive_nil : Exclusive callId state ([] : List server.Event) := by
  have relayed : ¬ Relayed callId ([] : List server.Event) := by simp [Relayed]
  have voiced : ¬ Voiced callId ([] : List server.Event) := by simp [Voiced]
  exact ⟨fun sent => absurd sent relayed, fun sent => absurd sent voiced,
    fun both => relayed both.1⟩

/-- A handler that holds the caller and a timer task past its last check exclude each other. -/
def Apart (first second : Point) : Prop :=
  ¬ ((∃ addr, first = .holding addr) ∧ second = .passed) ∧
    ¬ ((∃ addr, second = .holding addr) ∧ first = .passed)

variable (server callId) in
/-- No INVITE of the call arrives. -/
abbrev noInvite : Discipline server.system :=
  .admitting server.system fun task => ¬ task.Handles server callId .invite

variable (server callId) in
/-- The outline of mutual exclusion. -/
def outline : Outline server.system (noInvite server callId) Point where
  graph := Edge callId
  start := start server callId
  Covers task := ¬ task.Handles server callId .invite
  Exits task stop := (start server callId task).MayStop stop
  Global := Exclusive callId
  Local state events _ := Assertion callId state events
  Apart := Apart

/-- The assertions survive every step that neither arms the timer nor enters the caller, and
that is not one of the two sends they speak about. -/
theorem assertion_perform (here : Assertion callId state events point)
    (performed : op.Perform state answer after)
    (arms : ∀ handle, op ≠ .noAnswer (.arm callId handle))
    (inserts : ∀ addr, op ≠ .pendingDialogs (.insert callId addr))
    (relays : point = .passed → op.relaysFinal callId ≠ true)
    (answers : (∃ addr, point = .holding addr) → op.answersByTimer callId ≠ true) :
    Assertion callId after (events ++ [⟨task, op, answer⟩] : List server.Event) point := by
  have gone : state.pendingDialogs.lookup callId = none →
      after.pendingDialogs.lookup callId = none := by
    intro absent
    obtain ⟨addr, rfl, -⟩ | ⟨-, removed⟩ | same := performed.pendingDialog_cases callId
    · exact absurd rfl (inserts addr)
    · exact removed
    · exact same.trans absent
  cases point with
  | inviting src => exact here
  | entered => exact here
  | forwarded => exact here
  | released => exact here.perform performed arms
  | holding addr =>
    refine ⟨here.1.perform performed arms, fun voiced => ?_⟩
    exact (voiced_append.mp voiced).elim here.2 (answers ⟨addr, rfl⟩)
  | passed =>
    refine ⟨gone here.1, fun relayed => ?_⟩
    exact (relayed_append.mp relayed).elim here.2 (relays rfl)
  | cleared => exact gone here
  | parted => exact gone here
  | delivering => exact gone here
  | tracked => exact gone here
  | handed => exact gone here
  | _ => trivial

section Moves

variable (move : (outline server callId).Move state events task point op answer target after)

include move

theorem move_not_arm : ∀ handle, op ≠ .noAnswer (.arm callId handle) := by
  rintro handle rfl
  obtain ⟨rfl, -⟩ := edge_arm move.edge
  exact move.here

theorem move_not_insert : ∀ addr, op ≠ .pendingDialogs (.insert callId addr) := by
  rintro addr rfl
  obtain ⟨rfl, -⟩ := edge_insert move.edge
  exact move.here

theorem move_relays (relays : op.relaysFinal callId = true) :
    ∃ addr, point = .holding addr ∧ target = .relayed := by
  obtain ⟨status, dest, text, rfl, answered⟩ := Op.relaysFinal_iff.mp relays
  exact ⟨dest, edge_relay answered move.edge⟩

theorem move_answers (answers : op.answersByTimer callId = true) :
    point = .passed ∧ target = .answered := by
  obtain ⟨dest, text, rfl⟩ := Op.answersByTimer_iff.mp answers
  exact edge_timerAnswer move.edge

theorem move_gone (absent : state.pendingDialogs.lookup callId = none) :
    after.pendingDialogs.lookup callId = none := by
  obtain ⟨addr, rfl, -⟩ | ⟨-, removed⟩ | same := move.performed.pendingDialog_cases callId
  · exact absurd rfl (move_not_insert move addr)
  · exact removed
  · exact same.trans absent

theorem move_exclusive : Exclusive callId after (events ++ [⟨task, op, answer⟩]) := by
  have arms := move_not_arm move
  constructor
  · intro relayed
    rcases relayed_append.mp relayed with before | now
    · exact (move.global.relayed before).perform move.performed arms
    · obtain ⟨addr, rfl, -⟩ := move_relays move now
      exact move.here.1.perform move.performed arms
  · intro voiced
    rcases voiced_append.mp voiced with before | now
    · exact move_gone move (move.global.voiced before)
    · obtain ⟨rfl, -⟩ := move_answers move now
      exact move_gone move move.here.1
  · rintro ⟨relayed, voiced⟩
    rcases relayed_append.mp relayed with relayedBefore | relaysNow
    · rcases voiced_append.mp voiced with voicedBefore | answersNow
      · exact move.global.once ⟨relayedBefore, voicedBefore⟩
      · obtain ⟨rfl, -⟩ := move_answers move answersNow
        exact move.here.2 relayedBefore
    · obtain ⟨addr, rfl, -⟩ := move_relays move relaysNow
      rcases voiced_append.mp voiced with voicedBefore | answersNow
      · exact move.here.2 voicedBefore
      · exact nomatch (move_answers move answersNow).1

theorem move_assertion : Assertion callId after (events ++ [⟨task, op, answer⟩]) target := by
  have gone := move_gone move
  have edge := move.edge
  cases edge with
  | loop quiet inside =>
    refine assertion_perform move.here move.performed (move_not_arm move) (move_not_insert move)
      ?_ ?_
    · rintro rfl relays
      exact nomatch (move_relays move relays).choose_spec.1
    · rintro ⟨addr, rfl⟩ answers
      exact nomatch (move_answers move answers).1
  | enter => exact move.here
  | forward => exact move.here
  | release relays free => exact Dead.of_cancel free move.performed
  | @hold addr =>
    -- The caller is still there, so voicemail has not answered.
    obtain ⟨found, rfl⟩ := move.performed
    refine ⟨move.here, fun voiced => ?_⟩
    rcases voiced_append.mp voiced with before | impossible
    · exact nomatch found.trans (move.global.voiced before)
    · cases impossible
  | clear =>
    obtain ⟨-, rfl⟩ := move.performed
    exact TableOp.lookup_next_remove _ callId
  | part => exact gone move.here
  | deliver => exact gone move.here
  | track => exact gone move.here
  | untrack => exact gone move.here
  | discard => exact gone move.here
  | hand own => exact gone move.here
  | proceed checks =>
    -- The entry is firing, so no final response has been relayed.
    have cleared : state.pendingDialogs.lookup callId = none := by
      cases point <;> first | exact move.here | cases checks
    have firing : state.noAnswer.lookup callId = some .firing :=
      of_decide_eq_true move.performed.1.symm
    refine ⟨gone cleared, fun relayed => ?_⟩
    rcases relayed_append.mp relayed with before | impossible
    · rcases move.global.relayed before with none | canceled
      · exact nomatch firing.symm.trans none
      · exact nomatch firing.symm.trans canceled
    · cases impossible
  | _ => trivial

variable {place : Point} (there : Assertion callId state events place) (apart : Apart point place)

include there apart

theorem move_frame : Assertion callId after (events ++ [⟨task, op, answer⟩]) place := by
  refine assertion_perform there move.performed (move_not_arm move) (move_not_insert move) ?_ ?_
  · rintro rfl relays
    obtain ⟨addr, same, -⟩ := move_relays move relays
    exact apart.1 ⟨⟨addr, same⟩, rfl⟩
  · rintro ⟨addr, rfl⟩ answers
    exact apart.2 ⟨⟨addr, rfl⟩, (move_answers move answers).1⟩

/-- A handler gets hold of the caller only while no timer task is past its last check, and
the other way around. -/
theorem move_separates : Apart target place := by
  have edge := move.edge
  refine ⟨?_, ?_⟩
  · rintro ⟨⟨addr, rfl⟩, rfl⟩
    cases edge with
    | loop quiet inside => exact apart.1 ⟨⟨addr, rfl⟩, rfl⟩
    | hold => exact nomatch move.performed.1.trans there.1
  · rintro ⟨⟨addr, rfl⟩, rfl⟩
    cases edge with
    | loop quiet inside => exact apart.2 ⟨⟨addr, rfl⟩, rfl⟩
    | proceed checks =>
      have firing : state.noAnswer.lookup callId = some .firing :=
        of_decide_eq_true move.performed.1.symm
      rcases there.1 with none | canceled
      · exact nomatch firing.symm.trans none
      · exact nomatch firing.symm.trans canceled

end Moves

theorem apart_of_start {first second : Point} (holds : ∀ addr, first ≠ .holding addr)
    (passes : first ≠ .passed) : Apart first second :=
  ⟨fun ⟨⟨addr, same⟩, _⟩ => holds addr same, fun ⟨_, same⟩ => passes same⟩

/-- A task that does not handle an INVITE starts with its assertion. -/
theorem assertion_starts (begins : Starts server callId task point)
    (covered : ¬ task.Handles server callId .invite) : Assertion callId state events point := by
  cases begins with
  | inviting handles source => exact absurd handles covered
  | _ => trivial

theorem apart_starts (begins : Starts server callId task point) (place : Point) :
    Apart point place := by
  cases begins <;> exact apart_of_start nofun nofun

/-- A task started by a step does not handle an INVITE. -/
theorem covered_spawned {child : Task} (edge : Edge callId point op answer target)
    (spawned : op.spawned = some child) : ¬ child.Handles server callId .invite :=
  Task.not_handles (starts_spawned server edge spawned).1

variable (server callId) in
theorem valid : (outline server callId).Valid where
  follows task _ := body_follows server task
  apart_symm apart := ⟨apart.2, apart.1⟩
  arrives admitted _ := ⟨admitted, assertion_starts (starts server callId _) admitted⟩
  arrives_apart _ _ _ := apart_starts (starts server callId _) _
  acts move := ⟨move_exclusive move, move_assertion move⟩
  frames move there apart := move_frame move there apart
  separates move there apart := move_separates move there apart
  spawns move spawned :=
    have covered := covered_spawned move.edge spawned
    ⟨covered, assertion_starts (starts server callId _) covered⟩
  spawns_apart _ _ _ := apart_starts (starts server callId _) _

end Sip3.NoAnswer

namespace Sip3

open Semantics System

/-- In every run in which no INVITE of the call is handled, the caller does not get both a
relayed final response and an answer of voicemail from the timer task. -/
theorem noAnswer_exclusion {server : Server} {callId : CallId} {before : ServerState}
    {tasks : List Task} (waiting : ∀ task ∈ tasks, ¬ task.Handles server callId .invite)
    {config : server.Config}
    (run : Steps (NoAnswer.noInvite server callId) ⟨before, [], tasks.map launch⟩ config) :
    ¬ ((∃ event ∈ config.events, event.op.relaysFinal callId = true) ∧
      ∃ event ∈ config.events, event.op.answersByTimer callId = true) := by
  have holds : (NoAnswer.outline server callId).Holds ⟨before, [], tasks.map launch⟩ := by
    refine (NoAnswer.valid server callId).holds_launch NoAnswer.exclusive_nil waiting ?_ ?_
    · intro task member
      exact NoAnswer.assertion_starts (Flow.starts server callId task) (waiting task member)
    · refine List.pairwise_of_forall_mem_list fun first _ second _ => ?_
      exact NoAnswer.apart_starts (Flow.starts server callId first) _
  exact ((NoAnswer.valid server callId).holds_of_steps holds run).global.once

open Scenario

/-- What the timer of the scenario's call captures. -/
def Scenario.timer (msg : SipMessage) : TimerStart :=
  ⟨msg, caller, callee, "sip:b@b".toList, "b".toList, 20⟩

/-- The timer task of the scenario answers the caller with voicemail, and no final response
has been relayed. -/
theorem noAnswer_exclusion_voicemail :
    ∃ (msg : SipMessage) (config : server.Config),
      Steps (NoAnswer.noInvite server callId)
        ⟨ringing, [], [Task.noAnswerTimer (timer msg)].map launch⟩ config ∧
      (∃ event ∈ config.events, event.op.answersByTimer callId = true) ∧
      ¬ ∃ event ∈ config.events, event.op.relaysFinal callId = true := by
  have computed : (((fromCaller "INVITE").message server).any fun msg =>
      ((Config.mk ringing []
        ([Task.noAnswerTimer (timer msg)].map launch)).play
          [steps 0 100 (some mailbox)]).any fun final =>
      final.events.any (·.op.answersByTimer callId)) = true := by decide +kernel
  obtain ⟨msg, -, played⟩ := (Option.any_eq_true _ _).mp computed
  obtain ⟨config, run, answered⟩ :
      ∃ config, Steps (NoAnswer.noInvite server callId) _ config ∧ _ :=
    Config.exists_steps_of_play (fun _ _ _ => trivial) (by simp [steps]) played
  have voiced := List.any_eq_true.mp answered
  refine ⟨msg, config, run, voiced, fun relayed => ?_⟩
  refine noAnswer_exclusion (fun task member => ?_) run ⟨relayed, voiced⟩
  rw [List.mem_singleton.mp member]
  rintro ⟨_, _, received, -⟩
  cases received

end Sip3
