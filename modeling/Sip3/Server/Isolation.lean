import Sip3.Server.Scenario

/-!
# Isolation of calls

A message changes nothing that is stored under another Call-ID, and neither do the
tasks started while it is handled. Every step of a task is on the task's own call,
a step on one call leaves the entries of the others alone, and a task is only
started for the call of the task that starts it.
-/

namespace Sip3

open Text Semantics System

variable {server : Server} {callId : CallId}

/-- A task of one call, or of none. -/
def Task.Serves (server : Server) (callId : CallId) (task : Task) : Prop :=
  task.call? server = none ∨ task.call? server = some callId

/-- A task that serves a call takes its steps on that call. -/
theorem Task.Serves.body_uses {task : Task} (serves : task.Serves server callId) :
    (task.body server).Uses (Op.For (some callId)) := by
  refine (task.body_uses server).mono fun op within => ⟨?_, within.2⟩
  rcases serves with absent | present
  · exact .inl (within.1.elim id fun same => same.trans absent)
  · exact present ▸ within.1

/-- A task started by a step on a call serves that call. -/
theorem Op.For.serves_spawned {op : Op} (within : Op.For (some callId) op) {child : Task}
    (spawned : op.spawned = some child) : child.Serves server callId := by
  obtain ⟨belongs, inside⟩ := within
  cases op with
  | spawn task =>
    obtain rfl := Option.some.inj spawned
    cases task with
    | noAnswerTimer timer => exact .inr (belongs.resolve_left nofun)
    | recording start => exact .inr (belongs.resolve_left nofun)
    | playWav playing storageKey => exact .inr (belongs.resolve_left nofun)
    | notifyMailbox username domain => exact .inl rfl
    | datagram data src => exact absurd rfl inside
    | stream raw src => exact absurd rfl inside
    | staleMedia stale => exact absurd rfl inside
    | staleWebRtc stale => exact absurd rfl inside
    | cleanUp sweep => exact absurd rfl inside
  | _ => cases spawned

/-- Whatever serves one call keeps the entries of every other call, in every run to which
nothing else is admitted. -/
theorem entries_eq_of_serves {rule : Discipline server.system}
    (admits : ∀ task, rule.Admits task → task.Serves server callId)
    {before : ServerState} {events : List server.Event} {tasks : List Task}
    (serves : ∀ task ∈ tasks, task.Serves server callId) {config : server.Config}
    (run : Steps rule ⟨before, events, tasks.map launch⟩ config) {other : CallId}
    (different : other ≠ callId) : config.shared.entries other = before.entries other := by
  refine holds_of_uses (fun state : ServerState => state.entries other = before.entries other)
    (fun _ covered => covered.body_uses) admits
    (fun _ within _ spawned => within.serves_spawned spawned) ?_ serves rfl run
  intro state op answer after within performed kept
  have elsewhere : op.key? ≠ some other := by
    rintro same
    rcases within.1 with none | here
    · exact nomatch same.symm.trans none
    · exact different (Option.some.inj (same.symm.trans here))
  exact (performed.entries_eq elsewhere).trans kept

/-- A message, with every task started while it is handled and in every interleaving of
them, changes nothing stored under another Call-ID. -/
theorem message_keeps_other_calls {task : Task} {msg : SipMessage}
    (received : task.message server = some msg) {before : ServerState}
    {events : List server.Event} {config : server.Config}
    (run : Steps (.closed server.system) ⟨before, events, [launch task]⟩ config)
    {other : CallId} (different : other ≠ msg.callKey) :
    config.shared.entries other = before.entries other := by
  have serves : task.Serves server msg.callKey := by
    cases task with
    | datagram data src => exact .inr (congrArg (Option.map _) received)
    | stream raw src => exact .inr (congrArg (Option.map _) received)
    | _ => cases received
  exact entries_eq_of_serves (fun _ admitted => False.elim admitted)
    (fun _ member => List.mem_singleton.mp member ▸ serves) run different

/-- The INVITE of the scenario enters its call and leaves another Call-ID alone. -/
theorem invite_keeps_other_call :
    ∃ config : Scenario.server.Config,
      Steps (.closed Scenario.server.system)
        ⟨.initial, [], [launch (Scenario.fromCaller "INVITE")]⟩ config ∧
      (config.shared.pendingDialogs.lookup Scenario.callId).isSome ∧
      config.shared.entries "d".toList = ServerState.initial.entries "d".toList := by
  let origin : Scenario.server.Config := ⟨.initial, [], [launch (Scenario.fromCaller "INVITE")]⟩
  have entered : ((origin.play [Scenario.steps 0 100 none]).any fun config =>
      (config.shared.pendingDialogs.lookup Scenario.callId).isSome) = true := by decide +kernel
  have parses : (((Scenario.fromCaller "INVITE").message Scenario.server).any fun msg =>
      msg.callKey ≠ "d".toList) = true := by decide +kernel
  obtain ⟨config, run, present⟩ : ∃ config, Steps (.closed Scenario.server.system) origin config ∧
      (config.shared.pendingDialogs.lookup Scenario.callId).isSome = true :=
    Config.exists_steps_of_play (fun _ _ _ => trivial) (by simp [Scenario.steps]) entered
  obtain ⟨msg, received, apart⟩ := (Option.any_eq_true _ _).mp parses
  exact ⟨config, run, present,
    message_keeps_other_calls received run (Ne.symm (of_decide_eq_true apart))⟩

end Sip3
