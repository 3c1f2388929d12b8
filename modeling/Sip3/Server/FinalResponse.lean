import Sip3.Server.ResponseHandling
import Sip3.Server.Flow.Follows

/-!
# Final responses to an INVITE

A forwarded INVITE leaves the caller's address in the pending dialogs, and the
handler of a final response takes it from there. The address is lost to every
handler that removes the pending dialog for another reason: CANCEL and BYE, the
diversion of a busy response, and a final response to another request of the call.
Without those, the pending dialog stays until a final response has been relayed to
the caller or the no-answer timer has claimed the call.
-/

namespace Sip3

open Text Semantics System Sip3.Flow Handler List

variable {server : Server}

/-- The task handles a final response to the INVITE of a call. -/
def Task.AnswersInvite (server : Server) (callId : CallId) (task : Task) : Prop :=
  ∃ msg, task.message server = some msg ∧ msg.callId = some callId ∧ msg.method = none ∧
    isFinal msg = true ∧ msg.cseqMethod = some "INVITE".toList

theorem Task.answersInvite_iff {callId : CallId} {task : Task} :
    task.AnswersInvite server callId ↔ (task.message server).any (fun msg =>
      msg.callId = some callId && msg.method.isNone && isFinal msg &&
        msg.cseqMethod = some "INVITE".toList) = true := by
  simp only [Task.AnswersInvite, Option.any_eq_true, Bool.and_eq_true, decide_eq_true_eq,
    Option.isNone_iff_eq_none, and_assoc]

instance (callId : CallId) (task : Task) : Decidable (task.AnswersInvite server callId) :=
  decidable_of_iff _ Task.answersInvite_iff.symm

/-- The event is the relay of a final response to the INVITE of a call to its caller. -/
def Server.Event.AnswersCaller (callId : CallId) (caller : SocketAddr) (event : server.Event) :
    Prop :=
  event.task.AnswersInvite server callId ∧ ∃ status text,
    event.op = .send (.relay callId status) caller text ∧ status.any (· ≥ 200) = true

/-- Whether the event enters the caller of a call into the pending dialogs. -/
def Server.Event.enters (callId : CallId) (event : server.Event) : Bool :=
  event.op.key? = some callId && event.op.kind = .pendingInsert

/-- Whether the event is the claim of a call by its timer. -/
def Server.Event.claims (callId : CallId) : server.Event → Bool
  | ⟨_, .noAnswer (.claim call), true⟩ => call = callId
  | _ => false

/-- Whether the event finds an enabled mailbox. -/
def Server.Event.findsMailbox : server.Event → Bool
  | ⟨_, .ask (.query (.voicemailBox _ _)), .ok (some _)⟩ => true
  | _ => false

namespace FinalResponse

variable {callId : CallId} {caller : SocketAddr} {state after : ServerState}
  {events : List server.Event} {task : Task} {op : Op} {answer : op.Answer} {point target : Point}

/-- The caller of the call has been entered. -/
def Entered (callId : CallId) (events : List server.Event) : Prop :=
  ∃ event ∈ events, event.enters callId = true

/-- A final response to the INVITE has been relayed to the caller. -/
def Relayed (callId : CallId) (caller : SocketAddr) (events : List server.Event) : Prop :=
  ∃ event ∈ events, event.AnswersCaller callId caller

/-- Voicemail has taken the call over. -/
def TakenOver (callId : CallId) (events : List server.Event) : Prop :=
  ∃ event ∈ events, event.claims callId = true

/-- The task has acted before the caller was entered. -/
def ActedBefore (callId : CallId) (task : Task) (events : List server.Event) : Prop :=
  ∃ front back, events = front ++ back ∧ ¬ Entered callId front ∧ ∃ event ∈ front, event.task = task

/-- The caller has the answer, or voicemail has the call. -/
def Concluded (callId : CallId) (caller : SocketAddr) (events : List server.Event) : Prop :=
  Relayed callId caller events ∨ TakenOver callId events

variable {event : server.Event}

theorem Concluded.append (concluded : Concluded callId caller events) :
    Concluded callId caller (events ++ [event]) :=
  concluded.imp (fun ⟨relay, member, answers⟩ => ⟨relay, mem_append_left _ member, answers⟩)
    fun ⟨claim, member, claims⟩ => ⟨claim, mem_append_left _ member, claims⟩

theorem ActedBefore.append (acted : ActedBefore callId task events) :
    ActedBefore callId task (events ++ [event]) := by
  obtain ⟨front, back, rfl, before, own⟩ := acted
  exact ⟨front, back ++ [event], append_assoc _ _ _, before, own⟩

theorem entered_append : Entered callId (events ++ [event]) ↔
    Entered callId events ∨ event.enters callId = true := by
  simp [Entered, or_and_right, exists_or]

/-- The assertion at a control point. No CANCEL and no BYE of the call is handled, and no busy
response is diverted. -/
def Assertion (callId : CallId) (caller : SocketAddr) (events : List server.Event) (task : Task) :
    Point → Prop
  | .inviting src => src = caller
  | .responding | .released => task.AnswersInvite server callId
  | .holding addr => task.AnswersInvite server callId ∧ addr = caller
  | .missed => ActedBefore callId task events ∨ Concluded callId caller events
  | .relayed | .dropped | .claimed | .removing .relay _ _ => Concluded callId caller events
  | .diverting | .diverted | .canceling | .removing .bye _ _ | .removing .cancel _ _ => False
  | _ => True

/-- The caller entered stays pending until the call is concluded. -/
structure Kept (callId : CallId) (caller : SocketAddr) (state : ServerState)
    (events : List server.Event) : Prop where
  only : ∀ addr, state.pendingDialogs.lookup callId = some addr → addr = caller
  firing : state.noAnswer.lookup callId = some .firing → TakenOver callId events
  pending : Entered callId events →
    state.pendingDialogs.lookup callId = some caller ∨ Concluded callId caller events

variable (server callId) in
/-- No other INVITE, and no CANCEL and no BYE of the call arrives, every final response for the
call answers its INVITE, and no mailbox is found for one. -/
abbrev undisturbed : Discipline server.system where
  Admits task := ¬ task.Handles server callId .invite ∧ ¬ task.Handles server callId .cancel ∧
    ¬ task.Handles server callId .bye ∧
    (task.HandlesFinal server callId → task.AnswersInvite server callId)
  Allows _ _ event := event.task.AnswersInvite server callId →
    Server.Event.findsMailbox event = false

variable (server callId caller) in
/-- The outline of the caller's address. -/
def outline : Outline server.system (undisturbed server callId) Point where
  graph := Edge callId
  start := start server callId
  Covers _ := True
  Exits task stop := (start server callId task).MayStop stop
  Global := Kept callId caller
  Local _ events := Assertion callId caller events
  Apart _ _ := True

theorem assertion_append (here : Assertion callId caller events task point) :
    Assertion callId caller (events ++ [event]) task point := by
  cases point with
  | missed => exact here.imp ActedBefore.append Concluded.append
  | relayed => exact here.append
  | dropped => exact here.append
  | claimed => exact here.append
  | removing remover pending dialog =>
    cases remover with
    | relay => exact here.append
    | _ => exact here
  | _ => exact here

theorem enters_iff : Server.Event.enters callId (⟨task, op, answer⟩ : server.Event) = true ↔
    ∃ addr, op = .pendingDialogs (.insert callId addr) := by
  constructor
  · intro enters
    obtain ⟨own, kind⟩ := Bool.and_eq_true_iff.mp enters
    have inserts : op.kind = .pendingInsert := of_decide_eq_true kind
    have about : op.collection? = some .pendingDialogs :=
      Op.collection?_of_writes (congrArg Kind.writes inserts)
    cases op with
    | pendingDialogs table =>
      cases table with
      | insert key addr =>
        cases of_decide_eq_true own
        exact ⟨addr, rfl⟩
      | _ => cases inserts
    | _ => cases about
  · rintro ⟨addr, rfl⟩
    simp [Server.Event.enters]

section Moves

variable (move : (outline server callId caller).Move state events task point op answer target after)

include move

theorem move_inserts {addr : SocketAddr} (inserts : op = .pendingDialogs (.insert callId addr)) :
    addr = caller := by
  subst inserts
  obtain ⟨rfl, -⟩ := edge_insert move.edge
  exact move.here

/-- The caller is removed only when the call is concluded. -/
theorem move_removes (removes : op = .pendingDialogs (.remove callId)) :
    Concluded callId caller events := by
  subst removes
  have here := move.here
  obtain rfl | rfl | rfl | ⟨remover, pending, dialog, rfl⟩ := edge_pendingRemove move.edge
  · exact here.elim
  · exact here
  · exact here
  · cases remover with
    | relay => exact here
    | bye => exact here.elim
    | cancel => exact here.elim

theorem move_kept : Kept callId caller after (events ++ [⟨task, op, answer⟩]) := by
  refine ⟨fun addr found => ?_, fun fires => ?_, fun entered => ?_⟩
  · obtain ⟨_, inserts, present⟩ | ⟨-, absent⟩ | same := move.performed.pendingDialog_cases callId
    · rw [← Option.some.inj (present.symm.trans found)]
      exact move_inserts move inserts
    · exact nomatch found.symm.trans absent
    · exact move.global.only addr (same.symm.trans found)
  · rcases move.performed.firing_before fires with before | claims
    · obtain ⟨claim, member, claims⟩ := move.global.firing before
      exact ⟨claim, mem_append_left _ member, claims⟩
    · cases claims
      exact ⟨_, mem_append_right _ (mem_singleton_self _), decide_eq_true rfl⟩
  · obtain ⟨_, inserts, present⟩ | ⟨removes, -⟩ | same := move.performed.pendingDialog_cases callId
    · rw [present, move_inserts move inserts]
      exact .inl rfl
    · exact .inr (move_removes move removes).append
    · rcases entered_append.mp entered with before | now
      · rw [same]
        exact (move.global.pending before).imp id Concluded.append
      · obtain ⟨addr, rfl⟩ := enters_iff.mp now
        obtain ⟨-, rfl⟩ := move.performed
        rw [← move_inserts move rfl]
        exact .inl (TableOp.lookup_next_insert _ callId addr)

theorem move_answersInvite (relays : point.relays = true) :
    task.AnswersInvite server callId := by
  have here := move.here
  cases point with
  | responding => exact here
  | diverting => exact here.elim
  | diverted => exact here.elim
  | _ => cases relays

theorem move_assertion :
    Assertion callId caller (events ++ [⟨task, op, answer⟩]) task target := by
  have edge := move.edge
  cases edge with
  | loop quiet inside => exact assertion_append move.here
  | divert => exact nomatch move.allowed move.here
  | removeDiverted => exact move.here
  | fired relays =>
    have taken := move.global.firing move.performed.firing_of_alreadyFired
    exact Concluded.append (.inr taken)
  | release relays free => exact move_answersInvite move relays
  | miss =>
    -- Whoever was entered before is concluded; otherwise the handler came too early.
    obtain ⟨absent, -⟩ := move.performed
    by_cases entered : Entered callId events
    · rcases move.global.pending entered with present | concluded
      · exact nomatch absent.trans present
      · exact .inr concluded.append
    · refine .inl ⟨events ++ [_], [], (append_nil _).symm, ?_, _,
        mem_append_right _ (mem_singleton_self _), rfl⟩
      exact fun now => (entered_append.mp now).elim entered
        fun enters => nomatch (enters_iff.mp enters).choose_spec
  | hold =>
    obtain ⟨found, -⟩ := move.performed
    exact ⟨move.here, move.global.only _ found.symm⟩
  | relay answered =>
    obtain ⟨answers, rfl⟩ := move.here
    exact .inl ⟨_, mem_append_right _ (mem_singleton_self _), answers, _, _, rfl,
      answered⟩
  | drop => exact Concluded.append move.here
  | @removePending remover =>
    cases remover with
    | relay => exact Concluded.append move.here
    | _ => exact move.here
  | @removeDialog remover =>
    cases remover with
    | relay => exact Concluded.append move.here
    | _ => exact move.here
  | @removeMedia remover =>
    cases remover with
    | relay => exact Concluded.append move.here
    | _ => exact move.here
  | claim => exact .inr ⟨_, mem_append_right _ (mem_singleton_self _), decide_eq_true rfl⟩
  | passVoicemail => exact move.here
  | passConference => exact move.here
  | cancelTimer => exact move.here
  | _ => trivial

end Moves

/-- A task starts with its assertion: an INVITE comes from the caller, and no task handles a
CANCEL, a BYE or a final response to another request. -/
theorem assertion_starts (begins : Starts server callId task point)
    (invites : task.Handles server callId .invite → task.source = some caller)
    (cancels : ¬ task.Handles server callId .cancel) (byes : ¬ task.Handles server callId .bye)
    (answers : task.HandlesFinal server callId → task.AnswersInvite server callId) :
    Assertion callId caller events task point := by
  cases begins with
  | inviting handles source => exact Option.some.inj (source.symm.trans (invites handles))
  | responding handles => exact answers handles
  | removing handles => exact absurd handles byes
  | canceling handles => exact absurd handles cancels
  | _ => trivial

variable (server callId caller) in
theorem valid : (outline server callId caller).Valid where
  follows task _ := body_follows server task
  apart_symm _ := trivial
  arrives admitted _ :=
    ⟨trivial, assertion_starts (starts server callId _) (absurd · admitted.1) admitted.2.1
      admitted.2.2.1 admitted.2.2.2⟩
  arrives_apart _ _ _ := trivial
  acts move := ⟨move_kept move, move_assertion move⟩
  frames _ there _ := assertion_append there
  separates _ _ _ := trivial
  spawns move spawned :=
    have internal := (starts_spawned server move.edge spawned).1
    ⟨trivial, assertion_starts (starts server callId _) (absurd · (Task.not_handles internal))
      (Task.not_handles internal) (Task.not_handles internal)
      (absurd · (Task.not_handlesFinal internal))⟩
  spawns_apart _ _ _ := trivial

end FinalResponse

open FinalResponse

/-- A new call: in every state of every undisturbed run after its caller has been entered, the
caller is pending, or a final response to the INVITE has been relayed to it, or voicemail has
taken the call over; and a handler of such a response that has returned came before the caller
was entered, or leaves one of the latter two behind. -/
theorem finalResponse_reaches_caller {callId : CallId} {caller : SocketAddr}
    {before : ServerState} {invite : Task} (handles : invite.Handles server callId .invite)
    (source : invite.source = some caller)
    (fresh : before.pendingDialogs.lookup callId = none)
    (waiting : before.noAnswer.lookup callId ≠ some .firing) {config : server.Config}
    (run : Steps (undisturbed server callId) ⟨before, [], [invite].map launch⟩ config) :
    (Entered callId config.events →
      config.shared.pendingDialogs.lookup callId = some caller ∨
        Relayed callId caller config.events ∨ TakenOver callId config.events) ∧
    ∀ response : Task, response.AnswersInvite server callId →
      (⟨response, .done ()⟩ : server.system.Thread) ∈ config.threads →
      ActedBefore callId response config.events ∨
        Relayed callId caller config.events ∨ TakenOver callId config.events := by
  have nobody : ¬ Entered callId ([] : List server.Event) := by simp [Entered]
  have kept : Kept callId caller before ([] : List server.Event) :=
    ⟨fun addr found => (nomatch found.symm.trans fresh), fun firing => absurd firing waiting,
      fun entered => absurd entered nobody⟩
  have begins : Assertion callId caller ([] : List server.Event) invite
      (start server callId invite) := by
    refine assertion_starts (starts server callId invite) (fun _ => source) ?_ ?_ ?_
    · exact fun cancels => nomatch handles.method_unique cancels
    · exact fun byes => nomatch handles.method_unique byes
    · rintro ⟨msg, received, -, response, -⟩
      obtain ⟨_, text, again, -, named, -⟩ := handles
      cases received.symm.trans again
      exact nomatch response.symm.trans named
  have holds : (outline server callId caller).Holds ⟨before, [], [invite].map launch⟩ := by
    refine (valid server callId caller).holds_launch kept (fun _ _ => trivial) ?_
      (List.pairwise_singleton _ _)
    intro task member
    rw [List.mem_singleton.mp member]
    exact begins
  have reached := (valid server callId caller).holds_of_steps holds run
  refine ⟨reached.global.pending, fun response answers returned => ?_⟩
  obtain ⟨stop, exits, there⟩ := reached.returned returned
  obtain ⟨msg, received, present, isResponse, answered, -⟩ := answers
  have atStart : start server callId response = .responding :=
    start_of_handlesFinal ⟨msg, received, present, isResponse, answered⟩
  have stops : stop.concludes ∨ stop = .diverted := by
    have mayStop : (start server callId response).MayStop stop := exits
    rwa [atStart] at mayStop
  rcases stops with (rfl | rfl | rfl) | rfl
  · exact there
  · exact .inr there
  · exact .inr there
  · exact there.elim

open Scenario

/-- A call without a mailbox is answered with a busy response: its caller is not pending any
more, voicemail has not taken over, and so the response has been relayed. -/
theorem finalResponse_reaches_caller_busy :
    ∃ config : Scenario.server.Config,
      Steps (undisturbed Scenario.server Scenario.callId) invited config ∧
      Entered Scenario.callId config.events ∧
      Relayed Scenario.callId Scenario.caller config.events := by
  have computed : ((invited.playUnder (fun _ _ event => !Server.Event.findsMailbox event)
      [Scenario.steps 0 100 none, .arrive busy, Scenario.steps 1 100 none]).any
      fun config => config.events.any (Server.Event.enters Scenario.callId) &&
        (config.shared.pendingDialogs.lookup Scenario.callId).isNone &&
        !config.events.any (Server.Event.claims Scenario.callId)) = true := by decide +kernel
  obtain ⟨config, played, checked⟩ := (Option.any_eq_true _ _).mp computed
  simp only [Bool.and_eq_true, Option.isNone_iff_eq_none, Bool.not_eq_true'] at checked
  obtain ⟨⟨entered, absent⟩, unclaimed⟩ := checked
  have admitted : (undisturbed Scenario.server Scenario.callId).Admits busy :=
    ⟨by decide +kernel, by decide +kernel, by decide +kernel, fun _ => by decide +kernel⟩
  have run : Steps (undisturbed Scenario.server Scenario.callId) invited config := by
    refine Config.playUnder_steps (fun _ _ _ permitted _ => ?_) (fun task member => ?_) played
    · exact (Bool.not_eq_true' _).mp permitted
    · obtain rfl : task = busy := by simpa [Scenario.steps] using member
      exact admitted
  have present : Entered Scenario.callId config.events := List.any_eq_true.mp entered
  refine ⟨config, run, present, ?_⟩
  rcases (finalResponse_reaches_caller (by decide +kernel) rfl (by simp [ServerState.initial])
    (by simp [ServerState.initial]) run).1 present with pending | relayed | taken
  · exact nomatch pending.symm.trans absent
  · exact relayed
  · exact absurd (List.any_eq_true.mpr taken) (Bool.eq_false_iff.mp unclaimed)

/-- The callee's answer to a canceled INVITE. -/
def Scenario.terminated : Task := fromCallee "487 Request Terminated" "INVITE"

/-- The INVITE is forwarded and canceled by its caller: the caller is not pending any more, and
the 487 response that follows is handled to its end without being relayed to anybody. -/
theorem finalResponse_lost_after_cancel :
    ∃ canceled final : Scenario.server.Config,
      Steps (.admitting Scenario.server.system (· = fromCaller "CANCEL"))
        invited canceled ∧
      Entered Scenario.callId canceled.events ∧
      canceled.shared.pendingDialogs.lookup Scenario.callId = none ∧
      Steps (.closed Scenario.server.system)
        ⟨canceled.shared, canceled.events, canceled.threads ++ [launch terminated]⟩
        final ∧
      terminated.AnswersInvite Scenario.server Scenario.callId ∧
      (final.threads[canceled.threads.length]?).any Thread.returned = true ∧
      (∀ event ∈ final.events, event.op.relaysFinal Scenario.callId = false) ∧
      ¬ TakenOver Scenario.callId final.events := by
  have computed : ((invited.play [Scenario.steps 0 100 none,
      .arrive (fromCaller "CANCEL"), Scenario.steps 1 100 none]).any fun canceled =>
      canceled.events.any (Server.Event.enters Scenario.callId) &&
      (canceled.shared.pendingDialogs.lookup Scenario.callId).isNone &&
      ((Config.mk canceled.shared canceled.events
        (canceled.threads ++ [launch terminated])).play
          [Scenario.steps canceled.threads.length 100 none]).any fun final =>
      (final.threads[canceled.threads.length]?).any Thread.returned &&
        (final.events.all fun event => !event.op.relaysFinal Scenario.callId) &&
        !final.events.any (Server.Event.claims Scenario.callId)) = true := by decide +kernel
  obtain ⟨canceled, played, checked⟩ := (Option.any_eq_true _ _).mp computed
  simp only [Bool.and_eq_true, Option.isNone_iff_eq_none] at checked
  obtain ⟨⟨entered, absent⟩, handled⟩ := checked
  obtain ⟨final, run, ended⟩ : ∃ final, Steps (.closed Scenario.server.system) _ final ∧ _ :=
    Config.exists_steps_of_play (fun _ _ _ => trivial) (by simp [Scenario.steps]) handled
  simp only [Bool.and_eq_true, List.all_eq_true, Bool.not_eq_true'] at ended
  obtain ⟨⟨returned, silent⟩, unclaimed⟩ := ended
  have first : Steps (.admitting Scenario.server.system (· = fromCaller "CANCEL"))
      invited canceled :=
    Config.playUnder_steps (fun _ _ _ _ => trivial) (fun task member =>
      (by simpa [Scenario.steps] using member : task = fromCaller "CANCEL")) played
  exact ⟨canceled, final, first, List.any_eq_true.mp entered, absent, run, by decide +kernel,
    returned, silent,
    fun taken => Bool.eq_false_iff.mp unclaimed (List.any_eq_true.mpr taken)⟩

end Sip3
