import Sip3.Server.Frame

/-!
# Handling one response

What the handler of a response does when it runs alone: whether the caller is sent
the response, and what is left of the call. A final response is relayed when the
caller's dialog is pending and the timer is not firing, and the pending dialog is
gone afterwards in every case. A busy response for a callee with a mailbox is not
relayed: the diversion removes the pending dialog before it looks for it.
-/

namespace Sip3.Handler

open Text Semantics System Program

variable {server : Server} {msg : SipMessage} {callId : CallId} {addr : SocketAddr}
  {state final : ServerState} {occurrences : List (Occurrence signature)}

section Relay

/-- After a final response the pending dialog is gone. -/
theorem releaseRelayed_releases (answered : isFinal msg = true)
    (execution : server.system.Exec state (releaseRelayed msg callId) occurrences final ()) :
    final.pendingDialogs.lookup callId = none := by
  simp only [releaseRelayed, answered, if_true, request_bind, done_bind,
    exec_request_iff] at execution
  obtain ⟨answer, middle, rest, rfl, ⟨rfl, rfl⟩, execution⟩ := execution
  have removed : (state.pendingDialogs.erase callId).lookup callId = none :=
    AList.lookup_erase callId _
  split at execution
  · simp only [exec_request_iff, pure_eq_done, exec_done_iff] at execution
    obtain ⟨_, _, _, rfl, ⟨rfl, rfl⟩, _, _, _, rfl, ⟨rfl, rfl⟩, -, rfl, -⟩ := execution
    exact removed
  · simp only [pure_eq_done, exec_done_iff] at execution
    obtain ⟨-, rfl, -⟩ := execution
    exact removed

section ToCaller

variable (execution :
  server.system.Exec state (relayToCaller server msg callId) occurrences final ())

include execution

theorem relayToCaller_sends (pending : state.pendingDialogs.lookup callId = some addr) :
    ∃ text sent, ⟨.send (.relay callId msg.statusCode) addr text, sent⟩ ∈ occurrences := by
  simp only [relayToCaller, request_bind, done_bind, exec_request_iff] at execution
  obtain ⟨answer, middle, rest, rfl, performed, execution⟩ := execution
  obtain ⟨rfl, rfl⟩ := performed
  simp only [TableOp.key, pending, exec_bind_iff, exec_request_iff] at execution
  obtain ⟨text, reached, front, back, rfl, -, sent, _, _, rfl, -, -⟩ := execution
  exact ⟨text, sent, by simp⟩

theorem relayToCaller_silent (absent : state.pendingDialogs.lookup callId = none) :
    ∀ occurrence ∈ occurrences, occurrence.op.isSend = false := by
  simp only [relayToCaller, request_bind, done_bind, exec_request_iff] at execution
  obtain ⟨answer, middle, rest, rfl, performed, execution⟩ := execution
  obtain ⟨rfl, rfl⟩ := performed
  simp only [TableOp.key, absent, pure_eq_done, exec_done_iff] at execution
  obtain ⟨rfl, -, -⟩ := execution
  simp [Op.isSend]

theorem relayToCaller_releases (answered : isFinal msg = true) :
    final.pendingDialogs.lookup callId = none := by
  simp only [relayToCaller, request_bind, done_bind, exec_request_iff] at execution
  obtain ⟨answer, middle, rest, rfl, ⟨rfl, rfl⟩, execution⟩ := execution
  split at execution
  · next absent =>
      simp only [pure_eq_done, exec_done_iff] at execution
      obtain ⟨-, rfl, -⟩ := execution
      exact absent
  · simp only [exec_bind_iff, exec_request_iff] at execution
    obtain ⟨text, reached, front, back, rfl, -, sent, _, _, rfl, -, execution⟩ := execution
    exact releaseRelayed_releases answered execution

end ToCaller

/-- A program without sends in its footprint sends nothing. -/
theorem silent_of_exec {α : Type} {kinds : List Kind} {program : Action α} {value : α}
    (uses : program.Uses (Op.Within callId kinds)) (silent : ∀ kind ∈ kinds, kind ∉ Op.sendKinds)
    (execution : server.system.Exec state program occurrences final value) :
    ∀ occurrence ∈ occurrences, occurrence.op.isSend = false :=
  fun occurrence member => Op.isSend_eq_false fun sends =>
    silent _ (execution.within uses occurrence member).2 sends

theorem removeCall_releases
    (execution : server.system.Exec state (removeCall callId) occurrences final ()) :
    final.pendingDialogs.lookup callId = none := by
  simp only [removeCall, request_bind, done_bind, pure_eq_done,
    exec_request_iff, exec_done_iff] at execution
  obtain ⟨_, _, _, rfl, ⟨rfl, rfl⟩, _, _, _, rfl, ⟨rfl, rfl⟩, _, _, _, rfl, ⟨rfl, rfl⟩,
    _, _, _, rfl, ⟨rfl, rfl⟩, -, rfl, -⟩ := execution
  exact AList.lookup_erase callId _

section Final

variable (present : msg.callId = some callId) (answered : isFinal msg = true)
  (execution : server.system.Exec state (relayResponse server msg) occurrences final ())

include present answered execution

/-- `relay_response` of a final response cancels the timer, and then removes a call whose
timer is firing or relays. -/
theorem relayResponse_cases :
    ∃ first rest middle, occurrences = first :: rest ∧ first.op.isSend = false ∧
      middle.pendingDialogs = state.pendingDialogs ∧
      (state.noAnswer.lookup callId = some .firing ∧
          server.system.Exec middle (removeCall callId) rest final () ∨
        state.noAnswer.lookup callId ≠ some .firing ∧
          server.system.Exec middle (relayToCaller server msg callId) rest final ()) := by
  simp only [relayResponse, present, answered, if_true, request_bind, done_bind,
    exec_request_iff] at execution
  obtain ⟨answer, middle, rest, rfl, ⟨rfl, rfl⟩, execution⟩ := execution
  have fired : (TimerOp.answer (state.noAnswer.lookup callId) (.cancel callId) =
      TimerCancel.alreadyFired) ↔ state.noAnswer.lookup callId = some .firing := by
    cases state.noAnswer.lookup callId with
    | none => simp [TimerOp.answer]
    | some entry => cases entry <;> simp [TimerOp.answer]
  split at execution
  · next alreadyFired =>
      refine ⟨_, rest, _, rfl, rfl, ?_, .inl ⟨fired.mp alreadyFired, execution⟩⟩
      rfl
  · next alreadyFired =>
      refine ⟨_, rest, _, rfl, rfl, ?_, .inr ⟨mt fired.mpr alreadyFired, execution⟩⟩
      rfl

/-- A final response is sent to a pending caller whose timer is not firing. -/
theorem relayResponse_sends (pending : state.pendingDialogs.lookup callId = some addr)
    (waiting : state.noAnswer.lookup callId ≠ some .firing) :
    ∃ text sent, ⟨.send (.relay callId msg.statusCode) addr text, sent⟩ ∈ occurrences := by
  obtain ⟨first, rest, middle, rfl, -, kept, ⟨firing, -⟩ | ⟨-, relayed⟩⟩ :=
    relayResponse_cases present answered execution
  · exact absurd firing waiting
  obtain ⟨text, sent, member⟩ := relayToCaller_sends relayed (kept ▸ pending)
  exact ⟨text, sent, .tail _ member⟩

/-- Without a pending caller a final response is not sent to anyone. -/
theorem relayResponse_silent (absent : state.pendingDialogs.lookup callId = none) :
    ∀ occurrence ∈ occurrences, occurrence.op.isSend = false := by
  obtain ⟨first, rest, middle, rfl, quiet, kept, ⟨-, removed⟩ | ⟨-, relayed⟩⟩ :=
    relayResponse_cases present answered execution
  · exact List.forall_mem_cons.mpr ⟨quiet, silent_of_exec (Action.within removeCall_uses) (by decide) removed⟩
  · exact List.forall_mem_cons.mpr ⟨quiet, relayToCaller_silent relayed (kept ▸ absent)⟩

/-- After a final response the call has no pending dialog. -/
theorem relayResponse_releases : final.pendingDialogs.lookup callId = none := by
  obtain ⟨first, rest, middle, rfl, -, -, ⟨-, removed⟩ | ⟨-, relayed⟩⟩ :=
    relayResponse_cases present answered execution
  · exact removeCall_releases removed
  · exact relayToCaller_releases relayed answered

end Final

end Relay

section Busy

variable {callee : Str} {value : Option Str}

/-- No mailbox is found for the callee a response names: a failed query and a disabled or
missing mailbox are the same to the handler. -/
def NoMailbox (server : Server) (outside : Outside) (msg : SipMessage) : Prop :=
  ∀ callee, headerUser msg.toHeader = some callee →
    ∀ box, outside (.query (.voicemailBox callee server.cfg.sipDomain)) ≠ .ok (some box)

/-- The diversion of a busy call never delivers it: its pending dialog is removed before
it is looked up. A stored INVITE leaves the call without a pending dialog. -/
theorem divertBusy_returns_none
    (execution : server.system.Exec state (divertBusy server callId callee) occurrences final
      value) :
    value = none ∧ (state.pendingInvites.lookup callId ≠ none →
      final.pendingDialogs.lookup callId = none) := by
  simp only [divertBusy, request_bind, done_bind, exec_request_iff] at execution
  obtain ⟨answer, middle, rest, rfl, ⟨rfl, rfl⟩, execution⟩ := execution
  split at execution
  · next missing =>
      simp only [pure_eq_done, exec_done_iff] at execution
      obtain ⟨-, -, rfl⟩ := execution
      exact ⟨rfl, fun stored => absurd missing stored⟩
  · simp only [exec_request_iff, exec_bind_iff] at execution
    obtain ⟨_, canceled, _, rfl, -, _, removed, _, _, rfl, removal, _, _, _, rfl, ⟨rfl, rfl⟩,
      execution⟩ := execution
    have absent := removeCall_releases removal
    simp only [TableOp.key, absent, pure_eq_done, exec_done_iff] at execution
    obtain ⟨-, rfl, rfl⟩ := execution
    exact ⟨rfl, fun _ => absent⟩

/-- Offering a busy response to voicemail, step by step: without a callee in the To header
nothing is asked, and only a mailbox that is found leads to the diversion. -/
theorem handleBusyToVoicemail_cases (present : msg.callId = some callId)
    (execution : server.system.Exec state (handleBusyToVoicemail server msg) occurrences final
      value) :
    headerUser msg.toHeader = none ∧ final = state ∧ value = none ∨
      ∃ callee row rest, headerUser msg.toHeader = some callee ∧
        occurrences = ⟨.ask (.query (.voicemailBox callee server.cfg.sipDomain)), row⟩ :: rest ∧
        ((∀ box, row ≠ .ok (some box)) ∧ final = state ∧ value = none ∨
          (∃ box, row = .ok (some box)) ∧
            server.system.Exec state (divertBusy server callId callee) rest final value) := by
  unfold handleBusyToVoicemail at execution
  rw [present] at execution
  cases named : headerUser msg.toHeader with
  | none =>
    simp only [named, pure_eq_done, exec_done_iff] at execution
    exact .inl ⟨rfl, execution.2.1, execution.2.2⟩
  | some callee =>
    simp only [named, Voicemail.lookupEnabledBox, request_bind,
      done_bind, exec_request_iff] at execution
    obtain ⟨row, middle, rest, rfl, rfl, execution⟩ := execution
    refine .inr ⟨callee, row, rest, rfl, rfl, ?_⟩
    rcases row with failure | _ | box
    · simp only [pure_eq_done, done_bind, exec_done_iff] at execution
      exact .inl ⟨by simp, execution.2.1, execution.2.2⟩
    · simp only [pure_eq_done, done_bind, exec_done_iff] at execution
      exact .inl ⟨by simp, execution.2.1, execution.2.2⟩
    · exact .inr ⟨⟨box, rfl⟩, execution⟩

theorem handleBusyToVoicemail_returns_none
    (execution : server.system.Exec state (handleBusyToVoicemail server msg) occurrences final
      value) : value = none := by
  cases present : msg.callId with
  | none =>
    simp only [handleBusyToVoicemail, present, pure_eq_done, exec_done_iff] at execution
    exact execution.2.2
  | some callId =>
    obtain ⟨-, -, rfl⟩ | ⟨callee, row, rest, -, -, ⟨-, -, rfl⟩ | ⟨-, diverted⟩⟩ :=
      handleBusyToVoicemail_cases present execution
    · rfl
    · rfl
    · exact (divertBusy_returns_none diverted).1

/-- Without a mailbox for the callee the busy handler changes nothing; with one it leaves a
call with a stored INVITE without its pending dialog. -/
theorem handleBusyToVoicemail_effect {outside : Outside} (present : msg.callId = some callId)
    (stored : state.pendingInvites.lookup callId ≠ none)
    (execution : server.system.Exec state (handleBusyToVoicemail server msg) occurrences final
      value)
    (given : ∀ occurrence ∈ occurrences, outside.Gives occurrence) :
    NoMailbox server outside msg ∧ final = state ∨
      ¬ NoMailbox server outside msg ∧ final.pendingDialogs.lookup callId = none := by
  obtain ⟨unnamed, same, -⟩ | ⟨callee, row, rest, named, rfl, found⟩ :=
    handleBusyToVoicemail_cases present execution
  · exact .inl ⟨fun callee named => absurd (unnamed.symm.trans named) nofun, same⟩
  obtain rfl : row = outside (.query (.voicemailBox callee server.cfg.sipDomain)) :=
    given _ (.head _)
  obtain ⟨missing, same, -⟩ | ⟨⟨box, found⟩, diverted⟩ := found
  · refine .inl ⟨fun other again => ?_, same⟩
    cases named.symm.trans again
    exact missing
  · exact .inr ⟨fun missing => missing callee named box found,
      (divertBusy_returns_none diverted).2 stored⟩

end Busy

section Response

variable {value : Option Str}

section Process

variable (execution :
  server.system.Exec state (processResponse server msg) occurrences final value)

include execution

theorem exec_processResponse_of_not_busy (free : isBusy msg = false) :
    value = none ∧ server.system.Exec state (relayResponse server msg) occurrences final () := by
  simp only [processResponse, free, Bool.false_eq_true, if_false, exec_bind_iff,
    pure_eq_done, exec_done_iff] at execution
  obtain ⟨_, _, _, _, rfl, relayed, rfl, rfl, rfl⟩ := execution
  exact ⟨rfl, by simpa using relayed⟩

/-- A busy response is offered to voicemail and then relayed. -/
theorem exec_processResponse_of_busy (busy : isBusy msg = true) :
    value = none ∧ ∃ front back middle, occurrences = front ++ back ∧
      server.system.Exec state (handleBusyToVoicemail server msg) front middle none ∧
      server.system.Exec middle (relayResponse server msg) back final () := by
  simp only [processResponse, busy, if_true, exec_bind_iff] at execution
  obtain ⟨offered, middle, front, back, rfl, offering, execution⟩ := execution
  obtain rfl := handleBusyToVoicemail_returns_none offering
  simp only [exec_bind_iff, pure_eq_done, exec_done_iff] at execution
  obtain ⟨_, _, relaying, _, rfl, relayed, rfl, rfl, rfl⟩ := execution
  exact ⟨rfl, front, relaying, middle, by simp, offering, relayed⟩

/-- Run alone, the handler of a response has no answer of its own. -/
theorem processResponse_returns_none : value = none := by
  cases busy : isBusy msg with
  | false => exact (exec_processResponse_of_not_busy execution busy).1
  | true => exact (exec_processResponse_of_busy execution busy).1

theorem processResponse_of_no_callId (absent : msg.callId = none) : final = state := by
  have relayed : relayResponse server msg = .done () := by simp [relayResponse, absent]
  have offered : handleBusyToVoicemail server msg = .done none := by
    simp [handleBusyToVoicemail, absent]
  simp only [processResponse, relayed, offered, done_bind, pure_eq_done,
    ite_self, exec_done_iff] at execution
  exact execution.2.1

/-- After a final response of a call its pending dialog is gone. -/
theorem processResponse_releases (present : msg.callId = some callId)
    (answered : isFinal msg = true) :
    final.pendingDialogs.lookup callId = none := by
  cases busy : isBusy msg with
  | false =>
    exact relayResponse_releases present answered
      (exec_processResponse_of_not_busy execution busy).2
  | true =>
    obtain ⟨-, front, back, middle, -, -, relayed⟩ := exec_processResponse_of_busy execution busy
    exact relayResponse_releases present answered relayed

end Process

variable {task : Task} (received : task.message server = some msg) (response : msg.method = none)

include received response

/-- The task of a response does what `process_sip_msg` does, and has no answer to send. -/
theorem exec_body_iff :
    server.system.Exec state (task.body server) occurrences final () ↔
      server.system.Exec state (processResponse server msg) occurrences final none := by
  obtain ⟨src, -, body⟩ := Task.body_of_message received
  rw [body, processMsg, response, exec_bind_iff]
  constructor
  · rintro ⟨value, middle, front, back, rfl, processed, replied⟩
    obtain rfl := processResponse_returns_none processed
    obtain ⟨rfl, rfl, -⟩ := exec_done_iff.mp replied
    rwa [List.append_nil]
  · intro execution
    exact ⟨none, final, occurrences, [], by simp, execution, .done⟩

/-- In every world the task of a response runs to its end. -/
theorem exec_response_exists (outside : Outside) (state : ServerState) :
    ∃ occurrences final, server.system.Exec state (task.body server) occurrences final () ∧
      ∀ occurrence ∈ occurrences, outside.Gives occurrence := by
  have returns : ∀ kind ∈ busyKinds ++ relayKinds, kind ∉ [Kind.panic, .voicemailUpdate] := by
    decide
  obtain ⟨occurrences, final, value, execution, given⟩ :=
    exec_exists server.system outside.Gives
      (fun state op within => op.exists_perform outside state (returns _ within.2))
      (Action.within (processResponse_uses server msg)) state
  obtain rfl := processResponse_returns_none execution
  exact ⟨occurrences, final, (exec_body_iff received response).mpr execution, given⟩

end Response

end Sip3.Handler

namespace Sip3

open Text Semantics System Handler

variable {server : Server} {task : Task} {msg : SipMessage} {callId : CallId} {addr : SocketAddr}
  {state : ServerState}

/-- A send that gives the caller at an address a final response for a call: a relayed final
response, or the answer of voicemail delivery, which is the only answer that handling a
response can have. -/
def Op.answersCaller (callId : CallId) (addr : SocketAddr) : Op → Bool
  | .send (.relay call (some status)) dest _ => call = callId && 200 ≤ status && dest = addr
  | .send (.reply call) dest _ => call = callId && dest = addr
  | _ => false

theorem Op.isSend_of_answersCaller {op : Op} (answers : op.answersCaller callId addr = true) :
    op.isSend = true := by
  cases op with
  | send site dest text => rfl
  | _ => cases answers

/-- A busy response for a call with a pending caller, a stored INVITE and a timer that has not
fired: the caller is sent a final response exactly when the callee has no mailbox. -/
theorem busy_answers_caller_iff (received : task.message server = some msg)
    (response : msg.method = none) (busy : isBusy msg = true) (present : msg.callId = some callId)
    (pending : state.pendingDialogs.lookup callId = some addr)
    (stored : state.pendingInvites.lookup callId ≠ none)
    (waiting : state.noAnswer.lookup callId ≠ some .firing) (outside : Outside) :
    (∃ occurrences final, server.system.Exec state (task.body server) occurrences final () ∧
      ∀ occurrence ∈ occurrences, outside.Gives occurrence) ∧
    ∀ occurrences final, server.system.Exec state (task.body server) occurrences final () →
      (∀ occurrence ∈ occurrences, outside.Gives occurrence) →
      ((∃ occurrence ∈ occurrences, occurrence.op.answersCaller callId addr = true) ↔
        NoMailbox server outside msg) := by
  refine ⟨exec_response_exists received response outside state, fun occurrences final execution
    given => ?_⟩
  obtain ⟨-, front, back, middle, rfl, offered, relayed⟩ :=
    exec_processResponse_of_busy ((exec_body_iff received response).mp execution) busy
  have answered := isFinal_of_isBusy busy
  have effect := handleBusyToVoicemail_effect present stored offered
    fun occurrence member => given occurrence (List.mem_append_left _ member)
  constructor
  · rintro ⟨occurrence, member, answers⟩
    by_contra mailbox
    -- The pending dialog is gone, so neither part of the handler sends anything.
    have absent := (effect.resolve_left fun missing => mailbox missing.1).2
    have silent : occurrence.op.isSend = false := by
      rcases List.mem_append.mp member with inFront | inBack
      · exact silent_of_exec (Action.within (handleBusyToVoicemail_uses server msg)) (by decide) offered _ inFront
      · exact relayResponse_silent present answered relayed absent _ inBack
    exact Bool.false_ne_true (silent.symm.trans (Op.isSend_of_answersCaller answers))
  · intro missing
    obtain rfl := (effect.resolve_right fun found => found.1 missing).2
    obtain ⟨text, sent, member⟩ := relayResponse_sends present answered relayed pending waiting
    refine ⟨_, List.mem_append_right _ member, ?_⟩
    obtain ⟨status, code, high⟩ := (Option.any_eq_true _ _).mp answered
    simp only [code, Op.answersCaller, decide_true, Bool.true_and, Bool.and_true]
    exact high

open Scenario

/-- A call of the scenario rings: the caller is pending, the INVITE is stored, and the timer
has not fired. -/
def Scenario.rings (config : Scenario.server.Config) : Bool :=
  config.shared.pendingDialogs.lookup Scenario.callId = some Scenario.caller &&
    (config.shared.pendingInvites.lookup Scenario.callId).isSome &&
    config.shared.noAnswer.lookup Scenario.callId ≠ some .firing

theorem Scenario.rings_iff {config : Scenario.server.Config} :
    rings config = true ↔
      config.shared.pendingDialogs.lookup Scenario.callId = some Scenario.caller ∧
        config.shared.pendingInvites.lookup Scenario.callId ≠ none ∧
        config.shared.noAnswer.lookup Scenario.callId ≠ some .firing := by
  simp [rings, Option.isSome_iff_ne_none, and_assoc]

/-- The busy response of the scenario. -/
def Scenario.busy : Task := fromCallee "486 Busy Here" "INVITE"

/-- A ringing call without a mailbox, and its busy response reaching the caller. -/
theorem busy_answers_caller_without_mailbox :
    ∃ config occurrences final, Steps (.free Scenario.server.system) Scenario.start config ∧
      Scenario.server.system.Exec config.shared (busy.body Scenario.server) occurrences
        final () ∧
      ∃ occurrence ∈ occurrences,
        occurrence.op.answersCaller Scenario.callId Scenario.caller = true := by
  have computed : ((Scenario.start.play [.arrive (fromCaller "INVITE"),
      Scenario.steps 0 100 none]).any rings) = true := by decide +kernel
  obtain ⟨config, run, ringing⟩ := exists_run computed
  obtain ⟨pending, stored, waiting⟩ := rings_iff.mp ringing
  have parses : ((busy.message Scenario.server).any fun msg =>
      msg.method.isNone && isBusy msg && msg.callId = some Scenario.callId) = true := by
    decide +kernel
  obtain ⟨msg, received, shape⟩ := (Option.any_eq_true _ _).mp parses
  simp only [Bool.and_eq_true, decide_eq_true_eq, Option.isNone_iff_eq_none] at shape
  obtain ⟨⟨response, isBusy⟩, present⟩ := shape
  obtain ⟨⟨occurrences, final, execution, given⟩, sends⟩ := busy_answers_caller_iff received
    response isBusy present pending stored waiting (Scenario.outside none)
  exact ⟨config, occurrences, final, run, execution,
    (sends occurrences final execution given).mpr fun _ _ _ => nofun⟩

/-- A ringing call with a mailbox: the busy response is handled to its end, and the caller is
sent nothing. -/
theorem busy_lost_with_mailbox :
    ∃ ringing final : Scenario.server.Config,
      Steps (.free Scenario.server.system) Scenario.start ringing ∧
      ringing.shared.pendingDialogs.lookup Scenario.callId = some Scenario.caller ∧
      ringing.shared.pendingInvites.lookup Scenario.callId ≠ none ∧
      ringing.shared.noAnswer.lookup Scenario.callId ≠ some .firing ∧
      Steps (.closed Scenario.server.system)
        ⟨ringing.shared, ringing.events, ringing.threads ++ [launch busy]⟩ final ∧
      (final.threads[ringing.threads.length]?).any Thread.returned = true ∧
      ∀ event ∈ final.events.drop ringing.events.length,
        event.op.answersCaller Scenario.callId Scenario.caller = false := by
  have computed : ((Scenario.start.play [.arrive (fromCaller "INVITE"),
      Scenario.steps 0 100 (some Scenario.mailbox)]).any fun ringing => rings ringing &&
      ((Config.mk ringing.shared ringing.events
        (ringing.threads ++ [launch busy])).play
          [Scenario.steps ringing.threads.length 100 (some Scenario.mailbox)]).any fun final =>
      (final.threads[ringing.threads.length]?).any Thread.returned &&
        (final.events.drop ringing.events.length).all fun event =>
          !event.op.answersCaller Scenario.callId Scenario.caller) = true := by decide +kernel
  obtain ⟨ringing, played, checked⟩ := (Option.any_eq_true _ _).mp computed
  simp only [Bool.and_eq_true, rings_iff] at checked
  obtain ⟨⟨pending, stored, waiting⟩, handled⟩ := checked
  obtain ⟨final, run, ended⟩ : ∃ final, Steps (.closed Scenario.server.system) _ final ∧ _ :=
    Config.exists_steps_of_play (fun _ _ _ => trivial) (by simp [Scenario.steps]) handled
  simp only [Bool.and_eq_true, List.all_eq_true, Bool.not_eq_true'] at ended
  exact ⟨ringing, final, run_of_play played, pending, stored, waiting, run, ended.1,
    ended.2⟩

/-- The method of the request a response answers, from its CSeq header. -/
def SipMessage.cseqMethod (msg : SipMessage) : Option Str :=
  msg.cseq.bind fun value => (Str.splitWhitespace value)[1]?

/-- A final response to a request other than INVITE. -/
structure SipMessage.AnswersOther (msg : SipMessage) : Prop where
  response : msg.method = none
  answered : isFinal msg = true
  other : msg.cseqMethod ≠ some "INVITE".toList

/-- The entries of a call that its set-up depends on. -/
def ServerState.setUp (state : ServerState) (callId : CallId) :
    Option SocketAddr × Option TimerEntry × Option DialogInfo × Option MediaSession :=
  (state.pendingDialogs.lookup callId, state.noAnswer.lookup callId,
    state.activeDialogs.lookup callId, state.mediaSessions.lookup callId)

/-- A final response to another request leaves the set-up of a pending call alone exactly
when it has no Call-ID header. -/
theorem otherResponse_keeps_setUp_iff (received : task.message server = some msg)
    (other : msg.AnswersOther) (pending : state.pendingDialogs.lookup msg.callKey ≠ none) :
    (∃ occurrences final, server.system.Exec state (task.body server) occurrences final ()) ∧
    ∀ occurrences final, server.system.Exec state (task.body server) occurrences final () →
      (final.setUp msg.callKey = state.setUp msg.callKey ↔ msg.callId = none) := by
  constructor
  · obtain ⟨occurrences, final, execution, -⟩ :=
      exec_response_exists received other.response (Scenario.outside none) state
    exact ⟨occurrences, final, execution⟩
  intro occurrences final execution
  have processed := (exec_body_iff received other.response).mp execution
  constructor
  · intro same
    by_contra found
    obtain ⟨callId, present⟩ := Option.ne_none_iff_exists'.mp found
    have removed := processResponse_releases processed present other.answered
    rw [callKey_of_callId msg present] at pending same
    exact pending ((congrArg Prod.fst same).symm.trans removed)
  · intro absent
    rw [processResponse_of_no_callId processed absent]

/-- The answer of the callee to an INFO sent while the call rings. -/
def Scenario.infoAnswer : Task := fromCallee "200 OK" "INFO"

/-- The scenario's answer to an INFO ends the set-up of the ringing call. -/
theorem infoAnswer_changes_setUp :
    ∃ config occurrences final, Steps (.free Scenario.server.system) Scenario.start config ∧
      Scenario.server.system.Exec config.shared (infoAnswer.body Scenario.server)
        occurrences final () ∧
      final.setUp Scenario.callId ≠ config.shared.setUp Scenario.callId := by
  have computed : ((Scenario.start.play [.arrive (fromCaller "INVITE"),
      Scenario.steps 0 100 none]).any rings) = true := by decide +kernel
  obtain ⟨config, run, ringing⟩ := exists_run computed
  obtain ⟨pending, -, -⟩ := rings_iff.mp ringing
  have parses : ((infoAnswer.message Scenario.server).any fun msg =>
      msg.method.isNone && isFinal msg && msg.cseqMethod ≠ some "INVITE".toList &&
        msg.callId = some Scenario.callId) = true := by
    decide +kernel
  obtain ⟨msg, received, shape⟩ := (Option.any_eq_true _ _).mp parses
  simp only [Bool.and_eq_true, decide_eq_true_eq, Option.isNone_iff_eq_none] at shape
  obtain ⟨⟨⟨response, answered⟩, other⟩, present⟩ := shape
  have key : msg.callKey = Scenario.callId := callKey_of_callId msg present
  have waits : config.shared.pendingDialogs.lookup msg.callKey ≠ none := by
    rw [key, pending]
    exact Option.some_ne_none _
  obtain ⟨⟨occurrences, final, execution⟩, keeps⟩ :=
    otherResponse_keeps_setUp_iff received ⟨response, answered, other⟩ waits
  refine ⟨config, occurrences, final, run, execution, fun same => ?_⟩
  exact nomatch present.symm.trans ((keeps occurrences final execution).mp (key ▸ same))

/-- The caller's INFO is answered by the callee while the call rings: the pending dialog and
the timer are gone afterwards. -/
theorem infoAnswer_ends_ringing :
    ∃ ringing final : Scenario.server.Config,
      Steps (.free Scenario.server.system) Scenario.start ringing ∧
      ringing.shared.pendingDialogs.lookup Scenario.callId = some Scenario.caller ∧
      (ringing.shared.noAnswer.lookup Scenario.callId).isSome = true ∧
      Steps (.closed Scenario.server.system)
        ⟨ringing.shared, ringing.events, ringing.threads ++ [launch infoAnswer]⟩ final ∧
      final.shared.pendingDialogs.lookup Scenario.callId = none ∧
      final.shared.noAnswer.lookup Scenario.callId = none := by
  have computed : ((Scenario.start.play [.arrive (fromCaller "INVITE"),
      Scenario.steps 0 100 (some Scenario.mailbox), .arrive (fromCaller "INFO"),
      Scenario.steps 2 100 (some Scenario.mailbox)]).any fun ringing =>
      ringing.shared.pendingDialogs.lookup Scenario.callId = some Scenario.caller &&
        (ringing.shared.noAnswer.lookup Scenario.callId).isSome &&
      ((Config.mk ringing.shared ringing.events
        (ringing.threads ++ [launch infoAnswer])).play
          [Scenario.steps ringing.threads.length 100 (some Scenario.mailbox)]).any fun final =>
      final.shared.pendingDialogs.lookup Scenario.callId = none &&
        final.shared.noAnswer.lookup Scenario.callId = none) = true := by decide +kernel
  obtain ⟨ringing, played, checked⟩ := (Option.any_eq_true _ _).mp computed
  simp only [Bool.and_eq_true, decide_eq_true_eq] at checked
  obtain ⟨⟨pending, armed⟩, handled⟩ := checked
  obtain ⟨final, run, ended⟩ : ∃ final, Steps (.closed Scenario.server.system) _ final ∧ _ :=
    Config.exists_steps_of_play (fun _ _ _ => trivial) (by simp [Scenario.steps]) handled
  simp only [Bool.and_eq_true, decide_eq_true_eq] at ended
  exact ⟨ringing, final, run_of_play played, pending, armed, run, ended.1, ended.2⟩

end Sip3
