import Sip3.Server.Execution

/-!
# What a failed INVITE leaves behind

`Proxy::handle_invite` returns early from many places. Those before the call is
entered leave nothing, and a failed media allocation is not an error at all. The
one return between the insertions and the end is that of a failed send of the
forwarded INVITE, and it leaves what has been entered.
-/

namespace Sip3

open Text Semantics System Proxy

variable {server : Server} {msg : SipMessage} {src : SocketAddr} {callId : CallId}
  {state final : ServerState} {occurrences front back : List (Occurrence signature)}

/-- The call has no entry in the dialog maps and the media relay. -/
structure ServerState.NoTrace (state : ServerState) (callId : CallId) : Prop where
  pendingDialog : state.pendingDialogs.lookup callId = none
  pendingInvite : state.pendingInvites.lookup callId = none
  activeDialog : state.activeDialogs.lookup callId = none
  mediaSession : state.mediaSessions.lookup callId = none

/-- The forwarded INVITE of a call could not be sent. -/
def FailedForward (callId : CallId) (occurrence : Occurrence signature) : Prop :=
  ∃ dest text, occurrence = ⟨.send (.forwardInvite callId) dest text, false⟩

/-- No send of the forwarded INVITE has failed. -/
def Unfailed (callId : CallId) (occurrences : List (Occurrence signature)) : Prop :=
  ∀ occurrence ∈ occurrences, ¬ FailedForward callId occurrence

@[simp] theorem unfailed_nil : Unfailed callId [] :=
  fun _ member => absurd member List.not_mem_nil

@[simp] theorem unfailed_append :
    Unfailed callId (front ++ back) ↔ Unfailed callId front ∧ Unfailed callId back :=
  List.forall_mem_append

/-- The kinds of steps that enter or remove what a trace consists of, or forward an INVITE. -/
abbrev traceKinds : List Kind :=
  [.pendingInsert, .pendingRemove, .inviteStore, .inviteTake, .dialogInsert, .dialogRemove,
    .mediaInsert, .mediaRemove, .sendInvite]

theorem Kind.writes_not_trace {kind : Kind} (quiet : kind ∉ traceKinds) :
    kind.writes ∉ [some .pendingDialogs, some .pendingInvites, some .activeDialogs,
      some .mediaSessions] := by
  cases kind <;> first | decide | exact absurd (by decide) quiet

theorem Op.Perform.noTrace {op : Op} {answer : op.Answer} {after : ServerState}
    (performed : op.Perform state answer after) (quiet : op.kind ∉ traceKinds)
    (clean : state.NoTrace callId) : after.NoTrace callId := by
  have others := Kind.writes_not_trace quiet
  simp only [List.mem_cons, List.not_mem_nil, or_false, not_or] at others
  obtain ⟨pending, invite, dialog, media⟩ := others
  have same := performed.sameExcept callId
  exact ⟨(same.pendingDialog pending).trans clean.pendingDialog,
    (same.pendingInvite invite).trans clean.pendingInvite,
    (same.activeDialog dialog).trans clean.activeDialog,
    (same.mediaSession media).trans clean.mediaSession⟩

variable {α : Type} {kinds : List Kind} {program : Action α}

/-- A program without steps of these kinds leaves no trace and forwards no INVITE. -/
theorem ensures_noTrace (uses : program.Uses (Op.Within callId kinds))
    (quiet : ∀ kind ∈ kinds, kind ∉ traceKinds) (clean : state.NoTrace callId) :
    server.system.Ensures state program fun occurrences final _ =>
      final.NoTrace callId ∧ Unfailed callId occurrences := by
  intro occurrences final value execution
  constructor
  · refine Exec.invariant (ServerState.NoTrace · callId) ?_ execution uses clean
    intro shared op answer after within performed
    exact Op.Perform.noTrace performed (quiet _ within.2)
  · rintro _ member ⟨dest, text, rfl⟩
    exact quiet _ (execution.within uses _ member).2 (by simp)

/-- How an INVITE that ends in an error leaves the state: without a trace of the call, or,
when the forwarded INVITE could not be sent, with the caller still pending. -/
def LeftByError (callId : CallId) (occurrences : List (Occurrence signature))
    (final : ServerState) (value : Fallible Str) : Prop :=
  value.isOk = false → (final.NoTrace callId ∧ Unfailed callId occurrences) ∨
    (final.pendingDialogs.lookup callId ≠ none ∧ ¬ Unfailed callId occurrences)

/-- Asking the outside first changes nothing about what is left. -/
theorem leftByError_after_asks {next : α → Action (Fallible Str)}
    (uses : program.Uses (Op.Within callId [.ask]))
    (rest : ∀ value, server.system.Ensures state (next value) (LeftByError callId)) :
    server.system.Ensures state (program >>= next) (LeftByError callId) := by
  rw [ensures_bind]
  refine (ensures_asks _ uses).mono ?_
  rintro asked _ value ⟨rfl, asks⟩
  refine (rest value).mono ?_
  intro occurrences final result left failed
  have unfailed : Unfailed callId asked := by
    rintro _ member ⟨dest, text, rfl⟩
    exact nomatch asks _ member
  simpa [unfailed] using left failed

theorem Proxy.armAndAnswer_isOk (callee : Proxy.Callee) :
    (armAndAnswer server msg src callee).Returns fun value => value.isOk = true := by
  unfold armAndAnswer
  split
  · rfl
  · exact Program.Returns.then fun _ => rfl

/-- The part of the handler that enters the call fails only when the send does. -/
theorem Proxy.forwardInvite_leftByError (callee : Proxy.Callee)
    (callerIsStream calleeIsStream : Bool) :
    server.system.Ensures state
      (forwardInvite server msg src callee callerIsStream calleeIsStream)
      (LeftByError msg.callKey) := by
  simp only [forwardInvite, Program.request_bind, Program.done_bind, ensures_request]
  rintro _ entered ⟨-, rfl⟩ _ stored ⟨-, rfl⟩ _ opened ⟨-, rfl⟩
  rw [ensures_bind]
  refine (ensures_pendingDialog
    (Action.within (setUpMedia_uses server msg callee.contactUri calleeIsStream)) (by decide) (AList.lookup_insert _)).mono ?_
  intro media reached body pending
  simp only [ensures_request]
  rintro sent after rfl
  cases sent with
  | true =>
    intro rest final value execution failed
    have answered := execution.returned (armAndAnswer_isOk callee)
    exact absurd (answered.symm.trans failed) (by decide)
  | false =>
    simp only [Bool.false_eq_true, if_false, ensures_pure]
    intro failed
    refine .inr ⟨by simp [pending], fun unfailed => ?_⟩
    exact unfailed _ (.tail _ (.tail _ (.tail _ (List.mem_append_right _ (.head _)))))
      ⟨_, _, rfl⟩

/-- A handler that returns before anything is entered leaves no trace. -/
theorem leftByError_pure {value : Fallible Str} (fresh : state.NoTrace callId) :
    server.system.Ensures state (pure value) (LeftByError callId) :=
  ensures_pure.mpr fun _ => .inl ⟨fresh, unfailed_nil⟩

theorem leftByError_of_uses {program : Action (Fallible Str)}
    (uses : program.Uses (Op.Within callId kinds)) (quiet : ∀ kind ∈ kinds, kind ∉ traceKinds)
    (fresh : state.NoTrace callId) : server.system.Ensures state program (LeftByError callId) :=
  (ensures_noTrace uses quiet fresh).mono fun _ _ _ clean _ => .inl clean

theorem Proxy.inviteRegistered_leftByError (caller callee contactUri sourceIp : Str)
    (sourcePort : Nat) (fresh : state.NoTrace msg.callKey) :
    server.system.Ensures state
      (inviteRegistered server msg src caller callee contactUri sourceIp sourcePort)
      (LeftByError msg.callKey) := by
  refine leftByError_after_asks (Action.within (Voicemail.lookupEnabledBox_uses _ _)) fun mailbox => ?_
  split
  · exact leftByError_pure fresh
  · refine leftByError_after_asks (by simp) fun callerIsStream => ?_
    refine leftByError_after_asks (by simp) fun calleeIsStream => ?_
    refine leftByError_after_asks (by simp) fun recorded => ?_
    exact forwardInvite_leftByError _ _ _

theorem Proxy.inviteFrom_leftByError (caller callee : Str) (fresh : state.NoTrace msg.callKey) :
    server.system.Ensures state (inviteFrom server msg src caller callee)
      (LeftByError msg.callKey) := by
  refine leftByError_after_asks
    (Action.within (refreshSenderRegistrationSource_uses server src _ _)) fun refreshed => ?_
  split
  · exact leftByError_pure fresh
  · refine leftByError_after_asks (by simp) fun row => ?_
    split
    · exact leftByError_pure fresh
    · refine leftByError_after_asks (Action.within (Voicemail.lookupEnabledBox_uses _ _)) fun mailbox => ?_
      split
      · exact leftByError_of_uses (Action.within (Voicemail.handleDeliveryInvite_uses server msg callee))
          (by decide) fresh
      · exact leftByError_pure fresh
    · exact inviteRegistered_leftByError _ _ _ _ _ fresh

theorem Proxy.handleInvite_leftByError (fresh : state.NoTrace msg.callKey) :
    server.system.Ensures state (handleInvite server msg src) (LeftByError msg.callKey) := by
  dsimp only [handleInvite]
  split
  · exact leftByError_pure fresh
  split
  · exact leftByError_pure fresh
  refine leftByError_after_asks (by simp) fun blocked => ?_
  split
  · exact leftByError_pure fresh
  split
  · exact leftByError_of_uses (Action.within (rejectInvalidInvite_uses server msg src _ _))
      (by decide) fresh
  refine leftByError_after_asks (by simp) fun account => ?_
  split
  · exact leftByError_pure fresh
  · exact leftByError_of_uses (Action.within (rejectInvalidInvite_uses server msg src _ _))
      (by decide) fresh
  · exact inviteFrom_leftByError _ _ fresh

/-- An INVITE of a fresh call that ends in an error leaves no trace of the call exactly when
the send of the forwarded INVITE has not failed. -/
theorem failedInvite_leaves_no_trace_iff {error : HandlerError} (fresh : state.NoTrace msg.callKey)
    (execution : server.system.Exec state (Proxy.handleInvite server msg src) occurrences final
      (.error error)) :
    final.NoTrace msg.callKey ↔
      ∀ dest text, ⟨.send (.forwardInvite msg.callKey) dest text, false⟩ ∉ occurrences := by
  have unfailed_iff : Unfailed msg.callKey occurrences ↔
      ∀ dest text, ⟨.send (.forwardInvite msg.callKey) dest text, false⟩ ∉ occurrences := by
    constructor
    · intro unfailed dest text member
      exact unfailed _ member ⟨dest, text, rfl⟩
    · rintro absent _ member ⟨dest, text, rfl⟩
      exact absent dest text member
  rw [← unfailed_iff]
  obtain ⟨clean, unfailed⟩ | ⟨pending, sent⟩ :=
    Proxy.handleInvite_leftByError fresh _ _ _ execution rfl
  · exact iff_of_true clean unfailed
  · exact iff_of_false (fun clean => pending clean.pendingDialog) sent

theorem noTrace_initial : ServerState.initial.NoTrace callId :=
  ⟨rfl, rfl, rfl, rfl⟩

open Scenario

/-- A world in which the database is down. -/
def Scenario.unavailable : Outside
  | .query _ => .error .database
  | request => outside none request

/-- With the database down the INVITE fails before anything is sent, and nothing of it is
left. -/
theorem failedInvite_leaves_no_trace_database :
    ∃ msg occurrences final error,
      SipMessage.parse Scenario.server.platform (Scenario.request "INVITE") = .ok msg ∧
      ServerState.initial.NoTrace msg.callKey ∧
      Scenario.server.system.Exec .initial
        (Proxy.handleInvite Scenario.server msg Scenario.caller) occurrences final
        (.error error) ∧ final.NoTrace msg.callKey := by
  have computed : Scenario.server.handles (Scenario.request "INVITE")
      (unavailable.resolver Scenario.server) .initial
      (Proxy.handleInvite Scenario.server · Scenario.caller) (fun _ occurrences _ value =>
        !value.isOk && occurrences.all (!·.op.isSend)) = true := by decide +kernel
  obtain ⟨msg, occurrences, final, value, parsed, execution, checked⟩ :=
    exists_exec_of_handles computed
  obtain ⟨failed, silent⟩ := Bool.and_eq_true_iff.mp checked
  cases value with
  | ok response => cases failed
  | error error =>
    refine ⟨msg, occurrences, final, error, parsed, noTrace_initial, execution, ?_⟩
    refine (failedInvite_leaves_no_trace_iff noTrace_initial execution).mpr ?_
    intro dest text member
    exact nomatch List.all_eq_true.mp silent _ member

/-- When the forwarded INVITE cannot be sent, the caller is told 500 and the call stays. -/
theorem failedInvite_leaves_trace :
    ∃ msg occurrences final error,
      SipMessage.parse Scenario.server.platform (Scenario.request "INVITE") = .ok msg ∧
      ServerState.initial.NoTrace msg.callKey ∧
      Scenario.server.system.Exec .initial
        (Proxy.handleInvite Scenario.server msg Scenario.caller) occurrences final
        (.error error) ∧ ¬ final.NoTrace msg.callKey := by
  have computed : Scenario.server.handles (Scenario.request "INVITE")
      ((Scenario.outside none).unsending Scenario.server) .initial
      (Proxy.handleInvite Scenario.server · Scenario.caller) (fun msg _ final value =>
        !value.isOk && (final.pendingDialogs.lookup msg.callKey).isSome) = true := by
    decide +kernel
  obtain ⟨msg, occurrences, final, value, parsed, execution, checked⟩ :=
    exists_exec_of_handles computed
  obtain ⟨failed, pending⟩ := Bool.and_eq_true_iff.mp checked
  cases value with
  | ok response => cases failed
  | error error =>
    refine ⟨msg, occurrences, final, error, parsed, noTrace_initial, execution, ?_⟩
    intro clean
    rw [clean.pendingDialog] at pending
    cases pending

end Sip3
