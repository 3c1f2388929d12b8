import Sip3.Server.Execution

/-!
# Requests inside a dialog

ACK, BYE, INFO, REFER, NOTIFY and MESSAGE of a call with an active dialog are sent
on to the other party, as they were received. Five handlers choose the direction by
the sender's address. `Proxy::handle_ack` does not look at it and always sends to
the callee. ACK, BYE and INFO reach the proxy only when neither voicemail nor a
conference owns the Call-ID, and a MESSAGE only goes on when its sender is accepted.
-/

namespace Sip3

open Text Semantics System Handler Proxy Program List Endpoint

variable {server : Server} {msg : SipMessage} {src dest : SocketAddr} {dialog : DialogInfo}
  {state : ServerState} {occurrences front back : List (Occurrence signature)}

/-- What was sent in order: the statement of the code, the address and the text. -/
def sends (occurrences : List (Occurrence signature)) : List (SendSite × SocketAddr × Str) :=
  occurrences.filterMap fun occurrence =>
    match occurrence.op with
    | .send site dest text => some (site, dest, text)
    | _ => none

@[simp] theorem sends_append : sends (front ++ back) = sends front ++ sends back :=
  filterMap_append

theorem sends_cons_of_silent {occurrence : Occurrence signature}
    (silent : occurrence.op.isSend = false) :
    sends (occurrence :: occurrences) = sends occurrences := by
  refine filterMap_cons_none ?_
  obtain ⟨op, answer⟩ := occurrence
  cases op with
  | send site dest text => cases silent
  | _ => rfl

theorem sends_eq_nil (silent : ∀ occurrence ∈ occurrences, occurrence.op.isSend = false) :
    sends occurrences = [] := by
  induction occurrences with
  | nil => rfl
  | cons occurrence rest ih =>
    rw [sends_cons_of_silent (silent _ (.head _))]
    exact ih fun other member => silent other (.tail _ member)

/-- A request was forwarded to this address, and nothing else was sent. -/
def SendsOnly (msg : SipMessage) (dest : SocketAddr) {α : Type}
    (occurrences : List (Occurrence signature)) (_ : ServerState) (_ : α) : Prop :=
  sends occurrences = [(.forward msg.callKey, dest, msg.raw)]

/-- Steps of other kinds forward nothing. -/
theorem not_sends_forward (quiet : ∀ occurrence ∈ occurrences, occurrence.op.kind ≠ .sendForward) :
    sends occurrences ≠ [(.forward msg.callKey, dest, msg.raw)] := by
  intro forwarded
  obtain ⟨occurrence, member, sent⟩ := mem_filterMap.mp
    (forwarded ▸ mem_singleton_self (SendSite.forward msg.callKey, dest, msg.raw))
  refine quiet occurrence member ?_
  split at sent
  · next same =>
      cases sent
      rw [same]
      rfl
  · cases sent

/-- What `handle_message` needs from the database: the sender's account is enabled, and the
sender's source can be looked up and refreshed. -/
def AcceptsSender : Occurrence signature → Prop
  | ⟨.ask (.query (.accountEnabled _ _)), answer⟩ => answer = .ok true
  | ⟨.ask (.query (.registrationSource _ _)), answer⟩ => answer.isOk = true
  | ⟨.ask (.query (.refreshSourcePort ..)), answer⟩ => answer.isOk = true
  | _ => True

section Handlers

variable (found : state.activeDialogs.lookup msg.callKey = some dialog)

include found

theorem Proxy.handleAck_sendsOnly :
    server.system.Ensures state (handleAck server msg)
      (SendsOnly msg dialog.calleeAddr) := by
  simp only [handleAck, request_bind, done_bind, ensures_request]
  rintro _ _ ⟨-, rfl⟩ _ _ rfl _ _ ⟨rfl, rfl⟩
  simp only [TableOp.key, found, ensures_request, ensures_pure]
  rintro _ _ rfl
  rfl

theorem Proxy.handleBye_sendsOnly :
    server.system.Ensures state (handleBye server msg src)
      (SendsOnly msg (otherParty dialog src)) := by
  simp only [handleBye, request_bind, done_bind, ensures_request]
  rintro _ _ ⟨-, rfl⟩ _ _ rfl _ _ ⟨rfl, rfl⟩ _ _ ⟨-, rfl⟩ _ _ ⟨-, rfl⟩ _ _ ⟨-, rfl⟩
  simp only [TableOp.key, found, ensures_request, ensures_pure]
  rintro _ _ rfl
  rfl

theorem Proxy.forwardInDialog_sendsOnly (forwarded missing : Str) :
    server.system.Ensures state (forwardInDialog msg src forwarded missing)
      (SendsOnly msg (otherParty dialog src)) := by
  simp only [forwardInDialog, request_bind, done_bind, ensures_request]
  rintro _ _ ⟨rfl, rfl⟩
  simp only [TableOp.key, found, ensures_request, ensures_pure]
  rintro _ _ rfl
  rfl

theorem Proxy.deliverMessage_sendsOnly (present : msg.callKey ≠ []) (sender callee : Str) :
    server.system.Ensures state (deliverMessage server msg src sender callee)
      fun occurrences final value => SendsOnly msg (otherParty dialog src) occurrences final value ∧
        ∀ occurrence ∈ occurrences, AcceptsSender occurrence := by
  simp only [deliverMessage, messageTarget, if_neg present, request_bind,
    done_bind, ensures_request]
  rintro _ _ ⟨rfl, rfl⟩
  simp only [TableOp.key, found, pure_eq_done, done_bind, ensures_request]
  rintro sent _ rfl
  cases sent with
  | true =>
    simp only [if_true, ensures_request, ensures_done]
    rintro _ _ rfl
    exact ⟨rfl, by simp [AcceptsSender]⟩
  | false =>
    simp only [Bool.false_eq_true, if_false, ensures_request, ensures_done]
    rintro _ _ rfl
    exact ⟨rfl, by simp [AcceptsSender]⟩

end Handlers

theorem Proxy.refreshSenderRegistrationSource_isOk_iff (username domain : Str) :
    server.system.Ensures state
      (refreshSenderRegistrationSource server username domain src)
      fun occurrences _ value =>
        (∀ occurrence ∈ occurrences, AcceptsSender occurrence) ↔ value.isOk = true := by
  simp only [refreshSenderRegistrationSource, request_bind, done_bind,
    ensures_request]
  rintro row _ rfl
  split
  · exact ensures_pure.mpr (by simp [AcceptsSender, Except.isOk, Except.toBool])
  · exact ensures_pure.mpr (by simp [AcceptsSender, Except.isOk, Except.toBool])
  · split
    · simp only [ensures_request, ensures_done]
      rintro refreshed _ rfl
      simp [AcceptsSender, Except.isOk, Except.toBool]
    · exact ensures_pure.mpr (by simp [AcceptsSender, Except.isOk, Except.toBool])

/-- The sender of a MESSAGE is accepted, and it names a callee. -/
def MessageAccepted (msg : SipMessage) (occurrences : List (Occurrence signature)) : Prop :=
  (headerUser msg.fromHeader).getD [] ≠ [] ∧
    ((msg.requestUri.bind uriUsername).filter (· ≠ [])).getD
      ((headerUser msg.toHeader).getD []) ≠ [] ∧
    ∀ occurrence ∈ occurrences, AcceptsSender occurrence

/-- A MESSAGE that is accepted is sent to the other party, and for another one nothing is sent. -/
theorem Proxy.handleMessage_sends
    (found : state.activeDialogs.lookup msg.callKey = some dialog) (present : msg.callKey ≠ []) :
    server.system.Ensures state (handleMessage server msg src)
      fun occurrences final value =>
        (MessageAccepted msg occurrences →
          SendsOnly msg (otherParty dialog src) occurrences final value) ∧
        (¬ MessageAccepted msg occurrences → sends occurrences = []) := by
  by_cases sender : (headerUser msg.fromHeader).getD [] = []
  · simp only [handleMessage, if_pos sender, ensures_pure]
    exact ⟨fun accepted => absurd sender accepted.1, fun _ => rfl⟩
  simp only [handleMessage, if_neg sender, request_bind, done_bind, ensures_request]
  rintro account _ rfl
  split
  · refine ensures_pure.mpr ⟨fun accepted => ?_, fun _ => rfl⟩
    cases accepted.2.2 _ (.head _)
  · refine ensures_pure.mpr ⟨fun accepted => ?_, fun _ => rfl⟩
    cases accepted.2.2 _ (.head _)
  have uses : (refreshSenderRegistrationSource server _ server.cfg.sipDomain src).Uses
      (Op.Within msg.callKey [.ask]) :=
    Action.within (refreshSenderRegistrationSource_uses server src
      ((headerUser msg.fromHeader).getD []) _)
  rw [ensures_bind]
  refine ((refreshSenderRegistrationSource_isOk_iff _ _).and (ensures_asks _ uses)).mono ?_
  rintro asked _ refreshed ⟨succeeds, rfl, asks⟩
  have silent : sends asked = [] := sends_eq_nil fun occurrence member =>
    Op.isSend_eq_false (by rw [asks occurrence member]; decide)
  cases refreshed with
  | error error =>
    refine ensures_pure.mpr ⟨fun accepted => ?_, fun _ => ?_⟩
    · cases succeeds.mp fun occurrence member =>
        accepted.2.2 occurrence (.tail _ (mem_append_left _ member))
    · rw [sends_cons_of_silent rfl, append_nil, silent]
  | ok _ =>
    dsimp only
    split
    · next missing =>
        refine ensures_pure.mpr ⟨fun accepted => absurd missing accepted.2.1, fun _ => ?_⟩
        rw [sends_cons_of_silent rfl, append_nil, silent]
    · next callee =>
        refine (deliverMessage_sendsOnly found present _ _).mono ?_
        rintro occurrences final value ⟨sent, accepts⟩
        refine ⟨fun _ => ?_, fun refused => absurd ⟨sender, callee, ?_⟩ refused⟩
        · rw [SendsOnly, sends_cons_of_silent rfl, sends_append, silent]
          exact sent
        · simp only [mem_cons, mem_append]
          rintro occurrence (rfl | early | late)
          · rfl
          · exact succeeds.mpr rfl occurrence early
          · exact accepts occurrence late

section Routing

open Handler (Method)

variable {method : Method}

/-- The methods that voicemail and conferences take over for the calls they own. -/
abbrev ownedMethods : List Method := [.ack, .bye, .cancel, .info]

/-- Neither voicemail nor a conference owns the call. -/
structure Unowned (state : ServerState) (msg : SipMessage) : Prop where
  voicemail : msg.callKey ≠ [] → state.voicemailActive.lookup msg.callKey = none
  conference : msg.callKey ≠ [] → state.conferenceActive.lookup msg.callKey = none

/-- A request that no endpoint owns goes to the proxy. -/
theorem Handler.routeVoicemail_eq {isVoicemail : Bool}
    (unowned : method ∈ ownedMethods → isVoicemail = false) :
    routeVoicemail server msg src method isVoicemail =
      routeAfterVoicemail server msg src method := by
  unfold routeVoicemail
  split
  · next owned =>
      subst owned
      split
      · cases unowned (by decide)
      · cases unowned (by decide)
      · cases unowned (by decide)
      · cases unowned (by decide)
      · rfl
  · rfl

theorem Handler.routeConference_eq {isConference : Bool}
    (unowned : method ∈ ownedMethods → isConference = false) :
    routeConference server msg src method isConference =
      routeToProxy server msg src method := by
  unfold routeConference
  split
  · next owned =>
      subst owned
      split
      · cases unowned (by decide)
      · cases unowned (by decide)
      · cases unowned (by decide)
      · cases unowned (by decide)
      · rfl
  · rfl

theorem Handler.routeRequest_eq {isVoicemail : Bool} (notInvite : method ≠ .invite)
    (notSubscribe : method ≠ .subscribe) : routeRequest server msg src method isVoicemail =
      routeVoicemail server msg src method isVoicemail := by
  simp [routeRequest, notInvite, notSubscribe]

theorem Handler.continueWith_eq {isConference : Bool} (notInvite : method ≠ .invite) :
    routeAfterVoicemail.continueWith server msg src method isConference =
      routeConference server msg src method isConference := by
  simp [routeAfterVoicemail.continueWith, notInvite]

/-- A request that is neither INVITE nor SUBSCRIBE, and that no endpoint owns, does what the
proxy does after looking for an owner. -/
theorem Handler.ensures_processRequest
    {post : List (Occurrence signature) → ServerState → Option Str → Prop}
    (lookups : ∀ occurrence rest final value, occurrence.op.isSend = false →
      AcceptsSender occurrence → post rest final value → post (occurrence :: rest) final value)
    (notInvite : method ≠ .invite) (notSubscribe : method ≠ .subscribe)
    (unowned : method ∈ ownedMethods → Unowned state msg)
    (proxied : server.system.Ensures state (routeToProxy server msg src method) post) :
    server.system.Ensures state (processRequest server msg src method) post := by
  unfold processRequest
  split
  · next missing =>
      rw [routeRequest_eq notInvite notSubscribe, routeVoicemail_eq fun _ => rfl,
        routeAfterVoicemail, if_pos missing, continueWith_eq notInvite,
        routeConference_eq fun _ => rfl]
      exact proxied
  · next present =>
      simp only [request_bind, done_bind, ensures_request]
      rintro found _ performed
      obtain ⟨-, rfl, rfl⟩ := Op.perform_voicemailActive_iff.mp performed
      rw [routeRequest_eq notInvite notSubscribe, routeVoicemail_eq fun owned => ?_,
        routeAfterVoicemail, if_neg present]
      · simp only [request_bind, done_bind, ensures_request]
        rintro conference _ ⟨rfl, rfl⟩
        rw [continueWith_eq notInvite, routeConference_eq fun owned => ?_]
        · exact proxied.mono fun rest final value holds =>
            lookups _ _ _ _ rfl trivial (lookups _ _ _ _ rfl trivial holds)
        · exact Option.isSome_eq_false_iff.mpr
            (Option.isNone_iff_eq_none.mpr ((unowned owned).conference present))
      · exact Option.isSome_eq_false_iff.mpr
          (Option.isNone_iff_eq_none.mpr ((unowned owned).voicemail present))

/-- Answering with what a handler returns sends nothing more. -/
theorem Handler.ensures_finish {handler : Action (Fallible Str)}
    {post : List (Occurrence signature) → Prop}
    (handled : server.system.Ensures state handler fun occurrences _ _ => post occurrences) :
    server.system.Ensures state (finish msg handler)
      fun occurrences _ _ => post occurrences := by
  rw [finish, ensures_bind]
  refine handled.mono fun occurrences final value holds => ?_
  simpa using holds

/-- When a request of a dialog reaches the handler that forwards it to the other party. Only
the methods that are forwarded inside a dialog are listed. -/
def Forwards (state : ServerState) (msg : SipMessage) (src : SocketAddr) (dialog : DialogInfo)
    (occurrences : List (Occurrence signature)) : Method → Prop
  | .ack => src = dialog.callerAddr ∧ Unowned state msg
  | .bye | .info => Unowned state msg
  | .refer | .notify => True
  | .message => MessageAccepted msg occurrences
  | _ => False

/-- The methods that are forwarded inside a dialog. -/
abbrev dialogMethods : List Method := [.ack, .bye, .info, .refer, .notify, .message]

theorem Forwards.unowned (forwards : Forwards state msg src dialog occurrences method)
    (owned : method ∈ ownedMethods) : Unowned state msg := by
  cases method with
  | ack => exact forwards.2
  | bye => exact forwards
  | info => exact forwards
  | cancel => exact forwards.elim
  | _ => exact absurd owned (by decide)

/-- The steps before the handler of the method change nothing about the condition. -/
theorem forwards_cons {occurrence : Occurrence signature} (fine : AcceptsSender occurrence) :
    Forwards state msg src dialog (occurrence :: occurrences) method ↔
      Forwards state msg src dialog occurrences method := by
  cases method with
  | message => simp [Forwards, MessageAccepted, fine]
  | _ => rfl

theorem Proxy.otherParty_ne (apart : dialog.callerAddr ≠ dialog.calleeAddr)
    (party : src = dialog.callerAddr ∨ src = dialog.calleeAddr) :
    otherParty dialog src ≠ src := by
  obtain rfl | rfl := party
  · simpa [otherParty] using apart.symm
  · simpa [otherParty, apart.symm] using apart

theorem Proxy.otherParty_eq {other : SocketAddr}
    (party : src = dialog.callerAddr ∨ src = dialog.calleeAddr) (away : other ≠ src)
    (known : other ∈ [dialog.callerAddr, dialog.calleeAddr]) : other = otherParty dialog src := by
  simp only [mem_cons, not_mem_nil, or_false] at known
  unfold otherParty
  grind

/-- The request was forwarded to the other party as it was received, and nothing else was sent. -/
def ReachesOther (msg : SipMessage) (src : SocketAddr) (dialog : DialogInfo)
    (occurrences : List (Occurrence signature)) : Prop :=
  ∃ other, other ∈ [dialog.callerAddr, dialog.calleeAddr] ∧ other ≠ src ∧
    sends occurrences = [(.forward msg.callKey, other, msg.raw)]

theorem reachesOther_iff (apart : dialog.callerAddr ≠ dialog.calleeAddr)
    (party : src = dialog.callerAddr ∨ src = dialog.calleeAddr) :
    ReachesOther msg src dialog occurrences ↔
      sends occurrences = [(.forward msg.callKey, otherParty dialog src, msg.raw)] := by
  constructor
  · rintro ⟨other, known, away, sent⟩
    rwa [← otherParty_eq party away known]
  · refine fun sent => ⟨otherParty dialog src, ?_, otherParty_ne apart party, sent⟩
    unfold otherParty
    split <;> simp

/-- The proxy's handlers forward the request to the other party, but for an ACK of the callee and a
MESSAGE that is not accepted. -/
theorem Handler.routeToProxy_reaches
    (found : state.activeDialogs.lookup msg.callKey = some dialog)
    (apart : dialog.callerAddr ≠ dialog.calleeAddr)
    (party : src = dialog.callerAddr ∨ src = dialog.calleeAddr)
    (carried : method = .message → msg.callKey ≠ []) (inDialog : method ∈ dialogMethods)
    (unowned : method ∈ ownedMethods → Unowned state msg) :
    server.system.Ensures state (routeToProxy server msg src method)
      fun occurrences _ _ => ReachesOther msg src dialog occurrences ↔
        Forwards state msg src dialog occurrences method := by
  simp only [reachesOther_iff apart party]
  cases method with
  | ack =>
    simp only [routeToProxy, ensures_bind, ensures_pure, append_nil]
    refine (handleAck_sendsOnly found).mono fun occurrences final value sent => ?_
    rw [SendsOnly] at sent
    simp only [sent, Forwards, and_iff_left (unowned (by decide)), otherParty]
    grind
  | bye =>
    exact ensures_finish ((handleBye_sendsOnly found).mono
      fun _ _ _ sent => iff_of_true sent (unowned (by decide)))
  | info =>
    exact ensures_finish ((forwardInDialog_sendsOnly found _ _).mono
      fun _ _ _ sent => iff_of_true sent (unowned (by decide)))
  | refer =>
    exact ensures_finish ((forwardInDialog_sendsOnly found _ _).mono
      fun _ _ _ sent => iff_of_true sent trivial)
  | notify =>
    exact ensures_finish ((forwardInDialog_sendsOnly found _ _).mono
      fun _ _ _ sent => iff_of_true sent trivial)
  | message =>
    refine ensures_finish ((handleMessage_sends found (carried rfl)).mono ?_)
    rintro occurrences final value ⟨sent, silent⟩
    refine ⟨fun reached => by_contra fun refused => ?_, sent⟩
    rw [silent refused] at reached
    cases reached
  | _ => exact absurd inDialog (by decide)

/-- An endpoint that takes over a call forwards nothing. -/
theorem Endpoint.not_reachesOther (endpoint : Endpoint) (quiet : .sendForward ∉ endpoint.kinds) :
    server.system.Ensures state (endpoint.run server msg src)
      fun occurrences _ _ => ¬ ReachesOther msg src dialog occurrences := by
  rintro occurrences final value execution ⟨other, -, -, sent⟩
  refine not_sends_forward (fun occurrence member same => quiet ?_) sent
  exact same ▸ (execution.within (endpoint.run_uses server msg src) occurrence member).within.2

/-- The endpoint that takes over a request of its call forwards nothing. -/
theorem Handler.takenOver_not_reachesOther (owned : method ∈ ownedMethods) :
    server.system.Ensures state (routeVoicemail server msg src method true)
        (fun occurrences _ _ => ¬ ReachesOther msg src dialog occurrences) ∧
      server.system.Ensures state (routeConference server msg src method true)
        (fun occurrences _ _ => ¬ ReachesOther msg src dialog occurrences) := by
  simp only [mem_cons, not_mem_nil, or_false] at owned
  obtain rfl | rfl | rfl | rfl := owned
  · exact ⟨not_reachesOther .voicemailAck (by decide),
      not_reachesOther .conferenceAck (by decide)⟩
  · exact ⟨not_reachesOther .voicemailBye (by decide),
      not_reachesOther .conferenceBye (by decide)⟩
  · exact ⟨not_reachesOther .voicemailCancel (by decide),
      not_reachesOther .conferenceCancel (by decide)⟩
  · exact ⟨not_reachesOther .voicemailInfo (by decide),
      not_reachesOther .conferenceInfo (by decide)⟩

/-- A request of a call that an endpoint owns is not forwarded. -/
theorem Handler.owned_not_reachesOther (owned : method ∈ ownedMethods)
    (taken : ¬ Unowned state msg) :
    server.system.Ensures state (processRequest server msg src method)
      fun occurrences _ _ => ¬ ReachesOther msg src dialog occurrences := by
  have notInvite : method ≠ .invite := fun same => absurd (same ▸ owned) (by decide)
  have notSubscribe : method ≠ .subscribe := fun same => absurd (same ▸ owned) (by decide)
  have present : msg.callKey ≠ [] := fun empty =>
    taken ⟨fun filled => absurd empty filled, fun filled => absurd empty filled⟩
  have skip : ∀ {occurrence : Occurrence signature} {rest}, occurrence.op.isSend = false →
      ¬ ReachesOther msg src dialog rest → ¬ ReachesOther msg src dialog (occurrence :: rest) := by
    intro occurrence rest silent
    rw [ReachesOther, ReachesOther, sends_cons_of_silent silent]
    exact id
  rw [processRequest, if_neg present]
  simp only [request_bind, done_bind, ensures_request]
  rintro found reached performed
  obtain ⟨rfl, rfl⟩ := Op.perform_voicemailGet_iff.mp performed
  rw [routeRequest_eq notInvite notSubscribe]
  cases owner : reached.voicemailActive.lookup msg.callKey with
  | some call => exact (takenOver_not_reachesOther owned).1.mono fun _ _ _ => skip rfl
  | none =>
    rw [Option.isSome_none, routeVoicemail_eq fun _ => rfl, routeAfterVoicemail, if_neg present]
    simp only [request_bind, done_bind, ensures_request]
    rintro room reached ⟨rfl, rfl⟩
    simp only [TableOp.key, continueWith_eq notInvite]
    cases joined : reached.conferenceActive.lookup msg.callKey with
    | some conference =>
      intro occurrences final value execution
      exact skip rfl (skip rfl ((takenOver_not_reachesOther owned).2 _ _ _ execution))
    | none => exact absurd ⟨fun _ => owner, fun _ => joined⟩ taken

end Routing

/-- A request of a dialog from one of its parties is forwarded, as it was received, to the other
party and nothing else is sent, exactly when it reaches the handler of its method and is neither an
ACK of the callee nor a MESSAGE that is not accepted. -/
theorem inDialog_goes_to_other_party_iff {text : Str} {final : ServerState} {value : Option Str}
    (found : state.activeDialogs.lookup msg.callKey = some dialog)
    (apart : dialog.callerAddr ≠ dialog.calleeAddr)
    (party : src = dialog.callerAddr ∨ src = dialog.calleeAddr)
    (requested : msg.method = some text)
    (inDialog : Handler.Method.ofText text ∈ dialogMethods)
    (carried : Handler.Method.ofText text = .message → msg.callKey ≠ [])
    (execution : server.system.Exec state (processMsg server msg src) occurrences final
      value) :
    ReachesOther msg src dialog occurrences ↔
      Forwards state msg src dialog occurrences (.ofText text) := by
  rw [processMsg, requested] at execution
  by_cases taken : Handler.Method.ofText text ∈ ownedMethods ∧ ¬ Unowned state msg
  · refine iff_of_false ?_ fun forwards => taken.2 (forwards.unowned taken.1)
    exact owned_not_reachesOther taken.1 taken.2 _ _ _ execution
  · have unowned : Handler.Method.ofText text ∈ ownedMethods → Unowned state msg :=
      fun owned => by_contra fun other => taken ⟨owned, other⟩
    refine ensures_processRequest ?_ ?_ ?_ unowned
      (routeToProxy_reaches found apart party carried inDialog unowned) _ _ _ execution
    · intro occurrence rest final value silent fine reaches
      rwa [ReachesOther, sends_cons_of_silent silent, forwards_cons fine]
    · rintro invite
      rw [invite] at inDialog
      exact absurd inDialog (by decide)
    · rintro subscribe
      rw [subscribe] at inDialog
      exact absurd inDialog (by decide)

namespace Scenario

/-- The dialog of the call. -/
def callDialog : DialogInfo := ⟨caller, callee, false, false⟩

/-- The call is set up. -/
def talking : ServerState :=
  { ServerState.initial with activeDialogs := AList.singleton callId callDialog }

end Scenario

open Scenario

/-- The callee's BYE goes to the caller. -/
theorem inDialog_goes_to_other_party_iff_bye :
    ∃ msg occurrences final value,
      SipMessage.parse Scenario.server.platform (Scenario.request "BYE") = .ok msg ∧
      talking.activeDialogs.lookup msg.callKey = some callDialog ∧
      Scenario.server.system.Exec talking
        (processMsg Scenario.server msg Scenario.callee) occurrences final value ∧
      ReachesOther msg Scenario.callee callDialog occurrences := by
  have computed : Scenario.server.handles (Scenario.request "BYE")
      ((Scenario.outside none).resolver Scenario.server) talking
      (processMsg Scenario.server · Scenario.callee) (fun msg _ _ _ =>
        decide (msg.callKey = Scenario.callId) && decide (msg.method = some "BYE".toList)) = true :=
    by decide +kernel
  obtain ⟨msg, occurrences, final, value, parsed, execution, checked⟩ :=
    exists_exec_of_handles computed
  obtain ⟨own, requested⟩ := Bool.and_eq_true_iff.mp checked
  have found : talking.activeDialogs.lookup msg.callKey = some callDialog := by
    rw [of_decide_eq_true own]
    decide +kernel
  refine ⟨msg, occurrences, final, value, parsed, found, execution, ?_⟩
  exact (inDialog_goes_to_other_party_iff found (by decide) (.inr rfl) (of_decide_eq_true requested)
    (by decide) (fun message => absurd message (by decide)) execution).mpr
      ⟨fun _ => rfl, fun _ => rfl⟩

/-- The callee's ACK is sent back to the callee, in a state the server reaches when it has
forwarded the INVITE of the call. -/
theorem inDialog_ack_returns_to_sender :
    ∃ config msg occurrences final value,
      Steps (.free Scenario.server.system) Scenario.start config ∧
      SipMessage.parse Scenario.server.platform (Scenario.request "ACK") = .ok msg ∧
      config.shared.activeDialogs.lookup msg.callKey = some callDialog ∧
      Scenario.server.system.Exec config.shared
        (Handler.processMsg Scenario.server msg Scenario.callee) occurrences final value ∧
      sends occurrences = [(.forward msg.callKey, Scenario.callee, msg.raw)] := by
  have computed : (Scenario.start.play [.arrive (fromCaller "INVITE"),
      Scenario.steps 0 40 none]).any (fun config =>
        Scenario.server.handles (Scenario.request "ACK")
          ((Scenario.outside none).resolver Scenario.server) config.shared
          (Handler.processMsg Scenario.server · Scenario.callee) (fun msg occurrences _ _ =>
            decide (config.shared.activeDialogs.lookup msg.callKey = some callDialog) &&
              decide (sends occurrences = [(.forward msg.callKey, Scenario.callee, msg.raw)]))) = true := by
    decide +kernel
  obtain ⟨config, reached, acknowledged⟩ := exists_run computed
  obtain ⟨msg, occurrences, final, value, parsed, execution, checked⟩ :=
    exists_exec_of_handles acknowledged
  obtain ⟨found, sent⟩ := Bool.and_eq_true_iff.mp checked
  exact ⟨config, msg, occurrences, final, value, reached, parsed, of_decide_eq_true found,
    execution, of_decide_eq_true sent⟩

end Sip3
