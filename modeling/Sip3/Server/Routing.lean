import Sip3.Server.Footprint

/-!
# Routing

Which endpoint a request reaches depends on its method, on two lookups and on the
database. A theorem about every route follows from one fact for each endpoint that
serves the method; `Handler.processRequest_follows` is that step, and the endpoints
have the footprints of their handlers.
-/

namespace Sip3

open Text Semantics Program Handler Sip3.Action Voicemail SipMessage Conference Uses Sip3.Task

/-- Where `process_sip_msg` can send a request. -/
inductive Endpoint where
  | messageSummary
  | voicemailAccess
  | voicemailAck
  | voicemailBye
  | voicemailCancel
  | voicemailInfo
  | conferenceInvite (roomId maxParticipants : Nat)
  | conferenceAck
  | conferenceBye
  | conferenceCancel
  | conferenceInfo
  | proxy (method : Method)

namespace Endpoint

/-- The method an endpoint serves. -/
def method : Endpoint → Method
  | messageSummary => .subscribe
  | voicemailAccess => .invite
  | voicemailAck => .ack
  | voicemailBye => .bye
  | voicemailCancel => .cancel
  | voicemailInfo => .info
  | conferenceInvite _ _ => .invite
  | conferenceAck => .ack
  | conferenceBye => .bye
  | conferenceCancel => .cancel
  | conferenceInfo => .info
  | proxy method => method

/-- What an endpoint runs. -/
def run (server : Server) (msg : SipMessage) (src : SocketAddr) : Endpoint → Action (Option Str)
  | messageSummary => finish msg (Mwi.handleSubscribe server msg src)
  | voicemailAccess => finish msg (Voicemail.handleAccessInvite server msg src)
  | voicemailAck => do
      Voicemail.handleAck msg
      return none
  | voicemailBye => finish msg (Voicemail.handleBye msg)
  | voicemailCancel => finish msg (Voicemail.handleCancel msg)
  | voicemailInfo => finish msg (Voicemail.handleInfo server msg)
  | conferenceInvite roomId maxParticipants =>
    finish msg (Conference.handleInvite server msg src roomId maxParticipants)
  | conferenceAck => return none
  | conferenceBye => finish msg (Conference.handleBye msg)
  | conferenceCancel => finish msg (Conference.handleCancel msg)
  | conferenceInfo => finish msg (Conference.handleInfo server msg)
  | proxy method => routeToProxy server msg src method

/-- The steps an endpoint can take. -/
def kinds : Endpoint → List Kind
  | messageSummary => [.ask, .spawnOther]
  | voicemailAccess => accessKinds
  | voicemailAck => [.timerCancel]
  | voicemailBye => [.voicemailRemove, .timerCancel, .registryRemove]
  | voicemailCancel => [.recordingMark, .voicemailRemove, .timerCancel, .registryRemove]
  | voicemailInfo => menuKinds
  | conferenceInvite _ _ | conferenceAck | conferenceBye | conferenceCancel | conferenceInfo =>
    conferenceKinds
  | proxy .register | proxy .subscribe => subscriptionKinds
  | proxy .invite => inviteKinds
  | proxy .options | proxy .other => []
  | proxy .info | proxy .message | proxy .refer | proxy .notify => inDialogKinds
  | proxy .ack => ackKinds
  | proxy .bye => byeKinds
  | proxy .cancel => cancelKinds

/-- The statements an endpoint can make. -/
def topics : Endpoint → List Topic
  | messageSummary => [.registration, .mwi]
  | voicemailAccess => accessTopics
  | voicemailInfo => menuTopics
  | voicemailAck | voicemailBye | voicemailCancel => []
  | conferenceInvite _ _ | conferenceAck | conferenceBye | conferenceCancel | conferenceInfo =>
    conferenceTopics
  | proxy .register => registerTopics
  | proxy .subscribe => presenceTopics
  | proxy .invite => inviteTopics
  | proxy .message => messageTopics
  | proxy .ack => statusTopics .answered
  | proxy .bye => statusTopics .ended
  | proxy .cancel => statusTopics .cancelled
  | proxy .options | proxy .info | proxy .refer | proxy .notify | proxy .other => []

theorem cleanUp_not_mem_topics (endpoint : Endpoint) : Topic.cleanUp ∉ endpoint.topics := by
  cases endpoint with
  | proxy method => cases method <;> decide
  | conferenceInvite roomId maxParticipants => simp [topics]
  | _ => decide

theorem spawnExternal_not_mem_kinds (endpoint : Endpoint) :
    Kind.spawnExternal ∉ endpoint.kinds := by
  cases endpoint with
  | proxy method => cases method <;> decide
  | conferenceInvite roomId maxParticipants => simp [kinds]
  | _ => decide

variable (server : Server) (msg : SipMessage) (src : SocketAddr)

/-- Every endpoint keeps to its kinds of steps and to its topics, on the Call-ID of its
message. -/
theorem run_uses (endpoint : Endpoint) :
    (endpoint.run server msg src).Uses
      (Op.Keeps msg.callKey endpoint.kinds endpoint.topics) := by
  cases endpoint with
  | messageSummary => exact uses_then (Mwi.handleSubscribe_uses server msg src)
  | voicemailAccess => exact uses_then (handleAccessInvite_uses server msg src)
  | voicemailAck => simp [run, handleAck, kinds]
  | voicemailBye => exact uses_then (endCall_uses msg)
  | voicemailCancel => exact uses_then (handleCancel_uses msg)
  | voicemailInfo => exact uses_then (handleInfo_uses server msg)
  | conferenceInvite roomId maxParticipants =>
    exact uses_then (handleInvite_uses server msg src roomId maxParticipants)
  | conferenceAck => exact uses_done _
  | conferenceBye => exact uses_then (handleBye_uses msg)
  | conferenceCancel => exact uses_then (handleBye_uses msg)
  | conferenceInfo => exact uses_then (handleInfo_uses server msg)
  | proxy method =>
    cases method with
    | register => exact uses_then (Registrar.handleRegister_uses server msg src)
    | invite => exact uses_then (Proxy.handleInvite_uses server msg src)
    | options => exact uses_done _
    | info => exact uses_then (Proxy.forwardInDialog_uses msg src _ _)
    | message => exact uses_then (Proxy.handleMessage_uses server msg src)
    | refer => exact uses_then (Proxy.forwardInDialog_uses msg src _ _)
    | notify => exact uses_then (Proxy.forwardInDialog_uses msg src _ _)
    | subscribe => exact uses_then (Presence.handleSubscribe_uses server msg src)
    | ack => exact uses_then (Proxy.handleAck_uses server msg)
    | bye => exact uses_then (Proxy.handleBye_uses server msg src)
    | cancel => exact uses_then (Proxy.handleCancel_uses server msg)
    | other => exact uses_done _

end Endpoint

/-- The kinds of steps of routing itself. -/
abbrev routingKinds : List Kind := [.voicemailGet, .conference, .ask]

/-- The steps of routing itself: two lookups and one statement. -/
inductive Op.Routes (callId : CallId) : Op → Prop where
  | voicemail : Routes callId (.voicemailActive (.get callId))
  | conference : Routes callId (.conferenceActive (.get callId))
  | room (extension domain : Str) :
      Routes callId (.ask (.query (.conferenceRoom extension domain)))

theorem Op.Routes.within {callId : CallId} {op : Op} (routes : Op.Routes callId op) :
    Op.Within callId routingKinds op := by
  cases routes <;> simp

/-- Looking up a room is a step of the routing. -/
theorem Conference.lookupRoom_routes {callId : CallId} (extension domain : Str) :
    (lookupRoom extension domain).Uses (Op.Routes callId) := by
  unfold lookupRoom
  split
  · refine bind ⟨.room _ _, fun _ => uses_done _⟩ fun row => ?_
    split <;> exact uses_done _
  · exact uses_done _

section Routing

variable (server : Server) (msg : SipMessage) (src : SocketAddr)

section

variable (P : Action (Option Str) → Prop) (method : Method)
  (after : ∀ {α : Type} {program : Action α} {next : α → Action (Option Str)},
    program.Uses (Op.Routes msg.callKey) → (∀ value, P (next value)) → P (program >>= next))

include P method after

/-- A property of programs that passes over the steps of routing holds of a request when
it holds of every endpoint for its method, and of the routing of an INVITE to a room or to
the proxy. -/
theorem Handler.processRequest_routes (invite : method = .invite → P (routeInvite server msg src))
    (endpoints : ∀ endpoint : Endpoint, endpoint.method = method →
      (∀ roomId maxParticipants, endpoint ≠ .conferenceInvite roomId maxParticipants) →
      P (endpoint.run server msg src)) : P (processRequest server msg src method) := by
  have generic : P (routeToProxy server msg src method) := endpoints (.proxy method) rfl nofun
  have conference : ∀ isConference, P (routeConference server msg src method isConference) := by
    intro isConference
    unfold routeConference
    split
    swap
    · exact generic
    split
    · exact endpoints .conferenceAck rfl nofun
    · exact endpoints .conferenceBye rfl nofun
    · exact endpoints .conferenceCancel rfl nofun
    · exact endpoints .conferenceInfo rfl nofun
    · exact generic
  have continued : ∀ isConference,
      P (routeAfterVoicemail.continueWith server msg src method isConference) := by
    intro isConference
    unfold routeAfterVoicemail.continueWith
    split
    · exact invite ‹_›
    · exact conference isConference
  have afterVoicemail : P (routeAfterVoicemail server msg src method) := by
    unfold routeAfterVoicemail
    split
    · exact continued false
    · exact after ⟨.conference, fun _ => uses_done _⟩ fun _ => continued _
  have voicemail : ∀ isVoicemail, P (routeVoicemail server msg src method isVoicemail) := by
    intro isVoicemail
    unfold routeVoicemail
    split
    swap
    · exact afterVoicemail
    split
    · exact endpoints .voicemailAck rfl nofun
    · exact endpoints .voicemailBye rfl nofun
    · exact endpoints .voicemailCancel rfl nofun
    · exact endpoints .voicemailInfo rfl nofun
    · exact afterVoicemail
  have routed : ∀ isVoicemail, P (routeRequest server msg src method isVoicemail) := by
    intro isVoicemail
    unfold routeRequest
    split
    · next summary => exact endpoints .messageSummary summary.1.symm nofun
    split
    · next access => exact endpoints .voicemailAccess access.1.symm nofun
    · exact voicemail isVoicemail
  unfold processRequest
  split
  · exact routed false
  · exact after ⟨.voicemail, fun _ => uses_done _⟩ fun _ => routed _

theorem Handler.processRequest_induction
    (endpoints : ∀ endpoint : Endpoint, endpoint.method = method →
      P (endpoint.run server msg src)) : P (processRequest server msg src method) := by
  refine processRequest_routes server msg src P method after ?_
    fun endpoint serves _ => endpoints endpoint serves
  rintro rfl
  refine after (lookupRoom_routes _ _) fun room => ?_
  split
  · exact endpoints (.conferenceInvite _ _) rfl
  · exact endpoints (.proxy .invite) rfl

end

/-- A request follows a graph when the steps of routing loop at its start and every
endpoint for its method follows the graph from there. -/
theorem Handler.processRequest_follows {Point : Type} {graph : Graph signature Point}
    {point : Point} {exit : Option Str → Point → Prop} (method : Method)
    (quiet : ∀ op, Op.Routes msg.callKey op → ∀ answer, graph point op answer point)
    (endpoints : ∀ endpoint : Endpoint, endpoint.method = method →
      (endpoint.run server msg src).Follows graph point exit) :
    (processRequest server msg src method).Follows graph point exit :=
  processRequest_induction server msg src (·.Follows graph point exit) method
    (fun uses rest => uses.follows_bind quiet rest) endpoints

/-- The answer of `process_sip_msg` is sent to where the message came from. -/
def replyTo (result : Option Str) : Action Unit :=
  match result with
  | none => return ()
  | some response => do
      let _ ← Action.send (.reply msg.callKey) src response
      return ()

/-- A received text that parses is processed and answered. -/
theorem Handler.handleText_eq {raw : Str} (parsed : parse server.platform raw = .ok msg) :
    handleText server raw src = processMsg server msg src >>= replyTo msg src := by
  rw [handleText, parsed]
  rfl

theorem Handler.handleText_eq_done {raw : Str} {failure : ParseFailure}
    (parsed : parse server.platform raw = .error failure) :
    handleText server raw src = .done () := by
  rw [handleText, parsed]
  rfl

theorem Task.body_of_message {task : Task} {msg : SipMessage} {server : Server}
    (received : task.message server = some msg) :
    ∃ src, task.source = some src ∧
      task.body server = processMsg server msg src >>= replyTo msg src := by
  have parsed : ∀ {raw : Str}, (parse server.platform raw).toOption = some msg →
      parse server.platform raw = .ok msg := by
    intro raw found
    cases result : parse server.platform raw with
    | error failure => simp [result, Except.toOption] at found
    | ok other => simpa [result, Except.toOption] using found
  cases task with
  | datagram data src => exact ⟨src, rfl, handleText_eq server msg src (parsed received)⟩
  | stream raw src => exact ⟨src, rfl, handleText_eq server msg src (parsed received)⟩
  | _ => cases received

/-- Steps of the no-answer timer task. -/
abbrev timerKinds : List Kind :=
  [.ask, .timerClaim, .sendTimerCancel, .pendingRemove, .dialogRemove, .mediaRemove, .webrtc,
    .timerCheck, .timerFinish, .sendTimerAnswer, .recordingMark, .voicemailRemove,
    .registryRemove] ++ deliveryKinds

theorem Voicemail.handOver_uses (timer : TimerStart) :
    (handOver server timer).Uses
      (Op.Keeps timer.msg.callKey timerKinds deliveryTopics) := by
  refine bind (by simp) fun continues => ?_
  split
  · refine bind (widen (handleDeliveryInvite_uses server _ _) (by decide))
      fun delivered => bind (by simp) fun still => ?_
    split <;> simp [cleanupSuppressedNoAnswerDelivery]
  · simp

theorem Voicemail.noAnswerTimer_uses (timer : TimerStart) :
    (noAnswerTimer server timer).Uses
      (Op.Keeps timer.msg.callKey timerKinds deliveryTopics) := by
  refine bind (by simp) fun _ => bind (by simp) fun claimed => ?_
  split
  · exact bind (by simp) fun _ => bind (by simp) fun _ => bind (by simp) fun _ =>
      bind (by simp) fun _ => bind (by simp) fun _ =>
        handOver_uses server timer
  · exact uses_done _

/-- Steps of the tasks that handle no message. -/
abbrev backgroundKinds : List Kind :=
  [.registryGet, .recordingPersist, .insertVoicemail, .sendNotify] ++ timerKinds

/-- Statements of a task that handles no message. -/
def Task.backgroundTopics : Task → List Topic
  | cleanUp _ => [.cleanUp]
  | _ => [.insertVoicemail, .mwi, .webhook] ++ deliveryTopics

theorem Task.body_background {task : Task} (silent : task.message server = none) :
    ∃ callId, (task.body server).Uses
      (Op.Keeps callId backgroundKinds task.backgroundTopics) := by
  have dropped : ∀ {raw : Str} {src : SocketAddr},
      (parse server.platform raw).toOption = none →
      ∀ topics, ∃ callId, (handleText server raw src).Uses
        (Op.Keeps callId backgroundKinds topics) := by
    intro raw src none topics
    cases parsed : parse server.platform raw with
    | error failure =>
      rw [handleText_eq_done server src parsed]
      exact ⟨[], uses_done _⟩
    | ok msg => simp [parsed, Except.toOption] at none
  cases task with
  | datagram data src => exact dropped silent _
  | stream raw src => exact dropped silent _
  | noAnswerTimer timer =>
    exact ⟨_, widen (noAnswerTimer_uses server timer) (by simp only [backgroundTopics]; decide)⟩
  | recording start =>
    exact ⟨_, widen (recordingTask_uses server start) (by simp only [backgroundTopics]; decide)⟩
  | playWav callId storageKey =>
    exact ⟨_, widen (playWav_uses storageKey) (by simp only [backgroundTopics]; decide)⟩
  | notifyMailbox username domain =>
    exact ⟨[], uses_then (widen (Mwi.notifyMailbox_uses server username domain)
      (by simp only [backgroundTopics]; decide))⟩
  | staleMedia callId => exact ⟨callId, by simp [body]⟩
  | staleWebRtc callId => exact ⟨callId, by simp [body]⟩
  | cleanUp sweep =>
    refine ⟨[], ?_⟩
    dsimp only [body]
    split <;> simp [backgroundTopics]

end Routing

/-- The step belongs to a call, or to none, and does not start a task from outside. -/
def Op.For (call : Option CallId) (op : Op) : Prop :=
  (op.key? = none ∨ op.key? = call) ∧ op.kind ≠ .spawnExternal

theorem Op.key?_eq_none {op : Op} (free : op.kind ∈ [Kind.ask, .sendNotify]) :
    op.key? = none := by
  unfold Op.kind at free
  split at free <;> simp_all

section Calls

variable (server : Server) {α : Type} {callId : CallId} {kinds : List Kind}

theorem Action.uses_for {program : Action α} (uses : program.Uses (Op.Within callId kinds))
    (inside : Kind.spawnExternal ∉ kinds) : program.Uses (Op.For (some callId)) :=
  uses.mono fun _ within => ⟨within.1, fun same => inside (same ▸ within.2)⟩

theorem Handler.processMsg_uses (msg : SipMessage) (src : SocketAddr) :
    (processMsg server msg src).Uses (Op.For (some msg.callKey)) := by
  unfold processMsg
  split
  · exact uses_for (within (processResponse_uses server msg)) (by decide)
  · exact processRequest_induction server msg src (·.Uses _) _
      (fun uses rest =>
        (uses_for (uses.mono fun _ routes => routes.within) (by decide)).bind rest)
      fun endpoint _ =>
        uses_for (within (endpoint.run_uses server msg src))
          endpoint.spawnExternal_not_mem_kinds

/-- A received text only takes steps on the Call-ID of its message. -/
theorem Handler.handleText_uses (raw : Str) (src : SocketAddr) :
    (handleText server raw src).Uses
      (Op.For ((parse server.platform raw).toOption.map callKey)) := by
  cases parsed : parse server.platform raw with
  | error failure =>
    rw [handleText_eq_done server src parsed]
    exact uses_done _
  | ok msg =>
    rw [handleText_eq server msg src parsed]
    refine bind (processMsg_uses server msg src) fun result => ?_
    unfold replyTo
    split <;> simp [Op.For, Except.toOption]

/-- A task only takes steps on the call it works for. -/
theorem Task.body_uses (task : Task) :
    (task.body server).Uses (Op.For (task.call? server)) := by
  cases task with
  | datagram data src => exact handleText_uses server _ src
  | stream raw src => exact handleText_uses server raw src
  | noAnswerTimer timer =>
    exact uses_for (within (noAnswerTimer_uses server timer)) (by decide)
  | recording start =>
    exact uses_for (within (recordingTask_uses server start)) (by decide)
  | playWav callId storageKey =>
    exact uses_for (within (playWav_uses storageKey)) (by decide)
  | notifyMailbox username domain =>
    have uses : (Mwi.notifyMailbox server username domain).Uses
        (Op.Within [] [.ask, .sendNotify]) :=
      within (Mwi.notifyMailbox_uses server username domain)
    have quiet : ∀ op, Op.Within [] [.ask, .sendNotify] op → Op.For none op := fun op within =>
      ⟨.inl (Op.key?_eq_none within.2), fun same => absurd (same ▸ within.2) (by decide)⟩
    exact bind (uses.mono quiet) fun _ => uses_done _
  | staleMedia callId => simp [body, Op.For, call?]
  | staleWebRtc callId => simp [body, Op.For, call?]
  | cleanUp sweep =>
    dsimp only [body]
    split <;> simp [Op.For]

end Calls

end Sip3
