import Sip3.Server.Flow.Graph

/-!
# Tasks follow the control flow

Every task of the server follows the graph of every call: `body_follows`. `start`
says where a task begins, and `Starts` what the task is when that matters.
-/

namespace Sip3.Flow

open Text Semantics Program Handler Voicemail Proxy Endpoint

open Point (loops)

section Routine

variable {callId : CallId} {point : Point} {kinds : List Kind} {topics : List Topic} {α β : Type}

theorem edge_of_within {op : Op} (within : Op.Within callId kinds op)
    (routine : kinds ⊆ point.loops) (answer : op.Answer) : Edge callId point op answer point :=
  .loop (fun _ => routine within.2)
    fun external => spawnExternal_not_mem_loops point (external ▸ routine within.2)

variable {program : Action α} {exit : α → Point → Prop}

theorem follows_of_uses (uses : program.Uses (Op.Keeps callId kinds topics))
    (routine : kinds ⊆ point.loops) (stops : ∀ value, exit value point) :
    program.Follows (Edge callId) point exit :=
  uses.follows (fun _ keeps answer => edge_of_within keeps.within routine answer) stops

/-- A routine step, and then a program from the same point. -/
theorem follows_request {op : Op} {next : op.Answer → Action α} (routine : op.kind ∈ point.loops)
    (rest : ∀ answer, (next answer).Follows (Edge callId) point exit) :
    (request op next : Action α).Follows (Edge callId) point exit :=
  fun answer => ⟨point, .loop (fun _ => routine)
    (fun external => spawnExternal_not_mem_loops point (external ▸ routine)), rest answer⟩

/-- Routine steps, and then a program from the same point. -/
theorem follows_bind_of_uses {next : α → Action β} {exit : β → Point → Prop}
    (uses : program.Uses (Op.Keeps callId kinds topics)) (routine : kinds ⊆ point.loops)
    (rest : ∀ value, (next value).Follows (Edge callId) point exit) :
    (program >>= next).Follows (Edge callId) point exit :=
  uses.follows_bind (fun _ keeps answer => edge_of_within keeps.within routine answer) rest

end Routine

section Responses

variable (server : Server) (msg : SipMessage) {callId : CallId} {point : Point}

/-- Where the handler of a final response can stop. -/
def Point.concludes (point : Point) : Prop :=
  point = .missed ∨ point = .dropped ∨ point = .removing .relay true true

theorem removeCall_follows :
    (removeCall callId).Follows (Edge callId) (.removing .relay false false)
      fun _ stop => stop = .removing .relay true true := by
  intro answer
  refine ⟨_, .removePending, fun answer => ⟨_, .removeDialog, fun answer =>
    ⟨_, .removeMedia, fun answer => ⟨_, .loop ?_ ?_, rfl⟩⟩⟩⟩
  · simp [loops, Remover.loops]
  · simp

theorem releaseRelayed_follows (answered : isFinal msg = true) :
    (releaseRelayed msg callId).Follows (Edge callId) .relayed fun _ stop => stop = .dropped := by
  unfold releaseRelayed
  rw [if_pos answered]
  intro answer
  refine ⟨_, .drop, ?_⟩
  split
  · have uses : (do
        let _ ← Action.removeMedia callId
        let _ ← Action.webrtc (.remove callId)
        return () : Action Unit).Uses (Op.Keeps callId [.mediaRemove, .webrtc] []) := by simp
    exact follows_of_uses uses (by decide) fun _ => rfl
  · exact rfl

/-- A final response that found the timer not firing. -/
theorem relayToCaller_follows (answered : isFinal msg = true) :
    (relayToCaller server msg callId).Follows (Edge callId) .released
      fun _ stop => stop.concludes := by
  simp only [relayToCaller, request_bind, done_bind]
  intro found
  cases found with
  | none => exact ⟨_, .miss, .inl rfl⟩
  | some addr =>
    refine ⟨_, .hold, ?_⟩
    refine follows_bind_of_uses (relayedText_uses server msg) (by simp [loops]) fun text => ?_
    intro sent
    exact ⟨_, .relay answered, (releaseRelayed_follows msg answered).mono
      fun _ _ stop => .inr (.inl stop)⟩

theorem relayResponse_follows (present : msg.callId = some callId) (answered : isFinal msg = true)
    (relays : point.relays = true) :
    (relayResponse server msg).Follows (Edge callId) point fun _ stop => stop.concludes := by
  simp only [relayResponse, present, answered, if_true, request_bind, done_bind]
  intro timer
  by_cases fired : timer = .alreadyFired
  · subst fired
    refine ⟨_, .fired relays, ?_⟩
    simp only [if_true]
    exact removeCall_follows.mono fun _ _ stop => .inr (.inr stop)
  · refine ⟨_, .release relays fired, ?_⟩
    simp only [fired, if_false]
    exact relayToCaller_follows server msg answered

theorem relayResponse_follows_provisional (provisional : isFinal msg = false) :
    (relayResponse server msg).Follows (Edge msg.callKey) .provisional
      fun _ stop => stop = .provisional := by
  unfold relayResponse
  split
  · exact rfl
  · next found present =>
      rw [← callKey_of_callId msg present]
      simp only [provisional, Bool.false_eq_true, if_false, relayToCaller, request_bind,
        done_bind]
      refine follows_request (by simp [loops]) fun pending => ?_
      split
      · exact rfl
      · refine follows_bind_of_uses (relayedText_uses server msg) (by decide) fun text => ?_
        intro sent
        refine ⟨_, .pass provisional, ?_⟩
        simp only [releaseRelayed, provisional, Bool.false_eq_true, if_false]
        exact rfl

/-- The diversion of a busy call: an answer only comes after the pending dialog has been
removed. -/
theorem divertBusy_follows (callee : Str) :
    (divertBusy server callId callee).Follows (Edge callId) .diverting fun value stop =>
      stop.relays = true ∧ (value.isSome = true → stop = .diverted) := by
  simp only [divertBusy, request_bind, done_bind]
  refine follows_request (by simp [loops]) fun stored => ?_
  split
  · exact ⟨rfl, by simp⟩
  next invite =>
    simp only [removeCall, request_bind, done_bind, pure_eq_done]
    refine follows_request (by simp [loops]) fun _ => fun _ => ⟨_, .removeDiverted, ?_⟩
    refine follows_request (by simp [loops]) fun _ =>
      follows_request (by simp [loops]) fun _ =>
        follows_request (by simp [loops]) fun _ =>
          follows_request (by simp [loops]) fun pending => ?_
    split
    · exact ⟨rfl, fun _ => rfl⟩
    · have delivery := handleDeliveryInvite_uses server invite.1 callee
      rw [invite.2] at delivery
      refine follows_bind_of_uses delivery (by decide) fun delivered => ?_
      split <;> exact ⟨rfl, fun _ => rfl⟩

/-- Offering a busy response to voicemail: an answer only comes from a diverted call, and
without one the response is still to be relayed. -/
theorem handleBusyToVoicemail_follows (present : msg.callId = some callId) :
    (handleBusyToVoicemail server msg).Follows (Edge callId) .responding fun value stop =>
      stop.relays = true ∧ (value.isSome = true → stop = .diverted) := by
  unfold handleBusyToVoicemail
  rw [present]
  cases headerUser msg.toHeader with
  | none => exact ⟨rfl, nofun⟩
  | some callee =>
    simp only [lookupEnabledBox, request_bind, done_bind]
    intro row
    match row with
    | .error failure => exact ⟨_, .loop (by simp [loops]) (by simp), rfl, nofun⟩
    | .ok none => exact ⟨_, .loop (by simp [loops]) (by simp), rfl, nofun⟩
    | .ok (some box) =>
      exact ⟨_, .divert, divertBusy_follows server callee⟩

/-- A final response is relayed, unless the diversion has an answer for it. -/
theorem processResponse_follows (present : msg.callId = some callId)
    (answered : isFinal msg = true) :
    (processResponse server msg).Follows (Edge callId) .responding fun value stop =>
      stop.concludes ∧ value = none ∨ stop = .diverted := by
  have relay : ∀ {point : Point}, point.relays = true → (do
      relayResponse server msg
      return none : Action (Option Str)).Follows (Edge callId) point
        fun value stop => stop.concludes ∧ value = none ∨ stop = .diverted := fun relays =>
    (relayResponse_follows server msg present answered relays).bind fun _ _ stop => .inl ⟨stop, rfl⟩
  unfold processResponse
  split
  · refine (handleBusyToVoicemail_follows server msg present).bind fun offered stop ⟨relays, last⟩ => ?_
    cases offered with
    | none => exact relay relays
    | some response => exact .inr (last rfl)
  · exact relay rfl

theorem processResponse_follows_provisional (provisional : isFinal msg = false) :
    (processResponse server msg).Follows (Edge msg.callKey) .provisional
      fun value stop => value = none ∧ stop = .provisional := by
  have free : isBusy msg = false := by
    by_contra busy
    exact Bool.false_ne_true
      (provisional.symm.trans (isFinal_of_isBusy (Bool.eq_true_of_not_eq_false busy)))
  simp only [processResponse, free, Bool.false_eq_true, if_false]
  exact (relayResponse_follows_provisional server msg provisional).bind fun _ _ stop => ⟨rfl, stop⟩

end Responses

/-- The points at which a handler may answer the request. -/
def Point.replies (point : Point) : Prop :=
  Kind.sendReply ∈ point.loops

section Requests

variable (server : Server) (msg : SipMessage) (src : SocketAddr)

theorem armAndAnswer_follows (callee : Proxy.Callee) :
    (armAndAnswer server msg src callee).Follows (Edge msg.callKey) .forwarded
      fun _ stop => stop.replies := by
  unfold armAndAnswer
  split
  · simp [Point.replies, loops]
  · simp only [startNoAnswerTimer]
    split
    · simp [Point.replies, loops]
    · simp only [request_bind, done_bind, pure_eq_done]
      refine follows_request (by simp [loops]) fun handle => fun answer => ⟨_, .arm, ?_⟩
      simp [Point.replies, loops]

theorem forwardInvite_follows (callee : Proxy.Callee) (callerIsStream calleeIsStream : Bool) :
    (forwardInvite server msg src callee callerIsStream calleeIsStream).Follows
      (Edge msg.callKey) (.inviting src) fun _ stop => stop.replies := by
  simp only [forwardInvite, request_bind, done_bind]
  refine fun _ => ⟨_, .enter, ?_⟩
  refine follows_request (by simp [loops]) fun _ =>
    follows_request (by simp [loops]) fun _ => ?_
  refine follows_bind_of_uses (setUpMedia_uses server msg _ _) (by decide) fun body => ?_
  refine fun sent => ⟨_, .forward, ?_⟩
  dsimp only
  split
  · exact armAndAnswer_follows server msg src callee
  · simp [Point.replies, loops]

/-- `handle_invite` from an INVITE that has not entered the call. -/
theorem handleInvite_follows :
    (handleInvite server msg src).Follows (Edge msg.callKey) (.inviting src)
      fun _ stop => stop.replies := by
  have stays : (Point.inviting src).replies := by simp [Point.replies, loops]
  have routine : [Kind.ask] ⊆ (Point.inviting src).loops := by simp [loops]
  have reject : ∀ caller detail,
      (rejectInvalidInvite server msg src caller detail).Follows (Edge msg.callKey)
        (.inviting src) fun _ stop => stop.replies := fun caller detail =>
    follows_of_uses (rejectInvalidInvite_uses server msg src caller detail) routine
      fun _ => stays
  dsimp only [handleInvite]
  split
  · exact stays
  split
  · exact stays
  simp only [request_bind, done_bind]
  refine follows_request (by simp [loops]) fun blocked => ?_
  split
  · exact stays
  split
  · exact reject _ _
  refine follows_request (by simp [loops]) fun enabled => ?_
  split
  · exact stays
  · exact reject _ _
  · unfold inviteFrom
    refine follows_bind_of_uses (refreshSenderRegistrationSource_uses server src _ _) routine
      fun refreshed => ?_
    split
    · exact stays
    simp only [request_bind, done_bind]
    refine follows_request (by simp [loops]) fun registered => ?_
    split
    · exact stays
    · unfold inviteUnregistered
      refine follows_bind_of_uses (lookupEnabledBox_uses _ _) routine fun mailbox => ?_
      split
      · refine follows_of_uses (handleDeliveryInvite_uses server msg _) ?_ fun _ => stays
        simp [loops]
      · exact stays
    · unfold inviteRegistered
      refine follows_bind_of_uses (lookupEnabledBox_uses _ _) routine fun mailbox => ?_
      split
      · exact stays
      · simp only [request_bind, done_bind]
        refine follows_request (by simp [loops]) fun _ =>
          follows_request (by simp [loops]) fun _ =>
            follows_request (by simp [loops]) fun _ => ?_
        exact forwardInvite_follows server msg src _ _ _

theorem handleBye_follows :
    (Proxy.handleBye server msg src).Follows (Edge msg.callKey) (.removing .bye false false)
      fun _ stop => stop.replies := by
  have stays : (Point.removing .bye true true).replies := by
    simp [Point.replies, loops, Remover.loops]
  simp only [Proxy.handleBye, request_bind, done_bind, pure_eq_done]
  refine follows_request (by simp [loops, Remover.loops]) fun _ =>
    follows_request (by simp [loops, Remover.loops]) fun _ => ?_
  refine fun dialog => ⟨_, .removeDialog, fun _ => ⟨_, .removePending, fun _ => ⟨_, .removeMedia, ?_⟩⟩⟩
  refine follows_request (by simp [loops, Remover.loops]) fun _ => ?_
  split
  · exact follows_request (by simp [loops, Remover.loops]) fun _ => stays
  · refine follows_bind_of_uses (forwardToRegistration_uses server msg) ?_ fun _ => stays
    simp [loops, Remover.loops]

theorem handleCancel_follows :
    (Proxy.handleCancel server msg).Follows (Edge msg.callKey) .canceling
      fun _ stop => stop = .removing .cancel true true := by
  simp only [Proxy.handleCancel, request_bind, done_bind, pure_eq_done]
  refine fun _ => ⟨_, .cancelTimer, ?_⟩
  refine follows_request (by simp [loops, Remover.loops]) fun _ =>
    follows_request (by simp [loops, Remover.loops]) fun dialog => ?_
  refine follows_bind_of_uses (forwardCancel_uses server msg dialog)
    (by simp [loops, Remover.loops]) fun _ => ?_
  refine fun _ => ⟨_, .removePending, fun _ => ⟨_, .removeDialog, fun _ => ⟨_, .removeMedia, ?_⟩⟩⟩
  exact follows_request (by simp [loops, Remover.loops]) fun _ => rfl

/-- A handler whose result is turned into a response. -/
theorem finish_follows {handler : Action (Fallible Str)} {point : Point} {callId : CallId}
    {exit : Point → Prop} (follows : handler.Follows (Edge callId) point fun _ stop => exit stop) :
    (finish msg handler).Follows (Edge callId) point fun _ stop => exit stop :=
  follows.bind fun _ _ stop => stop

/-- Where the handling of a request begins. -/
def startOf (src : SocketAddr) : Method → Point
  | .invite => .inviting src
  | .bye => .removing .bye false false
  | .cancel => .canceling
  | _ => .idle

/-- A request other than CANCEL, whichever endpoint it reaches. -/
theorem processRequest_follows (method : Method) (other : method ≠ .cancel) :
    (processRequest server msg src method).Follows (Edge msg.callKey) (startOf src method)
      fun _ stop => stop.replies := by
  have routes : routingKinds ⊆ (startOf src method).loops := by
    cases method <;> first
      | exact absurd rfl other
      | simp [startOf, loops, Remover.loops]
  have stays : (startOf src method).replies := by
    cases method <;> first
      | exact absurd rfl other
      | simp [startOf, Point.replies, loops, Remover.loops]
  refine Handler.processRequest_follows server msg src method
    (fun op route answer => edge_of_within route.within routes answer) fun endpoint serves => ?_
  have routine : endpoint.kinds ⊆ (startOf src method).loops →
      (endpoint.run server msg src).Follows (Edge msg.callKey) (startOf src method)
        fun _ stop => stop.replies := fun covered =>
    follows_of_uses (endpoint.run_uses server msg src) covered fun _ => stays
  subst serves
  cases endpoint with
  | proxy method =>
    cases method with
    | invite => exact finish_follows msg (handleInvite_follows server msg src)
    | bye => exact finish_follows msg (handleBye_follows server msg src)
    | cancel => exact absurd rfl other
    | _ => exact routine (by simp [kinds, method, startOf, loops])
  | voicemailCancel => exact absurd rfl other
  | conferenceCancel => exact absurd rfl other
  | _ =>
    exact routine (by simp [kinds, method, startOf, loops, Remover.loops])

/-- Where a CANCEL can stop: it went aside, or it has removed the call. -/
def Point.canceled (point : Point) : Prop :=
  point = .aside ∨ point = .removing .cancel true true

theorem Point.canceled.replies {point : Point} (canceled : point.canceled) : point.replies := by
  rcases canceled with rfl | rfl <;> simp [Point.replies, loops, Remover.loops]

/-- A CANCEL that no other endpoint takes reaches the proxy. -/
theorem routeAfterVoicemail_follows :
    (routeAfterVoicemail server msg src .cancel).Follows (Edge msg.callKey) .canceling
      fun _ stop => stop.canceled := by
  have proxy : (routeToProxy server msg src .cancel).Follows (Edge msg.callKey) .canceling
      fun _ stop => stop.canceled :=
    finish_follows msg ((handleCancel_follows server msg).mono fun _ _ stop => .inr stop)
  have continued : ∀ isConference, (routeAfterVoicemail.continueWith server msg src .cancel
      isConference).Follows (Edge msg.callKey) (if isConference then .aside else .canceling)
        fun _ stop => stop.canceled := by
    intro isConference
    unfold routeAfterVoicemail.continueWith
    rw [if_neg (by decide)]
    cases isConference with
    | false => exact proxy
    | true =>
      refine follows_of_uses (run_uses server msg src .conferenceCancel) ?_
        fun _ => .inl rfl
      simp [kinds, loops]
  unfold routeAfterVoicemail
  split
  · exact continued false
  · simp only [request_bind, done_bind]
    intro found
    cases found with
    | none => exact ⟨_, .passConference, continued false⟩
    | some call => exact ⟨_, .toConference, continued true⟩

/-- A CANCEL goes aside when voicemail or a conference has the call, and removes the call
otherwise. -/
theorem processRequest_follows_cancel :
    (processRequest server msg src .cancel).Follows (Edge msg.callKey) .canceling
      fun _ stop => stop.canceled := by
  have routed : ∀ isVoicemail, (routeRequest server msg src .cancel isVoicemail).Follows
      (Edge msg.callKey) (if isVoicemail then .aside else .canceling)
        fun _ stop => stop.canceled := by
    intro isVoicemail
    unfold routeRequest
    rw [if_neg (by simp), if_neg (by simp)]
    cases isVoicemail with
    | false => exact routeAfterVoicemail_follows server msg src
    | true =>
      refine follows_of_uses (run_uses server msg src .voicemailCancel) ?_
        fun _ => .inl rfl
      simp [kinds, loops]
  unfold processRequest
  split
  · exact routed false
  · simp only [request_bind, done_bind]
    intro found
    cases found with
    | none => exact ⟨_, .passVoicemail, routed false⟩
    | some call => exact ⟨_, .toVoicemail, routed true⟩

end Requests

section Background

variable (server : Server)

theorem handleDeliveryInvite_follows (msg : SipMessage) (callee : Str) :
    (handleDeliveryInvite server msg callee).Follows (Edge msg.callKey) .delivering
      fun _ stop => stop.checks = true := by
  have discards : ∀ result : Fallible Str,
      (discardAnd msg.callKey result).Follows (Edge msg.callKey) .tracked
        fun _ stop => stop.checks = true := fun result _ => ⟨_, .discard, rfl⟩
  have routine : [Kind.ask] ⊆ Point.tracked.loops := by decide
  have records : ∀ caller settings,
      (recordDelivery server msg callee caller settings).Follows (Edge msg.callKey)
        .tracked fun _ stop => stop.checks = true := by
    intro caller settings
    dsimp only [recordDelivery]
    split
    · exact discards _
    · refine follows_bind_of_uses (allocateMedia_uses _) (by decide) fun port => ?_
      split
      · exact discards _
      · refine follows_bind_of_uses (buildLocalOk_uses server msg _ _ _) routine
          fun response => ?_
        refine follows_request (by simp [loops]) fun _ => fun _ => ⟨_, .hand rfl, rfl⟩
  have delivers : (deliverTracked server msg callee).Follows (Edge msg.callKey) .tracked
      fun _ stop => stop.checks = true := by
    dsimp only [deliverTracked]
    split
    · exact discards _
    simp only [request_bind, done_bind]
    refine follows_request (by simp [loops]) fun enabled => ?_
    split
    · exact discards _
    · exact discards _
    refine follows_bind_of_uses (lookupEnabledBox_uses _ _) routine fun mailbox => ?_
    split
    · exact discards _
    simp only [mailboxIsFull, request_bind, done_bind]
    refine follows_request (by simp [loops]) fun count => ?_
    cases count with
    | error failure => exact discards _
    | ok number =>
      simp only [pure_eq_done, done_bind]
      split
      · exact discards _
      · exact discards _
      · exact records _ _
  dsimp only [handleDeliveryInvite]
  split
  · exact rfl
  simp only [request_bind, done_bind]
  intro isTracked
  cases isTracked with
  | true => exact ⟨_, .track, delivers⟩
  | false => exact ⟨_, .untrack, rfl⟩

theorem handOver_follows (timer : TimerStart) :
    (handOver server timer).Follows (Edge timer.msg.callKey) .parted
      fun _ stop => stop = .idle := by
  simp only [handOver, request_bind, done_bind]
  intro continues
  cases continues with
  | false => exact ⟨_, .giveUp, fun _ => ⟨_, .finish rfl, rfl⟩⟩
  | true =>
    refine ⟨_, .deliver, ?_⟩
    simp only [if_true]
    refine (handleDeliveryInvite_follows server timer.msg timer.callee).bind
      fun delivered stop checks => ?_
    intro still
    cases still with
    | true =>
      exact ⟨_, .proceed checks, fun _ => ⟨_, .answer, fun _ => ⟨_, .finish rfl, rfl⟩⟩⟩
    | false =>
      refine ⟨_, .suppress checks, ?_⟩
      simp only [Bool.false_eq_true, if_false, cleanupSuppressedNoAnswerDelivery,
        request_bind, done_bind, pure_eq_done]
      refine fun _ => ⟨_, .mark, ?_⟩
      refine follows_request (by simp [loops]) fun _ =>
        follows_request (by simp [loops]) fun _ => ?_
      exact fun _ => ⟨_, .finish rfl, rfl⟩

theorem noAnswerTimer_follows (timer : TimerStart) :
    (noAnswerTimer server timer).Follows (Edge timer.msg.callKey) .waiting
      fun _ _ => True := by
  simp only [noAnswerTimer, request_bind, done_bind,
    pure_eq_done]
  refine follows_request (by simp [loops]) fun _ => fun isClaimed => ?_
  cases isClaimed with
  | false => exact ⟨_, .lose, trivial⟩
  | true =>
    refine ⟨_, .claim, ?_⟩
    simp only [if_true]
    refine follows_request (by simp [loops]) fun _ => fun _ => ⟨_, .clear, fun _ =>
      ⟨_, .part, ?_⟩⟩
    refine follows_request (by simp [loops]) fun _ =>
      follows_request (by simp [loops]) fun _ => ?_
    exact (handOver_follows server timer).mono fun _ _ _ => trivial

theorem recordingTask_follows (start : RecordingStart) :
    (recordingTask server start).Follows (Edge start.callId) .recorded
      fun _ _ => True := by
  unfold recordingTask
  refine follows_bind_of_uses (recordToStorage_uses server start) (by decide)
    fun result => ?_
  simp only [request_bind, done_bind, pure_eq_done]
  refine follows_request (by simp [loops]) fun _ =>
    follows_request (by simp [loops]) fun _ => fun shouldPersist => ?_
  cases shouldPersist with
  | true =>
    refine ⟨_, .persist, ?_⟩
    split
    · exact trivial
    · exact follows_of_uses (storeRecording_uses server start _ _ _) (by decide)
        fun _ => trivial
  | false =>
    refine ⟨_, .skip, ?_⟩
    split
    · exact trivial
    · simp only [storeRecording, Bool.not_false, true_or, if_true,
        request_bind, done_bind, pure_eq_done]
      exact follows_request (by simp [loops]) fun _ => trivial

end Background

section Tasks

variable (server : Server) (callId : CallId)

/-- Where the handling of a message of the call begins. -/
def startOfMessage (msg : SipMessage) (src : SocketAddr) : Point :=
  match msg.method with
  | none => if msg.callId.isSome && isFinal msg then .responding else .provisional
  | some method => startOf src (.ofText method)

/-- Where a task of the call begins. -/
def startOfTask (task : Task) : Point :=
  match task with
  | .noAnswerTimer _ => .waiting
  | .recording _ => .recorded
  | .staleMedia _ => .stale
  | .datagram _ src | .stream _ src =>
    (task.message server).elim .idle fun msg => startOfMessage msg src
  | .playWav _ _ | .notifyMailbox _ _ | .staleWebRtc _ | .cleanUp _ => .idle

/-- Where a task begins. -/
def start (task : Task) : Point :=
  if task.call? server = some callId then startOfTask server task else .idle

/-- Where a task that begins at a point can stop. -/
def Point.MayStop : Point → Point → Prop
  | .canceling, stop => stop.canceled
  | .responding, stop => stop.concludes ∨ stop = .diverted
  | _, _ => True

variable {callId}

/-- The answer to a request is a routine step where a handler may answer. -/
theorem replyTo_follows {msg : SipMessage} {src : SocketAddr} {result : Option Str} {point : Point}
    {exit : Unit → Point → Prop} (replies : result = none ∨ point.replies)
    (stops : exit () point) : (replyTo msg src result).Follows (Edge callId) point exit := by
  cases result with
  | none => exact stops
  | some response =>
    exact follows_request (replies.resolve_left nofun) fun _ => stops

theorem handleMessage_follows (msg : SipMessage) (src : SocketAddr) :
    (processMsg server msg src >>= replyTo msg src).Follows (Edge msg.callKey)
      (startOfMessage msg src) fun _ stop => (startOfMessage msg src).MayStop stop := by
  unfold processMsg startOfMessage
  cases msg.method with
  | none =>
    cases present : msg.callId with
    | none =>
      have nothing : processResponse server msg = .done none := by
        simp [processResponse, handleBusyToVoicemail, relayResponse, present]
      simp only [nothing, done_bind, Option.isSome_none, Bool.false_and,
        Bool.false_eq_true, if_false]
      exact trivial
    | some callId =>
      cases answered : isFinal msg with
      | true =>
        rw [callKey_of_callId msg present]
        refine (processResponse_follows server msg present answered).bind ?_
        rintro value stop (⟨concludes, rfl⟩ | rfl)
        · exact replyTo_follows (.inl rfl) (.inl concludes)
        · exact replyTo_follows (.inr (by simp [Point.replies, loops])) (.inr rfl)
      | false =>
        refine (processResponse_follows_provisional server msg answered).bind ?_
        rintro value stop ⟨rfl, rfl⟩
        exact replyTo_follows (.inl rfl) trivial
  | some method =>
    dsimp only
    by_cases cancels : Method.ofText method = .cancel
    · rw [cancels]
      refine (processRequest_follows_cancel server msg src).bind fun value stop canceled => ?_
      exact replyTo_follows (.inr canceled.replies) canceled
    · refine (processRequest_follows server msg src _ cancels).bind fun value stop replies => ?_
      refine replyTo_follows (.inr replies) ?_
      cases named : Method.ofText method <;> first | exact absurd named cancels | exact trivial

theorem body_follows_of_other {task : Task} (other : task.call? server ≠ some callId) :
    (task.body server).Follows (Edge callId) .idle fun _ _ => True := by
  refine (task.body_uses server).follows (fun op within answer => ?_) fun _ => trivial
  refine .loop (fun here => ?_) within.2
  rcases within.1 with none | own
  · exact nomatch here.symm.trans none
  · exact absurd (own.symm.trans here) other

theorem body_follows_of_message {task : Task} {msg : SipMessage} {src : SocketAddr}
    (received : task.message server = some msg) (source : task.source = some src) :
    (task.body server).Follows (Edge msg.callKey) (startOfMessage msg src)
      fun _ stop => (startOfMessage msg src).MayStop stop := by
  obtain ⟨found, same, body⟩ := Task.body_of_message received
  cases source.symm.trans same
  exact body ▸ handleMessage_follows server msg src

theorem body_follows (task : Task) :
    (task.body server).Follows (Edge callId) (start server callId task)
      fun _ stop => (start server callId task).MayStop stop := by
  unfold start
  split
  swap
  · next other => exact body_follows_of_other server other
  next own =>
    cases task with
    | noAnswerTimer timer =>
      cases own
      exact noAnswerTimer_follows server timer
    | recording recording =>
      cases own
      exact recordingTask_follows server recording
    | staleMedia stale => exact follows_request (by simp [startOfTask, loops]) fun _ => trivial
    | staleWebRtc stale => exact follows_request (by simp [startOfTask, loops]) fun _ => trivial
    | playWav playing storageKey =>
      cases own
      exact follows_of_uses (playWav_uses storageKey)
        (by simp [startOfTask, loops]) fun _ => trivial
    | notifyMailbox username domain => cases own
    | cleanUp sweep => cases own
    | datagram data src =>
      obtain ⟨msg, received, rfl⟩ := Option.map_eq_some_iff.mp own
      rw [startOfTask, received, Option.elim_some]
      exact body_follows_of_message server received rfl
    | stream raw src =>
      obtain ⟨msg, received, rfl⟩ := Option.map_eq_some_iff.mp own
      rw [startOfTask, received, Option.elim_some]
      exact body_follows_of_message server received rfl

end Tasks

end Sip3.Flow

namespace Sip3

open Handler

variable (server : Server) (callId : CallId)

/-- The task handles a request of a method for the call. -/
def Task.Handles (method : Method) (task : Task) : Prop :=
  ∃ msg text, task.message server = some msg ∧ msg.callKey = callId ∧ msg.method = some text ∧
    Method.ofText text = method

/-- The task handles a final response for the call. -/
def Task.HandlesFinal (task : Task) : Prop :=
  ∃ msg, task.message server = some msg ∧ msg.callId = some callId ∧ msg.method = none ∧
    isFinal msg = true

variable {server callId} {task : Task} {method : Method}

theorem Task.handles_iff : task.Handles server callId method ↔
    (task.message server).any (fun msg => msg.callKey = callId &&
      msg.method.any (Method.ofText · = method)) = true := by
  simp [Task.Handles, Option.any_eq_true]

instance (task : Task) (method : Method) : Decidable (task.Handles server callId method) :=
  decidable_of_iff _ Task.handles_iff.symm

theorem Task.Handles.method_unique {method again : Method}
    (first : task.Handles server callId method) (second : task.Handles server callId again) :
    method = again := by
  obtain ⟨msg, text, received, -, named, rfl⟩ := first
  obtain ⟨_, _, received', -, named', rfl⟩ := second
  cases received.symm.trans received'
  rw [Option.some.inj (named.symm.trans named')]

/-- A task that no message started handles no method. -/
theorem Task.not_handles (internal : task.message server = none) :
    ¬ task.Handles server callId method := by
  rintro ⟨msg, text, received, -⟩
  exact nomatch received.symm.trans internal

theorem Task.not_handlesFinal (internal : task.message server = none) :
    ¬ task.HandlesFinal server callId := by
  rintro ⟨msg, received, -⟩
  exact nomatch received.symm.trans internal

variable (server callId)

namespace Flow

/-- Where a task begins, and what it is when that matters. -/
inductive Starts (task : Task) : Point → Prop where
  | idle : Starts task .idle
  | stale {call : CallId} (same : task = .staleMedia call) : Starts task .stale
  | inviting {src : SocketAddr} (handles : task.Handles server callId .invite)
      (source : task.source = some src) : Starts task (.inviting src)
  | provisional : Starts task .provisional
  | responding (handles : task.HandlesFinal server callId) : Starts task .responding
  | removing (handles : task.Handles server callId .bye) :
      Starts task (.removing .bye false false)
  | canceling (handles : task.Handles server callId .cancel) : Starts task .canceling
  | waiting {timer : TimerStart} (same : task = .noAnswerTimer timer) : Starts task .waiting
  | recorded {start : RecordingStart} (same : task = .recording start) : Starts task .recorded

variable {server callId} {task : Task}

theorem starts_message {msg : SipMessage} {src : SocketAddr}
    (received : task.message server = some msg) (own : msg.callKey = callId)
    (source : task.source = some src) : Starts server callId task (startOfMessage msg src) := by
  unfold startOfMessage
  split
  · next response =>
      split
      · next final =>
          obtain ⟨some, answered⟩ := Bool.and_eq_true_iff.mp final
          obtain ⟨found, present⟩ := Option.isSome_iff_exists.mp some
          obtain rfl := (callKey_of_callId msg present).symm.trans own
          exact .responding ⟨msg, received, present, response, answered⟩
      · exact .provisional
  · next text named =>
      have handles : task.Handles server callId (Method.ofText text) :=
        ⟨msg, text, received, own, named, rfl⟩
      cases method : Method.ofText text with
      | invite => exact .inviting (method ▸ handles) source
      | bye => exact .removing (method ▸ handles)
      | cancel => exact .canceling (method ▸ handles)
      | _ => exact .idle

variable (server callId) in
theorem starts (task : Task) : Starts server callId task (start server callId task) := by
  unfold start
  split
  swap
  · exact .idle
  next own =>
    cases task with
    | noAnswerTimer timer => exact .waiting rfl
    | recording recording => exact .recorded rfl
    | staleMedia stale => exact .stale rfl
    | staleWebRtc stale => exact .idle
    | playWav playing storageKey => exact .idle
    | notifyMailbox username domain => exact .idle
    | cleanUp sweep => exact .idle
    | datagram data src =>
      obtain ⟨msg, received, key⟩ := Option.map_eq_some_iff.mp own
      rw [startOfTask, received, Option.elim_some]
      exact starts_message received key rfl
    | stream raw src =>
      obtain ⟨msg, received, key⟩ := Option.map_eq_some_iff.mp own
      rw [startOfTask, received, Option.elim_some]
      exact starts_message received key rfl

/-- The handler of a message of the call begins where the message says. -/
theorem start_of_message {msg : SipMessage} (received : task.message server = some msg)
    (own : msg.callKey = callId) : ∃ src, start server callId task = startOfMessage msg src := by
  cases task with
  | datagram data src =>
    refine ⟨src, (if_pos (Option.map_eq_some_iff.mpr ⟨msg, received, own⟩)).trans ?_⟩
    rw [startOfTask, received, Option.elim_some]
  | stream raw src =>
    refine ⟨src, (if_pos (Option.map_eq_some_iff.mpr ⟨msg, received, own⟩)).trans ?_⟩
    rw [startOfTask, received, Option.elim_some]
  | _ => cases received

/-- The handler of a final response begins before it looks at the timer. -/
theorem start_of_handlesFinal (handles : task.HandlesFinal server callId) :
    start server callId task = .responding := by
  obtain ⟨msg, received, present, response, answered⟩ := handles
  obtain ⟨src, begins⟩ := start_of_message received (callKey_of_callId msg present)
  rw [begins]
  simp [startOfMessage, response, present, answered]

variable (server) in
/-- What a step starts: nothing that comes from outside, and for the call a timer by a
forwarded INVITE, or a recording by a delivery. -/
theorem starts_spawned {point target : Point} {op : Op} {answer : op.Answer} {child : Task}
    (edge : Edge callId point op answer target) (spawned : op.spawned = some child) :
    child.message server = none ∧ (start server callId child = .idle ∨
      start server callId child = .waiting ∧ point = .forwarded ∨
      start server callId child = .recorded ∧ (point = .tracked ∧ target = .handed ∨
        (∃ src, point = .inviting src) ∨ point = .diverted)) := by
  cases op with
  | spawn task =>
    obtain rfl := Option.some.inj spawned
    cases edge with
    | hand own => exact ⟨rfl, .inr (.inr ⟨if_pos (congrArg some own), .inl ⟨rfl, rfl⟩⟩)⟩
    | loop quiet inside =>
      cases task with
      | noAnswerTimer timer =>
        refine ⟨rfl, ?_⟩
        by_cases own : timer.msg.callKey = callId
        · exact .inr (.inl ⟨if_pos (congrArg some own),
            spawnTimer_mem_loops (quiet (congrArg some own))⟩)
        · exact .inl (if_neg fun same => own (Option.some.inj same))
      | recording recording =>
        refine ⟨rfl, ?_⟩
        by_cases own : recording.callId = callId
        · exact .inr (.inr ⟨if_pos (congrArg some own),
            .inr (spawnRecording_mem_loops (quiet (congrArg some own)))⟩)
        · exact .inl (if_neg fun same => own (Option.some.inj same))
      | playWav playing storageKey => exact ⟨rfl, .inl (ite_self _)⟩
      | notifyMailbox username domain => exact ⟨rfl, .inl (ite_self _)⟩
      | datagram data src => exact absurd rfl inside
      | stream raw src => exact absurd rfl inside
      | staleMedia stale => exact absurd rfl inside
      | staleWebRtc stale => exact absurd rfl inside
      | cleanUp sweep => exact absurd rfl inside
  | _ => cases spawned

end Flow

end Sip3
