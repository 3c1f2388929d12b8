import Sip3.Server.System

/-!
# Footprints of the handlers

For each handler, the kinds of steps it can take, all of them on the Call-ID of
its message, and the topics of the database statements it makes. Every theorem
about the running server uses these instead of the handlers' bodies, except for
the few bodies whose order of steps matters to it.
-/

namespace Sip3

open Text Semantics Program Sip3.Action

/-- What a database statement is about. -/
inductive Topic where
  | account
  | registration
  | refresh
  | register
  | recordCall
  | callStatus (status : CallStatus)
  | persistMessage
  | security
  | webhook
  | mailbox
  | messageList
  | messageStatus
  | mailboxPin
  | greeting
  | insertVoicemail
  | mwi
  | presence
  | conference
  | cleanUp
  deriving DecidableEq

namespace Query

/-- The topic of a statement. -/
@[simp] def topic : Query → Topic
  | accountEnabled .. | accountLookup .. => .account
  | registrationSource .. | registrationSources .. | registrationContact ..
  | registrationCount .. | contactBySource .. => .registration
  | refreshSourcePort .. => .refresh
  | upsertRegistration .. | deleteRegistration .. => .register
  | recordCall .. => .recordCall
  | setCallStatus _ status => .callStatus status
  | persistMessage .. => .persistMessage
  | securityEvent .. | aclBan .. => .security
  | webhook .. => .webhook
  | voicemailBox .. | boxMessageCount .. => .mailbox
  | boxMessages .. => .messageList
  | setMessageStatus .. => .messageStatus
  | boxPinHash .. => .mailboxPin
  | boxGreeting .. => .greeting
  | insertVoicemail .. => .insertVoicemail
  | mwiCounts .. | mwiSubscriptions .. | mwiUpsert .. | mwiDelete .. | mwiSetCseq .. => .mwi
  | presenceSubscriptions .. | presenceUpsert .. | presenceDelete .. | presenceCseq ..
  | presenceSetCseq .. => .presence
  | conferenceRoom .. | roomPinHash .. | roomActiveCount .. | insertParticipant ..
  | participantLeft .. | participantMuted .. => .conference
  | cleanUp _ => .cleanUp

/-- The call whose record a statement writes. -/
@[simp] def record? : Query → Option CallId
  | recordCall callId .. => some callId
  | setCallStatus callId _ => some callId
  | _ => none

end Query

/-- The statement a step makes. -/
@[simp] def Op.statement? : Op → Option Query
  | .ask (.query statement) => some statement
  | _ => none

/-- The step makes no statement, or one of a listed topic that writes no other call's record. -/
def Op.States (callId : CallId) (topics : List Topic) (op : Op) : Prop :=
  ∀ statement ∈ op.statement?,
    (statement.record? = none ∨ statement.record? = some callId) ∧ statement.topic ∈ topics

/-- The step belongs to a call, or to none, is of a listed kind, and makes only statements of
the listed topics. -/
structure Op.Keeps (callId : CallId) (kinds : List Kind) (topics : List Topic) (op : Op) :
    Prop where
  within : Op.Within callId kinds op
  states : Op.States callId topics op

variable {α β : Type} {callId : CallId} {kinds more : List Kind} {topics others : List Topic}

@[simp] theorem Op.within_iff {op : Op} :
    Op.Within callId kinds op ↔ (op.key? = none ∨ op.key? = some callId) ∧ op.kind ∈ kinds :=
  Iff.rfl

@[simp] theorem Op.states_iff {op : Op} : Op.States callId topics op ↔
    ∀ statement ∈ op.statement?,
      (statement.record? = none ∨ statement.record? = some callId) ∧ statement.topic ∈ topics :=
  Iff.rfl

@[simp] theorem Op.keeps_iff {op : Op} : Op.Keeps callId kinds topics op ↔
    Op.Within callId kinds op ∧ Op.States callId topics op :=
  ⟨fun keeps => ⟨keeps.within, keeps.states⟩, fun both => ⟨both.1, both.2⟩⟩

variable {program : Action α}

section

variable (uses : program.Uses (Op.Keeps callId kinds topics))

include uses

theorem Action.widen (covers : kinds ⊆ more ∧ topics ⊆ others) :
    program.Uses (Op.Keeps callId more others) :=
  uses.mono fun _ keeps => ⟨⟨keeps.within.1, covers.1 keeps.within.2⟩, fun statement made =>
    ⟨(keeps.states statement made).1, covers.2 (keeps.states statement made).2⟩⟩

theorem Action.within : program.Uses (Op.Within callId kinds) :=
  uses.mono fun _ keeps => keeps.within

theorem Action.states : program.Uses (Op.States callId topics) :=
  uses.mono fun _ keeps => keeps.states

end

theorem Action.uses_then {value : α → β} {allowed : Op → Prop} (uses : program.Uses allowed) :
    (program >>= fun result => done (value result) : Action β).Uses allowed :=
  uses.bind fun _ => uses_done _

variable (server : Server) (msg : SipMessage) (src : SocketAddr)

namespace Mwi

theorem sourceIsRegistered_uses (username domain : Str) :
    (sourceIsRegistered server username domain src).Uses
      (Op.Keeps callId [.ask] [.registration]) := by
  refine Uses.bind (by simp) fun rows => ?_
  split <;> simp

theorem notifySubscribers_uses (username domain : Str) (newCount savedCount : Int)
    (rows : List MwiRow) :
    (notifySubscribers server username domain newCount savedCount rows).Uses
      (Op.Keeps callId [.ask, .sendNotify] [.mwi]) := by
  induction rows with
  | nil => exact uses_done _
  | cons row rest ih =>
    unfold notifySubscribers
    split
    · exact uses_done _
    · refine Uses.bind (by simp) fun sent => ?_
      split
      · refine Uses.bind (by simp) fun stored => ?_
        split
        · exact uses_done _
        · exact ih
      · exact ih

theorem notifyMailbox_uses (username domain : Str) :
    (notifyMailbox server username domain).Uses
      (Op.Keeps callId [.ask, .sendNotify] [.mwi, .webhook]) := by
  refine Uses.bind (by simp) fun counts => ?_
  split
  · exact uses_done _
  · refine Uses.bind (by simp) fun _ => Uses.bind (by simp) fun rows => ?_
    split
    · exact uses_done _
    · exact widen (notifySubscribers_uses server username domain _ _ _) (by decide)

theorem handleSubscribe_uses :
    (handleSubscribe server msg src).Uses
      (Op.Keeps callId [.ask, .spawnOther] [.registration, .mwi]) := by
  dsimp only [handleSubscribe]
  split
  · exact uses_done _
  split
  · exact uses_done _
  refine Uses.bind (widen (sourceIsRegistered_uses server src _ _) (by decide))
    fun registered => ?_
  split
  · exact uses_done _
  · exact uses_done _
  split
  · refine Uses.bind (by simp) fun deleted => ?_
    split <;> exact uses_done _
  · refine Uses.bind (by simp) fun stored => ?_
    split <;> simp

end Mwi

/-- Steps of delivering a call to a mailbox. -/
abbrev deliveryKinds : List Kind :=
  [.recordingTrack, .recordingDiscard, .ask, .registryAllocate, .voicemailInsert, .spawnRecording]

/-- Steps of opening a mailbox. -/
abbrev accessKinds : List Kind :=
  [.voicemailGet, .voicemailInsert, .access, .ask, .registryAllocate, .spawnOther]

/-- Steps of saving and deleting messages. -/
abbrev editKinds : List Kind := [.voicemailGet, .voicemailUpdate, .ask, .sendNotify]

/-- Steps of the voicemail menu. -/
abbrev menuKinds : List Kind :=
  [.voicemailGet, .voicemailUpdate, .registryRemove, .ask, .sendNotify, .spawnOther]

/-- Statements of delivering a call to a mailbox. -/
abbrev deliveryTopics : List Topic := [.account, .mailbox]

/-- Statements of opening a mailbox. -/
abbrev accessTopics : List Topic := [.mailbox, .registration, .messageList]

/-- Statements of the voicemail menu. -/
abbrev menuTopics : List Topic :=
  [.messageStatus, .mailboxPin, .messageList, .greeting, .mwi, .webhook]

namespace Voicemail

theorem lookupEnabledBox_uses (username domain : Str) :
    (lookupEnabledBox username domain).Uses (Op.Keeps callId [.ask] [.mailbox]) := by
  refine Uses.bind (by simp) fun row => ?_
  split <;> exact uses_done _

theorem listMessagesForMailbox_uses (boxId : Nat) :
    (listMessagesForMailbox boxId).Uses (Op.Keeps callId [.ask] [.messageList]) := by
  refine Uses.bind (by simp) fun messages => ?_
  split <;> exact uses_done _

theorem allocateMedia_uses (negotiation : Negotiation) :
    (allocateMedia callId negotiation).Uses (Op.Keeps callId [.ask, .registryAllocate] []) := by
  unfold allocateMedia
  split
  · exact uses_done _
  · refine Uses.bind (by simp) fun port => ?_
    split
    · exact uses_done _
    · refine Uses.bind (by simp) fun present => ?_
      split <;> exact uses_done _

theorem buildLocalOk_uses (localUser : Str) (relayPort : Nat)
    (negotiation : Negotiation) :
    (buildLocalOk server msg localUser relayPort negotiation).Uses (Op.Keeps callId [.ask] []) :=
  Uses.bind (by simp) fun _ => uses_done _

theorem discardAnd_uses (result : α) :
    (discardAnd callId result).Uses (Op.Keeps callId [.recordingDiscard] []) := by
  simp [discardAnd]

theorem discardAnd_delivery (result : Fallible Str) :
    (discardAnd msg.callKey result).Uses (Op.Keeps msg.callKey deliveryKinds deliveryTopics) :=
  widen (discardAnd_uses result) (by decide)

theorem recordDelivery_uses (callee caller : Str) (settings : MailboxSettings) :
    (recordDelivery server msg callee caller settings).Uses
      (Op.Keeps msg.callKey deliveryKinds deliveryTopics) := by
  dsimp only [recordDelivery]
  split
  · exact discardAnd_delivery msg _
  · refine Uses.bind (widen (allocateMedia_uses _) (by decide)) fun port => ?_
    split
    · exact discardAnd_delivery msg _
    · refine Uses.bind (widen (buildLocalOk_uses server msg _ _ _) (by decide))
        fun response => ?_
      simp

theorem deliverTracked_uses (callee : Str) :
    (deliverTracked server msg callee).Uses
      (Op.Keeps msg.callKey deliveryKinds deliveryTopics) := by
  have discarded := discardAnd_delivery msg
  dsimp only [deliverTracked]
  split
  · exact discarded _
  refine Uses.bind (by simp) fun account => ?_
  split
  · exact discarded _
  · exact discarded _
  refine Uses.bind (widen (lookupEnabledBox_uses _ _) (by decide)) fun box => ?_
  split
  · exact discarded _
  refine Uses.bind (Uses.bind (by simp) fun count => ?_) fun full => ?_
  · split <;> exact uses_done _
  split
  · exact discarded _
  · exact discarded _
  · exact recordDelivery_uses server msg callee _ _

theorem handleDeliveryInvite_uses (callee : Str) :
    (handleDeliveryInvite server msg callee).Uses
      (Op.Keeps msg.callKey deliveryKinds deliveryTopics) := by
  dsimp only [handleDeliveryInvite]
  split
  · exact uses_done _
  refine Uses.bind (by simp) fun tracked => ?_
  split
  · exact deliverTracked_uses server msg callee
  · exact uses_done _

theorem discardAccessAnd_uses (result : α) :
    (discardAccessAnd callId result).Uses (Op.Keeps callId [.access] []) := by
  simp [discardAccessAnd]

theorem discardAccessAnd_access (result : Fallible Str) :
    (discardAccessAnd msg.callKey result).Uses (Op.Keeps msg.callKey accessKinds topics) :=
  widen (discardAccessAnd_uses result) ⟨by decide, List.nil_subset _⟩

theorem openAccess_uses (caller : Str) (settings : MailboxSettings) :
    (openAccess server msg caller settings).Uses
      (Op.Keeps msg.callKey accessKinds [.messageList]) := by
  have discarded := @discardAccessAnd_access [.messageList] msg
  dsimp only [openAccess]
  split
  · exact discarded _
  refine Uses.bind (widen (allocateMedia_uses _) (by decide)) fun port => ?_
  split
  · exact discarded _
  refine Uses.bind (widen (buildLocalOk_uses server msg _ _ _) (by decide))
    fun response => ?_
  split
  · exact Uses.bind (by simp) fun _ => discarded _
  refine Uses.bind (widen (listMessagesForMailbox_uses _) (by decide))
    fun messages => Uses.bind (by simp) fun _ => Uses.bind (by simp) fun _ => ?_
  split
  · simp
  · exact uses_done _

theorem handleAccessInvite_uses :
    (handleAccessInvite server msg src).Uses (Op.Keeps msg.callKey accessKinds accessTopics) := by
  have discarded := @discardAccessAnd_access accessTopics msg
  dsimp only [handleAccessInvite]
  split
  · exact uses_done _
  split
  · exact uses_done _
  refine Uses.bind (Uses.bind (by simp) fun found => ?_) fun tracked => ?_
  · split
    · exact uses_done _
    · simp
  split
  swap
  · exact uses_done _
  dsimp only [accessTracked]
  split
  · exact discarded _
  refine Uses.bind (widen (lookupEnabledBox_uses _ _) (by decide)) fun box => ?_
  split
  · exact discarded _
  refine Uses.bind (widen (Mwi.sourceIsRegistered_uses server src _ _) (by decide))
    fun registered => ?_
  split
  · exact uses_done _
  · exact discarded _
  · exact widen (openAccess_uses server msg _ _) (by decide)

theorem endCall_uses :
    (endCall msg).Uses
      (Op.Keeps msg.callKey [.voicemailRemove, .timerCancel, .registryRemove] []) := by
  simp [endCall]

theorem handleCancel_uses :
    (handleCancel msg).Uses
      (Op.Keeps msg.callKey [.recordingMark, .voicemailRemove, .timerCancel, .registryRemove]
        []) := by
  unfold handleCancel
  split
  · exact widen (endCall_uses msg) (by decide)
  · exact Uses.bind (by simp) fun _ => widen (endCall_uses msg) (by decide)

theorem recordToStorage_uses (start : RecordingStart) :
    (recordToStorage server start).Uses (Op.Keeps start.callId [.registryGet, .ask] []) := by
  refine Uses.bind (by simp) fun session => ?_
  split
  · exact uses_done _
  · split <;> simp

theorem storeRecording_uses (start : RecordingStart) (shouldPersist : Bool)
    (storageKey : Str) (durationSecs : Nat) :
    (storeRecording server start shouldPersist storageKey durationSecs).Uses
      (Op.Keeps start.callId [.insertVoicemail, .ask, .sendNotify]
        [.insertVoicemail, .mwi, .webhook]) := by
  unfold storeRecording
  split
  · simp
  refine Uses.bind (by simp) fun inserted => ?_
  split
  · simp
  · exact Uses.bind (widen (Mwi.notifyMailbox_uses server _ _) (by decide))
      fun _ => uses_done _

theorem recordingTask_uses (start : RecordingStart) :
    (recordingTask server start).Uses
      (Op.Keeps start.callId [.registryGet, .ask, .voicemailRemove, .registryRemove,
        .recordingPersist, .insertVoicemail, .sendNotify] [.insertVoicemail, .mwi, .webhook]) := by
  refine Uses.bind (widen (recordToStorage_uses server start) (by decide))
    fun result => ?_
  refine Uses.bind (by simp) fun _ => Uses.bind (by simp) fun _ => Uses.bind (by simp)
    fun persist => ?_
  split
  · exact uses_done _
  · exact widen (storeRecording_uses server start _ _ _) (by decide)

theorem playWav_uses (storageKey : Str) :
    (playWav callId storageKey).Uses (Op.Keeps callId [.registryGet, .ask] []) := by
  refine Uses.bind (by simp) fun session => ?_
  split <;> simp

theorem playMessageAtIndex_uses (index : Nat) :
    (playMessageAtIndex callId index).Uses (Op.Keeps callId menuKinds menuTopics) := by
  refine Uses.bind (by simp) fun call => ?_
  split <;> simp

theorem moveTo_uses (index : Nat) :
    (moveTo callId index).Uses (Op.Keeps callId menuKinds menuTopics) :=
  Uses.bind (by simp) fun _ => playMessageAtIndex_uses index

theorem notifyOwner_uses (mailbox : Str) :
    (Mwi.notifyMailbox server mailbox server.cfg.sipDomain >>= fun _ => done ()).Uses
      (Op.Keeps callId editKinds menuTopics) :=
  uses_then (widen (Mwi.notifyMailbox_uses server _ _) (by decide))

theorem deleteMessageAtIndex_uses (index : Nat) :
    (deleteMessageAtIndex server callId index).Uses (Op.Keeps callId editKinds menuTopics) := by
  refine Uses.bind (by simp) fun call => ?_
  split
  · exact uses_done _
  refine Uses.bind (by simp) fun stored => ?_
  split
  · exact uses_done _
  · exact Uses.bind (by simp) fun _ => notifyOwner_uses server _

theorem saveMessageAtIndex_uses (index : Nat) :
    (saveMessageAtIndex server callId index).Uses (Op.Keeps callId editKinds menuTopics) := by
  refine Uses.bind (by simp) fun call => ?_
  split
  · exact uses_done _
  refine Uses.bind (by simp) fun stored => ?_
  split
  · exact uses_done _
  · exact Uses.bind (by simp) fun _ => notifyOwner_uses server _

theorem verifyPin_uses :
    (verifyPin server callId).Uses
      (Op.Keeps callId [.voicemailGet, .voicemailUpdate, .ask, .spawnOther] menuTopics) := by
  refine Uses.bind (by simp) fun call => ?_
  split
  · exact uses_done _
  refine Uses.bind (by simp) fun pinHash => ?_
  split
  swap
  · exact uses_done _
  split
  · refine Uses.bind (widen (listMessagesForMailbox_uses _) (by decide))
      fun messages => Uses.bind (by simp) fun _ => Uses.bind (by simp) fun greeting => ?_
    split <;> simp
  · simp

theorem menuSignal_uses (mode : VoicemailMode) (signal : Dtmf) :
    (menuSignal server callId mode signal).Uses (Op.Keeps callId menuKinds menuTopics) := by
  cases mode with
  | recording boxId mailbox => cases signal <;> simp [menuSignal, recordingSignal]
  | pinEntry boxId mailbox =>
    cases signal with
    | pound => exact widen (verifyPin_uses server) (by decide)
    | _ => simp [menuSignal, pinSignal]
  | playback mailbox boxId messages currentIndex =>
    cases signal with
    | star => exact uses_done _
    | digit char => exact uses_done _
    | seven =>
      dsimp only [menuSignal, playbackSignal]
      split
      · exact widen (deleteMessageAtIndex_uses server _) (by decide)
      · exact uses_done _
    | nine =>
      dsimp only [menuSignal, playbackSignal]
      split
      · exact widen (saveMessageAtIndex_uses server _) (by decide)
      · exact uses_done _
    | _ =>
      dsimp only [menuSignal, playbackSignal]
      split
      · exact moveTo_uses _
      · exact uses_done _

theorem handleInfo_uses :
    (handleInfo server msg).Uses (Op.Keeps msg.callKey menuKinds menuTopics) := by
  refine Uses.bind (by simp) fun call => ?_
  split
  · exact uses_done _
  split
  · exact uses_done _
  · exact uses_then (menuSignal_uses server _ _)

end Voicemail

/-- Steps of the conference endpoint. -/
abbrev conferenceKinds : List Kind := [.ask, .conference, .rooms]

/-- Statements of the conference endpoint. -/
abbrev conferenceTopics : List Topic := [.account, .conference]

namespace Conference

theorem enterConference_uses (roomId : Nat) (caller : Str) (negotiation : Negotiation)
    (relayPort : Nat) :
    (enterConference server msg src roomId caller negotiation relayPort).Uses
      (Op.Keeps msg.callKey conferenceKinds conferenceTopics) := by
  simp [enterConference]

theorem enterRoom_uses (roomId maxParticipants : Nat) (caller : Str) :
    (enterRoom server msg src roomId maxParticipants caller).Uses
      (Op.Keeps msg.callKey conferenceKinds conferenceTopics) := by
  refine Uses.bind (by simp) fun pinHash => ?_
  split
  · exact uses_done _
  split
  · exact uses_done _
  refine Uses.bind (by simp) fun count => ?_
  split
  · exact uses_done _
  split
  · exact uses_done _
  unfold joinRoom
  split
  · exact uses_done _
  refine Uses.bind (by simp) fun port => ?_
  split
  · exact uses_done _
  · exact Uses.bind (by simp) fun _ => enterConference_uses server msg src _ _ _ _

theorem handleInvite_uses (roomId maxParticipants : Nat) :
    (handleInvite server msg src roomId maxParticipants).Uses
      (Op.Keeps msg.callKey conferenceKinds conferenceTopics) := by
  dsimp only [handleInvite]
  split
  · exact uses_done _
  refine Uses.bind (by simp) fun _ => ?_
  split
  · exact uses_done _
  refine Uses.bind (by simp) fun account => ?_
  split
  · exact uses_done _
  · exact uses_done _
  · exact enterRoom_uses server msg src _ _ _

theorem handleBye_uses :
    (handleBye msg).Uses (Op.Keeps msg.callKey conferenceKinds conferenceTopics) := by
  refine Uses.bind (by simp) fun call => ?_
  split <;> simp

theorem handleInfo_uses :
    (handleInfo server msg).Uses (Op.Keeps msg.callKey conferenceKinds conferenceTopics) := by
  dsimp only [handleInfo]
  split
  · exact uses_done _
  refine Uses.bind (by simp) fun call => ?_
  split
  · exact uses_done _
  refine Uses.bind ?_ fun toggled => ?_
  · unfold parseDtmfRelayForStar6
    split <;> simp
  · split <;> simp

end Conference

/-- Steps of registration and of the subscriptions. -/
abbrev subscriptionKinds : List Kind := [.ask, .sendNotify, .spawnOther, .panic]

/-- Statements of a presence subscription. -/
abbrev presenceTopics : List Topic := [.presence, .registration]

/-- Statements of a registration. -/
abbrev registerTopics : List Topic := [.security, .account, .register, .presence, .webhook]

namespace Presence

theorem sendNotify_uses (subscription : Subscription) (cseq : Nat)
    (subState : Str) (status : PresenceStatus) (dest : SocketAddr) :
    (sendNotify server subscription cseq subState status dest).Uses
      (Op.Keeps callId subscriptionKinds topics) := by
  simp [sendNotify]

theorem notifyStatusChange_uses (username domain : Str)
    (status : PresenceStatus) :
    (notifyStatusChange server username domain status).Uses
      (Op.Keeps callId subscriptionKinds [.presence]) := by
  refine Uses.bind (by simp) fun rows => ?_
  split
  · exact uses_done _
  next rows =>
    induction rows with
    | nil => exact uses_done _
    | cons row rest ih =>
      refine Uses.bind (by simp) fun _ => ?_
      split
      · exact ih
      · exact Uses.bind (sendNotify_uses server _ _ _ _ _) fun _ => ih

theorem handleSubscribe_uses :
    (handleSubscribe server msg src).Uses (Op.Keeps callId subscriptionKinds presenceTopics) := by
  have notified : ∀ subscription cseq subState status (result : Fallible Str),
      (sendNotify server subscription cseq subState status src >>=
        fun _ => done result).Uses (Op.Keeps callId subscriptionKinds presenceTopics) :=
    fun subscription cseq subState status result =>
      uses_then (sendNotify_uses server subscription cseq subState status src)
  dsimp only [handleSubscribe]
  split
  · exact uses_done _
  split
  · simp
  split
  · exact uses_done _
  dsimp only [subscribe]
  split
  · refine Uses.bind (by simp) fun deleted => ?_
    split
    · exact uses_done _
    · exact notified _ _ _ _ _
  refine Uses.bind (by simp) fun stored => ?_
  split
  · exact uses_done _
  refine Uses.bind (by simp) fun cseq => Uses.bind (Uses.bind (by simp) fun count => ?_)
    fun status => notified _ _ _ _ _
  split <;> exact uses_done _

end Presence

namespace Registrar

theorem unauthorizedResponse_uses :
    (unauthorizedResponse server msg).Uses (Op.Keeps callId subscriptionKinds registerTopics) := by
  simp [unauthorizedResponse]

theorem rejectCredentials_uses (username : Str) (detail : String) :
    (rejectCredentials server msg src username detail).Uses
      (Op.Keeps callId subscriptionKinds registerTopics) := by
  refine Uses.bind (by simp) fun blocked => Uses.bind (by simp) fun _ => ?_
  split
  · exact Uses.bind (by simp) fun _ => Uses.bind (by simp) fun _ =>
      unauthorizedResponse_uses server msg
  · exact unauthorizedResponse_uses server msg

theorem register_uses (username : Str) :
    (register server msg src username).Uses (Op.Keeps callId subscriptionKinds registerTopics) := by
  have notified : ∀ status, (Presence.notifyStatusChange server username server.cfg.sipDomain
      status).Uses (Op.Keeps callId subscriptionKinds registerTopics) := fun status =>
    widen (Presence.notifyStatusChange_uses server _ _ status) (by decide)
  dsimp only [register]
  split
  · refine Uses.bind (by simp) fun deleted => ?_
    split
    · exact uses_done _
    · exact uses_then (notified _)
  · refine Uses.bind (by simp) fun stored => ?_
    split
    · exact uses_done _
    · exact Uses.bind (notified _) fun _ => by simp

theorem handleRegister_uses :
    (handleRegister server msg src).Uses (Op.Keeps callId subscriptionKinds registerTopics) := by
  dsimp only [handleRegister]
  split
  · exact uses_done _
  refine Uses.bind (by simp) fun blocked => ?_
  split
  · exact uses_done _
  split
  · exact unauthorizedResponse_uses server msg
  split
  · simp
  refine Uses.bind (by simp) fun time => ?_
  split
  · simp
  · exact rejectCredentials_uses server msg src _ _
  refine Uses.bind (by simp) fun row => ?_
  split
  · exact uses_done _
  split
  · exact Uses.bind (by simp) fun _ => Uses.bind (by simp) fun _ =>
      register_uses server msg src _
  · exact rejectCredentials_uses server msg src _ _

end Registrar

/-- Steps of setting up a WebRTC session. -/
abbrev webrtcKinds : List Kind := [.ask, .webrtc, .panic]

/-- Steps of setting up the media of a call. -/
abbrev mediaKinds : List Kind := [.ask, .webrtc, .mediaInsert, .panic]

/-- Steps of entering a call and forwarding its INVITE. -/
abbrev forwardKinds : List Kind :=
  [.pendingInsert, .inviteStore, .dialogInsert, .ask, .webrtc, .mediaInsert, .panic, .sendInvite,
    .spawnTimer, .timerArm]

/-- Steps of an ACK. -/
abbrev ackKinds : List Kind := [.timerCancel, .ask, .dialogGet, .sendForward]

/-- Steps of a BYE. -/
abbrev byeKinds : List Kind :=
  [.timerCancel, .ask, .dialogRemove, .pendingRemove, .mediaRemove, .webrtc, .sendForward]

/-- Steps of a CANCEL. -/
abbrev cancelKinds : List Kind :=
  [.timerCancelForCaller, .ask, .dialogGet, .sendForward, .pendingRemove, .dialogRemove,
    .mediaRemove, .webrtc]

/-- Steps of the requests forwarded inside a dialog. -/
abbrev inDialogKinds : List Kind := [.dialogGet, .sendForward, .ask]

/-- Statements of a request that gives the call record a status. -/
abbrev statusTopics (status : CallStatus) : List Topic := [.callStatus status, .registration]

/-- Statements of a MESSAGE. -/
abbrev messageTopics : List Topic := [.account, .registration, .refresh, .persistMessage]

/-- Statements of an INVITE the proxy handles. -/
abbrev inviteTopics : List Topic :=
  [.account, .security, .registration, .refresh, .mailbox, .recordCall]

/-- Statements of an INVITE from an accepted caller. -/
abbrev acceptedTopics : List Topic := [.account, .registration, .refresh, .mailbox, .recordCall]

/-- Steps of an INVITE the proxy handles. -/
abbrev inviteKinds : List Kind := deliveryKinds ++ forwardKinds

theorem Voicemail.startNoAnswerTimer_uses (timer : TimerStart) :
    (Voicemail.startNoAnswerTimer timer).Uses
      (Op.Keeps timer.msg.callKey [.spawnTimer, .timerArm] []) := by
  dsimp only [Voicemail.startNoAnswerTimer]
  split
  · exact uses_done _
  · simp

namespace Proxy

theorem refreshSenderRegistrationSource_uses (username domain : Str) :
    (refreshSenderRegistrationSource server username domain src).Uses
      (Op.Keeps callId [.ask] [.registration, .refresh]) := by
  refine Uses.bind (by simp) fun row => ?_
  split
  · exact uses_done _
  · exact uses_done _
  · split
    · simp
    · exact uses_done _

theorem rejectInvalidInvite_uses (caller : Option Str) (detail : Str) :
    (rejectInvalidInvite server msg src caller detail).Uses
      (Op.Keeps callId [.ask] [.security]) := by
  refine Uses.bind (by simp) fun blocked => Uses.bind (by simp) fun _ => ?_
  split <;> simp

theorem lookupRegisteredTarget_uses (username domain : Str) :
    (lookupRegisteredTarget server username domain).Uses
      (Op.Keeps callId [.ask] [.registration]) := by
  refine Uses.bind (by simp) fun row => ?_
  split <;> exact uses_done _

theorem allocateStreams_uses (media : List SdpMediaDescriptor) :
    (allocateStreams media).Uses (Op.Keeps callId [.ask] []) := by
  induction media with
  | nil => exact uses_done _
  | cons descriptor rest ih =>
    refine Uses.bind (by simp) fun ports => ?_
    split
    · exact uses_done _
    · refine Uses.bind ih fun streams => ?_
      split <;> exact uses_done _

theorem allocateSessionForMedia_uses (media : List SdpMediaDescriptor) :
    (allocateSessionForMedia callId media).Uses (Op.Keeps callId mediaKinds []) := by
  dsimp only [allocateSessionForMedia]
  split
  · exact uses_done _
  refine Uses.bind (widen (allocateStreams_uses _) (by decide)) fun streams => ?_
  split <;> simp

theorem prepareWebRtcSession_uses (withVideo : Bool) :
    (prepareWebRtcSession callId withVideo).Uses (Op.Keeps callId webrtcKinds []) := by
  refine Uses.bind (by simp) fun connected => ?_
  split
  · simp
  · split <;> simp

theorem createWebRtcSession_uses (offer : Str) (withVideo : Bool) :
    (createWebRtcSession callId offer withVideo).Uses (Op.Keeps callId webrtcKinds []) := by
  refine Uses.bind (prepareWebRtcSession_uses withVideo) fun ports => ?_
  split
  · exact uses_done _
  refine Uses.bind (by simp) fun answer => ?_
  split <;> simp

theorem createWebRtcSessionForSipCaller_uses (withVideo : Bool) :
    (createWebRtcSessionForSipCaller server callId withVideo).Uses
      (Op.Keeps callId webrtcKinds []) := by
  refine Uses.bind (prepareWebRtcSession_uses withVideo) fun ports => ?_
  split
  · exact uses_done _
  refine Uses.bind (by simp) fun offer => ?_
  split <;> simp

theorem setVideoPeer_uses (body : Str) :
    (setVideoPeer server callId body).Uses (Op.Keeps callId [.webrtc] []) := by
  unfold setVideoPeer
  split <;> simp

theorem setOfferPeers_uses (body : Str) :
    (setOfferPeers server callId body).Uses (Op.Keeps callId [.webrtc] []) := by
  unfold setOfferPeers
  split
  · exact setVideoPeer_uses server body
  · exact Uses.bind (by simp) fun _ => setVideoPeer_uses server body

theorem setUpMedia_uses (contactUri : Str) (calleeIsStream : Bool) :
    (setUpMedia server msg contactUri calleeIsStream).Uses
      (Op.Keeps msg.callKey mediaKinds []) := by
  dsimp only [setUpMedia]
  split
  · exact uses_done _
  split
  · refine Uses.bind (widen (createWebRtcSessionForSipCaller_uses server _) (by decide))
      fun offer => ?_
    split
    · exact uses_done _
    · exact uses_then (widen (setOfferPeers_uses server _) (by decide))
  split
  · refine Uses.bind (widen (createWebRtcSession_uses _ _) (by decide)) fun ports => ?_
    split <;> simp
  split
  · exact uses_done _
  · refine Uses.bind (allocateSessionForMedia_uses _) fun session => ?_
    split <;> exact uses_done _

theorem armAndAnswer_uses (callee : Callee) :
    (armAndAnswer server msg src callee).Uses
      (Op.Keeps msg.callKey [.spawnTimer, .timerArm] []) := by
  unfold armAndAnswer
  split
  · exact uses_done _
  · exact uses_then (Voicemail.startNoAnswerTimer_uses
      ⟨msg, src, callee.addr, callee.targetUri server, callee.name, _⟩)

theorem forwardInvite_uses (callee : Callee) (callerIsStream calleeIsStream : Bool) :
    (forwardInvite server msg src callee callerIsStream calleeIsStream).Uses
      (Op.Keeps msg.callKey forwardKinds []) := by
  refine Uses.bind (by simp) fun _ => Uses.bind (by simp) fun _ => Uses.bind (by simp) fun _ =>
    Uses.bind (widen (setUpMedia_uses server msg _ _) (by decide)) fun body =>
      Uses.bind (by simp) fun sent => ?_
  split
  · exact widen (armAndAnswer_uses server msg src callee) (by decide)
  · exact uses_done _

theorem forwardToRegistration_uses :
    (forwardToRegistration server msg).Uses
      (Op.Keeps msg.callKey [.ask, .sendForward] [.registration]) := by
  dsimp only [forwardToRegistration]
  split
  · exact uses_done _
  refine Uses.bind (widen (lookupRegisteredTarget_uses server _ _) (by decide))
    fun target => ?_
  split <;> simp

theorem handleAck_uses :
    (handleAck server msg).Uses (Op.Keeps msg.callKey ackKinds (statusTopics .answered)) := by
  refine Uses.bind (by simp) fun _ => Uses.bind (by simp) fun _ => Uses.bind (by simp)
    fun dialog => ?_
  split
  · simp
  · exact uses_then (widen (forwardToRegistration_uses server msg) (by decide))

theorem handleBye_uses :
    (handleBye server msg src).Uses (Op.Keeps msg.callKey byeKinds (statusTopics .ended)) := by
  refine Uses.bind (by simp) fun _ => Uses.bind (by simp) fun _ => Uses.bind (by simp) fun dialog =>
    Uses.bind (by simp) fun _ => Uses.bind (by simp) fun _ => Uses.bind (by simp) fun _ => ?_
  split
  · simp
  · exact uses_then (widen (forwardToRegistration_uses server msg) (by decide))

theorem forwardCancel_uses (dialog : Option DialogInfo) :
    (forwardCancel server msg dialog).Uses
      (Op.Keeps msg.callKey [.ask, .sendForward] [.registration]) := by
  cases dialog <;> simp [forwardCancel]

theorem handleCancel_uses :
    (handleCancel server msg).Uses
      (Op.Keeps msg.callKey cancelKinds (statusTopics .cancelled)) := by
  refine Uses.bind (by simp) fun _ => Uses.bind (by simp) fun _ => Uses.bind (by simp) fun dialog =>
    Uses.bind (widen (forwardCancel_uses server msg dialog) (by decide)) fun _ => ?_
  simp

theorem forwardInDialog_uses (forwarded missing : Str) :
    (forwardInDialog msg src forwarded missing).Uses (Op.Keeps msg.callKey inDialogKinds []) := by
  refine Uses.bind (by simp) fun dialog => ?_
  split <;> simp

theorem handleMessage_uses :
    (handleMessage server msg src).Uses (Op.Keeps msg.callKey inDialogKinds messageTopics) := by
  have registered : ∀ username domain, (lookupRegisteredTarget server username domain).Uses
      (Op.Keeps msg.callKey inDialogKinds messageTopics) := fun username domain =>
    widen (lookupRegisteredTarget_uses server username domain) (by decide)
  dsimp only [handleMessage]
  split
  · exact uses_done _
  refine Uses.bind (by simp) fun account => ?_
  split
  · exact uses_done _
  · exact uses_done _
  refine Uses.bind (widen (refreshSenderRegistrationSource_uses server src _ _)
    (by decide)) fun refreshed => ?_
  split
  · exact uses_done _
  split
  · exact uses_done _
  refine Uses.bind ?_ fun target => ?_
  · dsimp only [messageTarget]
    split
    · exact registered _ _
    · refine Uses.bind (by simp) fun dialog => ?_
      split
      · exact uses_done _
      · exact registered _ _
  split
  · simp
  · refine Uses.bind (by simp) fun sent => ?_
    split <;> simp

theorem inviteRegistered_uses (caller callee contactUri sourceIp : Str) (sourcePort : Nat) :
    (inviteRegistered server msg src caller callee contactUri sourceIp sourcePort).Uses
      (Op.Keeps msg.callKey forwardKinds acceptedTopics) := by
  refine Uses.bind (widen (Voicemail.lookupEnabledBox_uses _ _) (by decide))
    fun mailbox => ?_
  split
  · exact uses_done _
  · exact Uses.bind (by simp) fun _ => Uses.bind (by simp) fun _ => Uses.bind (by simp) fun _ =>
      widen (forwardInvite_uses server msg src _ _ _) (by decide)

theorem inviteFrom_uses (caller callee : Str) :
    (inviteFrom server msg src caller callee).Uses
      (Op.Keeps msg.callKey inviteKinds acceptedTopics) := by
  refine Uses.bind (widen (refreshSenderRegistrationSource_uses server src _ _)
    (by decide)) fun refreshed => ?_
  split
  · exact uses_done _
  refine Uses.bind (by simp) fun row => ?_
  split
  · exact uses_done _
  · refine Uses.bind (widen (Voicemail.lookupEnabledBox_uses _ _) (by decide))
      fun mailbox => ?_
    split
    · exact widen (Voicemail.handleDeliveryInvite_uses server msg callee) (by decide)
    · exact uses_done _
  · exact widen (inviteRegistered_uses server msg src caller callee _ _ _) (by decide)

theorem handleInvite_uses :
    (handleInvite server msg src).Uses (Op.Keeps msg.callKey inviteKinds inviteTopics) := by
  have rejected : ∀ caller detail, (rejectInvalidInvite server msg src caller detail).Uses
      (Op.Keeps msg.callKey inviteKinds inviteTopics) := fun caller detail =>
    widen (rejectInvalidInvite_uses server msg src caller detail) (by decide)
  dsimp only [handleInvite]
  split
  · exact uses_done _
  split
  · exact uses_done _
  refine Uses.bind (by simp) fun blocked => ?_
  split
  · exact uses_done _
  split
  · exact rejected _ _
  refine Uses.bind (by simp) fun account => ?_
  split
  · exact uses_done _
  · exact rejected _ _
  · exact widen (inviteFrom_uses server msg src _ _) (by decide)

end Proxy

section Handler

open Handler

/-- Steps of relaying a response. -/
abbrev relayKinds : List Kind :=
  [.timerCancel, .pendingRemove, .dialogRemove, .mediaRemove, .webrtc, .pendingGet, .mediaGet,
    .ask, .sendRelay]

/-- Steps of offering a busy response to voicemail. -/
abbrev busyKinds : List Kind :=
  [.ask, .inviteTake, .timerCancel, .pendingRemove, .dialogRemove, .mediaRemove, .webrtc,
    .pendingGet] ++ deliveryKinds

theorem Handler.removeCall_uses :
    (removeCall callId).Uses
      (Op.Keeps callId [.pendingRemove, .dialogRemove, .mediaRemove, .webrtc] []) := by
  simp [removeCall]

theorem Handler.applyAnswer_uses (body : Str) (session : Option WebRtcSession) :
    (applyAnswer server callId body session).Uses (Op.Keeps callId [.webrtc, .ask] []) := by
  unfold applyAnswer
  split
  · refine Uses.bind (by simp) fun found => ?_
    split
    · split <;> simp
    · exact uses_done _
  · split
    · exact uses_done _
    · exact Uses.bind (by simp) fun _ =>
        widen (Proxy.setVideoPeer_uses server body) (by decide)

theorem Handler.relayedText_uses :
    (relayedText server msg callId).Uses (Op.Keeps callId [.webrtc, .ask, .mediaGet] []) := by
  dsimp only [relayedText]
  split
  swap
  · exact uses_done _
  refine Uses.bind (by simp) fun session => ?_
  split
  · exact Uses.bind (by simp) fun _ =>
      uses_then (widen (Handler.applyAnswer_uses server _ _) (by decide))
  · refine Uses.bind (by simp) fun media => ?_
    split <;> exact uses_done _

theorem Handler.releaseRelayed_uses :
    (releaseRelayed msg callId).Uses
      (Op.Keeps callId [.pendingRemove, .mediaRemove, .webrtc] []) := by
  unfold releaseRelayed
  split
  · refine Uses.bind (by simp) fun _ => ?_
    split <;> simp
  · exact uses_done _

theorem Handler.relayToCaller_uses :
    (relayToCaller server msg callId).Uses (Op.Keeps callId relayKinds []) := by
  refine Uses.bind (by simp) fun pending => ?_
  split
  · exact uses_done _
  · exact Uses.bind (widen (Handler.relayedText_uses server msg) (by decide)) fun _ =>
      Uses.bind (by simp) fun _ => widen (Handler.releaseRelayed_uses msg) (by decide)

theorem callKey_of_callId {found : Str} (present : msg.callId = some found) :
    msg.callKey = found := by
  simp [SipMessage.callKey, present]

theorem Handler.relayResponse_uses :
    (relayResponse server msg).Uses (Op.Keeps msg.callKey relayKinds []) := by
  unfold relayResponse
  split
  · exact uses_done _
  next found present =>
    rw [callKey_of_callId msg present]
    split
    · refine Uses.bind (by simp) fun timer => ?_
      split
      · exact widen Handler.removeCall_uses (by decide)
      · exact Handler.relayToCaller_uses server msg
    · exact Handler.relayToCaller_uses server msg

theorem Handler.divertBusy_uses (callee : Str) :
    (divertBusy server callId callee).Uses (Op.Keeps callId busyKinds deliveryTopics) := by
  refine Uses.bind (by simp) fun invite => ?_
  split
  · exact uses_done _
  next invite =>
    refine Uses.bind (by simp) fun _ =>
      Uses.bind (widen Handler.removeCall_uses (by decide)) fun _ =>
        Uses.bind (by simp) fun pending => ?_
    split
    · exact uses_done _
    · have delivery := Voicemail.handleDeliveryInvite_uses server invite.1 callee
      rw [invite.2] at delivery
      refine Uses.bind (widen delivery (by decide)) fun result => ?_
      split <;> exact uses_done _

theorem Handler.handleBusyToVoicemail_uses :
    (handleBusyToVoicemail server msg).Uses (Op.Keeps msg.callKey busyKinds deliveryTopics) := by
  unfold handleBusyToVoicemail
  split
  · next present _ =>
      rw [callKey_of_callId msg present]
      refine Uses.bind (widen (Voicemail.lookupEnabledBox_uses _ _) (by decide))
        fun mailbox => ?_
      split
      · exact uses_done _
      · exact Handler.divertBusy_uses server _
  · exact uses_done _

theorem Handler.processResponse_uses :
    (processResponse server msg).Uses
      (Op.Keeps msg.callKey (busyKinds ++ relayKinds) deliveryTopics) := by
  have relayed : (relayResponse server msg >>= fun _ => done none : Action (Option Str)).Uses
      (Op.Keeps msg.callKey (busyKinds ++ relayKinds) deliveryTopics) :=
    uses_then (widen (Handler.relayResponse_uses server msg) (by decide))
  unfold processResponse
  split
  · refine Uses.bind (widen (Handler.handleBusyToVoicemail_uses server msg) (by decide))
      fun response => ?_
    split
    · exact uses_done _
    · exact relayed
  · exact relayed

end Handler

end Sip3
