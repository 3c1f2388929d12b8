import Sip3.Server.Section
import Sip3.Semantics.Pool

/-!
# What a task can ask for

The atomic steps of the server's tasks: one section under one of the mutexes, one
send, one query to the database, the clock, the network stack or a third-party
library, or the start of another task. Steps on shared state have one outcome;
the answers of everything outside are arbitrary.

A send carries the place in the code it comes from, so that a property can tell
a relayed response from an answer built here.
-/

namespace Sip3

open Text Semantics

/-- The result of something that can fail. -/
abbrev Fallible (α : Type) := Except HandlerError α

/-- `AuthSurface`, as far as SIP uses it. -/
inductive AuthSurface where
  | sipRegister
  | sipInvite
  deriving DecidableEq

/-- `SecurityEventType`, as far as SIP uses it. -/
inductive SecurityEventType where
  | authFailed
  | inviteRejected
  | ipBlocked
  | authSucceeded
  deriving DecidableEq

/-- A row of the presence subscriptions. -/
structure PresenceRow where
  subscriber : Str
  tag : Str
  ip : Str
  port : Nat
  callId : Str
  cseq : Nat
  remaining : Nat

/-- A row of the message-waiting subscriptions. -/
structure MwiRow where
  callId : Str
  tag : Str
  ip : Str
  port : Nat
  cseq : Nat

/-- `status` values of `sip_calls` that the proxy writes. -/
inductive CallStatus where
  | answered
  | ended
  | cancelled
  deriving DecidableEq

/-- What the periodic clean-ups of the database remove or close: expired registrations and presence
subscriptions, calls that were never ended, and old call records. -/
inductive CleanUp where
  | registrations
  | subscriptions
  | staleCalls (olderThanHours : Option Int)
  | oldRecords (olderThanDays : Int)
  deriving DecidableEq

/-- Whether the clean-up is turned on. -/
def CleanUp.enabled : CleanUp → Bool
  | oldRecords olderThanDays => 0 < olderThanDays
  | _ => true

/-- The database statements of the SIP modules. -/
inductive Query where
  | accountEnabled (username domain : Str)
  | accountLookup (username domain : Str)
  | registrationSource (username domain : Str)
  | registrationSources (username domain : Str)
  | registrationContact (username domain : Str)
  | registrationCount (username domain : Str)
  | contactBySource (ip : Str) (port : UInt16)
  | refreshSourcePort (port : UInt16) (username domain ip : Str)
  | upsertRegistration (username domain contactUri userAgent : Str) (expires : Nat) (ip : Str)
      (port : UInt16)
  | deleteRegistration (username domain : Str)
  | recordCall (callId : CallId) (caller callee : Str)
  | setCallStatus (callId : CallId) (status : CallStatus)
  | persistMessage (msg : SipMessage) (sender receiver status sourceIp : Str)
  | securityEvent (surface : AuthSurface) (event : SecurityEventType) (ip : Str)
      (username : Option Str) (detail : Str)
  | aclBan (ip : IpAddr) (priority : Int) (description : Str)
  | webhook (eventType : Str)
  | voicemailBox (username domain : Str)
  | boxMessages (boxId : Nat)
  | boxMessageCount (boxId : Nat)
  | boxPinHash (boxId : Nat)
  | boxGreeting (boxId : Nat)
  | setMessageStatus (messageId : Nat) (status : Str)
  | insertVoicemail (boxId : Nat) (caller callee : Str) (callId : CallId) (durationSecs : Nat)
      (storageKey : Str)
  | mwiCounts (username domain : Str)
  | mwiSubscriptions (username domain : Str)
  | mwiUpsert (subscriber domain callId tag ip : Str) (port : UInt16) (expires : Nat)
  | mwiDelete (subscriber domain callId : Str)
  | mwiSetCseq (cseq : Nat) (subscriber domain callId : Str)
  | presenceSubscriptions (target domain : Str)
  | presenceUpsert (subscriber target domain callId tag ip : Str) (port : UInt16) (expires : Nat)
  | presenceDelete (subscriber target domain : Str)
  | presenceCseq (subscriber target domain : Str)
  | presenceSetCseq (cseq : Nat) (subscriber target domain : Str)
  | conferenceRoom (extension domain : Str)
  | roomPinHash (roomId : Nat)
  | roomActiveCount (roomId : Nat)
  | insertParticipant (roomId : Nat) (callId : CallId) (account ip : Str) (port : UInt16)
      (relayPort : Nat) (codec : Codec)
  | participantLeft (callId : CallId)
  | participantMuted (callId : CallId) (muted : Bool)
  | cleanUp (sweep : CleanUp)

/-- The rows a statement returns. -/
@[reducible] def Query.Rows : Query → Type
  | .accountEnabled _ _ => Bool
  | .accountLookup _ _ => Option (Str × Int)
  | .registrationSource _ _ => Option (Str × Nat)
  | .registrationSources _ _ => List (Str × Nat)
  | .registrationContact _ _ => Option (Str × Str × Nat)
  | .registrationCount _ _ => Int
  | .contactBySource _ _ => Option Str
  | .voicemailBox _ _ => Option MailboxSettings
  | .boxMessages _ => List VoicemailMessage
  | .boxMessageCount _ => Int
  | .boxPinHash _ => Option Str
  | .boxGreeting _ => Option Str
  | .mwiCounts _ _ => Option (Int × Int)
  | .mwiSubscriptions _ _ => List MwiRow
  | .presenceSubscriptions _ _ => List PresenceRow
  | .presenceCseq _ _ _ => Nat
  | .conferenceRoom _ _ => Option (Nat × Nat)
  | .roomPinHash _ => Option Str
  | .roomActiveCount _ => Int
  | .insertParticipant .. | .cleanUp _ => Nat
  | .refreshSourcePort .. | .upsertRegistration .. | .deleteRegistration .. | .recordCall ..
  | .setCallStatus .. | .persistMessage .. | .securityEvent .. | .aclBan .. | .webhook ..
  | .setMessageStatus .. | .insertVoicemail .. | .mwiUpsert .. | .mwiDelete .. | .mwiSetCseq ..
  | .presenceUpsert .. | .presenceDelete .. | .presenceSetCseq .. | .participantLeft ..
  | .participantMuted .. => Unit

/-- Requests to everything outside the shared state. The clock counts seconds, the
instants of the monotonic clock count nanoseconds. -/
inductive Ask where
  | query (statement : Query)
  | isBlocked (surface : AuthSurface) (ip : Str)
  | recordFailure (surface : AuthSurface) (ip : Str) (username : Option Str)
  | recordSuccess (ip : Str) (username : Str)
  | streamRegistered (addr : SocketAddr)
  | clock
  | instant
  | randomBytes (count : Nat)
  | randomId
  | bindPortPair
  | bindVoicemailPort
  | bindConferencePort
  | webrtcConnect
  | webrtcPrepare (callId : CallId) (withVideo : Bool)
  | webrtcNegotiate (offer : Option Str)
  | webrtcApplyAnswer (callId : CallId) (answer : Str)
  | recordAudio (callId : CallId) (mailbox : Str) (maxSecs idleSecs : Nat)
  | deleteAudio (storageKey : Str)
  | playAudio (callId : CallId) (storageKey : Str)
  | sleep (seconds : Nat)

/-- The answers the outside may give. -/
@[reducible] def Ask.Answer : Ask → Type
  | .query statement => Fallible statement.Rows
  | .isBlocked _ _ => Bool
  | .recordFailure _ _ _ => Bool
  | .recordSuccess _ _ => Unit
  | .streamRegistered _ => Bool
  | .clock => Nat
  | .instant => Nat
  | .randomBytes count => Vector UInt8 count
  | .randomId => Nat
  | .bindPortPair => Fallible (Nat × Nat)
  | .bindVoicemailPort => Fallible Nat
  | .bindConferencePort => Fallible Nat
  | .webrtcConnect => Fallible Unit
  | .webrtcPrepare _ _ => Fallible (Nat × Option Nat)
  | .webrtcNegotiate _ => Fallible Str
  | .webrtcApplyAnswer _ _ => Fallible Unit
  | .recordAudio .. => Fallible (Str × Nat)
  | .deleteAudio _ => Fallible Unit
  | .playAudio _ _ => Fallible Unit
  | .sleep _ => Unit

/-- The statement of the code a send comes from. -/
inductive SendSite where
  | reply (callId : CallId)
  | relay (callId : CallId) (statusCode : Option Nat)
  | forwardInvite (callId : CallId)
  | forward (callId : CallId)
  | timerCancel (callId : CallId)
  | timerAnswer (callId : CallId)
  | notify
  deriving DecidableEq

/-- The call a send belongs to. -/
@[simp] def SendSite.callId? : SendSite → Option CallId
  | reply callId => some callId
  | relay callId _ => some callId
  | forwardInvite callId => some callId
  | forward callId => some callId
  | timerCancel callId => some callId
  | timerAnswer callId => some callId
  | notify => none

/-- What the no-answer timer task captures. -/
structure TimerStart where
  msg : SipMessage
  src : SocketAddr
  targetAddr : SocketAddr
  targetUri : Str
  callee : Str
  noAnswerSecs : Nat
  deriving DecidableEq

/-- `RecordingStart`. -/
structure RecordingStart where
  callId : CallId
  boxId : Nat
  mailbox : Str
  domain : Str
  caller : Str
  callee : Str
  maxMessageSecs : Nat
  deriving DecidableEq

/-- The tasks that run concurrently: one for each received message, those the handlers
spawn, one for each session the periodic cleanup finds stale, and one for each round of a
clean-up of the database. -/
inductive Task where
  | datagram (data : List UInt8) (src : SocketAddr)
  | stream (raw : Str) (src : SocketAddr)
  | noAnswerTimer (timer : TimerStart)
  | recording (recording : RecordingStart)
  | playWav (callId : CallId) (storageKey : Str)
  | notifyMailbox (username domain : Str)
  | staleMedia (callId : CallId)
  | staleWebRtc (callId : CallId)
  | cleanUp (sweep : CleanUp)
  deriving DecidableEq

/-- The call a spawned task belongs to. -/
@[simp] def Task.callId? : Task → Option CallId
  | datagram _ _ => none
  | stream _ _ => none
  | notifyMailbox _ _ => none
  | cleanUp _ => none
  | noAnswerTimer timer => some timer.msg.callKey
  | recording start => some start.callId
  | playWav callId _ => some callId
  | staleMedia callId => some callId
  | staleWebRtc callId => some callId

/-- An atomic step. -/
inductive Op where
  | pendingDialogs (op : TableOp CallId SocketAddr)
  | pendingInvites (op : InviteOp)
  | activeDialogs (op : TableOp CallId DialogInfo)
  | mediaSessions (op : TableOp CallId MediaSession)
  | webrtcSessions (op : WebRtcOp)
  | noAnswer (op : TimerOp)
  | recording (op : RecordingOp)
  | accessPending (op : AccessOp)
  | voicemailActive (op : VoicemailCallOp)
  | voicemailMedia (op : RegistryOp)
  | conferenceActive (op : TableOp CallId ConferenceCall)
  | rooms (op : RoomOp)
  | send (site : SendSite) (dest : SocketAddr) (text : Str)
  | spawn (task : Task)
  | ask (request : Ask)
  | panic

/-- The kinds of steps, as footprints of handlers list them. No handler starts a task of
the kind `spawnExternal`: messages and cleanups come from outside. -/
inductive Kind where
  | pendingGet
  | pendingInsert
  | pendingRemove
  | inviteStore
  | inviteTake
  | dialogGet
  | dialogInsert
  | dialogRemove
  | mediaGet
  | mediaInsert
  | mediaRemove
  | webrtc
  | timerCancel
  | timerCancelForCaller
  | timerClaim
  | timerCheck
  | timerFinish
  | timerArm
  | recordingTrack
  | recordingDiscard
  | recordingMark
  | recordingPersist
  | access
  | voicemailGet
  | voicemailInsert
  | voicemailRemove
  | voicemailUpdate
  | registryGet
  | registryAllocate
  | registryRemove
  | conference
  | rooms
  | sendReply
  | sendRelay
  | sendInvite
  | sendForward
  | sendTimerCancel
  | sendTimerAnswer
  | sendNotify
  | spawnTimer
  | spawnRecording
  | spawnOther
  | spawnExternal
  | insertVoicemail
  | ask
  | panic
  deriving DecidableEq

namespace Op

/-- The type of the answer to a step. -/
@[reducible] def Answer : Op → Type
  | pendingDialogs _ => Option SocketAddr
  | pendingInvites op => op.Answer
  | activeDialogs _ => Option DialogInfo
  | mediaSessions _ => Option MediaSession
  | webrtcSessions _ => Option WebRtcSession
  | noAnswer op => op.Answer
  | recording _ => Bool
  | accessPending _ => Bool
  | voicemailActive _ => Option VoicemailCall
  | voicemailMedia _ => Option VoicemailSession
  | conferenceActive _ => Option ConferenceCall
  | rooms _ => Option Bool
  | send _ _ _ => Bool
  | spawn _ => Handle
  | ask request => request.Answer
  | panic => Empty

/-- The key of a step on the state of a call, or of a send for a call. -/
@[simp] def key? : Op → Option CallId
  | pendingDialogs op => some op.key
  | pendingInvites op => some op.key
  | activeDialogs op => some op.key
  | mediaSessions op => some op.key
  | webrtcSessions op => some op.key
  | noAnswer op => some op.key
  | recording op => some op.key
  | accessPending op => some op.key
  | voicemailActive op => some op.key
  | voicemailMedia op => some op.key
  | conferenceActive op => some op.key
  | rooms op => some op.key
  | send site _ _ => site.callId?
  | spawn task => task.callId?
  | ask (.query (.insertVoicemail _ _ _ callId _ _)) => some callId
  | ask _ => none
  | panic => none

/-- The kind of a step. -/
@[simp] def kind : Op → Kind
  | pendingDialogs (.get _) => .pendingGet
  | pendingDialogs (.insert _ _) => .pendingInsert
  | pendingDialogs (.remove _) => .pendingRemove
  | pendingInvites (.store _) => .inviteStore
  | pendingInvites (.take _) => .inviteTake
  | activeDialogs (.get _) => .dialogGet
  | activeDialogs (.insert _ _) => .dialogInsert
  | activeDialogs (.remove _) => .dialogRemove
  | mediaSessions (.get _) => .mediaGet
  | mediaSessions (.insert _ _) => .mediaInsert
  | mediaSessions (.remove _) => .mediaRemove
  | webrtcSessions _ => .webrtc
  | noAnswer (.cancel _) => .timerCancel
  | noAnswer (.cancelForCallerCancel _) => .timerCancelForCaller
  | noAnswer (.claim _) => .timerClaim
  | noAnswer (.shouldContinue _) => .timerCheck
  | noAnswer (.finish _) => .timerFinish
  | noAnswer (.arm _ _) => .timerArm
  | recording (.track _) => .recordingTrack
  | recording (.discard _) => .recordingDiscard
  | recording (.markCanceled _) => .recordingMark
  | recording (.shouldPersist _) => .recordingPersist
  | accessPending _ => .access
  | voicemailActive (.get _) => .voicemailGet
  | voicemailActive (.insert _ _) => .voicemailInsert
  | voicemailActive (.remove _) => .voicemailRemove
  | voicemailActive _ => .voicemailUpdate
  | voicemailMedia (.get _) => .registryGet
  | voicemailMedia (.allocate _ _) => .registryAllocate
  | voicemailMedia (.remove _) => .registryRemove
  | conferenceActive _ => .conference
  | rooms _ => .rooms
  | send (.reply _) _ _ => .sendReply
  | send (.relay _ _) _ _ => .sendRelay
  | send (.forwardInvite _) _ _ => .sendInvite
  | send (.forward _) _ _ => .sendForward
  | send (.timerCancel _) _ _ => .sendTimerCancel
  | send (.timerAnswer _) _ _ => .sendTimerAnswer
  | send .notify _ _ => .sendNotify
  | spawn (.noAnswerTimer _) => .spawnTimer
  | spawn (.recording _) => .spawnRecording
  | spawn (.playWav _ _) => .spawnOther
  | spawn (.notifyMailbox _ _) => .spawnOther
  | spawn _ => .spawnExternal
  | ask (.query (.insertVoicemail ..)) => .insertVoicemail
  | ask _ => .ask
  | panic => .panic

/-- The step belongs to a call, or to none, and is of one of the listed kinds. -/
def Within (callId : CallId) (kinds : List Kind) (op : Op) : Prop :=
  (op.key? = none ∨ op.key? = some callId) ∧ op.kind ∈ kinds

end Op

/-- What a step does to the shared state: it has one outcome, or its answer comes from
outside and the state stays, or it never returns. -/
inductive Effect (Answer : Type) where
  | settled (answer : Answer) (after : ServerState)
  | asked
  | never

namespace Op

/-- The effect of a step. -/
def effect (state : ServerState) : (op : Op) → Effect op.Answer
  | pendingDialogs op =>
    .settled (state.pendingDialogs.lookup op.key)
      { state with pendingDialogs := op.next state.pendingDialogs }
  | pendingInvites op =>
    .settled (op.answer state.pendingInvites)
      { state with pendingInvites := op.next state.pendingInvites }
  | activeDialogs op =>
    .settled (state.activeDialogs.lookup op.key)
      { state with activeDialogs := op.next state.activeDialogs }
  | mediaSessions op =>
    .settled (state.mediaSessions.lookup op.key)
      { state with mediaSessions := op.next state.mediaSessions }
  | webrtcSessions op =>
    .settled (state.webrtcSessions.lookup op.key)
      { state with webrtcSessions := op.next state.webrtcSessions }
  | noAnswer op =>
    .settled (op.answer (state.noAnswer.lookup op.key))
      { state with
        noAnswer := op.next state.noAnswer
        aborted := (op.aborts (state.noAnswer.lookup op.key)).elim state.aborted
          (insert · state.aborted) }
  | recording op =>
    .settled (op.answer state.recording state.canceled)
      { state with
        recording := op.nextRecording state.recording
        canceled := op.nextCanceled state.recording state.canceled }
  | accessPending op =>
    .settled (op.answer state.accessPending)
      { state with accessPending := op.next state.accessPending }
  | voicemailActive op =>
    if op.runs (state.voicemailActive.lookup op.key) then
      .settled (state.voicemailActive.lookup op.key)
        { state with voicemailActive := op.next state.voicemailActive }
    else .never
  | voicemailMedia op =>
    .settled (state.voicemailMedia.lookup op.key)
      { state with voicemailMedia := op.next state.voicemailMedia }
  | conferenceActive op =>
    .settled (state.conferenceActive.lookup op.key)
      { state with conferenceActive := op.next state.conferenceActive }
  | rooms op => .settled (op.answer state.rooms) { state with rooms := op.next state.rooms }
  | send _ _ _ => .asked
  | spawn _ => .settled state.nextHandle { state with nextHandle := state.nextHandle + 1 }
  | ask _ => .asked
  | panic => .never

/-- A step from one shared state to the next. -/
def Perform (state : ServerState) (op : Op) (answer : op.Answer) (after : ServerState) : Prop :=
  match op.effect state with
  | .settled expected next => answer = expected ∧ after = next
  | .asked => after = state
  | .never => False

end Op

end Sip3
