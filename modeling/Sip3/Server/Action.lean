import Sip3.Server.Operation

/-!
# Programs of the server

Handlers are programs over the steps of `Op`. Each step has a constructor with the
type of its answer, and the lemmas here say what a step can change: nothing under
another Call-ID, and each collection only by the kinds of steps that write it.
-/

namespace Sip3

open Text Semantics ServerState

/-- The parts of `Config` that SIP handling reads. The nonce secret is the one in
use, which the registrar draws at startup when none is configured. -/
structure ServerConfig where
  sipDomain : Str
  sipPort : Nat
  publicIp : Str
  voicemailAccessExtension : Str
  voicemailIdleTimeoutSecs : Nat
  registrationExpires : Nat
  nonceSecret : Str
  nonceMaxAgeSecs : Nat
  persistAclBans : Bool
  aclBanPriority : Int

/-- What is fixed while the server runs. -/
structure Server where
  platform : Platform
  cfg : ServerConfig

/-- The steps of the server as requests. -/
abbrev signature : Signature := ⟨Op, Op.Answer⟩

/-- A program of the server. -/
abbrev Action := Program signature

namespace Action

variable {α : Type}

abbrev getPending (callId : CallId) : Action (Option SocketAddr) :=
  .request (.pendingDialogs (.get callId)) .done

abbrev insertPending (callId : CallId) (addr : SocketAddr) : Action (Option SocketAddr) :=
  .request (.pendingDialogs (.insert callId addr)) .done

abbrev removePending (callId : CallId) : Action (Option SocketAddr) :=
  .request (.pendingDialogs (.remove callId)) .done

abbrev storeInvite (msg : SipMessage) : Action Unit :=
  .request (.pendingInvites (.store msg)) .done

abbrev takeInvite (callId : CallId) : Action (Option (StoredInvite callId)) :=
  .request (.pendingInvites (.take callId)) .done

abbrev getDialog (callId : CallId) : Action (Option DialogInfo) :=
  .request (.activeDialogs (.get callId)) .done

abbrev insertDialog (callId : CallId) (dialog : DialogInfo) : Action (Option DialogInfo) :=
  .request (.activeDialogs (.insert callId dialog)) .done

abbrev removeDialog (callId : CallId) : Action (Option DialogInfo) :=
  .request (.activeDialogs (.remove callId)) .done

abbrev getMedia (callId : CallId) : Action (Option MediaSession) :=
  .request (.mediaSessions (.get callId)) .done

abbrev insertMedia (callId : CallId) (session : MediaSession) : Action (Option MediaSession) :=
  .request (.mediaSessions (.insert callId session)) .done

abbrev removeMedia (callId : CallId) : Action (Option MediaSession) :=
  .request (.mediaSessions (.remove callId)) .done

abbrev webrtc (op : WebRtcOp) : Action (Option WebRtcSession) :=
  .request (.webrtcSessions op) .done

abbrev cancelNoAnswerTimer (callId : CallId) : Action TimerCancel :=
  .request (.noAnswer (.cancel callId)) .done

abbrev cancelNoAnswerTimerForCallerCancel (callId : CallId) : Action TimerCancel :=
  .request (.noAnswer (.cancelForCallerCancel callId)) .done

abbrev claimNoAnswerTimerToFire (callId : CallId) : Action Bool :=
  .request (.noAnswer (.claim callId)) .done

abbrev noAnswerTimerShouldContinue (callId : CallId) : Action Bool :=
  .request (.noAnswer (.shouldContinue callId)) .done

abbrev finishNoAnswerTimer (callId : CallId) : Action Unit :=
  .request (.noAnswer (.finish callId)) .done

abbrev armNoAnswerTimer (callId : CallId) (handle : Handle) : Action Unit :=
  .request (.noAnswer (.arm callId handle)) .done

abbrev trackRecordingCandidate (callId : CallId) : Action Bool :=
  .request (.recording (.track callId)) .done

abbrev discardRecordingCandidate (callId : CallId) : Action Bool :=
  .request (.recording (.discard callId)) .done

abbrev markRecordingCanceled (callId : CallId) : Action Bool :=
  .request (.recording (.markCanceled callId)) .done

abbrev shouldPersistRecording (callId : CallId) : Action Bool :=
  .request (.recording (.shouldPersist callId)) .done

abbrev insertAccessPending (callId : CallId) : Action Bool :=
  .request (.accessPending (.track callId)) .done

abbrev discardAccessCandidate (callId : CallId) : Action Bool :=
  .request (.accessPending (.discard callId)) .done

abbrev getVoicemailCall (callId : CallId) : Action (Option VoicemailCall) :=
  .request (.voicemailActive (.get callId)) .done

abbrev insertVoicemailCall (callId : CallId) (call : VoicemailCall) :
    Action (Option VoicemailCall) :=
  .request (.voicemailActive (.insert callId call)) .done

abbrev removeVoicemailCall (callId : CallId) : Action (Option VoicemailCall) :=
  .request (.voicemailActive (.remove callId)) .done

abbrev updateVoicemailCall (op : VoicemailCallOp) : Action (Option VoicemailCall) :=
  .request (.voicemailActive op) .done

abbrev getVoicemailMedia (callId : CallId) : Action (Option VoicemailSession) :=
  .request (.voicemailMedia (.get callId)) .done

abbrev registerVoicemailMedia (callId : CallId) (session : VoicemailSession) :
    Action (Option VoicemailSession) :=
  .request (.voicemailMedia (.allocate callId session)) .done

abbrev removeVoicemailMedia (callId : CallId) : Action (Option VoicemailSession) :=
  .request (.voicemailMedia (.remove callId)) .done

abbrev getConference (callId : CallId) : Action (Option ConferenceCall) :=
  .request (.conferenceActive (.get callId)) .done

abbrev insertConference (callId : CallId) (call : ConferenceCall) :
    Action (Option ConferenceCall) :=
  .request (.conferenceActive (.insert callId call)) .done

abbrev removeConference (callId : CallId) : Action (Option ConferenceCall) :=
  .request (.conferenceActive (.remove callId)) .done

abbrev inRooms (op : RoomOp) : Action (Option Bool) :=
  .request (.rooms op) .done

abbrev send (site : SendSite) (dest : SocketAddr) (text : Str) : Action Bool :=
  .request (.send site dest text) .done

abbrev spawn (task : Task) : Action Handle :=
  .request (.spawn task) .done

abbrev query (statement : Query) : Action (Fallible statement.Rows) :=
  .request (.ask (.query statement)) .done

abbrev ask (request : Ask) : Action request.Answer :=
  .request (.ask request) .done

abbrev panic : Action α :=
  .request .panic fun answer => nomatch answer

end Action

namespace Op

variable {state after : ServerState} {op : Op} {answer : op.Answer} {callId : CallId}

/-- A section on the active voicemail calls takes place when it runs through. -/
theorem perform_voicemailActive_iff {op : VoicemailCallOp} {answer : Option VoicemailCall} :
    Perform state (voicemailActive op) answer after ↔
      op.runs (state.voicemailActive.lookup op.key) = true ∧
        answer = state.voicemailActive.lookup op.key ∧
        after = { state with voicemailActive := op.next state.voicemailActive } := by
  by_cases through : op.runs (state.voicemailActive.lookup op.key) = true
  · simp only [Perform, effect, through, ↓reduceIte, true_and]
  · simp only [Perform, effect, through, ↓reduceIte, false_and, Bool.false_eq_true]

theorem perform_voicemailGet_iff {answer : Option VoicemailCall} :
    Perform state (voicemailActive (.get callId)) answer after ↔
      answer = state.voicemailActive.lookup callId ∧ after = state :=
  perform_voicemailActive_iff.trans (and_iff_right rfl)

/-- A step on another call, or on none, leaves the entries of a call alone. -/
theorem Perform.entries_eq (performed : Perform state op answer after)
    (other : op.key? ≠ some callId) : after.entries callId = state.entries callId := by
  cases op with
  | pendingDialogs op | activeDialogs op | mediaSessions op | conferenceActive op =>
    obtain ⟨-, rfl⟩ := performed
    simp [entries, TableOp.lookup_next_of_ne (ne_of_apply_ne some other)]
  | pendingInvites op =>
    obtain ⟨-, rfl⟩ := performed
    simp [entries, InviteOp.lookup_next_of_ne (ne_of_apply_ne some other)]
  | webrtcSessions op =>
    obtain ⟨-, rfl⟩ := performed
    simp [entries, WebRtcOp.lookup_next_of_ne (ne_of_apply_ne some other)]
  | noAnswer op =>
    obtain ⟨-, rfl⟩ := performed
    simp [entries, TimerOp.lookup_next_of_ne (ne_of_apply_ne some other)]
  | recording op =>
    obtain ⟨-, rfl⟩ := performed
    have apart : op.key ≠ callId := (ne_of_apply_ne some other)
    simp [entries, RecordingOp.mem_nextRecording_of_ne apart,
      RecordingOp.mem_nextCanceled_of_ne apart]
  | accessPending op =>
    obtain ⟨-, rfl⟩ := performed
    simp [entries, AccessOp.mem_next_of_ne (ne_of_apply_ne some other)]
  | voicemailActive op =>
    obtain ⟨-, -, rfl⟩ := perform_voicemailActive_iff.mp performed
    simp [entries,
      VoicemailCallOp.lookup_next_of_ne (ne_of_apply_ne some other)]
  | voicemailMedia op =>
    obtain ⟨-, rfl⟩ := performed
    simp [entries,
      RegistryOp.lookup_next_of_ne (ne_of_apply_ne some other)]
  | rooms op =>
    obtain ⟨-, rfl⟩ := performed
    simp [entries, RoomOp.lookup_next_of_ne (ne_of_apply_ne some other)]
  | send site dest text =>
    obtain rfl := performed
    rfl
  | spawn task =>
    obtain ⟨-, rfl⟩ := performed
    rfl
  | ask request =>
    obtain rfl := performed
    rfl
  | panic => exact performed.elim

end Op

end Sip3
