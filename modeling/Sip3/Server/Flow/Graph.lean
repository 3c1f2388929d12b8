import Sip3.Server.Frame

/-!
# The control flow of a call

The tasks of the server seen from one Call-ID. A task stands at a control point,
and only the steps that matter for the call lead from one point to another; every
step on another call, and every step a point lists as routine, stays where it is.

A property of runs is an outline over this graph. The lemmas at the end say from
which points a step that matters can be taken.
-/

namespace Sip3.Flow

open Text Semantics Program Handler

/-- The handlers that remove a call from the dialog maps. -/
inductive Remover where
  | relay
  | bye
  | cancel
  deriving DecidableEq

/-- The control points of a task, for one call. -/
inductive Point where
  /-- Nothing that matters for the call, or nothing more. -/
  | idle
  /-- The periodic cleanup of the call's media session. -/
  | stale
  /-- An INVITE that has not entered the call. -/
  | inviting (src : SocketAddr)
  /-- The INVITE has entered the caller. -/
  | entered
  /-- The INVITE has been forwarded. -/
  | forwarded
  /-- A response that is not final. -/
  | provisional
  /-- A final response before its handler has looked at the timer. -/
  | responding
  /-- A busy response whose callee has a mailbox. -/
  | diverting
  /-- The diversion has removed the pending dialog. -/
  | diverted
  /-- The handler of a final response has found the timer not firing. -/
  | released
  /-- The handler of a final response has found no pending dialog. -/
  | missed
  /-- The handler of a final response has found the caller. -/
  | holding (addr : SocketAddr)
  /-- The final response has been relayed. -/
  | relayed
  /-- The pending dialog has been removed after the relay. -/
  | dropped
  /-- A handler removes the call, and has removed the pending or the active dialog. -/
  | removing (remover : Remover) (pending dialog : Bool)
  /-- The timer task before it has claimed the call. -/
  | waiting
  /-- The timer task has claimed the call. -/
  | claimed
  /-- The timer task has removed the pending dialog. -/
  | cleared
  /-- The timer task has removed the active dialog as well. -/
  | parted
  /-- The timer task in voicemail delivery, with no recording candidate of its own. -/
  | delivering
  /-- The timer task has tracked its recording candidate. -/
  | tracked
  /-- The timer task has started the recording. -/
  | handed
  /-- The timer task has passed its last check. -/
  | passed
  /-- The timer task has sent the answer of voicemail. -/
  | answered
  /-- The last check of the timer task has failed. -/
  | suppressed
  /-- The timer task has marked the recording canceled. -/
  | marked
  /-- The first check of the timer task has failed. -/
  | finishing
  /-- The recording task before it decides whether to persist. -/
  | recorded
  /-- The recording task persists. -/
  | persisting
  /-- The recording task does not persist. -/
  | discarded
  /-- A CANCEL before it has reached an endpoint. -/
  | canceling
  /-- A CANCEL that went to voicemail or to a conference. -/
  | aside
  deriving DecidableEq

/-- The routine steps of a removing handler. -/
def Remover.loops : Remover → List Kind
  | .relay => [.webrtc]
  | .bye =>
    [.voicemailGet, .conference, .rooms, .ask, .timerCancel, .webrtc, .sendForward,
      .voicemailRemove, .registryRemove, .sendReply]
  | .cancel => [.ask, .dialogGet, .sendForward, .webrtc, .sendReply]

/-- The routine steps at each point. -/
def Point.loops : Point → List Kind
  | .idle =>
    [.voicemailGet, .voicemailUpdate, .conference, .rooms, .ask, .registryGet, .registryRemove,
      .sendNotify, .spawnOther, .panic, .dialogGet, .sendForward, .timerCancel, .webrtc,
      .sendReply]
  | .stale => [.mediaRemove]
  | .inviting _ => accessKinds ++ conferenceKinds ++ deliveryKinds ++ [.sendReply]
  | .entered => [.inviteStore, .dialogInsert, .ask, .webrtc, .mediaInsert, .panic, .sendReply]
  | .forwarded => [.spawnTimer, .sendReply]
  | .provisional => [.pendingGet, .webrtc, .ask, .mediaGet, .sendReply]
  | .responding => [.ask]
  | .diverting => [.inviteTake, .timerCancel]
  | .diverted => [.dialogRemove, .mediaRemove, .webrtc, .pendingGet, .sendReply] ++ deliveryKinds
  | .released => []
  | .missed => []
  | .holding _ => [.webrtc, .ask, .mediaGet]
  | .relayed => []
  | .dropped => [.mediaRemove, .webrtc]
  | .removing remover _ _ => remover.loops
  | .waiting => [.ask]
  | .claimed => [.sendTimerCancel]
  | .cleared => []
  | .parted => [.mediaRemove, .webrtc]
  | .delivering => []
  | .tracked => [.ask, .registryAllocate, .voicemailInsert]
  | .handed => []
  | .passed => []
  | .answered => []
  | .suppressed => []
  | .marked => [.voicemailRemove, .registryRemove]
  | .finishing => []
  | .recorded => [.registryGet, .ask, .voicemailRemove, .registryRemove]
  | .persisting => [.insertVoicemail, .ask, .sendNotify]
  | .discarded => [.ask]
  | .canceling => [.ask]
  | .aside =>
    [.recordingMark, .voicemailRemove, .timerCancel, .registryRemove, .conference, .rooms, .ask,
      .sendReply]

/-- The points at which a final response is passed to `relay_response`. -/
def Point.relays : Point → Bool
  | .responding | .diverting | .diverted => true
  | _ => false

/-- The points before the last check of the timer task. -/
def Point.checks : Point → Bool
  | .delivering | .handed => true
  | _ => false

/-- The points from which the timer task gives up its entry. -/
def Point.finishes : Point → Bool
  | .answered | .marked | .finishing => true
  | _ => false

/-- The graph of a call. -/
inductive Edge (callId : CallId) : Point → (op : Op) → op.Answer → Point → Prop where
  | loop {point : Point} {op : Op} {answer : op.Answer}
      (quiet : op.key? = some callId → op.kind ∈ point.loops)
      (inside : op.kind ≠ .spawnExternal) : Edge callId point op answer point
  | enter {src : SocketAddr} {answer : Option SocketAddr} :
      Edge callId (.inviting src) (.pendingDialogs (.insert callId src)) answer .entered
  | forward {dest : SocketAddr} {text : Str} {sent : Bool} :
      Edge callId .entered (.send (.forwardInvite callId) dest text) sent .forwarded
  | arm {handle : Handle} {answer : Unit} :
      Edge callId .forwarded (.noAnswer (.arm callId handle)) answer .idle
  | pass {status : Option Nat} {dest : SocketAddr} {text : Str} {sent : Bool}
      (provisional : status.any (· ≥ 200) = false) :
      Edge callId .provisional (.send (.relay callId status) dest text) sent .provisional
  | divert {username domain : Str} {box : MailboxSettings} :
      Edge callId .responding (.ask (.query (.voicemailBox username domain))) (.ok (some box))
        .diverting
  | removeDiverted {answer : Option SocketAddr} :
      Edge callId .diverting (.pendingDialogs (.remove callId)) answer .diverted
  | fired {point : Point} (relays : point.relays = true) :
      Edge callId point (.noAnswer (.cancel callId)) TimerCancel.alreadyFired
        (.removing .relay false false)
  | release {point : Point} {answer : TimerCancel} (relays : point.relays = true)
      (free : answer ≠ .alreadyFired) :
      Edge callId point (.noAnswer (.cancel callId)) answer .released
  | miss : Edge callId .released (.pendingDialogs (.get callId)) none .missed
  | hold {addr : SocketAddr} :
      Edge callId .released (.pendingDialogs (.get callId)) (some addr) (.holding addr)
  | relay {addr : SocketAddr} {status : Option Nat} {text : Str} {sent : Bool}
      (answered : status.any (· ≥ 200) = true) :
      Edge callId (.holding addr) (.send (.relay callId status) addr text) sent .relayed
  | drop {answer : Option SocketAddr} :
      Edge callId .relayed (.pendingDialogs (.remove callId)) answer .dropped
  | removePending {remover : Remover} {pending dialog : Bool} {answer : Option SocketAddr} :
      Edge callId (.removing remover pending dialog) (.pendingDialogs (.remove callId)) answer
        (.removing remover true dialog)
  | removeDialog {remover : Remover} {pending dialog : Bool} {answer : Option DialogInfo} :
      Edge callId (.removing remover pending dialog) (.activeDialogs (.remove callId)) answer
        (.removing remover pending true)
  | removeMedia {remover : Remover} {answer : Option MediaSession} :
      Edge callId (.removing remover true true) (.mediaSessions (.remove callId)) answer
        (.removing remover true true)
  | claim : Edge callId .waiting (.noAnswer (.claim callId)) true .claimed
  | lose : Edge callId .waiting (.noAnswer (.claim callId)) false .idle
  | clear {answer : Option SocketAddr} :
      Edge callId .claimed (.pendingDialogs (.remove callId)) answer .cleared
  | part {answer : Option DialogInfo} :
      Edge callId .cleared (.activeDialogs (.remove callId)) answer .parted
  | deliver : Edge callId .parted (.noAnswer (.shouldContinue callId)) true .delivering
  | giveUp : Edge callId .parted (.noAnswer (.shouldContinue callId)) false .finishing
  | track : Edge callId .delivering (.recording (.track callId)) true .tracked
  | untrack : Edge callId .delivering (.recording (.track callId)) false .delivering
  | discard {answer : Bool} :
      Edge callId .tracked (.recording (.discard callId)) answer .delivering
  | hand {start : RecordingStart} {answer : Handle} (own : start.callId = callId) :
      Edge callId .tracked (.spawn (.recording start)) answer .handed
  | proceed {point : Point} (checks : point.checks = true) :
      Edge callId point (.noAnswer (.shouldContinue callId)) true .passed
  | suppress {point : Point} (checks : point.checks = true) :
      Edge callId point (.noAnswer (.shouldContinue callId)) false .suppressed
  | answer {dest : SocketAddr} {text : Str} {sent : Bool} :
      Edge callId .passed (.send (.timerAnswer callId) dest text) sent .answered
  | mark {answer : Bool} :
      Edge callId .suppressed (.recording (.markCanceled callId)) answer .marked
  | finish {point : Point} {answer : Unit} (finishes : point.finishes = true) :
      Edge callId point (.noAnswer (.finish callId)) answer .idle
  | persist : Edge callId .recorded (.recording (.shouldPersist callId)) true .persisting
  | skip : Edge callId .recorded (.recording (.shouldPersist callId)) false .discarded
  | passVoicemail : Edge callId .canceling (.voicemailActive (.get callId)) none .canceling
  | toVoicemail {call : VoicemailCall} :
      Edge callId .canceling (.voicemailActive (.get callId)) (some call) .aside
  | passConference : Edge callId .canceling (.conferenceActive (.get callId)) none .canceling
  | toConference {call : ConferenceCall} :
      Edge callId .canceling (.conferenceActive (.get callId)) (some call) .aside
  | cancelTimer {answer : TimerCancel} :
      Edge callId .canceling (.noAnswer (.cancelForCallerCancel callId)) answer
        (.removing .cancel false false)

/-- The kinds of steps that are routine nowhere. -/
abbrev specialKinds : List Kind :=
  [.spawnExternal, .pendingInsert, .pendingRemove, .timerArm, .timerClaim, .timerCheck,
    .timerFinish, .timerCancelForCaller, .sendRelay, .sendInvite, .sendTimerAnswer,
    .recordingPersist]

theorem not_mem_loops (point : Point) : ∀ kind ∈ specialKinds, kind ∉ point.loops := by
  cases point with
  | inviting src =>
    exact (by decide : ∀ kind ∈ specialKinds,
      kind ∉ accessKinds ++ conferenceKinds ++ deliveryKinds ++ [.sendReply])
  | holding addr => exact (by decide : ∀ kind ∈ specialKinds, kind ∉ [.webrtc, .ask, .mediaGet])
  | removing remover pending dialog =>
    cases remover with
    | relay => exact (by decide : ∀ kind ∈ specialKinds, kind ∉ Remover.relay.loops)
    | bye => exact (by decide : ∀ kind ∈ specialKinds, kind ∉ Remover.bye.loops)
    | cancel => exact (by decide : ∀ kind ∈ specialKinds, kind ∉ Remover.cancel.loops)
  | _ => decide

theorem spawnExternal_not_mem_loops (point : Point) : Kind.spawnExternal ∉ point.loops :=
  not_mem_loops point _ (by decide)

theorem spawnTimer_mem_loops {point : Point} (routine : Kind.spawnTimer ∈ point.loops) :
    point = .forwarded := by
  cases point with
  | forwarded => rfl
  | removing remover pending dialog => cases remover <;> simp [Point.loops, Remover.loops] at routine
  | _ => simp [Point.loops] at routine

theorem spawnRecording_mem_loops {point : Point} (routine : Kind.spawnRecording ∈ point.loops) :
    (∃ src, point = .inviting src) ∨ point = .diverted := by
  cases point with
  | inviting src => exact .inl ⟨src, rfl⟩
  | diverted => exact .inr rfl
  | removing remover pending dialog => cases remover <;> simp [Point.loops, Remover.loops] at routine
  | _ => simp [Point.loops] at routine

section Steps

variable {callId : CallId} {point target : Point} {answer : Option SocketAddr} {dest : SocketAddr}
  {text : Str} {sent : Bool}

theorem edge_insert {addr : SocketAddr}
    (edge : Edge callId point (.pendingDialogs (.insert callId addr)) answer target) :
    point = .inviting addr ∧ target = .entered := by
  cases edge with
  | loop quiet _ => exact absurd (quiet rfl) (not_mem_loops _ _ (by simp))
  | enter => exact ⟨rfl, rfl⟩

theorem edge_pendingRemove
    (edge : Edge callId point (.pendingDialogs (.remove callId)) answer target) :
    point = .diverting ∨ point = .relayed ∨ point = .claimed ∨
      ∃ remover pending dialog, point = .removing remover pending dialog := by
  cases edge with
  | loop quiet _ => exact absurd (quiet rfl) (not_mem_loops _ _ (by simp))
  | removeDiverted => exact .inl rfl
  | drop => exact .inr (.inl rfl)
  | clear => exact .inr (.inr (.inl rfl))
  | removePending => exact .inr (.inr (.inr ⟨_, _, _, rfl⟩))

theorem mediaRemove_mem_loops {point : Point} (routine : Kind.mediaRemove ∈ point.loops) :
    point = .stale ∨ point = .diverted ∨ point = .dropped ∨ point = .parted := by
  cases point with
  | stale => exact .inl rfl
  | diverted => exact .inr (.inl rfl)
  | dropped => exact .inr (.inr (.inl rfl))
  | parted => exact .inr (.inr (.inr rfl))
  | removing remover pending dialog => cases remover <;> simp [Point.loops, Remover.loops] at routine
  | _ => simp [Point.loops] at routine

theorem edge_mediaRemove {answer : Option MediaSession}
    (edge : Edge callId point (.mediaSessions (.remove callId)) answer target) :
    point = .stale ∨ point = .diverted ∨ point = .dropped ∨ point = .parted ∨
      ∃ remover, point = .removing remover true true := by
  cases edge with
  | loop quiet _ =>
    rcases mediaRemove_mem_loops (quiet rfl) with here | here | here | here <;> simp [here]
  | removeMedia => exact .inr (.inr (.inr (.inr ⟨_, rfl⟩)))

theorem edge_arm {handle : Handle} {answer : Unit}
    (edge : Edge callId point (.noAnswer (.arm callId handle)) answer target) :
    point = .forwarded ∧ target = .idle := by
  cases edge with
  | loop quiet _ => exact absurd (quiet rfl) (not_mem_loops _ _ (by simp))
  | arm => exact ⟨rfl, rfl⟩

theorem edge_relay {status : Option Nat} (answered : status.any (· ≥ 200) = true)
    (edge : Edge callId point (.send (.relay callId status) dest text) sent target) :
    point = .holding dest ∧ target = .relayed := by
  cases edge with
  | loop quiet _ => exact absurd (quiet rfl) (not_mem_loops _ _ (by simp))
  | pass provisional => exact absurd (provisional.symm.trans answered) Bool.false_ne_true
  | relay => exact ⟨rfl, rfl⟩

theorem edge_timerAnswer
    (edge : Edge callId point (.send (.timerAnswer callId) dest text) sent target) :
    point = .passed ∧ target = .answered := by
  cases edge with
  | loop quiet _ => exact absurd (quiet rfl) (not_mem_loops _ _ (by simp))
  | answer => exact ⟨rfl, rfl⟩

theorem edge_finish {answer : Unit}
    (edge : Edge callId point (.noAnswer (.finish callId)) answer target) :
    point.finishes = true ∧ target = .idle := by
  cases edge with
  | loop quiet _ => exact absurd (quiet rfl) (not_mem_loops _ _ (by simp))
  | finish finishes => exact ⟨finishes, rfl⟩

theorem edge_cancelForCaller {answer : TimerCancel}
    (edge : Edge callId point (.noAnswer (.cancelForCallerCancel callId)) answer target) :
    point = .canceling ∧ target = .removing .cancel false false := by
  cases edge with
  | loop quiet _ => exact absurd (quiet rfl) (not_mem_loops _ _ (by simp))
  | cancelTimer => exact ⟨rfl, rfl⟩

end Steps

end Sip3.Flow
