import Sip3.Server.Scenario

/-!
# What a step can change

Each collection is written by few kinds of steps. The entry of a call changes only
by a step on that call of a kind that writes its collection. A step that is not a
panic and does not edit a voicemail list always has an outcome.
-/

namespace Sip3

open Text Semantics TimerOp

/-- The collections that the properties of calls speak about. -/
inductive Collection where
  | pendingDialogs
  | pendingInvites
  | activeDialogs
  | mediaSessions
  | noAnswer
  | recording
  | voicemailActive
  deriving DecidableEq

/-- The collection a step of a kind writes, if it is one of these. -/
def Kind.writes : Kind → Option Collection
  | .pendingInsert | .pendingRemove => some .pendingDialogs
  | .inviteStore | .inviteTake => some .pendingInvites
  | .dialogInsert | .dialogRemove => some .activeDialogs
  | .mediaInsert | .mediaRemove => some .mediaSessions
  | .timerCancel | .timerCancelForCaller | .timerClaim | .timerFinish | .timerArm => some .noAnswer
  | .recordingTrack | .recordingDiscard | .recordingMark | .recordingPersist => some .recording
  | .voicemailInsert | .voicemailRemove | .voicemailUpdate => some .voicemailActive
  | _ => none

/-- The entries of a call that are not written stay. -/
structure CallEntries.SameExcept {callId : CallId} (written : Option Collection)
    (before after : CallEntries callId) : Prop where
  pendingDialog : written ≠ some .pendingDialogs → after.pendingDialog = before.pendingDialog
  pendingInvite : written ≠ some .pendingInvites → after.pendingInvite = before.pendingInvite
  activeDialog : written ≠ some .activeDialogs → after.activeDialog = before.activeDialog
  mediaSession : written ≠ some .mediaSessions → after.mediaSession = before.mediaSession
  timer : written ≠ some .noAnswer → after.timer = before.timer
  recording : written ≠ some .recording → after.recording = before.recording
  canceled : written ≠ some .recording → after.canceled = before.canceled
  voicemailCall : written ≠ some .voicemailActive → after.voicemailCall = before.voicemailCall

namespace Op

variable {state after : ServerState} {op : Op} {answer : op.Answer} {callId : CallId}

theorem sameExcept_refl {written : Option Collection} {entries : CallEntries callId} :
    entries.SameExcept written entries :=
  ⟨fun _ => rfl, fun _ => rfl, fun _ => rfl, fun _ => rfl, fun _ => rfl, fun _ => rfl,
    fun _ => rfl, fun _ => rfl⟩

/-- A step keeps every collection its kind does not write. -/
theorem Perform.sameExcept (performed : Perform state op answer after) (callId : CallId) :
    (state.entries callId).SameExcept op.kind.writes (after.entries callId) := by
  cases op with
  | pendingDialogs table | pendingInvites table | activeDialogs table | mediaSessions table =>
    obtain ⟨-, rfl⟩ := performed
    cases table <;> constructor <;> intro quiet <;> first | rfl | exact absurd rfl quiet
  | noAnswer timer =>
    obtain ⟨-, rfl⟩ := performed
    cases timer <;> constructor <;> intro quiet <;>
      first | rfl | exact absurd rfl quiet | exact lookup_next_shouldContinue _ _ _
  | recording set =>
    obtain ⟨-, rfl⟩ := performed
    cases set <;> constructor <;> intro quiet <;> first | rfl | exact absurd rfl quiet
  | voicemailActive call =>
    obtain ⟨-, -, rfl⟩ := perform_voicemailActive_iff.mp performed
    cases call <;> constructor <;> intro quiet <;> first | rfl | exact absurd rfl quiet
  | send site dest text =>
    obtain rfl := performed
    exact sameExcept_refl
  | ask request =>
    obtain rfl := performed
    exact sameExcept_refl
  | panic => exact performed.elim
  | _ =>
    obtain ⟨-, rfl⟩ := performed
    constructor <;> intro _ <;> rfl

/-- Whether a step sends. -/
def isSend : Op → Bool
  | send _ _ _ => true
  | _ => false

/-- Whether a step relays a final response of a call. -/
def relaysFinal (callId : CallId) : Op → Bool
  | send (.relay call status) _ _ => call = callId && status.any (· ≥ 200)
  | _ => false

theorem relaysFinal_iff : op.relaysFinal callId = true ↔
    ∃ status dest text, op = .send (.relay callId status) dest text ∧
      status.any (· ≥ 200) = true := by
  constructor
  · intro relays
    unfold relaysFinal at relays
    split at relays
    · next call status dest text =>
        obtain ⟨own, answered⟩ := Bool.and_eq_true_iff.mp relays
        exact ⟨status, dest, text, by rw [of_decide_eq_true own], answered⟩
    · cases relays
  · rintro ⟨status, dest, text, rfl, answered⟩
    simpa [relaysFinal] using answered

/-- Whether a step sends the answer of voicemail that a timer task has for a call. -/
def answersByTimer (callId : CallId) : Op → Bool
  | send (.timerAnswer call) _ _ => call = callId
  | _ => false

theorem answersByTimer_iff : op.answersByTimer callId = true ↔
    ∃ dest text, op = .send (.timerAnswer callId) dest text := by
  constructor
  · intro answers
    unfold answersByTimer at answers
    split at answers
    · next call dest text => exact ⟨dest, text, by rw [of_decide_eq_true answers]⟩
    · cases answers
  · rintro ⟨dest, text, rfl⟩
    simp [answersByTimer]

/-- The kinds of sends. -/
abbrev sendKinds : List Kind :=
  [.sendReply, .sendRelay, .sendInvite, .sendForward, .sendTimerCancel, .sendTimerAnswer,
    .sendNotify]

theorem isSend_eq_false (silent : op.kind ∉ sendKinds) : op.isSend = false := by
  cases op with
  | send site dest text => cases site <;> exact absurd (by simp) silent
  | _ => rfl

/-- The collection a step is about. -/
def collection? : Op → Option Collection
  | pendingDialogs _ => some .pendingDialogs
  | pendingInvites _ => some .pendingInvites
  | activeDialogs _ => some .activeDialogs
  | mediaSessions _ => some .mediaSessions
  | noAnswer _ => some .noAnswer
  | recording _ => some .recording
  | voicemailActive _ => some .voicemailActive
  | _ => none

theorem collection?_of_writes {written : Collection} (writes : op.kind.writes = some written) :
    op.collection? = some written := by
  unfold kind at writes
  split at writes <;> first | exact writes | cases writes

section Cases

variable (performed : Perform state op answer after)

include performed

/-- What a step does to the pending dialog of a call. -/
theorem Perform.pendingDialog_cases (callId : CallId) :
    (∃ addr, op = .pendingDialogs (.insert callId addr) ∧
        after.pendingDialogs.lookup callId = some addr) ∨
      op = .pendingDialogs (.remove callId) ∧ after.pendingDialogs.lookup callId = none ∨
      after.pendingDialogs.lookup callId = state.pendingDialogs.lookup callId := by
  cases op with
  | pendingDialogs table =>
    obtain ⟨-, rfl⟩ := performed
    simpa using TableOp.lookup_next_cases state.pendingDialogs table callId
  | _ =>
    exact .inr (.inr ((performed.sameExcept callId).pendingDialog
      fun writes => nomatch collection?_of_writes writes))

theorem Perform.activeDialog_cases (callId : CallId) :
    (∃ dialog, op = .activeDialogs (.insert callId dialog) ∧
        after.activeDialogs.lookup callId = some dialog) ∨
      op = .activeDialogs (.remove callId) ∧ after.activeDialogs.lookup callId = none ∨
      after.activeDialogs.lookup callId = state.activeDialogs.lookup callId := by
  cases op with
  | activeDialogs table =>
    obtain ⟨-, rfl⟩ := performed
    simpa using TableOp.lookup_next_cases state.activeDialogs table callId
  | _ =>
    exact .inr (.inr ((performed.sameExcept callId).activeDialog
      fun writes => nomatch collection?_of_writes writes))

theorem Perform.mediaSession_cases (callId : CallId) :
    (∃ session, op = .mediaSessions (.insert callId session) ∧
        after.mediaSessions.lookup callId = some session) ∨
      op = .mediaSessions (.remove callId) ∧ after.mediaSessions.lookup callId = none ∨
      after.mediaSessions.lookup callId = state.mediaSessions.lookup callId := by
  cases op with
  | mediaSessions table =>
    obtain ⟨-, rfl⟩ := performed
    simpa using TableOp.lookup_next_cases state.mediaSessions table callId
  | _ =>
    exact .inr (.inr ((performed.sameExcept callId).mediaSession
      fun writes => nomatch collection?_of_writes writes))

theorem Perform.pendingInvite_cases (callId : CallId) :
    (∃ msg : SipMessage, op = .pendingInvites (.store msg) ∧ msg.callKey = callId) ∨
      op = .pendingInvites (.take callId) ∧ after.pendingInvites.lookup callId = none ∨
      after.pendingInvites.lookup callId = state.pendingInvites.lookup callId := by
  cases op with
  | pendingInvites invite =>
    obtain ⟨-, rfl⟩ := performed
    by_cases own : invite.key = callId
    · cases invite with
      | store msg => exact .inl ⟨msg, rfl, own⟩
      | take call =>
        obtain rfl : call = callId := own
        exact .inr (.inl ⟨rfl, AList.lookup_erase call _⟩)
    · exact .inr (.inr (InviteOp.lookup_next_of_ne own))
  | _ =>
    exact .inr (.inr ((performed.sameExcept callId).pendingInvite
      fun writes => nomatch collection?_of_writes writes))

/-- What a step does to the voicemail call of a call. -/
theorem Perform.voicemailCall_cases (callId : CallId) :
    (∃ call : VoicemailCallOp, op = .voicemailActive call ∧ call.key = callId ∧
        after.voicemailActive.lookup callId =
          call.entryAfter (state.voicemailActive.lookup callId)) ∨
      after.voicemailActive.lookup callId = state.voicemailActive.lookup callId := by
  cases op with
  | voicemailActive call =>
    obtain ⟨-, -, rfl⟩ := perform_voicemailActive_iff.mp performed
    by_cases own : call.key = callId
    · subst own
      exact .inl ⟨call, rfl, rfl, VoicemailCallOp.lookup_next _ call⟩
    · exact .inr (VoicemailCallOp.lookup_next_of_ne own)
  | _ =>
    exact .inr ((performed.sameExcept callId).voicemailCall
      fun writes => nomatch collection?_of_writes writes)

theorem Perform.isSome_voicemailMedia (kept : op ≠ .voicemailMedia (.remove callId))
    (live : (state.voicemailMedia.lookup callId).isSome = true) :
    (after.voicemailMedia.lookup callId).isSome = true := by
  cases op with
  | voicemailMedia registry =>
    obtain ⟨-, rfl⟩ := performed
    exact RegistryOp.isSome_lookup_next (fun same => kept (congrArg _ same)) live
  | voicemailActive call =>
    obtain ⟨-, -, rfl⟩ := perform_voicemailActive_iff.mp performed
    exact live
  | send site dest text =>
    obtain rfl := performed
    exact live
  | ask request =>
    obtain rfl := performed
    exact live
  | panic => exact performed.elim
  | _ =>
    obtain ⟨-, rfl⟩ := performed
    exact live

theorem Perform.timer_cases (callId : CallId) :
    (∃ timer : TimerOp, op = .noAnswer timer ∧ timer.key = callId ∧
        after.noAnswer.lookup callId = timer.entryAfter (state.noAnswer.lookup callId)) ∨
      after.noAnswer.lookup callId = state.noAnswer.lookup callId := by
  cases op with
  | noAnswer timer =>
    obtain ⟨-, rfl⟩ := performed
    by_cases own : timer.key = callId
    · subst own
      exact .inl ⟨timer, rfl, rfl, lookup_next _ timer⟩
    · exact .inr (lookup_next_of_ne own)
  | _ =>
    exact .inr ((performed.sameExcept callId).timer
      fun writes => nomatch collection?_of_writes writes)

section

variable (arms : ∀ handle, op ≠ .noAnswer (.arm callId handle))

include arms

theorem Perform.ringing_before {handle : Handle}
    (rings : after.noAnswer.lookup callId = some (.ringing handle)) :
    state.noAnswer.lookup callId = some (.ringing handle) := by
  obtain ⟨timer, rfl, own, entry⟩ | same := performed.timer_cases callId
  · rw [entry] at rings
    cases timer with
    | arm call handle => exact absurd (own ▸ rfl) (arms handle)
    | shouldContinue call => exact rings
    | finish call => cases rings
    | _ => cases found : state.noAnswer.lookup callId with
        | none => simp [found, entryAfter] at rings
        | some old => cases old <;> simp [found, entryAfter] at rings
  · exact same ▸ rings

/-- A call without a timer gets one only when it is armed. -/
theorem Perform.timer_eq_none (absent : state.noAnswer.lookup callId = none) :
    after.noAnswer.lookup callId = none := by
  obtain ⟨timer, rfl, own, entry⟩ | same := performed.timer_cases callId
  · rw [entry, absent]
    cases timer with
    | arm call handle => exact absurd (own ▸ rfl) (arms handle)
    | _ => rfl
  · exact same.trans absent

/-- A firing timer goes on until it is armed again, canceled by the caller or given up. -/
theorem Perform.timer_eq_firing (cancels : op ≠ .noAnswer (.cancelForCallerCancel callId))
    (finishes : op ≠ .noAnswer (.finish callId))
    (firing : state.noAnswer.lookup callId = some .firing) :
    after.noAnswer.lookup callId = some .firing := by
  obtain ⟨timer, rfl, own, entry⟩ | same := performed.timer_cases callId
  · rw [entry, firing]
    cases timer with
    | arm call handle => exact absurd (own ▸ rfl) (arms handle)
    | cancelForCallerCancel call => exact absurd (own ▸ rfl) cancels
    | finish call => exact absurd (own ▸ rfl) finishes
    | _ => rfl
  · exact same.trans firing

end

/-- Only a cancellation by the caller marks a timer canceled. -/
theorem Perform.timer_ne_canceled (cancels : op ≠ .noAnswer (.cancelForCallerCancel callId))
    (active : state.noAnswer.lookup callId ≠ some .canceled) :
    after.noAnswer.lookup callId ≠ some .canceled := by
  obtain ⟨timer, rfl, own, entry⟩ | same := performed.timer_cases callId
  · rw [entry]
    cases timer with
    | arm call handle => exact nofun
    | finish call => exact nofun
    | shouldContinue call => exact active
    | cancelForCallerCancel call => exact absurd (own ▸ rfl) cancels
    | _ => cases found : state.noAnswer.lookup callId with
        | none => exact nofun
        | some old =>
          cases old with
          | canceled => exact absurd found active
          | _ => exact nofun
  · exact same ▸ active

end Cases

/-- A claim that succeeds turns a ringing timer into a firing one. -/
theorem Perform.claims (performed : Perform state (.noAnswer (.claim callId)) true after) :
    (∃ handle, state.noAnswer.lookup callId = some (.ringing handle)) ∧
      after.noAnswer.lookup callId = some .firing := by
  obtain ⟨claimed, rfl⟩ := performed
  have entry := lookup_next state.noAnswer (.claim callId)
  simp only [key] at entry claimed
  rw [entry]
  cases found : state.noAnswer.lookup callId with
  | none => rw [found] at claimed; cases claimed
  | some old =>
    cases old with
    | ringing handle => exact ⟨⟨handle, rfl⟩, rfl⟩
    | firing => rw [found] at claimed; cases claimed
    | canceled => rw [found] at claimed; cases claimed

/-- A cancellation that does not find the timer firing leaves none, or the mark of an earlier
one. -/
theorem Perform.releases {outcome : TimerCancel} (free : outcome ≠ .alreadyFired)
    (performed : Perform state (.noAnswer (.cancel callId)) outcome after) :
    after.noAnswer.lookup callId = none ∨ state.noAnswer.lookup callId = some .canceled ∧
      after.noAnswer.lookup callId = some .canceled := by
  obtain ⟨rfl, rfl⟩ := performed
  have entry := lookup_next state.noAnswer (.cancel callId)
  simp only [key] at entry free
  rw [entry]
  cases found : state.noAnswer.lookup callId with
  | none => exact .inl rfl
  | some old =>
    cases old with
    | ringing handle => exact .inl rfl
    | firing => rw [found] at free; exact absurd rfl free
    | canceled => exact .inr ⟨rfl, rfl⟩

/-- A cancellation that comes too late has found the timer firing. -/
theorem Perform.firing_of_alreadyFired
    (performed : Perform state (.noAnswer (.cancel callId)) TimerCancel.alreadyFired after) :
    state.noAnswer.lookup callId = some .firing := by
  obtain ⟨fired, -⟩ := performed
  simp only [key] at fired
  cases found : state.noAnswer.lookup callId with
  | none => rw [found] at fired; cases fired
  | some old =>
    cases old with
    | ringing handle => rw [found] at fired; cases fired
    | firing => rfl
    | canceled => rw [found] at fired; cases fired

theorem Perform.firing_before (performed : Perform state op answer after)
    (fires : after.noAnswer.lookup callId = some .firing) :
    state.noAnswer.lookup callId = some .firing ∨
      (⟨op, answer⟩ : (op : Op) × op.Answer) = ⟨.noAnswer (.claim callId), true⟩ := by
  obtain ⟨timer, rfl, own, entry⟩ | same := performed.timer_cases callId
  · rw [entry] at fires
    cases found : state.noAnswer.lookup callId with
    | none => cases timer <;> simp [found, entryAfter] at fires
    | some old =>
      cases old with
      | firing => exact .inl rfl
      | canceled => cases timer <;> simp [found, entryAfter] at fires
      | ringing handle =>
        cases timer with
        | claim call =>
          obtain rfl : call = callId := own
          obtain ⟨rfl, -⟩ := performed
          refine .inr ?_
          simp only [key, found]
          rfl
        | _ => simp [found, entryAfter] at fires
  · exact .inl (same.symm.trans fires)

/-- A step that is not a panic and does not edit a voicemail list has an outcome in every
world. -/
theorem exists_perform (outside : Outside) (state : ServerState) (op : Op)
    (returns : op.kind ∉ [Kind.panic, .voicemailUpdate]) :
    ∃ answer after, Perform state op answer after ∧ outside.Gives ⟨op, answer⟩ := by
  cases op with
  | voicemailActive call =>
    have through : call.runs (state.voicemailActive.lookup call.key) = true := by
      cases call with
      | removeMessage callId index => exact absurd (by simp) returns
      | _ => rfl
    exact ⟨_, _, perform_voicemailActive_iff.mpr ⟨through, rfl, rfl⟩, trivial⟩
  | send site dest text => exact ⟨true, state, rfl, trivial⟩
  | ask request => exact ⟨outside request, state, rfl, rfl⟩
  | panic => exact absurd (by decide) returns
  | _ => exact ⟨_, _, ⟨rfl, rfl⟩, trivial⟩

end Op

end Sip3
