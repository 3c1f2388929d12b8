import Sip3.Semantics.Trace
import Sip3.Server.Routing

/-!
# Canceled recordings

A delivery enters its call into the `recording` set before it does anything else. It takes the
call out again when it is refused, or its recording task does when the recording has ended. A
cancellation in between marks the call. Attempts to deliver, each for the Call-ID of its INVITE,
and cancellations are interleaved here section by section; the handler of a delivery and its
recording task make the sections of one attempt.
-/

namespace Sip3.RecordingCancel

open Text Semantics Voicemail Program Function RecordingOp List

/-- What has become of an attempt: not started, refused as a duplicate, between its `track` and
its end, given up, or ended with the answer of `should_persist_recording`. -/
inductive Phase where
  | ready
  | duplicate
  | pending
  | discarded
  | ended (persist : Bool)
  deriving DecidableEq

variable {Attempt : Type} [DecidableEq Attempt]

/-- The next section of an attempt, or a cancellation of a call. -/
inductive Event (Attempt : Type) where
  | track (attempt : Attempt)
  | discard (attempt : Attempt)
  | shouldPersist (attempt : Attempt)
  | cancel (callId : CallId)
  deriving DecidableEq

/-- `RecordingCancelState`, and how far each attempt is. -/
structure State (Attempt : Type) where
  recording : Finset CallId
  canceled : Finset CallId
  phase : Attempt → Phase

namespace State

/-- No call is recorded and no attempt has started. -/
def initial : State Attempt := ⟨∅, ∅, fun _ => .ready⟩

variable (state : State Attempt)

/-- The sets after a section. -/
def perform (op : RecordingOp) : State Attempt :=
  { state with
    recording := op.nextRecording state.recording
    canceled := op.nextCanceled state.recording state.canceled }

/-- An attempt takes a section and goes on with what it answers. -/
def advance (attempt : Attempt) (op : RecordingOp) (next : Bool → Phase) : State Attempt :=
  { state.perform op with
    phase := Function.update state.phase attempt
      (next (op.answer state.recording state.canceled)) }

/-- One section. An attempt that was refused does nothing more; one that was not discards the
call or asks once whether to persist it. -/
def step (callIdOf : Attempt → CallId) (state : State Attempt) :
    Event Attempt → Option (State Attempt)
  | .track attempt =>
    if state.phase attempt = .ready then
      some (state.advance attempt (.track (callIdOf attempt))
        fun entered => if entered then .pending else .duplicate)
    else none
  | .discard attempt =>
    if state.phase attempt = .pending then
      some (state.advance attempt (.discard (callIdOf attempt)) fun _ => .discarded)
    else none
  | .shouldPersist attempt =>
    if state.phase attempt = .pending then
      some (state.advance attempt (.shouldPersist (callIdOf attempt)) .ended)
    else none
  | .cancel callId => some (state.perform (.markCanceled callId))

end State

/-- What happened after an attempt was tracked. -/
def since (attempt : Attempt) (events : List (Event Attempt)) : List (Event Attempt) :=
  (events.dropWhile (· ≠ .track attempt)).tail

/-- An event after an attempt was tracked is one since then. -/
theorem since_append {attempt : Attempt} {events : List (Event Attempt)}
    (tracked : .track attempt ∈ events) (event : Event Attempt) :
    since attempt (events ++ [event]) = since attempt events ++ [event] := by
  have found : events.dropWhile (· ≠ .track attempt) ≠ [] := by
    intro none
    have passed := dropWhile_eq_nil_iff.mp none _ tracked
    simp at passed
  unfold since
  rw [dropWhile_append, if_neg (by simpa using found), tail_append_of_ne_nil found]

theorem since_track {attempt : Attempt} {events : List (Event Attempt)}
    (untracked : .track attempt ∉ events) :
    since attempt (events ++ [.track attempt]) = [] := by
  have passed : events.dropWhile (· ≠ .track attempt) = [] := by
    refine dropWhile_eq_nil_iff.mpr fun event member => ?_
    simp only [ne_eq, decide_not, Bool.not_eq_true', decide_eq_false_iff_not]
    rintro rfl
    exact untracked member
  unfold since
  rw [dropWhile_append, passed]
  simp

variable {callIdOf : Attempt → CallId} {events : List (Event Attempt)} {state after : State Attempt}

/-- What holds after the events of a run. A call is marked exactly when it was canceled after
the attempt that is pending for it was tracked. -/
structure Consistent (callIdOf : Attempt → CallId) (events : List (Event Attempt))
    (state : State Attempt) : Prop where
  marked : state.canceled ⊆ state.recording
  entered : ∀ {attempt}, state.phase attempt = .pending → callIdOf attempt ∈ state.recording
  alone : ∀ {attempt other}, state.phase attempt = .pending → state.phase other = .pending →
    callIdOf attempt = callIdOf other → attempt = other
  untracked : ∀ {attempt}, state.phase attempt = .ready → .track attempt ∉ events
  tracked : ∀ {attempt}, state.phase attempt = .pending → .track attempt ∈ events
  history : ∀ {attempt}, state.phase attempt = .pending →
    (callIdOf attempt ∈ state.canceled ↔ .cancel (callIdOf attempt) ∈ since attempt events)

namespace Consistent

theorem initial : Consistent callIdOf [] (State.initial : State Attempt) where
  marked := Finset.Subset.refl _
  entered := by simp [State.initial]
  alone := by simp [State.initial]
  untracked := by simp
  tracked := by simp [State.initial]
  history := by simp [State.initial]

variable {attempt : Attempt} {event : Event Attempt}

/-- An event that says nothing of an attempt leaves its history as it was. -/
theorem history_append (consistent : Consistent callIdOf events state)
    (pending : state.phase attempt = .pending) (silent : event ≠ .cancel (callIdOf attempt)) :
    callIdOf attempt ∈ state.canceled ↔
      .cancel (callIdOf attempt) ∈ since attempt (events ++ [event]) := by
  rw [since_append (consistent.tracked pending), mem_append, mem_singleton,
    or_iff_left silent.symm]
  exact consistent.history pending

/-- An attempt that has reached another phase is not the one that reached this phase. -/
theorem phase_of_update {attempt other : Attempt} {reached phase : Phase}
    (there : update state.phase attempt reached other = phase)
    (different : reached ≠ phase) : other ≠ attempt ∧ state.phase other = phase := by
  by_cases same : other = attempt
  · subst same
    rw [update_self] at there
    exact absurd there different
  · rw [update_of_ne same] at there
    exact ⟨same, there⟩

section

variable (consistent : Consistent callIdOf events state)

include consistent

/-- The end of a pending attempt takes its call out of both sets. -/
theorem leave (pending : state.phase attempt = .pending) {reached : Phase}
    (past : reached ≠ .pending) (started : reached ≠ .ready)
    (silent : ∀ callId, event ≠ .cancel callId) (later : ∀ other, event ≠ .track other) :
    Consistent callIdOf (events ++ [event])
      ⟨state.recording.erase (callIdOf attempt), state.canceled.erase (callIdOf attempt),
        update state.phase attempt reached⟩ := by
  -- Any other pending attempt is one for another call.
  have apart {other} (there : update state.phase attempt reached other = .pending) :
      callIdOf other ≠ callIdOf attempt ∧ state.phase other = .pending := by
    obtain ⟨different, still⟩ := phase_of_update there past
    exact ⟨fun same => different (consistent.alone still pending same), still⟩
  constructor
  case marked => exact Finset.erase_subset_erase _ consistent.marked
  case entered =>
    intro other there
    obtain ⟨different, still⟩ := apart there
    exact Finset.mem_erase.mpr ⟨different, consistent.entered still⟩
  case alone =>
    intro one other here there
    exact consistent.alone (apart here).2 (apart there).2
  case untracked =>
    intro other there
    have before := consistent.untracked (phase_of_update there started).2
    simpa [before] using (later other).symm
  case tracked =>
    intro other there
    exact mem_append_left _ (consistent.tracked (apart there).2)
  case history =>
    intro other there
    obtain ⟨different, still⟩ := apart there
    rw [← consistent.history_append still (silent _)]
    exact Finset.mem_erase.trans (and_iff_right different)

/-- An attempt for a call that is being recorded ends as a duplicate. -/
theorem refuse (entered : callIdOf attempt ∈ state.recording) :
    Consistent callIdOf (events ++ [.track attempt])
      ⟨insert (callIdOf attempt) state.recording, state.canceled,
        update state.phase attempt .duplicate⟩ := by
  rw [Finset.insert_eq_of_mem entered]
  have still {other phase} (there : update state.phase attempt .duplicate other = phase)
      (different : .duplicate ≠ phase) := phase_of_update there different
  constructor
  case marked => exact consistent.marked
  case entered => exact fun there => consistent.entered (still there (by decide)).2
  case alone =>
    intro one other here there
    exact consistent.alone (still here (by decide)).2 (still there (by decide)).2
  case untracked =>
    intro other there
    obtain ⟨different, ready⟩ := still there (by decide)
    simpa [consistent.untracked ready] using different
  case tracked =>
    exact fun there => mem_append_left _ (consistent.tracked (still there (by decide)).2)
  case history =>
    exact fun there => consistent.history_append (still there (by decide)).2 (by simp)

/-- An attempt that enters its call finds it unmarked. -/
theorem enter (ready : state.phase attempt = .ready) (absent : callIdOf attempt ∉ state.recording) :
    Consistent callIdOf (events ++ [.track attempt])
      ⟨insert (callIdOf attempt) state.recording, state.canceled,
        update state.phase attempt .pending⟩ := by
  have which {other} (there : update state.phase attempt .pending other = .pending) :
      other = attempt ∨ callIdOf other ≠ callIdOf attempt ∧ state.phase other = .pending := by
    by_cases same : other = attempt
    · exact .inl same
    · rw [update_of_ne same] at there
      exact .inr ⟨fun equal => absent (equal ▸ consistent.entered there), there⟩
  constructor
  case marked => exact consistent.marked.trans (Finset.subset_insert _ _)
  case entered =>
    intro other there
    rcases which there with rfl | ⟨-, still⟩
    · exact Finset.mem_insert_self _ _
    · exact Finset.mem_insert_of_mem (consistent.entered still)
  case alone =>
    intro one other here there equal
    rcases which here with rfl | ⟨apart, still⟩ <;> rcases which there with rfl | ⟨away, yet⟩
    · rfl
    · exact absurd equal.symm away
    · exact absurd equal apart
    · exact consistent.alone still yet equal
  case untracked =>
    intro other there
    obtain ⟨different, before⟩ := phase_of_update there (by decide)
    simpa [consistent.untracked before] using different
  case tracked =>
    intro other there
    rcases which there with rfl | ⟨-, still⟩
    · simp
    · exact mem_append_left _ (consistent.tracked still)
  case history =>
    intro other there
    rcases which there with rfl | ⟨-, still⟩
    · rw [since_track (consistent.untracked ready)]
      simpa using fun marked => absent (consistent.marked marked)
    · exact consistent.history_append still (by simp)

/-- A cancellation marks the call of the pending attempt, and nothing when there is none. -/
theorem mark (callId : CallId) :
    Consistent callIdOf (events ++ [.cancel callId]) (state.perform (.markCanceled callId)) := by
  have canceled {other : CallId} : other ∈ (state.perform (.markCanceled callId)).canceled ↔
      other ∈ state.canceled ∨ other = callId ∧ callId ∈ state.recording := by
    simp only [State.perform, nextCanceled]
    split <;> simp_all [or_comm]
  constructor
  case marked =>
    intro other marked
    rcases canceled.mp marked with before | ⟨rfl, entered⟩
    · exact consistent.marked before
    · exact entered
  case entered => exact consistent.entered
  case alone => exact consistent.alone
  case untracked =>
    intro attempt ready
    simpa using consistent.untracked ready
  case tracked => exact fun pending => mem_append_left _ (consistent.tracked pending)
  case history =>
    intro attempt pending
    have entered := consistent.entered pending
    rw [canceled, since_append (consistent.tracked pending), consistent.history pending,
      mem_append, mem_singleton, Event.cancel.injEq]
    refine or_congr_right ⟨And.left, fun same => ⟨same, same ▸ entered⟩⟩

theorem step (taken : State.step callIdOf state event = some after) :
    Consistent callIdOf (events ++ [event]) after := by
  cases event with
  | track attempt =>
    obtain ⟨ready, reached⟩ := Option.ite_none_right_eq_some.mp taken
    cases reached
    by_cases entered : callIdOf attempt ∈ state.recording
    · simpa [State.advance, State.perform, answer, nextRecording,
        nextCanceled, entered] using consistent.refuse entered
    · simpa [State.advance, State.perform, answer, nextRecording,
        nextCanceled, entered] using consistent.enter ready entered
  | discard attempt =>
    obtain ⟨pending, reached⟩ := Option.ite_none_right_eq_some.mp taken
    cases reached
    exact consistent.leave pending (by simp) (by simp) (by simp) (by simp)
  | shouldPersist attempt =>
    obtain ⟨pending, reached⟩ := Option.ite_none_right_eq_some.mp taken
    cases reached
    exact consistent.leave pending (by simp) (by simp) (by simp) (by simp)
  | cancel callId =>
    cases taken
    exact consistent.mark callId

end

theorem trace (trace : Trace (State.step callIdOf) .initial events state) :
    Consistent callIdOf events state := by
  induction trace with
  | start => exact initial
  | step _ taken ih => exact ih.step taken

end Consistent

/-- In every interleaving of attempts and cancellations, every marked call is being recorded, at
most one attempt for each call is pending, and a recording is not persisted exactly when its call
was canceled after its own attempt was tracked. -/
theorem recording_cancellation (trace : Trace (State.step callIdOf) .initial events state) :
    state.canceled ⊆ state.recording ∧
    (∀ attempt other, state.phase attempt = .pending → state.phase other = .pending →
      callIdOf attempt = callIdOf other → attempt = other) ∧
    ∀ attempt after, State.step callIdOf state (.shouldPersist attempt) = some after →
      ∃ persist, after.phase attempt = .ended persist ∧
        (persist = false ↔ .cancel (callIdOf attempt) ∈ since attempt events) := by
  have consistent := Consistent.trace trace
  refine ⟨consistent.marked, fun _ _ => consistent.alone, fun attempt after taken => ?_⟩
  obtain ⟨pending, reached⟩ := Option.ite_none_right_eq_some.mp taken
  cases reached
  refine ⟨_, Function.update_self _ _ _, ?_⟩
  rw [← consistent.history pending, RecordingOp.answer, decide_eq_false_iff_not, not_not]

/-- A call is canceled while its first attempt is pending, which a duplicate does not change, and
once more when nothing is pending. The third attempt is recorded. -/
theorem recording_cancellation_later :
    ∃ state after : State (Fin 3),
      Trace (State.step fun _ => "c".toList) .initial [.track 0, .track 1, .cancel "c".toList,
        .shouldPersist 0, .cancel "c".toList, .track 2] state ∧
      State.step (fun _ => "c".toList) state (.shouldPersist 2) = some after ∧
      after.phase 0 = .ended false ∧ after.phase 1 = .duplicate ∧
      after.phase 2 = .ended true := by
  refine ⟨_, _, trace_of_playTrace rfl, rfl, rfl, rfl, ?_⟩
  have trace : Trace (State.step fun _ : Fin 3 => "c".toList) .initial [.track 0, .track 1,
    .cancel "c".toList, .shouldPersist 0, .cancel "c".toList, .track 2] _ := trace_of_playTrace rfl
  obtain ⟨persist, ended, canceled⟩ := (recording_cancellation trace).2.2 2 _ rfl
  have uncanceled : persist ≠ false := fun refused => absurd (canceled.mp refused) (by decide)
  rw [ended, Bool.eq_true_of_not_eq_false uncanceled]

/-- How far a delivery is. `handed` is a pending one whose recording task has been started. -/
inductive Stage where
  | reached (phase : Phase)
  | handed

/-- The steps that move an attempt. -/
abbrev attemptKinds : List Kind :=
  [.recordingTrack, .recordingDiscard, .recordingPersist, .spawnRecording]

/-- The sections of one attempt for a call, in the order of `State.step`. Every other step leaves
the attempt where it is. -/
inductive Edge (callId : CallId) : Program.Graph signature Stage where
  | track {entered : Bool} : Edge callId (.reached .ready) (.recording (.track callId)) entered
      (.reached (if entered then .pending else .duplicate))
  | discard {answer : Bool} : Edge callId (.reached .pending) (.recording (.discard callId)) answer
      (.reached .discarded)
  | hand {start : RecordingStart} {answer : (Op.spawn (.recording start)).Answer}
      (same : start.callId = callId) :
      Edge callId (.reached .pending) (.spawn (.recording start)) answer .handed
  | shouldPersist {persist : Bool} : Edge callId .handed (.recording (.shouldPersist callId)) persist
      (.reached (.ended persist))
  | other {stage : Stage} {op : Op} {answer : op.Answer} (apart : op.kind ∉ attemptKinds) :
      Edge callId stage op answer stage

section Programs

variable (server : Server) {callId : CallId} {stage : Stage}

/-- Steps of other kinds, and then the rest. -/
theorem follows_bind_of_keeps {α β : Type} {kinds : List Kind} {topics : List Topic}
    {first : Action α} {next : α → Action β} {exit : β → Stage → Prop}
    (uses : first.Uses (Op.Keeps callId kinds topics))
    (apart : ∀ kind ∈ kinds, kind ∉ attemptKinds)
    (rest : ∀ value, (next value).Follows (Edge callId) stage exit) :
    (first >>= next).Follows (Edge callId) stage exit :=
  uses.follows_bind (fun _ keeps _ => .other (apart _ keeps.within.2)) rest

/-- A step of another kind, and then the rest. -/
theorem follows_other {β : Type} {op : Op} {next : op.Answer → Action β} {exit : β → Stage → Prop}
    (apart : op.kind ∉ attemptKinds)
    (rest : ∀ answer, (next answer).Follows (Edge callId) stage exit) :
    (request op next : Action β).Follows (Edge callId) stage exit :=
  fun answer => ⟨stage, .other apart, rest answer⟩

theorem discardAnd_attempt (result : Fallible Str) :
    (discardAnd callId result).Follows (Edge callId) (.reached .pending)
      fun _ stage => stage ≠ .reached .pending := by
  simp only [discardAnd, request_bind, done_bind]
  exact fun _ => ⟨_, .discard, by simp⟩

theorem recordDelivery_attempt (msg : SipMessage) (callee caller : Str)
    (settings : MailboxSettings) :
    (recordDelivery server msg callee caller settings).Follows (Edge msg.callKey)
      (.reached .pending) fun _ stage => stage ≠ .reached .pending := by
  dsimp only [recordDelivery]
  split
  · exact discardAnd_attempt _
  · refine follows_bind_of_keeps (allocateMedia_uses _) (by decide) fun port => ?_
    split
    · exact discardAnd_attempt _
    · refine follows_bind_of_keeps (buildLocalOk_uses server msg _ _ _) (by decide)
        fun response => ?_
      simp only [request_bind, done_bind]
      exact follows_other (by simp [Op.kind]) fun _ _ => ⟨_, .hand rfl, by simp⟩

theorem deliverTracked_attempt (msg : SipMessage) (callee : Str) :
    (deliverTracked server msg callee).Follows (Edge msg.callKey) (.reached .pending)
      fun _ stage => stage ≠ .reached .pending := by
  dsimp only [deliverTracked]
  split
  · exact discardAnd_attempt _
  simp only [request_bind, done_bind]
  refine follows_other (by simp [Op.kind]) fun enabled => ?_
  split
  · exact discardAnd_attempt _
  · exact discardAnd_attempt _
  refine follows_bind_of_keeps (lookupEnabledBox_uses _ _) (by decide) fun mailbox => ?_
  split
  · exact discardAnd_attempt _
  simp only [mailboxIsFull, request_bind, done_bind]
  refine follows_other (by simp [Op.kind]) fun count => ?_
  cases count with
  | error failure => exact discardAnd_attempt _
  | ok number =>
    simp only [pure_eq_done, done_bind]
    split
    · exact discardAnd_attempt _
    · exact discardAnd_attempt _
    · exact recordDelivery_attempt server msg _ _ _

theorem handleDeliveryInvite_attempt (msg : SipMessage) (callee : Str) :
    (handleDeliveryInvite server msg callee).Follows (Edge msg.callKey) (.reached .ready)
      fun _ stage => stage ≠ .reached .pending := by
  dsimp only [handleDeliveryInvite]
  split
  · simp
  · simp only [request_bind, done_bind]
    intro entered
    cases entered with
    | true => exact ⟨_, .track, deliverTracked_attempt server msg callee⟩
    | false => exact ⟨_, .track, by simp⟩

theorem recordingTask_attempt (start : RecordingStart) :
    (recordingTask server start).Follows (Edge start.callId) .handed
      fun _ stage => ∃ persist, stage = .reached (.ended persist) := by
  refine follows_bind_of_keeps (recordToStorage_uses server start) (by decide)
    fun result => ?_
  simp only [request_bind, done_bind]
  refine follows_other (by simp [Op.kind]) fun _ => follows_other (by simp [Op.kind]) fun _ => ?_
  intro persist
  refine ⟨_, .shouldPersist, ?_⟩
  cases result with
  | error failure => exact ⟨persist, rfl⟩
  | ok stored =>
    have apart : ∀ kind ∈ [Kind.insertVoicemail, .ask, .sendNotify], kind ∉ attemptKinds := by decide
    exact (storeRecording_uses server start _ _ _).follows
      (fun _ keeps _ => .other (apart _ keeps.within.2)) fun _ => ⟨persist, rfl⟩

/-- A delivery is one attempt: a call that `handle_delivery_invite` tracked is discarded or has a
recording task, and that task ends the attempt by asking once. -/
theorem delivery_attempt (msg : SipMessage) (callee : Str) (start : RecordingStart) :
    ((handleDeliveryInvite server msg callee).Follows (Edge msg.callKey) (.reached .ready)
      fun _ stage => stage ≠ .reached .pending) ∧
    (recordingTask server start).Follows (Edge start.callId) .handed
      fun _ stage => ∃ persist, stage = .reached (.ended persist) :=
  ⟨handleDeliveryInvite_attempt server msg callee, recordingTask_attempt server start⟩

end Programs

end Sip3.RecordingCancel
