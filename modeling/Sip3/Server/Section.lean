import Sip3.Server.State

/-!
# Locked sections

Each shared collection is used through short sections under its mutex. A section
has one outcome: what it returns and the collection after it. Every section works
on the entry of one Call-ID and leaves the others alone.
-/

namespace Sip3

open Text AList

/-- Locked sections on the stored INVITEs. -/
inductive InviteOp where
  | store (msg : SipMessage)
  | take (callId : CallId)

/-- Locked sections on the WebRTC sessions. -/
inductive WebRtcOp where
  | get (callId : CallId)
  | insert (callId : CallId) (session : WebRtcSession)
  | remove (callId : CallId)
  | setPeer (callId : CallId) (addr : SocketAddr)
  | setVideoPeer (callId : CallId) (addr : SocketAddr)

/-- Locked sections on the no-answer timers. -/
inductive TimerOp where
  | cancel (callId : CallId)
  | cancelForCallerCancel (callId : CallId)
  | claim (callId : CallId)
  | shouldContinue (callId : CallId)
  | finish (callId : CallId)
  | arm (callId : CallId) (handle : Handle)

/-- Locked sections on `RecordingCancelState`. -/
inductive RecordingOp where
  | track (callId : CallId)
  | discard (callId : CallId)
  | markCanceled (callId : CallId)
  | shouldPersist (callId : CallId)

/-- Locked sections on the pending voicemail accesses. The check of the active calls
that comes before `track` is a section of its own. -/
inductive AccessOp where
  | track (callId : CallId)
  | discard (callId : CallId)

/-- Locked sections on the active voicemail calls. -/
inductive VoicemailCallOp where
  | get (callId : CallId)
  | insert (callId : CallId) (call : VoicemailCall)
  | remove (callId : CallId)
  | setIndex (callId : CallId) (index : Nat)
  | removeMessage (callId : CallId) (index : Nat)
  | markSaved (callId : CallId) (index : Nat)
  | unlock (callId : CallId) (mailbox : Str) (boxId : Nat) (messages : List VoicemailMessage)
  | clearPin (callId : CallId)
  | pushPin (callId : CallId) (digit : Char)

/-- Locked sections on the voicemail media registry. -/
inductive RegistryOp where
  | get (callId : CallId)
  | allocate (callId : CallId) (session : VoicemailSession)
  | remove (callId : CallId)

/-- Locked sections on the conference rooms. -/
inductive RoomOp where
  | join (room : Nat) (callId : CallId) (participant : Participant)
  | leave (room : Nat) (callId : CallId)
  | recordDtmf (room : Nat) (callId : CallId) (event : Nat) (now : Nat)

namespace InviteOp

/-- The key of a section. -/
@[simp] def key : InviteOp → CallId
  | store msg => msg.callKey
  | take callId => callId

/-- The answer of a section. -/
@[reducible] def Answer : InviteOp → Type
  | store _ => Unit
  | take callId => Option (StoredInvite callId)

/-- What a section returns. -/
def answer (table : AList StoredInvite) : (op : InviteOp) → op.Answer
  | store _ => ()
  | take callId => table.lookup callId

/-- The map after a section. -/
def next (table : AList StoredInvite) : InviteOp → AList StoredInvite
  | store msg => table.insert msg.callKey ⟨msg, rfl⟩
  | take callId => table.erase callId

theorem lookup_next_of_ne {table : AList StoredInvite} {op : InviteOp} {other : CallId}
    (different : op.key ≠ other) : (next table op).lookup other = table.lookup other := by
  cases op with
  | store msg => exact lookup_insert_ne (Ne.symm different)
  | take callId => exact lookup_erase_ne (Ne.symm different)

end InviteOp

/-- Apply an update to the entry of one key, if there is one. -/
def modifyEntry {V : Type} (table : AList fun _ : CallId => V) (callId : CallId) (update : V → V) :
    AList fun _ : CallId => V :=
  match table.lookup callId with
  | some value => table.insert callId (update value)
  | none => table

theorem lookup_modifyEntry {V : Type} (table : AList fun _ : CallId => V) (callId : CallId)
    (update : V → V) :
    (modifyEntry table callId update).lookup callId = (table.lookup callId).map update := by
  unfold modifyEntry
  split
  · next value found => rw [lookup_insert, found, Option.map_some]
  · next absent => rw [absent, Option.map_none]

theorem lookup_modifyEntry_of_ne {V : Type} {table : AList fun _ : CallId => V}
    {callId other : CallId} {update : V → V} (different : callId ≠ other) :
    (modifyEntry table callId update).lookup other = table.lookup other := by
  unfold modifyEntry
  split
  · exact lookup_insert_ne (Ne.symm different)
  · rfl

namespace WebRtcOp

/-- The key of a section. -/
@[simp] def key : WebRtcOp → CallId
  | get callId => callId
  | insert callId _ => callId
  | remove callId => callId
  | setPeer callId _ => callId
  | setVideoPeer callId _ => callId

/-- The sessions after a section; each section returns the session found before it. -/
def next (table : AList fun _ : CallId => WebRtcSession) :
    WebRtcOp → AList fun _ : CallId => WebRtcSession
  | get _ => table
  | insert callId session => AList.insert callId session table
  | remove callId => table.erase callId
  | setPeer callId addr =>
    modifyEntry table callId fun session => { session with sipPeer := some addr }
  | setVideoPeer callId addr =>
    modifyEntry table callId fun session =>
      if session.video then { session with sipVideoPeer := some addr } else session

theorem lookup_next_of_ne {table : AList fun _ : CallId => WebRtcSession} {op : WebRtcOp}
    {other : CallId} (different : op.key ≠ other) :
    (next table op).lookup other = table.lookup other := by
  cases op with
  | get callId => rfl
  | insert callId session => exact lookup_insert_ne (Ne.symm different)
  | remove callId => exact lookup_erase_ne (Ne.symm different)
  | setPeer callId addr => exact lookup_modifyEntry_of_ne different
  | setVideoPeer callId addr => exact lookup_modifyEntry_of_ne different

end WebRtcOp

namespace TimerOp

/-- The key of a section. -/
@[simp] def key : TimerOp → CallId
  | cancel callId => callId
  | cancelForCallerCancel callId => callId
  | claim callId => callId
  | shouldContinue callId => callId
  | finish callId => callId
  | arm callId _ => callId

/-- The answer of a section. -/
@[reducible] def Answer : TimerOp → Type
  | cancel _ | cancelForCallerCancel _ => TimerCancel
  | claim _ | shouldContinue _ => Bool
  | finish _ | arm _ _ => Unit

/-- What a section returns when it finds the entry. -/
def answer (entry : Option TimerEntry) : (op : TimerOp) → op.Answer
  | cancel _ =>
    match entry with
    | some (.ringing _) | some .canceled => TimerCancel.canceled
    | some .firing => TimerCancel.alreadyFired
    | none => TimerCancel.notFound
  | cancelForCallerCancel _ =>
    match entry with
    | some _ => TimerCancel.canceled
    | none => TimerCancel.notFound
  | claim _ =>
    match entry with
    | some (.ringing _) => true
    | _ => false
  | shouldContinue _ => decide (entry = some .firing)
  | finish _ => ()
  | arm _ _ => ()

/-- The entry a section leaves. -/
def entryAfter (entry : Option TimerEntry) : TimerOp → Option TimerEntry
  | cancel _ =>
    match entry with
    | some (.ringing _) => none
    | other => other
  | cancelForCallerCancel _ =>
    match entry with
    | some .firing => some .canceled
    | some (.ringing _) => none
    | other => other
  | claim _ =>
    match entry with
    | some (.ringing _) => some .firing
    | other => other
  | shouldContinue _ => entry
  | finish _ => none
  | arm _ handle => some (.ringing handle)

/-- The task a section aborts: the one whose ringing entry it takes away. -/
def aborts (entry : Option TimerEntry) : TimerOp → Option Handle
  | cancel _ | cancelForCallerCancel _ | arm _ _ =>
    match entry with
    | some (.ringing handle) => some handle
    | _ => none
  | claim _ | shouldContinue _ | finish _ => none

/-- The timers after a section. -/
def next (table : AList fun _ : CallId => TimerEntry) (op : TimerOp) :
    AList fun _ : CallId => TimerEntry :=
  match op.entryAfter (table.lookup op.key) with
  | some entry => AList.insert op.key entry table
  | none => table.erase op.key

theorem lookup_next_of_ne {table : AList fun _ : CallId => TimerEntry} {op : TimerOp}
    {other : CallId} (different : op.key ≠ other) :
    (next table op).lookup other = table.lookup other := by
  unfold next
  split
  · exact lookup_insert_ne (Ne.symm different)
  · exact lookup_erase_ne (Ne.symm different)

/-- A section leaves its own key with the entry after it. -/
theorem lookup_next (table : AList fun _ : CallId => TimerEntry) (op : TimerOp) :
    (next table op).lookup op.key = op.entryAfter (table.lookup op.key) := by
  unfold next
  split
  · next found => exact (lookup_insert table).trans found.symm
  · next found => exact (lookup_erase _ table).trans found.symm

theorem lookup_next_shouldContinue (table : AList fun _ : CallId => TimerEntry)
    (callId other : CallId) :
    (next table (.shouldContinue callId)).lookup other = table.lookup other := by
  by_cases same : callId = other
  · exact same ▸ lookup_next table (.shouldContinue callId)
  · exact lookup_next_of_ne same

end TimerOp

namespace RecordingOp

/-- The key of a section. -/
@[simp] def key : RecordingOp → CallId
  | track callId => callId
  | discard callId => callId
  | markCanceled callId => callId
  | shouldPersist callId => callId

/-- What a section returns: `track` and `markCanceled` tell whether they entered the
call, `shouldPersist` whether it was not marked. -/
def answer (recording canceled : Finset CallId) : RecordingOp → Bool
  | track callId => decide (callId ∉ recording)
  | discard _ => true
  | markCanceled callId => decide (callId ∈ recording)
  | shouldPersist callId => decide (callId ∉ canceled)

/-- The `recording` set after a section. -/
def nextRecording (recording : Finset CallId) : RecordingOp → Finset CallId
  | track callId => insert callId recording
  | discard callId | shouldPersist callId => recording.erase callId
  | markCanceled _ => recording

/-- The `canceled` set after a section. -/
def nextCanceled (recording canceled : Finset CallId) : RecordingOp → Finset CallId
  | track _ => canceled
  | discard callId | shouldPersist callId => canceled.erase callId
  | markCanceled callId => if callId ∈ recording then insert callId canceled else canceled

variable {op : RecordingOp} {other : CallId}

/-- A section leaves every other call in the `recording` set or out of it. -/
theorem mem_nextRecording_of_ne {recording : Finset CallId} (different : op.key ≠ other) :
    other ∈ op.nextRecording recording ↔ other ∈ recording := by
  have apart := Ne.symm different
  cases op <;> simp_all [nextRecording, key]

/-- A section leaves every other call in the `canceled` set or out of it. -/
theorem mem_nextCanceled_of_ne {recording canceled : Finset CallId} (different : op.key ≠ other) :
    other ∈ op.nextCanceled recording canceled ↔ other ∈ canceled := by
  have apart := Ne.symm different
  cases op with
  | markCanceled callId =>
    simp only [nextCanceled]
    split <;> simp_all [key]
  | _ => simp_all [nextCanceled, key]

end RecordingOp

namespace AccessOp

/-- The key of a section. -/
@[simp] def key : AccessOp → CallId
  | track callId => callId
  | discard callId => callId

/-- Whether `track` entered the call. -/
def answer (pending : Finset CallId) : AccessOp → Bool
  | track callId => decide (callId ∉ pending)
  | discard _ => true

/-- The set after a section. -/
def next (pending : Finset CallId) : AccessOp → Finset CallId
  | track callId => insert callId pending
  | discard callId => pending.erase callId

theorem mem_next_of_ne {pending : Finset CallId} {op : AccessOp} {other : CallId}
    (different : op.key ≠ other) : other ∈ op.next pending ↔ other ∈ pending := by
  have apart := Ne.symm different
  cases op <;> simp_all [next, key]

end AccessOp

namespace VoicemailMode

/-- Change the playback position. -/
def setIndex (index : Nat) : VoicemailMode → VoicemailMode
  | playback mailbox boxId messages _ => playback mailbox boxId messages index
  | mode => mode

/-- Remove a message and keep the position inside the list. -/
def removeMessage (index : Nat) : VoicemailMode → VoicemailMode
  | playback mailbox boxId messages currentIndex =>
    let left := messages.eraseIdx index
    playback mailbox boxId left
      (if currentIndex ≥ left.length ∧ left ≠ [] then left.length - 1 else currentIndex)
  | mode => mode

/-- Whether removing a message is inside the list. Outside it `Vec::remove` panics. -/
def removable (index : Nat) : VoicemailMode → Bool
  | playback _ _ messages _ => decide (index < messages.length)
  | _ => true

/-- Mark a message saved. -/
def markSaved (index : Nat) : VoicemailMode → VoicemailMode
  | playback mailbox boxId messages currentIndex =>
    playback mailbox boxId
      (messages.modify index fun message => { message with status := "saved".toList })
      currentIndex
  | mode => mode

end VoicemailMode

namespace VoicemailCallOp

/-- The key of a section. -/
@[simp] def key : VoicemailCallOp → CallId
  | get callId => callId
  | insert callId _ => callId
  | remove callId => callId
  | setIndex callId _ => callId
  | removeMessage callId _ => callId
  | markSaved callId _ => callId
  | unlock callId _ _ _ => callId
  | clearPin callId => callId
  | pushPin callId _ => callId

/-- Whether a section runs through on the call it finds. -/
def runs (call : Option VoicemailCall) : VoicemailCallOp → Bool
  | removeMessage _ index => call.all fun call => call.mode.removable index
  | _ => true

/-- The calls after a section; each section returns the call found before it. -/
def next (table : AList fun _ : CallId => VoicemailCall) :
    VoicemailCallOp → AList fun _ : CallId => VoicemailCall
  | get _ => table
  | insert callId call => AList.insert callId call table
  | remove callId => table.erase callId
  | setIndex callId index =>
    modifyEntry table callId fun call => { call with mode := call.mode.setIndex index }
  | removeMessage callId index =>
    modifyEntry table callId fun call => { call with mode := call.mode.removeMessage index }
  | markSaved callId index =>
    modifyEntry table callId fun call => { call with mode := call.mode.markSaved index }
  | unlock callId mailbox boxId messages =>
    modifyEntry table callId fun call =>
      { call with mode := .playback mailbox boxId messages 0, pinBuffer := [] }
  | clearPin callId => modifyEntry table callId fun call => { call with pinBuffer := [] }
  | pushPin callId digit =>
    modifyEntry table callId fun call => { call with pinBuffer := call.pinBuffer ++ [digit] }

theorem lookup_next_of_ne {table : AList fun _ : CallId => VoicemailCall} {op : VoicemailCallOp}
    {other : CallId} (different : op.key ≠ other) :
    (next table op).lookup other = table.lookup other := by
  cases op with
  | get callId => rfl
  | insert callId call => exact lookup_insert_ne (Ne.symm different)
  | remove callId => exact lookup_erase_ne (Ne.symm different)
  | _ => exact lookup_modifyEntry_of_ne different

/-- The call of its key after a section. -/
def entryAfter (call : Option VoicemailCall) : VoicemailCallOp → Option VoicemailCall
  | get _ => call
  | insert _ entered => some entered
  | remove _ => none
  | setIndex _ index => call.map fun call => { call with mode := call.mode.setIndex index }
  | removeMessage _ index => call.map fun call => { call with mode := call.mode.removeMessage index }
  | markSaved _ index => call.map fun call => { call with mode := call.mode.markSaved index }
  | unlock _ mailbox boxId messages =>
    call.map fun call => { call with mode := .playback mailbox boxId messages 0, pinBuffer := [] }
  | clearPin _ => call.map fun call => { call with pinBuffer := [] }
  | pushPin _ digit => call.map fun call => { call with pinBuffer := call.pinBuffer ++ [digit] }

theorem lookup_next (table : AList fun _ : CallId => VoicemailCall) (op : VoicemailCallOp) :
    (next table op).lookup op.key = op.entryAfter (table.lookup op.key) := by
  cases op with
  | get callId => rfl
  | insert callId call => exact lookup_insert _
  | remove callId => exact lookup_erase callId _
  | _ => exact lookup_modifyEntry _ _ _

end VoicemailCallOp

namespace RegistryOp

/-- The key of a section. -/
@[simp] def key : RegistryOp → CallId
  | get callId => callId
  | allocate callId _ => callId
  | remove callId => callId

/-- The registry after a section; each returns the session found before it, and
`allocate` keeps that one. -/
def next (table : AList fun _ : CallId => VoicemailSession) :
    RegistryOp → AList fun _ : CallId => VoicemailSession
  | get _ => table
  | allocate callId session =>
    if (table.lookup callId).isSome then table else AList.insert callId session table
  | remove callId => table.erase callId

variable {table : AList fun _ : CallId => VoicemailSession} {op : RegistryOp}

theorem lookup_next_of_ne {other : CallId} (different : op.key ≠ other) :
    (next table op).lookup other = table.lookup other := by
  cases op with
  | get callId => rfl
  | allocate callId session =>
    simp only [next]
    split
    · rfl
    · exact lookup_insert_ne (Ne.symm different)
  | remove callId => exact lookup_erase_ne (Ne.symm different)

theorem isSome_lookup_next {callId : CallId} (kept : op ≠ remove callId)
    (live : (table.lookup callId).isSome = true) :
    ((next table op).lookup callId).isSome = true := by
  by_cases own : op.key = callId
  · subst own
    cases op with
    | get callId => exact live
    | allocate callId session => rwa [next, if_pos (by exact live)]
    | remove callId => exact absurd rfl kept
  · rwa [lookup_next_of_ne own]

theorem isSome_lookup_next_allocate (table : AList fun _ : CallId => VoicemailSession)
    (callId : CallId) (session : VoicemailSession) :
    ((next table (allocate callId session)).lookup callId).isSome = true := by
  simp only [next]
  split
  · next found => exact found
  · rw [lookup_insert]
    rfl

end RegistryOp

/-- `STAR6_TIMEOUT` in nanoseconds. -/
def star6Timeout : Nat := 3000000000

/-- `Participant::record_dtmf`: the new mute state when `*` and then `6` came in time. -/
def Participant.recordDtmf (participant : Participant) (event now : Nat) :
    Option Bool × Participant :=
  let recentStar := participant.lastDigit.any fun last =>
    decide (last.1 = 10 ∧ now - last.2 < star6Timeout)
  if recentStar ∧ event = 6 then
    (some (!participant.muted),
      { participant with lastDigit := none, muted := !participant.muted })
  else (none, { participant with lastDigit := some (event, now) })

namespace RoomOp

/-- The key of a section. -/
@[simp] def key : RoomOp → CallId
  | join _ callId _ => callId
  | leave _ callId => callId
  | recordDtmf _ callId _ _ => callId

/-- What a section returns: a changed mute state. -/
def answer (rooms : AList fun _ : Nat => Room) : RoomOp → Option Bool
  | join _ _ _ | leave _ _ => none
  | recordDtmf room callId event now =>
    ((members rooms room).lookup callId).bind fun participant =>
      (participant.recordDtmf event now).1

/-- The rooms after a section. The last one to leave closes the room. -/
def next (rooms : AList fun _ : Nat => Room) : RoomOp → AList fun _ : Nat => Room
  | join room callId participant =>
    rooms.insert room ((members rooms room).insert callId participant)
  | leave room callId =>
    let left := (members rooms room).erase callId
    if left.entries = [] then rooms.erase room else rooms.insert room left
  | recordDtmf room callId event now =>
    match (members rooms room).lookup callId with
    | some participant =>
      rooms.insert room
        ((members rooms room).insert callId (participant.recordDtmf event now).2)
    | none => rooms

/-- The members of a room after it is replaced or closed. -/
theorem members_insert (rooms : AList fun _ : Nat => Room) (room other : Nat) (left : Room) :
    members (rooms.insert room left) other = if other = room then left else members rooms other := by
  by_cases same : other = room
  · subst same
    simp [members]
  · simp [members, same, lookup_insert_ne same]

theorem members_erase (rooms : AList fun _ : Nat => Room) (room other : Nat) :
    members (rooms.erase room) other = if other = room then ∅ else members rooms other := by
  by_cases same : other = room
  · subst same
    simp [members]
  · simp [members, same, lookup_erase_ne same]

/-- A section leaves every other call in every room alone. -/
theorem lookup_next_of_ne {rooms : AList fun _ : Nat => Room} {op : RoomOp} {other : CallId}
    (different : op.key ≠ other) (room : Nat) :
    (members (op.next rooms) room).lookup other = (members rooms room).lookup other := by
  have apart := Ne.symm different
  cases op with
  | join target callId participant =>
    simp only [next, members_insert]
    split
    · next same => exact (lookup_insert_ne apart).trans (by rw [same])
    · rfl
  | leave target callId =>
    have kept : ((members rooms target).erase callId).lookup other =
        (members rooms target).lookup other := lookup_erase_ne apart
    simp only [next]
    split
    · next empty =>
        have none_left : (members rooms target).erase callId = ∅ := ext empty
        rw [members_erase]
        split
        · next same => rw [same, ← kept, none_left]
        · rfl
    · rw [members_insert]
      split
      · next same => rw [same, kept]
      · rfl
  | recordDtmf target callId event now =>
    simp only [next]
    split
    · rw [members_insert]
      split
      · next same => exact (lookup_insert_ne apart).trans (by rw [same])
      · rfl
    · rfl

end RoomOp

end Sip3
