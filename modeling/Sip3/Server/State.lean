import Sip3.Response
import Sip3.Media.Offer
import Sip3.Semantics.Table
import Mathlib.Data.Finset.Basic

/-!
# The shared state of the server

The collections the SIP handler shares between tasks, each behind its own mutex.
All of them are keyed by Call-ID, the room map by room and Call-ID. A stored
INVITE carries the proof that it is stored under its own Call-ID.
-/

namespace Sip3

open Text

/-- A Call-ID; the empty text stands for a missing one. -/
abbrev CallId := Str

/-- The key under which a message's call is stored. -/
def SipMessage.callKey (msg : SipMessage) : CallId :=
  msg.callId.getD []

/-- `DialogInfo`. -/
structure DialogInfo where
  callerAddr : SocketAddr
  calleeAddr : SocketAddr
  callerIsStream : Bool
  calleeIsStream : Bool
  deriving DecidableEq

/-- One relayed media stream of `MediaSession`. -/
structure MediaStream where
  kind : SdpMediaKind
  mediaIndex : Nat
  relayPortA : Nat
  relayPortB : Nat
  deriving DecidableEq

/-- `MediaSession` of the media relay. -/
structure MediaSession where
  streams : List MediaStream
  deriving DecidableEq

/-- `MediaSession::callee_sdp_ports`, written into the forwarded offer. -/
def MediaSession.calleeSdpPorts (session : MediaSession) : List (Nat × Nat) :=
  session.streams.map fun stream => (stream.mediaIndex, stream.relayPortA)

/-- `MediaSession::caller_sdp_ports`, written into the relayed answer. -/
def MediaSession.callerSdpPorts (session : MediaSession) : List (Nat × Nat) :=
  session.streams.map fun stream => (stream.mediaIndex, stream.relayPortB)

/-- What the handlers use of a `WebRtcSession`. -/
structure WebRtcSession where
  sipCaller : Bool
  video : Bool
  answerSdp : Str
  sipPeer : Option SocketAddr
  sipVideoPeer : Option SocketAddr
  deriving DecidableEq

/-- The columns of a stored voicemail message that the access menu uses. -/
structure VoicemailMessage where
  id : Nat
  storageKey : Str
  status : Str
  deriving DecidableEq

/-- `MailboxSettings`. -/
structure MailboxSettings where
  id : Nat
  username : Str
  domain : Str
  noAnswerSecs : Nat
  maxMessageSecs : Nat
  maxMessages : Nat
  greetingStorageKey : Option Str
  pinHash : Option Str
  deriving DecidableEq

/-- `VoicemailMode`. -/
inductive VoicemailMode where
  | pinEntry (boxId : Nat) (mailbox : Str)
  | recording (boxId : Nat) (mailbox : Str)
  | playback (mailbox : Str) (boxId : Nat) (messages : List VoicemailMessage) (currentIndex : Nat)
  deriving DecidableEq

/-- `VoicemailCall`. -/
structure VoicemailCall where
  mode : VoicemailMode
  caller : Str
  callee : Str
  pinBuffer : Str
  deriving DecidableEq

/-- The handle of a spawned task. -/
abbrev Handle := Nat

/-- `NoAnswerTimerEntry`. -/
inductive TimerEntry where
  | ringing (handle : Handle)
  | firing
  | canceled
  deriving DecidableEq

/-- `NoAnswerTimerCancel`. -/
inductive TimerCancel where
  | canceled
  | alreadyFired
  | notFound
  deriving DecidableEq

/-- A session of the voicemail media registry. -/
structure VoicemailSession where
  port : Nat
  codec : Codec
  audioPt : Nat
  telephoneEventPt : Option Nat
  deriving DecidableEq

/-- `ConferenceCall`. -/
structure ConferenceCall where
  roomId : Nat
  extension : Str
  domain : Str
  callerAccount : Str
  toTag : Str
  participantDbId : Option Nat
  deriving DecidableEq

/-- What SIP handling uses of a conference `Participant`: the `*6` state is the
last digit with its time in nanoseconds. -/
structure Participant where
  relayPort : Nat
  codec : Codec
  audioPt : Nat
  telephoneEventPt : Option Nat
  muted : Bool
  lastDigit : Option (Nat × Nat)
  deriving DecidableEq

/-- The identity of a participant: which allocation it is. -/
abbrev ParticipantId := Nat

/-- A conference room's participants. -/
abbrev Room := AList fun _ : CallId => Participant

/-- The INVITE of a call, stored under that call's key. -/
abbrev StoredInvite (callId : CallId) := { msg : SipMessage // msg.callKey = callId }

/-- Everything the tasks of the server share. -/
structure ServerState where
  pendingDialogs : AList fun _ : CallId => SocketAddr
  pendingInvites : AList StoredInvite
  activeDialogs : AList fun _ : CallId => DialogInfo
  mediaSessions : AList fun _ : CallId => MediaSession
  webrtcSessions : AList fun _ : CallId => WebRtcSession
  voicemailActive : AList fun _ : CallId => VoicemailCall
  noAnswer : AList fun _ : CallId => TimerEntry
  recording : Finset CallId
  canceled : Finset CallId
  accessPending : Finset CallId
  voicemailMedia : AList fun _ : CallId => VoicemailSession
  conferenceActive : AList fun _ : CallId => ConferenceCall
  rooms : AList fun _ : Nat => Room
  nextHandle : Handle
  aborted : Finset Handle

/-- The server before its first message. -/
def ServerState.initial : ServerState where
  pendingDialogs := ∅
  pendingInvites := ∅
  activeDialogs := ∅
  mediaSessions := ∅
  webrtcSessions := ∅
  voicemailActive := ∅
  noAnswer := ∅
  recording := ∅
  canceled := ∅
  accessPending := ∅
  voicemailMedia := ∅
  conferenceActive := ∅
  rooms := ∅
  nextHandle := 0
  aborted := ∅

/-- The members of a room; a room that is not open has none. -/
def members (rooms : AList fun _ : Nat => Room) (room : Nat) : Room :=
  (rooms.lookup room).getD ∅

/-- Everything stored under one Call-ID. -/
structure CallEntries (callId : CallId) where
  pendingDialog : Option SocketAddr
  pendingInvite : Option (StoredInvite callId)
  activeDialog : Option DialogInfo
  mediaSession : Option MediaSession
  webrtcSession : Option WebRtcSession
  voicemailCall : Option VoicemailCall
  timer : Option TimerEntry
  recording : Bool
  canceled : Bool
  accessPending : Bool
  voicemailMedia : Option VoicemailSession
  conferenceCall : Option ConferenceCall
  participant : Nat → Option Participant

/-- The entries of one call. -/
def ServerState.entries (state : ServerState) (callId : CallId) : CallEntries callId where
  pendingDialog := state.pendingDialogs.lookup callId
  pendingInvite := state.pendingInvites.lookup callId
  activeDialog := state.activeDialogs.lookup callId
  mediaSession := state.mediaSessions.lookup callId
  webrtcSession := state.webrtcSessions.lookup callId
  voicemailCall := state.voicemailActive.lookup callId
  timer := state.noAnswer.lookup callId
  recording := decide (callId ∈ state.recording)
  canceled := decide (callId ∈ state.canceled)
  accessPending := decide (callId ∈ state.accessPending)
  voicemailMedia := state.voicemailMedia.lookup callId
  conferenceCall := state.conferenceActive.lookup callId
  participant room := (members state.rooms room).lookup callId

end Sip3
