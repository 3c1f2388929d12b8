import Sip3.Server.Handler
import Sip3.Semantics.Outline

/-!
# The running server

The tasks of the server as a system of interleaved programs. A message task runs
the handler on the received text; the periodic cleanup is one task for each
session it removes, and for each statement it makes.
-/

namespace Sip3

open Text Semantics Sip3.Action

/-- What a task runs. -/
def Task.body (server : Server) : Task → Action Unit
  | .datagram data src => Handler.handleText server (fromUtf8Lossy data) src
  | .stream raw src => Handler.handleText server raw src
  | .noAnswerTimer timer => Voicemail.noAnswerTimer server timer
  | .recording start => Voicemail.recordingTask server start
  | .playWav callId storageKey => Voicemail.playWav callId storageKey
  | .notifyMailbox username domain => do
      let _ ← Mwi.notifyMailbox server username domain
      return ()
  | .staleMedia callId => do
      let _ ← removeMedia callId
      return ()
  | .staleWebRtc callId => do
      let _ ← webrtc (.remove callId)
      return ()
  | .cleanUp sweep =>
    if sweep.enabled then do
      let _ ← query (.cleanUp sweep)
      return ()
    else return ()

/-- The task a step starts. -/
def Op.spawned : Op → Option Task
  | .spawn task => some task
  | _ => none

/-- The server as a system. -/
abbrev Server.system (server : Server) : System signature where
  Shared := ServerState
  Task := Task
  body := Task.body server
  Perform := Op.Perform
  spawned := Op.spawned

/-- The message a task handles. -/
def Task.message (server : Server) : Task → Option SipMessage
  | .datagram data _ => (SipMessage.parse server.platform (fromUtf8Lossy data)).toOption
  | .stream raw _ => (SipMessage.parse server.platform raw).toOption
  | _ => none

/-- The address a message task received its message from. -/
def Task.source : Task → Option SocketAddr
  | .datagram _ src | .stream _ src => some src
  | _ => none

/-- The call a task works for. -/
def Task.call? (server : Server) (task : Task) : Option CallId :=
  task.callId?.or ((task.message server).map SipMessage.callKey)

/-- A configuration of the running server. -/
abbrev Server.Config (server : Server) := server.system.Config

/-- An answered step of the running server. -/
abbrev Server.Event (server : Server) := server.system.Event

/-- A run of the server: tasks arrive at any time, and their steps interleave in any order. -/
structure Server.Run (server : Server) where
  config : server.Config
  steps : System.Steps (.free server.system) ⟨.initial, [], []⟩ config

end Sip3
