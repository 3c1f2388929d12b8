import Sip3.Server.Proxy
import Sip3.Server.VoicemailMenu
import Sip3.Server.Conference
import Sip3.Server.Registrar

/-!
# Message handling

`handler.rs`: what a received message leads to. Responses are relayed to the
caller of their call, busy responses are offered to voicemail first, and requests
go to the endpoint that owns their Call-ID or else to the proxy.
-/

namespace Sip3.Handler

open Text Semantics Sip3.Action

variable (server : Server)

/-- The states of a call that end with it in `relay_response` and
`handle_busy_to_voicemail`. -/
def removeCall (callId : CallId) : Action Unit := do
  let _ ← removePending callId
  let _ ← removeDialog callId
  let _ ← removeMedia callId
  let _ ← webrtc (.remove callId)
  return ()

/-- Pass the SIP side of an answer to the WebRTC session it belongs to. -/
def applyAnswer (callId : CallId) (body : Str) (session : Option WebRtcSession) : Action Unit :=
  if session.any (·.sipCaller) then do
    match ← webrtc (.get callId) with
    | some found =>
      if found.sipCaller then
        let _ ← ask (.webrtcApplyAnswer callId body)
        return ()
      else return ()
    | none => return ()
  else
    match Sdp.rtpAddr server.platform body with
    | none => return ()
    | some addr => do
        let _ ← webrtc (.setPeer callId addr)
        Proxy.setVideoPeer server callId body

/-- The text relayed to the caller: without this proxy's Via, and with the session
description of the caller's side. -/
def relayedText (msg : SipMessage) (callId : CallId) : Action Str :=
  let relayed := stripProxyVia server.platform msg.raw server.cfg.sipDomain
  if Sdp.isInvite200OkWithSdp server.platform msg then do
    match ← webrtc (.get callId) with
    | some session =>
      let again ← webrtc (.get callId)
      applyAnswer server callId msg.body again
      return Sdp.rewriteContentLength server.platform relayed session.answerSdp
    | none =>
      match ← getMedia callId with
      | some session =>
        return Sdp.rewriteContentLength server.platform relayed
          (Sdp.rewriteMedia msg.body server.cfg.publicIp session.callerSdpPorts)
      | none => return relayed
  else return relayed

/-- Whether a response is final. -/
def isFinal (msg : SipMessage) : Bool :=
  msg.statusCode.any (· ≥ 200)

/-- Whether a response is final and not successful. -/
def isFailure (msg : SipMessage) : Bool :=
  msg.statusCode.any (· ≥ 300)

/-- The end of `relay_response` after the send. -/
def releaseRelayed (msg : SipMessage) (callId : CallId) : Action Unit :=
  if isFinal msg then do
    let _ ← removePending callId
    if isFailure msg then
      let _ ← removeMedia callId
      let _ ← webrtc (.remove callId)
      return ()
    else return ()
  else return ()

/-- Relay a response to the caller found under its Call-ID. -/
def relayToCaller (msg : SipMessage) (callId : CallId) : Action Unit := do
  match ← getPending callId with
  | none => return ()
  | some addr =>
    let text ← relayedText server msg callId
    let _ ← send (.relay callId msg.statusCode) addr text
    releaseRelayed msg callId

/-- `relay_response`. -/
def relayResponse (msg : SipMessage) : Action Unit :=
  match msg.callId with
  | none => return ()
  | some callId =>
    if isFinal msg then do
      let timer ← cancelNoAnswerTimer callId
      if timer = .alreadyFired then removeCall callId else relayToCaller server msg callId
    else relayToCaller server msg callId

/-- The part of `handle_busy_to_voicemail` after the callee is found to have a mailbox. -/
def divertBusy (callId : CallId) (callee : Str) : Action (Option Str) := do
  match ← takeInvite callId with
  | none => return none
  | some invite =>
    let _ ← cancelNoAnswerTimer callId
    removeCall callId
    match ← getPending callId with
    | none => return none
    | some _ =>
      match ← Voicemail.handleDeliveryInvite server invite.1 callee with
      | .ok response => return some response
      | .error _ => return none

/-- `handle_busy_to_voicemail`. -/
def handleBusyToVoicemail (msg : SipMessage) : Action (Option Str) :=
  match msg.callId, headerUser msg.toHeader with
  | some callId, some callee => do
      match ← Voicemail.lookupEnabledBox callee server.cfg.sipDomain with
      | none => return none
      | some _ => divertBusy server callId callee
  | _, _ => return none

/-- Whether a response is one of those offered to voicemail. -/
def isBusy (msg : SipMessage) : Bool :=
  msg.statusCode = some 486 || msg.statusCode = some 600 || msg.statusCode = some 603

theorem isFinal_of_isBusy {msg : SipMessage} (busy : isBusy msg = true) : isFinal msg = true := by
  simp only [isBusy, Bool.or_eq_true, decide_eq_true_eq] at busy
  rcases busy with (code | code) | code <;> simp [isFinal, code]

/-- The responses of the callee in `process_sip_msg`. -/
def processResponse (msg : SipMessage) : Action (Option Str) := do
  if isBusy msg then
    match ← handleBusyToVoicemail server msg with
    | some response => return some response
    | none =>
      relayResponse server msg
      return none
  else
    relayResponse server msg
    return none

/-- `handle_options`. -/
def handleOptions (msg : SipMessage) : Str :=
  (((baseResponse msg 200 "OK".toList).header "Allow".toList sipAllowMethods).header
    "Accept".toList "application/sdp, text/plain".toList).build

/-- The answer to a method the server does not know. -/
def methodNotAllowed (msg : SipMessage) : Str :=
  ((baseResponse msg 405 "Method Not Allowed".toList).header "Allow".toList sipAllowMethods).build

/-- The request methods `process_sip_msg` tells apart. -/
inductive Method where
  | register
  | invite
  | options
  | info
  | message
  | refer
  | notify
  | subscribe
  | ack
  | bye
  | cancel
  | other
  deriving DecidableEq

/-- The method a request line names. -/
def Method.ofText (text : Str) : Method :=
  if text = "REGISTER".toList then .register
  else if text = "INVITE".toList then .invite
  else if text = "OPTIONS".toList then .options
  else if text = "INFO".toList then .info
  else if text = "MESSAGE".toList then .message
  else if text = "REFER".toList then .refer
  else if text = "NOTIFY".toList then .notify
  else if text = "SUBSCRIBE".toList then .subscribe
  else if text = "ACK".toList then .ack
  else if text = "BYE".toList then .bye
  else if text = "CANCEL".toList then .cancel
  else .other

/-- Answer with what a handler returns. -/
def finish (msg : SipMessage) (handler : Action (Fallible Str)) : Action (Option Str) := do
  let result ← handler
  return finalizeResponse msg result

/-- The generic routing at the end of `process_sip_msg`. -/
def routeToProxy (msg : SipMessage) (src : SocketAddr) : Method → Action (Option Str)
  | .register => finish msg (Registrar.handleRegister server msg src)
  | .invite => finish msg (Proxy.handleInvite server msg src)
  | .options => return some (handleOptions msg)
  | .info => finish msg (Proxy.handleInfo msg src)
  | .message => finish msg (Proxy.handleMessage server msg src)
  | .refer => finish msg (Proxy.handleRefer msg src)
  | .notify => finish msg (Proxy.handleNotify msg src)
  | .subscribe => finish msg (Presence.handleSubscribe server msg src)
  | .ack => do
      let _ ← Proxy.handleAck server msg
      return none
  | .bye => finish msg (Proxy.handleBye server msg src)
  | .cancel => finish msg (Proxy.handleCancel server msg)
  | .other => return some (methodNotAllowed msg)

/-- The conference routing of requests other than INVITE. -/
def routeConference (msg : SipMessage) (src : SocketAddr) (method : Method) (isConference : Bool) :
    Action (Option Str) :=
  if isConference then
    match method with
    | .ack => return none
    | .bye => finish msg (Conference.handleBye msg)
    | .cancel => finish msg (Conference.handleCancel msg)
    | .info => finish msg (Conference.handleInfo server msg)
    | _ => routeToProxy server msg src method
  else routeToProxy server msg src method

/-- The routing of an INVITE that is not for the voicemail extension. -/
def routeInvite (msg : SipMessage) (src : SocketAddr) : Action (Option Str) := do
  let target := (uriUsername (msg.requestUri.getD [])).getD []
  match ← Conference.lookupRoom target server.cfg.sipDomain with
  | some (roomId, maxParticipants) =>
    finish msg (Conference.handleInvite server msg src roomId maxParticipants)
  | none => routeToProxy server msg src .invite

/-- The routing after voicemail: the conference map is asked for a Call-ID that is there. -/
def routeAfterVoicemail (msg : SipMessage) (src : SocketAddr) (method : Method) :
    Action (Option Str) :=
  if msg.callKey = [] then continueWith false
  else do
    let found ← getConference msg.callKey
    continueWith found.isSome
where
  continueWith (isConference : Bool) : Action (Option Str) :=
    if method = .invite then routeInvite server msg src
    else routeConference server msg src method isConference

/-- The voicemail routing: requests of a voicemail call. -/
def routeVoicemail (msg : SipMessage) (src : SocketAddr) (method : Method) (isVoicemail : Bool) :
    Action (Option Str) :=
  if isVoicemail then
    match method with
    | .ack => do
        Voicemail.handleAck msg
        return none
    | .bye => finish msg (Voicemail.handleBye msg)
    | .cancel => finish msg (Voicemail.handleCancel msg)
    | .info => finish msg (Voicemail.handleInfo server msg)
    | _ => routeAfterVoicemail server msg src method
  else routeAfterVoicemail server msg src method

/-- The requests that are routed before the Call-ID is looked at. -/
def routeRequest (msg : SipMessage) (src : SocketAddr) (method : Method) (isVoicemail : Bool) :
    Action (Option Str) :=
  if method = .subscribe ∧ Voicemail.isMessageSummaryEvent (msg.value "event".toList) then
    finish msg (Mwi.handleSubscribe server msg src)
  else if method = .invite ∧ Voicemail.isAccessInvite server msg then
    finish msg (Voicemail.handleAccessInvite server msg src)
  else routeVoicemail server msg src method isVoicemail

/-- The requests in `process_sip_msg`. -/
def processRequest (msg : SipMessage) (src : SocketAddr) (method : Method) :
    Action (Option Str) :=
  if msg.callKey = [] then routeRequest server msg src method false
  else do
    let found ← getVoicemailCall msg.callKey
    routeRequest server msg src method found.isSome

/-- `process_sip_msg` of a parsed message. -/
def processMsg (msg : SipMessage) (src : SocketAddr) : Action (Option Str) :=
  match msg.method with
  | none => processResponse server msg
  | some method => processRequest server msg src (.ofText method)

/-- `process_sip_msg`, and the send of its answer to where the message came from. -/
def handleText (raw : Str) (src : SocketAddr) : Action Unit :=
  match SipMessage.parse server.platform raw with
  | .error _ => return ()
  | .ok msg => do
      match ← processMsg server msg src with
      | none => return ()
      | some response =>
        let _ ← send (.reply msg.callKey) src response
        return ()

end Sip3.Handler
