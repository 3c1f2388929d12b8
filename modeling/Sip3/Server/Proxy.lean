import Sip3.Server.Voicemail

/-!
# The proxy

`proxy.rs`: calls between registered users. An accepted INVITE is entered into the
dialog maps and its media is set up before it is forwarded; the no-answer timer is
armed last.
-/

namespace Sip3.Proxy

open Text Semantics Sip3.Action

variable (server : Server)

/-- The other party of a dialog. -/
def otherParty (dialog : DialogInfo) (src : SocketAddr) : SocketAddr :=
  if src = dialog.callerAddr then dialog.calleeAddr else dialog.callerAddr

/-- `refresh_sender_registration_source`. -/
def refreshSenderRegistrationSource (username domain : Str) (src : SocketAddr) :
    Action (Fallible Unit) := do
  match ← query (.registrationSource username domain) with
  | .error error => return .error error
  | .ok none => return .ok ()
  | .ok (some (registeredIp, registeredPort)) =>
    if shouldRefreshRegistrationSource server.platform registeredIp registeredPort src then
      query (.refreshSourcePort src.port username domain registeredIp)
    else return .ok ()

/-- `reject_invalid_invite`. -/
def rejectInvalidInvite (msg : SipMessage) (src : SocketAddr) (caller : Option Str)
    (detail : Str) : Action (Fallible Str) := do
  let sourceIp := server.platform.ipText src.ip
  let blocked ← ask (.recordFailure .sipInvite sourceIp caller)
  let _ ← query (.securityEvent .sipInvite .inviteRejected sourceIp caller detail)
  if blocked ∧ server.cfg.persistAclBans then
    let _ ← query (.aclBan src.ip server.cfg.aclBanPriority
      "auto-ban: invalid sip invite abuse".toList)
    let _ ← query (.securityEvent .sipInvite .ipBlocked sourceIp caller
      "invite source blocked by threshold".toList)
    return .ok (plainResponse msg 403 "Forbidden")
  else return .ok (plainResponse msg 403 "Forbidden")

/-- `lookup_registered_target`. -/
def lookupRegisteredTarget (username domain : Str) : Action (Option SocketAddr) := do
  match ← query (.registrationSource username domain) with
  | .ok (some (ip, port)) => return server.platform.parseSocketAddr (Sdp.hostPort ip port)
  | _ => return none

/-- The sockets of `allocate_session_for_media`, one pair for each section. -/
def allocateStreams : List SdpMediaDescriptor → Action (Fallible (List MediaStream))
  | [] => return .ok []
  | descriptor :: rest => do
      match ← ask .bindPortPair with
      | .error error => return .error error
      | .ok (relayPortA, relayPortB) =>
        match ← allocateStreams rest with
        | .error error => return .error error
        | .ok streams =>
          return .ok (⟨descriptor.kind, descriptor.mediaIndex, relayPortA, relayPortB⟩ ::
            streams)

/-- `MediaRelay::allocate_session_for_media`. -/
def allocateSessionForMedia (callId : CallId) (media : List SdpMediaDescriptor) :
    Action (Fallible MediaSession) :=
  let activeMedia := media.filter (·.active)
  if activeMedia = [] then return .error .noActiveMedia
  else do
    match ← allocateStreams activeMedia with
    | .error error => return .error error
    | .ok streams =>
      let _ ← insertMedia callId ⟨streams⟩
      return .ok ⟨streams⟩

/-- `WebRtcGateway::prepare_session`: the SIP-side ports. Once there is a peer connection, the
names of the local tracks take the first eight bytes of the Call-ID. -/
def prepareWebRtcSession (callId : CallId) (withVideo : Bool) :
    Action (Fallible (Nat × Option Nat)) := do
  match ← ask .webrtcConnect with
  | .error error => return .error error
  | .ok _ =>
    match Str.slice callId 0 (min (Str.byteLength callId) 8) with
    | none => panic
    | some _ => ask (.webrtcPrepare callId withVideo)

/-- `WebRtcGateway::create_session`. -/
def createWebRtcSession (callId : CallId) (offer : Str) (withVideo : Bool) :
    Action (Fallible (Nat × Option Nat)) := do
  match ← prepareWebRtcSession callId withVideo with
  | .error error => return .error error
  | .ok (audioPort, videoPort) =>
    match ← ask (.webrtcNegotiate (some offer)) with
    | .error error => return .error error
    | .ok answerSdp =>
      let _ ← webrtc (.insert callId ⟨false, videoPort.isSome, answerSdp, none, none⟩)
      return .ok (audioPort, videoPort)

/-- `WebRtcGateway::create_session_for_sip_caller`: the offer for the browser. -/
def createWebRtcSessionForSipCaller (callId : CallId) (withVideo : Bool) :
    Action (Fallible Str) := do
  match ← prepareWebRtcSession callId withVideo with
  | .error error => return .error error
  | .ok (audioPort, videoPort) =>
    match ← ask (.webrtcNegotiate none) with
    | .error error => return .error error
    | .ok offerSdp =>
      let time ← ask .clock
      let _ ← webrtc (.insert callId ⟨true, videoPort.isSome,
        Sdp.makePlainRtp time server.cfg.publicIp audioPort videoPort, none, none⟩)
      return .ok offerSdp

/-- Tell the WebRTC session where the SIP side receives video. -/
def setVideoPeer (callId : CallId) (body : Str) : Action Unit :=
  match Sdp.videoAddr server.platform body with
  | none => return ()
  | some addr => do
      let _ ← webrtc (.setVideoPeer callId addr)
      return ()

/-- Tell the WebRTC session where the SIP side of an offer receives media. -/
def setOfferPeers (callId : CallId) (body : Str) : Action Unit :=
  match Sdp.rtpAddr server.platform body with
  | none => setVideoPeer server callId body
  | some addr => do
      let _ ← webrtc (.setPeer callId addr)
      setVideoPeer server callId body

/-- The media set-up of `handle_invite`: the body to forward, if it is rewritten. -/
def setUpMedia (msg : SipMessage) (contactUri : Str) (calleeIsStream : Bool) :
    Action (Option Str) :=
  let callId := msg.callKey
  let hasVideo := Sdp.hasActive .video msg.body
  if shouldPreserveWebRtcSdpForTarget server.platform contactUri msg.body then return none
  else if calleeIsStream ∧
      shouldBridgePlainSipToWebsocketTarget server.platform contactUri msg.body then do
    match ← createWebRtcSessionForSipCaller server callId hasVideo with
    | .error _ => return none
    | .ok offerSdp =>
      setOfferPeers server callId msg.body
      return some offerSdp
  else if msg.body ≠ [] ∧ Sdp.isWebRtc server.platform msg.body then do
    match ← createWebRtcSession callId msg.body hasVideo with
    | .error _ => return none
    | .ok (audioPort, videoPort) =>
      let time ← ask .clock
      return some (Sdp.makePlainRtp time server.cfg.publicIp audioPort videoPort)
  else
    let media := Sdp.parseMediaSections msg.body
    if msg.body = [] ∨ !media.any (·.active) then return none
    else do
      match ← allocateSessionForMedia callId media with
      | .error _ => return none
      | .ok session =>
        return some (Sdp.rewriteMedia msg.body server.cfg.publicIp session.calleeSdpPorts)

/-- The callee of an accepted INVITE. -/
structure Callee where
  name : Str
  contactUri : Str
  addr : SocketAddr
  mailbox : Option MailboxSettings

/-- The URI the callee is reached under. -/
def Callee.targetUri (callee : Callee) : Str :=
  registeredTargetUri server.platform callee.name callee.contactUri callee.addr

/-- Arm the no-answer timer of a callee with a mailbox, and answer 100. -/
def armAndAnswer (msg : SipMessage) (src : SocketAddr) (callee : Callee) :
    Action (Fallible Str) :=
  match callee.mailbox with
  | none => return .ok (plainResponse msg 100 "Trying")
  | some mailbox => do
      Voicemail.startNoAnswerTimer
        ⟨msg, src, callee.addr, callee.targetUri server, callee.name, mailbox.noAnswerSecs⟩
      return .ok (plainResponse msg 100 "Trying")

/-- The part of `handle_invite` that enters the call and forwards it. -/
def forwardInvite (msg : SipMessage) (src : SocketAddr) (callee : Callee)
    (callerIsStream calleeIsStream : Bool) : Action (Fallible Str) := do
  let callId := msg.callKey
  let _ ← insertPending callId src
  storeInvite msg
  let _ ← insertDialog callId ⟨src, callee.addr, callerIsStream, calleeIsStream⟩
  let rewrittenBody ← setUpMedia server msg callee.contactUri calleeIsStream
  if ← send (.forwardInvite callId) callee.addr
      (buildForwardedInviteForTarget server.platform msg (callee.targetUri server)
        (msg.maxForwards - 1) server.cfg.sipDomain rewrittenBody) then
    armAndAnswer server msg src callee
  else return .error .socket

/-- The part of `handle_invite` for a registered callee. -/
def inviteRegistered (msg : SipMessage) (src : SocketAddr) (caller callee contactUri : Str)
    (sourceIp : Str) (sourcePort : Nat) : Action (Fallible Str) := do
  let domain := server.cfg.sipDomain
  let mailbox ← Voicemail.lookupEnabledBox callee domain
  match server.platform.parseSocketAddr (Sdp.hostPort sourceIp sourcePort) with
  | none => return .error .addressSyntax
  | some targetAddr =>
    let callerIsStream ← ask (.streamRegistered src)
    let calleeIsStream ← ask (.streamRegistered targetAddr)
    let _ ← query (.recordCall msg.callKey (caller ++ '@' :: domain) (callee ++ '@' :: domain))
    forwardInvite server msg src ⟨callee, contactUri, targetAddr, mailbox⟩ callerIsStream
      calleeIsStream

/-- The part of `handle_invite` for a callee that is not registered. -/
def inviteUnregistered (msg : SipMessage) (callee : Str) : Action (Fallible Str) := do
  match ← Voicemail.lookupEnabledBox callee server.cfg.sipDomain with
  | some _ => Voicemail.handleDeliveryInvite server msg callee
  | none => return .ok (plainResponse msg 404 "Not Found")

/-- The part of `handle_invite` after the caller is accepted. -/
def inviteFrom (msg : SipMessage) (src : SocketAddr) (caller callee : Str) :
    Action (Fallible Str) := do
  let domain := server.cfg.sipDomain
  match ← refreshSenderRegistrationSource server caller domain src with
  | .error error => return .error error
  | .ok _ =>
    match ← query (.registrationContact callee domain) with
    | .error error => return .error error
    | .ok none => inviteUnregistered server msg callee
    | .ok (some (contactUri, sourceIp, sourcePort)) =>
      inviteRegistered server msg src caller callee contactUri sourceIp sourcePort

/-- `Proxy::handle_invite`. -/
def handleInvite (msg : SipMessage) (src : SocketAddr) : Action (Fallible Str) :=
  let callee := (uriUsername (msg.requestUri.getD [])).getD []
  let caller := (headerUser msg.fromHeader).getD "unknown".toList
  let domain := server.cfg.sipDomain
  if callee = [] then return .ok (plainResponse msg 400 "Bad Request")
  else if msg.maxForwards = 0 then return .ok (plainResponse msg 483 "Too Many Hops")
  else do
    if ← ask (.isBlocked .sipInvite (server.platform.ipText src.ip)) then
      return .ok (plainResponse msg 403 "Forbidden")
    else if caller = "unknown".toList then
      rejectInvalidInvite server msg src none "invite rejected: missing caller identity".toList
    else
      match ← query (.accountEnabled caller domain) with
      | .error error => return .error error
      | .ok false =>
        rejectInvalidInvite server msg src (some caller)
          ("invite rejected: unrecognised caller ".toList ++ caller ++ '@' :: domain)
      | .ok true => inviteFrom server msg src caller callee

/-- Forward a request to the registration of its request URI. -/
def forwardToRegistration (msg : SipMessage) : Action Unit :=
  let callee := (uriUsername (msg.requestUri.getD [])).getD []
  if callee = [] then return ()
  else do
    match ← lookupRegisteredTarget server callee server.cfg.sipDomain with
    | none => return ()
    | some target =>
      let _ ← send (.forward msg.callKey) target msg.raw
      return ()

/-- `Proxy::handle_ack`. -/
def handleAck (msg : SipMessage) : Action (Fallible Unit) := do
  let callId := msg.callKey
  let _ ← cancelNoAnswerTimer callId
  let _ ← query (.setCallStatus callId .answered)
  match ← getDialog callId with
  | some dialog =>
    let _ ← send (.forward callId) dialog.calleeAddr msg.raw
    return .ok ()
  | none =>
    forwardToRegistration server msg
    return .ok ()

/-- `Proxy::handle_bye`. -/
def handleBye (msg : SipMessage) (src : SocketAddr) : Action (Fallible Str) := do
  let callId := msg.callKey
  let _ ← cancelNoAnswerTimer callId
  let _ ← query (.setCallStatus callId .ended)
  let dialog ← removeDialog callId
  let _ ← removePending callId
  let _ ← removeMedia callId
  let _ ← webrtc (.remove callId)
  match dialog with
  | some dialog =>
    let _ ← send (.forward callId) (otherParty dialog src) msg.raw
    return .ok (plainResponse msg 200 "OK")
  | none =>
    forwardToRegistration server msg
    return .ok (plainResponse msg 200 "OK")

/-- The target URI of a forwarded CANCEL. -/
def cancelTargetUri (msg : SipMessage) (registered : Fallible (Option Str)) : Str :=
  let fallback := msg.requestUri.getD ("sip:".toList ++
    (uriUsername (msg.requestUri.getD [])).getD [] ++ '@' :: server.cfg.sipDomain)
  match registered with
  | .ok (some uri) => uri
  | _ => fallback

/-- Forward a CANCEL to the callee of the dialog, if there is one. -/
def forwardCancel (msg : SipMessage) : Option DialogInfo → Action Unit
  | none => return ()
  | some dialog => do
      let target := dialog.calleeAddr
      let registered ← query (.contactBySource (server.platform.ipText target.ip) target.port)
      let _ ← send (.forward msg.callKey) target
        (buildForwardedCancelForTarget server.platform msg (cancelTargetUri server msg registered)
          (msg.maxForwards - 1) server.cfg.sipDomain)
      return ()

/-- `Proxy::handle_cancel`. -/
def handleCancel (msg : SipMessage) : Action (Fallible Str) := do
  let callId := msg.callKey
  let _ ← cancelNoAnswerTimerForCallerCancel callId
  let _ ← query (.setCallStatus callId .cancelled)
  let dialog ← getDialog callId
  forwardCancel server msg dialog
  let _ ← removePending callId
  let _ ← removeDialog callId
  let _ ← removeMedia callId
  let _ ← webrtc (.remove callId)
  return .ok (plainResponse msg 200 "OK")

/-- Forward a request to the other party of its dialog, and answer by whether there is one. -/
def forwardInDialog (msg : SipMessage) (src : SocketAddr) (forwarded missing : Str) :
    Action (Fallible Str) := do
  match ← getDialog msg.callKey with
  | some dialog =>
    let _ ← send (.forward msg.callKey) (otherParty dialog src) msg.raw
    return .ok forwarded
  | none => return .ok missing

/-- `Proxy::handle_refer`. -/
def handleRefer (msg : SipMessage) (src : SocketAddr) : Action (Fallible Str) :=
  forwardInDialog msg src (plainResponse msg 202 "Accepted")
    (plainResponse msg 481 "Call/Transaction Does Not Exist")

/-- `Proxy::handle_notify`. -/
def handleNotify (msg : SipMessage) (src : SocketAddr) : Action (Fallible Str) :=
  forwardInDialog msg src (plainResponse msg 200 "OK") (plainResponse msg 200 "OK")

/-- `Proxy::handle_info`. -/
def handleInfo (msg : SipMessage) (src : SocketAddr) : Action (Fallible Str) :=
  forwardInDialog msg src (plainResponse msg 200 "OK") (plainResponse msg 200 "OK")

/-- The address a MESSAGE goes to: the other party of its dialog, or the callee's
registration. -/
def messageTarget (msg : SipMessage) (src : SocketAddr) (callee : Str) :
    Action (Option SocketAddr) :=
  let domain := server.cfg.sipDomain
  if msg.callKey = [] then lookupRegisteredTarget server callee domain
  else do
    match ← getDialog msg.callKey with
    | some dialog => return some (otherParty dialog src)
    | none => lookupRegisteredTarget server callee domain

/-- The part of `handle_message` after sender and callee are known. -/
def deliverMessage (msg : SipMessage) (src : SocketAddr) (sender callee : Str) :
    Action (Fallible Str) := do
  let domain := server.cfg.sipDomain
  let store (status : String) : Query :=
    .persistMessage msg (sender ++ '@' :: domain) (callee ++ '@' :: domain) status.toList
      (server.platform.ipText src.ip)
  match ← messageTarget server msg src callee with
  | none =>
    let _ ← query (store "failed")
    return .ok (plainResponse msg 404 "Not Found")
  | some target =>
    if ← send (.forward msg.callKey) target msg.raw then
      let _ ← query (store "delivered")
      return .ok (plainResponse msg 200 "OK")
    else
      let _ ← query (store "failed")
      return .ok (plainResponse msg 500 "Internal Server Error")

/-- `Proxy::handle_message`. -/
def handleMessage (msg : SipMessage) (src : SocketAddr) : Action (Fallible Str) :=
  let domain := server.cfg.sipDomain
  let sender := (headerUser msg.fromHeader).getD []
  let callee := ((msg.requestUri.bind uriUsername).filter (· ≠ [])).getD
    ((headerUser msg.toHeader).getD [])
  if sender = [] then return .ok (plainResponse msg 400 "Bad Request")
  else do
    match ← query (.accountEnabled sender domain) with
    | .error error => return .error error
    | .ok false => return .ok (plainResponse msg 403 "Forbidden")
    | .ok true =>
      match ← refreshSenderRegistrationSource server sender domain src with
      | .error error => return .error error
      | .ok _ =>
        if callee = [] then return .ok (plainResponse msg 400 "Bad Request")
        else deliverMessage server msg src sender callee

end Sip3.Proxy
