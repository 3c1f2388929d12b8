import Sip3.Server.Mwi

/-!
# The voicemail endpoint

`voicemail.rs`: delivery of a call to a mailbox, access to the mailbox, and the
no-answer timer that hands an unanswered call over to delivery. The timer and the
recording run as tasks of their own next to the handlers.
-/

namespace Sip3.Voicemail

open Text Semantics Sip3.Action

variable (server : Server)

/-- `is_voicemail_access_target`. -/
def isVoicemailAccessTarget (target accessExtension : Str) : Bool :=
  target = accessExtension

/-- `is_message_summary_event`. -/
def isMessageSummaryEvent (event : Option Str) : Bool :=
  event.any fun value =>
    ((Str.split ';' value).head?).any fun token =>
      Str.eqIgnoreAsciiCase (Str.trim token) "message-summary".toList

/-- `Voicemail::is_access_invite`. -/
def isAccessInvite (msg : SipMessage) : Bool :=
  msg.method = some "INVITE".toList &&
    (msg.requestUri.bind uriUsername).any fun target =>
      isVoicemailAccessTarget target server.cfg.voicemailAccessExtension

/-- `lookup_enabled_box`. A failed query counts as no mailbox. -/
def lookupEnabledBox (username domain : Str) : Action (Option MailboxSettings) := do
  match ← query (.voicemailBox username domain) with
  | .ok row => return row
  | .error _ => return none

/-- `list_messages_for_mailbox`. -/
def listMessagesForMailbox (boxId : Nat) : Action (List VoicemailMessage) := do
  match ← query (.boxMessages boxId) with
  | .ok messages => return messages
  | .error _ => return []

/-- `delivery_caller`. -/
def deliveryCaller (fromValue : Option Str) : Option Str :=
  (headerUser fromValue).filter (· ≠ "unknown".toList)

/-- Where `has_outer_tag_param` stands in an address. -/
structure TagScan where
  inAngle : Bool
  inQuote : Bool
  escaped : Bool
  outside : Str

/-- One character of `has_outer_tag_param`. -/
def TagScan.read (scan : TagScan) (char : Char) : TagScan :=
  if scan.inQuote then
    if scan.escaped then { scan with escaped := false }
    else if char = '\\' then { scan with escaped := true }
    else if char = '"' then { scan with inQuote := false }
    else scan
  else if scan.inAngle then
    if char = '>' then { scan with inAngle := false } else scan
  else if char = '"' then { scan with inQuote := true }
  else if char = '<' then { scan with inAngle := true }
  else { scan with outside := scan.outside ++ [char] }

/-- `has_outer_tag_param`. -/
def hasOuterTagParam (toValue : Str) : Bool :=
  Str.containsStr
    (Str.toAsciiLowercase (toValue.foldl TagScan.read ⟨false, false, false, []⟩).outside)
    ";tag=".toList

/-- `with_to_tag`. -/
def withToTag (toValue tag : Str) : Str :=
  if hasOuterTagParam toValue then toValue else toValue ++ ";tag=".toList ++ tag

/-- `VoicemailMedia::allocate`: the port of the new session. -/
def allocateMedia (callId : CallId) (negotiation : Negotiation) : Action (Fallible Nat) :=
  if negotiation.audioPt > 127 ∨ negotiation.telephoneEventPt.any (· > 127) then
    return .error .media
  else do
    match ← ask .bindVoicemailPort with
    | .error error => return .error error
    | .ok port =>
      match ← registerVoicemailMedia callId
          ⟨port, negotiation.codec, negotiation.audioPt, negotiation.telephoneEventPt⟩ with
      | some _ => return .error .media
      | none => return .ok port

/-- `build_local_ok`. -/
def buildLocalOk (msg : SipMessage) (localUser : Str) (relayPort : Nat)
    (negotiation : Negotiation) : Action Str := do
  let sessionId ← ask .randomId
  let answer := buildVoicemailAnswer server.cfg.publicIp relayPort negotiation sessionId
  let toWithTag := withToTag (msg.toHeader.getD []) ("vm-".toList ++ Str.ofHex 0 sessionId)
  let contact := "<sip:".toList ++ localUser ++ '@' :: server.cfg.publicIp ++
    ':' :: Str.ofNat server.cfg.sipPort ++ ">".toList
  return ((((baseResponseWithTo msg 200 "OK".toList toWithTag).header "Contact".toList
    contact).header "Content-Type".toList "application/sdp".toList).header "Allow".toList
      "INVITE, ACK, CANCEL, BYE, INFO".toList |>.withBody answer).build

/-- `mailbox_is_full`. -/
def mailboxIsFull (boxId maxMessages : Nat) : Action (Fallible Bool) := do
  match ← query (.boxMessageCount boxId) with
  | .error error => return .error error
  | .ok count => return .ok (decide (count ≥ maxMessages))

/-- Release the recording candidate and answer. -/
def discardAnd {α : Type} (callId : CallId) (result : α) : Action α := do
  let _ ← discardRecordingCandidate callId
  return result

/-- The part of `handle_delivery_invite` after a tracked candidate has a caller and a
mailbox with room. -/
def recordDelivery (msg : SipMessage) (callee caller : Str) (settings : MailboxSettings) :
    Action (Fallible Str) :=
  let callId := msg.callKey
  match negotiateVoicemailOffer msg.body with
  | none => discardAnd callId (.ok (plainResponse msg 488 "Not Acceptable Here"))
  | some negotiation => do
      match ← allocateMedia callId negotiation with
      | .error _ => discardAnd callId (.ok (plainResponse msg 500 "Internal Server Error"))
      | .ok relayPort =>
        let response ← buildLocalOk server msg callee relayPort negotiation
        let _ ← insertVoicemailCall callId
          ⟨.recording settings.id settings.username, caller, callee, []⟩
        let _ ← spawn (.recording ⟨callId, settings.id, settings.username, server.cfg.sipDomain,
          caller, callee, settings.maxMessageSecs⟩)
        return .ok response

/-- The part of `handle_delivery_invite` after the candidate is tracked. -/
def deliverTracked (msg : SipMessage) (callee : Str) : Action (Fallible Str) :=
  let callId := msg.callKey
  let domain := server.cfg.sipDomain
  match deliveryCaller msg.fromHeader with
  | none => discardAnd callId (.ok (plainResponse msg 400 "Bad Request"))
  | some caller => do
      match ← query (.accountEnabled caller domain) with
      | .error error => discardAnd callId (.error error)
      | .ok false => discardAnd callId (.ok (plainResponse msg 403 "Forbidden"))
      | .ok true =>
        match ← lookupEnabledBox callee domain with
        | none => discardAnd callId (.ok (plainResponse msg 404 "Not Found"))
        | some settings =>
          match ← mailboxIsFull settings.id settings.maxMessages with
          | .error error => discardAnd callId (.error error)
          | .ok true => discardAnd callId (.ok (plainResponse msg 486 "Busy Here"))
          | .ok false => recordDelivery server msg callee caller settings

/-- `Voicemail::handle_delivery_invite`. -/
def handleDeliveryInvite (msg : SipMessage) (callee : Str) : Action (Fallible Str) :=
  let callId := msg.callKey
  if callId = [] ∨ callee = [] then return .ok (plainResponse msg 400 "Bad Request")
  else do
    if ← trackRecordingCandidate callId then deliverTracked server msg callee
    else return .ok (plainResponse msg 491 "Request Pending")

/-- Release the access candidate and answer. -/
def discardAccessAnd {α : Type} (callId : CallId) (result : α) : Action α := do
  let _ ← discardAccessCandidate callId
  return result

/-- `track_access_candidate`. -/
def trackAccessCandidate (callId : CallId) : Action Bool := do
  match ← getVoicemailCall callId with
  | some _ => return false
  | none => insertAccessPending callId

/-- The part of `handle_access_invite` after the caller's source is known. -/
def openAccess (msg : SipMessage) (caller : Str) (settings : MailboxSettings) :
    Action (Fallible Str) :=
  let callId := msg.callKey
  match negotiateVoicemailOffer msg.body with
  | none => discardAccessAnd callId (.ok (plainResponse msg 488 "Not Acceptable Here"))
  | some negotiation => do
      match ← allocateMedia callId negotiation with
      | .error _ => discardAccessAnd callId (.ok (plainResponse msg 500 "Internal Server Error"))
      | .ok relayPort =>
        let response ← buildLocalOk server msg server.cfg.voicemailAccessExtension relayPort
          negotiation
        if settings.pinHash.any (· ≠ []) then
          let _ ← insertVoicemailCall callId
            ⟨.pinEntry settings.id caller, caller, settings.username, []⟩
          discardAccessAnd callId (.ok response)
        else
          let messages ← listMessagesForMailbox settings.id
          let _ ← insertVoicemailCall callId
            ⟨.playback caller settings.id messages 0, caller, settings.username, []⟩
          let _ ← discardAccessCandidate callId
          match settings.greetingStorageKey with
          | some greetingKey =>
            let _ ← spawn (.playWav callId greetingKey)
            return .ok response
          | none => return .ok response

/-- The part of `handle_access_invite` after the candidate is tracked. A failed query for
the caller's source leaves the candidate pending. -/
def accessTracked (msg : SipMessage) (src : SocketAddr) : Action (Fallible Str) :=
  let callId := msg.callKey
  let domain := server.cfg.sipDomain
  let caller := (headerUser msg.fromHeader).getD []
  if caller = [] then discardAccessAnd callId (.ok (plainResponse msg 400 "Bad Request"))
  else do
    match ← lookupEnabledBox caller domain with
    | none => discardAccessAnd callId (.ok (plainResponse msg 404 "Not Found"))
    | some settings =>
      match ← Mwi.sourceIsRegistered server caller domain src with
      | .error error => return .error error
      | .ok false => discardAccessAnd callId (.ok (plainResponse msg 403 "Forbidden"))
      | .ok true => openAccess server msg caller settings

/-- `Voicemail::handle_access_invite`. -/
def handleAccessInvite (msg : SipMessage) (src : SocketAddr) : Action (Fallible Str) :=
  let callId := msg.callKey
  if !isAccessInvite server msg then return .ok (plainResponse msg 404 "Not Found")
  else if callId = [] then return .ok (plainResponse msg 400 "Bad Request")
  else do
    if ← trackAccessCandidate callId then accessTracked server msg src
    else return .ok (plainResponse msg 491 "Request Pending")

/-- `Voicemail::handle_ack`. -/
def handleAck (msg : SipMessage) : Action Unit := do
  let _ ← cancelNoAnswerTimer msg.callKey
  return ()

/-- The steps with which both `handle_bye` and `handle_cancel` end. -/
def endCall (msg : SipMessage) : Action (Fallible Str) := do
  let _ ← removeVoicemailCall msg.callKey
  let _ ← cancelNoAnswerTimer msg.callKey
  let _ ← removeVoicemailMedia msg.callKey
  return .ok (plainResponse msg 200 "OK")

/-- `Voicemail::handle_bye`. -/
def handleBye (msg : SipMessage) : Action (Fallible Str) :=
  endCall msg

/-- `Voicemail::handle_cancel`. It cancels the timer as any other handler does, which a
timer that is firing survives. -/
def handleCancel (msg : SipMessage) : Action (Fallible Str) :=
  if msg.callKey = [] then endCall msg
  else do
    let _ ← markRecordingCanceled msg.callKey
    endCall msg

/-- `start_no_answer_timer`: the task is spawned, and then its entry is armed. -/
def startNoAnswerTimer (timer : TimerStart) : Action Unit :=
  let callId := timer.msg.callKey
  if callId = [] ∨ timer.callee = [] then return ()
  else do
    let handle ← spawn (.noAnswerTimer timer)
    armNoAnswerTimer callId handle

/-- `cleanup_suppressed_no_answer_delivery`. -/
def cleanupSuppressedNoAnswerDelivery (callId : CallId) : Action Unit := do
  let _ ← markRecordingCanceled callId
  let _ ← removeVoicemailCall callId
  let _ ← removeVoicemailMedia callId
  return ()

/-- The response the timer task sends when delivery returned. -/
def noAnswerResponse (msg : SipMessage) : Fallible Str → Str
  | .ok response => response
  | .error _ => plainResponse msg 500 "Internal Server Error"

/-- The timer task from the first check on. -/
def handOver (timer : TimerStart) : Action Unit := do
  let callId := timer.msg.callKey
  if ← noAnswerTimerShouldContinue callId then
    let delivered ← handleDeliveryInvite server timer.msg timer.callee
    if ← noAnswerTimerShouldContinue callId then
      let _ ← send (.timerAnswer callId) timer.src (noAnswerResponse timer.msg delivered)
      finishNoAnswerTimer callId
    else
      cleanupSuppressedNoAnswerDelivery callId
      finishNoAnswerTimer callId
  else finishNoAnswerTimer callId

/-- The task `start_no_answer_timer` spawns. -/
def noAnswerTimer (timer : TimerStart) : Action Unit := do
  let callId := timer.msg.callKey
  let _ ← ask (.sleep (max timer.noAnswerSecs 1))
  if ← claimNoAnswerTimerToFire callId then
    let _ ← send (.timerCancel callId) timer.targetAddr
      (buildForwardedCancelForTarget server.platform timer.msg timer.targetUri
        (timer.msg.maxForwards - 1) server.cfg.sipDomain)
    let _ ← removePending callId
    let _ ← removeDialog callId
    let _ ← removeMedia callId
    let _ ← webrtc (.remove callId)
    handOver server timer
  else return ()

/-- `MAX_RECORD_SAMPLES`. -/
def maxRecordSamples : Nat := 10000000

/-- `record_to_storage`: the storage key and the duration. The samples are recorded until
the session is removed, so the recording itself is one step. -/
def recordToStorage (start : RecordingStart) : Action (Fallible (Str × Nat)) := do
  match ← getVoicemailMedia start.callId with
  | none => return .error .noActiveMedia
  | some _ =>
    if start.maxMessageSecs = 0 ∨ start.maxMessageSecs * 8000 > maxRecordSamples then
      return .error .media
    else
      ask (.recordAudio start.callId start.mailbox start.maxMessageSecs
        server.cfg.voicemailIdleTimeoutSecs)

/-- The end of the recording task: store the message and notify, or remove the audio. -/
def storeRecording (start : RecordingStart) (shouldPersist : Bool) (storageKey : Str)
    (durationSecs : Nat) : Action Unit := do
  if !shouldPersist ∨ durationSecs = 0 then
    let _ ← ask (.deleteAudio storageKey)
    return ()
  else
    match ← query (.insertVoicemail start.boxId start.caller start.callee start.callId durationSecs
        storageKey) with
    | .error _ =>
      let _ ← ask (.deleteAudio storageKey)
      return ()
    | .ok _ =>
      let _ ← Mwi.notifyMailbox server start.callee start.domain
      return ()

/-- The task `spawn_recording_task` spawns. -/
def recordingTask (start : RecordingStart) : Action Unit := do
  let result ← recordToStorage server start
  let _ ← removeVoicemailCall start.callId
  let _ ← removeVoicemailMedia start.callId
  let shouldPersist ← shouldPersistRecording start.callId
  match result with
  | .error _ => return ()
  | .ok (storageKey, durationSecs) =>
    storeRecording server start shouldPersist storageKey durationSecs

/-- `play_wav` as a task. -/
def playWav (callId : CallId) (storageKey : Str) : Action Unit := do
  match ← getVoicemailMedia callId with
  | none => return ()
  | some _ =>
    let _ ← ask (.playAudio callId storageKey)
    return ()

end Sip3.Voicemail
