import Sip3.Server.Action
import Sip3.Message.Forwarding

/-!
# The conference endpoint

`conference.rs`: calls to a conference room end at the server. A participant is
entered under its room and Call-ID; `*6` sent as INFO toggles its mute state.
-/

namespace Sip3.Conference

open Text Semantics Sip3.Action

variable (server : Server)

/-- `validate_conference_extension`. -/
def validateConferenceExtension (extension : Str) : Bool :=
  decide (Str.byteLength extension = 9) && extension.all Char.isDigit

/-- `Conference::lookup_room`: the row id and `max_participants`. -/
def lookupRoom (extension domain : Str) : Action (Option (Nat × Nat)) :=
  if validateConferenceExtension extension then do
    match ← query (.conferenceRoom extension domain) with
    | .ok row => return row
    | .error _ => return none
  else return none

/-- `extract_pin_from_uri`. -/
def extractPinFromUri (uri : Str) : Option Str :=
  (Str.split ';' uri).tail.findSome? fun param =>
    match Str.splitOnce '=' param with
    | some (key, value) => if Str.trim key = "pin".toList then some (Str.trim value) else none
    | none => none

/-- `with_to_tag`. -/
def withToTag (toValue tag : Str) : Str :=
  if toValue = [] then ";tag=".toList ++ tag
  else if Str.containsStr (server.platform.toLowercase toValue) ";tag=".toList then toValue
  else toValue ++ ";tag=".toList ++ tag

/-- The response to an INVITE whose PIN is missing or wrong. -/
def pinRejection (msg : SipMessage) : Option Str → Option Str
  | none => none
  | some expectedHash =>
    match extractPinFromUri (msg.requestUri.getD []) with
    | some pin =>
      if (server.platform.bcryptVerify pin expectedHash).getD false then none
      else some (plainResponse msg 403 "Forbidden - Invalid PIN")
    | none => some (plainResponse msg 403 "Forbidden - PIN Required")

/-- The part of `handle_invite` after the participant has joined on a port. -/
def enterConference (msg : SipMessage) (src : SocketAddr) (roomId : Nat) (caller : Str)
    (negotiation : Negotiation) (relayPort : Nat) : Action (Fallible Str) := do
  let callId := msg.callKey
  let extension := (uriUsername (msg.requestUri.getD [])).getD []
  let sessionId ← ask .clock
  let answer := buildConferenceAnswer server.cfg.publicIp relayPort negotiation sessionId
  let inserted ← query (.insertParticipant roomId callId caller (server.platform.ipText src.ip)
    src.port relayPort negotiation.codec)
  let participantDbId := match inserted with
    | .ok rowId => if rowId > 0 then some rowId else none
    | .error _ => none
  let toTag := "conf-".toList ++ Str.ofHex 0 sessionId
  let contact := "<sip:".toList ++ extension ++ '@' :: server.cfg.publicIp ++
    ':' :: Str.ofNat server.cfg.sipPort ++ ">".toList
  let _ ← insertConference callId
    ⟨roomId, extension, server.cfg.sipDomain, caller, toTag, participantDbId⟩
  return .ok ((((baseResponseWithTo msg 200 "OK".toList
    (withToTag server (msg.toHeader.getD []) toTag)).header "Contact".toList contact).header
      "Content-Type".toList "application/sdp".toList).header "Allow".toList
        "INVITE, ACK, CANCEL, BYE, INFO".toList |>.withBody answer).build

/-- The part of `handle_invite` after the room has space: `ConferenceMedia::join`. -/
def joinRoom (msg : SipMessage) (src : SocketAddr) (roomId : Nat) (caller : Str) :
    Action (Fallible Str) :=
  match negotiateConferenceOffer msg.body with
  | none => return .ok (plainResponse msg 488 "Not Acceptable Here")
  | some negotiation => do
      match ← ask .bindConferencePort with
      | .error _ => return .ok (plainResponse msg 500 "Internal Server Error")
      | .ok relayPort =>
        let _ ← inRooms (.join roomId msg.callKey
          ⟨relayPort, negotiation.codec, negotiation.audioPt, negotiation.telephoneEventPt, false,
            none⟩)
        enterConference server msg src roomId caller negotiation relayPort

/-- The part of `handle_invite` after the caller is known. The count of participants is
compared as the `u64` its bits stand for. -/
def enterRoom (msg : SipMessage) (src : SocketAddr) (roomId maxParticipants : Nat) (caller : Str) :
    Action (Fallible Str) := do
  match ← query (.roomPinHash roomId) with
  | .error error => return .error error
  | .ok pinHash =>
    match pinRejection server msg pinHash with
    | some response => return .ok response
    | none =>
      match ← query (.roomActiveCount roomId) with
      | .error error => return .error error
      | .ok count =>
        if (count % 2 ^ 64).toNat ≥ maxParticipants then
          return .ok (plainResponse msg 486 "Busy Here")
        else joinRoom server msg src roomId caller

/-- `Conference::handle_invite`. -/
def handleInvite (msg : SipMessage) (src : SocketAddr) (roomId maxParticipants : Nat) :
    Action (Fallible Str) :=
  let caller := (headerUser msg.fromHeader).getD "unknown".toList
  if msg.callKey = [] then return .ok (plainResponse msg 400 "Bad Request")
  else do
    let _ ← getConference msg.callKey
    if caller = "unknown".toList then return .ok (plainResponse msg 403 "Forbidden")
    else
      match ← query (.accountEnabled caller server.cfg.sipDomain) with
      | .error error => return .error error
      | .ok false => return .ok (plainResponse msg 403 "Forbidden")
      | .ok true => enterRoom server msg src roomId maxParticipants caller

/-- `Conference::handle_bye`, which `handle_cancel` also calls. -/
def handleBye (msg : SipMessage) : Action (Fallible Str) := do
  match ← removeConference msg.callKey with
  | none => return .ok (plainResponse msg 200 "OK")
  | some call =>
    let _ ← inRooms (.leave call.roomId msg.callKey)
    let _ ← query (.participantLeft msg.callKey)
    return .ok (plainResponse msg 200 "OK")

/-- `Conference::handle_cancel`. -/
def handleCancel (msg : SipMessage) : Action (Fallible Str) :=
  handleBye msg

/-- The RFC 4733 event of the first `Signal=` line of a body. -/
def star6Event (body : Str) : Option Nat :=
  let signal := (Str.lines body).findSome? fun line =>
    let trimmed := Str.trim line
    (Str.stripLead trimmed "Signal=".toList).or (Str.stripLead trimmed "signal=".toList)
  match signal.map Str.trim with
  | some ('*' :: _) => some 10
  | some ('#' :: _) => some 11
  | some (char :: _) => if char.isDigit then some (char.toNat - '0'.toNat) else none
  | _ => none

/-- `parse_dtmf_relay_for_star6`. The participant is looked up and its `*6` state is
changed in one step. -/
def parseDtmfRelayForStar6 (body : Str) (roomId : Nat) (callId : CallId) :
    Action (Option Bool) :=
  match star6Event body with
  | none => return none
  | some event => do
      let now ← ask .instant
      inRooms (.recordDtmf roomId callId event now)

/-- `Conference::handle_info`. -/
def handleInfo (msg : SipMessage) : Action (Fallible Str) :=
  let contentType := server.platform.toLowercase ((msg.value "content-type".toList).getD [])
  if !Str.containsStr contentType "application/dtmf-relay".toList ∧
      !Str.containsStr contentType "application/dtmf".toList then
    return .ok (plainResponse msg 200 "OK")
  else do
    match ← getConference msg.callKey with
    | none => return .ok (plainResponse msg 481 "Call/Transaction Does Not Exist")
    | some call =>
      match ← parseDtmfRelayForStar6 msg.body call.roomId msg.callKey with
      | none => return .ok (plainResponse msg 200 "OK")
      | some nowMuted =>
        let _ ← query (.participantMuted msg.callKey nowMuted)
        return .ok (plainResponse msg 200 "OK")

end Sip3.Conference
