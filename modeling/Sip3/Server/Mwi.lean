import Sip3.Server.Action
import Sip3.Message.Forwarding

/-!
# Message-waiting subscriptions

`voicemail_mwi.rs`: subscriptions to a mailbox and the NOTIFY requests sent to
the subscribers. Subscriptions live in the database.
-/

namespace Sip3.Mwi

open Text Semantics Sip3.Action

variable (server : Server)

/-- `extract_param` of a header. -/
def extractParam (header name : Str) : Option Str :=
  (Str.split ';' header).tail.findSome? fun part =>
    match Str.splitOnce '=' (Str.trim part) with
    | some (key, value) =>
      if Str.eqIgnoreAsciiCase (Str.trim key) name then some (Str.trimMatches '"' (Str.trim value))
      else none
    | none => none

/-- `registered_source_matches`. -/
def registeredSourceMatches (registeredIp : Str) (registeredPort : Nat) (src : SocketAddr) : Bool :=
  decide (server.platform.parseIpAddr registeredIp = some src.ip) &&
    decide (registeredPort = src.port.toNat)

/-- `subscriber_source_is_registered`, and `caller_source_is_registered` of voicemail. -/
def sourceIsRegistered (username domain : Str) (src : SocketAddr) : Action (Fallible Bool) := do
  match ← query (.registrationSources username domain) with
  | .error error => return .error error
  | .ok rows => return .ok (rows.any fun row => registeredSourceMatches server row.1 row.2 src)

/-- `build_message_summary_body`. -/
def buildMessageSummaryBody (username domain : Str) (newCount savedCount : Int) : Str :=
  "Messages-Waiting: ".toList ++ (if newCount > 0 then "yes".toList else "no".toList) ++
    "\r\nMessage-Account: sip:".toList ++ username ++ '@' :: domain ++
    "\r\nVoice-Message: ".toList ++ Str.ofInt newCount ++ '/' :: Str.ofInt savedCount ++
    " (0/0)\r\n".toList

/-- `mwi_server_tag`. -/
def mwiServerTag (callId : Str) : Str :=
  "sip3-mwi-".toList ++ (server.platform.sha1Hex callId).take 16

/-- `mwi_subscribe_to_header`. -/
def mwiSubscribeToHeader (toValue callId : Str) : Str :=
  if Str.containsStr (Str.toAsciiLowercase toValue) ";tag=".toList then toValue
  else toValue ++ ";tag=".toList ++ mwiServerTag server callId

/-- `build_notify`. -/
def buildNotify (username domain : Str) (row : MwiRow) (cseq : Nat) (newCount savedCount : Int) :
    Str :=
  let body := buildMessageSummaryBody username domain newCount savedCount
  let fromTag := mwiServerTag server row.callId
  let aor := "sip:".toList ++ username ++ '@' :: domain
  "NOTIFY ".toList ++ aor ++ " SIP/2.0\r\nVia: SIP/2.0/UDP ".toList ++ domain ++
    ";branch=z9hG4bK-vm-".toList ++ fromTag ++ '-' :: Str.ofNat cseq ++
    "\r\nMax-Forwards: 70\r\nFrom: <".toList ++ aor ++ ">;tag=".toList ++ fromTag ++
    "\r\nTo: <".toList ++ aor ++ ">;tag=".toList ++ row.tag ++ "\r\nCall-ID: ".toList ++
    row.callId ++ "\r\nCSeq: ".toList ++ Str.ofNat cseq ++
    (" NOTIFY\r\nEvent: message-summary\r\nSubscription-State: active\r\n" ++
      "Content-Type: application/simple-message-summary\r\nContent-Length: ").toList ++
    Str.ofNat (Str.byteLength body) ++ "\r\n\r\n".toList ++ body

/-- The loop of `notify_mailbox` over the subscriptions. -/
def notifySubscribers (username domain : Str) (newCount savedCount : Int) :
    List MwiRow → Action (Fallible Unit)
  | [] => return .ok ()
  | row :: rest =>
    let nextCseq := (row.cseq + 1) % 2 ^ 32
    match server.platform.parseSocketAddr (Sdp.hostPort row.ip row.port) with
    | none => return .error .addressSyntax
    | some addr => do
        if ← send .notify addr
            (buildNotify server username domain row nextCseq newCount savedCount) then
          match ← query (.mwiSetCseq nextCseq username domain row.callId) with
          | .error error => return .error error
          | .ok _ => notifySubscribers username domain newCount savedCount rest
        else notifySubscribers username domain newCount savedCount rest

/-- `notify_mailbox`. -/
def notifyMailbox (username domain : Str) : Action (Fallible Unit) := do
  match ← query (.mwiCounts username domain) with
  | .error error => return .error error
  | .ok counts =>
    let (newCount, savedCount) := counts.getD (0, 0)
    let _ ← query (.webhook "voicemail.mwi".toList)
    match ← query (.mwiSubscriptions username domain) with
    | .error error => return .error error
    | .ok rows => notifySubscribers server username domain newCount savedCount rows

/-- `VoicemailMwi::handle_subscribe`. -/
def handleSubscribe (msg : SipMessage) (src : SocketAddr) : Action (Fallible Str) :=
  let event := server.platform.toLowercase ((msg.value "event".toList).getD [])
  if Str.trim ((Str.split ';' event).headD []) ≠ "message-summary".toList then
    return .ok (plainResponse msg 489 "Bad Event")
  else
    let fromValue := msg.fromHeader.getD []
    let subscriber := (headerUser msg.fromHeader).getD []
    if subscriber = [] then return .ok (plainResponse msg 400 "Bad Request")
    else do
      let domain := server.cfg.sipDomain
      let callId := msg.callKey
      let expires := msg.expires.getD 3600
      let accepted (granted : Nat) : Str :=
        ((baseResponseWithTo msg 200 "OK".toList
          (mwiSubscribeToHeader server (msg.toHeader.getD []) callId)).header "Contact".toList
            ("<sip:".toList ++ subscriber ++ '@' :: server.cfg.publicIp ++
              ':' :: Str.ofNat server.cfg.sipPort ++ ">".toList) |>.header
            "Expires".toList (Str.ofNat granted)).build
      match ← sourceIsRegistered server subscriber domain src with
      | .error error => return .error error
      | .ok false => return .ok (plainResponse msg 403 "Forbidden")
      | .ok true =>
        if expires = 0 then
          match ← query (.mwiDelete subscriber domain callId) with
          | .error error => return .error error
          | .ok _ => return .ok (accepted 0)
        else
          match ← query (.mwiUpsert subscriber domain callId
              ((extractParam fromValue "tag".toList).getD [])
              (server.platform.ipText src.ip) src.port expires) with
          | .error error => return .error error
          | .ok _ =>
            let _ ← spawn (.notifyMailbox subscriber domain)
            return .ok (accepted expires)

end Sip3.Mwi
